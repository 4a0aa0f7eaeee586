/-
Module: RuntimeConsole.Terminal.Identity
Purpose: The identities of terminals.
Main exports:
  TerminalId, TerminalId.repl, TerminalId.isAuxiliary
-/
import RuntimeConsole.Text.Blank
import RuntimeConsole.Text.Digit

namespace RuntimeConsole

/-- What a terminal is known by, also across restarts. -/
structure TerminalId where
  text : String
deriving Repr, DecidableEq, Inhabited

namespace TerminalId

/-- The terminal of the runtime, of which there is one. -/
def repl : TerminalId := ⟨"julia-terminal"⟩

/-- What the identities of auxiliary terminals begin with. -/
def auxiliaryStart : List Char := "terminal-julia-".toList

/-- The auxiliary terminal with a given number. -/
def auxiliary (n : Nat) : TerminalId :=
  ⟨String.ofList (auxiliaryStart ++ Text.showNat n)⟩

/-- Whether an identity is that of an auxiliary terminal: the common beginning
and decimal digits, of any script, at least one. -/
def isAuxiliary (id : TerminalId) : Bool :=
  match Text.stripPrefix? auxiliaryStart id.text.toList with
  | some digits => !digits.isEmpty && digits.all Text.isDecimalDigit
  | none => false

/-- Whether an identity comes before another one in the order of their bytes,
which is that of their code points. -/
def precedes (first second : TerminalId) : Bool :=
  !decide (second.text < first.text)

end TerminalId

end RuntimeConsole
