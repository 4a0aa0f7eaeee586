/-
Module: RuntimeConsole.Keyboard.AllowList
Purpose: Keystrokes the editor keeps for itself.
Main exports:
  AllowList, Verdict, AllowList.verdict, TerminalClass, AllowLists
-/
import RuntimeConsole.Keyboard.Keystroke

namespace RuntimeConsole

/-- Keystrokes reserved for the editor, in lower case and each once. -/
structure AllowList where
  keystrokes : List String
deriving Repr, DecidableEq, Inhabited

/-- Where a key event goes. -/
inductive Verdict where
  /-- The terminal takes it. -/
  | pass
  /-- It is left to the editor. -/
  | forward
deriving Repr, DecidableEq, Inhabited

namespace AllowList

/-- Lower case of a string. -/
def lowerString (text : String) : String :=
  String.ofList (Text.lower text.toList)

/-- The list with the given keystrokes, in any case. -/
def ofList (keystrokes : List String) : AllowList :=
  ⟨(keystrokes.map lowerString).eraseDups⟩

/-- The list without keystrokes. -/
def empty : AllowList := ⟨[]⟩

/-- Whether a keystroke is on the list, in any case. -/
def contains (list : AllowList) (keystroke : String) : Bool :=
  list.keystrokes.contains (lowerString keystroke)

/-- The number of keystrokes. -/
def size (list : AllowList) : Nat :=
  list.keystrokes.length

/-- Where a keystroke goes. -/
def verdict (list : AllowList) (keystroke : String) : Verdict :=
  if list.contains keystroke then .forward else .pass

end AllowList

/-- The two kinds of terminals, each with an allow-list of its own. -/
inductive TerminalClass where
  /-- The terminal of the runtime. -/
  | repl
  /-- Terminals of auxiliary shells. -/
  | auxiliary
deriving Repr, DecidableEq, Inhabited

/-- An allow-list for each kind of terminal. -/
structure AllowLists where
  repl : AllowList
  auxiliary : AllowList
deriving Repr, DecidableEq, Inhabited

namespace AllowLists

/-- The list of one kind of terminal. -/
def get (lists : AllowLists) : TerminalClass → AllowList
  | .repl => lists.repl
  | .auxiliary => lists.auxiliary

/-- The lists with that of one kind of terminal replaced. -/
def replace (lists : AllowLists) (kind : TerminalClass) (list : AllowList) : AllowLists :=
  match kind with
  | .repl => { lists with repl := list }
  | .auxiliary => { lists with auxiliary := list }

/-- Whether the terminals of a kind take a key event. -/
def admits (lists : AllowLists) (kind : TerminalClass) (event : KeyEvent) : Bool :=
  (lists.get kind).verdict event.keystroke == .pass

end AllowLists

end RuntimeConsole
