/-
Module: RuntimeConsole.Failure
Purpose: The causes for which an operation of the console can fail, and the
  wording of each.
Main exports:
  Failure, Failure.message, Failure.isDisconnect
-/

namespace RuntimeConsole

/-- Why an operation failed. -/
inductive Failure where
  /-- The connection ended before the call was answered. -/
  | disconnected (call : String)
  /-- The runtime answered the call with an error. -/
  | remote (call : String) (reason : String)
  /-- The runtime asked for something nobody handles. -/
  | unknownHandler (name : String)
  /-- The user chose nothing. -/
  | cancelled
  /-- A process stream refused an operation. -/
  | stream (reason : String)
  /-- A process could not be started. -/
  | spawn (command : String) (reason : String)
  | terminalNotFound (id : String)
  | invalidKey (keystroke : String)
  /-- The operating system refused an operation. -/
  | inputOutput (reason : String)
  | configuration (reason : String)
  /-- A value does not have the form asked of it. -/
  | serialization (reason : String)
  | invalidInput (reason : String)
deriving Repr, DecidableEq, Inhabited

namespace Failure

/-- The wording of a failure. -/
def message : Failure → String
  | disconnected call => s!"Remote process disconnected before `{call}` completed"
  | remote call reason => s!"Remote call `{call}` failed: {reason}"
  | unknownHandler name => s!"No handler registered for `{name}`"
  | cancelled => "Selection cancelled"
  | stream reason => s!"PTY error: {reason}"
  | spawn command reason => s!"Failed to spawn `{command}`: {reason}"
  | terminalNotFound id => s!"Terminal not found: {id}"
  | invalidKey keystroke => s!"Invalid key: {keystroke}"
  | inputOutput reason => s!"IO error: {reason}"
  | configuration reason => s!"Configuration error: {reason}"
  | serialization reason => s!"Serialization error: {reason}"
  | invalidInput reason => s!"Invalid input: {reason}"

/-- Whether the failure is an ordinary consequence of the runtime going away. -/
def isDisconnect : Failure → Bool
  | disconnected _ => true
  | _ => false

end Failure

end RuntimeConsole
