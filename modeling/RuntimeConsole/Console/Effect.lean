/-
Module: RuntimeConsole.Console.Effect
Purpose: What a console does to the world around it, as a record.
Main exports:
  Effect, Outcome, CommandResult
-/
import RuntimeConsole.Failure
import RuntimeConsole.Geometry
import RuntimeConsole.Interchange.Lint
import RuntimeConsole.Remote.Frame
import RuntimeConsole.Terminal.Identity

namespace RuntimeConsole

/-- What came of a command. -/
inductive CommandResult where
  | opened
  | cleared
  | copied (text : String)
  /-- The editor is asked to carry out another command. -/
  | dispatched (command : String)
  | spawned (id : TerminalId)
  | cancelled
deriving Repr, DecidableEq, Inhabited

/-- What came of an operation that may have had to wait. -/
inductive Outcome where
  /-- The runtime answered a call. -/
  | answered (value : Json)
  /-- Whether a link was opened. -/
  | linkOpened (opened : Bool)
  /-- A shell was started. -/
  | shellStarted (cwd : String)
  /-- An auxiliary terminal was opened. -/
  | terminalOpened (id : TerminalId) (cwd : String)
  /-- So many auxiliary terminals were restored. -/
  | restored (count : Nat)
  | executed (result : CommandResult)
  | failed (failure : Failure)
deriving Repr, DecidableEq, Inhabited

/-- What a console does to the world around it. -/
inductive Effect where
  /-- A frame left over a channel. -/
  | sent (channel : Nat) (frame : Frame)
  /-- The console closed its end of a channel. -/
  | hungUp (channel : Nat)
  /-- The runtime was started by the booter with a given label. -/
  | booted (label : Json)
  /-- A launched command was given up because it did not connect. -/
  | reportedFailure (failure : Failure)
  /-- The editor was asked to open a file, as a preview or for good. -/
  | openFile (path : String) (line : UInt32) (preview : Bool)
  /-- The user was asked for a directory and offered some. -/
  | askedDirectory (offered : List String)
  /-- A shell was started, or was tried to be. -/
  | startedShell (shell : String) (size : Size) (cwd : String)
  /-- The view of the variables of the runtime was refreshed. -/
  | refreshedWorkspace
  | showedLint (messages : List LintMessage)
  | clearedLint
  /-- Code of the embedding program handled something the runtime asked for. -/
  | guestHandled (label : Json) (args : List Json)
  /-- It was told that a connection began, and whether it got what the process
  printed early, if it takes that. -/
  | guestSawBoot (label : Json) (early : Option Bool)
  /-- It was told that a connection ended; the rest says whether there was one by
  then and how many calls waited. -/
  | guestSawDetach (label : Json) (connected : Bool) (pending : Nat)
  /-- It was told that a row changed. -/
  | guestSawLine (label : Json) (row : UInt16) (text : List Char)
  /-- It was asked to start a process. -/
  | guestStarted (label : Json)
  /-- It was told about a part of the settings. -/
  | guestSawSetting (label : Json) (value : Json)
  /-- It was told about a module; the rest is the one the indicator showed by
  then. -/
  | guestSawModule (label : Json) (name : String) (current : String)
  /-- Its debounced action ran. -/
  | guestFired (value : Json)
  /-- An operation that may have had to wait is done. -/
  | finished (ticket : Nat) (outcome : Outcome)
deriving Repr, DecidableEq, Inhabited

end RuntimeConsole
