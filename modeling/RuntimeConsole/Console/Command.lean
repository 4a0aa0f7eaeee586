/-
Module: RuntimeConsole.Console.Command
Purpose: The commands users give the console by name.
Main exports:
  Command, Command.name, Command.parse
-/
import RuntimeConsole.Failure
import RuntimeConsole.Text.Blank

namespace RuntimeConsole

/-- The commands of the console. -/
inductive Command where
  /-- Show the terminal of the runtime. -/
  | openConsole
  /-- Clear the terminal of the runtime. -/
  | clearConsole
  /-- Copy the selection, or interrupt the runtime if there is none. -/
  | copyOrInterrupt
  /-- Open an auxiliary terminal. -/
  | newTerminal
deriving Repr, DecidableEq, Inhabited

namespace Command

/-- All commands. -/
def all : List Command := [openConsole, clearConsole, copyOrInterrupt, newTerminal]

/-- What the names of all commands begin with. -/
def nameSpace : String := "julia-client:"

/-- The name of a command without what all names begin with. -/
def shortName : Command → String
  | openConsole => "open-console"
  | clearConsole => "clear-console"
  | copyOrInterrupt => "copy-or-interrupt"
  | newTerminal => "new-terminal"

/-- The name of a command. -/
def name (command : Command) : String :=
  nameSpace ++ command.shortName

/-- The command with a given name, in full or without its beginning. -/
def parse (text : String) : Except Failure Command :=
  let short := (Text.stripPrefix? nameSpace.toList text.toList).getD text.toList
  match all.find? fun command => command.shortName.toList == short with
  | some command => .ok command
  | none => .error (.invalidInput s!"unknown command `{text}`")

end Command

/-- The command of the editor that interrupts the runtime. -/
def interruptCommand : String := "julia-client:interrupt-julia"

end RuntimeConsole
