/-
Module: RuntimeConsole.Config.Settings
Purpose: What can be configured, with the values that hold when nothing is.
Main exports:
  ConsoleStyle, CursorStyle, Settings, BootSettings, Config, Config.validate
-/
import RuntimeConsole.Failure
import RuntimeConsole.Text.Blank
import RuntimeConsole.Text.Digit

namespace RuntimeConsole

/-- Which console is shown. -/
inductive ConsoleStyle where
  | replBased
  /-- Another console; this one stays inactive. -/
  | legacy
deriving Repr, DecidableEq, Inhabited

/-- The shape of a cursor. -/
inductive CursorStyle where
  | block
  | underline
  | bar
deriving Repr, DecidableEq, Inhabited

/-- The settings of the console, which may change while it runs. -/
structure Settings where
  style : ConsoleStyle
  /-- The number of lines kept after they left the screen. -/
  scrollback : Nat
  cursorStyle : CursorStyle
  /-- The prompt of the runtime, without the blank that follows it. -/
  prompt : String
  /-- The shell auxiliary terminals run. -/
  shell : String
  /-- Keystrokes the terminal of the runtime leaves to the editor. -/
  replKeystrokes : List String
  /-- Keystrokes auxiliary terminals leave to the editor. -/
  auxiliaryKeystrokes : List String
  /-- Milliseconds without a change before a change of module is reported. -/
  moduleDebounce : Nat
deriving Repr, DecidableEq, Inhabited

/-- The settings that hold when nothing is configured, given the user's login
shell. -/
def Settings.standard (loginShell : String) : Settings where
  style := .replBased
  scrollback := 5000
  cursorStyle := .block
  prompt := "julia>"
  shell := loginShell
  replKeystrokes := ["Ctrl-C", "Ctrl-V", "Ctrl-Shift-P"]
  auxiliaryKeystrokes := ["Ctrl-Shift-C", "Ctrl-Shift-V"]
  moduleDebounce := 200

/-- How the runtime is started. -/
structure BootSettings where
  command : String
  args : List String
  /-- Milliseconds the runtime may take to connect. -/
  connectTimeout : Nat
deriving Repr, DecidableEq, Inhabited

namespace BootSettings

/-- The runtime that is started when nothing is configured. -/
def standard : BootSettings where
  command := "julia"
  args := ["-i", "-e", "using Atom; Atom.connect(\x7bport\x7d)"]
  connectTimeout := 30000

/-- What stands for the port in the arguments. -/
def portMark : String := "\x7bport\x7d"

/-- The arguments of the runtime that is to connect to a port. -/
def argsForPort (settings : BootSettings) (port : UInt16) : List String :=
  settings.args.map fun arg =>
    String.ofList (Text.replace portMark.toList (Text.showNat port.toNat) arg.toList)

end BootSettings

/-- The whole configuration. -/
structure Config where
  console : Settings
  boot : BootSettings
  logLevel : String
deriving Repr, DecidableEq, Inhabited

namespace Config

/-- The configuration that holds when nothing is configured, given the user's
login shell. -/
def standard (loginShell : String) : Config :=
  ⟨.standard loginShell, .standard, "info"⟩

/-- The first thing in a configuration that cannot work. -/
def validate (config : Config) : Except Failure Unit :=
  if config.console.scrollback = 0 then
    .error (.configuration "console.scrollback must be > 0")
  else if Text.isBlankText config.console.shell.toList then
    .error (.configuration "console.shell cannot be empty")
  else if Text.isBlankText config.boot.command.toList then
    .error (.configuration "boot.command cannot be empty")
  else .ok ()

end Config

end RuntimeConsole
