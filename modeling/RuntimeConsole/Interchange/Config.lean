/-
Module: RuntimeConsole.Interchange.Config
Purpose: The forms of the configuration outside: what it is read out of and
  written to.
Main exports:
  Settings.toJson, Settings.read, Config.toJson, Config.read, Config.ofYaml
-/
import RuntimeConsole.Config.Settings
import RuntimeConsole.Json.Decode
import RuntimeConsole.Yaml.Decode

namespace RuntimeConsole

namespace ConsoleStyle

/-- The names of the styles. -/
def names : List (String × ConsoleStyle) :=
  [("repl_based", replBased), ("legacy", legacy)]

def name : ConsoleStyle → String
  | replBased => "repl_based"
  | legacy => "legacy"

def read {Value : Type} [Source Value] : Value → Decoded ConsoleStyle := Source.choose names

end ConsoleStyle

namespace CursorStyle

/-- The names of the shapes. -/
def names : List (String × CursorStyle) :=
  [("block", block), ("underline", underline), ("bar", bar)]

def name : CursorStyle → String
  | block => "block"
  | underline => "underline"
  | bar => "bar"

def read {Value : Type} [Source Value] : Value → Decoded CursorStyle := Source.choose names

end CursorStyle

/-- A sequence of strings. -/
def stringsToJson (strings : List String) : Json :=
  .arr (strings.map Json.str)

namespace Settings

/-- The names of the settings, in their order. -/
def fieldNames : List String :=
  ["style", "scrollback", "cursor_style", "prompt", "shell", "whitelisted_keybindings_repl",
    "whitelisted_keybindings_terminal", "module_debounce_ms"]

def toJson (settings : Settings) : Json :=
  .obj [("style", .str settings.style.name), ("scrollback", .int settings.scrollback),
    ("cursor_style", .str settings.cursorStyle.name), ("prompt", .str settings.prompt),
    ("shell", .str settings.shell),
    ("whitelisted_keybindings_repl", stringsToJson settings.replKeystrokes),
    ("whitelisted_keybindings_terminal", stringsToJson settings.auxiliaryKeystrokes),
    ("module_debounce_ms", .int settings.moduleDebounce)]

/-- The settings a value gives, with those it does not give taken from
`standard`. -/
def read {Value : Type} [Source Value] (standard : Settings) (value : Value) :
    Decoded Settings := do
  let record ← Source.record fieldNames value
  let style ← record.defaulted "style" standard.style ConsoleStyle.read
  let scrollback ← record.defaulted "scrollback" standard.scrollback Source.natural64
  let cursorStyle ← record.defaulted "cursor_style" standard.cursorStyle CursorStyle.read
  let prompt ← record.defaulted "prompt" standard.prompt Source.string
  let shell ← record.defaulted "shell" standard.shell Source.string
  let replKeystrokes ←
    record.defaulted "whitelisted_keybindings_repl" standard.replKeystrokes Source.strings
  let auxiliaryKeystrokes ←
    record.defaulted "whitelisted_keybindings_terminal" standard.auxiliaryKeystrokes
      Source.strings
  let moduleDebounce ←
    record.defaulted "module_debounce_ms" standard.moduleDebounce Source.natural64
  pure { style, scrollback, cursorStyle, prompt, shell, replKeystrokes, auxiliaryKeystrokes,
         moduleDebounce }

end Settings

namespace BootSettings

def toJson (settings : BootSettings) : Json :=
  .obj [("command", .str settings.command), ("args", stringsToJson settings.args),
    ("connect_timeout_ms", .int settings.connectTimeout)]

/-- The settings a value gives, with those it does not give taken from the
standard ones. -/
def read {Value : Type} [Source Value] (value : Value) : Decoded BootSettings := do
  let record ← Source.record ["command", "args", "connect_timeout_ms"] value
  let command ← record.defaulted "command" standard.command Source.string
  let args ← record.defaulted "args" standard.args Source.strings
  let connectTimeout ←
    record.defaulted "connect_timeout_ms" standard.connectTimeout Source.natural64
  pure { command, args, connectTimeout }

end BootSettings

namespace Config

/-- The log level a value gives. -/
def readLogLevel {Value : Type} [Source Value] (standard : String) (value : Value) :
    Decoded String := do
  let record ← Source.record ["log_level"] value
  record.defaulted "log_level" standard Source.string

def toJson (config : Config) : Json :=
  .obj [("console", config.console.toJson), ("boot", config.boot.toJson),
    ("server", .obj [("log_level", .str config.logLevel)])]

/-- The configuration a value gives, with what it does not give taken from
`standard`. -/
def read {Value : Type} [Source Value] (standard : Config) (value : Value) : Decoded Config := do
  let record ← Source.record ["console", "boot", "server"] value
  let console ← record.defaulted "console" standard.console (Settings.read standard.console)
  let boot ← record.defaulted "boot" standard.boot BootSettings.read
  let logLevel ← record.defaulted "server" standard.logLevel (readLogLevel standard.logLevel)
  pure { console, boot, logLevel }

/-- The configuration a file gives, if it can work. -/
def ofYaml (standard : Config) (text : List Char) : Except Failure Config :=
  match Yaml.Value.ofText? text with
  | none => .error (.configuration "malformed file")
  | some value =>
      match read standard value with
      | .error failure => .error (.configuration failure.message)
      | .ok config => config.validate.map fun _ => config

/-- The configuration the bytes of a file give. -/
def ofBytes (standard : Config) (bytes : List UInt8) : Except Failure Config :=
  match Text.decode? bytes with
  | some text => ofYaml standard text
  | none => .error (.inputOutput "stream did not contain valid UTF-8")

end Config

end RuntimeConsole
