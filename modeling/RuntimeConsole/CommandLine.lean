/-
Module: RuntimeConsole.CommandLine
Purpose: The console driven by lines of text: what the program is called with,
  what each line asks for, and what is printed.
Main exports:
  CommandLine.configPath?, CommandLine.Line, CommandLine.start?,
  CommandLine.takeLine, CommandLine.finish, CommandLine.run
-/
import RuntimeConsole.Console.Activation

namespace RuntimeConsole.CommandLine

/-- What a run of the program finds around it. -/
structure Surroundings where
  platform : Platform
  loginShell : String
  home : String
  /-- The directory the program runs in. -/
  directory : String
  /-- Why a program cannot be started in a directory, if it cannot. -/
  refusal : (program : String) → (directory : Option String) → Option String
  identities : IdSupply
  /-- The content of the state file, if there is one. -/
  saved : Option (List Char)

/-! ### The configuration -/

/-- The path of the configuration the program is called with: what follows the
first option for it. -/
def configPath? (args : List String) : Option String :=
  match args.dropWhile (· != "--config") with
  | _ :: path :: _ => some path
  | _ => none

/-- The configuration the program runs with. -/
def configuration (loginShell : String) (contentOf : String → Option (List UInt8))
    (args : List String) : Except Failure Config :=
  let standard := Config.standard loginShell
  match configPath? args with
  | none => .ok standard
  | some path =>
      match contentOf path with
      | some bytes => Config.ofBytes standard bytes
      | none => .error (.inputOutput path)

/-! ### The state file -/

/-- Where the state file is kept, given the home directory of the user and the
directory for data the environment names.  A name that is no absolute path does not
count. -/
def stateDirectory? (home dataHome : Option String) : Option String :=
  match dataHome.filter (·.startsWith "/"), home.filter (· != "") with
  | some directory, _ => some (directory ++ "/julia-console")
  | none, some home => some (home ++ "/.local/share/julia-console")
  | none, none => none

/-- The terminals a state file gives.  A file that is no list of terminals gives
none. -/
def savedTerminals (content : Option (List Char)) : List PersistedTerminal :=
  (content.bind PersistedTerminal.listOfText?).getD []

/-- The content of the state file that gives the terminals. -/
def stateFile (terminals : List PersistedTerminal) : String :=
  (PersistedTerminal.listToJson terminals).pretty

/-! ### Lines -/

/-- What a line asks for. -/
inductive Line where
  /-- The end of the program. -/
  | quit
  /-- Opening the link at a position, if the line gives one. -/
  | openLink (position : Option Position)
  | press (keystroke : String)
  | command (name : String)
  /-- Sending the line to the runtime, or starting it. -/
  | input (text : List Char)
deriving Repr, DecidableEq, Inhabited

/-- A coordinate of the screen. -/
def readCoordinate? (word : List Char) : Option UInt16 :=
  (Text.readBounded? UInt16.size word).map UInt16.ofNat

/-- The position the first two words of a text give. -/
def readPosition? (text : List Char) : Option Position :=
  match Text.words text with
  | row :: col :: _ =>
      match readCoordinate? row, readCoordinate? col with
      | some row, some col => some ⟨row, col⟩
      | _, _ => none
  | _ => none

namespace Line

/-- What a line asks for after the colon it begins with. -/
def ofDirective (text : List Char) : Line :=
  if text = "quit".toList then .quit
  else
    match Text.stripPrefix? "open-link ".toList text, Text.stripPrefix? "key ".toList text with
    | some rest, _ => .openLink (readPosition? rest)
    | none, some keystroke => .press (String.ofList (Text.trim keystroke))
    | none, none => .command (String.ofList text)

/-- What a line asks for. -/
def ofText : List Char → Line
  | ':' :: directive => ofDirective directive
  | text => .input text

end Line

/-! ### The screen -/

/-- What clears the screen of the user. -/
def clearScreen : List Char := "\x1b[H\x1b[2J".toList

/-- The terminal of the runtime as it is printed. -/
def screen (console : Console) : List Char :=
  clearScreen ++ console.terminal.contents

/-! ### A run -/

/-- The ticket of the operations that lines ask for. -/
def lineTicket : Nat := 1

/-- The byte that interrupts a process. -/
def interruptByte : UInt8 := 0x03

/-- What a console run by lines of text is set up with. -/
def parts (around : Surroundings) (config : Config) : ConsoleParts where
  settings := config.console
  host :=
    { platform := around.platform
      home := around.home
      openFailure := none
      reply := fun _ => .chooses around.directory
      roots := [around.directory]
      refusal := around.refusal
      shellFaults := .none
      concurrent := true
      reportsFailures := true
      moduleDebounce := config.console.moduleDebounce
      identities := around.identities }
  booter :=
    some ⟨.str config.boot.command, .launches config.boot.command config.boot.connectTimeout⟩
  showsLint := false
  persisted := savedTerminals around.saved

/-- The console at the beginning of a run, unless another one is to be shown. -/
def start? (around : Surroundings) (config : Config) : Option Console :=
  (Console.activate? (parts around config)).map fun console =>
    (console.execute lineTicket .openConsole).settle

/-- The result of the command carried out last. -/
def commandResult? (console : Console) : Option CommandResult :=
  console.trace.reverse.findSome? fun effect =>
    match effect with
    | .finished _ (.executed result) => some result
    | _ => none

/-- Carries out a command.  A copied text is printed on a line of its own, and the
runtime is interrupted where nothing is copied. -/
def runCommand (console : Console) (command : Command) : Console × List Char :=
  let console := ({ console with trace := [] }.execute lineTicket command).settle
  match commandResult? console with
  | some (.copied text) => (console, text.toList ++ ['\n'])
  | some (.dispatched name) =>
      if name = interruptCommand then ((console.sendInput [interruptByte]).1, [])
      else (console, [])
  | _ => (console, [])

/-- Sends a line to the runtime, or asks for a start if it is not there. -/
def sendLine (console : Console) (text : List Char) : Console :=
  if console.terminal.isAttached then
    (console.sendInput (Text.encode (text ++ ['\r']))).1
  else (console.pressKey (.plain .enter)).1

/-- Does what a line asks for.  The second part of the result is what is printed
before the screen. -/
def carryOut (console : Console) : Line → Console × List Char
  | .quit => (console, [])
  | .openLink position =>
      (position.elim console fun position => console.openLink lineTicket position, [])
  | .press keystroke =>
      match KeyEvent.parse keystroke with
      | .ok event => ((console.pressKey event).1, [])
      | .error _ => (console, [])
  | .command name =>
      match Command.parse name with
      | .ok command => runCommand console command
      | .error _ => (console, [])
  | .input text => (sendLine console text, [])

/-- Takes a line.  The second part of the result is what is printed; the line that
ends the program gives nothing. -/
def takeLine (console : Console) (line : Line) : Option (Console × List Char) :=
  match line with
  | .quit => none
  | line =>
      let (console, printed) := carryOut console line
      let console := console.settle
      some ({ console with trace := [] }, printed ++ screen console)

/-- Shows what processes have printed.  The second part of the result is what is
printed: the screen, if there was anything. -/
def refresh (console : Console) : Console × List Char :=
  let (console, count) := console.pumpAll
  (console, if count > 0 then screen console else [])

/-- Takes lines up to the one that ends the program.  The second part of the result
is what is printed. -/
def takeLines (console : Console) : List Line → Console × List Char
  | [] => (console, [])
  | line :: rest =>
      match takeLine console line with
      | none => (console, [])
      | some (console, printed) =>
          let (console, shown) := refresh console
          let (console, more) := takeLines console rest
          (console, printed ++ shown ++ more)

/-- Takes the console down.  The result are the terminals the state file is to
give. -/
def finish (console : Console) : List PersistedTerminal :=
  console.deactivate.2

/-- What came of a run. -/
structure Report where
  exitCode : Nat
  printed : List Char
  /-- The terminals written to the state file, if it has been written. -/
  saved : Option (List PersistedTerminal)
deriving Repr, DecidableEq, Inhabited

/-- Runs the program on the lines it is given. -/
def run (around : Surroundings) (contentOf : String → Option (List UInt8)) (args : List String)
    (lines : List (List Char)) : Report :=
  match configuration around.loginShell contentOf args with
  | .error _ => ⟨1, [], none⟩
  | .ok config =>
      match start? around config with
      | none => ⟨0, [], none⟩
      | some console =>
          let (last, printed) := takeLines console (lines.map Line.ofText)
          ⟨0, screen console ++ printed, some (finish last)⟩

end RuntimeConsole.CommandLine
