/-
Module: RuntimeConsole.Console.Shells
Purpose: Auxiliary terminals inside a console: opening them in directories the
  user chooses, restoring those of an earlier time, and closing them.
Main exports:
  Console.newTerminal, Console.restoreTerminals, Console.spawnShell,
  Console.answerPrompt, Console.closeTerminal, Console.shutdownShells
-/
import RuntimeConsole.Auxiliary.Directory
import RuntimeConsole.Console.Lifecycle

namespace RuntimeConsole

/-- What became of asking the user. -/
inductive Asked where
  /-- The user has answered, perhaps by declining. -/
  | answered (choice : Option String)
  /-- The question is still open. -/
  | undecided
deriving Repr, DecidableEq, Inhabited

namespace Console

/-! ### Directories -/

/-- The directory a choice of the user names.  A blank choice is none. -/
def chosenDirectory (home : String) (choice : Option String) : Except Failure String :=
  match choice with
  | none => .error .cancelled
  | some text =>
      let text := Text.trim text.toList
      if text.isEmpty then .error .cancelled
      else .ok (Directory.expandHome home (String.ofList text))

/-- Asks the user for a directory. -/
def askDirectory (console : Console) : Console × Asked :=
  let reply := console.host.reply console.asked
  let console := { console with asked := console.asked + 1 }.emit
    (.askedDirectory console.host.roots)
  match reply with
  | .chooses path => (console, .answered (some path))
  | .hesitates => (console, .undecided)
  | .declines => (console, .answered none)

/-! ### Shells -/

/-- Starts a shell in a directory.  The result is the number of its stream. -/
def startShell (console : Console) (cwd : String) : Console × Except Failure Nat :=
  let shell := console.settings.current.shell
  let console := console.emit (.startedShell shell .auxiliary cwd)
  match console.host.refusal shell (some cwd) with
  | some reason => (console, .error (.spawn shell reason))
  | none =>
      let (console, stream) := console.addStream console.host.shellFaults
      (console, .ok stream)

/-- Starts a shell in the directory the user chose. -/
def startChosen (console : Console) (choice : Option String) :
    Console × Except Failure (Nat × String) :=
  match chosenDirectory console.host.home choice with
  | .error failure => (console, .error failure)
  | .ok cwd =>
      match console.startShell cwd with
      | (console, .ok stream) => (console, .ok (stream, cwd))
      | (console, .error failure) => (console, .error failure)

/-- A terminal for an auxiliary shell, set up as the settings say. -/
def auxiliaryTerminal (console : Console) (id : TerminalId) : Terminal :=
  { Terminal.new id
      { TerminalOptions.standard with
        size := .auxiliary
        scrollback := console.settings.current.scrollback
        cursorStyle := console.settings.current.cursorStyle } with
    keyFilter := some (.lists .auxiliary) }

/-- A terminal with a shell attached to it, which is told the size of the
screen. -/
def attachShell (console : Console) (terminal : Terminal) (stream : Nat) (cwd : String) :
    Console × AuxiliaryTerminal :=
  (console.tryOnStream stream fun shell => shell.resize terminal.grid.size,
    ⟨{ terminal with stream := some stream }, stream, cwd⟩)

/-- Ends a shell.  A shell that cannot be ended is left alone. -/
def killShell (console : Console) (stream : Nat) : Console :=
  console.tryOnStream stream ProcessStream.kill

/-- Enters a terminal into the registry. -/
def register (console : Console) (aux : AuxiliaryTerminal) : Console :=
  { console with registry := console.registry.insert aux }

/-- An identity no open terminal has. -/
def freshIdentity (console : Console) : Console × TerminalId :=
  let supply := console.host.identities
  let drawn := supply.firstUnused console.registry.ids console.drawn
  ({ console with drawn := drawn + 1 }, supply.draw drawn)

/-- Opens a terminal of a new identity for a shell. -/
def openTerminal (console : Console) (stream : Nat) (cwd : String) : Console × TerminalId :=
  let (console, id) := console.freshIdentity
  let (console, aux) :=
    console.attachShell { console.auxiliaryTerminal id with isOpen := true } stream cwd
  (console.register aux, id)

/-! ### Opening terminals -/

/-- Takes note of how a request for a shell came out. -/
def finishShell (console : Console) (ticket : Nat) (choice : Option String) : Console :=
  match console.startChosen choice with
  | (console, .ok (_, cwd)) => console.finish ticket (.shellStarted cwd)
  | (console, .error failure) => console.finish ticket (.failed failure)

/-- Opens a terminal in the directory the user chose.  A command that was
cancelled counts as carried out. -/
def finishTerminal (console : Console) (ticket : Nat) (byCommand : Bool)
    (choice : Option String) : Console :=
  match console.startChosen choice with
  | (console, .ok (stream, cwd)) =>
      let (console, id) := console.openTerminal stream cwd
      console.finish ticket
        (if byCommand then .executed (.spawned id) else .terminalOpened id cwd)
  | (console, .error failure) =>
      console.finish ticket
        (if byCommand && failure = .cancelled then .executed .cancelled else .failed failure)

/-- Enters a restored terminal with its shell into the registry, unless one of
the same identity has been opened in the meantime: then the shell is ended.  The
result says whether the terminal has been restored. -/
def admitRestored (console : Console) (terminal : Terminal) (stream : Nat) (cwd : String) :
    Console × Bool :=
  let (console, aux) := console.attachShell terminal stream cwd
  if console.registry.contains terminal.id then (console.killShell stream, false)
  else (console.register aux, true)

/-- Restores a terminal in the directory the user chose. -/
def restoreChosen (console : Console) (terminal : Terminal) (choice : Option String) :
    Console × Bool :=
  match console.startChosen choice with
  | (console, .ok (stream, cwd)) => console.admitRestored terminal stream cwd
  | (console, .error _) => (console, false)

/-- Restores a terminal in a given directory. -/
def restoreIn (console : Console) (terminal : Terminal) (cwd : String) : Console × Bool :=
  let cwd := Directory.expandHome console.host.home cwd
  match console.startShell cwd with
  | (console, .ok stream) => console.admitRestored terminal stream cwd
  | (console, .error _) => (console, false)

/-- Restores terminals one after the other, where `count` have been restored
before.  Identities that are not those of auxiliary terminals or are in use are
passed over, and so are terminals whose shell cannot be started. -/
def restoreFrom (console : Console) (ticket count : Nat) : List PersistedTerminal → Console
  | [] => console.finish ticket (.restored count)
  | item :: rest =>
      if !item.id.isAuxiliary || console.registry.contains item.id then
        restoreFrom console ticket count rest
      else
        let terminal := console.auxiliaryTerminal item.id
        match item.cwd with
        | some cwd =>
            let (console, restored) := console.restoreIn terminal cwd
            restoreFrom console ticket (count + restored.toNat) rest
        | none =>
            match console.askDirectory with
            | (console, .answered choice) =>
                let (console, restored) := console.restoreChosen terminal choice
                restoreFrom console ticket (count + restored.toNat) rest
            | (console, .undecided) =>
                { console with
                  errands := console.errands ++ [.restore ticket terminal rest count] }

/-- Goes on with an errand after the user chose a directory, or none. -/
def resumeErrand (console : Console) (choice : Option String) : Errand → Console
  | .shell ticket => console.finishShell ticket choice
  | .newTerminal ticket byCommand => console.finishTerminal ticket byCommand choice
  | .restore ticket terminal rest count =>
      let (console, restored) := console.restoreChosen terminal choice
      console.restoreFrom ticket (count + restored.toNat) rest

/-- Asks the user for a directory and goes on with an errand when it is there. -/
def promptFor (console : Console) (errand : Errand) : Console :=
  match console.askDirectory with
  | (console, .answered choice) => console.resumeErrand choice errand
  | (console, .undecided) => { console with errands := console.errands ++ [errand] }

/-- Starts a shell in a given directory, or in one the user chooses. -/
def spawnShell (console : Console) (ticket : Nat) : Option String → Console
  | none => console.promptFor (.shell ticket)
  | some path =>
      let cwd := Directory.expandHome console.host.home path
      match console.startShell cwd with
      | (console, .ok _) => console.finish ticket (.shellStarted cwd)
      | (console, .error failure) => console.finish ticket (.failed failure)

/-- Opens an auxiliary terminal in a directory the user chooses. -/
def newTerminal (console : Console) (ticket : Nat) (byCommand : Bool) : Console :=
  console.promptFor (.newTerminal ticket byCommand)

/-- Restores terminals of an earlier time.  Their number is the outcome. -/
def restoreTerminals (console : Console) (ticket : Nat) (items : List PersistedTerminal) :
    Console :=
  console.restoreFrom ticket 0 items

/-- The user answers the oldest open question, perhaps by declining.  The errand
goes on in its turn; the result says whether there was a question. -/
def answerPrompt (console : Console) (choice : Option String) : Console × Bool :=
  match console.errands with
  | [] => (console, false)
  | errand :: rest => ({ console with errands := rest }.spawn (.chosen errand choice), true)

/-! ### Open terminals -/

/-- Closes an auxiliary terminal and ends its shell.  The result says whether
there was one. -/
def closeTerminal (console : Console) (id : TerminalId) : Console × Bool :=
  match console.registry.get? id with
  | none => (console, false)
  | some aux =>
      ({ console with registry := console.registry.erase id }.killShell aux.shell, true)

/-- Closes every auxiliary terminal. -/
def shutdownShells (console : Console) : Console :=
  console.registry.terminals.foldl (fun console aux => console.killShell aux.shell)
    { console with registry := .empty }

/-- Takes a key event in an auxiliary terminal, if there is one of the
identity. -/
def pressAuxiliaryKey (console : Console) (id : TerminalId) (event : KeyEvent) :
    Option (Console × KeyOutcome) :=
  (console.registry.get? id).map fun aux => console.pressKeyIn aux.terminal event

/-- Shows what the shell of a terminal has printed.  The result is the number of
bytes, none if the stream refuses. -/
def pumpShell (console : Console) (aux : AuxiliaryTerminal) : Console × Nat :=
  match console.readStream aux.shell with
  | (console, .ok bytes) =>
      ({ console with
          registry :=
            console.registry.modify aux.id fun terminal =>
              if bytes.isEmpty then terminal else (terminal.render bytes).1 },
        bytes.length)
  | (console, .error _) => (console, 0)

/-- Shows what the shells have printed.  The result is the number of bytes. -/
def pumpShells (console : Console) : Console × Nat :=
  console.registry.terminals.foldl
    (fun (console, count) aux =>
      let (console, bytes) := console.pumpShell aux
      (console, count + bytes))
    (console, 0)

end Console

end RuntimeConsole
