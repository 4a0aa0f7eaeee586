/-
Module: RuntimeConsole.Console.ConsoleEvent
Purpose: Everything that can happen to an activated console, its auxiliary terminals, its
  commands and the requests the embedding program handles included.
Main exports:
  ConsoleEvent, Console.undergo, Console.undergoAll, Console.recorded, Console.reserves,
  Console.typedTo, Console.shellsStarted
-/
import RuntimeConsole.Console.Activation
import RuntimeConsole.Console.Event
import RuntimeConsole.Console.ShellEvent

namespace RuntimeConsole

/-- Something that happens to an activated console. -/
inductive ConsoleEvent where
  /-- The user, the runtime, the embedding program or time act on it. -/
  | event (event : Event)
  /-- Something happens to the auxiliary terminals. -/
  | shell (event : ShellEvent)
  | execute (ticket : Nat) (command : Command)
  /-- A key is pressed in an auxiliary terminal. -/
  | pressIn (id : TerminalId) (key : KeyEvent)
  | pumpAll
  /-- From now on the embedding program handles what the runtime asks for under a name. -/
  | serves (name : String) (label : Json) (sends : Option String)
      (reply : List Json → Except Failure Json)

/-- Whether a process takes what is written to it. -/
def ProcessStream.takesInput (stream : ProcessStream) : Bool :=
  stream.alive && stream.faults.write.isNone

namespace Console

/-! ### Runs -/

/-- A key is pressed in an auxiliary terminal, if there is one of the identity. -/
def pressIn (console : Console) (id : TerminalId) (key : KeyEvent) : Console :=
  (console.pressAuxiliaryKey id key).elim console Prod.fst

/-- The console after something has happened to it. -/
def undergo (console : Console) : ConsoleEvent → Console
  | .event event => console.apply event
  | .shell event => console.applyShell event
  | .execute ticket command => console.execute ticket command
  | .pressIn id key => console.pressIn id key
  | .pumpAll => console.pumpAll.1
  | .serves name label sends reply => (console.handleRequests name (.guest label sends reply)).1

/-- The console after several things have happened to it. -/
def undergoAll (console : Console) (events : List ConsoleEvent) : Console :=
  events.foldl undergo console

theorem undergoAll_concat (console : Console) (events : List ConsoleEvent)
    (event : ConsoleEvent) :
    console.undergoAll (events ++ [event]) = (console.undergoAll events).undergo event := by
  simp [undergoAll]

/-- What is noted in a run by somebody who sees everything that happens and the console it
happens to. -/
def recorded {Note : Type} (note : Console → ConsoleEvent → List Note) (console : Console) :
    List ConsoleEvent → List Note
  | [] => []
  | event :: events => note console event ++ recorded note (console.undergo event) events

theorem recorded_concat {Note : Type} (note : Console → ConsoleEvent → List Note)
    (console : Console) (events : List ConsoleEvent) (event : ConsoleEvent) :
    console.recorded note (events ++ [event]) =
      console.recorded note events ++ note (console.undergoAll events) event := by
  induction events generalizing console with
  | nil => simp [recorded, undergoAll]
  | cons first events inductionHypothesis =>
      rw [List.cons_append, recorded, recorded, inductionHypothesis, List.append_assoc]
      rfl

/-! ### Keys -/

/-- Whether the settings in force leave a key event to the editor in the terminals of a kind:
its keystroke is one of those on the list, in whatever case. -/
def reserves (console : Console) (kind : TerminalClass) (key : KeyEvent) : Bool :=
  ((console.settings.current.keystrokes kind).map AllowList.lowerString).contains
    (AllowList.lowerString key.keystroke)

/-- What reaches a stream of bytes offered to the stream attached to a terminal: all of them if
it is that one and takes them, and none otherwise. -/
def offered (console : Console) (attached : Option Nat) (bytes : List UInt8) (id : Nat) :
    List UInt8 :=
  if attached = some id ∧ (console.stream? id).any ProcessStream.takesInput = true then bytes
  else []

/-- What reaches a stream of a key event in a terminal of a kind. -/
def keyTyped (console : Console) (kind : TerminalClass) (attached : Option Nat) (key : KeyEvent)
    (id : Nat) : List UInt8 :=
  if console.reserves kind key then [] else console.offered attached key.bytes id

/-- What reaches a stream of what the user enters in an event. -/
def typedTo (id : Nat) (console : Console) : ConsoleEvent → List UInt8
  | .event (.press key) => console.keyTyped .repl console.terminal.stream key id
  | .event (.input bytes) => console.offered console.terminal.stream bytes id
  | .pressIn terminal key =>
      (console.registry.get? terminal).elim [] fun aux =>
        console.keyTyped .auxiliary aux.terminal.stream key id
  | _ => []

/-! ### Shells -/

/-- Whether an operation on auxiliary terminals is carried on in an event. -/
def carriesOn (console : Console) : ConsoleEvent → Bool
  | .event (.work .task) => (console.tasks.head?.bind Task.errand?).isSome
  | .shell event => (console.carries? event).isSome
  | .execute _ .newTerminal => true
  | _ => false

/-- The streams of the shells that are started in an event for auxiliary terminals. -/
def shellsStarted (console : Console) (event : ConsoleEvent) : List Nat :=
  if console.carriesOn event then
    List.range' console.streams.length
      ((console.undergo event).streams.length - console.streams.length)
  else []

end Console

end RuntimeConsole
