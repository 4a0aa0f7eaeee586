/-
Module: RuntimeConsole.Console.State
Purpose: Everything a console consists of at one moment.
Main exports:
  Console, Host, Session, Cycle, Release, Task, Errand, Launch
-/
import RuntimeConsole.Auxiliary.Registry
import RuntimeConsole.Auxiliary.Supply
import RuntimeConsole.Config.Store
import RuntimeConsole.Console.Effect
import RuntimeConsole.Interchange.Config
import RuntimeConsole.Link.Resolver
import RuntimeConsole.Remote.Channel
import RuntimeConsole.Remote.Client
import RuntimeConsole.Session.Modules
import RuntimeConsole.Session.State
import RuntimeConsole.Subscription

namespace RuntimeConsole

/-- What the user does when asked for a directory. -/
inductive DirectoryReply where
  /-- Gives one. -/
  | chooses (path : String)
  /-- Leaves the question open for the time being. -/
  | hesitates
  | declines
deriving Repr, DecidableEq, Inhabited

/-- The world a console is embedded in. -/
structure Host where
  platform : Platform
  /-- The home directory of the user. -/
  home : String
  /-- Why the editor does not open the files it is asked to open, if it does not. -/
  openFailure : Option Failure
  /-- What the user will do when asked for a directory for the first time, the
  second time, and so on, counted from zero. -/
  reply : Nat → DirectoryReply
  /-- The directories offered to the user. -/
  roots : List String
  /-- Why a program cannot be started in a directory, if it cannot.  Where no
  directory is given, it is the one of the console itself. -/
  refusal : (program : String) → (directory : Option String) → Option String
  /-- Why the streams of shells refuse operations, if they do. -/
  shellFaults : StreamFaults
  /-- Whether there is a clock and work can be put off. -/
  concurrent : Bool
  /-- Whether the session hears of launched commands that never connect. -/
  reportsFailures : Bool
  /-- Milliseconds without a change before a change of module is reported. -/
  moduleDebounce : Nat
  /-- The identities for auxiliary terminals. -/
  identities : IdSupply

/-- Who is told about changes of settings. -/
inductive SettingsListener where
  /-- The runtime, about the prompt. -/
  | prompt
  /-- The allow-list of a kind of terminal. -/
  | keystrokes (kind : TerminalClass)
  /-- Code of the embedding program, known by a label. -/
  | guest (label : Json)
deriving Repr, DecidableEq, Inhabited

/-- Who is told about modules. -/
inductive ModuleListener where
  /-- The runtime, through a debouncer. -/
  | runtime (debouncer : Nat)
  /-- Code of the embedding program, known by a label. -/
  | guest (label : Json)
deriving Repr, DecidableEq, Inhabited

/-- What debouncers put off. -/
inductive DebouncedAction where
  /-- Telling the runtime the module and the width of the terminal. -/
  | reportModule
  /-- Something of the embedding program. -/
  | guest (value : Json)
deriving Repr, DecidableEq, Inhabited

/-- What the owner of a subscription does to end it. -/
inductive Release where
  | clientObserver (id : Nat)
  | handler (name : String) (id : Nat)
  | startHandler
  | settingsObserver (key : Nat)
  | lineListener (key : Nat)
  | resolver (id : Nat)
  | moduleListener (key : Nat)
  | debouncer (id : Nat)
deriving Repr, DecidableEq, Inhabited

/-- What a session holds for the time of one connection. -/
structure Cycle where
  disposables : Disposables Release
  /-- The number of the link resolver. -/
  resolver : Option Nat
deriving Repr, DecidableEq, Inhabited

/-- A cycle that holds nothing. -/
def Cycle.empty : Cycle := ⟨.empty, none⟩

/-- The session with the runtime. -/
structure Session where
  state : SessionState
  cycle : Cycle
  /-- What the session holds while it is active. -/
  subscriptions : Disposables Release
deriving Repr, DecidableEq, Inhabited

/-- A session that has not begun. -/
def Session.idle : Session := ⟨.idle, .empty, .empty⟩

/-- What is to be done with a directory the user was asked for. -/
inductive Errand where
  /-- Start a shell in it. -/
  | shell (ticket : Nat)
  /-- Open an auxiliary terminal in it, for a command or not. -/
  | newTerminal (ticket : Nat) (byCommand : Bool)
  /-- Restore a terminal in it and then the others. -/
  | restore (ticket : Nat) (terminal : Terminal) (rest : List PersistedTerminal) (count : Nat)
deriving Repr, DecidableEq, Inhabited

/-- Work that has been put off. -/
inductive Task where
  /-- Ask the runtime whether a candidate is a link. -/
  | validate (resolver : Nat) (row : UInt16) (generation : Nat) (link : LinkMatch)
  /-- Go on with the answer to a call, or without one. -/
  | resume (call : PendingCall) (answer : Except Failure Json)
  /-- Go on with the directory the user chose, or without one. -/
  | chosen (errand : Errand) (choice : Option String)

/-- A command that has been launched as the runtime. -/
structure Launch where
  command : String
  /-- The number of its stream. -/
  stream : Nat
  /-- The milliseconds it is given to connect. -/
  patience : Nat
  /-- The time at which they are over. -/
  due : Nat
  /-- Whether it is still waited for. -/
  awaited : Bool
deriving Repr, DecidableEq, Inhabited

/-- Why a launched command is given up. -/
def Launch.failure (launch : Launch) : Failure :=
  .spawn launch.command s!"no connection within {launch.patience}ms"

/-- A console at one moment.  Streams, channels, processes, resolvers,
debouncers and launches are known by their place in the order of their creation
and are never removed. -/
structure Console where
  client : Client
  channels : List Channel
  processes : List RemoteProcess
  streams : List ProcessStream
  launches : List Launch
  /-- The terminal of the runtime. -/
  terminal : Terminal
  settings : Store Settings Json SettingsListener
  allowLists : AllowLists
  modules : ModuleIndicator ModuleListener
  session : Session
  resolvers : List Resolver
  debouncers : List (Debouncer DebouncedAction)
  /-- The auxiliary terminals that are open. -/
  registry : Registry
  /-- How often the user has been asked for a directory. -/
  asked : Nat
  /-- What waits for the user to choose a directory, oldest first. -/
  errands : List Errand
  /-- The number of identities drawn for auxiliary terminals. -/
  drawn : Nat
  /-- What the console itself holds while it is active. -/
  subscriptions : Disposables Release
  host : Host
  /-- The work that has been put off, oldest first. -/
  tasks : List Task
  /-- The time in milliseconds. -/
  now : Nat
  /-- What has been done to the world, oldest first. -/
  trace : List Effect
  /-- Whether observers called for effects on the client that were nested too deeply
  to be carried out.  Once they have, nothing is said about the console any more. -/
  overrun : Bool

namespace Console

/-- A console nothing has happened to: settings, a terminal for the runtime and a
client without connection, none of them wired to another. -/
def unwired (host : Host) (settings : Settings) (terminal : Terminal) : Console where
  client := .initial
  channels := []
  processes := []
  streams := []
  launches := []
  terminal := terminal
  settings := .ofValue settings
  allowLists :=
    ⟨.ofList settings.replKeystrokes, .ofList settings.auxiliaryKeystrokes⟩
  modules := .initial
  session := .idle
  resolvers := []
  debouncers := []
  registry := .empty
  asked := 0
  errands := []
  drawn := 0
  subscriptions := .empty
  host := host
  tasks := []
  now := 0
  trace := []
  overrun := false

/-- The console after an effect. -/
def emit (console : Console) (effect : Effect) : Console :=
  { console with trace := console.trace ++ [effect] }

/-- The console after the outcome of an operation. -/
def finish (console : Console) (ticket : Nat) (outcome : Outcome) : Console :=
  console.emit (.finished ticket outcome)

/-- The console with work put off. -/
def spawn (console : Console) (task : Task) : Console :=
  { console with tasks := console.tasks ++ [task] }

/-- The console with another client. -/
def withClient (console : Console) (client : Client) : Console :=
  { console with client := client }

/-- The stream with a given number. -/
def stream? (console : Console) (id : Nat) : Option ProcessStream :=
  console.streams[id]?

/-- The console with a stream more, whose number is in the result. -/
def addStream (console : Console) (faults : StreamFaults) : Console × Nat :=
  ({ console with streams := console.streams ++ [.fresh faults] }, console.streams.length)

/-- The console with a stream replaced. -/
def setStream (console : Console) (id : Nat) (stream : ProcessStream) : Console :=
  { console with streams := console.streams.set id stream }

/-- Does something to a stream that the stream may refuse.  A refused operation
leaves it as it is. -/
def onStream (console : Console) (id : Nat)
    (operation : ProcessStream → Except Failure ProcessStream) : Console × Except Failure Unit :=
  match console.stream? id with
  | none => (console, .ok ())
  | some stream =>
      match operation stream with
      | .ok stream => (console.setStream id stream, .ok ())
      | .error failure => (console, .error failure)

/-- Does something to a stream, without asking whether it refused. -/
def tryOnStream (console : Console) (id : Nat)
    (operation : ProcessStream → Except Failure ProcessStream) : Console :=
  (console.onStream id operation).1

/-- The process prints to its stream. -/
def printTo (console : Console) (id : Nat) (bytes : List UInt8) : Console :=
  console.tryOnStream id fun stream => .ok (stream.print bytes)

/-- The process of a stream ends by itself. -/
def processDies (console : Console) (id : Nat) : Console :=
  console.tryOnStream id fun stream => .ok stream.die

end Console

end RuntimeConsole
