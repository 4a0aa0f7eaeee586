/-
Module: RuntimeConsole.Remote.Client
Purpose: The console's side of the connection to the runtime: the calls that
  wait for an answer, the handlers of what the runtime asks for, and the
  observers of connections.
Main exports:
  Client, Connection, Waiter, Handler, BootObserver, DetachObserver, Booter
-/
import RuntimeConsole.Failure
import RuntimeConsole.Geometry
import RuntimeConsole.Link.Basic
import RuntimeConsole.Remote.Frame
import RuntimeConsole.Terminal.Stream

namespace RuntimeConsole

/-- Where the stream of a process that is going to be connected comes from. -/
inductive StreamOrigin where
  /-- It is made for the connection and may refuse operations. -/
  | fresh (faults : StreamFaults)
  /-- It has been there since the process was started. -/
  | running (id : Nat)
deriving Repr, DecidableEq, Inhabited

/-- A process that is going to be connected. -/
structure ProcessSpec where
  origin : StreamOrigin
  /-- What it printed before it was connected, in pieces, if that is kept. -/
  early : Option (List String)
  /-- Whether frames travel over a byte stream, and not as values. -/
  wired : Bool
deriving Repr, DecidableEq, Inhabited

/-- A process that has been connected once. -/
structure RemoteProcess where
  /-- The number of its stream. -/
  stream : Nat
  /-- What it printed before it was connected, until somebody takes it. -/
  early : Option (List String)
deriving Repr, DecidableEq, Inhabited

/-- The connection to the runtime. -/
structure Connection where
  id : Nat
  /-- The number of the channel frames are sent over. -/
  channel : Nat
  /-- The number of the process. -/
  process : Nat
deriving Repr, DecidableEq, Inhabited

/-- What a caller of the embedding program takes for an answer. -/
inductive Expectation where
  | any
  | bool
  | string
deriving Repr, DecidableEq, Inhabited

/-- Who waits for the answer to a call. -/
inductive Waiter where
  /-- A link resolver that asked whether a candidate is a link. -/
  | validation (resolver : Nat) (row : UInt16) (generation : Nat) (link : LinkMatch)
  /-- A link resolver that asked for a full path, on behalf of an operation. -/
  | opening (ticket : Nat) (resolver : Nat) (link : LinkMatch)
  /-- A caller of the embedding program. -/
  | guest (ticket : Nat) (expected : Expectation)
deriving Repr, DecidableEq, Inhabited

/-- A call that waits for its answer. -/
structure PendingCall where
  id : Nat
  name : String
  waiter : Waiter
deriving Repr, DecidableEq, Inhabited

/-- What is done when the runtime asks for something by name. -/
inductive Handler where
  /-- Refresh the view of the variables of the runtime. -/
  | refreshWorkspace
  | clearTerminal
  | reportCursor
  | showLint
  | clearLint
  /-- Code of the embedding program, known by a label.  It may send a message of
  its own before it answers what it is asked. -/
  | guest (label : Json) (sends : Option String) (reply : List Json → Except Failure Json)

/-- What code of the embedding program does with the client when it is told about
a connection. -/
inductive ClientAction where
  | send (name : String)
  | connect (spec : ProcessSpec)
  | disconnect
  | boot
deriving Repr, DecidableEq, Inhabited

/-- Who is told that a connection has begun. -/
inductive BootObserver where
  | session
  /-- Code of the embedding program, known by a label.  It may take what the
  process printed early. -/
  | guest (label : Json) (takesEarly : Bool) (actions : List ClientAction)
deriving Repr, DecidableEq, Inhabited

/-- Who is told that a connection has ended. -/
inductive DetachObserver where
  | session
  /-- Code of the embedding program, known by a label. -/
  | guest (label : Json) (actions : List ClientAction)
deriving Repr, DecidableEq, Inhabited

/-- What comes of starting the runtime. -/
inductive BootOutcome where
  /-- It has been started and will connect, or fail, later. -/
  | pending
  | fails (failure : Failure)
  /-- It connects at once. -/
  | connects (spec : ProcessSpec)
  /-- A command is launched, which is given some milliseconds to connect. -/
  | launches (command : String) (patience : Nat)
deriving Repr, DecidableEq, Inhabited

/-- What starts the runtime, known by a label. -/
structure Booter where
  label : Json
  outcome : BootOutcome
deriving Repr, DecidableEq, Inhabited

/-- The console's side of the connection to the runtime. -/
structure Client where
  /-- The next number.  Connections, calls, handlers and observers are numbered
  together, so no two of them ever share a number. -/
  nextId : Nat
  connection : Option Connection
  /-- The calls that wait for an answer, oldest first. -/
  pending : List PendingCall
  /-- The handler for each name, with the number it is removed by. -/
  handlers : List (String × Nat × Handler)
  /-- Who is told that a connection has begun, in the order of registration. -/
  bootObservers : List (Nat × BootObserver)
  /-- Who is told that a connection has ended, in the order of registration. -/
  detachObservers : List (Nat × DetachObserver)
  booter : Option Booter

namespace Client

/-- A client that has never been connected. -/
def initial : Client where
  nextId := 1
  connection := none
  pending := []
  handlers := []
  bootObservers := []
  detachObservers := []
  booter := none

/-- Whether the runtime is connected. -/
def isConnected (client : Client) : Bool := client.connection.isSome

/-- The client with a number more given away. -/
def withFreshId (client : Client) : Client × Nat :=
  ({ client with nextId := client.nextId + 1 }, client.nextId)

/-- Adds an observer of beginnings, removed by the number in the result. -/
def onBoot (client : Client) (observer : BootObserver) : Client × Nat :=
  let (client, id) := client.withFreshId
  ({ client with bootObservers := client.bootObservers ++ [(id, observer)] }, id)

/-- Adds an observer of ends, removed by the number in the result. -/
def onDetached (client : Client) (observer : DetachObserver) : Client × Nat :=
  let (client, id) := client.withFreshId
  ({ client with detachObservers := client.detachObservers ++ [(id, observer)] }, id)

/-- Removes the observer with a given number. -/
def removeObserver (client : Client) (id : Nat) : Client :=
  { client with
    bootObservers := client.bootObservers.filter fun entry => entry.1 != id
    detachObservers := client.detachObservers.filter fun entry => entry.1 != id }

/-- The handler registered last for a name. -/
def handler? (client : Client) (name : String) : Option Handler :=
  (client.handlers.lookup name).map Prod.snd

/-- The handlers with the one for a name replaced. -/
def setHandler (name : String) (entry : Nat × Handler) :
    List (String × Nat × Handler) → List (String × Nat × Handler)
  | [] => [(name, entry)]
  | (other, old) :: rest =>
      if other == name then (name, entry) :: rest
      else (other, old) :: setHandler name entry rest

/-- Registers a handler for a name in the place of any other.  It is removed by
the number in the result. -/
def onMessage (client : Client) (name : String) (handler : Handler) : Client × Nat :=
  let (client, id) := client.withFreshId
  ({ client with handlers := setHandler name (id, handler) client.handlers }, id)

/-- Removes the handler for a name, if it is still the one with the given
number. -/
def removeHandler (client : Client) (name : String) (id : Nat) : Client :=
  { client with
    handlers := client.handlers.filter fun entry => !(entry.1 == name && entry.2.1 == id) }

/-- The waiting call with a given number. -/
def pendingCall? (client : Client) (id : Nat) : Option PendingCall :=
  client.pending.find? fun call => call.id == id

/-- Adds a waiting call. -/
def addPending (client : Client) (call : PendingCall) : Client :=
  { client with pending := client.pending ++ [call] }

/-- Removes the waiting call with a given number. -/
def removePending (client : Client) (id : Nat) : Client :=
  { client with pending := client.pending.filter fun call => call.id != id }

end Client

end RuntimeConsole
