/-
Module: RuntimeConsole.Console.Course
Purpose: The courses that effects on the client can take when those who are told about
  connections have effects on the client themselves, and what is told in which order.
Main exports:
  Notice, Diary, Diary.read, AsRegistered, Deed, Course, Console.callClient
-/
import RuntimeConsole.Console.Lifecycle

namespace RuntimeConsole

/-! ### What is told -/

/-- Something that happens to connections, or that somebody is told about it. -/
inductive Notice where
  | began (connection : Nat)
  | ended (connection : Nat)
  | toldBoot (connection observer : Nat)
  | toldDetach (connection observer : Nat)
deriving Repr, DecidableEq, Inhabited

/-- The connection there is, and what has to be told before another begins or ends. -/
structure Diary where
  current : Option Nat
  due : List Notice
deriving Repr, DecidableEq, Inhabited

namespace Diary

/-- Whether the next notice may follow: as long as something is due, only that, in its order.
A connection begins only when there is none, and all observers of beginnings are told; it ends,
and all observers of ends are told. -/
def write (boots detaches : List Nat) (diary : Diary) (notice : Notice) : Option Diary :=
  match diary.due with
  | next :: due => if notice = next then some ⟨diary.current, due⟩ else none
  | [] =>
      match notice, diary.current with
      | .began id, none => some ⟨some id, boots.map (.toldBoot id)⟩
      | .ended id, some current =>
          if id = current then some ⟨none, detaches.map (.toldDetach id)⟩ else none
      | _, _ => none

/-- Whether notices may follow, one after the other. -/
def read (boots detaches : List Nat) (diary : Diary) : List Notice → Option Diary
  | [] => some diary
  | notice :: rest => (diary.write boots detaches notice).bind fun diary =>
      diary.read boots detaches rest

end Diary

/-! ### Those who are told -/

/-- What an observer of beginnings was registered to do. -/
def BootObserver.actions : BootObserver → List ClientAction
  | .session => []
  | .guest _ _ actions => actions

/-- What an observer of ends was registered to do. -/
def DetachObserver.actions : DetachObserver → List ClientAction
  | .session => []
  | .guest _ actions => actions

namespace Console

/-- An observer takes note that a connection has begun. -/
def hearBoot (console : Console) (process : Nat) : BootObserver → Console
  | .session => console.sessionBoot process
  | .guest label true _ =>
      let (console, early) := console.takeEarly process
      console.emit (.guestSawBoot label (some early.isSome))
  | .guest label false _ => console.emit (.guestSawBoot label none)

/-- An observer takes note that a connection has ended. -/
def hearDetach (console : Console) : DetachObserver → Console
  | .session => console.sessionDetached
  | .guest label _ =>
      console.emit
        (.guestSawDetach label console.client.isConnected console.client.pending.length)

/-- The number of the connection there is. -/
def connectionId? (console : Console) : Option Nat :=
  console.client.connection.map Connection.id

/-- The end of the connection, of which nobody has been told yet. -/
def dropConnection (console : Console) : Console :=
  (console.withClient { console.client with connection := none }).resetPending

/-- The embedding program has an effect on the client. -/
def callClient (console : Console) : ClientAction → Console
  | .send name => console.send name []
  | .connect spec => (console.connect spec).1
  | .disconnect => console.disconnect
  | .boot => console.boot.1

end Console

/-! ### Courses -/

/-- Observers do what they were registered to do. -/
def AsRegistered (registered actions : List ClientAction) : Prop := actions = registered

/-- Something that is done with a client, or a part of it. -/
inductive Deed where
  | act (action : ClientAction)
  /-- Several actions, of somebody after whom nobody has to be told any more, or of somebody
  else. -/
  | acts (last : Bool) (actions : List ClientAction)
  /-- The end of the connection, if there is one. -/
  | ends
  /-- Observers are told that a connection has begun. -/
  | boots (connection process : Nat) (observers : List (Nat × BootObserver))
  /-- Observers are told that a connection has ended. -/
  | detaches (connection : Nat) (observers : List (Nat × DetachObserver))

/-- Whether a deed is not a round of telling. -/
def Deed.isCall : Deed → Bool
  | .act _ | .acts _ _ | .ends => true
  | .boots .. | .detaches .. => false

/-- What a deed can come to, with the notices of what happens in the meantime.  Observers act
in the middle of the round in which they are told; `conduct` says what somebody may do who was
registered to do something.

The course is calm if nobody cuts in: connections begin and end only by the last one to be told
in a round, and where a connection has to end before another can begin, there is none when its
observers have been told. -/
inductive Course (conduct : List ClientAction → List ClientAction → Prop) :
    Deed → Console → List Notice → Bool → Console → Prop where
  /-- What is nested too deeply is not carried out. -/
  | dropped {deed : Deed} {console : Console} : deed.isCall = true →
      Course conduct deed console [] true console.giveUpNesting
  | send {name : String} {console : Console} :
      Course conduct (.act (.send name)) console [] true (console.send name [])
  | connect {spec : ProcessSpec} {console : Console} {ended after : Console}
      {first second : List Notice} {firstCalm secondCalm : Bool} {prepared installed : Console}
      {process channel id : Nat} :
      console.prepareProcess spec = (prepared, process, channel) →
      Course conduct .ends prepared first firstCalm ended →
      ended.installConnection process channel = (installed, id) →
      Course conduct (.boots id process installed.client.bootObservers) installed second secondCalm
        after →
      Course conduct (.act (.connect spec)) console (first ++ .began id :: second)
        (firstCalm && !ended.client.isConnected && secondCalm) after
  | disconnect {console after : Console} {log : List Notice} {calm : Bool} :
      Course conduct .ends console log calm after →
      Course conduct (.act .disconnect) console log calm after
  /-- The runtime is started and does not connect at once. -/
  | boot {console : Console} :
      Course conduct (.act .boot) console [] true (console.bootWithin 0).1
  | bootConnects {booter : Booter} {spec : ProcessSpec} {console after : Console}
      {log : List Notice} {calm : Bool} :
      console.client.booter = some booter → booter.outcome = .connects spec →
      Course conduct (.act (.connect spec)) (console.emit (.booted booter.label)) log calm after →
      Course conduct (.act .boot) console log calm after
  | endsNone {console : Console} : console.client.connection = none →
      Course conduct .ends console [] true console
  | ends {connection : Connection} {console after : Console} {log : List Notice} {calm : Bool} :
      console.client.connection = some connection →
      Course conduct (.detaches connection.id console.client.detachObservers)
        console.dropConnection log calm after →
      Course conduct .ends console (.ended connection.id :: log) calm after
  | bootsNone {id process : Nat} {console : Console} :
      Course conduct (.boots id process []) console [] true console
  | boots {id process key : Nat} {observer : BootObserver} {rest : List (Nat × BootObserver)}
      {actions : List ClientAction} {console between after : Console}
      {first second : List Notice} {firstCalm secondCalm : Bool} :
      conduct observer.actions actions →
      Course conduct (.acts rest.isEmpty actions) (console.hearBoot process observer) first
        firstCalm between →
      Course conduct (.boots id process rest) between second secondCalm after →
      Course conduct (.boots id process ((key, observer) :: rest)) console
        (.toldBoot id key :: (first ++ second)) (firstCalm && secondCalm) after
  | detachesNone {id : Nat} {console : Console} :
      Course conduct (.detaches id []) console [] true console
  | detaches {id key : Nat} {observer : DetachObserver} {rest : List (Nat × DetachObserver)}
      {actions : List ClientAction} {console between after : Console}
      {first second : List Notice} {firstCalm secondCalm : Bool} :
      conduct observer.actions actions →
      Course conduct (.acts rest.isEmpty actions) (console.hearDetach observer) first
        firstCalm between →
      Course conduct (.detaches id rest) between second secondCalm after →
      Course conduct (.detaches id ((key, observer) :: rest)) console
        (.toldDetach id key :: (first ++ second)) (firstCalm && secondCalm) after
  | actsNone {last : Bool} {console : Console} :
      Course conduct (.acts last []) console [] true console
  | acts {last : Bool} {action : ClientAction} {rest : List ClientAction}
      {console between after : Console} {first second : List Notice}
      {firstCalm secondCalm : Bool} :
      Course conduct (.act action) console first firstCalm between →
      Course conduct (.acts last rest) between second secondCalm after →
      Course conduct (.acts last (action :: rest)) console (first ++ second)
        ((last || first.isEmpty) && firstCalm && secondCalm) after

end RuntimeConsole
