/-
Module: RuntimeConsole.Console.Following
Purpose: An embedding program that follows connections: the subscriptions it takes and ends while
  it connects and disconnects, and what is due to be told when it does.
Main exports:
  Follower, Subscribed, Use, Embedding, Embedding.run, Embedding.Tells, Embedding.due
-/
import RuntimeConsole.Console.Course
import RuntimeConsole.Console.Guests

namespace RuntimeConsole

/-! ### Subscriptions -/

/-- Who is told about connections on a subscription. -/
inductive Follower where
  | boots (observer : BootObserver)
  | detaches (observer : DetachObserver)

/-- What a follower was registered to do. -/
def Follower.actions : Follower → List ClientAction
  | .boots observer => observer.actions
  | .detaches observer => observer.actions

/-- A subscription to the beginnings or to the ends of connections. -/
structure Subscribed where
  /-- What its owner does to end it. -/
  release : Release
  follower : Follower
  /-- Whether it has not been ended yet. -/
  live : Bool

namespace Subscribed

/-- The subscription after its end. -/
def ended (subscribed : Subscribed) : Subscribed :=
  { subscribed with live := false }

/-- The observer of beginnings who has to be told on a subscription, with its number. -/
def bootObserver? : Subscribed → Option (Nat × BootObserver)
  | ⟨.clientObserver key, .boots observer, true⟩ => some (key, observer)
  | _ => none

/-- The observer of ends who has to be told on a subscription, with its number. -/
def detachObserver? : Subscribed → Option (Nat × DetachObserver)
  | ⟨.clientObserver key, .detaches observer, true⟩ => some (key, observer)
  | _ => none

end Subscribed

/-- Something an embedding program does with its client. -/
inductive Use where
  | connect (spec : ProcessSpec)
  | disconnect
  /-- Ends a connection, if it is still the one there is. -/
  | endConnection (connection : Nat)
  | call (ticket : Nat) (expected : Expectation) (name : String) (args : List Json)
  | follow (follower : Follower)
  /-- Ends the subscription with a given place among all it has taken. -/
  | release (place : Nat)

/-- Whether a subscription is taken or ended. -/
def Use.isSubscription : Use → Bool
  | .follow _ | .release _ => true
  | .connect _ | .disconnect | .endConnection _ | .call .. => false

/-- An embedding program, with all subscriptions to connections it has taken, oldest first. -/
structure Embedding where
  console : Console
  subscriptions : List Subscribed

namespace Embedding

/-- A program that has not taken any subscription. -/
def begin (console : Console) : Embedding := ⟨console, []⟩

/-- Takes a subscription. -/
def follow (now : Embedding) (follower : Follower) : Embedding :=
  let (console, release) :=
    match follower with
    | .boots observer => now.console.followBoots observer
    | .detaches observer => now.console.followDetaches observer
  ⟨console, now.subscriptions ++ [⟨release, follower, true⟩]⟩

/-- Ends a subscription. -/
def release (now : Embedding) (place : Nat) : Embedding :=
  match now.subscriptions[place]? with
  | none => now
  | some subscribed =>
      ⟨now.console.release subscribed.release, now.subscriptions.set place subscribed.ended⟩

/-- The program after it has done something with its client. -/
def apply (now : Embedding) : Use → Embedding
  | .connect spec => { now with console := (now.console.connect spec).1 }
  | .disconnect => { now with console := now.console.disconnect }
  | .endConnection connection => { now with console := now.console.endConnection connection }
  | .call ticket expected name args =>
      { now with console := now.console.call name args (.guest ticket expected) }
  | .follow follower => now.follow follower
  | .release place => now.release place

/-- The program after it has done several things with its client. -/
def run (now : Embedding) (uses : List Use) : Embedding :=
  uses.foldl apply now

/-- What is told while the program does something with its client. -/
def Tells (now : Embedding) : Use → List Notice → Prop
  | .connect spec, log =>
      ∃ calm, Course AsRegistered (.act (.connect spec)) now.console log calm
        (now.apply (.connect spec)).console
  | .disconnect, log =>
      ∃ calm, Course AsRegistered (.act .disconnect) now.console log calm
        (now.apply .disconnect).console
  | .endConnection connection, log =>
      if now.console.connectionId? = some connection then
        ∃ calm, Course AsRegistered (.act .disconnect) now.console log calm
          (now.apply (.endConnection connection)).console
      else log = []
  | .call .., log | .follow _, log | .release _, log => log = []

/-- What is told while the program does several things with its client. -/
def TellsAll (now : Embedding) : List Use → List Notice → Prop
  | [], log => log = []
  | use :: uses, log =>
      ∃ first rest, log = first ++ rest ∧ now.Tells use first ∧ (now.apply use).TellsAll uses rest

/-! ### What is due -/

/-- The observers of beginnings whose subscriptions are live, in the order of registration. -/
def liveBoots (now : Embedding) : List (Nat × BootObserver) :=
  now.subscriptions.filterMap Subscribed.bootObserver?

/-- The observers of ends whose subscriptions are live, in the order of registration. -/
def liveDetaches (now : Embedding) : List (Nat × DetachObserver) :=
  now.subscriptions.filterMap Subscribed.detachObserver?

/-- When the connection there is ends, everybody who is subscribed is told. -/
def partings (now : Embedding) : List Notice :=
  match now.console.connectionId? with
  | none => []
  | some id => .ended id :: now.liveDetaches.map fun entry => .toldDetach id entry.1

/-- When a connection begins, everybody who is subscribed is told. -/
def greetings (now : Embedding) : List Notice :=
  .began now.console.client.nextId ::
    now.liveBoots.map fun entry => .toldBoot now.console.client.nextId entry.1

/-- What is to be told when the program does something with its client. -/
def due (now : Embedding) : Use → List Notice
  | .connect _ => now.partings ++ now.greetings
  | .disconnect => now.partings
  | .endConnection connection =>
      if now.console.connectionId? = some connection then now.partings else []
  | .call .. | .follow _ | .release _ => []

/-- What is to be told when the program does several things with its client. -/
def story (now : Embedding) : List Use → List Notice
  | [] => []
  | use :: uses => now.due use ++ (now.apply use).story uses

end Embedding

end RuntimeConsole
