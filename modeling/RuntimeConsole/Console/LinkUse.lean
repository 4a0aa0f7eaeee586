/-
Module: RuntimeConsole.Console.LinkUse
Purpose: Links that are activated while other things happen, by the user or by whoever holds a
  link resolver, and the files the editor is asked to open.
Main exports:
  LinkEvent, Console.useAll, Console.notedIn, Activation, Console.activation?, Inquiry, OpenedLink,
  Console.openedLinks, Console.openedFiles
-/
import RuntimeConsole.Console.Event
import RuntimeConsole.Console.ShellEvent

namespace RuntimeConsole

/-- Something that happens to a console, or that is done with one of its link resolvers. -/
inductive LinkEvent where
  | happens (event : Event)
  /-- Work that has been put off is gone on with, whether it is the oldest or not. -/
  | resumes (place : Nat)
  /-- A link is activated, whether it is one of the links the resolver knows or not. -/
  | activates (ticket resolver : Nat) (link : LinkMatch)
  /-- The link the resolver knows at a position is activated. -/
  | activatesAt (ticket resolver : Nat) (position : Position)

/-- A link that is activated through a resolver. -/
structure Activation where
  ticket : Nat
  resolver : Nat
  link : LinkMatch
deriving DecidableEq

/-- What an activation asks the runtime, under the number of the call. -/
structure Inquiry where
  number : Nat
  activation : Activation
deriving DecidableEq

namespace Inquiry

/-- The call that waits for the full path. -/
def call (inquiry : Inquiry) : PendingCall :=
  ⟨inquiry.number, "fullpath",
    .opening inquiry.activation.ticket inquiry.activation.resolver inquiry.activation.link⟩

/-- The frame by which the runtime is asked. -/
def frame (inquiry : Inquiry) : Frame :=
  .call inquiry.number "fullpath" [.str inquiry.activation.link.path]

/-- The frame by which the runtime answers. -/
def reply (inquiry : Inquiry) (answer : Json) : Frame :=
  .response inquiry.number answer

end Inquiry

/-- A link that is opened, with the path the runtime gave. -/
structure OpenedLink where
  inquiry : Inquiry
  path : String
deriving DecidableEq

/-- What the editor is asked for: a path, a line, and whether it is a preview. -/
def OpenedLink.file (opening : OpenedLink) : String × UInt32 × Bool :=
  (opening.path, opening.inquiry.activation.link.openLine, true)

/-- The file an effect asks the editor to open. -/
def Effect.openedFile? : Effect → Option (String × UInt32 × Bool)
  | .openFile path line preview => some (path, line, preview)
  | _ => none

namespace Console

/-- The files the editor has been asked to open, oldest first. -/
def openedFiles (console : Console) : List (String × UInt32 × Bool) :=
  console.trace.filterMap Effect.openedFile?

/-- Whether a resolver is there and has not been shut down. -/
def works (console : Console) (resolver : Nat) : Bool :=
  (console.resolvers[resolver]?).elim false Resolver.alive

/-- The console after an event. -/
def use (console : Console) : LinkEvent → Console
  | .happens event => console.apply event
  | .resumes place => console.resumeTask place
  | .activates ticket resolver link => console.activateLink ticket resolver link
  | .activatesAt ticket resolver position => console.activateAt ticket resolver position

/-- The console after several events. -/
def useAll (console : Console) (events : List LinkEvent) : Console :=
  events.foldl use console

theorem useAll_append (console : Console) (first second : List LinkEvent) :
    console.useAll (first ++ second) = (console.useAll first).useAll second :=
  List.foldl_append

theorem useAll_concat (console : Console) (events : List LinkEvent) (event : LinkEvent) :
    console.useAll (events ++ [event]) = (console.useAll events).use event := by
  rw [useAll_append]
  rfl

/-- What is noted in a run by somebody who sees every event and the console it happens to. -/
def notedIn {Note : Type} (note : Console → LinkEvent → List Note) (console : Console) :
    List LinkEvent → List Note
  | [] => []
  | event :: events => note console event ++ notedIn note (console.use event) events

/-- The link at a position, as it is activated through a resolver. -/
def activationAt? (console : Console) (ticket resolver : Nat) (position : Position) :
    Option Activation :=
  ((console.resolvers[resolver]?).bind fun found => found.linkAt? position).map fun link =>
    ⟨ticket, resolver, link⟩

/-- The link that is activated in an event, if one is.  The user activates links through the
resolver of the session. -/
def activation? (console : Console) : LinkEvent → Option Activation
  | .activates ticket resolver link => some ⟨ticket, resolver, link⟩
  | .activatesAt ticket resolver position => console.activationAt? ticket resolver position
  | .happens (.openLink ticket position) =>
      console.session.cycle.resolver.bind fun resolver =>
        console.activationAt? ticket resolver position
  | .happens _ => none
  | .resumes _ => none

/-- The work that is gone on with in an event. -/
def resumed? (console : Console) : LinkEvent → Option Task
  | .happens (.work .task) => console.tasks[0]?
  | .resumes place => console.tasks[place]?
  | _ => none

/-- The link that is opened when a task is gone on with: one whose activation has an answer that
gives a path, if the resolver still works. -/
def openedLink? (console : Console) : Task → Option OpenedLink
  | .resume ⟨number, _, .opening ticket resolver link⟩ (.ok (.str path)) =>
      if console.works resolver then some ⟨⟨number, ticket, resolver, link⟩, path⟩ else none
  | _ => none

/-- The links that are opened in an event, at most one. -/
def openedLinks (console : Console) (event : LinkEvent) : List OpenedLink :=
  ((console.resumed? event).bind console.openedLink?).toList

end Console

end RuntimeConsole
