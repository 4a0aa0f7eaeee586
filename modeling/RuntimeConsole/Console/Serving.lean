/-
Module: RuntimeConsole.Console.Serving
Purpose: An embedding program that handles what the runtime asks for: the registrations it has
  made, which of them are in force, and what the runtime is due in answer to its calls.
Main exports:
  Registration, Dealing, Serving, Serving.run, Serving.inForce?, Serving.replies,
  Serving.guestRuns, Console.guestRuns
-/
import RuntimeConsole.Console.ConsoleEvent

namespace RuntimeConsole

/-- A handler that was registered for a name. -/
structure Registration where
  name : String
  /-- The number it is removed by. -/
  id : Nat
  handler : Handler
  /-- Whether it has not been released yet. -/
  live : Bool

namespace Registration

/-- The registration after its release. -/
def ended (registration : Registration) : Registration :=
  { registration with live := false }

/-- The registration after the one with a given number has been released. -/
def afterRelease (registration : Registration) (id : Nat) : Registration :=
  if registration.id = id then registration.ended else registration

@[simp] theorem afterRelease_name (registration : Registration) (id : Nat) :
    (registration.afterRelease id).name = registration.name := by
  unfold afterRelease
  split <;> rfl

@[simp] theorem afterRelease_id (registration : Registration) (id : Nat) :
    (registration.afterRelease id).id = registration.id := by
  unfold afterRelease
  split <;> rfl

@[simp] theorem afterRelease_handler (registration : Registration) (id : Nat) :
    (registration.afterRelease id).handler = registration.handler := by
  unfold afterRelease
  split <;> rfl

/-- A handler with its number, if its registration has not been released. -/
def numbered? (registration : Registration) : Option (Nat × Handler) :=
  if registration.live then some (registration.id, registration.handler) else none

end Registration

/-- Something that concerns a console whose embedding program handles requests. -/
inductive Dealing where
  /-- Something happens to the console.  It may be that a handler is registered. -/
  | happens (event : ConsoleEvent)
  /-- The registration with a given number is released, for the first time or once more. -/
  | releases (id : Nat)

namespace Dealing

/-- Whether it is a frame of the runtime, a registration or a release. -/
def isExchange : Dealing → Bool
  | .happens (.event (.frame _)) | .happens (.serves ..) | .releases _ => true
  | .happens _ => false

/-- Whether no handler is registered by it that uses the client itself. -/
def isPassive : Dealing → Bool
  | .happens (.serves _ _ sends _) => sends.isNone
  | .happens _ | .releases _ => true

/-- The number of the call of the runtime that comes in. -/
def call? : Dealing → Option Nat
  | .happens (.event (.frame (.call id _ _))) => some id
  | _ => none

end Dealing

/-- The number of the call that a frame answers. -/
def Frame.answered? : Frame → Option Nat
  | .response id _ | .error id _ => some id
  | .message .. | .call .. => none

/-- What code of the embedding program, known by its label, is given to handle where a handler has
to handle a request. -/
def Handler.guestRun (args : List Json) : Handler → List (Json × List Json)
  | .guest label _ _ => [(label, args)]
  | _ => []

/-- What code of the embedding program was given to handle, if an effect is that it was. -/
def Effect.guestRun? : Effect → Option (Json × List Json)
  | .guestHandled label args => some (label, args)
  | _ => none

/-- The requests that code of the embedding program has handled, oldest first. -/
def Console.guestRuns (console : Console) : List (Json × List Json) :=
  console.trace.filterMap Effect.guestRun?

/-- A console with all registrations that were ever made, the latest first. -/
structure Serving where
  console : Console
  registrations : List Registration

namespace Serving

/-- The handlers there are have been registered before and not been released. -/
def begin (console : Console) : Serving where
  console := console
  registrations := console.client.handlers.map fun entry => ⟨entry.1, entry.2.1, entry.2.2, true⟩

/-- A handler is registered. -/
def register (now : Serving) (name : String) (handler : Handler) : Serving where
  console := (now.console.handleRequests name handler).1
  registrations := ⟨name, now.console.client.nextId, handler, true⟩ :: now.registrations

/-- The registration with a given number is released.  Its owner does what it does on every
release, whether the registration is still in force or not. -/
def release (now : Serving) (id : Nat) : Serving :=
  match now.registrations.find? fun registration => registration.id == id with
  | none => now
  | some found =>
      { console := now.console.release (.handler found.name id)
        registrations := now.registrations.map (Registration.afterRelease · id) }

/-- The console and its registrations after a dealing. -/
def apply (now : Serving) : Dealing → Serving
  | .happens (.serves name label sends reply) => now.register name (.guest label sends reply)
  | .happens event => { now with console := now.console.undergo event }
  | .releases id => now.release id

/-- The console and its registrations after several dealings. -/
def run (now : Serving) (dealings : List Dealing) : Serving :=
  dealings.foldl apply now

/-! ### What is due -/

/-- The latest registration for a name. -/
def latest? (now : Serving) (name : String) : Option Registration :=
  now.registrations.find? fun registration => registration.name == name

/-- The handler in force for a name, with its number: the one of the latest registration, if that
has not been released.  Those it replaced do not come back. -/
def inForce? (now : Serving) (name : String) : Option (Nat × Handler) :=
  (now.latest? name).bind Registration.numbered?

/-- What comes of a request. -/
def result (now : Serving) (name : String) (args : List Json) : Except Failure Json :=
  match now.inForce? name with
  | some (_, handler) => (now.console.handle args handler).2
  | none => .error (.unknownHandler name)

/-- The frames due to the runtime for a dealing. -/
def reply (now : Serving) : Dealing → List Frame
  | .happens (.event (.frame (.call id name args))) => [Console.replyFrame id (now.result name args)]
  | _ => []

/-- What code of the embedding program is to handle in a request. -/
def guestRun (now : Serving) (name : String) (args : List Json) : List (Json × List Json) :=
  (now.inForce? name).elim [] fun entry => entry.2.guestRun args

/-- What code of the embedding program is to handle in a dealing. -/
def guestRunsIn (now : Serving) : Dealing → List (Json × List Json)
  | .happens (.event (.frame (.message name args)))
  | .happens (.event (.frame (.call _ name args))) => now.guestRun name args
  | _ => []

/-- Notes that are taken of every dealing, by somebody who knows the registrations made so far. -/
def noted {Note : Type} (note : Serving → Dealing → List Note) (now : Serving) :
    List Dealing → List Note
  | [] => []
  | dealing :: dealings => note now dealing ++ noted note (now.apply dealing) dealings

/-- The frames due to the runtime for several dealings. -/
def replies (now : Serving) (dealings : List Dealing) : List Frame :=
  now.noted reply dealings

/-- What code of the embedding program is to handle in several dealings. -/
def guestRuns (now : Serving) (dealings : List Dealing) : List (Json × List Json) :=
  now.noted guestRunsIn dealings

end Serving

end RuntimeConsole
