/-
Module: RuntimeConsole.Subscription
Purpose: Release actions, owned by handles or by lists of them.
Main exports:
  Handle, Disposables, Ownership, Ownership.step, Ownership.run, Ownership.released
-/

namespace RuntimeConsole

/-- What the owner of a subscription holds: its release action, until that has run. -/
structure Handle (Action : Type) where
  pending : Option Action
deriving Repr, DecidableEq, Inhabited

namespace Handle

variable {Action : Type}

/-- The handle of a new subscription. -/
def fresh (action : Action) : Handle Action := ⟨some action⟩

/-- Runs the release action, unless it has run before.  The second part of the
result is what has been run. -/
def release (handle : Handle Action) : Handle Action × List Action :=
  match handle.pending with
  | some action => (⟨none⟩, [action])
  | none => (handle, [])

/-- Gives a handle up, which releases it. -/
def drop (handle : Handle Action) : List Action :=
  handle.release.2

/-- Releases a handle at once.  It is given up afterwards. -/
def unsubscribe (handle : Handle Action) : List Action :=
  let (handle, ran) := handle.release
  ran ++ handle.drop

theorem drop_eq (handle : Handle Action) : handle.drop = handle.pending.toList := by
  unfold drop release
  cases handle.pending <;> rfl

/-- A handle that has been released has nothing left to run. -/
theorem drop_release (handle : Handle Action) : handle.release.1.drop = [] := by
  rw [drop_eq, release]
  cases pending : handle.pending with
  | none => simp [pending]
  | some action => rfl

theorem unsubscribe_eq (handle : Handle Action) :
    handle.unsubscribe = handle.pending.toList := by
  change handle.drop ++ handle.release.1.drop = _
  rw [drop_release, List.append_nil, drop_eq]

end Handle

/-- A list of release actions that are run together, oldest first. -/
structure Disposables (Action : Type) where
  actions : List Action
deriving Repr, DecidableEq, Inhabited

namespace Disposables

variable {Action : Type}

/-- The list without actions. -/
def empty : Disposables Action := ⟨[]⟩

/-- The list with one action more. -/
def add (list : Disposables Action) (action : Action) : Disposables Action :=
  ⟨list.actions ++ [action]⟩

/-- The list with several actions more. -/
def addAll (list : Disposables Action) (actions : List Action) : Disposables Action :=
  ⟨list.actions ++ actions⟩

/-- The number of actions. -/
def size (list : Disposables Action) : Nat :=
  list.actions.length

/-- The actions in the order in which they are run: the most recent first. -/
def releaseOrder (list : Disposables Action) : List Action :=
  list.actions.reverse

/-- Releases every handle of a list.  The second part of the result is what has
been run. -/
def dispose (list : Disposables (Handle Action)) :
    Disposables (Handle Action) × List Action :=
  (empty, list.releaseOrder.flatMap Handle.unsubscribe)

/-- Gives a list of handles up, which disposes of it. -/
def drop (list : Disposables (Handle Action)) : List Action :=
  let (list, ran) := list.dispose
  ran ++ list.actions.flatMap Handle.drop

end Disposables

/-- Subscriptions and who owns each.  Subscriptions are numbered in the order of
their creation, and the number of each is its release action; a subscription that
is neither loose nor listed has been released. -/
structure Ownership where
  /-- The number of subscriptions created. -/
  created : Nat
  /-- The loose subscriptions in the order of their creation, with a gap for each
  that is loose no more. -/
  loose : List (Option (Handle Nat))
  /-- The list, while there is one. -/
  listed : Option (Disposables (Handle Nat))
deriving Repr, DecidableEq, Inhabited

/-- What can be done with subscriptions. -/
inductive OwnershipStep where
  /-- Create a subscription and add it to the list. -/
  | add
  /-- Create a loose subscription. -/
  | make
  /-- Release a loose subscription. -/
  | unsubscribe (index : Nat)
  /-- Give up a loose subscription, which releases it. -/
  | drop (index : Nat)
  /-- Move a loose subscription into the list. -/
  | move (index : Nat)
  /-- Release everything in the list. -/
  | dispose
  /-- Give up the list, which releases everything in it. -/
  | dropList
  /-- Begin a new list in the place of the old one. -/
  | newList
deriving Repr, DecidableEq, Inhabited

namespace Ownership

/-- No subscription, and an empty list. -/
def initial : Ownership := ⟨0, [], some .empty⟩

/-- The loose subscription at an index. -/
def looseAt? (state : Ownership) (index : Nat) : Option (Handle Nat) :=
  state.loose[index]?.join

/-- The state without the loose subscription at an index. -/
def takeLoose (state : Ownership) (index : Nat) : Ownership :=
  { state with loose := state.loose.set index none }

/-- Gives a subscription to the list.  Where there is no list it is given up. -/
def enlist (state : Ownership) (handle : Handle Nat) : Ownership × List Nat :=
  match state.listed with
  | some list => ({ state with listed := some (list.add handle) }, [])
  | none => (state, handle.drop)

/-- Puts something in the place of the list, which is given up. -/
def replaceList (state : Ownership) (listed : Option (Disposables (Handle Nat))) :
    Ownership × List Nat :=
  ({ state with listed := listed }, (state.listed.map Disposables.drop).getD [])

/-- Carries out a step.  The second part of the result are the subscriptions
whose release actions were run by it, in order. -/
def step (state : Ownership) : OwnershipStep → Ownership × List Nat
  | .add => { state with created := state.created + 1 }.enlist (.fresh state.created)
  | .make =>
      ({ state with
          created := state.created + 1
          loose := state.loose ++ [some (.fresh state.created)] }, [])
  | .unsubscribe index =>
      match state.looseAt? index with
      | some handle => (state.takeLoose index, handle.unsubscribe)
      | none => (state, [])
  | .drop index =>
      match state.looseAt? index with
      | some handle => (state.takeLoose index, handle.drop)
      | none => (state, [])
  | .move index =>
      match state.looseAt? index with
      | some handle => (state.takeLoose index).enlist handle
      | none => (state, [])
  | .dispose =>
      match state.listed with
      | some list =>
          let (list, ran) := list.dispose
          ({ state with listed := some list }, ran)
      | none => (state, [])
  | .dropList => state.replaceList none
  | .newList => state.replaceList (some .empty)

/-- The state after several steps. -/
def run (state : Ownership) (steps : List OwnershipStep) : Ownership :=
  steps.foldl (fun state step => (state.step step).1) state

/-- The subscriptions whose release actions are run by several steps, in order. -/
def released (state : Ownership) : List OwnershipStep → List Nat
  | [] => []
  | step :: steps => (state.step step).2 ++ (state.step step).1.released steps

theorem run_concat (state : Ownership) (steps : List OwnershipStep) (step : OwnershipStep) :
    state.run (steps ++ [step]) = ((state.run steps).step step).1 := by
  simp [run]

theorem released_concat (state : Ownership) (steps : List OwnershipStep)
    (step : OwnershipStep) :
    state.released (steps ++ [step]) =
      state.released steps ++ ((state.run steps).step step).2 := by
  induction steps generalizing state with
  | nil => simp [released, run]
  | cons first steps inductionHypothesis =>
      rw [List.cons_append, released, released, inductionHypothesis, List.append_assoc]
      rfl

end Ownership

end RuntimeConsole
