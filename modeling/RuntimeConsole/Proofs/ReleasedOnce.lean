/-
Module: RuntimeConsole.Proofs.ReleasedOnce
Purpose: Every subscription has one owner until it is released, and its release action is run
  then and only then, whatever its owners do.
Main exports:
  Ownership.Accounted, Ownership.Accounted.step, ReleasedOnce, released_once
-/
import Mathlib.Data.List.Basic
import Mathlib.Data.List.Induction
import RuntimeConsole.Subscription

namespace RuntimeConsole

/-! ### Lists of handles -/

namespace Disposables

variable {Action : Type}

/-- The actions of a list that are still to be run, in the order in which they were added. -/
def pending (list : Disposables (Handle Action)) : List Action :=
  list.actions.filterMap Handle.pending

theorem dispose_eq (list : Disposables (Handle Action)) :
    list.dispose = (.empty, list.pending.reverse) := by
  have unsubscribed : Handle.unsubscribe = fun handle : Handle Action => handle.pending.toList :=
    funext Handle.unsubscribe_eq
  rw [dispose, unsubscribed, ← List.filterMap_eq_flatMap_toList, releaseOrder,
    List.filterMap_reverse, pending]

/-- A list that is given up has been disposed of, and holds nothing any more. -/
theorem drop_eq (list : Disposables (Handle Action)) : list.drop = list.pending.reverse := by
  rw [drop, dispose_eq]
  exact List.append_nil _

end Disposables

namespace Ownership

/-! ### Places -/

/-- The handles in the list. -/
def handles (state : Ownership) : List (Handle Nat) :=
  (state.listed.map Disposables.actions).getD []

/-- The subscriptions that are loose. -/
def looseOnes (state : Ownership) : List Nat :=
  state.loose.filterMap fun place => place.bind Handle.pending

/-- The subscriptions in the list, in the order in which they were added. -/
def members (state : Ownership) : List Nat :=
  state.handles.filterMap Handle.pending

/-- The subscriptions a step adds to the list. -/
def enters (state : Ownership) : OwnershipStep → List Nat
  | .add => if state.listed.isSome then [state.created] else []
  | .move index =>
      if state.listed.isSome then ((state.looseAt? index).bind Handle.pending).toList else []
  | _ => []

/-- The subscriptions that were added to the list by several steps, in order. -/
def entered (state : Ownership) : List OwnershipStep → List Nat
  | [] => []
  | step :: steps => state.enters step ++ (state.step step).1.entered steps

theorem entered_concat (state : Ownership) (steps : List OwnershipStep) (step : OwnershipStep) :
    state.entered (steps ++ [step]) = state.entered steps ++ (state.run steps).enters step := by
  induction steps generalizing state with
  | nil => simp [entered, run]
  | cons first steps inductionHypothesis =>
      rw [List.cons_append, entered, entered, inductionHypothesis, List.append_assoc]
      rfl

/-- What a list that is given up runs. -/
theorem replaceList_eq (state : Ownership) (listed : Option (Disposables (Handle Nat))) :
    state.replaceList listed = ({ state with listed := listed }, state.members.reverse) := by
  cases present : state.listed with
  | none => simp [replaceList, members, handles, present]
  | some list => simp [replaceList, members, handles, present, Disposables.drop_eq,
      Disposables.pending]

/-- A gap in the place of a loose subscription. -/
theorem count_gap {loose : List (Option (Handle Nat))} {index : Nat} {handle : Handle Nat}
    (found : loose[index]? = some (some handle)) (number : Nat) :
    (loose.filterMap fun place => place.bind Handle.pending).count number =
      handle.pending.toList.count number +
        ((loose.set index none).filterMap fun place => place.bind Handle.pending).count number := by
  obtain ⟨inside, here⟩ := List.getElem?_eq_some_iff.mp found
  have split := List.set_eq_take_append_cons_drop (l := loose) (i := index) (a := none)
  rw [if_pos inside] at split
  have whole : loose = loose.take index ++ some handle :: loose.drop (index + 1) := by
    rw [← here, ← List.drop_eq_getElem_cons, List.take_append_drop]
  rw [split]
  conv_lhs => rw [whole]
  cases pending : handle.pending with
  | none => simp [pending]
  | some action =>
      simp only [List.filterMap_append, List.filterMap_cons, Option.bind_some, Option.bind_none,
        pending, List.count_append, Option.toList_some]
      rw [← List.singleton_append, List.count_append]
      omega

/-! ### What holds between two steps -/

/-- Every subscription created is accounted for: it is in somebody's hand, loose, in the list or
released. -/
structure Accounted (hand : List Nat) (state : Ownership) (entered released : List Nat) : Prop where
  /-- Whoever is loose has its action still to be run. -/
  loose : ∀ handle, some handle ∈ state.loose → handle.pending ≠ none
  /-- Whoever is in the list has its action still to be run. -/
  listed : ∀ handle ∈ state.handles, handle.pending ≠ none
  places : ∀ number, hand.count number + state.looseOnes.count number +
    state.members.count number + released.count number = if number < state.created then 1 else 0
  order : state.members = entered.filter fun number => number ∉ released

variable {state : Ownership} {hand entered released : List Nat} {number : Nat}

theorem accounted_initial : Accounted [] initial [] [] where
  loose handle member := by cases member
  listed handle member := by cases member
  places number := by simp [initial, looseOnes, members, handles, Disposables.empty]
  order := rfl

/-- Whoever is in somebody's hand, loose or in the list has not been released. -/
theorem Accounted.not_released (accounted : Accounted [number] state entered released) :
    number ∉ state.members ∧ number ∉ released := by
  have one := accounted.places number
  rw [List.count_singleton_self] at one
  refine ⟨fun member => ?_, fun member => ?_⟩
  all_goals
    have more := List.count_pos_iff.mpr member
    split at one <;> omega

/-- A subscription is created. -/
theorem Accounted.create (accounted : Accounted [] state entered released) :
    Accounted [state.created] { state with created := state.created + 1 } entered released where
  loose := accounted.loose
  listed := accounted.listed
  places number := by
    have before := accounted.places number
    rw [List.count_nil] at before
    change [state.created].count number + state.looseOnes.count number +
      state.members.count number + released.count number =
        if number < state.created + 1 then 1 else 0
    rw [List.count_singleton]
    by_cases new : number = state.created
    · subst new
      simp at before ⊢
      omega
    · have other : (state.created == number) = false := by simpa using Ne.symm new
      have small : number < state.created + 1 ↔ number < state.created := by omega
      rw [other, if_neg (by simp)]
      simp only [small]
      omega
  order := accounted.order

/-- A loose subscription is taken into the hand. -/
theorem Accounted.take (accounted : Accounted [] state entered released) {index : Nat}
    {handle : Handle Nat} (found : state.looseAt? index = some handle) :
    ∃ number, handle = .fresh number ∧
      Accounted [number] (state.takeLoose index) entered released := by
  have place : state.loose[index]? = some (some handle) := Option.join_eq_some_iff.mp found
  obtain ⟨number, pending⟩ := Option.ne_none_iff_exists'.mp
    (accounted.loose handle (List.mem_of_getElem? place))
  refine ⟨number, ?_, ?_, accounted.listed, fun other => ?_, accounted.order⟩
  · rw [Handle.fresh, ← pending]
  · intro other member
    rcases List.mem_or_eq_of_mem_set member with known | gap
    · exact accounted.loose other known
    · cases gap
  · have before := accounted.places other
    have taken := count_gap place other
    rw [pending, Option.toList_some] at taken
    rw [List.count_nil, looseOnes, taken] at before
    change [number].count other + ((state.loose.set index none).filterMap fun place =>
      place.bind Handle.pending).count other + state.members.count other + _ =
        if other < state.created then 1 else 0
    omega

/-- What is in the hand is laid down. -/
theorem Accounted.loosen (accounted : Accounted [number] state entered released) :
    Accounted [] { state with loose := state.loose ++ [some (.fresh number)] } entered
      released where
  loose handle member := by
    rcases List.mem_append.mp member with known | new
    · exact accounted.loose handle known
    · obtain rfl := Option.some.inj (List.mem_singleton.mp new)
      exact Option.some_ne_none number
  listed := accounted.listed
  places other := by
    have before := accounted.places other
    have grown : looseOnes { state with loose := state.loose ++ [some (.fresh number)] } =
        state.looseOnes ++ [number] := by simp [looseOnes, Handle.fresh]
    rw [grown, List.count_append, List.count_nil]
    change _ + state.members.count other + _ = if other < state.created then 1 else 0
    omega
  order := accounted.order

/-- What is in the hand is released. -/
theorem Accounted.release (accounted : Accounted [number] state entered released) :
    Accounted [] state entered (released ++ [number]) where
  loose := accounted.loose
  listed := accounted.listed
  places other := by
    have before := accounted.places other
    rw [List.count_append, List.count_nil]
    omega
  order := by
    obtain ⟨unlisted, -⟩ := accounted.not_released
    have apart : ∀ member ∈ state.members, decide (member ∉ [number]) = true := by
      intro member known
      simp only [List.mem_singleton, decide_eq_true_eq]
      rintro rfl
      exact unlisted known
    rw [← List.filter_eq_self.mpr apart]
    conv_lhs => rw [accounted.order]
    simp [List.filter_filter, Bool.and_comm]

/-- What is in the hand is given to the list, or released where there is none. -/
theorem Accounted.enlist (accounted : Accounted [number] state entered released) :
    Accounted [] (state.enlist (.fresh number)).1
      (entered ++ if state.listed.isSome then [number] else [])
      (released ++ (state.enlist (.fresh number)).2) := by
  cases present : state.listed with
  | none =>
      have given : state.enlist (.fresh number) = (state, [number]) := by
        rw [Ownership.enlist, present]
        rfl
      rw [given]
      simpa using accounted.release
  | some list =>
      have given : state.enlist (.fresh number) =
          ({ state with listed := some (list.add (.fresh number)) }, []) := by
        rw [Ownership.enlist, present]
      have before : state.handles = list.actions := by simp [handles, present]
      have grown : members { state with listed := some (list.add (.fresh number)) } =
          state.members ++ [number] := by
        simp [members, handles, present, Disposables.add, Handle.fresh]
      rw [given, List.append_nil]
      refine ⟨accounted.loose, fun handle member => ?_, fun other => ?_, ?_⟩
      · rcases List.mem_append.mp member with known | new
        · exact accounted.listed handle (before ▸ known)
        · obtain rfl := List.mem_singleton.mp new
          exact Option.some_ne_none number
      · have before := accounted.places other
        rw [grown, List.count_append, List.count_nil]
        change _ + state.looseOnes.count other + _ + _ = if other < state.created then 1 else 0
        omega
      · rw [grown, List.filter_append, ← accounted.order]
        simp [accounted.not_released.2]

/-- The list is given up. -/
theorem Accounted.giveUp (accounted : Accounted [] state entered released)
    (listed : Option (Disposables (Handle Nat)))
    (bare : (listed.map Disposables.actions).getD [] = []) :
    Accounted [] { state with listed := listed } entered (released ++ state.members.reverse) := by
  have left : members { state with listed := listed } = [] := by
    rw [members, handles, bare, List.filterMap_nil]
  refine ⟨accounted.loose, fun handle member => ?_, fun other => ?_, ?_⟩
  · rw [handles, bare] at member
    cases member
  · have before := accounted.places other
    rw [left, List.count_append, List.count_reverse, List.count_nil]
    rw [List.count_nil] at before
    change _ + state.looseOnes.count other + _ + _ = if other < state.created then 1 else 0
    omega
  · rw [left, eq_comm, List.filter_eq_nil_iff]
    intro other member gone
    have kept : other ∈ state.members := by
      rw [accounted.order, List.mem_filter]
      exact ⟨member, by simp at gone ⊢; exact gone.1⟩
    simp at gone
    exact gone.2 kept

/-! ### Steps and runs -/

theorem Accounted.step (accounted : Accounted [] state entered released) (step : OwnershipStep) :
    Accounted [] (state.step step).1 (entered ++ state.enters step)
      (released ++ (state.step step).2) := by
  cases step with
  | add => exact accounted.create.enlist
  | make => simpa [enters, Ownership.step] using accounted.create.loosen
  | unsubscribe index =>
      cases found : state.looseAt? index with
      | none => simpa [enters, Ownership.step, found] using accounted
      | some handle =>
          obtain ⟨number, rfl, taken⟩ := accounted.take found
          simpa [enters, Ownership.step, found, Handle.unsubscribe_eq, Handle.fresh]
            using taken.release
  | drop index =>
      cases found : state.looseAt? index with
      | none => simpa [enters, Ownership.step, found] using accounted
      | some handle =>
          obtain ⟨number, rfl, taken⟩ := accounted.take found
          simpa [enters, Ownership.step, found, Handle.drop_eq, Handle.fresh] using taken.release
  | move index =>
      cases found : state.looseAt? index with
      | none => simpa [enters, Ownership.step, found] using accounted
      | some handle =>
          obtain ⟨number, rfl, taken⟩ := accounted.take found
          have given : state.step (.move index) =
              (state.takeLoose index).enlist (.fresh number) := by rw [Ownership.step, found]
          have entering : state.enters (.move index) =
              if (state.takeLoose index).listed.isSome then [number] else [] := by
            rw [enters, found]
            rfl
          rw [given, entering]
          exact taken.enlist
  | dispose =>
      cases present : state.listed with
      | none => simpa [enters, Ownership.step, present] using accounted
      | some list =>
          have emptied := accounted.giveUp (some .empty) rfl
          have all : list.pending = state.members := by
            simp [members, handles, present, Disposables.pending]
          simpa [enters, Ownership.step, present, Disposables.dispose_eq, all] using emptied
  | dropList =>
      simpa [enters, Ownership.step, replaceList_eq] using accounted.giveUp none rfl
  | newList =>
      simpa [enters, Ownership.step, replaceList_eq]
        using accounted.giveUp (some .empty) rfl

theorem accounted_run (steps : List OwnershipStep) :
    Accounted [] (initial.run steps) (initial.entered steps) (initial.released steps) := by
  induction steps using List.reverseRecOn with
  | nil => exact accounted_initial
  | append_singleton steps step inductionHypothesis =>
      rw [run_concat, entered_concat, released_concat]
      exact inductionHypothesis.step step

/-- Whether a subscription is created in a step. -/
def creates : OwnershipStep → Bool
  | .add | .make => true
  | _ => false

theorem created_step (state : Ownership) (step : OwnershipStep) :
    (state.step step).1.created = state.created + if creates step then 1 else 0 := by
  have enlisting (state : Ownership) (handle : Handle Nat) :
      (state.enlist handle).1.created = state.created := by
    unfold enlist
    split <;> rfl
  cases step with
  | add => exact enlisting _ _
  | make => rfl
  | unsubscribe index | drop index =>
      unfold Ownership.step
      dsimp only
      split <;> rfl
  | move index =>
      unfold Ownership.step
      dsimp only
      split
      · exact enlisting _ _
      · rfl
  | dispose =>
      unfold Ownership.step
      dsimp only
      split <;> rfl
  | dropList | newList => rfl

theorem created_run (steps : List OwnershipStep) :
    (initial.run steps).created = steps.countP creates := by
  induction steps using List.reverseRecOn with
  | nil => rfl
  | append_singleton steps step inductionHypothesis =>
      rw [run_concat, created_step, inductionHypothesis, List.countP_append, List.countP_singleton]

/-- What runs when the list is disposed of, given up or replaced. -/
theorem step_list (state : Ownership) {step : OwnershipStep}
    (ends : step = .dispose ∨ step = .dropList ∨ step = .newList) :
    (state.step step).2 = state.members.reverse ∧ (state.step step).1.members = [] := by
  rcases ends with rfl | rfl | rfl
  · cases present : state.listed with
    | none => simp [Ownership.step, members, handles, present]
    | some list => simp [Ownership.step, members, handles, present, Disposables.dispose_eq,
        Disposables.pending, Disposables.empty]
  · rw [Ownership.step, replaceList_eq]
    exact ⟨rfl, rfl⟩
  · rw [Ownership.step, replaceList_eq]
    exact ⟨rfl, rfl⟩

end Ownership

open Ownership

/-- Where the subscriptions created in some steps are, and whose release actions have run. -/
structure ReleasedOnce (steps : List OwnershipStep) : Prop where
  created : (initial.run steps).created = steps.countP creates
  /-- Every subscription created is loose, in the list or released, in one of these places only
  and once there.  Nothing else is in any of them. -/
  places : ((initial.run steps).looseOnes ++ (initial.run steps).members ++
    initial.released steps).Perm (List.range (initial.run steps).created)
  /-- A subscription that has been released has been so once, and no other has been. -/
  once : ∀ number < (initial.run steps).created, (initial.released steps).count number =
    if number ∈ (initial.run steps).looseOnes ∨ number ∈ (initial.run steps).members then 0 else 1
  /-- Every handle that is loose or in the list has its action still to be run. -/
  pending : ∀ handle, some handle ∈ (initial.run steps).loose ∨
    handle ∈ (initial.run steps).handles → handle.pending ≠ none
  /-- The release of a loose subscription runs its action and no other. -/
  alone : ∀ index handle, (initial.run steps).looseAt? index = some handle →
    ∃ number, handle = .fresh number ∧
      ((initial.run steps).step (.unsubscribe index)).2 = [number] ∧
      ((initial.run steps).step (.drop index)).2 = [number]
  /-- The list holds what was added to it and has not been released, in the order in which it
  was added. -/
  order : (initial.run steps).members =
    (initial.entered steps).filter fun number => number ∉ initial.released steps
  /-- A list that is disposed of, given up or replaced runs the actions of its members, the one
  added last first, and has none of them afterwards. -/
  disposal : ∀ step, step = .dispose ∨ step = .dropList ∨ step = .newList →
    ((initial.run steps).step step).2 = (initial.run steps).members.reverse ∧
      ((initial.run steps).step step).1.members = []

/-- Whatever is done with subscriptions, each has one owner until it is released, and its release
action is run once, when that happens. -/
theorem released_once (steps : List OwnershipStep) : ReleasedOnce steps := by
  have accounted := accounted_run steps
  have counted (number : Nat) : (initial.run steps).looseOnes.count number +
      (initial.run steps).members.count number + (initial.released steps).count number =
        if number < (initial.run steps).created then 1 else 0 := by
    have places := accounted.places number
    rw [List.count_nil] at places
    omega
  exact {
    created := created_run steps
    places := List.perm_iff_count.mpr fun number => by
      rw [List.count_append, List.count_append, counted, List.count_range]
    once := fun number known => by
      have places := counted number
      rw [if_pos known] at places
      simp only [← List.count_pos_iff]
      split <;> omega
    pending := fun handle held => held.elim (accounted.loose handle) (accounted.listed handle)
    alone := fun index handle found => by
      obtain ⟨number, rfl, -⟩ := accounted.take found
      exact ⟨number, rfl, by simp [Ownership.step, found, Handle.unsubscribe_eq, Handle.fresh],
        by simp [Ownership.step, found, Handle.drop_eq, Handle.fresh]⟩
    order := accounted.order
    disposal := fun step ends => step_list _ ends }

/-- A loose subscription that is moved into the list comes after those that were in it. -/
example : initial.released [.make, .add, .add, .move 0, .dispose, .dropList] = [0, 2, 1] := by
  decide

end RuntimeConsole
