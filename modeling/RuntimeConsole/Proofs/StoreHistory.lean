/-
Module: RuntimeConsole.Proofs.StoreHistory
Purpose: An observer of a value is told its part of it at once and then exactly the changes of
  that part, in every history of the value and of those who observe it.
Main exports:
  Store.Keyed, Store.Gone, Store.heardBy_eq, ObserverTold, Store.observerTold
-/
import Mathlib.Data.List.Destutter
import RuntimeConsole.Config.StoreEvent

namespace RuntimeConsole

section

variable {Value Part Listener : Type}

@[simp] theorem toldTo_append (key : Nat) (first second : List (Nat × Listener × Part)) :
    toldTo key (first ++ second) = toldTo key first ++ toldTo key second :=
  List.filterMap_append

namespace StoreEvent

variable {key : Nat}

/-- Other observers do not matter to the values an observer may be told of. -/
theorem valuesUntil_seenBy (value : Value) (events : List (StoreEvent Value Part Listener)) :
    valuesUntil 0 value (events.filterMap (seenBy key)) = valuesUntil key value events := by
  induction events generalizing value with
  | nil => rfl
  | cons event events inductionHypothesis =>
      cases event with
      | update next => exact congrArg (List.cons next) (inductionHypothesis next)
      | modify change => exact congrArg (List.cons _) (inductionHypothesis (change value))
      | observe select listener => exact inductionHypothesis value
      | release other =>
          by_cases own : other = key
          · simp [seenBy, valuesUntil, own]
          · simpa [seenBy, valuesUntil, own] using inductionHypothesis value

/-- Nor does what happens after it was removed. -/
theorem valuesUntil_append_release (value : Value)
    (events more : List (StoreEvent Value Part Listener)) :
    valuesUntil key value (events ++ .release key :: more) = valuesUntil key value events := by
  induction events generalizing value with
  | nil => simp [valuesUntil]
  | cons event events inductionHypothesis =>
      cases event with
      | update next => exact congrArg (List.cons next) (inductionHypothesis next)
      | modify change => exact congrArg (List.cons _) (inductionHypothesis (change value))
      | observe select listener => exact inductionHypothesis value
      | release other =>
          rw [List.cons_append, valuesUntil, valuesUntil, inductionHypothesis]

end StoreEvent

namespace Store

/-- Every observer has a key of its own, which was given away. -/
structure Keyed (store : Store Value Part Listener) : Prop where
  given : ∀ observer ∈ store.observers, observer.key < store.nextKey
  apart : (store.observers.map Observer.key).Nodup

variable {store : Store Value Part Listener} {observer : Observer Value Part Listener}

theorem ofValue_keyed (value : Value) :
    (ofValue value : Store Value Part Listener).Keyed :=
  ⟨nofun, List.nodup_nil⟩

theorem Keyed.observe (keyed : store.Keyed) (select : Value → Part) (listener : Listener) :
    (store.observe select listener).1.Keyed where
  given observer member := by
    rcases List.mem_append.mp member with old | new
    · exact Nat.lt_succ_of_lt (keyed.given observer old)
    · obtain rfl := List.mem_singleton.mp new
      exact Nat.lt_succ_self _
  apart := by
    have fresh : store.nextKey ∉ store.observers.map Observer.key := fun member => by
      obtain ⟨observer, known, same⟩ := List.mem_map.mp member
      exact Nat.lt_irrefl _ (same ▸ keyed.given observer known)
    change ((store.observers ++ [_]).map Observer.key).Nodup
    rw [List.map_append]
    refine List.nodup_append.mpr ⟨keyed.apart, List.nodup_singleton _,
      fun key known other new same => fresh ?_⟩
    have last : key = store.nextKey := same.trans (List.mem_singleton.mp new)
    exact last ▸ known

theorem Keyed.release (keyed : store.Keyed) (key : Nat) : (store.release key).Keyed where
  given observer member := keyed.given observer (List.mem_filter.mp member).1
  apart := keyed.apart.sublist (List.filter_sublist.map _)

variable [BEq Part]

theorem Keyed.update (keyed : store.Keyed) (value : Value) : (store.update value).1.Keyed where
  given observer member := by
    obtain ⟨old, known, rfl⟩ := List.mem_map.mp member
    exact old.see_key value ▸ keyed.given old known
  apart := by
    change ((store.observers.map (·.see value)).map Observer.key).Nodup
    rw [List.map_map]
    exact (congrArg (fun key => store.observers.map key)
      (funext (Observer.see_key value))) ▸ keyed.apart

theorem Keyed.apply (keyed : store.Keyed) (event : StoreEvent Value Part Listener) :
    (store.apply event).Keyed := by
  cases event with
  | update value => exact keyed.update value
  | modify change => exact keyed.update (change store.current)
  | observe select listener => exact keyed.observe select listener
  | release key => exact keyed.release key

theorem Keyed.run (keyed : store.Keyed) (events : List (StoreEvent Value Part Listener)) :
    (store.run events).Keyed := by
  induction events generalizing store with
  | nil => exact keyed
  | cons event events inductionHypothesis => exact inductionHypothesis (keyed.apply event)

/-- Keys are given away and not taken back. -/
theorem nextKey_le_apply (store : Store Value Part Listener)
    (event : StoreEvent Value Part Listener) : store.nextKey ≤ (store.apply event).nextKey := by
  cases event with
  | update value => exact Nat.le_refl _
  | modify change => exact Nat.le_refl _
  | observe select listener => exact Nat.le_succ _
  | release key => exact Nat.le_refl _

/-! ### What one observer is told of a new value -/

theorem toldTo_notices (store : Store Value Part Listener) (value : Value) (key : Nat) :
    toldTo key (store.notices value) =
      store.observers.filterMap fun observer =>
        if observer.key = key then notice? value observer else none := by
  rw [toldTo, notices, List.filterMap_filterMap]
  refine congrArg (fun told => store.observers.filterMap told) (funext fun observer => ?_)
  by_cases same : observer.key = key
  · cases notice? value observer <;> simp [same]
  · cases notice? value observer <;> simp [same]

theorem Keyed.toldTo_notices (keyed : store.Keyed) (known : observer ∈ store.observers)
    (value : Value) :
    toldTo observer.key (store.notices value) = (notice? value observer).toList := by
  rw [Store.toldTo_notices]
  have apart := keyed.apart
  generalize store.observers = observers at known apart
  induction observers with
  | nil => exact absurd known List.not_mem_nil
  | cons first observers inductionHypothesis =>
      obtain ⟨fresh, apart⟩ := List.nodup_cons.mp apart
      rcases List.mem_cons.mp known with rfl | later
      · have others : observers.filterMap (fun other =>
            if other.key = observer.key then notice? value other else none) = [] :=
          List.filterMap_eq_nil_iff.mpr fun other member =>
            if_neg fun same => fresh (List.mem_map.mpr ⟨other, member, same⟩)
        rw [List.filterMap_cons, if_pos rfl, others]
        cases notice? value observer <;> rfl
      · have other : first.key ≠ observer.key := fun same =>
          fresh (List.mem_map.mpr ⟨observer, later, same.symm⟩)
        rw [List.filterMap_cons, if_neg other]
        exact inductionHypothesis later apart

/-! ### What one observer is told in a history -/

/-- A key was given away, and its observer is gone. -/
structure Gone (key : Nat) (store : Store Value Part Listener) : Prop where
  given : key < store.nextKey
  absent : ∀ observer ∈ store.observers, observer.key ≠ key

theorem Gone.apply {key : Nat} (gone : Gone key store)
    (event : StoreEvent Value Part Listener) : Gone key (store.apply event) where
  given := Nat.lt_of_lt_of_le gone.given (store.nextKey_le_apply event)
  absent observer member := by
    cases event with
    | update value | modify change =>
        obtain ⟨old, known, rfl⟩ := List.mem_map.mp member
        rw [Observer.see_key]
        exact gone.absent old known
    | observe select listener =>
        rcases List.mem_append.mp member with old | new
        · exact gone.absent observer old
        · obtain rfl := List.mem_singleton.mp new
          exact (Nat.ne_of_lt gone.given).symm
    | release other => exact gone.absent observer (List.mem_filter.mp member).1

theorem Gone.toldTo_tells {key : Nat} (gone : Gone key store)
    (event : StoreEvent Value Part Listener) : toldTo key (store.tells event) = [] := by
  have silent (value : Value) : toldTo key (store.notices value) = [] := by
    rw [toldTo_notices]
    exact List.filterMap_eq_nil_iff.mpr fun observer known => if_neg (gone.absent observer known)
  cases event with
  | update value => exact silent value
  | modify change => exact silent (change store.current)
  | observe select listener =>
      simp [tells, Store.observe, toldTo, (Nat.ne_of_lt gone.given).symm]
  | release other => rfl

/-- Nobody is told anything more under its key. -/
theorem Gone.toldTo_log {key : Nat} (gone : Gone key store)
    (events : List (StoreEvent Value Part Listener)) : toldTo key (store.log events) = [] := by
  induction events generalizing store with
  | nil => rfl
  | cons event events inductionHypothesis =>
      rw [log, toldTo_append, gone.toldTo_tells, inductionHypothesis (gone.apply event)]
      rfl

theorem nextKey_le_run (store : Store Value Part Listener)
    (events : List (StoreEvent Value Part Listener)) : store.nextKey ≤ (store.run events).nextKey := by
  induction events generalizing store with
  | nil => exact Nat.le_refl _
  | cons event events inductionHypothesis =>
      exact Nat.le_trans (store.nextKey_le_apply event) (inductionHypothesis _)

/-- What is told is told under keys that were given away. -/
theorem Keyed.given_of_mem_tells (keyed : store.Keyed) {event : StoreEvent Value Part Listener}
    {entry : Nat × Listener × Part} (member : entry ∈ store.tells event) :
    entry.1 < (store.apply event).nextKey := by
  cases event with
  | update value | modify change =>
      obtain ⟨observer, known, told⟩ := List.mem_filterMap.mp member
      obtain ⟨notice, -, rfl⟩ := Option.map_eq_some_iff.mp told
      exact keyed.given observer known
  | observe select listener =>
      obtain rfl := List.mem_singleton.mp member
      exact Nat.lt_succ_self _
  | release key => exact absurd member List.not_mem_nil

theorem Keyed.given_of_mem_log (keyed : store.Keyed)
    {events : List (StoreEvent Value Part Listener)} {entry : Nat × Listener × Part}
    (member : entry ∈ store.log events) : entry.1 < (store.run events).nextKey := by
  induction events generalizing store with
  | nil => exact absurd member List.not_mem_nil
  | cons event events inductionHypothesis =>
      rcases List.mem_append.mp member with now | later
      · exact Nat.lt_of_lt_of_le (keyed.given_of_mem_tells now) (nextKey_le_run _ events)
      · exact inductionHypothesis (keyed.apply event) later

/-- Nobody has been told anything under the key that is given away next. -/
theorem Keyed.toldTo_log_nextKey (keyed : store.Keyed)
    (events : List (StoreEvent Value Part Listener)) :
    toldTo (store.run events).nextKey (store.log events) = [] :=
  List.filterMap_eq_nil_iff.mpr fun _ member =>
    if_neg (Nat.ne_of_lt (keyed.given_of_mem_log member))

/-- An observer is told of a new value if its part is another one than it was told last, and
goes on from there. -/
theorem Keyed.toldTo_change (keyed : store.Keyed) (known : observer ∈ store.observers)
    (value : Value) {later : List (Listener × Part)} {parts : List Part}
    (rest : (observer.listener, (observer.see value).last) :: later =
      (parts.destutter' (· != ·) (observer.see value).last).map (Prod.mk observer.listener)) :
    (observer.listener, observer.last) :: (toldTo observer.key (store.notices value) ++ later) =
      ((observer.select value :: parts).destutter' (· != ·) observer.last).map
        (Prod.mk observer.listener) := by
  rw [keyed.toldTo_notices known]
  unfold notice?
  unfold Observer.see at rest
  dsimp only at rest ⊢
  cases same : observer.last == observer.select value with
  | true =>
      rw [if_pos same] at rest
      rw [if_pos rfl, List.destutter'_cons_neg _ (by simp [bne, same])]
      exact rest
  | false =>
      rw [if_neg (by simp [same])] at rest
      rw [if_neg Bool.false_ne_true, List.destutter'_cons_pos _ (by simp [bne, same]),
        List.map_cons]
      exact congrArg (List.cons _) rest

/-- An observer that is there is told the changes of its part until it is removed. -/
theorem Keyed.toldTo_log (keyed : store.Keyed) (known : observer ∈ store.observers)
    (events : List (StoreEvent Value Part Listener)) :
    (observer.listener, observer.last) :: toldTo observer.key (store.log events) =
      (((StoreEvent.valuesUntil observer.key store.current events).map
        observer.select).destutter' (· != ·) observer.last).map (Prod.mk observer.listener) := by
  induction events generalizing store observer with
  | nil => rfl
  | cons event events inductionHypothesis =>
      have goOn (value : Value) :
          (observer.listener, observer.last) :: (toldTo observer.key (store.notices value) ++
              toldTo observer.key ((store.update value).1.log events)) =
            ((observer.select value :: (StoreEvent.valuesUntil observer.key value events).map
              observer.select).destutter' (· != ·) observer.last).map
                (Prod.mk observer.listener) := by
        refine keyed.toldTo_change known value ?_
        have there : observer.see value ∈ (store.update value).1.observers :=
          List.mem_map_of_mem known
        simpa [Store.update] using inductionHypothesis (keyed.update value) there
      rw [log, toldTo_append]
      cases event with
      | update value => exact goOn value
      | modify change => exact goOn (change store.current)
      | observe select listener =>
          have other : store.nextKey ≠ observer.key := (Nat.ne_of_lt (keyed.given _ known)).symm
          have told : toldTo observer.key (store.tells (.observe select listener)) = [] := by
            simp [tells, Store.observe, toldTo, other]
          rw [told]
          exact inductionHypothesis (keyed.observe select listener) (List.mem_append_left _ known)
      | release key =>
          by_cases own : key = observer.key
          · have gone : Gone observer.key (store.release key) :=
              ⟨keyed.given _ known, fun other member same => by
                simp [Store.release, own, same] at member⟩
            have silent := gone.toldTo_log events
            rw [StoreEvent.valuesUntil, if_pos own]
            exact congrArg (List.cons _) silent
          · rw [StoreEvent.valuesUntil, if_neg own]
            exact inductionHypothesis (keyed.release key)
              (List.mem_filter.mpr ⟨known, by simpa using Ne.symm own⟩)

/-! ### A whole history -/

/-- An observer is told its part of the value in force when it was added, and then the changes of
that part until it is removed. -/
theorem heardBy_eq (value : Value) (before after : List (StoreEvent Value Part Listener))
    (select : Value → Part) (listener : Listener) :
    heardBy value before select listener after =
      (((((ofValue value).run before).current ::
        StoreEvent.valuesUntil ((ofValue value).run before).nextKey
          ((ofValue value).run before).current after).map select).destutter (· != ·)).map
            (Prod.mk listener) := by
  have start : (ofValue value : Store Value Part Listener).Keyed := ofValue_keyed value
  have keyed := start.run before
  rw [heardBy, log_append, toldTo_append, start.toldTo_log_nextKey before, List.nil_append]
  generalize (ofValue value : Store Value Part Listener).run before = store at keyed
  have told := (keyed.observe select listener).toldTo_log
    (List.mem_append_right _ (List.mem_singleton_self _)) after
  simpa [log, tells, apply, observe, toldTo, List.destutter] using told

/-- Other observers do not change the value, and none of them has a key where there is only
one observer. -/
theorem run_seenBy {store alone : Store Value Part Listener}
    (same : alone.current = store.current) (key : Nat)
    (events : List (StoreEvent Value Part Listener)) :
    (alone.run (events.filterMap (StoreEvent.seenBy key))).current = (store.run events).current ∧
      (alone.run (events.filterMap (StoreEvent.seenBy key))).nextKey = alone.nextKey := by
  induction events generalizing store alone with
  | nil => exact ⟨same, rfl⟩
  | cons event events inductionHypothesis =>
      cases event with
      | update value =>
          have next : (alone.update value).1.current = (store.update value).1.current := rfl
          exact inductionHypothesis next
      | modify change =>
          have next : (alone.modify change).1.current = (store.modify change).1.current :=
            congrArg change same
          exact inductionHypothesis next
      | observe select listener =>
          have next : alone.current = (store.observe select listener).1.current := same
          exact inductionHypothesis next
      | release other =>
          by_cases own : other = key
          · have next : (alone.release 0).current = (store.release other).current := same
            rw [List.filterMap_cons, StoreEvent.seenBy, if_pos own]
            exact inductionHypothesis next
          · have next : alone.current = (store.release other).current := same
            rw [List.filterMap_cons, StoreEvent.seenBy, if_neg own]
            exact inductionHypothesis next

/-- An observer is told what it would be told if it were the only one ever added. -/
theorem heardBy_seenBy (value : Value) (before after : List (StoreEvent Value Part Listener))
    (select : Value → Part) (listener : Listener) :
    heardBy value (before.filterMap (StoreEvent.seenBy ((ofValue value).run before).nextKey))
        select listener
        (after.filterMap (StoreEvent.seenBy ((ofValue value).run before).nextKey)) =
      heardBy value before select listener after := by
  have start : (ofValue value : Store Value Part Listener).current =
      (ofValue value : Store Value Part Listener).current := rfl
  have first : (ofValue value : Store Value Part Listener).nextKey = 0 := rfl
  obtain ⟨current, key⟩ := run_seenBy start ((ofValue value).run before).nextKey before
  rw [heardBy_eq, heardBy_eq, current, key, first, StoreEvent.valuesUntil_seenBy]

/-- An observer is told nothing more after it was removed. -/
theorem heardBy_append_release (value : Value)
    (before after more : List (StoreEvent Value Part Listener)) (select : Value → Part)
    (listener : Listener) :
    heardBy value before select listener
        (after ++ .release ((ofValue value).run before).nextKey :: more) =
      heardBy value before select listener after := by
  rw [heardBy_eq, heardBy_eq, StoreEvent.valuesUntil_append_release]

/-- There and back again, and once more the same. -/
example : toldTo 0 ((ofValue (0, 0) : Store (Nat × Nat) Nat String).log
    [.observe Prod.fst "first", .update (1, 0), .observe Prod.snd "second", .update (1, 5),
      .release 1, .modify fun pair => (pair.1 - 1, 6), .release 0, .update (7, 7)]) =
    [("first", 0), ("first", 1), ("first", 0)] := by decide

end Store

/-- What an observer is told that is added in a history of a value, after some events and before
others. -/
structure ObserverTold [BEq Part] (value : Value)
    (before : List (StoreEvent Value Part Listener)) (select : Value → Part) (listener : Listener)
    (after : List (StoreEvent Value Part Listener)) : Prop where
  /-- It is told its part of the value then in force, and of each value after it that part if it
  is another one than it was told last, until it is removed. -/
  changes : Store.heardBy value before select listener after =
    (((((Store.ofValue value).run before).current ::
      StoreEvent.valuesUntil ((Store.ofValue value).run before).nextKey
        ((Store.ofValue value).run before).current after).map select).destutter (· != ·)).map
          (Prod.mk listener)
  /-- It would be told the same if it were the only observer ever added. -/
  alone : Store.heardBy value
      (before.filterMap (StoreEvent.seenBy ((Store.ofValue value).run before).nextKey)) select
      listener
      (after.filterMap (StoreEvent.seenBy ((Store.ofValue value).run before).nextKey)) =
    Store.heardBy value before select listener after
  /-- It is told nothing more after it was removed. -/
  silent : ∀ more, Store.heardBy value before select listener
      (after ++ .release ((Store.ofValue value).run before).nextKey :: more) =
    Store.heardBy value before select listener after

theorem Store.observerTold [BEq Part] (value : Value)
    (before : List (StoreEvent Value Part Listener)) (select : Value → Part) (listener : Listener)
    (after : List (StoreEvent Value Part Listener)) :
    ObserverTold value before select listener after where
  changes := heardBy_eq value before after select listener
  alone := heardBy_seenBy value before after select listener
  silent more := heardBy_append_release value before after more select listener

end

end RuntimeConsole
