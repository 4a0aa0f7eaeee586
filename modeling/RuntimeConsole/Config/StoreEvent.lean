/-
Module: RuntimeConsole.Config.StoreEvent
Purpose: Everything that can happen to a store, one thing at a time, and what its observers are
  told of it.
Main exports:
  StoreEvent, StoreEvent.valuesUntil, StoreEvent.seenBy, Store.apply, Store.run, Store.tells, Store.log, Store.heardBy
-/
import RuntimeConsole.Config.Store

namespace RuntimeConsole

/-- Something that happens to a store. -/
inductive StoreEvent (Value Part Listener : Type) where
  | update (value : Value)
  /-- The value is replaced by a changed copy of it. -/
  | modify (change : Value → Value)
  | observe (select : Value → Part) (listener : Listener)
  /-- The observer with a key is removed, if it is still there. -/
  | release (key : Nat)

variable {Value Part Listener : Type}

/-- The values that take the place of a value, one after the other, until the observer with a
key is removed. -/
def StoreEvent.valuesUntil (key : Nat) (value : Value) :
    List (StoreEvent Value Part Listener) → List Value
  | [] => []
  | .update next :: events => next :: valuesUntil key next events
  | .modify change :: events => change value :: valuesUntil key (change value) events
  | .observe _ _ :: events => valuesUntil key value events
  | .release other :: events => if other = key then [] else valuesUntil key value events

/-- What is left of an event for the observer with a key, if it has the value to itself. -/
def StoreEvent.seenBy (key : Nat) :
    StoreEvent Value Part Listener → Option (StoreEvent Value Part Listener)
  | .update value => some (.update value)
  | .modify change => some (.modify change)
  | .observe _ _ => none
  | .release other => if other = key then some (.release 0) else none

/-- What one observer is told, in a list of what all of them are told. -/
def toldTo (key : Nat) (log : List (Nat × Listener × Part)) : List (Listener × Part) :=
  log.filterMap fun entry => if entry.1 = key then some entry.2 else none

namespace Store

variable [BEq Part]

/-- What the observers are told about a new value, each with its key. -/
def notices (store : Store Value Part Listener) (value : Value) :
    List (Nat × Listener × Part) :=
  store.observers.filterMap fun observer => (notice? value observer).map (Prod.mk observer.key)

/-- Without the keys this is what an update tells. -/
theorem notices_map_snd (store : Store Value Part Listener) (value : Value) :
    (store.notices value).map Prod.snd = (store.update value).2 := by
  rw [notices, List.map_filterMap]
  refine congrArg (fun told => store.observers.filterMap told) (funext fun observer => ?_)
  rw [Option.map_map]
  exact Option.map_id' ..

/-- The store after an event. -/
def apply (store : Store Value Part Listener) :
    StoreEvent Value Part Listener → Store Value Part Listener
  | .update value => (store.update value).1
  | .modify change => (store.modify change).1
  | .observe select listener => (store.observe select listener).1
  | .release key => store.release key

/-- What the observers are told in an event, each with its key. -/
def tells (store : Store Value Part Listener) :
    StoreEvent Value Part Listener → List (Nat × Listener × Part)
  | .update value => store.notices value
  | .modify change => store.notices (change store.current)
  | .observe select listener =>
      let (_, key, part) := store.observe select listener
      [(key, listener, part)]
  | .release _ => []

/-- The store after several events. -/
def run (store : Store Value Part Listener) (events : List (StoreEvent Value Part Listener)) :
    Store Value Part Listener :=
  events.foldl apply store

/-- What the observers are told in several events, in order. -/
def log (store : Store Value Part Listener) :
    List (StoreEvent Value Part Listener) → List (Nat × Listener × Part)
  | [] => []
  | event :: events => store.tells event ++ (store.apply event).log events

theorem log_append (store : Store Value Part Listener)
    (first second : List (StoreEvent Value Part Listener)) :
    store.log (first ++ second) = store.log first ++ (store.run first).log second := by
  induction first generalizing store with
  | nil => rfl
  | cons event first inductionHypothesis =>
      rw [List.cons_append, log, log, inductionHypothesis, List.append_assoc]
      rfl

/-- What an observer is told in a history of a value in which it is added after some events and
before others. -/
def heardBy (value : Value) (before : List (StoreEvent Value Part Listener))
    (select : Value → Part) (listener : Listener)
    (after : List (StoreEvent Value Part Listener)) : List (Listener × Part) :=
  toldTo ((ofValue value).run before).nextKey
    ((ofValue value).log (before ++ .observe select listener :: after))

end Store

end RuntimeConsole
