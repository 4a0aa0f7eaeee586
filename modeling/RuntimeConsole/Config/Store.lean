/-
Module: RuntimeConsole.Config.Store
Purpose: A value that is replaced as a whole, with observers of parts of it.
Main exports:
  Observer, Observer.see, Store, Store.observe, Store.update, Store.modify, Store.release
-/

namespace RuntimeConsole

/-- An observer of a part of a value. -/
structure Observer (Value Part Listener : Type) where
  /-- What the observer is removed by. -/
  key : Nat
  select : Value → Part
  /-- What the observer was told last. -/
  last : Part
  listener : Listener

/-- A value and its observers, in the order in which they were added. -/
structure Store (Value Part Listener : Type) where
  current : Value
  observers : List (Observer Value Part Listener)
  nextKey : Nat

namespace Store

variable {Value Part Listener : Type}

/-- A value nobody observes. -/
def ofValue (value : Value) : Store Value Part Listener := ⟨value, [], 0⟩

/-- The number of observers. -/
def size (store : Store Value Part Listener) : Nat := store.observers.length

/-- Adds an observer.  The result are the key it is removed by and the part it is
told about at once. -/
def observe (store : Store Value Part Listener) (select : Value → Part)
    (listener : Listener) : Store Value Part Listener × Nat × Part :=
  let part := select store.current
  ({ store with
      observers := store.observers ++ [⟨store.nextKey, select, part, listener⟩]
      nextKey := store.nextKey + 1 },
    store.nextKey, part)

/-- Removes an observer. -/
def release (store : Store Value Part Listener) (key : Nat) : Store Value Part Listener :=
  { store with observers := store.observers.filter fun observer => observer.key != key }

end Store

section

variable {Value Part Listener : Type} [BEq Part]

/-- An observer after it has seen a new value.  It remembers its part only where it is told. -/
def Observer.see (value : Value) (observer : Observer Value Part Listener) :
    Observer Value Part Listener :=
  let part := observer.select value
  if observer.last == part then observer else { observer with last := part }

namespace Observer

@[simp] theorem see_key (value : Value) (observer : Observer Value Part Listener) :
    (observer.see value).key = observer.key := by
  unfold see
  dsimp only
  split <;> rfl

@[simp] theorem see_select (value : Value) (observer : Observer Value Part Listener) :
    (observer.see value).select = observer.select := by
  unfold see
  dsimp only
  split <;> rfl

@[simp] theorem see_listener (value : Value) (observer : Observer Value Part Listener) :
    (observer.see value).listener = observer.listener := by
  unfold see
  dsimp only
  split <;> rfl

end Observer

namespace Store

/-- What an observer is told about a new value: its part, if that is another one
than it was told last. -/
def notice? (value : Value) (observer : Observer Value Part Listener) : Option (Listener × Part) :=
  let part := observer.select value
  if observer.last == part then none else some (observer.listener, part)

/-- Replaces the value.  The result are the parts the observers are told about,
in the order of the observers. -/
def update (store : Store Value Part Listener) (value : Value) :
    Store Value Part Listener × List (Listener × Part) :=
  ({ store with current := value, observers := store.observers.map (·.see value) },
    store.observers.filterMap (notice? value))

/-- Replaces the value by a changed copy of it. -/
def modify (store : Store Value Part Listener) (change : Value → Value) :
    Store Value Part Listener × List (Listener × Part) :=
  store.update (change store.current)

end Store

variable [LawfulBEq Part]

/-- Where parts that are equal are the same, an observer knows its part of the value in force. -/
theorem Observer.see_eq (value : Value) (observer : Observer Value Part Listener) :
    observer.see value = { observer with last := observer.select value } := by
  unfold see
  dsimp only
  split
  next same => rw [← eq_of_beq same]
  next => rfl

theorem Store.notice?_eq [DecidableEq Part] (value : Value)
    (observer : Observer Value Part Listener) :
    notice? value observer =
      if observer.select value = observer.last then none
      else some (observer.listener, observer.select value) := by
  simp only [notice?, beq_iff_eq, @eq_comm _ (observer.select value)]

end

end RuntimeConsole
