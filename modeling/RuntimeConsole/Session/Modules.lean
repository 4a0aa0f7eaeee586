/-
Module: RuntimeConsole.Session.Modules
Purpose: The module the editor considers active, and the delay with which its
  changes are passed on.
Main exports:
  ModuleIndicator, Debouncer
-/

namespace RuntimeConsole

/-- The module the editor considers active, and who is told about reports. -/
structure ModuleIndicator (Listener : Type) where
  current : String
  /-- The listeners in the order in which they were added, with the key each is
  removed by. -/
  listeners : List (Nat × Listener)
  nextKey : Nat

namespace ModuleIndicator

variable {Listener : Type}

/-- The indicator before any report. -/
def initial : ModuleIndicator Listener := ⟨"Main", [], 0⟩

/-- Takes note of a report.  Every listener is told, whether the module is another
one or not. -/
def report (indicator : ModuleIndicator Listener) (name : String) :
    ModuleIndicator Listener × List Listener :=
  ({ indicator with current := name }, indicator.listeners.map Prod.snd)

/-- Adds a listener, which is removed by the key in the result. -/
def listen (indicator : ModuleIndicator Listener) (listener : Listener) :
    ModuleIndicator Listener × Nat :=
  ({ indicator with
      listeners := indicator.listeners ++ [(indicator.nextKey, listener)]
      nextKey := indicator.nextKey + 1 },
    indicator.nextKey)

/-- Removes a listener. -/
def release (indicator : ModuleIndicator Listener) (key : Nat) : ModuleIndicator Listener :=
  { indicator with listeners := indicator.listeners.filter fun entry => entry.1 != key }

end ModuleIndicator

/-- Runs the last of a burst of actions, a fixed delay after it was asked for. -/
structure Debouncer (Action : Type) where
  /-- The delay in milliseconds. -/
  delay : Nat
  /-- Whether there is a clock.  Without one actions run at once. -/
  timed : Bool
  /-- The action waiting, and the time at which it is due. -/
  waiting : Option (Nat × Action)

namespace Debouncer

variable {Action : Type}

/-- A debouncer nothing waits in. -/
def idle (delay : Nat) (timed : Bool) : Debouncer Action := ⟨delay, timed, none⟩

/-- Asks for an action at a time, in the place of one that is still waiting.  The
result is the action to run at once, if any. -/
def call (debouncer : Debouncer Action) (now : Nat) (action : Action) :
    Debouncer Action × Option Action :=
  if debouncer.timed then
    ({ debouncer with waiting := some (now + debouncer.delay, action) }, none)
  else (debouncer, some action)

/-- Drops the action waiting. -/
def cancel (debouncer : Debouncer Action) : Debouncer Action :=
  { debouncer with waiting := none }

end Debouncer

end RuntimeConsole
