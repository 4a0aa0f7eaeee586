/-
Module: RuntimeConsole.Session.State
Purpose: The states a session with the runtime goes through.
Main exports:
  SessionState, SessionState.canStart, SessionState.isAttached
-/

namespace RuntimeConsole

/-- Where a session stands. -/
inductive SessionState where
  /-- Nothing has been started yet. -/
  | idle
  /-- The runtime has been started and has not connected yet. -/
  | starting
  /-- The runtime is connected and the terminal shows its output. -/
  | attached
  /-- The runtime went away; the terminal keeps what it shows. -/
  | detached
deriving Repr, DecidableEq, Inhabited

namespace SessionState

/-- Whether the user may ask for a start. -/
def canStart : SessionState → Bool
  | idle | detached => true
  | starting | attached => false

/-- Whether the runtime is connected. -/
def isAttached : SessionState → Bool
  | attached => true
  | idle | starting | detached => false

/-- The name of a state. -/
def name : SessionState → String
  | idle => "Idle"
  | starting => "Starting"
  | attached => "Attached"
  | detached => "Detached"

/-- All states. -/
def all : List SessionState := [idle, starting, attached, detached]

/-- The state with a given name. -/
def ofName? (name : String) : Option SessionState :=
  all.find? fun state => state.name == name

end SessionState

end RuntimeConsole
