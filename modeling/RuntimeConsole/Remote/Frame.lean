/-
Module: RuntimeConsole.Remote.Frame
Purpose: The units exchanged with the runtime.
Main exports:
  Frame
-/
import RuntimeConsole.Json.Basic

namespace RuntimeConsole

/-- A unit exchanged with the runtime. -/
inductive Frame where
  /-- A notice nobody answers. -/
  | message (name : String) (args : List Json)
  /-- A call, to be answered under its number. -/
  | call (id : Nat) (name : String) (args : List Json)
  /-- The answer to a call. -/
  | response (id : Nat) (result : Json)
  /-- The failure of a call. -/
  | error (id : Nat) (message : String)
deriving Repr, DecidableEq, Inhabited

end RuntimeConsole
