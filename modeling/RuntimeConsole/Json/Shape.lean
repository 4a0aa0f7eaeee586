/-
Module: RuntimeConsole.Json.Shape
Purpose: How deep JSON values are nested, and which of them are written without loss.
Main exports:
  Json.depth, Json.isPlain
-/
import RuntimeConsole.Json.Basic

namespace RuntimeConsole

namespace Json

mutual

/-- How many arrays and objects stand inside one another. -/
def depth : Json → Nat
  | arr items => depthOfItems items + 1
  | obj members => depthOfMembers members + 1
  | _ => 0

/-- The depth of the deepest of several values. -/
def depthOfItems : List Json → Nat
  | [] => 0
  | item :: rest => max (depth item) (depthOfItems rest)

/-- The depth of the deepest member. -/
def depthOfMembers : List (String × Json) → Nat
  | [] => 0
  | (_, value) :: rest => max (depth value) (depthOfMembers rest)

end

mutual

/-- Whether a value has no fractional numbers in it.  Its integers are those of sixty-four bits,
with a sign or without, and a name stands for one member of an object. -/
def isPlain : Json → Bool
  | null | bool _ | str _ => true
  | int value => decide (-(UInt64.size / 2 : Nat) ≤ value ∧ value < UInt64.size)
  | double _ => false
  | arr items => itemsPlain items
  | obj members => decide (members.map Prod.fst).Nodup && membersPlain members

/-- Whether all of several values are plain. -/
def itemsPlain : List Json → Bool
  | [] => true
  | item :: rest => isPlain item && itemsPlain rest

/-- Whether the values of all members are plain. -/
def membersPlain : List (String × Json) → Bool
  | [] => true
  | (_, value) :: rest => isPlain value && membersPlain rest

end

end Json

end RuntimeConsole
