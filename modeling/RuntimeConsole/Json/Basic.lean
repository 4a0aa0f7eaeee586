/-
Module: RuntimeConsole.Json.Basic
Purpose: JSON values.
Main exports:
  Json, Json.member?, Json.canonical
-/
import RuntimeConsole.Double.Basic

namespace RuntimeConsole

/-- A JSON value.  The members of an object stay in the order in which they were
written, and a name may occur twice until `canonical` has settled which one
counts. -/
inductive Json where
  | null
  | bool (value : Bool)
  | int (value : Int)
  | double (value : Double)
  | str (value : String)
  | arr (items : List Json)
  | obj (members : List (String × Json))
deriving Repr, Inhabited

namespace Json

mutual

/-- Whether two values are written alike. -/
def same : Json → Json → Bool
  | null, null => true
  | bool first, bool second => first == second
  | int first, int second => first == second
  | double first, double second => first == second
  | str first, str second => first == second
  | arr first, arr second => sameItems first second
  | obj first, obj second => sameMembers first second
  | _, _ => false

/-- Whether two sequences hold the same values. -/
def sameItems : List Json → List Json → Bool
  | [], [] => true
  | first :: restFirst, second :: restSecond =>
      same first second && sameItems restFirst restSecond
  | _, _ => false

/-- Whether two objects hold the same members in the same order. -/
def sameMembers : List (String × Json) → List (String × Json) → Bool
  | [], [] => true
  | (name, first) :: restFirst, (other, second) :: restSecond =>
      name == other && same first second && sameMembers restFirst restSecond
  | _, _ => false

end

mutual

theorem same_iff : ∀ first second : Json, same first second = true ↔ first = second
  | null, second => by cases second <;> simp [same]
  | bool first, second => by cases second <;> simp [same]
  | int first, second => by cases second <;> simp [same]
  | double first, second => by cases second <;> simp [same]
  | str first, second => by cases second <;> simp [same]
  | arr first, second => by
      cases second with
      | arr second => simp [same, sameItems_iff first second]
      | _ => simp [same]
  | obj first, second => by
      cases second with
      | obj second => simp [same, sameMembers_iff first second]
      | _ => simp [same]

theorem sameItems_iff : ∀ first second : List Json,
    sameItems first second = true ↔ first = second
  | [], [] => by simp [sameItems]
  | [], _ :: _ => by simp [sameItems]
  | _ :: _, [] => by simp [sameItems]
  | first :: restFirst, second :: restSecond => by
      simp [sameItems, same_iff first second, sameItems_iff restFirst restSecond]

theorem sameMembers_iff : ∀ first second : List (String × Json),
    sameMembers first second = true ↔ first = second
  | [], [] => by simp [sameMembers]
  | [], _ :: _ => by simp [sameMembers]
  | _ :: _, [] => by simp [sameMembers]
  | (name, first) :: restFirst, (other, second) :: restSecond => by
      simp [sameMembers, same_iff first second, sameMembers_iff restFirst restSecond]

end

instance : DecidableEq Json := fun first second =>
  decidable_of_iff _ (same_iff first second)

/-- The members of an object with `name` set to `value`: in its old place if the
name was there, else last. -/
def setMember (name : String) (value : Json) : List (String × Json) → List (String × Json)
  | [] => [(name, value)]
  | (other, old) :: rest =>
      if other == name then (other, value) :: rest
      else (other, old) :: setMember name value rest

mutual

/-- The value with every name occurring once in every object: of two members
with one name the later counts. -/
def canonical : Json → Json
  | arr items => arr (canonicalItems items)
  | obj members => obj (canonicalMembers [] members)
  | value => value

/-- The canonical forms of a sequence of values. -/
def canonicalItems : List Json → List Json
  | [] => []
  | item :: rest => canonical item :: canonicalItems rest

/-- The members of an object settled one after the other onto those in `done`. -/
def canonicalMembers (done : List (String × Json)) :
    List (String × Json) → List (String × Json)
  | [] => done
  | (name, value) :: rest =>
      canonicalMembers (setMember name (canonical value) done) rest

end

/-- The member of an object with a given name. -/
def member? (name : String) : Json → Option Json
  | obj members => members.lookup name
  | _ => none

end Json

end RuntimeConsole
