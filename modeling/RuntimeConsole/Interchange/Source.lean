/-
Module: RuntimeConsole.Interchange.Source
Purpose: Reading typed values out of untyped ones, whatever format these come
  from.
Main exports:
  Decoded, Record, Source, Source.choose
-/
import RuntimeConsole.Failure

namespace RuntimeConsole

/-- The outcome of reading a typed value. -/
abbrev Decoded := Except Failure

/-- The outcome of finding something else than was asked for. -/
def Decoded.mismatch {α : Type} (expected : String) : Decoded α :=
  .error (.serialization s!"expected {expected}")

/-- The fields of a structure, as a value gives them: by name, or as a sequence
in the order of the names. -/
inductive Record (Value : Type) where
  | named (members : List (String × Value))
  | listed (names : List String) (items : List Value)

namespace Record

variable {Value α : Type}

/-- The fields given by name.  A known name that occurs twice is refused. -/
def ofMembers (names : List String) (members : List (String × Value)) :
    Decoded (Record Value) :=
  if names.any fun name => (members.filter fun entry => entry.1 == name).length > 1 then
    Decoded.mismatch "every field once"
  else .ok (named members)

/-- The fields given in their order.  An item beyond the last name is refused. -/
def ofItems (names : List String) (items : List Value) : Decoded (Record Value) :=
  if items.length > names.length then Decoded.mismatch "fewer items"
  else .ok (listed names items)

/-- What the value gives for a field. -/
def find? (record : Record Value) (name : String) : Option Value :=
  match record with
  | named members => members.lookup name
  | listed names items => (names.zip items).lookup name

/-- A field that must be given. -/
def required (record : Record Value) (name : String) (decode : Value → Decoded α) : Decoded α :=
  match record.find? name with
  | some value => decode value
  | none => Decoded.mismatch name

/-- A field with a value of its own when it is not given. -/
def defaulted (record : Record Value) (name : String) (default : α)
    (decode : Value → Decoded α) : Decoded α :=
  match record.find? name with
  | some value => decode value
  | none => .ok default

end Record

/-- Untyped values that typed ones can be read out of. -/
class Source (Value : Type) where
  /-- The fields of a structure with the given names. -/
  record : List String → Value → Decoded (Record Value)
  /-- The items of a sequence. -/
  items : Value → Decoded (List Value)
  string : Value → Decoded String
  /-- A natural below a bound. -/
  natural : (bound : Nat) → Value → Decoded Nat
  /-- The name of an alternative that carries nothing. -/
  alternative : Value → Decoded String

namespace Source

variable {Value : Type} [Source Value]

/-- A sequence of strings. -/
def strings (value : Value) : Decoded (List String) := do
  (← items value).mapM string

/-- A natural of at most sixty-four bits. -/
def natural64 (value : Value) : Decoded Nat :=
  natural UInt64.size value

/-- One of several alternatives, by name. -/
def choose {α : Type} (choices : List (String × α)) (value : Value) : Decoded α := do
  match choices.lookup (← alternative value) with
  | some choice => pure choice
  | none => Decoded.mismatch "one of the known names"

end Source

end RuntimeConsole
