/-
Module: RuntimeConsole.Json.Decode
Purpose: Reading typed values out of JSON values.
Main exports:
  Json.asRecord, Json.asVariant, Record.nullable, and a decoder per basic type
-/
import RuntimeConsole.Interchange.Source
import RuntimeConsole.Json.Basic

namespace RuntimeConsole

namespace Json

/-- The fields of a structure. -/
def asRecord (names : List String) : Json → Decoded (Record Json)
  | obj members => Record.ofMembers names members
  | arr items => Record.ofItems names items
  | _ => Decoded.mismatch "a structure"

/-- The name of an alternative and what it carries: nothing for a plain string,
the value of the only member for an object. -/
def asVariant : Json → Decoded (String × Option Json)
  | str name => .ok (name, none)
  | obj [(name, payload)] => .ok (name, some payload)
  | _ => Decoded.mismatch "an alternative"

def asBool : Json → Decoded Bool
  | bool value => .ok value
  | _ => Decoded.mismatch "a boolean"

def asString : Json → Decoded String
  | str value => .ok value
  | _ => Decoded.mismatch "a string"

/-- A string of one character. -/
def asChar : Json → Decoded Char
  | str value =>
      match value.toList with
      | [c] => .ok c
      | _ => Decoded.mismatch "one character"
  | _ => Decoded.mismatch "a character"

/-- A natural below a bound. -/
def asNat (bound : Nat) : Json → Decoded Nat
  | int value =>
      if 0 ≤ value ∧ value < bound then .ok value.toNat
      else Decoded.mismatch "an integer in range"
  | _ => Decoded.mismatch "an integer"

def asUInt8 (value : Json) : Decoded UInt8 :=
  (value.asNat UInt8.size).map UInt8.ofNat

def asUInt32 (value : Json) : Decoded UInt32 :=
  (value.asNat UInt32.size).map UInt32.ofNat

/-- A natural of at most sixty-four bits. -/
def asNat64 (value : Json) : Decoded Nat :=
  value.asNat UInt64.size

/-- A sequence of values read alike. -/
def asList {α : Type} (decode : Json → Decoded α) : Json → Decoded (List α)
  | arr items => items.mapM decode
  | _ => Decoded.mismatch "a sequence"

/-- A value or null. -/
def asOption {α : Type} (decode : Json → Decoded α) : Json → Decoded (Option α)
  | null => .ok none
  | value => (decode value).map some

end Json

/-- A field that may be null.  By name it may also be missing; in a sequence it
must have its place. -/
def Record.nullable {α : Type} (record : Record Json) (name : String)
    (decode : Json → Decoded α) : Decoded (Option α) :=
  match record.find? name, record with
  | some value, _ => value.asOption decode
  | none, .named _ => .ok none
  | none, .listed _ _ => Decoded.mismatch name

namespace Json

/-- The name of an alternative that carries nothing, or null. -/
def asAlternative (value : Json) : Decoded String := do
  match ← value.asVariant with
  | (name, none) | (name, some null) => pure name
  | _ => Decoded.mismatch "a name"

/-- The items of a sequence. -/
def asItems : Json → Decoded (List Json)
  | arr items => .ok items
  | _ => Decoded.mismatch "a sequence"

instance : Source Json where
  record := asRecord
  items := asItems
  string := asString
  natural := asNat
  alternative := asAlternative

end Json

end RuntimeConsole
