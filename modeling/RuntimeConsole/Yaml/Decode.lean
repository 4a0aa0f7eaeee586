/-
Module: RuntimeConsole.Yaml.Decode
Purpose: Reading typed values out of configuration files.  What a scalar stands
  for depends on what is asked for.
Main exports:
  readNatural?, and the instance of Source for values of configuration files
-/
import RuntimeConsole.Interchange.Source
import RuntimeConsole.Yaml.Node

namespace RuntimeConsole.Yaml

/-! ### Integers -/

/-- The value of a digit of a base. -/
def baseDigit? (base : Nat) (c : Char) : Option Nat :=
  (Text.hexValue? c).filter (· < base)

/-- The natural that digits of a base stand for.  There must be one. -/
def readBase? (base : Nat) (digits : List Char) : Option Nat :=
  if digits.isEmpty then none
  else (digits.mapM (baseDigit? base)).map (·.foldl (fun n digit => base * n + digit) 0)

/-- A natural in decimal, hexadecimal, octal or binary.  A decimal one that begins
with a needless zero is no number. -/
def readMagnitude? : List Char → Option Nat
  | '0' :: 'x' :: digits => readBase? 16 digits
  | '0' :: 'o' :: digits => readBase? 8 digits
  | '0' :: 'b' :: digits => readBase? 2 digits
  | ['0'] => some 0
  | '0' :: _ => none
  | digits => readBase? 10 digits

/-- The natural a scalar stands for.  A plus sign may stand before it, a minus sign
not even before zero. -/
def readNatural? (text : List Char) : Option Nat :=
  match text with
  | '+' :: rest => readMagnitude? rest
  | text => readMagnitude? text

/-! ### Values -/

/-- The tag of integers. -/
def integerTag : Tag := .ofString "tag:yaml.org,2002:int"

/-- Whether a scalar may stand for an integer: a plain one may, and a block that
says so. -/
def mayBeInteger (style : ScalarStyle) (tag : Option Tag) : Bool :=
  style == .plain || (style == .literal && tag == some integerTag)

/-- The plain scalars that stand for nothing. -/
def nulls : List String := ["", "~", "null", "Null", "NULL"]

/-- The name a local tag gives.  One that is not the encoding of a text gives
none. -/
def localTag? (tag : Option Tag) : Option String :=
  match tag with
  | some (0x21 :: rest) =>
      if rest.isEmpty then some "!" else (Text.decode? rest).map String.ofList
  | _ => none

/-- Whether nothing is written where the value should stand. -/
def Node.isMissing : Node → Bool
  | scalar style _ text => style == .plain && text.isEmpty
  | _ => false

namespace Value

/-- The text of a scalar, as it is written. -/
def asString (value : Value) : Decoded String :=
  match value.content with
  | .scalar _ _ text => .ok text
  | _ => Decoded.mismatch "a scalar"

/-- The fields of a structure.  A structure that is missing gives none, and a
sequence is no structure. -/
def asRecord (names : List String) (value : Value) : Decoded (Record Value) :=
  match value.content with
  | .mapping entries => do
      let members ← entries.mapM fun (key, field) =>
        (value.goTo key).asString.map fun name => (name, value.goTo field)
      Record.ofMembers names members
  | node => if node.isMissing then .ok (.named []) else Decoded.mismatch "a structure"

/-- The items of a sequence.  A sequence that is missing has none. -/
def asItems (value : Value) : Decoded (List Value) :=
  match value.content with
  | .sequence items => .ok (items.map value.goTo)
  | node => if node.isMissing then .ok [] else Decoded.mismatch "a sequence"

/-- A natural below a bound. -/
def asNat (bound : Nat) (value : Value) : Decoded Nat :=
  match value.content with
  | .scalar style tag text =>
      if mayBeInteger style tag then
        match readNatural? text.toList with
        | some n => if n < bound then .ok n else Decoded.mismatch "an integer in range"
        | none => Decoded.mismatch "an integer"
      else Decoded.mismatch "an integer"
  | _ => Decoded.mismatch "an integer"

/-- The name of an alternative: the text of a scalar, or the tag of one that stands
for nothing. -/
def asAlternative (value : Value) : Decoded String :=
  match value.content with
  | .scalar style tag text =>
      match localTag? tag with
      | some name =>
          if style == .plain && nulls.contains text then .ok name
          else Decoded.mismatch "a tag and nothing else"
      | none => .ok text
  | _ => Decoded.mismatch "a name"

instance : Source Value where
  record := asRecord
  items := asItems
  string := asString
  natural := asNat
  alternative := asAlternative

end Value

end RuntimeConsole.Yaml
