/-
Module: RuntimeConsole.Json.Reader
Purpose: Reading JSON values from text, whole or as far as they are of interest.
Main exports:
  Json.nestingLimit, Json.Interest, Json.readValue, Json.parseWith?, Json.parse?
-/
import RuntimeConsole.Json.Number
import RuntimeConsole.Text.Hex

namespace RuntimeConsole

namespace Json

/-- Arrays and objects may stand inside one another this deep. -/
def nestingLimit : Nat := 127

/-- The blanks JSON allows between tokens. -/
def isSpace (c : Char) : Bool :=
  c == ' ' || c == '\n' || c == '\t' || c == '\r'

/-- What follows the blanks. -/
def skipSpace (text : List Char) : List Char :=
  text.dropWhile isSpace

/-- The number written by four hexadecimal digits. -/
def hexQuad? (first second third fourth : Char) : Option Nat := do
  let a ← Text.hexValue? first
  let b ← Text.hexValue? second
  let c ← Text.hexValue? third
  let d ← Text.hexValue? fourth
  pure (((a * 16 + b) * 16 + c) * 16 + d)

/-- The character of a surrogate pair. -/
def joinSurrogates? (high low : Nat) : Option Char :=
  if 0xDC00 ≤ low ∧ low < 0xE000 then
    some (Char.ofNat (0x10000 + (high - 0xD800) * 0x400 + (low - 0xDC00)))
  else none

/-- The character a backslash and a letter stand for. -/
def escaped? : Char → Option Char
  | '"' => some '"'
  | '\\' => some '\\'
  | '/' => some '/'
  | 'b' => some '\x08'
  | 'f' => some '\x0c'
  | 'n' => some '\n'
  | 'r' => some '\r'
  | 't' => some '\t'
  | _ => none

/-- The rest of a string after its opening quote, `current` holding in reverse
what has been read of it.  Half a surrogate pair is refused, and so is a control
character that is not escaped. -/
def readString (current : List Char) : List Char → Option (String × List Char)
  | [] => none
  | '"' :: rest => some (String.ofList current.reverse, rest)
  | '\\' :: 'u' :: a :: b :: c :: d :: '\\' :: 'u' :: e :: f :: g :: h :: rest => do
      let unit ← hexQuad? a b c d
      if 0xD800 ≤ unit ∧ unit < 0xDC00 then
        let low ← hexQuad? e f g h
        let char ← joinSurrogates? unit low
        readString (char :: current) rest
      else if 0xDC00 ≤ unit ∧ unit < 0xE000 then none
      else readString (Char.ofNat unit :: current) ('\\' :: 'u' :: e :: f :: g :: h :: rest)
  | '\\' :: 'u' :: a :: b :: c :: d :: rest => do
      let unit ← hexQuad? a b c d
      if 0xD800 ≤ unit ∧ unit < 0xE000 then none
      else readString (Char.ofNat unit :: current) rest
  | '\\' :: letter :: rest => do
      let char ← escaped? letter
      readString (char :: current) rest
  | char :: rest =>
      if char.toNat < 0x20 || char == '\\' then none
      else readString (char :: current) rest

/-- What follows a string, after its opening quote.  It is enough that every escape
has its form. -/
def skipString : List Char → Option (List Char)
  | [] => none
  | '"' :: rest => some rest
  | '\\' :: 'u' :: a :: b :: c :: d :: rest =>
      if (hexQuad? a b c d).isSome then skipString rest else none
  | '\\' :: letter :: rest => if (escaped? letter).isSome then skipString rest else none
  | char :: rest =>
      if char.toNat < 0x20 || char == '\\' then none else skipString rest

/-! ### Interest -/

/-- How much of a value is of interest. -/
inductive Interest where
  /-- Nothing is: the value is passed over, and what is read in its place means nothing.
  Its numbers may be of any size, its arrays and objects nested to any depth. -/
  | nothing
  | everything
  /-- Of an array, this much of every item. -/
  | items (interest : Interest)
  /-- Of an object, the members with these names. -/
  | members (names : List String)
deriving Repr, DecidableEq, Inhabited

namespace Interest

/-- How much of the items of an array is of interest. -/
def ofItem : Interest → Interest
  | nothing => nothing
  | items interest => interest
  | everything | members _ => everything

/-- How much of a member of an object is of interest. -/
def ofMember (interest : Interest) (name : String) : Interest :=
  match interest with
  | nothing => nothing
  | members names => if names.contains name then everything else nothing
  | everything | items _ => everything

/-- How many more levels of nesting are allowed inside an array or an object, if one
is allowed at all. -/
def descend (interest : Interest) (depth : Nat) : Option Nat :=
  match interest, depth with
  | nothing, depth => some depth
  | _, 0 => none
  | _, depth + 1 => some depth

/-- Reads a string after its opening quote. -/
def readText (interest : Interest) (text : List Char) : Option (String × List Char) :=
  if interest = nothing then (skipString text).map fun rest => ("", rest) else readString [] text

/-- Reads a number after its sign. -/
def readNumber (interest : Interest) (negative : Bool) (text : List Char) :
    Option (Json × List Char) := do
  let (numeral, rest) ← readNumeral negative text
  if interest = nothing then pure (null, rest) else pure (← numeral.value?, rest)

end Interest

/-! ### Values -/

mutual

/-- A value, after the blanks before it.  `fuel` bounds the number of steps, and
`depth` how many more levels of nesting are allowed. -/
def readValue : (fuel depth : Nat) → Interest → List Char → Option (Json × List Char)
  | 0, _, _, _ => none
  | fuel + 1, depth, interest, text =>
      match skipSpace text with
      | 'n' :: 'u' :: 'l' :: 'l' :: rest => some (null, rest)
      | 't' :: 'r' :: 'u' :: 'e' :: rest => some (bool true, rest)
      | 'f' :: 'a' :: 'l' :: 's' :: 'e' :: rest => some (bool false, rest)
      | '"' :: rest => (interest.readText rest).map fun (text, rest) => (str text, rest)
      | '-' :: rest => interest.readNumber true rest
      | '[' :: rest =>
          match interest.descend depth with
          | none => none
          | some depth =>
              match skipSpace rest with
              | ']' :: rest => some (arr [], rest)
              | rest =>
                  (readItems fuel depth interest.ofItem rest).map fun (items, rest) =>
                    (arr items, rest)
      | '\x7b' :: rest =>
          match interest.descend depth with
          | none => none
          | some depth =>
              match skipSpace rest with
              | '\x7d' :: rest => some (obj [], rest)
              | rest =>
                  (readMembers fuel depth interest rest).map fun (members, rest) =>
                    (obj members, rest)
      | text => interest.readNumber false text

/-- The items of an array up to its closing bracket, at least one. -/
def readItems : (fuel depth : Nat) → Interest → List Char → Option (List Json × List Char)
  | 0, _, _, _ => none
  | fuel + 1, depth, interest, text => do
      let (item, rest) ← readValue fuel depth interest text
      match skipSpace rest with
      | ',' :: rest =>
          let (items, rest) ← readItems fuel depth interest rest
          pure (item :: items, rest)
      | ']' :: rest => pure ([item], rest)
      | _ => none

/-- The members of an object up to its closing brace, at least one. -/
def readMembers : (fuel depth : Nat) → Interest → List Char →
    Option (List (String × Json) × List Char)
  | 0, _, _, _ => none
  | fuel + 1, depth, interest, text =>
      match skipSpace text with
      | '"' :: rest => do
          let (name, rest) ← interest.readText rest
          match skipSpace rest with
          | ':' :: rest =>
              let (value, rest) ← readValue fuel depth (interest.ofMember name) rest
              match skipSpace rest with
              | ',' :: rest =>
                  let (members, rest) ← readMembers fuel depth interest rest
                  pure ((name, value) :: members, rest)
              | '\x7d' :: rest => pure ([(name, value)], rest)
              | _ => none
          | _ => none
      | _ => none

end

/-- The value a text consists of, as far as it is of interest, blanks around it
allowed.  Every step but the last reads a character, so twice the length bounds
their number. -/
def parseWith? (interest : Interest) (depth : Nat) (text : List Char) : Option Json :=
  match readValue (2 * text.length + 2) depth interest text with
  | some (value, rest) => if (skipSpace rest).isEmpty then some value else none
  | none => none

/-- The value a text consists of. -/
def parseChars? (depth : Nat) (text : List Char) : Option Json :=
  parseWith? .everything depth text

/-- The value a text consists of, as it is written: names that occur twice are
kept twice. -/
def parse? (text : String) : Option Json :=
  parseChars? nestingLimit text.toList

end Json

end RuntimeConsole
