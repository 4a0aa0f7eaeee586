/-
Module: RuntimeConsole.Json.Number
Purpose: The numbers of JSON: their written form, and what it stands for.  Integers
  of sixty-four bits are kept as they are, everything else has double precision.
Main exports:
  Numeral, Json.readNumeral, Numeral.value?
-/
import RuntimeConsole.Json.Basic

namespace RuntimeConsole

/-- A number as it is written. -/
structure Numeral where
  negative : Bool
  /-- The digits before the point. -/
  whole : List Char
  /-- The digits after the point, none if there is no point. -/
  fraction : List Char
  exponent : Option Int
deriving Repr, DecidableEq, Inhabited

namespace Json

/-! ### The written form -/

/-- Whether a character is an ASCII digit. -/
def isDigit (c : Char) : Bool :=
  '0' ≤ c && c ≤ '9'

/-- The value of a digit. -/
def digitToNat (c : Char) : Nat :=
  c.toNat - '0'.toNat

/-- The digits a text begins with, and what follows them. -/
def spanDigits (text : List Char) : List Char × List Char :=
  (text.takeWhile isDigit, text.dropWhile isDigit)

/-- The natural written by digits. -/
def digitsToNat (digits : List Char) : Nat :=
  digits.foldl (fun value c => 10 * value + digitToNat c) 0

/-- The digits after the point, empty if there is no point. -/
def readFraction : List Char → Option (List Char × List Char)
  | '.' :: rest =>
      let (digits, rest) := spanDigits rest
      if digits.isEmpty then none else some (digits, rest)
  | text => some ([], text)

/-- The exponent, if there is one. -/
def readExponent : List Char → Option (Option Int × List Char)
  | [] => some (none, [])
  | c :: rest =>
      if c == 'e' || c == 'E' then
        let (negative, rest) :=
          match rest with
          | '-' :: rest => (true, rest)
          | '+' :: rest => (false, rest)
          | rest => (false, rest)
        let (digits, rest) := spanDigits rest
        if digits.isEmpty then none
        else
          let size : Int := digitsToNat digits
          some (some (if negative then -size else size), rest)
      else some (none, c :: rest)

/-- A number, after its sign.  It has no needless zero in front. -/
def readNumeral (negative : Bool) (text : List Char) : Option (Numeral × List Char) := do
  let (whole, rest) := spanDigits text
  if whole.isEmpty || (whole.head? == some '0' && whole.length > 1) then none
  else
    let (fraction, rest) ← readFraction rest
    let (exponent, rest) ← readExponent rest
    pure ({ negative, whole, fraction, exponent }, rest)

/-! ### What it stands for -/

/-- What a number without fraction and exponent stands for.  An integer that does
not fit into sixty-four bits, and negative zero, is no integer. -/
def ofWhole? (negative : Bool) (n : Nat) : Option Json :=
  if negative then
    if n = 0 ∨ n > UInt64.size / 2 then (Double.ofNat? n).map fun size => double size.neg
    else some (int (-n))
  else if n < UInt64.size then some (int n)
  else (Double.ofNat? n).map double

end Json

namespace Numeral

/-- Writes digits after the natural `start`, as long as the result has sixty-four
bits.  With it comes the number of digits from the first on that does not fit. -/
def takeDigits (start : Nat) : List Char → Nat × Nat
  | [] => (start, 0)
  | c :: rest =>
      let next := 10 * start + Json.digitToNat c
      if next < UInt64.size then takeDigits next rest else (start, rest.length + 1)

/-- The value of a number, if it is in the range of double precision.  Digits that
do not fit into sixty-four bits count as zeros before the point and not at all after
it, and what does fit is rounded before the power of ten is applied.  So the value
need not be the nearest one. -/
def value? (numeral : Numeral) : Option Json :=
  let (digits, left) := takeDigits 0 numeral.whole
  if numeral.fraction.isEmpty && numeral.exponent.isNone && left == 0 then
    Json.ofWhole? numeral.negative digits
  else
    let (digits, ignored) := takeDigits digits numeral.fraction
    let power : Int := numeral.exponent.getD 0 + left - (numeral.fraction.length - ignored : Nat)
    (Double.ofDecimal? digits power).map fun size =>
      .double (if numeral.negative then size.neg else size)

end Numeral

end RuntimeConsole
