/-
Module: RuntimeConsole.Double.Shortest
Purpose: The shortest decimal form of a number of double precision: the fewest
  digits that are read back as the number, and of those the nearest.
Main exports:
  Double.shortest, Double.render
-/
import RuntimeConsole.Double.Basic
import RuntimeConsole.Text.Digit

namespace RuntimeConsole

namespace Double

/-- Decimal digits: the natural they write times ten to the `power`. -/
structure Digits where
  value : Nat
  power : Int
deriving Repr, DecidableEq, Inhabited

/-- The quotients between which all that rounds to a number lies, as numerators
over a common divisor: the lower end, the number itself, the upper end.  Below the
first number with an exponent the others are twice as near. -/
def neighbourhood (value : Double) : Nat × Nat × Nat × Nat :=
  let below := if value.mantissa = Nat.pow 2 52 ∧ -1074 < value.exponent then 1 else 2
  let (num, den) := shiftQuotient 2 1 4 (-value.exponent)
  (num * (4 * value.mantissa - below), num * (4 * value.mantissa),
    num * (4 * value.mantissa + 2), den)

/-- The decimal with `count` digits that rounds to a number and is the nearest of
those, if there is one: from the middle the even one. -/
def withDigits? (value : Double) (count : Nat) : Option Digits :=
  let (lower, middle, upper, den) := value.neighbourhood
  let power := logQuotient 10 middle den - count + 1
  let inside (digits : Nat) : Bool :=
    let (num, unit) := shiftQuotient 10 digits 1 (-power)
    if value.mantissa % 2 = 0 then lower * unit ≤ num * den ∧ num * den ≤ upper * unit
    else lower * unit < num * den ∧ num * den < upper * unit
  let (num, den) := shiftQuotient 10 middle den power
  let nearest := roundQuotient num den
  let floor := num / den
  let other := if nearest = floor then floor + 1 else floor
  if inside nearest then some ⟨nearest, power⟩
  else if inside other then some ⟨other, power⟩
  else none

/-- The shortest digits that are read back as a number other than zero.  Seventeen
are always enough. -/
def shortest (value : Double) : Digits :=
  ((List.range' 1 17).findSome? value.withDigits?).getD ⟨value.mantissa, 0⟩

/-- The digits without zeros at the end, at most `limit` of them. -/
def Digits.trim (limit : Nat) (digits : Digits) : Digits :=
  match limit with
  | 0 => digits
  | limit + 1 =>
      if digits.value ≠ 0 ∧ digits.value % 10 = 0 then
        Digits.trim limit ⟨digits.value / 10, digits.power + 1⟩
      else digits

/-- The digits that are written, with a point.  Where the point would lie far from
the digits, it follows the first of them and an exponent says where it belongs. -/
def Digits.render (digits : Digits) : List Char :=
  let written := Text.showNat digits.value
  let point : Int := written.length + digits.power
  let zeros (count : Int) : List Char := List.replicate count.natAbs '0'
  if 0 ≤ digits.power ∧ point ≤ 16 then written ++ zeros digits.power ++ ['.', '0']
  else if 0 < point ∧ point ≤ 16 then
    written.take point.natAbs ++ '.' :: written.drop point.natAbs
  else if -5 < point ∧ point ≤ 0 then '0' :: '.' :: (zeros point ++ written)
  else
    let exponent := point - 1
    let sign := if exponent < 0 then ['-'] else []
    let fraction := if written.length = 1 then [] else '.' :: written.drop 1
    written.take 1 ++ fraction ++ 'e' :: (sign ++ Text.showNat exponent.natAbs)

/-- The number in decimal.  It always has a point or an exponent, so that it is not
taken for an integer. -/
def render (value : Double) : List Char :=
  let sign := if value.negative then ['-'] else []
  sign ++ if value.isZero then ['0', '.', '0'] else (value.shortest.trim 17).render

end Double

end RuntimeConsole
