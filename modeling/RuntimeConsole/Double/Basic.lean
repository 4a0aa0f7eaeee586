/-
Module: RuntimeConsole.Double.Basic
Purpose: Finite numbers of double precision as exact values, with the operations
  that making one of decimal digits takes.  Every operation rounds once, to the
  nearest number, and from the middle to the one with an even mantissa.
Main exports:
  Double, Double.ofQuotient?, Double.mul?, Double.div?, Double.ofDecimal?
-/

namespace RuntimeConsole

/-- A finite number of double precision: `mantissa` times two to the `exponent`,
and its sign, which zero has too. -/
structure Double where
  negative : Bool
  mantissa : Nat
  exponent : Int
  /-- Every number is given in one way: the mantissa has all its bits unless the
  exponent is the least there is. -/
  isNormal : mantissa < Nat.pow 2 53 ∧ -1074 ≤ exponent ∧ exponent ≤ 971 ∧
    (Nat.pow 2 52 ≤ mantissa ∨ exponent = -1074)
deriving Repr, DecidableEq

namespace Double

/-- The number with the given parts, if there is one. -/
def make? (negative : Bool) (mantissa : Nat) (exponent : Int) : Option Double :=
  if isNormal : mantissa < Nat.pow 2 53 ∧ -1074 ≤ exponent ∧ exponent ≤ 971 ∧
      (Nat.pow 2 52 ≤ mantissa ∨ exponent = -1074) then
    some ⟨negative, mantissa, exponent, isNormal⟩
  else none

/-- Zero. -/
def zero : Double := ⟨false, 0, -1074, by decide⟩

instance : Inhabited Double := ⟨zero⟩

/-- Whether the number is zero, of either sign. -/
def isZero (value : Double) : Bool := value.mantissa == 0

/-- The number with the other sign. -/
def neg (value : Double) : Double := { value with negative := !value.negative }

/-! ### Quotients -/

/-- The greatest power of a base that is at most a quotient.  Both its terms must
be positive. -/
def logQuotient (base num den : Nat) : Int :=
  let digits (n : Nat) : Int := (Nat.toDigits base n).length
  let guess := digits num - digits den
  let reached :=
    if 0 ≤ guess then den * base.pow guess.natAbs ≤ num else den ≤ num * base.pow guess.natAbs
  if reached then guess else guess - 1

/-- The terms of a quotient divided by a power of a base. -/
def shiftQuotient (base num den : Nat) (power : Int) : Nat × Nat :=
  if 0 ≤ power then (num, den * base.pow power.natAbs) else (num * base.pow power.natAbs, den)

/-- The natural nearest to a quotient, from the middle the even one. -/
def roundQuotient (num den : Nat) : Nat :=
  let whole := num / den
  let rest := num % den
  if 2 * rest < den ∨ (2 * rest = den ∧ whole % 2 = 0) then whole else whole + 1

/-- The number nearest to a quotient.  There is none for a quotient that is half a
unit or more above the greatest number, or whose divisor is zero. -/
def ofQuotient? (negative : Bool) (num den : Nat) : Option Double :=
  if den = 0 then none
  else if num = 0 then make? negative 0 (-1074)
  else
    let exponent := max (-1074) (logQuotient 2 num den - 52)
    let (num, den) := shiftQuotient 2 num den exponent
    let mantissa := roundQuotient num den
    if mantissa < Nat.pow 2 53 then make? negative mantissa exponent
    else make? negative (mantissa / 2) (exponent + 1)

/-- The terms of the quotient a number is, its sign apart. -/
def toQuotient (value : Double) : Nat × Nat :=
  shiftQuotient 2 value.mantissa 1 (-value.exponent)

/-- The number nearest to a natural. -/
def ofNat? (n : Nat) : Option Double :=
  ofQuotient? false n 1

/-- The product of two numbers, rounded. -/
def mul? (first second : Double) : Option Double :=
  let (num, den) := first.toQuotient
  let (otherNum, otherDen) := second.toQuotient
  ofQuotient? (first.negative != second.negative) (num * otherNum) (den * otherDen)

/-- The quotient of two numbers, rounded. -/
def div? (first second : Double) : Option Double :=
  let (num, den) := first.toQuotient
  let (otherNum, otherDen) := second.toQuotient
  ofQuotient? (first.negative != second.negative) (num * otherDen) (den * otherNum)

/-! ### Decimal digits -/

/-- The greatest power of ten there is a number for. -/
def greatestTen : Nat := 308

/-- The number nearest to a power of ten. -/
def tenTo? (power : Nat) : Option Double :=
  ofNat? (Nat.pow 10 power)

/-- The number divided by a power of ten: in one step, or in several if the power
is not a number itself. -/
def divideByTenTo? (value : Double) (power : Nat) : Option Double :=
  if power ≤ greatestTen then (tenTo? power).bind value.div?
  else if value.isZero then some value
  else
    ((tenTo? greatestTen).bind value.div?).bind fun value =>
      value.divideByTenTo? (power - greatestTen)
termination_by power
decreasing_by simp only [greatestTen] at *; omega

/-- A number made of decimal digits: of the natural they write, rounded, and of the
power of ten it is multiplied with, in a second step that rounds again. -/
def ofDecimal? (digits : Nat) (power : Int) : Option Double :=
  match ofNat? digits with
  | none => none
  | some value =>
      if power < 0 then value.divideByTenTo? power.natAbs
      else if power.natAbs ≤ greatestTen then (tenTo? power.natAbs).bind value.mul?
      else if value.isZero then some value
      else none

end Double

end RuntimeConsole
