/-
Module: RuntimeConsole.Proofs.JsonNumbers
Purpose: An integer of sixty-four bits is read as it was written.
Main exports:
  EndsNumber, readNumeral_showNat, readValue_renderInt
-/
import RuntimeConsole.Json.Printer
import RuntimeConsole.Json.Reader
import RuntimeConsole.Json.Shape

namespace RuntimeConsole

open Text (showNat)

/-! ### Digits -/

theorem digitToNat_digitChar : ∀ d < 10, Json.digitToNat d.digitChar = d := by
  decide

theorem showNat_digits (n : Nat) : ∀ c ∈ showNat n, Json.isDigit c = true := by
  intro c member
  have digit := Nat.isDigit_of_mem_toDigits (by decide) (by decide) member
  simpa [Json.isDigit, Char.isDigit, Char.le_def] using digit

theorem showNat_ne_nil (n : Nat) : showNat n ≠ [] :=
  Nat.toDigits_ne_nil

/-- The last digit is written behind the others. -/
theorem showNat_of_ten_le {n : Nat} (large : 10 ≤ n) :
    showNat n = showNat (n / 10) ++ [(n % 10).digitChar] :=
  Nat.toDigits_of_base_le (by decide) large

/-- Digits are read one after the other as long as they fit. -/
theorem takeDigits_append {start value : Nat} {first : List Char}
    (fits : Numeral.takeDigits start first = (value, 0)) (second : List Char) :
    Numeral.takeDigits start (first ++ second) = Numeral.takeDigits value second := by
  induction first generalizing start with
  | nil =>
      obtain ⟨rfl, -⟩ := Prod.mk.inj fits
      rfl
  | cons c first inductionHypothesis =>
      rw [Numeral.takeDigits] at fits
      rw [List.cons_append, Numeral.takeDigits]
      split at fits
      next small => rw [if_pos small, inductionHypothesis fits]
      next => cases (Prod.mk.inj fits).2

theorem takeDigits_showNat (n : Nat) (small : n < UInt64.size) :
    Numeral.takeDigits 0 (showNat n) = (n, 0) := by
  induction n using Nat.strongRecOn with
  | ind n inductionHypothesis =>
      by_cases one : n < 10
      · rw [showNat, Nat.toDigits_of_lt_base one, Numeral.takeDigits, digitToNat_digitChar n one,
          Nat.mul_zero, Nat.zero_add, if_pos small, Numeral.takeDigits]
      · have shorter : n / 10 < n := by omega
        have front := inductionHypothesis (n / 10) shorter (by omega)
        have whole : 10 * (n / 10) + n % 10 = n := by omega
        rw [showNat_of_ten_le (Nat.not_lt.mp one), takeDigits_append front, Numeral.takeDigits,
          digitToNat_digitChar _ (Nat.mod_lt n (by decide)), whole, if_pos small,
          Numeral.takeDigits]

theorem digitChar_ne_zero : ∀ d < 10, d ≠ 0 → d.digitChar ≠ '0' := by
  decide

/-- No needless zero is written in front. -/
theorem showNat_head?_ne {n : Nat} (some : n ≠ 0) : (showNat n).head? ≠ Option.some '0' := by
  induction n using Nat.strongRecOn with
  | ind n inductionHypothesis =>
      by_cases one : n < 10
      · rw [showNat, Nat.toDigits_of_lt_base one, List.head?_cons]
        exact fun zero => digitChar_ne_zero n one some (Option.some.inj zero)
      · have front := inductionHypothesis (n / 10) (by omega) (by omega)
        obtain ⟨c, rest, digits⟩ := List.exists_cons_of_ne_nil (showNat_ne_nil (n / 10))
        rw [digits] at front
        rw [showNat_of_ten_le (Nat.not_lt.mp one), digits]
        exact front

/-! ### Numerals -/

/-- Whether the digits before a text end there, and nothing else of a number follows. -/
def EndsNumber (text : List Char) : Prop :=
  ∀ c ∈ text.head?, Json.isDigit c = false ∧ c ≠ '.' ∧ c ≠ 'e' ∧ c ≠ 'E'

theorem readNumeral_showNat (negative : Bool) (n : Nat) {rest : List Char}
    (ends : EndsNumber rest) :
    Json.readNumeral negative (showNat n ++ rest) =
      some (⟨negative, showNat n, [], none⟩, rest) := by
  have digits := showNat_digits n
  have none : Json.spanDigits (showNat n ++ rest) = (showNat n, rest) := by
    unfold Json.spanDigits
    rw [List.takeWhile_append_of_pos digits, List.dropWhile_append_of_pos digits]
    cases rest with
    | nil => simp
    | cons c rest => simp [(ends c rfl).1]
  have written : (showNat n).isEmpty = false :=
    List.isEmpty_eq_false_iff.mpr (showNat_ne_nil n)
  have noZero : ((showNat n).head? == some '0' && decide ((showNat n).length > 1)) = false := by
    by_cases zero : n = 0
    · subst zero
      rfl
    · have := showNat_head?_ne zero
      simp [this]
  have fraction : Json.readFraction rest = some ([], rest) := by
    cases rest with
    | nil => rfl
    | cons c rest =>
        unfold Json.readFraction
        split
        next here => exact absurd (List.cons.inj here).1 (ends c rfl).2.1
        next => rfl
  have exponent : Json.readExponent rest = some (Option.none, rest) := by
    cases rest with
    | nil => rfl
    | cons c rest =>
        obtain ⟨-, -, small, large⟩ := ends c rfl
        simp [Json.readExponent, small, large]
  simp [Json.readNumeral, none, written, noZero, fraction, exponent]

theorem value?_showNat (negative : Bool) {n : Nat} (small : n < UInt64.size) :
    Numeral.value? ⟨negative, showNat n, [], none⟩ = Json.ofWhole? negative n := by
  simp [Numeral.value?, takeDigits_showNat n small]

/-! ### Integers -/

theorem digit_of_code : ∀ code < 58, 48 ≤ code →
    Char.ofNat code ∈ ['0', '1', '2', '3', '4', '5', '6', '7', '8', '9'] := by
  decide

theorem mem_of_isDigit {c : Char} (digit : Json.isDigit c = true) :
    c ∈ ['0', '1', '2', '3', '4', '5', '6', '7', '8', '9'] := by
  obtain ⟨low, high⟩ : '0' ≤ c ∧ c ≤ '9' := by simpa [Json.isDigit] using digit
  have least : 48 ≤ c.toNat := low
  have most : c.toNat ≤ 57 := high
  rw [← Char.ofNat_toNat c]
  exact digit_of_code c.toNat (by omega) least

/-- What begins with a digit is read as a number. -/
theorem readValue_digit (fuel depth : Nat) {c : Char} (digit : Json.isDigit c = true)
    (text : List Char) :
    Json.readValue (fuel + 1) depth .everything (c :: text) =
      Json.Interest.readNumber .everything false (c :: text) := by
  have among := mem_of_isDigit digit
  simp only [List.mem_cons, List.not_mem_nil, or_false] at among
  rcases among with rfl | rfl | rfl | rfl | rfl | rfl | rfl | rfl | rfl | rfl <;> rfl

theorem readNumber_showNat (negative : Bool) {n : Nat} (small : n < UInt64.size)
    {value : Json} (whole : Json.ofWhole? negative n = some value) {rest : List Char}
    (ends : EndsNumber rest) :
    Json.Interest.readNumber .everything negative (showNat n ++ rest) = some (value, rest) := by
  simp [Json.Interest.readNumber, readNumeral_showNat negative n ends,
    value?_showNat negative small, whole]

theorem readValue_renderInt (fuel depth : Nat) {value : Int}
    (plain : (Json.int value).isPlain = true) {rest : List Char} (ends : EndsNumber rest) :
    Json.readValue (fuel + 1) depth .everything (Json.renderInt value ++ rest) =
      some (.int value, rest) := by
  have bounds : -(UInt64.size / 2 : Nat) ≤ value ∧ value < UInt64.size := by
    simpa [Json.isPlain] using plain
  have size : UInt64.size = 18446744073709551616 := rfl
  rw [size] at bounds
  unfold Json.renderInt
  split
  next negative =>
      have small : value.natAbs < UInt64.size := by omega
      have whole : Json.ofWhole? true value.natAbs = some (.int value) := by
        rw [Json.ofWhole?, if_pos rfl, if_neg (by omega)]
        congr 2
        omega
      exact readNumber_showNat true small whole ends
  next positive =>
      have small : value.natAbs < UInt64.size := by omega
      have whole : Json.ofWhole? false value.natAbs = some (.int value) := by
        rw [Json.ofWhole?, if_neg Bool.false_ne_true, if_pos small]
        congr 2
        omega
      have number := readNumber_showNat false small whole ends
      obtain ⟨c, digits, written⟩ := List.exists_cons_of_ne_nil (showNat_ne_nil value.natAbs)
      have digit : Json.isDigit c = true :=
        showNat_digits value.natAbs c (by simp [written])
      rw [written] at number ⊢
      rw [List.cons_append] at number ⊢
      rw [readValue_digit fuel depth digit, number]

end RuntimeConsole
