/-
Module: RuntimeConsole.Proofs.PatternGreed
Purpose: What matching with preferences finds: something wherever there is a match, and where
  nothing comes after a repetition that could fail, as much as can be repeated.
Main exports:
  Pattern.productive, Pattern.run_complete, Pattern.Exhausted, Pattern.Spent, Pattern.run_spent
-/
import RuntimeConsole.Proofs.LinkSpan

namespace RuntimeConsole.Text.Pattern

variable {α : Type}

/-- Whether every repetition takes at least one character each time. -/
def productive : Pattern → Bool
  | .one _ => true
  | .seq first second | .either first second => first.productive && second.productive
  | .optional body => body.productive
  | .many body => body.consumes && body.productive

/-- One time more is tried before what follows. -/
theorem repeatStep_succ (step : List Char → (List Char → Option α) → Option α) (extra : Nat)
    (text : List Char) (next : List Char → Option α) :
    repeatStep step (extra + 1) text next =
      step text fun rest => (repeatStep step extra rest next).or (next rest) := by
  rw [repeatStep]
  congr 1
  funext rest
  cases repeatStep step extra rest next <;> rfl

/-! ### Something is found -/

/-- Wherever a step takes what matches a pattern, it does so repeatedly, as long as it is not cut
short. -/
theorem repeatStep_complete {body : Pattern} {step : List Char → (List Char → Option α) → Option α}
    (complete : ∀ {matched}, body.Matches matched → ∀ rest next, (next rest).isSome →
      (step (matched ++ rest) next).isSome)
    (consumes : body.consumes = true) {matched : List Char} (repeated : (many body).Matches matched)
    (rest : List Char) (next : List Char → Option α) (reached : (next rest).isSome) (extra : Nat)
    (enough : matched.length ≤ extra) : (repeatStep step extra (matched ++ rest) next).isSome := by
  generalize patternEq : many body = pattern at repeated
  induction repeated generalizing extra with
  | once front =>
      cases patternEq
      cases extra with
      | zero => exact complete front rest next reached
      | succ extra =>
          rw [repeatStep_succ]
          exact complete front rest _ (by simp [reached])
  | @again _ head tail front _ _ inductionHypothesis =>
      cases patternEq
      have someHead := List.length_pos_iff.mpr (front.ne_nil consumes)
      rw [List.length_append] at enough
      cases extra with
      | zero => omega
      | succ extra =>
          have more := inductionHypothesis extra (by omega) rfl
          rw [List.append_assoc, repeatStep_succ]
          exact complete front (tail ++ rest) _ (by simp [more])
  | _ => cases patternEq

/-- Where a pattern matches a beginning of the text and what follows can go on, something is
found. -/
theorem run_complete {pattern : Pattern} (productive : pattern.productive = true)
    {matched : List Char} (matches_ : pattern.Matches matched) (rest : List Char)
    (next : List Char → Option α) (reached : (next rest).isSome) :
    (pattern.run (matched ++ rest) next).isSome := by
  induction pattern generalizing matched rest next with
  | one accepts =>
      cases matches_ with
      | one accepted => simpa [run, accepted] using reached
  | seq first second firstComplete secondComplete =>
      rw [Pattern.productive, Bool.and_eq_true] at productive
      cases matches_ with
      | seq front back =>
          rw [List.append_assoc]
          exact firstComplete productive.1 front _ _ (secondComplete productive.2 back _ _ reached)
  | either first second firstComplete secondComplete =>
      rw [Pattern.productive, Bool.and_eq_true] at productive
      rw [run]
      split
      · rfl
      next none =>
          cases matches_ with
          | first matched =>
              have found := firstComplete productive.1 matched rest next reached
              rw [none] at found
              cases found
          | second matched => exact secondComplete productive.2 matched rest next reached
  | optional body bodyComplete =>
      rw [run]
      split
      · rfl
      next none =>
          cases matches_ with
          | present matched =>
              have found := bodyComplete productive matched rest next reached
              rw [none] at found
              cases found
          | absent => exact reached
  | many body bodyComplete =>
      rw [Pattern.productive, Bool.and_eq_true] at productive
      exact repeatStep_complete (fun front => bodyComplete productive.2 front) productive.1
        matches_ rest next reached _ (by simp)

/-! ### As much as possible is taken -/

/-- A pattern matches no beginning of the text. -/
def Exhausted (body : Pattern) (text : List Char) : Prop :=
  ∀ matched rest, text = matched ++ rest → ¬ body.Matches matched

/-- What is known of the text after a match that did not have to give anything back. -/
def Spent : Pattern → List Char → Prop
  | .one _, _ => True
  | .seq _ second, rest => second.Spent rest
  | .either first second, rest => first.Spent rest ∨ second.Spent rest
  | .optional _, _ => True
  | .many body, rest => body.Spent rest ∧ body.Exhausted rest

theorem exhausted_of_run {body : Pattern} (productive : body.productive = true)
    {next : List Char → Option α} (total : ∀ rest, (next rest).isSome) {text : List Char}
    (none : body.run text next = none) : body.Exhausted text := by
  rintro matched rest rfl front
  have found := run_complete productive front rest next (total rest)
  rw [none] at found
  exact absurd found nofun

/-- A repetition that need not give anything back stops where nothing can be repeated. -/
theorem repeatStep_spent {body : Pattern} (productive : (many body).productive = true)
    (spent : ∀ text (next : List Char → Option α) result, (∀ rest, (next rest).isSome) →
      body.run text next = some result → ∃ matched rest, text = matched ++ rest ∧
        body.Matches matched ∧ body.Spent rest ∧ next rest = some result)
    {next : List Char → Option α} (total : ∀ rest, (next rest).isSome) (extra : Nat)
    (text : List Char) (enough : text.length ≤ extra) (result : α)
    (found : repeatStep body.run extra text next = some result) :
    ∃ matched rest, text = matched ++ rest ∧ (many body).Matches matched ∧
      (many body).Spent rest ∧ next rest = some result := by
  rw [Pattern.productive, Bool.and_eq_true] at productive
  induction extra generalizing text with
  | zero =>
      obtain ⟨matched, rest, rfl, front, -⟩ := spent text next result total found
      have nonempty := List.length_pos_iff.mpr (front.ne_nil productive.1)
      rw [List.length_append] at enough
      omega
  | succ extra inductionHypothesis =>
      rw [repeatStep_succ] at found
      obtain ⟨matched, rest, rfl, front, restSpent, reached⟩ :=
        spent text _ result (fun rest => by simp [total]) found
      have nonempty := List.length_pos_iff.mpr (front.ne_nil productive.1)
      rw [List.length_append] at enough
      cases more : repeatStep body.run extra rest next with
      | some other =>
          rw [more, Option.some_or] at reached
          obtain rfl : other = result := Option.some.inj reached
          obtain ⟨others, last, rfl, othersMatch, lastSpent, lastReached⟩ :=
            inductionHypothesis rest (by omega) more
          exact ⟨matched ++ others, last, by simp, .again front othersMatch, lastSpent,
            lastReached⟩
      | none =>
          rw [more, Option.none_or] at reached
          refine ⟨matched, rest, rfl, .once front, ⟨restSpent, ?_⟩, reached⟩
          -- Had there been one more, the repetition would have found it.
          rintro again last rfl againMatches
          have other := repeatStep_complete (fun front => run_complete productive.2 front)
            productive.1 (.once againMatches) last next (total last) extra
            (by rw [List.length_append] at enough; omega)
          rw [more] at other
          exact absurd other nofun

/-- A match after which nothing can fail has taken as much as it can. -/
theorem run_spent (pattern : Pattern) (productive : pattern.productive = true) (text : List Char)
    (next : List Char → Option α) (result : α) (total : ∀ rest, (next rest).isSome)
    (found : pattern.run text next = some result) :
    ∃ matched rest, text = matched ++ rest ∧ pattern.Matches matched ∧ pattern.Spent rest ∧
      next rest = some result := by
  induction pattern generalizing text next result with
  | one accepts =>
      obtain ⟨matched, rest, split, front, reached⟩ := run_sound _ text next result found
      exact ⟨matched, rest, split, front, trivial, reached⟩
  | seq first second _ secondSpent =>
      rw [Pattern.productive, Bool.and_eq_true] at productive
      obtain ⟨head, middle, rfl, front, reached⟩ := run_sound first text _ result found
      obtain ⟨tail, rest, rfl, back, spent, reached⟩ :=
        secondSpent productive.2 middle next result total reached
      exact ⟨head ++ tail, rest, by simp, .seq front back, spent, reached⟩
  | either first second firstSpent secondSpent =>
      rw [Pattern.productive, Bool.and_eq_true] at productive
      rw [run] at found
      cases taken : first.run text next with
      | none =>
          rw [taken] at found
          obtain ⟨matched, rest, split, matches_, spent, reached⟩ :=
            secondSpent productive.2 text next result total found
          exact ⟨matched, rest, split, .second matches_, .inr spent, reached⟩
      | some other =>
          rw [taken] at found
          obtain rfl : other = result := Option.some.inj found
          obtain ⟨matched, rest, split, matches_, spent, reached⟩ :=
            firstSpent productive.1 text next other total taken
          exact ⟨matched, rest, split, .first matches_, .inl spent, reached⟩
  | optional body =>
      obtain ⟨matched, rest, split, front, reached⟩ := run_sound _ text next result found
      exact ⟨matched, rest, split, front, trivial, reached⟩
  | many body bodySpent =>
      have bodyProductive := (Bool.and_eq_true _ _ ▸ productive : _ ∧ _).2
      exact repeatStep_spent productive (bodySpent bodyProductive) total text.length text
        (Nat.le_refl _) result found

end RuntimeConsole.Text.Pattern
