/-
Module: RuntimeConsole.Proofs.LinkSpan
Purpose: What candidates for links are: stretches of a line that are not empty, begin with
  something visible, and follow each other without overlaps.
Main exports:
  Text.Pattern.Matches, Text.Pattern.run_sound, LinkMatch.SpelledBy, linksInLine_spelled,
  linksInLine_apart
-/
import RuntimeConsole.Link.Grammar

namespace RuntimeConsole

namespace Text

namespace Pattern

/-! ### Patterns -/

/-- The texts that match a pattern, whatever comes after them. -/
inductive Matches : Pattern → List Char → Prop where
  | one {accepts : Char → Bool} {c : Char} (accepted : accepts c = true) :
      Matches (.one accepts) [c]
  | seq {first second : Pattern} {head tail : List Char} (front : Matches first head)
      (back : Matches second tail) : Matches (.seq first second) (head ++ tail)
  | first {first second : Pattern} {text : List Char} (matched : Matches first text) :
      Matches (.either first second) text
  | second {first second : Pattern} {text : List Char} (matched : Matches second text) :
      Matches (.either first second) text
  | present {body : Pattern} {text : List Char} (matched : Matches body text) :
      Matches (.optional body) text
  | absent {body : Pattern} : Matches (.optional body) []
  | once {body : Pattern} {text : List Char} (matched : Matches body text) :
      Matches (.many body) text
  | again {body : Pattern} {head tail : List Char} (front : Matches body head)
      (back : Matches (.many body) tail) : Matches (.many body) (head ++ tail)

variable {α : Type}

/-- A step that takes what matches a pattern does so when it is repeated. -/
theorem repeatStep_sound {body : Pattern}
    {step : List Char → (List Char → Option α) → Option α}
    (sound : ∀ text next result, step text next = some result →
      ∃ matched rest, text = matched ++ rest ∧ body.Matches matched ∧ next rest = some result)
    (extra : Nat) (text : List Char) (next : List Char → Option α) (result : α)
    (found : repeatStep step extra text next = some result) :
    ∃ matched rest, text = matched ++ rest ∧ (many body).Matches matched ∧
      next rest = some result := by
  induction extra generalizing text with
  | zero =>
      obtain ⟨matched, rest, split, matches_, reached⟩ := sound text next result found
      exact ⟨matched, rest, split, .once matches_, reached⟩
  | succ extra inductionHypothesis =>
      obtain ⟨matched, rest, rfl, matches_, reached⟩ := sound text _ result found
      cases more : repeatStep step extra rest next with
      | none =>
          rw [more] at reached
          exact ⟨matched, rest, rfl, .once matches_, reached⟩
      | some other =>
          rw [more] at reached
          obtain rfl : other = result := Option.some.inj reached
          obtain ⟨others, last, rfl, othersMatch, lastReached⟩ := inductionHypothesis rest more
          exact ⟨matched ++ others, last, by simp, .again matches_ othersMatch, lastReached⟩

/-- A pattern matches a beginning of the text, and what follows goes on with the rest. -/
theorem run_sound (pattern : Pattern) (text : List Char) (next : List Char → Option α)
    (result : α) (found : pattern.run text next = some result) :
    ∃ matched rest, text = matched ++ rest ∧ pattern.Matches matched ∧
      next rest = some result := by
  induction pattern generalizing text next result with
  | one accepts =>
      cases text with
      | nil => cases found
      | cons c rest =>
          rw [run] at found
          split at found
          next accepted => exact ⟨[c], rest, rfl, .one accepted, found⟩
          next => cases found
  | seq first second firstSound secondSound =>
      obtain ⟨head, middle, rfl, front, reached⟩ := firstSound text _ result found
      obtain ⟨tail, rest, rfl, back, reached⟩ := secondSound middle next result reached
      exact ⟨head ++ tail, rest, by simp, .seq front back, reached⟩
  | either first second firstSound secondSound =>
      rw [run] at found
      cases taken : first.run text next with
      | none =>
          rw [taken] at found
          obtain ⟨matched, rest, split, matches_, reached⟩ := secondSound text next result found
          exact ⟨matched, rest, split, .second matches_, reached⟩
      | some other =>
          rw [taken] at found
          obtain rfl : other = result := Option.some.inj found
          obtain ⟨matched, rest, split, matches_, reached⟩ := firstSound text next other taken
          exact ⟨matched, rest, split, .first matches_, reached⟩
  | optional body bodySound =>
      rw [run] at found
      cases taken : body.run text next with
      | none =>
          rw [taken] at found
          exact ⟨[], text, rfl, .absent, found⟩
      | some other =>
          rw [taken] at found
          obtain rfl : other = result := Option.some.inj found
          obtain ⟨matched, rest, split, matches_, reached⟩ := bodySound text next other taken
          exact ⟨matched, rest, split, .present matches_, reached⟩
  | many body bodySound => exact repeatStep_sound bodySound text.length text next result found

/-- Whether the classes of a pattern have a property in common. -/
def Over (property : Char → Prop) : Pattern → Prop
  | .one accepts => ∀ c, accepts c = true → property c
  | .seq first second => first.Over property ∧ second.Over property
  | .either first second => first.Over property ∧ second.Over property
  | .optional body => body.Over property
  | .many body => body.Over property

theorem Matches.forall_mem {property : Char → Prop} {pattern : Pattern} {text : List Char}
    (matched : pattern.Matches text) (covers : pattern.Over property) :
    ∀ c ∈ text, property c := by
  induction matched with
  | one accepted =>
      intro c member
      obtain rfl := List.mem_singleton.mp member
      exact covers _ accepted
  | seq _ _ front back =>
      intro c member
      exact (List.mem_append.mp member).elim (front covers.1 c) (back covers.2 c)
  | first _ inductionHypothesis => exact inductionHypothesis covers.1
  | second _ inductionHypothesis => exact inductionHypothesis covers.2
  | present _ inductionHypothesis => exact inductionHypothesis covers
  | absent => simp
  | once _ inductionHypothesis => exact inductionHypothesis covers
  | again _ _ front back =>
      intro c member
      exact (List.mem_append.mp member).elim (front covers c) (back covers c)

/-- Whether a pattern matches no empty text. -/
def consumes : Pattern → Bool
  | .one _ => true
  | .seq first second => first.consumes || second.consumes
  | .either first second => first.consumes && second.consumes
  | .optional _ => false
  | .many body => body.consumes

theorem Matches.ne_nil {pattern : Pattern} {text : List Char} (matched : pattern.Matches text)
    (consumes : pattern.consumes = true) : text ≠ [] := by
  induction matched with
  | one => simp
  | seq _ _ front back =>
      rcases Bool.or_eq_true _ _ ▸ consumes with first | second
      · exact fun empty => front first (List.append_eq_nil_iff.mp empty).1
      · exact fun empty => back second (List.append_eq_nil_iff.mp empty).2
  | first _ inductionHypothesis => exact inductionHypothesis (Bool.and_eq_true _ _ ▸ consumes).1
  | second _ inductionHypothesis => exact inductionHypothesis (Bool.and_eq_true _ _ ▸ consumes).2
  | present => cases consumes
  | absent => cases consumes
  | once _ inductionHypothesis => exact inductionHypothesis consumes
  | again _ _ front _ => exact fun empty => front consumes (List.append_eq_nil_iff.mp empty).1

end Pattern

/-! ### Lines -/

theorem linesFrom_of_noBreak (text current : List Char) (noBreak : '\n' ∉ text)
    (occupied : current.reverse ++ text ≠ []) :
    linesFrom current text = [current.reverse ++ text] := by
  induction text generalizing current with
  | nil =>
      have some : current ≠ [] := by simpa using occupied
      simp [linesFrom, some]
  | cons c text inductionHypothesis =>
      have other : c ≠ '\n' := fun same => noBreak (same ▸ List.mem_cons_self)
      rw [linesFrom, inductionHypothesis (c :: current) (by simp_all) (by simp)]
      · simp
      · exact other

end Text

/-! ### Paths -/

/-- Paths contain no blanks, wherever they are written. -/
theorem pathPattern_over (platform : Platform) :
    platform.pathPattern.Over fun c => Text.isBlank c = false := by
  have dot : Text.isBlank '.' = false := by decide
  have tilde : Text.isBlank '~' = false := by decide
  have slash : Text.isBlank '/' = false := by decide
  have backslash : Text.isBlank '\\' = false := by decide
  have colon : Text.isBlank ':' = false := by decide
  have letter (c : Char) (inside : ('a' ≤ c ∧ c ≤ 'z') ∨ ('A' ≤ c ∧ c ≤ 'Z')) :
      Text.isBlank c = false := by
    simp only [Char.le_def, UInt32.le_iff_toNat_le] at inside
    change (97 ≤ c.toNat ∧ c.toNat ≤ 122) ∨ (65 ≤ c.toNat ∧ c.toNat ≤ 90) at inside
    grind [Text.isBlank]
  cases platform <;>
    simp [Platform.pathPattern, pathWith, literal, dots, Text.Pattern.Over, isPosixPathChar,
      isWindowsPathChar, dot, tilde, slash, backslash, colon] <;>
    grind

theorem pathPattern_consumes (platform : Platform) : platform.pathPattern.consumes = true := by
  cases platform <;> rfl

theorem lineDigits_isPrefix (text : List Char) :
    (if (lineDigits text).isEmpty then [] else ':' :: lineDigits text) <+: text := by
  unfold lineDigits
  split
  next rest =>
      split
      · exact List.nil_prefix
      · exact (List.prefix_cons_inj _).mpr (List.takeWhile_prefix _)
  next => exact List.nil_prefix

/-- A candidate begins the text with a path, and a line number may follow. -/
theorem linkAt?_sound {platform : Platform} {text path digits : List Char}
    (found : linkAt? platform text = some (path, digits)) :
    path ≠ [] ∧ (∀ c ∈ path, Text.isBlank c = false) ∧
      (if digits.isEmpty then path else path ++ ':' :: digits) <+: text := by
  unfold linkAt? at found
  split at found
  next => cases found
  next rest matched =>
      obtain ⟨whole, last, rfl, matches_, same⟩ :=
        platform.pathPattern.run_sound text some rest matched
      obtain rfl : last = rest := Option.some.inj same
      simp only [List.length_append, Nat.add_sub_cancel, List.take_left', Option.some.injEq,
        Prod.mk.injEq] at found
      obtain ⟨rfl, rfl⟩ := found
      refine ⟨matches_.ne_nil (pathPattern_consumes platform),
        matches_.forall_mem (pathPattern_over platform), ?_⟩
      have number := (List.prefix_append_right_inj whole).mpr (lineDigits_isPrefix last)
      split
      next none => simp
      next some => simpa [some] using number

/-! ### Stretches -/

/-- A link names a stretch of a line that begins with something visible. -/
structure LinkMatch.SpelledBy (link : LinkMatch) (line : List Char) : Prop where
  nonempty : link.start < link.stop
  inside : link.stop ≤ line.length
  text : link.text.toList = (line.drop link.start).take (link.stop - link.start)
  visible : ∃ c, link.text.toList.head? = some c ∧ Text.isBlank c = false

theorem ofParts_spelled {platform : Platform} {before text path digits : List Char}
    (found : linkAt? platform text = some (path, digits)) :
    (LinkMatch.ofParts before.length path digits).SpelledBy (before ++ text) := by
  obtain ⟨some, visible, rest, rfl⟩ := linkAt?_sound found
  obtain ⟨c, path, rfl⟩ := List.exists_cons_of_ne_nil some
  unfold LinkMatch.ofParts
  generalize whole : (if digits.isEmpty then c :: path else c :: path ++ ':' :: digits) = stretch
  obtain ⟨others, rfl⟩ : ∃ others, stretch = c :: others := by
    split at whole
    · exact ⟨path, whole.symm⟩
    · exact ⟨path ++ ':' :: digits, whole.symm⟩
  exact {
    nonempty := by simp
    inside := by simp
    text := by simp
    visible := ⟨c, by simp, visible c List.mem_cons_self⟩ }

/-- No candidate begins before the characters that are passed over. -/
theorem linksFrom_start (platform : Platform) (text : List Char) (skip column : Nat) :
    ∀ link ∈ linksFrom platform skip column text, column + skip ≤ link.start := by
  induction text generalizing skip column with
  | nil => simp [linksFrom]
  | cons c text inductionHypothesis =>
      intro link member
      cases skip with
      | succ skip =>
          have := inductionHypothesis skip (column + 1) link member
          omega
      | zero =>
          rw [linksFrom] at member
          split at member
          next =>
              have := inductionHypothesis 0 (column + 1) link member
              omega
          next path digits _ =>
              rcases List.mem_cons.mp member with rfl | member
              · exact Nat.le_refl _
              · have := inductionHypothesis _ (column + 1) link member
                omega

theorem linksFrom_spelled (platform : Platform) (text before : List Char) (skip : Nat) :
    ∀ link ∈ linksFrom platform skip before.length text, link.SpelledBy (before ++ text) := by
  induction text generalizing skip before with
  | nil => simp [linksFrom]
  | cons c text inductionHypothesis =>
      have next (skip : Nat) : ∀ link ∈ linksFrom platform skip (before.length + 1) text,
          link.SpelledBy (before ++ c :: text) := by
        simpa using inductionHypothesis (before ++ [c]) skip
      intro link member
      cases skip with
      | succ skip => exact next skip link member
      | zero =>
          rw [linksFrom] at member
          split at member
          next => exact next 0 link member
          next path digits found =>
              rcases List.mem_cons.mp member with rfl | member
              · exact ofParts_spelled found
              · exact next _ link member

theorem linksFrom_apart (platform : Platform) (text before : List Char) (skip : Nat) :
    (linksFrom platform skip before.length text).Pairwise
      fun first second => first.stop ≤ second.start := by
  induction text generalizing skip before with
  | nil => exact .nil
  | cons c text inductionHypothesis =>
      have next (skip : Nat) := by simpa using inductionHypothesis (before ++ [c]) skip
      cases skip with
      | succ skip => exact next skip
      | zero =>
          rw [linksFrom]
          split
          next => exact next 0
          next path digits found =>
              refine .cons (fun other member => ?_) (next _)
              have behind := linksFrom_start platform text _ _ other member
              have spelled : (LinkMatch.ofParts before.length path digits).SpelledBy
                  (before ++ c :: text) := ofParts_spelled found
              have := spelled.nonempty
              have start : (LinkMatch.ofParts before.length path digits).start =
                  before.length := rfl
              omega

/-- The links of a line are stretches of it. -/
theorem linksInLine_spelled (platform : Platform) (line : List Char) :
    ∀ link ∈ linksInLine platform line, link.SpelledBy line :=
  linksFrom_spelled platform line [] 0

/-- The links of a line follow each other without overlaps. -/
theorem linksInLine_apart (platform : Platform) (line : List Char) :
    (linksInLine platform line).Pairwise fun first second => first.stop ≤ second.start :=
  linksFrom_apart platform line [] 0

/-- A text without line breaks is one line. -/
theorem linksInText_of_noBreak (platform : Platform) {text : List Char} (noBreak : '\n' ∉ text) :
    linksInText platform text = linksInLine platform text := by
  by_cases empty : text = []
  · subst empty
    rfl
  · have one : Text.lines text = [text] :=
      Text.linesFrom_of_noBreak text [] noBreak empty
    rw [linksInText, one, List.flatMap_singleton]

end RuntimeConsole
