/-
Module: RuntimeConsole.Proofs.PathEnds
Purpose: Where a path ends: a link begins a text exactly if the text begins with a path that goes
  on for as long as it can.
Main exports:
  Platform.isSegmentChar, Platform.isSeparator, Platform.PathEnd, path_unique,
  linkAt?_eq_some_iff, linkAt?_eq_none_iff
-/
import RuntimeConsole.Proofs.PatternGreed

namespace RuntimeConsole

open Text (Pattern)

/-! ### Segments -/

/-- The characters of path segments. -/
def Platform.isSegmentChar : Platform → Char → Bool
  | .posix => isPosixPathChar
  | .windows => isWindowsPathChar

/-- The characters that separate segments. -/
def Platform.isSeparator : Platform → Char → Bool
  | .posix, c => c == '/'
  | .windows, c => c == '\\' || c == '/'

/-- How a path separates its segments. -/
def Platform.separator : Platform → Pattern
  | .posix => literal '/'
  | .windows => .either (literal '\\') (literal '/')

/-- A separator and the segment behind it. -/
def Platform.segment (platform : Platform) : Pattern :=
  .seq platform.separator (.many (.one platform.isSegmentChar))

/-- What a path can begin with instead of a segment. -/
def Platform.root : Platform → Pattern
  | .posix => .either dots (literal '~')
  | .windows =>
      .either (.seq (.one fun c => ('a' ≤ c && c ≤ 'z') || ('A' ≤ c && c ≤ 'Z')) (literal ':'))
        (.either dots (literal '~'))

theorem pathPattern_eq (platform : Platform) :
    platform.pathPattern =
      .seq (.optional (.either platform.root (.many (.one platform.isSegmentChar))))
        (.many platform.segment) := by
  cases platform <;> rfl

theorem pathPattern_productive (platform : Platform) :
    platform.pathPattern.productive = true := by
  cases platform <;> rfl

theorem matches_one_iff {accepts : Char → Bool} {text : List Char} :
    (Pattern.one accepts).Matches text ↔ ∃ c, text = [c] ∧ accepts c = true := by
  constructor
  · intro matched
    cases matched with
    | one accepted => exact ⟨_, rfl, accepted⟩
  · rintro ⟨c, rfl, accepted⟩
    exact .one accepted

theorem matches_literal_iff {c : Char} {text : List Char} :
    (literal c).Matches text ↔ text = [c] := by
  rw [literal, matches_one_iff]
  simp

theorem matches_separator_iff {platform : Platform} {text : List Char} :
    platform.separator.Matches text ↔ ∃ c, text = [c] ∧ platform.isSeparator c = true := by
  cases platform with
  | posix =>
      rw [Platform.separator, matches_literal_iff]
      simp [Platform.isSeparator]
  | windows =>
      constructor
      · intro matched
        cases matched with
        | first matched => exact ⟨_, matches_literal_iff.mp matched, rfl⟩
        | second matched => exact ⟨_, matches_literal_iff.mp matched, rfl⟩
      · rintro ⟨c, rfl, separates⟩
        simp only [Platform.isSeparator, Bool.or_eq_true, beq_iff_eq] at separates
        rcases separates with rfl | rfl
        · exact .first (matches_literal_iff.mpr rfl)
        · exact .second (matches_literal_iff.mpr rfl)

/-- Repeating a class takes a text that is not empty and all of the class. -/
theorem matches_many_one_iff {accepts : Char → Bool} {text : List Char} :
    (Pattern.many (.one accepts)).Matches text ↔ text ≠ [] ∧ ∀ c ∈ text, accepts c = true := by
  constructor
  · intro matched
    exact ⟨matched.ne_nil rfl, matched.forall_mem fun _ accepted => accepted⟩
  · rintro ⟨some, all⟩
    induction text with
    | nil => exact absurd rfl some
    | cons c text inductionHypothesis =>
        have head : (Pattern.one accepts).Matches [c] := .one (all c List.mem_cons_self)
        cases text with
        | nil => exact .once head
        | cons d text =>
            have tail := inductionHypothesis nofun fun e member =>
              all e (List.mem_cons_of_mem c member)
            exact .again head tail

theorem matches_segment_iff {platform : Platform} {text : List Char} :
    platform.segment.Matches text ↔
      ∃ c d rest, text = c :: d :: rest ∧ platform.isSeparator c = true ∧
        ∀ e ∈ d :: rest, platform.isSegmentChar e = true := by
  constructor
  · intro matched
    cases matched with
    | seq front back =>
        obtain ⟨c, rfl, separates⟩ := matches_separator_iff.mp front
        obtain ⟨some, all⟩ := matches_many_one_iff.mp back
        obtain ⟨d, rest, rfl⟩ := List.exists_cons_of_ne_nil some
        exact ⟨c, d, rest, rfl, separates, all⟩
  · rintro ⟨c, d, rest, rfl, separates, all⟩
    have front := matches_separator_iff.mpr ⟨c, rfl, separates⟩
    have back := matches_many_one_iff.mpr ⟨List.cons_ne_nil d rest, all⟩
    exact .seq front back

/-! ### Paths -/

/-- What may stand in a path: a character of a segment, or a separator with a segment behind. -/
def Platform.GoesOn (platform : Platform) (c : Char) (rest : List Char) : Prop :=
  platform.isSegmentChar c = true ∨
    platform.isSeparator c = true ∧ ∃ d others, rest = d :: others ∧ platform.isSegmentChar d = true

/-- A path cannot go on with a text. -/
def Platform.PathEnd (platform : Platform) (text : List Char) : Prop :=
  ∀ c rest, text = c :: rest → ¬ platform.GoesOn c rest

theorem Platform.GoesOn.append {platform : Platform} {c : Char} {rest : List Char}
    (goesOn : platform.GoesOn c rest) (more : List Char) : platform.GoesOn c (rest ++ more) := by
  rcases goesOn with inside | ⟨separates, d, others, rfl, inside⟩
  · exact .inl inside
  · exact .inr ⟨separates, d, others ++ more, rfl, inside⟩

/-- Everything in separated segments goes on from what stands before it. -/
theorem goesOn_of_segments {platform : Platform} {text : List Char}
    (matched : (Pattern.many platform.segment).Matches text) {before rest : List Char} {c : Char}
    (split : text = before ++ c :: rest) : platform.GoesOn c rest := by
  have one {text before rest : List Char} (front : platform.segment.Matches text)
      (split : text = before ++ c :: rest) : platform.GoesOn c rest := by
    obtain ⟨first, d, others, rfl, separates, all⟩ := matches_segment_iff.mp front
    cases before with
    | nil =>
        obtain ⟨rfl, rfl⟩ := List.cons.inj split
        exact .inr ⟨separates, d, others, rfl, all d List.mem_cons_self⟩
    | cons _ before =>
        have member : c ∈ d :: others := (List.cons.inj split).2 ▸ by simp
        exact .inl (all c member)
  generalize patternEq : Pattern.many platform.segment = pattern at matched
  induction matched generalizing before rest with
  | once front =>
      cases patternEq
      exact one front split
  | @again _ head tail front _ _ tailHypothesis =>
      cases patternEq
      rcases List.append_eq_append_iff.mp split with ⟨between, rfl, tailEq⟩ | ⟨between, rfl, headEq⟩
      · exact tailHypothesis tailEq rfl
      · cases between with
        | nil =>
            have atOnce : tail = [] ++ c :: rest := headEq.symm
            exact tailHypothesis atOnce rfl
        | cons d between =>
            obtain ⟨rfl, rfl⟩ := List.cons.inj headEq
            exact (one front rfl).append tail
  | _ => cases patternEq

/-- A path is a root or the beginning of a segment, followed by separated segments. -/
theorem path_split {platform : Platform} {path : List Char}
    (matched : platform.pathPattern.Matches path) :
    ∃ root segments, path = root ++ segments ∧
      (root.length ≤ 2 ∨ ∀ c ∈ root, platform.isSegmentChar c = true) ∧
      (Pattern.many platform.segment).Matches segments := by
  have dotsShort {text : List Char} (matched : dots.Matches text) : text.length ≤ 2 := by
    cases matched with
    | seq front back =>
        rw [matches_literal_iff.mp front]
        cases back with
        | present back => rw [matches_literal_iff.mp back]; simp
        | absent => simp
  have standardShort {text : List Char} (matched : (Pattern.either dots (literal '~')).Matches text) :
      text.length ≤ 2 := by
    cases matched with
    | first matched => exact dotsShort matched
    | second matched => rw [matches_literal_iff.mp matched]; simp
  have rootShort {text : List Char} (matched : platform.root.Matches text) : text.length ≤ 2 := by
    cases platform with
    | posix => exact standardShort matched
    | windows =>
        cases matched with
        | second matched => exact standardShort matched
        | first matched =>
            cases matched with
            | seq front back =>
                obtain ⟨c, rfl, -⟩ := matches_one_iff.mp front
                rw [matches_literal_iff.mp back]
                simp
  rw [pathPattern_eq] at matched
  cases matched with
  | seq front back =>
      refine ⟨_, _, rfl, ?_, back⟩
      cases front with
      | absent => exact .inl (by simp)
      | present front =>
          cases front with
          | first root => exact .inl (rootShort root)
          | second segment => exact .inr (matches_many_one_iff.mp segment).2

/-- Separated segments begin with a separator and a character of a segment. -/
theorem segments_cons {platform : Platform} {text : List Char}
    (matched : (Pattern.many platform.segment).Matches text) :
    ∃ c d rest, text = c :: d :: rest ∧ platform.isSeparator c = true ∧
      platform.isSegmentChar d = true := by
  cases matched with
  | once front =>
      obtain ⟨c, d, rest, rfl, separates, all⟩ := matches_segment_iff.mp front
      exact ⟨c, d, rest, rfl, separates, all d List.mem_cons_self⟩
  | @again _ _ tail front _ =>
      obtain ⟨c, d, rest, rfl, separates, all⟩ := matches_segment_iff.mp front
      exact ⟨c, d, rest ++ tail, rfl, separates, all d List.mem_cons_self⟩

theorem two_le_length_of_path {platform : Platform} {path : List Char}
    (matched : platform.pathPattern.Matches path) : 2 ≤ path.length := by
  obtain ⟨root, segments, rfl, -, segmentsMatch⟩ := path_split matched
  obtain ⟨c, d, rest, rfl, -⟩ := segments_cons segmentsMatch
  simp only [List.length_append, List.length_cons]
  omega

/-- A path that begins with another one goes on from where that ends. -/
theorem goesOn_of_path {platform : Platform} {before rest : List Char} {c : Char}
    (matched : platform.pathPattern.Matches (before ++ c :: rest)) (long : 2 ≤ before.length) :
    platform.GoesOn c rest := by
  obtain ⟨root, segments, split, short, segmentsMatch⟩ := path_split matched
  rcases List.append_eq_append_iff.mp split with ⟨between, rfl, segmentsEq⟩ | ⟨between, rfl, restEq⟩
  · -- Here the other path ends inside of the root, behind its second character.
    cases between with
    | nil =>
        have atOnce : segments = [] ++ c :: rest := segmentsEq.symm
        exact goesOn_of_segments segmentsMatch atOnce
    | cons d between =>
        obtain ⟨rfl, rfl⟩ := List.cons.inj segmentsEq
        rcases short with short | inside
        · simp at short
          omega
        · exact .inl (inside c (by simp))
  · exact goesOn_of_segments segmentsMatch restEq

/-- Of the paths a text begins with, only one goes on for as long as it can. -/
theorem path_unique {platform : Platform} {first second firstRest secondRest : List Char}
    (firstMatches : platform.pathPattern.Matches first) (firstEnds : platform.PathEnd firstRest)
    (secondMatches : platform.pathPattern.Matches second) (secondEnds : platform.PathEnd secondRest)
    (same : first ++ firstRest = second ++ secondRest) : first = second := by
  rcases List.append_eq_append_iff.mp same with ⟨between, rfl, restEq⟩ | ⟨between, rfl, restEq⟩
  · cases between with
    | nil => simp
    | cons c between =>
        have goesOn := goesOn_of_path secondMatches (two_le_length_of_path firstMatches)
        exact absurd (goesOn.append secondRest) (firstEnds c _ restEq)
  · cases between with
    | nil => simp
    | cons c between =>
        have goesOn := goesOn_of_path firstMatches (two_le_length_of_path secondMatches)
        exact absurd (goesOn.append firstRest) (secondEnds c _ restEq)

/-! ### Links at the beginning of a text -/

/-- A path that was matched with preferences goes on for as long as it can. -/
theorem pathEnd_of_spent {platform : Platform} {rest : List Char}
    (spent : platform.pathPattern.Spent rest) : platform.PathEnd rest := by
  rw [pathPattern_eq] at spent
  obtain ⟨⟨-, noSegmentChar⟩, noSegment⟩ := spent
  rintro c others rfl goesOn
  rcases goesOn with inside | ⟨separates, d, others, rfl, inside⟩
  · exact noSegmentChar [c] others rfl (.one inside)
  · refine noSegment [c, d] others rfl (matches_segment_iff.mpr ⟨c, d, [], rfl, separates, ?_⟩)
    simp [inside]

/-- A link begins a text with the one path that goes on for as long as it can. -/
theorem linkAt?_eq_some_iff {platform : Platform} {text path digits : List Char} :
    linkAt? platform text = some (path, digits) ↔
      ∃ rest, text = path ++ rest ∧ platform.pathPattern.Matches path ∧ platform.PathEnd rest ∧
        digits = lineDigits rest := by
  have sound {rest : List Char} (found : platform.pathPattern.first? text = some rest) :
      ∃ path, text = path ++ rest ∧ platform.pathPattern.Matches path ∧
        platform.PathEnd rest := by
    obtain ⟨path, last, split, matched, spent, same⟩ := platform.pathPattern.run_spent
      (pathPattern_productive platform) text some rest (fun _ => rfl) found
    obtain rfl : last = rest := Option.some.inj same
    exact ⟨path, split, matched, pathEnd_of_spent spent⟩
  constructor
  · intro found
    unfold linkAt? at found
    cases first : platform.pathPattern.first? text with
    | none => rw [first] at found; cases found
    | some rest =>
        obtain ⟨path, rfl, matched, ends⟩ := sound first
        rw [first] at found
        simp only [List.length_append, Nat.add_sub_cancel, List.take_left', Option.some.injEq,
          Prod.mk.injEq] at found
        obtain ⟨rfl, rfl⟩ := found
        exact ⟨rest, rfl, matched, ends, rfl⟩
  · rintro ⟨rest, rfl, matched, ends, rfl⟩
    have found := Pattern.run_complete (pathPattern_productive platform) matched rest some rfl
    obtain ⟨last, first⟩ := Option.isSome_iff_exists.mp found
    obtain ⟨other, split, otherMatched, otherEnds⟩ := sound first
    obtain rfl := path_unique matched ends otherMatched otherEnds split
    obtain rfl := List.append_cancel_left split
    unfold linkAt?
    rw [Pattern.first?, first]
    simp

/-- No link begins a text exactly if it does not begin with a path. -/
theorem linkAt?_eq_none_iff {platform : Platform} {text : List Char} :
    linkAt? platform text = none ↔ platform.pathPattern.Exhausted text := by
  constructor
  · intro none
    have failed : platform.pathPattern.run text some = Option.none := by
      unfold linkAt? at none
      cases first : platform.pathPattern.first? text with
      | none => exact first
      | some rest => rw [first] at none; cases none
    exact Pattern.exhausted_of_run (pathPattern_productive platform) (fun _ => rfl) failed
  · intro exhausted
    cases found : linkAt? platform text with
    | none => rfl
    | some parts =>
        obtain ⟨rest, split, matched, -⟩ := linkAt?_eq_some_iff.mp found
        exact absurd matched (exhausted _ _ split)

end RuntimeConsole
