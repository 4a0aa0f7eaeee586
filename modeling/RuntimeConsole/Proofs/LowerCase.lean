/-
Module: RuntimeConsole.Proofs.LowerCase
Purpose: What lower case leaves as it is: everything that is lower case already, hyphens and
  blanks, which also part a text into pieces that become lower case on their own.
Main exports:
  Settled, Neutral, mem_lowerChar, images, settled_of_mem_lower, lower_lower, hyphen_mem_lower,
  lower_append, trim_lower, splitOn_lower
-/
import RuntimeConsole.Text.Blank
import RuntimeConsole.Text.Case

namespace RuntimeConsole.Text

/-! ### The table of lower-case forms -/

/-- Whether runs cover none of the code points from `first` to `last`, or none of every second of
them where only these count. -/
def runsMiss (runs : List CaseRun) (first last : Nat) (alternate : Bool) : Bool :=
  runs.all fun run => Nat.blt last run.first || (Nat.blt run.last first ||
    (alternate && (run.stride == 2 && (first + run.first) % 2 == 1)))

theorem not_covers_of_runsMiss {runs : List CaseRun} {first last n : Nat} {alternate : Bool}
    (misses : runsMiss runs first last alternate = true) (above : first ≤ n) (below : n ≤ last)
    (counts : alternate = true → (n - first) % 2 = 0) :
    ∀ run ∈ runs, run.covers n = false := by
  intro run member
  have apart := List.all_eq_true.mp misses run member
  simp only [Nat.blt_eq, Bool.or_eq_true, Bool.and_eq_true, beq_iff_eq] at apart
  rw [CaseRun.covers, Bool.eq_false_iff]
  simp only [ne_eq, Bool.and_eq_true, decide_eq_true_eq, beq_iff_eq]
  rintro ⟨⟨aboveFirst, belowLast⟩, onStride⟩
  rcases apart with before | behind | ⟨second, stride, odd⟩
  · omega
  · omega
  · have even := counts second
    rw [stride] at onStride
    omega

/-- Whether ranges have nothing in common with the code points from `first` to `last`. -/
def rangesMiss (ranges : List (Nat × Nat)) (first last : Nat) : Bool :=
  ranges.all fun range => Nat.blt last range.1 || Nat.blt range.2 first

theorem not_inRanges_of_rangesMiss {ranges : List (Nat × Nat)} {first last : Nat}
    (misses : rangesMiss ranges first last = true) {c : Char} (above : first ≤ c.toNat)
    (below : c.toNat ≤ last) : inRanges ranges c = false := by
  rw [inRanges, List.any_eq_false]
  intro range member
  have apart := List.all_eq_true.mp misses range member
  simp only [Nat.blt_eq, Bool.or_eq_true, Bool.and_eq_true, decide_eq_true_eq] at apart ⊢
  omega

/-- The code points of the hyphen and of the blanks. -/
def neutralRanges : List (Nat × Nat) :=
  [(0x9, 0xD), (0x20, 0x20), (0x2D, 0x2D), (0x85, 0x85), (0xA0, 0xA0), (0x1680, 0x1680),
    (0x2000, 0x200A), (0x2028, 0x2029), (0x202F, 0x202F), (0x205F, 0x205F), (0x3000, 0x3000)]

theorem inRanges_neutralRanges (c : Char) :
    inRanges neutralRanges c = (c == '-' || isBlank c) := by
  have hyphen : c = '-' ↔ c.toNat = 0x2D := Char.toNat_inj.symm
  rw [Bool.eq_iff_iff]
  simp only [inRanges, neutralRanges, List.any_cons, List.any_nil, isBlank, Bool.or_eq_true,
    Bool.and_eq_true, decide_eq_true_eq, beq_iff_eq, hyphen, Bool.or_false]
  omega

/-- None of them becomes another character, has case, or is skipped where case is looked for. -/
theorem neutralRanges_missed : (neutralRanges.all fun range =>
    runsMiss lowerRuns range.1 range.2 false && rangesMiss casedRanges range.1 range.2 &&
      rangesMiss caseIgnorableRanges range.1 range.2) = true := by
  decide +kernel

/-- No digit of ASCII becomes another character. -/
theorem digits_missed : runsMiss lowerRuns 0x30 0x39 false = true := by
  decide +kernel

/-- The code points no lower-case form has: besides them those of the two capitals with rules of
their own, and those that are no characters. -/
def exceptions : List (Nat × Nat) :=
  (0x130, 0x130) :: (0x3A3, 0x3A3) :: (0xD800, 0xDFFF) :: (0x110000, 0x110000) :: neutralRanges

/-- The images of a run are as far apart as its characters are.  None of them has an image that is
another character, and none is an exception. -/
theorem images_missed : (lowerRuns.all fun run =>
    runsMiss lowerRuns (Int.toNat (run.first + run.shift)) (Int.toNat (run.last + run.shift))
        (run.stride == 2 || run.first == run.last) &&
      rangesMiss exceptions (Int.toNat (run.first + run.shift))
        (Int.toNat (run.last + run.shift)) &&
      decide (0 ≤ run.first + run.shift) && decide (run.last + run.shift < 0x110000)) = true := by
  decide +kernel

/-! ### Single characters -/

/-- Characters that lower case leaves as they are, wherever they stand. -/
structure Settled (c : Char) : Prop where
  lowerChar : lowerChar c = [c]
  notSigma : c ≠ capitalSigma

/-- Settled characters at which a text can be cut: no word goes on behind them. -/
structure Neutral (c : Char) : Prop extends Settled c where
  notCased : inRanges casedRanges c = false
  notIgnored : inRanges caseIgnorableRanges c = false

/-- A character is its own lower-case form unless a run covers it or it is one of two. -/
theorem lowerChar_cases (c : Char) :
    c = 'İ' ∨
      (∃ run ∈ lowerRuns, run.covers c.toNat = true ∧
        lowerChar c = [Char.ofNat (Int.toNat (c.toNat + run.shift))]) ∨
      ((∀ run ∈ lowerRuns, run.covers c.toNat = false) ∧ Settled c) := by
  by_cases dotted : c.toNat = 0x130
  · exact .inl (Char.toNat_inj.mp dotted)
  · have noExpansion : (lowerExpansions.find? fun entry => entry.1 == c.toNat) = none := by
      simp [lowerExpansions, Ne.symm dotted]
    cases found : lowerRuns.find? fun run => run.covers c.toNat with
    | some run =>
        have lowered : lowerChar c = [Char.ofNat (Int.toNat (c.toNat + run.shift))] := by
          simp only [lowerChar, mapCase, noExpansion, found]
        have covered : run.covers c.toNat = true := by simpa using List.find?_some found
        exact .inr (.inl ⟨run, List.mem_of_find?_eq_some found, covered, lowered⟩)
    | none =>
        have lowered : lowerChar c = [c] := by
          simp only [lowerChar, mapCase, noExpansion, found]
        have uncovered : ∀ run ∈ lowerRuns, run.covers c.toNat = false := fun run member => by
          simpa using List.find?_eq_none.mp found run member
        refine .inr (.inr ⟨uncovered, lowered, ?_⟩)
        rintro rfl
        exact absurd (uncovered ⟨0x3A3, 0x3AB, 1, 32⟩ (by decide)) (by decide)

theorem settled_of_not_covered {c : Char} (other : c ≠ 'İ')
    (uncovered : ∀ run ∈ lowerRuns, run.covers c.toNat = false) : Settled c := by
  rcases lowerChar_cases c with dotted | ⟨run, member, covered, -⟩ | ⟨-, settled⟩
  · exact absurd dotted other
  · rw [uncovered run member] at covered
    cases covered
  · exact settled

theorem neutral_of_inRanges {c : Char} (inside : inRanges neutralRanges c = true) : Neutral c := by
  obtain ⟨range, member, bounds⟩ := List.any_eq_true.mp inside
  have missed := List.all_eq_true.mp neutralRanges_missed range member
  simp only [Bool.and_eq_true, decide_eq_true_eq] at bounds missed
  obtain ⟨⟨notLowered, notCased⟩, notIgnored⟩ := missed
  have other : c ≠ 'İ' := by
    rintro rfl
    exact absurd inside (by decide)
  have uncovered := not_covers_of_runsMiss notLowered bounds.1 bounds.2 nofun
  exact {
    toSettled := settled_of_not_covered other uncovered
    notCased := not_inRanges_of_rangesMiss notCased bounds.1 bounds.2
    notIgnored := not_inRanges_of_rangesMiss notIgnored bounds.1 bounds.2 }

theorem neutral_hyphen : Neutral '-' :=
  neutral_of_inRanges (by decide)

theorem neutral_of_blank {c : Char} (blank : isBlank c = true) : Neutral c :=
  neutral_of_inRanges (by rw [inRanges_neutralRanges, blank, Bool.or_true])

theorem settled_of_isDigit {c : Char} (digit : c.isDigit = true) : Settled c := by
  simp only [Char.isDigit, Bool.and_eq_true, decide_eq_true_eq] at digit
  have other : c ≠ 'İ' := by
    rintro rfl
    exact absurd digit (by decide)
  exact settled_of_not_covered other
    (not_covers_of_runsMiss digits_missed (UInt32.le_iff_toNat_le.mp digit.1)
      (UInt32.le_iff_toNat_le.mp digit.2) nofun)

/-- The image of a character under a run is settled, and neither a hyphen nor a blank. -/
theorem settled_image {run : CaseRun} (member : run ∈ lowerRuns) {n : Nat}
    (covered : run.covers n = true) :
    Settled (Char.ofNat (Int.toNat (n + run.shift))) ∧
      inRanges neutralRanges (Char.ofNat (Int.toNat (n + run.shift))) = false := by
  have missed := List.all_eq_true.mp images_missed run member
  simp only [Bool.and_eq_true, decide_eq_true_eq] at missed
  obtain ⟨⟨⟨notLowered, notException⟩, notNegative⟩, bounded⟩ := missed
  simp only [CaseRun.covers, Bool.and_eq_true, decide_eq_true_eq, beq_iff_eq] at covered
  have above : Int.toNat (run.first + run.shift) ≤ Int.toNat (n + run.shift) := by omega
  have below : Int.toNat (n + run.shift) ≤ Int.toNat (run.last + run.shift) := by omega
  have small : Int.toNat (n + run.shift) < 0x110000 := by omega
  have uncovered := not_covers_of_runsMiss notLowered above below fun alternate => by
    rw [Bool.or_eq_true, beq_iff_eq, beq_iff_eq] at alternate
    rcases alternate with second | only
    · rw [second] at covered
      omega
    · omega
  generalize Int.toNat (n + run.shift) = image at above below small uncovered ⊢
  have apart (range : Nat × Nat) (member : range ∈ exceptions) :
      image < range.1 ∨ range.2 < image := by
    have apart := List.all_eq_true.mp notException range member
    simp only [Nat.blt_eq, Bool.or_eq_true] at apart
    omega
  have valid : image.isValidChar := by
    have := apart (0xD800, 0xDFFF) (by decide)
    simp only [Nat.isValidChar] at this ⊢
    omega
  have code : (Char.ofNat image).toNat = image := by
    rw [Char.ofNat, dif_pos valid]
    rfl
  constructor
  · refine settled_of_not_covered ?_ (by rwa [code])
    intro dotted
    have := apart (0x130, 0x130) (by decide)
    have codes : (Char.ofNat image).toNat = 0x130 := congrArg Char.toNat dotted
    omega
  · rw [inRanges, List.any_eq_false]
    intro range member
    have := apart range (by simp [exceptions, member])
    simp only [code, Bool.and_eq_true, decide_eq_true_eq]
    omega

theorem lowerChar_ne_nil (c : Char) : lowerChar c ≠ [] := by
  rcases lowerChar_cases c with rfl | ⟨run, -, -, image⟩ | ⟨-, settled⟩
  · decide
  · rw [image]
    exact List.cons_ne_nil _ _
  · rw [settled.lowerChar]
    exact List.cons_ne_nil _ _

/-- What is lower case is settled; and it is the character itself unless neither of the two is a
hyphen or a blank. -/
theorem mem_lowerChar {c d : Char} (member : d ∈ lowerChar c) :
    Settled d ∧
      (d = c ∨ inRanges neutralRanges c = false ∧ inRanges neutralRanges d = false) := by
  rcases lowerChar_cases c with rfl | ⟨run, runMember, covered, image⟩ | ⟨-, settled⟩
  · have expansion : lowerChar 'İ' = ['i', '\u0307'] := by decide
    rw [expansion] at member
    simp only [List.mem_cons, List.not_mem_nil, or_false] at member
    rcases member with rfl | rfl
    · exact ⟨⟨by decide, by decide⟩, .inr ⟨by decide, by decide⟩⟩
    · exact ⟨⟨by decide, by decide⟩, .inr ⟨by decide, by decide⟩⟩
  · obtain ⟨settled, plain⟩ := settled_image runMember covered
    cases neutral : inRanges neutralRanges c with
    | true =>
        rw [(neutral_of_inRanges neutral).lowerChar, List.mem_singleton] at member
        exact ⟨member ▸ (neutral_of_inRanges neutral).toSettled, .inl member⟩
    | false =>
        rw [image, List.mem_singleton] at member
        exact member ▸ ⟨settled, .inr ⟨rfl, plain⟩⟩
  · rw [settled.lowerChar, List.mem_singleton] at member
    exact ⟨member ▸ settled, .inl member⟩

theorem isBlank_of_mem_lowerChar {c d : Char} (member : d ∈ lowerChar c) :
    isBlank d = isBlank c := by
  obtain rfl | ⟨plain, plainImage⟩ := (mem_lowerChar member).2
  · rfl
  · rw [inRanges_neutralRanges, Bool.or_eq_false_iff] at plain plainImage
    rw [plain.2, plainImage.2]

/-- A hyphen is the lower-case form of nothing else. -/
theorem hyphen_mem_lowerChar {c : Char} (member : '-' ∈ lowerChar c) : c = '-' := by
  obtain same | ⟨-, plain⟩ := (mem_lowerChar member).2
  · exact same.symm
  · exact absurd plain (by decide)

/-! ### Texts -/

/-- What a character becomes, wherever it stands. -/
def images (c : Char) : List (List Char) :=
  if c = capitalSigma then [['ς'], ['σ']] else [lowerChar c]

theorem lowerFrom_cons (before : List Char) (c : Char) (text : List Char) :
    ∃ image ∈ images c, lowerFrom before (c :: text) = image ++ lowerFrom (c :: before) text := by
  rw [lowerFrom]
  refine ⟨_, ?_, rfl⟩
  by_cases sigma : c = capitalSigma
  · rw [if_pos (by simpa using sigma), images, if_pos sigma]
    split <;> simp
  · rw [if_neg (by simpa using sigma), images, if_neg sigma]
    exact List.mem_singleton_self _

theorem image_ne_nil {c : Char} {image : List Char} (member : image ∈ images c) : image ≠ [] := by
  unfold images at member
  split at member
  · simp only [List.mem_cons, List.not_mem_nil, or_false] at member
    rcases member with rfl | rfl <;> exact List.cons_ne_nil _ _
  · rw [List.mem_singleton] at member
    exact member ▸ lowerChar_ne_nil c

/-- Characters of an image are of the character itself, or the two small sigmas. -/
theorem mem_image {c d : Char} {image : List Char} (member : image ∈ images c)
    (inside : d ∈ image) : d ∈ lowerChar c ∨ c = capitalSigma ∧ d = 'ς' := by
  unfold images at member
  split at member
  next sigma =>
      have small : lowerChar capitalSigma = ['σ'] := by decide
      simp only [List.mem_cons, List.not_mem_nil, or_false] at member
      rcases member with rfl | rfl
      · exact .inr ⟨sigma, List.mem_singleton.mp inside⟩
      · exact .inl (by rwa [sigma, small])
  next => exact .inl (List.mem_singleton.mp member ▸ inside)

theorem settled_of_mem_image {c d : Char} {image : List Char} (member : image ∈ images c)
    (inside : d ∈ image) : Settled d := by
  rcases mem_image member inside with lowered | ⟨-, rfl⟩
  · exact (mem_lowerChar lowered).1
  · exact ⟨by decide, by decide⟩

theorem isBlank_of_mem_image {c d : Char} {image : List Char} (member : image ∈ images c)
    (inside : d ∈ image) : isBlank d = isBlank c := by
  rcases mem_image member inside with lowered | ⟨rfl, rfl⟩
  · exact isBlank_of_mem_lowerChar lowered
  · decide

theorem hyphen_mem_image {c : Char} {image : List Char} (member : image ∈ images c)
    (inside : '-' ∈ image) : c = '-' := by
  rcases mem_image member inside with lowered | ⟨-, small⟩
  · exact hyphen_mem_lowerChar lowered
  · exact absurd small (by decide)

/-- What is settled becomes itself. -/
theorem lowerFrom_settled {c : Char} (settled : Settled c) (before text : List Char) :
    lowerFrom before (c :: text) = c :: lowerFrom (c :: before) text := by
  obtain ⟨image, member, lowered⟩ := lowerFrom_cons before c text
  rw [images, if_neg settled.notSigma, settled.lowerChar, List.mem_singleton] at member
  rw [lowered, member, List.singleton_append]

/-- Settled texts stay as they are, whatever comes before. -/
theorem lowerFrom_of_settled {text : List Char} (settled : ∀ c ∈ text, Settled c)
    (before : List Char) : lowerFrom before text = text := by
  induction text generalizing before with
  | nil => rfl
  | cons c text inductionHypothesis =>
      rw [List.forall_mem_cons] at settled
      rw [lowerFrom_settled settled.1, inductionHypothesis settled.2]

theorem lower_of_settled {text : List Char} (settled : ∀ c ∈ text, Settled c) :
    lower text = text :=
  lowerFrom_of_settled settled []

/-- What lower case makes of a text is made of its characters. -/
theorem mem_lowerFrom {before text : List Char} {d : Char} (member : d ∈ lowerFrom before text) :
    ∃ c ∈ text, ∃ image ∈ images c, d ∈ image := by
  induction text generalizing before with
  | nil => cases member
  | cons c text inductionHypothesis =>
      obtain ⟨image, ofFirst, lowered⟩ := lowerFrom_cons before c text
      rw [lowered] at member
      rcases List.mem_append.mp member with first | rest
      · exact ⟨c, List.mem_cons_self, image, ofFirst, first⟩
      · obtain ⟨e, inside, found⟩ := inductionHypothesis rest
        exact ⟨e, List.mem_cons_of_mem c inside, found⟩

theorem settled_of_mem_lower {text : List Char} : ∀ d ∈ lower text, Settled d := by
  intro d member
  obtain ⟨c, -, image, ofChar, inside⟩ := mem_lowerFrom member
  exact settled_of_mem_image ofChar inside

/-- Lower case stays as it is. -/
@[simp] theorem lower_lower (text : List Char) : lower (lower text) = lower text :=
  lower_of_settled settled_of_mem_lower

/-- Lower case makes no hyphens. -/
theorem hyphen_mem_lower {text : List Char} (member : '-' ∈ lower text) : '-' ∈ text := by
  obtain ⟨c, inside, image, ofChar, hyphen⟩ := mem_lowerFrom member
  exact hyphen_mem_image ofChar hyphen ▸ inside

/-- The first and the last character of a lower-case text come from those of the text. -/
theorem head?_lowerFrom {before text : List Char} {d : Char}
    (first : (lowerFrom before text).head? = some d) :
    ∃ c, text.head? = some c ∧ ∃ image ∈ images c, d ∈ image := by
  cases text with
  | nil => cases first
  | cons c text =>
      obtain ⟨image, ofFirst, lowered⟩ := lowerFrom_cons before c text
      obtain ⟨e, rest, shape⟩ := List.exists_cons_of_ne_nil (image_ne_nil ofFirst)
      rw [lowered, shape, List.cons_append, List.head?_cons, Option.some.injEq] at first
      exact ⟨c, rfl, image, ofFirst, by simp [shape, first]⟩

theorem getLast?_lowerFrom {before text : List Char} {d : Char}
    (last : (lowerFrom before text).getLast? = some d) :
    ∃ c, text.getLast? = some c ∧ ∃ image ∈ images c, d ∈ image := by
  induction text generalizing before d with
  | nil => cases last
  | cons c text inductionHypothesis =>
      obtain ⟨image, ofFirst, lowered⟩ := lowerFrom_cons before c text
      rw [lowered, List.getLast?_append] at last
      cases found : (lowerFrom (c :: before) text).getLast? with
      | some e =>
          rw [found, Option.some_or, Option.some.injEq] at last
          obtain ⟨e', ofText, fromImage⟩ := inductionHypothesis found
          exact ⟨e', by rw [List.getLast?_cons, ofText, Option.getD_some], last ▸ fromImage⟩
      | none =>
          rw [found, Option.none_or] at last
          have atEnd : text = [] := by
            cases text with
            | nil => rfl
            | cons e text =>
                obtain ⟨next, ofNext, lowered⟩ := lowerFrom_cons (c :: before) e text
                rw [lowered, List.getLast?_eq_none_iff] at found
                exact absurd (List.append_eq_nil_iff.mp found).1 (image_ne_nil ofNext)
          exact ⟨c, by rw [atEnd]; rfl, image, ofFirst, List.mem_of_getLast? last⟩

@[simp] theorem lower_eq_nil {text : List Char} : lower text = [] ↔ text = [] := by
  cases text with
  | nil => exact iff_of_true rfl rfl
  | cons c text =>
      obtain ⟨image, member, lowered⟩ := lowerFrom_cons [] c text
      simp [lower, lowered, image_ne_nil member]

theorem trimmed_lower {text : List Char} (trimmed : Trimmed text) : Trimmed (lower text) where
  first := by
    intro d first
    obtain ⟨c, head, image, member, inside⟩ := head?_lowerFrom first
    rw [isBlank_of_mem_image member inside, trimmed.first c head]
  last := by
    intro d last
    obtain ⟨c, ends, image, member, inside⟩ := getLast?_lowerFrom last
    rw [isBlank_of_mem_image member inside, trimmed.last c ends]

/-! ### Where texts are cut -/

/-- No word goes on behind a neutral character. -/
theorem casedFollows_append {c : Char} (neutral : Neutral c) (text more : List Char) :
    casedFollows (text ++ c :: more) = casedFollows text := by
  induction text with
  | nil => simp [casedFollows, neutral.notIgnored, neutral.notCased]
  | cons d text inductionHypothesis =>
      unfold casedFollows at inductionHypothesis ⊢
      by_cases ignored : inRanges caseIgnorableRanges d = true
      · rw [List.cons_append, List.dropWhile_cons_of_pos ignored, inductionHypothesis,
          List.dropWhile_cons_of_pos ignored]
      · rw [List.cons_append, List.dropWhile_cons_of_neg ignored,
          List.dropWhile_cons_of_neg ignored]

/-- What comes before a neutral character does not matter behind it. -/
theorem lowerFrom_behind {c : Char} (neutral : Neutral c) (first before text : List Char) :
    lowerFrom (first ++ c :: before) text = lowerFrom first text := by
  induction text generalizing first with
  | nil => rfl
  | cons d text inductionHypothesis =>
      rw [lowerFrom, lowerFrom, casedFollows_append neutral first, ← List.cons_append,
        inductionHypothesis]

/-- A text is cut at a neutral character, and both parts become lower case on their own. -/
theorem lowerFrom_append {c : Char} (neutral : Neutral c) (before first second : List Char) :
    lowerFrom before (first ++ c :: second) = lowerFrom before first ++ c :: lower second := by
  induction first generalizing before with
  | nil =>
      rw [List.nil_append, lowerFrom_settled neutral.toSettled]
      exact congrArg (c :: ·) (lowerFrom_behind neutral [] before second)
  | cons d first inductionHypothesis =>
      rw [List.cons_append, lowerFrom, lowerFrom, inductionHypothesis,
        casedFollows_append neutral first, List.append_assoc]

theorem lower_append {c : Char} (neutral : Neutral c) (first second : List Char) :
    lower (first ++ c :: second) = lower first ++ c :: lower second :=
  lowerFrom_append neutral [] first second

/-- Blanks around a text stay as they are. -/
theorem lower_surrounded (text : List Char) {before after : List Char}
    (beforeBlank : ∀ c ∈ before, isBlank c = true) (afterBlank : ∀ c ∈ after, isBlank c = true) :
    lower (before ++ text ++ after) = before ++ lower text ++ after := by
  induction before with
  | nil =>
      rw [List.nil_append, List.nil_append]
      cases after with
      | nil => rw [List.append_nil, List.append_nil]
      | cons c after =>
          have settled : ∀ d ∈ c :: after, Settled d := fun d member =>
            (neutral_of_blank (afterBlank d member)).toSettled
          rw [List.forall_mem_cons] at afterBlank settled
          rw [lower_append (neutral_of_blank afterBlank.1), lower_of_settled settled.2]
  | cons c before inductionHypothesis =>
      rw [List.forall_mem_cons] at beforeBlank
      rw [List.cons_append, List.cons_append, ← List.nil_append (c :: _),
        lower_append (neutral_of_blank beforeBlank.1), inductionHypothesis beforeBlank.2]
      rfl

/-- It does not matter whether a text is trimmed before or after it becomes lower case. -/
theorem trim_lower (text : List Char) : trim (lower text) = lower (trim text) := by
  obtain ⟨before, after, beforeBlank, afterBlank, whole⟩ := exists_surrounded text
  have lowered : lower text = before ++ lower (trim text) ++ after := by
    rw [← lower_surrounded _ beforeBlank afterBlank, ← whole]
  rw [lowered, trim_surrounded (trimmed_lower (trimmed_trim text)) _ _ beforeBlank afterBlank]

/-- The parts of a text between hyphens become lower case on their own. -/
theorem splitOn_lower (text : List Char) :
    splitOn '-' (lower text) = (splitOn '-' text).map lower := by
  induction length : text.length using Nat.strongRecOn generalizing text with
  | ind size inductionHypothesis =>
      by_cases hyphen : '-' ∈ text
      · obtain ⟨first, second, rfl, absent⟩ := List.eq_append_cons_of_mem hyphen
        have shorter : second.length < size := by
          rw [← length, List.length_append, List.length_cons]
          omega
        rw [lower_append neutral_hyphen, splitOn_append, splitOn_append, splitOn_of_not_mem absent,
          splitOn_of_not_mem (mt hyphen_mem_lower absent),
          inductionHypothesis second.length shorter second rfl]
        rfl
      · rw [splitOn_of_not_mem hyphen, splitOn_of_not_mem (mt hyphen_mem_lower hyphen)]
        rfl

end RuntimeConsole.Text
