/-
Module: RuntimeConsole.Proofs.LinkAnatomy
Purpose: What every link is: a stretch of its line apart from the others, made of a path without
  metacharacters and of the digits of its line number.
Main exports:
  digitsValue?_eq_some_iff, metacharacter_of_path, LinkMatch.CutFrom, ExactSpans, link_spans
-/
import Mathlib.Data.List.Forall2
import RuntimeConsole.Proofs.LinkRematch

namespace RuntimeConsole

/-! ### Line numbers -/

theorem digitValue?_eq_some_iff {c : Char} {d : Nat} :
    Text.digitValue? c = some d ↔ c.isDigit = true ∧ c.toNat - '0'.toNat = d := by
  have digit : c.isDigit = true ↔ '0' ≤ c ∧ c ≤ '9' := by
    simp [Char.isDigit, Char.le_def]
  rw [Text.digitValue?, digit]
  split
  next inside => simp [inside]
  next outside => simp [outside]

/-- Digits have a value exactly if all of them are ASCII, and it is the decimal one. -/
theorem digitsValue?_eq_some_iff {start n : Nat} {digits : List Char} :
    Text.digitsValue? start digits = some n ↔
      (∀ c ∈ digits, c.isDigit = true) ∧ Nat.ofDigitChars 10 digits start = n := by
  induction digits generalizing start with
  | nil => simp [Text.digitsValue?]
  | cons c digits inductionHypothesis =>
      rw [Text.digitsValue?, Option.bind_eq_some_iff, List.forall_mem_cons,
        Nat.ofDigitChars_cons]
      constructor
      · rintro ⟨d, one, rest⟩
        obtain ⟨ascii, rfl⟩ := digitValue?_eq_some_iff.mp one
        obtain ⟨all, value⟩ := inductionHypothesis.mp rest
        exact ⟨⟨ascii, all⟩, value⟩
      · rintro ⟨⟨ascii, all⟩, value⟩
        exact ⟨_, digitValue?_eq_some_iff.mpr ⟨ascii, rfl⟩, inductionHypothesis.mpr ⟨all, value⟩⟩

/-- Without a sign, digits are read exactly if there are some and their value is in bounds. -/
theorem readBounded?_eq_some_iff {bound n : Nat} {digits : List Char} (unsigned : '+' ∉ digits) :
    Text.readBounded? bound digits = some n ↔
      digits ≠ [] ∧ (∀ c ∈ digits, c.isDigit = true) ∧ Nat.ofDigitChars 10 digits 0 = n ∧
        n < bound := by
  cases digits with
  | nil => simp [Text.readBounded?]
  | cons c digits =>
      have read : Text.readBounded? bound (c :: digits) =
          (Text.digitsValue? 0 (c :: digits)).bind fun n => if n < bound then some n else none := by
        have other : c ≠ '+' := fun same => unsigned (same ▸ List.mem_cons_self)
        simp only [Text.readBounded?]
        split
        next same =>
            obtain ⟨rfl, -⟩ := List.cons.inj same
            exact absurd rfl other
        next =>
            rw [List.isEmpty_cons, if_neg Bool.false_ne_true]
            cases Text.digitsValue? 0 (c :: digits) <;> rfl
      rw [read, Option.bind_eq_some_iff]
      constructor
      · rintro ⟨m, value, bounded⟩
        obtain ⟨ascii, rfl⟩ := digitsValue?_eq_some_iff.mp value
        split at bounded
        next small =>
            obtain rfl := Option.some.inj bounded
            exact ⟨List.cons_ne_nil c digits, ascii, rfl, small⟩
        next => cases bounded
      · rintro ⟨-, ascii, value, small⟩
        exact ⟨n, digitsValue?_eq_some_iff.mpr ⟨ascii, value⟩, if_pos small⟩

/-- The line a link names is the value of its digits, if they are ASCII and it fits. -/
theorem line_eq_some_iff {digits : List Char}
    (decimal : ∀ c ∈ digits, Text.isDecimalDigit c = true) (n : UInt32) :
    (Text.readBounded? UInt32.size digits).map UInt32.ofNat = some n ↔
      digits ≠ [] ∧ (∀ c ∈ digits, c.isDigit = true) ∧ Nat.ofDigitChars 10 digits 0 = n.toNat := by
  have unsigned : '+' ∉ digits := fun member => absurd (decimal '+' member) (by decide)
  rw [Option.map_eq_some_iff]
  constructor
  · rintro ⟨m, read, rfl⟩
    obtain ⟨some, ascii, value, bounded⟩ := (readBounded?_eq_some_iff unsigned).mp read
    exact ⟨some, ascii, value.trans (UInt32.toNat_ofNat_of_lt' bounded).symm⟩
  · rintro ⟨some, ascii, value⟩
    have bounded : n.toNat < UInt32.size := n.toNat_lt
    exact ⟨n.toNat, (readBounded?_eq_some_iff unsigned).mpr ⟨some, ascii, value, bounded⟩,
      UInt32.ofNat_toNat⟩

/-! ### Characters of paths -/

/-- The characters no path contains, blanks apart, but for the colon of a drive. -/
def Platform.metacharacters : Platform → List Char
  | .posix =>
      ['\x00', '!', '$', '\x60', '&', '*', '(', ')', '[', ']', '+', '\x27', '\x22', ':', ';', '\\']
  | .windows =>
      ['\x00', '!', '$', '\x60', '&', '*', '(', ')', '[', ']', '+', '\x27', '\x22', ':', ';', '<',
        '>', '?', '|']

theorem metacharacter_outside (platform : Platform) :
    ∀ c ∈ platform.metacharacters,
      platform.isSegmentChar c = false ∧ platform.isSeparator c = false ∧ c.isAlpha = false := by
  have checked : (platform.metacharacters.all fun c =>
      platform.isSegmentChar c = false ∧ platform.isSeparator c = false ∧
        c.isAlpha = false) = true := by
    cases platform <;> decide
  exact fun c member => of_decide_eq_true (List.all_eq_true.mp checked c member)

/-- A path begins with characters of a segment or, where there are drives, with a drive. -/
theorem root_cases {platform : Platform} {root : List Char}
    (matched : (Text.Pattern.optional
      (.either platform.root (.many (.one platform.isSegmentChar)))).Matches root) :
    (∀ c ∈ root, platform.isSegmentChar c = true) ∨
      platform = .windows ∧ ∃ letter : Char, letter.isAlpha = true ∧ root = [letter, ':'] := by
  have mark {text : List Char} (matched : (Text.Pattern.either dots (literal '~')).Matches text) :
      ∀ c ∈ text, platform.isSegmentChar c = true := by
    refine matched.forall_mem ?_
    cases platform <;>
      simp [Text.Pattern.Over, dots, literal, Platform.isSegmentChar] <;> decide
  cases matched with
  | absent => exact .inl (by simp)
  | present matched =>
      cases matched with
      | second segment => exact .inl (matches_many_one_iff.mp segment).2
      | first matched =>
          cases platform with
          | posix => exact .inl (mark matched)
          | windows =>
              cases matched with
              | second matched => exact .inl (mark matched)
              | first drive =>
                  cases drive with
                  | seq front back =>
                      obtain ⟨letter, rfl, accepted⟩ := matches_one_iff.mp front
                      obtain rfl := matches_literal_iff.mp back
                      refine .inr ⟨rfl, letter, ?_, rfl⟩
                      simp only [Bool.or_eq_true, Bool.and_eq_true, decide_eq_true_eq,
                        Char.le_def, UInt32.le_iff_toNat_le] at accepted
                      delta Char.isAlpha Char.isUpper Char.isLower
                      simp only [Bool.or_eq_true, Bool.and_eq_true, decide_eq_true_eq, ge_iff_le,
                        UInt32.le_iff_toNat_le]
                      exact accepted.symm

/-- The only metacharacter of a path is the colon behind the letter of a drive. -/
theorem metacharacter_of_path {platform : Platform} {path before after : List Char} {c : Char}
    (matched : platform.pathPattern.Matches path) (split : path = before ++ c :: after)
    (special : c ∈ platform.metacharacters) :
    platform = .windows ∧ c = ':' ∧ ∃ letter : Char, letter.isAlpha = true ∧ before = [letter] := by
  obtain ⟨noSegment, noSeparator, noLetter⟩ := metacharacter_outside platform c special
  rw [pathPattern_eq] at matched
  cases matched with
  | @seq _ _ root segments front back =>
      -- Behind the root there are separators and segments, which are free of metacharacters.
      have inside (text : List Char) : segments ≠ text ++ c :: after := by
        intro here
        rcases goesOn_of_segments back here with segment | ⟨separator, -⟩
        · exact absurd segment (Bool.eq_false_iff.mp noSegment)
        · exact absurd separator (Bool.eq_false_iff.mp noSeparator)
      rcases List.append_eq_append_iff.mp split with ⟨between, -, here⟩ | ⟨between, rootEq, here⟩
      · exact absurd here (inside between)
      · cases between with
        | nil => exact absurd here.symm (inside [])
        | cons d between =>
            obtain ⟨rfl, -⟩ := List.cons.inj here
            rcases root_cases front with plain | ⟨windows, letter, alpha, drive⟩
            · have segment := plain c (by simp [rootEq])
              exact absurd segment (Bool.eq_false_iff.mp noSegment)
            · rw [drive] at rootEq
              cases before with
              | nil =>
                  obtain ⟨rfl, -⟩ := List.cons.inj rootEq
                  exact absurd alpha (Bool.eq_false_iff.mp noLetter)
              | cons first before =>
                  obtain ⟨rfl, rest⟩ := List.cons.inj rootEq
                  cases before with
                  | nil => exact ⟨windows, (List.cons.inj rest).1.symm, letter, alpha, rfl⟩
                  | cons second before => simp at rest

/-! ### Links and their lines -/

/-- A link as a stretch of a line: where it stands, its path and the line it names. -/
structure LinkMatch.CutFrom (link : LinkMatch) (platform : Platform) (line : List Char) : Prop where
  nonempty : link.start < link.stop
  inside : link.stop ≤ line.length
  text : link.text.toList = (line.drop link.start).take (link.stop - link.start)
  visible : ∀ c ∈ link.path.toList, Text.isBlank c = false
  /-- A metacharacter of the path is the colon of a drive, its second character. -/
  plain : ∀ before c after, link.path.toList = before ++ c :: after →
    c ∈ platform.metacharacters →
      platform = .windows ∧ c = ':' ∧ ∃ letter : Char, letter.isAlpha = true ∧ before = [letter]
  /-- What follows the path is nothing, or a colon and digits, which name the line. -/
  numbered : ∃ digits, (∀ c ∈ digits, Text.isDecimalDigit c = true) ∧
    (link.text = link.path ∧ digits = [] ∨
      link.text = link.path ++ ":" ++ String.ofList digits ∧ digits ≠ []) ∧
    ∀ n, link.line = some n ↔ digits ≠ [] ∧ (∀ c ∈ digits, c.isDigit = true) ∧
      Nat.ofDigitChars 10 digits 0 = n.toNat

/-- The links of a line follow each other, and each is a stretch of the line. -/
structure ExactSpans (platform : Platform) (line : List Char) (links : List LinkMatch) :
    Prop where
  ordered : links.Pairwise fun first second => first.stop ≤ second.start
  cut : ∀ link ∈ links, link.CutFrom platform line
  /-- At most one of the links covers a column. -/
  single : ∀ column, (links.filter (·.containsCol column)).length ≤ 1

theorem linksInLine_cut {platform : Platform} {line : List Char} {link : LinkMatch}
    (member : link ∈ linksInLine platform line) : link.CutFrom platform line := by
  have spelled := linksInLine_spelled platform line link member
  obtain ⟨before, text, path, digits, -, found, rfl⟩ := mem_linksFrom member
  obtain ⟨rest, -, matched, -, rfl⟩ := linkAt?_eq_some_iff.mp found
  have decimal := lineDigits_digits rest
  refine ⟨spelled.nonempty, spelled.inside, spelled.text, ?_, ?_, lineDigits rest, decimal, ?_, ?_⟩
  · rw [ofParts_eq, String.toList_ofList]
    exact matched.forall_mem (pathPattern_over platform)
  · rw [ofParts_eq, String.toList_ofList]
    exact fun _ _ _ => metacharacter_of_path matched
  · rw [ofParts_eq, stretchOf]
    cases lineDigits rest with
    | nil => exact .inl ⟨by simp, rfl⟩
    | cons c digits => exact .inr ⟨String.toList_inj.mp (by simp), List.cons_ne_nil c digits⟩
  · rw [ofParts_eq]
    exact line_eq_some_iff decimal

/-- Of stretches that follow each other, at most one covers a column. -/
theorem length_covering_le_one {links : List LinkMatch} {column : Nat}
    (ordered : links.Pairwise fun first second => first.stop ≤ second.start) :
    (links.filter (·.containsCol column)).length ≤ 1 := by
  have apart := ordered.filter (·.containsCol column)
  have covers (link : LinkMatch) (member : link ∈ links.filter (·.containsCol column)) :
      link.start ≤ column ∧ column < link.stop := by
    simpa [LinkMatch.containsCol] using (List.mem_filter.mp member).2
  generalize links.filter (·.containsCol column) = covering at apart covers ⊢
  rcases covering with _ | ⟨first, _ | ⟨second, rest⟩⟩
  · exact Nat.zero_le 1
  · exact Nat.le_refl 1
  · have follows := List.rel_of_pairwise_cons apart List.mem_cons_self
    have := covers first List.mem_cons_self
    have := covers second (List.mem_cons_of_mem _ List.mem_cons_self)
    omega

theorem linksInLine_spans (platform : Platform) (line : List Char) :
    ExactSpans platform line (linksInLine platform line) where
  ordered := linksInLine_apart platform line
  cut := fun _ => linksInLine_cut
  single := fun _ => length_covering_le_one (linksInLine_apart platform line)

/-- The links of a text are those of its lines, one line after the other, and within each line
they are exact stretches in increasing order that do not overlap. -/
theorem link_spans (platform : Platform) (text : String) :
    ∃ links, findLinks platform text = links.flatten ∧
      List.Forall₂ (ExactSpans platform) (Text.lines text.toList) links := by
  refine ⟨(Text.lines text.toList).map (linksInLine platform), ?_, ?_⟩
  · rw [findLinks, linksInText, List.flatMap_def]
  · rw [List.forall₂_map_right_iff, List.forall₂_same]
    exact fun line _ => linksInLine_spans platform line

end RuntimeConsole
