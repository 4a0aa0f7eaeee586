/-
Module: RuntimeConsole.Proofs.WindowsPaths
Purpose: Where there are drives, every path that stands between blanks is found whole, with its
  line number, whatever else is on the line.
Main exports:
  WindowsPath.matches_chars, linksFrom_blank, linksInText_lineFeed, LinkMatch.overlaps,
  windows_path_found
-/
import RuntimeConsole.Link.WindowsPath
import RuntimeConsole.Proofs.LinkAnatomy

namespace RuntimeConsole

open Text (Pattern)

/-! ### Paths match -/

theorem WindowsSegment.matches_chars (segment : WindowsSegment) :
    (Pattern.many (.one Platform.windows.isSegmentChar)).Matches segment.chars :=
  matches_many_one_iff.mpr ⟨segment.nonempty, fun c member => (segment.plain c member).1⟩

theorem WindowsStep.matches_chars (step : WindowsStep) :
    Platform.windows.segment.Matches step.chars := by
  have separator : Platform.windows.separator.Matches [if step.backslash then '\\' else '/'] := by
    refine matches_separator_iff.mpr ⟨_, rfl, ?_⟩
    cases step.backslash <;> rfl
  exact .seq separator step.segment.matches_chars

/-- Steps match, and what begins with a separator goes on to match in front of them. -/
theorem matches_steps (first : WindowsStep) (others : List WindowsStep) :
    (Pattern.many Platform.windows.segment).Matches
      ((first :: others).flatMap WindowsStep.chars) := by
  induction others generalizing first with
  | nil => simpa using Pattern.Matches.once first.matches_chars
  | cons second others inductionHypothesis =>
      exact .again first.matches_chars (inductionHypothesis second)

/-- Two backslashes and the name of a server are a separator and a segment that begins with a
backslash. -/
theorem matches_server (name : WindowsSegment) :
    Platform.windows.segment.Matches (WindowsRoot.server name).chars := by
  have inside : ∀ c ∈ '\\' :: name.chars, Platform.windows.isSegmentChar c = true := by
    intro c member
    rcases List.mem_cons.mp member with rfl | member
    · decide
    · exact (name.plain c member).1
  exact matches_segment_iff.mpr ⟨'\\', '\\', name.chars, rfl, rfl, inside⟩

theorem isLetter_of_isAlpha {c : Char} (ascii : c.isAlpha = true) :
    (('a' ≤ c && c ≤ 'z') || ('A' ≤ c && c ≤ 'Z')) = true := by
  simp only [Bool.or_eq_true, Bool.and_eq_true, decide_eq_true_eq, Char.le_def,
    UInt32.le_iff_toNat_le]
  delta Char.isAlpha Char.isUpper Char.isLower at ascii
  simp only [Bool.or_eq_true, Bool.and_eq_true, decide_eq_true_eq, ge_iff_le,
    UInt32.le_iff_toNat_le] at ascii
  exact ascii.symm

/-- Every path is one the search looks for. -/
theorem WindowsPath.matches_chars (path : WindowsPath) :
    Platform.windows.pathPattern.Matches path.chars := by
  have steps := matches_steps path.first path.others
  have mark {text : List Char} (matched : (Pattern.either dots (literal '~')).Matches text) :
      (Pattern.optional (.either Platform.windows.root
        (.many (.one Platform.windows.isSegmentChar)))).Matches text :=
    .present (.first (.second matched))
  have dot : (literal '.').Matches ['.'] := matches_literal_iff.mpr rfl
  rw [pathPattern_eq, chars]
  cases path.root with
  | drive letter ascii =>
      have colon : (literal ':').Matches [':'] := matches_literal_iff.mpr rfl
      have letterMatches : (Pattern.one fun c =>
          ('a' ≤ c && c ≤ 'z') || ('A' ≤ c && c ≤ 'Z')).Matches [letter] :=
        .one (isLetter_of_isAlpha ascii)
      exact .seq (.present (.first (.first (.seq letterMatches colon)))) steps
  | here => exact .seq (mark (.first (.seq dot .absent))) steps
  | parent => exact .seq (mark (.first (.seq dot (.present dot)))) steps
  | home => exact .seq (mark (.second (matches_literal_iff.mpr rfl))) steps
  | server name =>
      have serverSteps := Pattern.Matches.again (matches_server name) steps
      exact (Pattern.Matches.absent : (Pattern.optional _).Matches []).seq serverSteps
  | segment name => exact .seq (.present (.second name.matches_chars)) steps
  | none => exact .seq .absent steps

/-! ### Between blanks -/

/-- What comes behind a blank is searched on its own. -/
theorem linksFrom_blank (platform : Platform) {blank : Char} (isBlank : Text.isBlank blank = true)
    (skip column : Nat) (before text : List Char) (inside : skip ≤ before.length) :
    linksFrom platform skip column (before ++ blank :: text) =
      linksFrom platform skip column before ++
        linksFrom platform 0 (column + before.length + 1) text := by
  induction before generalizing skip column with
  | nil =>
      obtain rfl : skip = 0 := Nat.le_zero.mp inside
      have none : linkAt? platform (blank :: text) = Option.none :=
        (linkAt?_blank platform isBlank [] text).trans (by cases platform <;> rfl)
      have passed : linksFrom platform 0 column (blank :: text) =
          linksFrom platform 0 (column + 1) text := by
        rw [linksFrom, none]
      rw [List.nil_append, passed]
      rfl
  | cons c before inductionHypothesis =>
      have next (skip : Nat) (inside : skip ≤ before.length) :
          linksFrom platform skip (column + 1) (before ++ blank :: text) =
            linksFrom platform skip (column + 1) before ++
              linksFrom platform 0 (column + (c :: before).length + 1) text := by
        rw [inductionHypothesis skip (column + 1) inside, List.length_cons,
          Nat.add_right_comm column 1, Nat.add_assoc column]
      cases skip with
      | succ skip => exact next skip (Nat.le_of_succ_le_succ inside)
      | zero =>
          have same := linkAt?_blank platform isBlank (c :: before) text
          rw [List.cons_append] at same ⊢
          rw [linksFrom, linksFrom, same]
          split
          next => exact next 0 (Nat.zero_le _)
          next path digits found =>
              have short := (linkAt?_sound found).2.2.length_le
              have stop : (LinkMatch.ofParts column path digits).stop =
                  column + (if digits.isEmpty then path else path ++ ':' :: digits).length := rfl
              rw [List.length_cons] at short
              dsimp only
              rw [next _ (by omega), List.cons_append]

/-- A blank, or the beginning of the line, parts what comes before it from what comes after. -/
theorem linksFrom_bounded (platform : Platform) (before text : List Char)
    (bounded : ∀ c ∈ before.getLast?, Text.isBlank c = true) :
    linksFrom platform 0 0 (before ++ text) =
      linksFrom platform 0 0 before ++ linksFrom platform 0 before.length text := by
  rcases List.eq_nil_or_concat before with rfl | ⟨others, blank, rfl⟩
  · rfl
  · have isBlank : Text.isBlank blank = true := bounded blank (by simp)
    rw [List.concat_eq_append, List.append_assoc, List.singleton_append,
      linksFrom_blank platform isBlank 0 0 others text (Nat.zero_le _),
      linksFrom_blank platform isBlank 0 0 others [] (Nat.zero_le _)]
    simp [linksFrom]

/-! ### Line numbers -/

/-- The digits of a written number are those of a line number, up to the next blank. -/
theorem lineDigits_number (n : UInt32) {after : List Char}
    (bounded : ∀ c ∈ after.head?, Text.isBlank c = true) :
    lineDigits (numberSuffix (some n) ++ after) = Text.showNat n.toNat := by
  have digits : ∀ c ∈ Text.showNat n.toNat, Text.isDecimalDigit c = true := fun c member =>
    Text.isDecimalDigit_of_isDigit (Text.isDigit_of_mem_showNat member)
  have stop : after.takeWhile Text.isDecimalDigit = [] := by
    cases after with
    | nil => rfl
    | cons c after =>
      exact List.takeWhile_cons_of_neg (by simp [isDecimalDigit_blank (bounded c rfl)])
  change (Text.showNat n.toNat ++ after).takeWhile Text.isDecimalDigit = _
  rw [List.takeWhile_append_of_pos digits, stop, List.append_nil]

/-- What stands behind a path that is followed by its line number, if it has one, and a blank or
nothing: the path ends there, and the line number is read. -/
theorem linkAt?_numbered {platform : Platform} {path after : List Char}
    (matched : platform.pathPattern.Matches path) (number : Option UInt32)
    (bounded : ∀ c ∈ after.head?, Text.isBlank c = true) :
    linkAt? platform (path ++ (numberSuffix number ++ after)) =
      some (path, (numberSuffix number).tail) := by
  refine linkAt?_eq_some_iff.mpr ⟨_, rfl, matched, ?_, ?_⟩
  · have outside (c : Char) (outside : c = ':' ∨ Text.isBlank c = true) :
        platform.isSegmentChar c = false ∧ platform.isSeparator c = false := by
      rcases outside with rfl | blank
      · cases platform <;> decide
      · exact blank_outside platform blank
    intro c rest split goesOn
    have first : c = ':' ∨ Text.isBlank c = true := by
      cases number with
      | some n => exact .inl (List.cons.inj split).1.symm
      | none => exact .inr (bounded c (by rw [← List.nil_append after]; exact split ▸ rfl))
    obtain ⟨noSegmentChar, noSeparator⟩ := outside c first
    rcases goesOn with inside | ⟨separates, -⟩
    · exact absurd inside (Bool.eq_false_iff.mp noSegmentChar)
    · exact absurd separates (Bool.eq_false_iff.mp noSeparator)
  · cases number with
    | some n => exact (lineDigits_number n bounded).symm
    | none =>
        cases after with
        | nil => rfl
        | cons c after =>
            have other : c ≠ ':' := by
              rintro rfl
              exact absurd (bounded ':' rfl) (by decide)
            simp [numberSuffix, lineDigits, other]

/-- The link made of a path and the digits of its written line number names that line. -/
theorem ofParts_numbered (column : Nat) (path : List Char) (number : Option UInt32) :
    LinkMatch.ofParts column path (numberSuffix number).tail =
      { text := String.ofList (path ++ numberSuffix number)
        path := String.ofList path
        line := number
        start := column
        stop := column + (path ++ numberSuffix number).length } := by
  have stretch : stretchOf path (numberSuffix number).tail = path ++ numberSuffix number := by
    cases number with
    | none => simp [stretchOf, numberSuffix]
    | some n => simp [stretchOf, numberSuffix, Text.showNat, Nat.toDigits_ne_nil]
  have line : (Text.readBounded? UInt32.size (numberSuffix number).tail).map UInt32.ofNat =
      number := by
    cases number with
    | none => rfl
    | some n =>
        have ascii : ∀ c ∈ Text.showNat n.toNat, c.isDigit = true := fun c =>
          Text.isDigit_of_mem_showNat
        have decimal : ∀ c ∈ Text.showNat n.toNat, Text.isDecimalDigit c = true := fun c member =>
          Text.isDecimalDigit_of_isDigit (ascii c member)
        exact (line_eq_some_iff decimal n).mpr
          ⟨Nat.toDigits_ne_nil, ascii, Nat.ofDigitChars_toDigits (by decide) (by decide)⟩
  rw [ofParts_eq, stretch, line]

/-! ### Lines -/

/-- A line feed parts the links before it from those behind it. -/
theorem linksInText_lineFeed (platform : Platform) (first second : List Char) :
    linksInText platform (first ++ '\n' :: second) =
      linksInText platform first ++ linksInText platform second := by
  simp only [linksInText_eq_splitOn, Text.splitOn_append, List.flatMap_append]

/-- The links of a line stand between those of the lines above and those of the lines below. -/
theorem linksInText_line (platform : Platform) {above below : List Char} (line : List Char)
    (above_ends : ∀ c ∈ above.getLast?, c = '\n') (below_begins : ∀ c ∈ below.head?, c = '\n') :
    linksInText platform (above ++ line ++ below) =
      linksInText platform above ++ linksInText platform line ++ linksInText platform below := by
  have nothing : linksInText platform [] = [] := rfl
  have behind : linksInText platform (line ++ below) =
      linksInText platform line ++ linksInText platform below := by
    cases below with
    | nil => simp [nothing]
    | cons c below =>
        obtain rfl : c = '\n' := below_begins c rfl
        have alone := linksInText_lineFeed platform [] below
        rw [List.nil_append, nothing, List.nil_append] at alone
        rw [linksInText_lineFeed, alone]
  rw [List.append_assoc, List.append_assoc, ← behind]
  rcases List.eq_nil_or_concat above with rfl | ⟨others, c, rfl⟩
  · simp [nothing]
  · obtain rfl : c = '\n' := above_ends c (by simp)
    have alone := linksInText_lineFeed platform others []
    rw [nothing, List.append_nil] at alone
    rw [List.concat_eq_append, alone, List.append_assoc, List.singleton_append,
      linksInText_lineFeed]

/-! ### Paths found -/

/-- Whether a link and a stretch of columns have a column in common. -/
def LinkMatch.overlaps (link : LinkMatch) (start stop : Nat) : Bool :=
  link.start < stop && start < link.stop

/-- A path with its line number, between blanks, is a link of its line, and all other links stand
before or behind it. -/
theorem linksInLine_numbered {platform : Platform} {before path after : List Char}
    (matched : platform.pathPattern.Matches path) (number : Option UInt32)
    (opens : ∀ c ∈ before.getLast?, Text.isBlank c = true)
    (closes : ∀ c ∈ after.head?, Text.isBlank c = true) :
    linksInLine platform (before ++ (path ++ numberSuffix number) ++ after) =
      linksInLine platform before ++
        LinkMatch.ofParts before.length path (numberSuffix number).tail ::
          linksFrom platform 0 (before.length + (path ++ numberSuffix number).length) after := by
  have found := linkAt?_numbered matched number closes
  have present := matched.ne_nil (pathPattern_consumes platform)
  obtain ⟨c, rest, pathEq⟩ := List.exists_cons_of_ne_nil present
  rw [linksInLine, List.append_assoc, linksFrom_bounded platform before _ opens, List.append_assoc]
  rw [pathEq, List.cons_append] at found ⊢
  rw [linksFrom, found]
  dsimp only
  rw [linksFrom_skip platform _ (before.length + 1), ofParts_numbered]
  have passed : before.length + (c :: rest ++ numberSuffix number).length - before.length - 1 =
      (rest ++ numberSuffix number).length := by
    simp only [List.cons_append, List.length_cons]
    omega
  have dropped : (rest ++ (numberSuffix number ++ after)).drop
      (rest ++ numberSuffix number).length = after := by
    rw [← List.append_assoc, List.drop_left]
  rw [passed, dropped, linksInLine]
  simp only [List.cons_append, List.length_cons]
  congr 3
  omega

/-- It is the only link that has a column in common with the stretch it is written in. -/
theorem linksInLine_overlapping {platform : Platform} {before path after : List Char}
    (matched : platform.pathPattern.Matches path) (number : Option UInt32)
    (opens : ∀ c ∈ before.getLast?, Text.isBlank c = true)
    (closes : ∀ c ∈ after.head?, Text.isBlank c = true) :
    (linksInLine platform (before ++ (path ++ numberSuffix number) ++ after)).filter
        (·.overlaps before.length (before.length + (path ++ numberSuffix number).length)) =
      [LinkMatch.ofParts before.length path (numberSuffix number).tail] := by
  rw [linksInLine_numbered matched number opens closes]
  generalize stopEq : before.length + (path ++ numberSuffix number).length = stop
  have earlier : (linksInLine platform before).filter (·.overlaps before.length stop) = [] := by
    refine List.filter_eq_nil_iff.mpr fun link member => ?_
    have inside := (linksInLine_spelled platform before link member).inside
    simp [LinkMatch.overlaps, inside]
  have later : (linksFrom platform 0 stop after).filter (·.overlaps before.length stop) = [] := by
    refine List.filter_eq_nil_iff.mpr fun link member => ?_
    have behind := linksFrom_start platform after 0 stop link member
    rw [Nat.add_zero] at behind
    simp [LinkMatch.overlaps, Nat.not_lt.mpr behind]
  have itself : (LinkMatch.ofParts before.length path (numberSuffix number).tail).overlaps
      before.length stop = true := by
    have long := two_le_length_of_path matched
    rw [List.length_append] at stopEq
    rw [ofParts_numbered, LinkMatch.overlaps, List.length_append]
    simp only [Bool.and_eq_true, decide_eq_true_eq]
    omega
  rw [List.filter_append, earlier, List.nil_append, List.filter_cons, if_pos itself, later]

theorem newline_not_mem_written (path : WindowsPath) (number : Option UInt32) :
    '\n' ∉ path.chars ++ numberSuffix number := by
  intro member
  rcases List.mem_append.mp member with member | member
  · have visible := path.matches_chars.forall_mem (pathPattern_over .windows) '\n' member
    exact absurd visible (by decide)
  · cases number with
    | none => cases member
    | some n =>
        rcases List.mem_cons.mp member with same | member
        · exact absurd same (by decide)
        · exact absurd (Text.isDigit_of_mem_showNat member) (by decide)

/-- Where there are drives, a path between blanks or the ends of its line is found whole: of the
links of the line, exactly one has a column in common with it, and that link is all of the path
and names its line number.  Other lines add their own links and change nothing of this. -/
theorem windows_path_found (path : WindowsPath) (number : Option UInt32)
    (above before after below : List Char)
    (above_ends : ∀ c ∈ above.getLast?, c = '\n') (below_begins : ∀ c ∈ below.head?, c = '\n')
    (unbroken : '\n' ∉ before ++ after)
    (opens : ∀ c ∈ before.getLast?, Text.isBlank c = true)
    (closes : ∀ c ∈ after.head?, Text.isBlank c = true) :
    let written := path.chars ++ numberSuffix number
    let line := before ++ written ++ after
    let start := before.length
    let stop := start + written.length
    findLinks .windows (String.ofList (above ++ line ++ below)) =
        findLinks .windows (String.ofList above) ++ findLinks .windows (String.ofList line) ++
          findLinks .windows (String.ofList below) ∧
      (findLinks .windows (String.ofList line)).filter (·.overlaps start stop) =
        [⟨String.ofList written, String.ofList path.chars, number, start, stop⟩] := by
  intro written line start stop
  simp only [findLinks, String.toList_ofList]
  refine ⟨linksInText_line .windows line above_ends below_begins, ?_⟩
  have lineUnbroken : '\n' ∉ line := by
    have writtenUnbroken := newline_not_mem_written path number
    rw [List.mem_append, not_or] at unbroken
    simp only [line, written, List.mem_append, not_or] at writtenUnbroken ⊢
    exact ⟨⟨unbroken.1, writtenUnbroken⟩, unbroken.2⟩
  rw [linksInText_of_noBreak .windows lineUnbroken]
  exact (linksInLine_overlapping path.matches_chars number opens closes).trans
    (congrArg (fun link => [link]) (ofParts_numbered start path.chars number))

/-- A path on a server with separators of both kinds and the largest number of a line, behind
another link and the name of a drive; the line is the second of three and ends with a carriage
return. -/
theorem windows_path_found_server :
    let server : WindowsSegment := ⟨['h'], by decide, WindowsSegment.plain_of_all (by decide)⟩
    let folder : WindowsSegment := ⟨['a'], by decide, WindowsSegment.plain_of_all (by decide)⟩
    let file : WindowsSegment :=
      ⟨['b', '.', 'c'], by decide, WindowsSegment.plain_of_all (by decide)⟩
    let path : WindowsPath := ⟨.server server, ⟨true, folder⟩, [⟨false, file⟩]⟩
    let above := ['/', 'p', '\n']
    let before := ['x', '\\', 'y', ':', '3', ' ', 'C', ':', ' ']
    let after := ['\r']
    let below := ['\n', '.', '.', '/', 'q']
    let written := path.chars ++ numberSuffix (some 4294967295)
    let line := before ++ written ++ after
    (∀ c ∈ above.getLast?, c = '\n') ∧ (∀ c ∈ below.head?, c = '\n') ∧ '\n' ∉ before ++ after ∧
      (∀ c ∈ before.getLast?, Text.isBlank c = true) ∧
      (∀ c ∈ after.head?, Text.isBlank c = true) ∧
      findLinks .windows (String.ofList (above ++ line ++ below)) =
        findLinks .windows (String.ofList above) ++ findLinks .windows (String.ofList line) ++
          findLinks .windows (String.ofList below) ∧
      (findLinks .windows (String.ofList line)).filter (·.overlaps 9 (9 + written.length)) =
        [⟨String.ofList written, String.ofList path.chars, some 4294967295, 9,
          9 + written.length⟩] := by
  intro server folder file path above before after below written line
  have above_ends : ∀ c ∈ above.getLast?, c = '\n' := by rintro c ⟨⟩; rfl
  have below_begins : ∀ c ∈ below.head?, c = '\n' := by rintro c ⟨⟩; rfl
  have unbroken : '\n' ∉ before ++ after := by decide
  have opens : ∀ c ∈ before.getLast?, Text.isBlank c = true := by rintro c ⟨⟩; rfl
  have closes : ∀ c ∈ after.head?, Text.isBlank c = true := by rintro c ⟨⟩; rfl
  exact ⟨above_ends, below_begins, unbroken, opens, closes,
    windows_path_found path (some 4294967295) above before after below above_ends below_begins
      unbroken opens closes⟩

end RuntimeConsole
