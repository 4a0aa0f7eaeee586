/-
Module: RuntimeConsole.Proofs.LinkRuns
Purpose: Where the slash separates directories, the links of a text are its runs of path
  characters, line by line.
Main exports:
  posixPath_iff, linkAt?_posix, linksFrom_skip, linkAt?_blank, linksInLine_return,
  linksInText_eq_splitOn, posix_links_eq_runs
-/
import RuntimeConsole.Link.Runs
import RuntimeConsole.Proofs.PathEnds

namespace RuntimeConsole

/-! ### Runs -/

theorem separatesInside_iff {run : List Char} :
    separatesInside run = true ↔ ∃ before after, run = before ++ '/' :: after ∧ after ≠ [] := by
  rw [separatesInside, List.contains_iff_mem]
  constructor
  · intro member
    have some : run ≠ [] := by
      rintro rfl
      cases member
    obtain ⟨before, after, split⟩ := List.append_of_mem member
    refine ⟨before, after ++ [run.getLast some], ?_, by simp⟩
    calc run = run.dropLast ++ [run.getLast some] := (List.dropLast_concat_getLast some).symm
      _ = before ++ '/' :: (after ++ [run.getLast some]) := by simp [split]
  · rintro ⟨before, after, rfl, some⟩
    obtain ⟨c, after, rfl⟩ := List.exists_cons_of_ne_nil some
    simp

/-- A run keeps its slash when something comes before or after it. -/
theorem separatesInside_append {run : List Char} (separates : separatesInside run = true)
    (before after : List Char) : separatesInside (before ++ run ++ after) = true := by
  obtain ⟨first, second, rfl, some⟩ := separatesInside_iff.mp separates
  exact separatesInside_iff.mpr ⟨before ++ first, second ++ after, by simp, by simp [some]⟩

/-- The paths are the texts of path characters with a slash before the last one. -/
theorem posixPath_iff {path : List Char} :
    Platform.posix.pathPattern.Matches path ↔
      separatesInside path = true ∧ ∀ c ∈ path, isPosixPathChar c = true := by
  constructor
  · intro matched
    constructor
    · obtain ⟨root, segments, rfl, -, segmentsMatch⟩ := path_split matched
      obtain ⟨c, d, rest, rfl, separates, -⟩ := segments_cons segmentsMatch
      obtain rfl : c = '/' := by simpa [Platform.isSeparator] using separates
      exact separatesInside_iff.mpr ⟨root, d :: rest, rfl, List.cons_ne_nil d rest⟩
    · refine matched.forall_mem ?_
      simp [Platform.pathPattern, pathWith, literal, dots, Text.Pattern.Over]
      decide
  · rintro ⟨separates, inside⟩
    obtain ⟨before, after, rfl, some⟩ := separatesInside_iff.mp separates
    have segment : Platform.posix.segment.Matches ('/' :: after) := by
      obtain ⟨d, rest, rfl⟩ := List.exists_cons_of_ne_nil some
      refine matches_segment_iff.mpr ⟨'/', d, rest, rfl, rfl, fun e member => ?_⟩
      exact inside e (by simp_all)
    rw [pathPattern_eq]
    refine .seq ?_ (.once segment)
    cases before with
    | nil => exact .absent
    | cons c before =>
        have consumes := List.cons_ne_nil c before
        refine .present (.second (matches_many_one_iff.mpr ⟨consumes, fun e member => ?_⟩))
        exact inside e (List.mem_append_left _ member)

/-- What follows the path characters a text begins with begins with something else. -/
theorem dropWhile_head? (accepts : Char → Bool) (text : List Char) :
    ∀ c ∈ (text.dropWhile accepts).head?, accepts c = false := by
  intro c member
  have kept := List.head?_dropWhile_not accepts text
  rw [Option.mem_def.mp member] at kept
  simpa using kept

theorem posix_pathEnd_iff {text : List Char} :
    Platform.posix.PathEnd text ↔ ∀ c ∈ text.head?, isPosixPathChar c = false := by
  constructor
  · intro ends c member
    obtain ⟨rest, rfl⟩ := List.head?_eq_some_iff.mp (Option.mem_def.mp member)
    exact Bool.eq_false_iff.mpr fun inside => ends c rest rfl (.inl inside)
  · rintro ends c rest rfl (inside | ⟨separates, -⟩)
    · exact absurd inside (Bool.eq_false_iff.mp (ends c rfl))
    · obtain rfl : c = '/' := by simpa [Platform.isSeparator] using separates
      exact absurd (ends '/' rfl) (by decide)

theorem numberAfter_eq (text : List Char) :
    numberAfter text = if (lineDigits text).isEmpty then [] else ':' :: lineDigits text := by
  unfold numberAfter lineDigits
  split
  next c rest =>
      cases digit : Text.isDecimalDigit c <;> simp [digit]
  next outside =>
      split
      next rest =>
          cases rest with
          | nil => rfl
          | cons c rest => exact absurd rfl (outside c rest)
      next => rfl

theorem ofParts_eq_ofRun (column : Nat) (run after : List Char) :
    LinkMatch.ofParts column run (lineDigits after) =
      LinkMatch.ofRun column run (numberAfter after) := by
  rw [numberAfter_eq, LinkMatch.ofParts, LinkMatch.ofRun]
  cases lineDigits after <;> simp [Text.readBounded?, Nat.add_assoc]

/-- A link begins a run exactly if a slash stands inside of the run, and takes all of it. -/
theorem linkAt?_posix {run after : List Char} (inside : ∀ c ∈ run, isPosixPathChar c = true)
    (ends : ∀ c ∈ after.head?, isPosixPathChar c = false) :
    linkAt? .posix (run ++ after) =
      if separatesInside run then some (run, lineDigits after) else none := by
  split
  next separates =>
      refine linkAt?_eq_some_iff.mpr ⟨after, rfl, posixPath_iff.mpr ⟨separates, inside⟩, ?_, rfl⟩
      exact posix_pathEnd_iff.mpr ends
  next separates =>
      refine linkAt?_eq_none_iff.mpr fun path rest split matched => separates ?_
      obtain ⟨pathSeparates, pathInside⟩ := posixPath_iff.mp matched
      rcases List.append_eq_append_iff.mp split with ⟨between, rfl, restEq⟩ | ⟨between, rfl, -⟩
      · -- The path does not reach beyond the run.
        cases between with
        | nil => simpa using pathSeparates
        | cons c between =>
            have here : c ∈ after.head? := by simp [restEq]
            exact absurd (pathInside c (by simp)) (Bool.eq_false_iff.mp (ends c here))
      · simpa using separatesInside_append pathSeparates [] between

theorem run_inside {accepts : Char → Bool} {c : Char} {rest : List Char}
    (inside : accepts c = true) : ∀ d ∈ c :: rest.takeWhile accepts, accepts d = true := by
  intro d member
  rcases List.mem_cons.mp member with rfl | member
  · exact inside
  · exact List.all_eq_true.mp List.all_takeWhile d member

/-- Whether a link begins a text that begins with a path character. -/
theorem linkAt?_run {c : Char} (inside : isPosixPathChar c = true) (rest : List Char) :
    linkAt? .posix (c :: rest) =
      if separatesInside (c :: rest.takeWhile isPosixPathChar) then
        some (c :: rest.takeWhile isPosixPathChar, lineDigits (rest.dropWhile isPosixPathChar))
      else none := by
  have whole : c :: rest =
      (c :: rest.takeWhile isPosixPathChar) ++ rest.dropWhile isPosixPathChar := by
    rw [List.cons_append, List.takeWhile_append_dropWhile]
  rw [whole]
  exact linkAt?_posix (run_inside inside) (dropWhile_head? isPosixPathChar rest)

/-! ### The links of a line -/

/-- The characters of a link are passed over. -/
theorem linksFrom_skip (platform : Platform) (skip column : Nat) (text : List Char) :
    linksFrom platform skip column text =
      linksFrom platform 0 (column + skip) (text.drop skip) := by
  induction text generalizing skip column with
  | nil => simp [linksFrom]
  | cons c text inductionHypothesis =>
      cases skip with
      | zero => rfl
      | succ skip =>
          rw [linksFrom, inductionHypothesis, List.drop_succ_cons, Nat.add_assoc, Nat.add_comm 1]

/-- What no link begins in is passed over. -/
theorem linksFrom_pass (platform : Platform) (column : Nat) (passed text : List Char)
    (none : ∀ before after, passed = before ++ after → after ≠ [] →
      linkAt? platform (after ++ text) = none) :
    linksFrom platform 0 column (passed ++ text) =
      linksFrom platform 0 (column + passed.length) text := by
  induction passed generalizing column with
  | nil => rfl
  | cons c passed inductionHypothesis =>
      have here := none [] (c :: passed) rfl nofun
      rw [List.cons_append] at here ⊢
      rw [linksFrom, here]
      dsimp only
      rw [inductionHypothesis (column + 1) fun before after split some =>
        none (c :: before) after (by rw [split, List.cons_append]) some]
      congr 1
      rw [List.length_cons]
      omega

/-- The search that tries every place for a link finds what the runs say. -/
theorem linksFrom_eq_scanRuns (column : Nat) (text : List Char) :
    linksFrom .posix 0 column text = scanRuns isPosixPathChar column text := by
  induction column, text using scanRuns.induct isPosixPathChar with
  | case1 column => rw [linksFrom, scanRuns]
  | case2 column c rest inside run after separates number inductionHypothesis =>
      have found := linkAt?_run inside rest
      rw [if_pos separates] at found
      rw [scanRuns, if_pos inside, linksFrom, found]
      dsimp only
      rw [if_pos separates, ← inductionHypothesis, linksFrom_skip, ofParts_eq_ofRun]
      -- What the link takes of the text are the rest of the run and the line number.
      have dropped : rest.drop ((rest.takeWhile isPosixPathChar).length + number.length) =
          after.drop number.length :=
        (congrArg (List.drop _) List.takeWhile_append_dropWhile.symm).trans
          (List.drop_length_add_append number.length)
      have passed : (LinkMatch.ofRun column run number).stop - column - 1 =
          (rest.takeWhile isPosixPathChar).length + number.length := by
        simp only [LinkMatch.ofRun, run, List.length_cons]
        omega
      rw [passed, dropped]
      congr 2
      simp only [run, List.length_cons]
      omega
  | case3 column c rest inside run after separates inductionHypothesis =>
      have runInside : ∀ d ∈ run, isPosixPathChar d = true := run_inside inside
      have none : ∀ before last, run = before ++ last → last ≠ [] →
          linkAt? .posix (last ++ after) = Option.none := by
        intro before last split some
        have lastInside : ∀ d ∈ last, isPosixPathChar d = true := fun d member =>
          runInside d (split ▸ List.mem_append_right before member)
        rw [linkAt?_posix lastInside (dropWhile_head? isPosixPathChar rest), if_neg]
        intro lastSeparates
        have := separatesInside_append lastSeparates before []
        rw [List.append_nil, ← split] at this
        exact separates this
      rw [scanRuns, if_pos inside]
      dsimp only
      rw [if_neg separates, ← inductionHypothesis, ← linksFrom_pass .posix column run after none]
      simp [run, after, List.takeWhile_append_dropWhile]
  | case4 column c rest outside inductionHypothesis =>
      have ends : ∀ d ∈ (c :: rest).head?, isPosixPathChar d = false := by
        intro d member
        obtain rfl := Option.mem_some.mp member
        simpa using outside
      have noRun : ∀ d ∈ ([] : List Char), isPosixPathChar d = true := by simp
      have none : linkAt? .posix (c :: rest) = Option.none := linkAt?_posix noRun ends
      rw [scanRuns, if_neg outside, linksFrom, none]
      exact inductionHypothesis

/-! ### Blanks -/

theorem blank_outside (platform : Platform) {c : Char} (blank : Text.isBlank c = true) :
    platform.isSegmentChar c = false ∧ platform.isSeparator c = false := by
  constructor
  · cases platform <;>
      simp [Platform.isSegmentChar, isPosixPathChar, isWindowsPathChar, blank]
  · have slash : c ≠ '/' := by
      rintro rfl
      exact absurd blank (by decide)
    have backslash : c ≠ '\\' := by
      rintro rfl
      exact absurd blank (by decide)
    cases platform <;> simp [Platform.isSeparator, slash, backslash]

theorem isDecimalDigit_blank {c : Char} (blank : Text.isBlank c = true) :
    Text.isDecimalDigit c = false := by
  -- The lowest digits lie between the blanks of ASCII, and all other digits apart from the rest.
  have apart : Text.decimalDigitRanges.all (fun range =>
      range.1 = 0x30 && range.2 = 0x39 ||
        0xA0 < range.1 && range.2 < 0x1680 || 0x1680 < range.1 && range.2 < 0x2000 ||
          0x3000 < range.1) = true := by
    decide
  rw [Text.isDecimalDigit, List.any_eq_false]
  intro range member
  have := List.all_eq_true.mp apart range member
  simp only [Text.isBlank, Bool.or_eq_true, Bool.and_eq_true, decide_eq_true_eq,
    beq_iff_eq] at blank this ⊢
  omega

theorem lineDigits_blank {blank : Char} (isBlank : Text.isBlank blank = true)
    (text more : List Char) : lineDigits (text ++ blank :: more) = lineDigits text := by
  have digits (text : List Char) : (text ++ blank :: more).takeWhile Text.isDecimalDigit =
      text.takeWhile Text.isDecimalDigit := by
    induction text with
    | nil => simp [isDecimalDigit_blank isBlank]
    | cons c text inductionHypothesis =>
        rw [List.cons_append, List.takeWhile_cons, List.takeWhile_cons, inductionHypothesis]
  cases text with
  | nil =>
      have other : blank ≠ ':' := by
        rintro rfl
        exact absurd isBlank (by decide)
      simp [lineDigits, other]
  | cons c text =>
      by_cases colon : c = ':'
      · subst colon
        exact digits text
      · simp [lineDigits, colon]

/-- What comes behind a blank neither makes a link nor unmakes one. -/
theorem linkAt?_blank (platform : Platform) {blank : Char} (isBlank : Text.isBlank blank = true)
    (text more : List Char) :
    linkAt? platform (text ++ blank :: more) = linkAt? platform text := by
  obtain ⟨noSegmentChar, noSeparator⟩ := blank_outside platform isBlank
  cases found : linkAt? platform text with
  | none =>
      rw [linkAt?_eq_none_iff] at found ⊢
      intro path rest split matched
      rcases List.append_eq_append_iff.mp split with ⟨between, rfl, here⟩ | ⟨between, rfl, -⟩
      · cases between with
        | nil => exact found text [] (by simp) (by simpa using matched)
        | cons c between =>
            obtain ⟨rfl, -⟩ := List.cons.inj here
            have visible := matched.forall_mem (pathPattern_over platform) blank (by simp)
            exact absurd isBlank (Bool.eq_false_iff.mp visible)
      · exact found path between rfl matched
  | some parts =>
      obtain ⟨path, digits⟩ := parts
      obtain ⟨rest, rfl, matched, ends, rfl⟩ := linkAt?_eq_some_iff.mp found
      refine linkAt?_eq_some_iff.mpr ⟨rest ++ blank :: more, by simp, matched, ?_, ?_⟩
      · intro c others split goesOn
        cases rest with
        | nil =>
            obtain ⟨rfl, rfl⟩ := List.cons.inj split
            rcases goesOn with inside | ⟨separates, -⟩
            · exact absurd inside (Bool.eq_false_iff.mp noSegmentChar)
            · exact absurd separates (Bool.eq_false_iff.mp noSeparator)
        | cons d rest =>
            obtain ⟨rfl, rfl⟩ := List.cons.inj split
            refine ends d rest rfl (goesOn.imp_right fun ⟨separates, e, behind, restEq, inside⟩ => ?_)
            cases rest with
            | nil =>
                obtain ⟨rfl, -⟩ := List.cons.inj restEq
                exact absurd inside (Bool.eq_false_iff.mp noSegmentChar)
            | cons f rest =>
                obtain ⟨rfl, -⟩ := List.cons.inj restEq
                exact ⟨separates, f, rest, rfl, inside⟩
      · exact (lineDigits_blank isBlank rest more).symm

/-! ### The lines of a text -/

/-- A carriage return at the end of a text neither makes a link nor unmakes one. -/
theorem linkAt?_return (platform : Platform) (text : List Char) :
    linkAt? platform (text ++ ['\r']) = linkAt? platform text :=
  linkAt?_blank platform (by decide) text []

theorem linksFrom_return (platform : Platform) (skip column : Nat) (text : List Char) :
    linksFrom platform skip column (text ++ ['\r']) = linksFrom platform skip column text := by
  induction text generalizing skip column with
  | nil =>
      cases skip with
      | succ skip => rfl
      | zero =>
          have none : linkAt? platform ([] ++ ['\r']) = Option.none := by
            rw [linkAt?_return]
            cases platform <;> rfl
          have nothing : linksFrom platform 0 column [] = [] := rfl
          rw [List.nil_append] at none ⊢
          rw [nothing, linksFrom, none]
          rfl
  | cons c text inductionHypothesis =>
      cases skip with
      | succ skip => exact inductionHypothesis skip (column + 1)
      | zero =>
          have same := linkAt?_return platform (c :: text)
          rw [List.cons_append] at same ⊢
          rw [linksFrom, linksFrom, same]
          split
          · exact inductionHypothesis 0 (column + 1)
          · simp only [inductionHypothesis]

theorem linksInLine_return (platform : Platform) (line : List Char) :
    linksInLine platform (line ++ ['\r']) = linksInLine platform line :=
  linksFrom_return platform 0 0 line

theorem flatMap_linesFrom (platform : Platform) (current text : List Char) :
    (Text.linesFrom current text).flatMap (linksInLine platform) =
      (Text.splitFrom '\n' current text).flatMap (linksInLine platform) := by
  induction text generalizing current with
  | nil =>
      cases current with
      | nil => rfl
      | cons c current => rfl
  | cons c text inductionHypothesis =>
      by_cases feed : c = '\n'
      · subst feed
        have line : linksInLine platform
            (if current.head? = some '\r' then current.tail else current).reverse =
              linksInLine platform current.reverse := by
          split
          next return_ =>
              obtain ⟨rest, rfl⟩ := List.head?_eq_some_iff.mp return_
              rw [List.tail_cons, List.reverse_cons, linksInLine_return]
          next => rfl
        rw [Text.linesFrom_lineFeed, Text.splitFrom]
        simp [line, inductionHypothesis]
      · have other : (c == '\n') = false := by simpa using feed
        rw [Text.linesFrom, Text.splitFrom, other]
        · exact inductionHypothesis (c :: current)
        · exact feed

/-- The links of a text are those of its lines, whatever ends a line besides the line feed. -/
theorem linksInText_eq_splitOn (platform : Platform) (text : List Char) :
    linksInText platform text = (Text.splitOn '\n' text).flatMap (linksInLine platform) :=
  flatMap_linesFrom platform [] text

/-- Where the slash separates directories, the links of a line are its runs of path characters
with a slash inside, and those of a text are the links of its lines, each counted from the
beginning of its line. -/
theorem posix_links_eq_runs :
    (∀ line, linksInLine .posix line = scanRuns isPosixPathChar 0 line) ∧
      ∀ text, findLinks .posix text =
        (Text.splitOn '\n' text.toList).flatMap (scanRuns isPosixPathChar 0) := by
  have lines : ∀ line, linksInLine .posix line = scanRuns isPosixPathChar 0 line :=
    linksFrom_eq_scanRuns 0
  refine ⟨lines, fun text => ?_⟩
  have same : linksInLine .posix = scanRuns isPosixPathChar 0 := funext lines
  rw [findLinks, linksInText_eq_splitOn, same]

/-- A line number ends a link in the middle of a run, and what is left of the run is a link too. -/
example : (findLinks .posix "/a:12b/c").map LinkMatch.text = ["/a:12", "b/c"] := by
  decide +kernel

end RuntimeConsole
