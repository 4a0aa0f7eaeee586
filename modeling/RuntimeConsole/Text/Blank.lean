/-
Module: RuntimeConsole.Text.Blank
Purpose: White space as a class of characters, and the operations on text that
  depend on it.
Main exports:
  isBlank, trimStart, trimEnd, trim, Trimmed, lines, words
-/

namespace RuntimeConsole.Text

/-- The characters with the Unicode property White_Space. -/
def isBlank (c : Char) : Bool :=
  let n := c.toNat
  (0x9 ≤ n && n ≤ 0xD) || n == 0x20 || n == 0x85 || n == 0xA0 || n == 0x1680 ||
    (0x2000 ≤ n && n ≤ 0x200A) || n == 0x2028 || n == 0x2029 || n == 0x202F ||
    n == 0x205F || n == 0x3000

/-- Text without the blanks it begins with. -/
def trimStart (text : List Char) : List Char :=
  text.dropWhile isBlank

/-- Text without the blanks it ends with. -/
def trimEnd (text : List Char) : List Char :=
  (text.reverse.dropWhile isBlank).reverse

/-- Text without the blanks at either end. -/
def trim (text : List Char) : List Char :=
  trimEnd (trimStart text)

/-- Whether nothing but blanks is in the text. -/
def isBlankText (text : List Char) : Bool :=
  text.all isBlank

@[simp] theorem trimEnd_nil : trimEnd [] = [] := rfl

/-- The end of a trimmed text is not blank. -/
theorem trimEnd_getLast?_not_blank (text : List Char) (c : Char)
    (last : (trimEnd text).getLast? = some c) : isBlank c = false := by
  have head : (text.reverse.dropWhile isBlank).head? = some c := by
    simpa [trimEnd, List.getLast?_reverse] using last
  cases found : text.reverse.dropWhile isBlank with
  | nil => simp [found] at head
  | cons first rest =>
      have kept := List.head?_dropWhile_not isBlank text.reverse
      rw [found] at kept head
      simp only [List.head?_cons, Option.some.injEq] at head
      subst head
      simpa using kept

/-- Texts that begin and end with something to be seen, or are empty. -/
structure Trimmed (text : List Char) : Prop where
  first : ∀ c, text.head? = some c → isBlank c = false
  last : ∀ c, text.getLast? = some c → isBlank c = false

theorem trimmed_trim (text : List Char) : Trimmed (trim text) where
  first := by
    intro c first
    have ending : (trimStart text).reverse.dropWhile isBlank <:+ (trimStart text).reverse :=
      List.dropWhile_suffix isBlank
    obtain ⟨rest, whole⟩ : trim text <+: trimStart text := by
      simpa [trim, trimEnd] using List.reverse_prefix.mpr ending
    have head : (text.dropWhile isBlank).head? = some c := by
      change (trimStart text).head? = some c
      rw [← whole, List.head?_append, first, Option.some_or]
    have visible := List.head?_dropWhile_not isBlank text
    rw [head] at visible
    simpa using visible
  last := trimEnd_getLast?_not_blank (trimStart text)

/-- Blanks around a trimmed text do not count. -/
theorem trim_surrounded {text : List Char} (trimmed : Trimmed text) (before after : List Char)
    (beforeBlank : ∀ c ∈ before, isBlank c = true) (afterBlank : ∀ c ∈ after, isBlank c = true) :
    trim (before ++ text ++ after) = text := by
  have backwards : ∀ c ∈ after.reverse, isBlank c = true := by simpa using afterBlank
  rw [trim, trimStart, List.append_assoc, List.dropWhile_append_of_pos beforeBlank]
  cases text with
  | nil =>
      have gone : (after ++ []).dropWhile isBlank = [] := List.dropWhile_append_of_pos afterBlank
      rw [List.append_nil] at gone
      rw [List.nil_append, gone, trimEnd_nil]
  | cons c text =>
      have visible := trimmed.first c rfl
      rw [List.cons_append, List.dropWhile_cons_of_neg (by simp [visible]), ← List.cons_append,
        trimEnd, List.reverse_append, List.dropWhile_append_of_pos backwards]
      cases reversed : (c :: text).reverse with
      | nil => simp at reversed
      | cons d rest =>
          have last : (c :: text).getLast? = some d := by
            rw [← List.head?_reverse, reversed, List.head?_cons]
          rw [List.dropWhile_cons_of_neg (by simp [trimmed.last d last]), ← reversed,
            List.reverse_reverse]

theorem Trimmed.trim {text : List Char} (trimmed : Trimmed text) : Text.trim text = text := by
  simpa using trim_surrounded trimmed [] [] nofun nofun

theorem trim_blank {text : List Char} (blank : isBlankText text = true) : trim text = [] := by
  have trimmed : Trimmed [] := ⟨nofun, nofun⟩
  simpa using trim_surrounded trimmed text [] (List.all_eq_true.mp blank) nofun

/-- A text is what is left of it when it is trimmed, and blanks around that. -/
theorem exists_surrounded (text : List Char) :
    ∃ before after, (∀ c ∈ before, isBlank c = true) ∧ (∀ c ∈ after, isBlank c = true) ∧
      text = before ++ trim text ++ after := by
  refine ⟨text.takeWhile isBlank, ((trimStart text).reverse.takeWhile isBlank).reverse,
    List.all_eq_true.mp List.all_takeWhile, ?_, ?_⟩
  · intro c member
    exact List.all_eq_true.mp List.all_takeWhile c (List.mem_reverse.mp member)
  · rw [trim, trimEnd, List.append_assoc, ← List.reverse_append, List.takeWhile_append_dropWhile,
      List.reverse_reverse, trimStart, List.takeWhile_append_dropWhile]

/-- One carriage return before a line feed belongs to the line break.  The line
is held in reverse while it is read. -/
private def dropReturn : List Char → List Char
  | '\r' :: rest => rest
  | line => line

/-- Lines of a text, where `current` holds in reverse what has been read of the
line under way. -/
def linesFrom (current : List Char) : List Char → List (List Char)
  | [] => if current.isEmpty then [] else [current.reverse]
  | '\n' :: rest => (dropReturn current).reverse :: linesFrom [] rest
  | c :: rest => linesFrom (c :: current) rest

theorem linesFrom_lineFeed (current rest : List Char) :
    linesFrom current ('\n' :: rest) =
      (if current.head? = some '\r' then current.tail else current).reverse ::
        linesFrom [] rest := by
  cases current with
  | nil => rfl
  | cons c current =>
      by_cases here : c = '\r'
      · subst here
        rfl
      · simp [linesFrom, dropReturn, here]

/-- The lines of a text.  A line ends at a line feed, one carriage return before
it is dropped with it, and a last line without a line feed counts if it is not
empty. -/
def lines (text : List Char) : List (List Char) :=
  linesFrom [] text

/-- The maximal runs of characters that are not blank, where `current` holds in
reverse the run under way. -/
def wordsFrom (current : List Char) : List Char → List (List Char)
  | [] => if current.isEmpty then [] else [current.reverse]
  | c :: rest =>
      if isBlank c then
        if current.isEmpty then wordsFrom [] rest
        else current.reverse :: wordsFrom [] rest
      else wordsFrom (c :: current) rest

/-- The maximal runs of characters that are not blank. -/
def words (text : List Char) : List (List Char) :=
  wordsFrom [] text

/-- Text cut at every occurrence of a character; `current` holds in reverse the
piece under way. -/
def splitFrom (separator : Char) (current : List Char) : List Char → List (List Char)
  | [] => [current.reverse]
  | c :: rest =>
      if c == separator then current.reverse :: splitFrom separator [] rest
      else splitFrom separator (c :: current) rest

/-- Text cut at every occurrence of a character: one piece more than there are
occurrences. -/
def splitOn (separator : Char) (text : List Char) : List (List Char) :=
  splitFrom separator [] text

/-- A separator parts the pieces before it from those behind it. -/
theorem splitFrom_append (separator : Char) (current first second : List Char) :
    splitFrom separator current (first ++ separator :: second) =
      splitFrom separator current first ++ splitOn separator second := by
  induction first generalizing current with
  | nil => simp [splitFrom, splitOn]
  | cons c first inductionHypothesis =>
      rw [List.cons_append, splitFrom, splitFrom]
      split <;> simp [inductionHypothesis]

theorem splitOn_append (separator : Char) (first second : List Char) :
    splitOn separator (first ++ separator :: second) =
      splitOn separator first ++ splitOn separator second :=
  splitFrom_append separator [] first second

theorem splitFrom_of_not_mem {separator : Char} {text : List Char} (absent : separator ∉ text)
    (current : List Char) : splitFrom separator current text = [current.reverse ++ text] := by
  induction text generalizing current with
  | nil => simp [splitFrom]
  | cons c text inductionHypothesis =>
      rw [List.mem_cons, not_or] at absent
      have other : (c == separator) = false := by simpa using Ne.symm absent.1
      simp [splitFrom, other, inductionHypothesis absent.2]

/-- A text without a separator is one piece. -/
theorem splitOn_of_not_mem {separator : Char} {text : List Char} (absent : separator ∉ text) :
    splitOn separator text = [text] :=
  splitFrom_of_not_mem absent []

/-- The text without a given start, if it starts so. -/
def stripPrefix? (start text : List Char) : Option (List Char) :=
  if start.isPrefixOf text then some (text.drop start.length) else none

/-- The text without a given end, if it ends so. -/
def stripSuffix? (ending text : List Char) : Option (List Char) :=
  if ending.isSuffixOf text then some (text.take (text.length - ending.length)) else none

/-- The text with every occurrence of a pattern that is not empty replaced, from
left to right and without overlaps.  `skip` counts the characters of the last
occurrence that are still to be passed over. -/
def replaceFrom (pattern replacement : List Char) : (skip : Nat) → List Char → List Char
  | _, [] => []
  | skip + 1, _ :: rest => replaceFrom pattern replacement skip rest
  | 0, c :: rest =>
      if pattern.isPrefixOf (c :: rest) then
        replacement ++ replaceFrom pattern replacement (pattern.length - 1) rest
      else c :: replaceFrom pattern replacement 0 rest

/-- The text with every occurrence of a pattern that is not empty replaced. -/
def replace (pattern replacement text : List Char) : List Char :=
  replaceFrom pattern replacement 0 text

end RuntimeConsole.Text
