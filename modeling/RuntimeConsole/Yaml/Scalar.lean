/-
Module: RuntimeConsole.Yaml.Scalar
Purpose: Scalars: plain, between quotes, and as blocks of lines.
Main exports:
  ScalarStyle, Gap.fold, readPlain, readSingleQuoted, readDoubleQuoted, readBlock
-/
import RuntimeConsole.Text.Hex
import RuntimeConsole.Yaml.Character

namespace RuntimeConsole.Yaml

/-- How a scalar is written. -/
inductive ScalarStyle where
  | plain
  | quoted
  /-- A block whose lines stay as they are. -/
  | literal
  /-- A block whose lines are joined. -/
  | folded
deriving Repr, DecidableEq, Inhabited

/-! ### Line folding -/

/-- What stands between two words of a scalar. -/
structure Gap where
  /-- The blanks before the first break. -/
  blanks : List Char
  /-- Whether there is a break. -/
  broken : Bool
  /-- The first break, unless it is escaped. -/
  firstBreak : Option Char
  /-- The other breaks. -/
  breaks : List Char
deriving Repr, DecidableEq, Inhabited

namespace Gap

/-- Nothing between two words. -/
def empty : Gap := ⟨[], false, none, []⟩

/-- An escaped break, which joins two words. -/
def escapedBreak : Gap := ⟨[], true, none, []⟩

/-- Whether nothing has been found yet. -/
def isEmpty (gap : Gap) : Bool := gap.blanks.isEmpty && !gap.broken

/-- The gap with a blank more.  Blanks that begin a line do not count. -/
def addBlank (gap : Gap) (c : Char) : Gap :=
  if gap.broken then gap else { gap with blanks := gap.blanks ++ [c] }

/-- The gap with a break more. -/
def addBreak (gap : Gap) (c : Char) : Gap :=
  if gap.broken then { gap with breaks := gap.breaks ++ [c] } else ⟨[], true, some c, []⟩

/-- What the gap contributes to the text: its blanks on a line, else a space for
one line feed, and of several all but the first. -/
def fold (gap : Gap) : List Char :=
  if gap.broken then
    if gap.firstBreak = some '\n' then if gap.breaks.isEmpty then [' '] else gap.breaks
    else gap.firstBreak.toList ++ gap.breaks
  else gap.blanks

end Gap

/-! ### Plain scalars -/

/-- A plain scalar that has been read. -/
structure PlainScalar where
  text : List Char
  /-- Whether a line ended after the scalar. -/
  broken : Bool
  rest : List Char
deriving Repr, DecidableEq, Inhabited

/-- The scalar with more text in front. -/
def PlainScalar.prepend (text : List Char) (scalar : PlainScalar) : PlainScalar :=
  { scalar with text := text ++ scalar.text }

/-- Whether a plain scalar ends before a character: a colon that ends a key, and
in brackets what structures them. -/
def endsPlain (inBrackets : Bool) (c : Char) (rest : List Char) : Bool :=
  (c == ':' && atGap rest) || (inBrackets && (c == ',' || isBracket c))

/-- Whether a plain scalar ends before a word that follows a gap: one that is not
indented, a mark of a document, or a comment. -/
def endsAtWord (inBrackets : Bool) (margin column : Nat) (gap : Gap) (word : List Char) : Bool :=
  (!inBrackets && gap.broken && column < margin) || (column == 0 && atDocumentMark word) ||
    word.head? == some '#'

/-- Whether a colon stands where brackets leave open what it means. -/
def colonMisplaced (c : Char) (rest : List Char) : Bool :=
  c == ':' &&
    match rest with
    | next :: _ => next == ',' || next == '?' || isBracket next
    | [] => false

/-- Reads a plain scalar from a column on, after a gap.  Its lines must be
indented by `margin`, and not by tabs. -/
def readPlain (inBrackets : Bool) (margin column : Nat) (gap : Gap) :
    List Char → Option PlainScalar
  | [] => some ⟨[], gap.broken, []⟩
  | c :: rest =>
      if isBreak c then readPlain inBrackets margin 0 (gap.addBreak c) rest
      else if isBlank c then
        if gap.broken && column < margin && c == '\t' then none
        else readPlain inBrackets margin (column + 1) (gap.addBlank c) rest
      else if !gap.isEmpty && endsAtWord inBrackets margin column gap (c :: rest) then
        some ⟨[], gap.broken, c :: rest⟩
      else if inBrackets && colonMisplaced c rest then none
      else if endsPlain inBrackets c rest then some ⟨[], gap.broken, c :: rest⟩
      else
        (readPlain inBrackets margin (column + 1) .empty rest).map
          (PlainScalar.prepend (gap.fold ++ [c]))

/-! ### Scalars between quotes -/

/-- Text and what follows it. -/
abbrev Reading := List Char × List Char

/-- The reading with more text in front. -/
def prependText (text : List Char) (reading : Reading) : Reading :=
  (text ++ reading.1, reading.2)

/-- Reads a scalar after its opening single quote.  A quote is written twice. -/
def readSingleQuoted (column : Nat) (gap : Gap) : List Char → Option Reading
  | [] => none
  | '\'' :: '\'' :: rest =>
      (readSingleQuoted (column + 2) .empty rest).map (prependText (gap.fold ++ ['\'']))
  | '\'' :: rest => some (gap.fold, rest)
  | c :: rest =>
      if isBreak c then readSingleQuoted 0 (gap.addBreak c) rest
      else if isBlank c then readSingleQuoted (column + 1) (gap.addBlank c) rest
      else if column == 0 && atDocumentMark (c :: rest) then none
      else
        (readSingleQuoted (column + 1) .empty rest).map (prependText (gap.fold ++ [c]))

/-- The characters that single letters stand for after a backslash. -/
def escapes : List (Char × Nat) :=
  [('0', 0x00), ('a', 0x07), ('b', 0x08), ('t', 0x09), ('\t', 0x09), ('n', 0x0A), ('v', 0x0B),
    ('f', 0x0C), ('r', 0x0D), ('e', 0x1B), (' ', 0x20), ('"', 0x22), ('/', 0x2F), ('\\', 0x5C),
    ('N', 0x85), ('_', 0xA0), ('L', 0x2028), ('P', 0x2029)]

/-- The number of hexadecimal digits that follow a letter after a backslash. -/
def escapeDigits : List (Char × Nat) :=
  [('x', 2), ('u', 4), ('U', 8)]

/-- The character with a given hexadecimal number of `count` digits. -/
def readHex (count : Nat) (text : List Char) : Option Char :=
  if text.length < count then none
  else
    ((text.take count).mapM Text.hexValue?).bind fun digits =>
      let n := digits.foldl (fun n digit => 16 * n + digit) 0
      if n.isValidChar then some (Char.ofNat n) else none

/-- What an escape stands for, and the number of characters it takes after the
letter that names it. -/
def readEscape (letter : Char) (rest : List Char) : Option (Char × Nat) :=
  match escapes.lookup letter, escapeDigits.lookup letter with
  | some n, _ => some (Char.ofNat n, 0)
  | none, some count => (readHex count rest).map fun c => (c, count)
  | none, none => none

/-- Reads a scalar after its opening double quote. -/
def readDoubleQuoted (column : Nat) (gap : Gap) : List Char → Option Reading
  | [] => none
  | '"' :: rest => some (gap.fold, rest)
  | '\\' :: c :: rest =>
      if isBreak c then
        (readDoubleQuoted 0 .escapedBreak rest).map (prependText gap.fold)
      else
        match readEscape c rest with
        | some (escaped, count) =>
            (readDoubleQuoted (column + 2 + count) .empty (rest.drop count)).map
              (prependText (gap.fold ++ [escaped]))
        | none => none
  | c :: rest =>
      if isBreak c then readDoubleQuoted 0 (gap.addBreak c) rest
      else if isBlank c then readDoubleQuoted (column + 1) (gap.addBlank c) rest
      else if column == 0 && atDocumentMark (c :: rest) then none
      else
        (readDoubleQuoted (column + 1) .empty rest).map (prependText (gap.fold ++ [c]))
termination_by text => text.length
decreasing_by all_goals simp only [List.length_cons, List.length_drop]; omega

/-! ### Blocks of lines -/

/-- What becomes of the breaks at the end of a block. -/
inductive Chomping where
  /-- They are dropped. -/
  | strip
  /-- The first one is kept. -/
  | clip
  /-- They are all kept. -/
  | keep
deriving Repr, DecidableEq, Inhabited

/-- The chomping an indicator asks for. -/
def Chomping.ofChar? : Char → Option Chomping
  | '-' => some strip
  | '+' => some keep
  | _ => none

/-- The indentation an indicator asks for. -/
def indentationOf? (c : Char) : Option Nat :=
  if '1' ≤ c ∧ c ≤ '9' then some (c.toNat - '0'.toNat) else none

/-- What the indicators of a block ask for: chomping and indentation, in either
order. -/
def readIndicators : List Char → Option (Chomping × Option Nat × List Char)
  | c :: d :: rest =>
      match Chomping.ofChar? c, indentationOf? c with
      | some chomping, _ =>
          match indentationOf? d with
          | some indentation => some (chomping, some indentation, rest)
          | none => if d == '0' then none else some (chomping, none, d :: rest)
      | none, some indentation =>
          match Chomping.ofChar? d with
          | some chomping => some (chomping, some indentation, rest)
          | none => some (.clip, some indentation, d :: rest)
      | none, none => if c == '0' then none else some (.clip, none, c :: d :: rest)
  | [c] =>
      if c == '0' then none
      else
        match Chomping.ofChar? c, indentationOf? c with
        | some chomping, _ => some (chomping, none, [])
        | none, some indentation => some (.clip, some indentation, [])
        | none, none => some (.clip, none, [c])
  | [] => some (.clip, none, [])

/-- The text after the blanks and the comment that may end a line, if the line
then ends. -/
def skipLineEnd (text : List Char) : Option (List Char) :=
  let text := text.dropWhile isBlank
  let text := if text.head? == some '#' then text.dropWhile (!isBreak ·) else text
  if atBreak text then some (text.drop 1) else none

/-- Lines without content that have been read. -/
structure EmptyLines where
  breaks : List Char
  /-- The column reached on the line with content. -/
  column : Nat
  /-- The widest of the indentations seen. -/
  widest : Nat
  rest : List Char
deriving Repr, DecidableEq, Inhabited

/-- Reads lines without content and the indentation of the line with content that
follows.  While no indentation is known every space counts as part of it. -/
def readEmptyLines (indentation : Option Nat) (column widest : Nat) (breaks : List Char) :
    List Char → Option EmptyLines
  | [] => some ⟨breaks, column, max widest column, []⟩
  | c :: rest =>
      let inside := indentation.elim true (column < ·)
      if inside && c == ' ' then readEmptyLines indentation (column + 1) widest breaks rest
      else if inside && c == '\t' then none
      else if isBreak c then
        readEmptyLines indentation 0 (max widest column) (breaks ++ [c]) rest
      else some ⟨breaks, column, max widest column, c :: rest⟩

/-- The text of a block from a line with content on. -/
structure BlockText where
  text : List Char
  /-- The break that ends the last line. -/
  lastBreak : List Char
  /-- The breaks after it. -/
  breaks : List Char
  rest : List Char
deriving Repr, DecidableEq, Inhabited

/-- What a block contributes between two lines: in a folded block a single break
between lines that do not begin with blanks is a space, or nothing before empty
lines. -/
def blockGap (folded : Bool) (previousBlank blank : Bool) (lastBreak breaks : List Char) :
    List Char :=
  if folded && lastBreak.head? == some '\n' && !previousBlank && !blank then
    (if breaks.isEmpty then [' '] else []) ++ breaks
  else lastBreak ++ breaks

/-- Reads the lines of a block that are indented by `indentation`, the first of
which begins at `column`.  There are no more lines than `limit`. -/
def readBlockLines (folded : Bool) (indentation : Nat) :
    (limit : Nat) → (previousBlank : Bool) → (lastBreak breaks : List Char) → (column : Nat) →
      List Char → Option BlockText
  | 0, _, lastBreak, breaks, _, text => some ⟨[], lastBreak, breaks, text⟩
  | limit + 1, previousBlank, lastBreak, breaks, column, text =>
      if column != indentation || text.isEmpty then some ⟨[], lastBreak, breaks, text⟩
      else
        let blank := (text.head?.map isBlank).getD false
        let line := text.takeWhile (!isBreak ·)
        let rest := text.dropWhile (!isBreak ·)
        match readEmptyLines (some indentation) 0 0 [] (rest.drop 1) with
        | none => none
        | some lines =>
            (readBlockLines folded indentation limit blank (rest.take 1) lines.breaks lines.column
              lines.rest).map fun block =>
                { block with
                  text := blockGap folded previousBlank blank lastBreak breaks ++ line ++ block.text }

/-- Reads a block after the character that introduces it.  Its lines are indented
by at least `margin`. -/
def readBlock (folded : Bool) (margin : Nat) (text : List Char) : Option Reading := do
  let (chomping, asked, rest) ← readIndicators text
  let rest ← skipLineEnd rest
  let indentation? := asked.map fun indentation => max margin 1 - 1 + indentation
  let lines ← readEmptyLines indentation? 0 0 [] rest
  let indentation := indentation?.getD (max lines.widest (max margin 1))
  let block ←
    readBlockLines folded indentation (text.length + 1) false [] lines.breaks lines.column lines.rest
  let ending :=
    match chomping with
    | .strip => []
    | .clip => block.lastBreak
    | .keep => block.lastBreak ++ block.breaks
  pure (block.text ++ ending, block.rest)

end RuntimeConsole.Yaml
