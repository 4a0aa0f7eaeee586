/-
Module: RuntimeConsole.Text.Case
Purpose: Lower and upper case of characters, and of whole texts.
Main exports:
  lowerChar, upperChar, lower
-/
import RuntimeConsole.Text.CaseTable

namespace RuntimeConsole.Text

/-- The image of a code point under a table: an expansion if it has one, else
its run's shift, else itself. -/
def mapCase (runs : List CaseRun) (expansions : List (Nat × List Nat)) (c : Char) :
    List Char :=
  match expansions.find? fun entry => entry.1 == c.toNat with
  | some entry => entry.2.map Char.ofNat
  | none =>
      match runs.find? fun run => run.covers c.toNat with
      | some run => [Char.ofNat (Int.toNat (c.toNat + run.shift))]
      | none => [c]

/-- The lower-case form of one character, which may take several. -/
def lowerChar (c : Char) : List Char :=
  mapCase lowerRuns lowerExpansions c

/-- The upper-case form of one character, which may take several. -/
def upperChar (c : Char) : List Char :=
  mapCase upperRuns upperExpansions c

/-- Whether a code point lies in one of the ranges. -/
def inRanges (ranges : List (Nat × Nat)) (c : Char) : Bool :=
  ranges.any fun range => range.1 ≤ c.toNat && c.toNat ≤ range.2

/-- Whether a letter that has case comes first, case-ignorable characters
skipped. -/
def casedFollows (text : List Char) : Bool :=
  match text.dropWhile (inRanges caseIgnorableRanges) with
  | [] => false
  | c :: _ => inRanges casedRanges c

/-- The capital sigma, whose lower-case form depends on its place in the word. -/
def capitalSigma : Char := 'Σ'

/-- Lower case of a text; `before` holds in reverse what precedes it.  A capital
sigma at the end of a word becomes a final sigma. -/
def lowerFrom (before : List Char) : List Char → List Char
  | [] => []
  | c :: rest =>
      let image :=
        if c == capitalSigma then
          if casedFollows before && !casedFollows rest then ['ς'] else ['σ']
        else lowerChar c
      image ++ lowerFrom (c :: before) rest

/-- Lower case of a text. -/
def lower (text : List Char) : List Char :=
  lowerFrom [] text

end RuntimeConsole.Text
