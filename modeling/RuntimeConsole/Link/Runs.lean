/-
Module: RuntimeConsole.Link.Runs
Purpose: The paths of a line in plain words, where the slash separates directories: every run
  of path characters is one, all of it, if it has a slash before its last character.
Main exports:
  separatesInside, numberAfter, LinkMatch.ofRun, scanRuns
-/
import RuntimeConsole.Link.Grammar

namespace RuntimeConsole

/-- Whether a slash stands in a run, its last character apart. -/
def separatesInside (run : List Char) : Bool :=
  run.dropLast.contains '/'

/-- A colon and the digits after it, nothing if there is none of either. -/
def numberAfter : List Char → List Char
  | ':' :: c :: rest =>
      if Text.isDecimalDigit c then ':' :: (c :: rest).takeWhile Text.isDecimalDigit else []
  | _ => []

/-- The link at a column made of a run and of what gives its line number. -/
def LinkMatch.ofRun (column : Nat) (run number : List Char) : LinkMatch where
  text := String.ofList (run ++ number)
  path := String.ofList run
  line := (Text.readBounded? UInt32.size (number.drop 1)).map UInt32.ofNat
  start := column
  stop := column + run.length + number.length

/-- The links of a text that begins at a column, from left to right, where paths are made of
characters of a class.  The next run of such characters goes as far as it can, and begins at once
where the text begins inside of one.  What follows a link, its line number included, is searched
anew. -/
def scanRuns (pathChar : Char → Bool) (column : Nat) : List Char → List LinkMatch
  | [] => []
  | c :: rest =>
      if pathChar c then
        let run := c :: rest.takeWhile pathChar
        let after := rest.dropWhile pathChar
        if separatesInside run then
          let number := numberAfter after
          LinkMatch.ofRun column run number ::
            scanRuns pathChar (column + run.length + number.length) (after.drop number.length)
        else scanRuns pathChar (column + run.length) after
      else scanRuns pathChar (column + 1) rest
termination_by text => text.length
decreasing_by
  all_goals
    have := (List.dropWhile_sublist pathChar (l := rest)).length_le
    simp only [List.length_drop, List.length_cons]
    omega

end RuntimeConsole
