/-
Module: RuntimeConsole.Link.WindowsPath
Purpose: The paths that are written where there are drives, in plain words: a beginning, and at
  least one segment behind a backslash or a slash.
Main exports:
  WindowsSegment, WindowsRoot, WindowsStep, WindowsPath, WindowsPath.chars, numberSuffix
-/
import RuntimeConsole.Link.Grammar

namespace RuntimeConsole

/-- A segment of a path.  Backslashes, which the search takes for characters of segments, are not
among its own. -/
structure WindowsSegment where
  chars : List Char
  nonempty : chars ≠ []
  plain : ∀ c ∈ chars, isWindowsPathChar c = true ∧ c ≠ '\\'

/-- Segments can be told by a look at their characters. -/
theorem WindowsSegment.plain_of_all {chars : List Char}
    (checked : (chars.all fun c => isWindowsPathChar c && c != '\\') = true) :
    ∀ c ∈ chars, isWindowsPathChar c = true ∧ c ≠ '\\' := by
  simpa using checked

/-- What a path begins with. -/
inductive WindowsRoot where
  | drive (letter : Char) (ascii : letter.isAlpha = true)
  /-- The directory one is in. -/
  | here
  /-- The directory above. -/
  | parent
  | home
  /-- The name of a server, behind two backslashes. -/
  | server (name : WindowsSegment)
  | segment (name : WindowsSegment)
  /-- Nothing: the path begins with a separator. -/
  | none

/-- The characters of a beginning. -/
def WindowsRoot.chars : WindowsRoot → List Char
  | drive letter _ => [letter, ':']
  | here => ['.']
  | parent => ['.', '.']
  | home => ['~']
  | server name => '\\' :: '\\' :: name.chars
  | segment name => name.chars
  | none => []

/-- A segment and what separates it from what comes before. -/
structure WindowsStep where
  /-- Whether it is a backslash and not a slash. -/
  backslash : Bool
  segment : WindowsSegment

/-- The characters of a step. -/
def WindowsStep.chars (step : WindowsStep) : List Char :=
  (if step.backslash then '\\' else '/') :: step.segment.chars

/-- A path: a beginning and at least one step from there. -/
structure WindowsPath where
  root : WindowsRoot
  first : WindowsStep
  others : List WindowsStep

/-- The characters of a path. -/
def WindowsPath.chars (path : WindowsPath) : List Char :=
  path.root.chars ++ (path.first :: path.others).flatMap WindowsStep.chars

/-- How the number of a line is written behind a path. -/
def numberSuffix : Option UInt32 → List Char
  | none => []
  | some n => ':' :: Text.showNat n.toNat

end RuntimeConsole
