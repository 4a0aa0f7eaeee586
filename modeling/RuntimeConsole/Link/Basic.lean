/-
Module: RuntimeConsole.Link.Basic
Purpose: Places in source files, as they are found in terminal output.
Main exports:
  LinkMatch, LinkMatch.openLine, LinkMatch.containsCol
-/

namespace RuntimeConsole

/-- A stretch of a line that looks like a path, with or without a line number. -/
structure LinkMatch where
  /-- The whole stretch. -/
  text : String
  /-- The stretch without the line number. -/
  path : String
  /-- The line number, counted from one. -/
  line : Option UInt32
  /-- The column of the first character. -/
  start : Nat
  /-- The column after the last character. -/
  stop : Nat
deriving Repr, DecidableEq, Inhabited

namespace LinkMatch

/-- The line to open, counted from zero: the top of the file if the stretch
names none. -/
def openLine (link : LinkMatch) : UInt32 :=
  match link.line with
  | some n => if n = 0 then 0 else n - 1
  | none => 0

/-- Whether a column belongs to the stretch. -/
def containsCol (link : LinkMatch) (col : Nat) : Bool :=
  link.start ≤ col && col < link.stop

end LinkMatch

end RuntimeConsole
