/-
Module: RuntimeConsole.Screen.Tape
Purpose: A terminal that forgets nothing: rows without end, one below the other, and a
  window on them that only moves down.
Main exports:
  tabulate, Tape, Tape.perform, Tape.feed, Tape.toGrid
-/
import RuntimeConsole.Screen.Display

namespace RuntimeConsole

/-- Rows of cells, where every cell is known by its row and its column. -/
def tabulate {Item : Type} (height width : Nat) (cell : Nat → Nat → Item) : List (List Item) :=
  (List.range height).map fun row => (List.range width).map (cell row)

/-- A terminal with rows without end.  Coordinates are plain numbers, and rows are counted
from the first one there ever was, so nothing that is shown ever has to move: where the
rows of a screen move up, the window moves down instead. -/
structure Tape where
  /-- The character in the cell of a row and a column. -/
  cell : Nat → Nat → Char
  /-- The number of rows in the window. -/
  height : Nat
  width : Nat
  /-- The first row in the window. -/
  top : Nat
  /-- The row of the cursor. -/
  row : Nat
  /-- The column of the cursor. -/
  col : Nat
  /-- The cursor to be restored: how far it was below the top of the window, and its
  column. -/
  saved : Option (Nat × Nat)
  /-- Whether the row of the cursor is full, so that the next character goes to the next
  row. -/
  full : Bool

namespace Tape

/-- Blank rows, with the window on the first of them. -/
def blank (size : Size) : Tape where
  cell _ _ := ' '
  height := size.rows.toNat
  width := size.cols.toNat
  top := 0
  row := 0
  col := 0
  saved := none
  full := false

/-! ### What is on the tape -/

/-- So many rows, from a first one on. -/
def lines (tape : Tape) (first count : Nat) : List (List Char) :=
  tabulate count tape.width fun row col => tape.cell (first + row) col

/-- The rows in the window. -/
def window (tape : Tape) : List (List Char) :=
  tape.lines tape.top tape.height

/-- The rows above the window. -/
def above (tape : Tape) : List (List Char) :=
  tape.lines 0 tape.top

/-- Whether the cursor is in the window. -/
def CursorInside (tape : Tape) : Prop :=
  tape.top ≤ tape.row ∧ tape.row < tape.top + tape.height ∧ tape.col < tape.width

/-! ### Operations -/

/-- The tape with its cursor moved. -/
def moveTo (tape : Tape) (row col : Nat) : Tape :=
  { tape with row := row, col := col, full := false }

/-- Moves the cursor to the next row, and the window after it if it has to. -/
def lineFeed (tape : Tape) : Tape :=
  { tape with
    row := tape.row + 1
    top := max tape.top (tape.row + 2 - tape.height)
    full := false }

/-- The tape after a full row, if the row is full. -/
def wrap (tape : Tape) : Tape :=
  if tape.full then (tape.moveTo tape.row 0).lineFeed else tape

/-- The tape with a character in the cell under the cursor. -/
def write (tape : Tape) (c : Char) : Tape :=
  { tape with
    cell := fun row col => if row = tape.row ∧ col = tape.col then c else tape.cell row col }

/-- Moves the cursor past the cell under it.  The last column makes the row full. -/
def forward (tape : Tape) : Tape :=
  if tape.col + 1 < tape.width then { tape with col := tape.col + 1 }
  else { tape with full := true }

/-- Prints a character. -/
def print (tape : Tape) (c : Char) : Tape :=
  (tape.wrap.write c).forward

/-- Blanks the cells of the window for which something holds. -/
def erase (tape : Tape) (region : Nat → Nat → Prop) [DecidableRel region] : Tape :=
  { tape with
    cell := fun row col =>
      if (tape.top ≤ row ∧ row < tape.top + tape.height) ∧ region row col then ' '
      else tape.cell row col }

/-- Blanks the window after the cursor, before it, or as a whole. -/
def eraseWindow (tape : Tape) (mode : UInt16) : Tape :=
  match mode.toNat with
  | 0 => tape.erase fun row col => tape.row < row ∨ tape.row = row ∧ tape.col ≤ col
  | 1 => tape.erase fun row col => row < tape.row ∨ row = tape.row ∧ col ≤ tape.col
  | 2 | 3 => tape.erase fun _ _ => True
  | _ => tape

/-- Blanks the row of the cursor after the cursor, before it, or as a whole. -/
def eraseRow (tape : Tape) (mode : UInt16) : Tape :=
  match mode.toNat with
  | 0 => tape.erase fun row col => row = tape.row ∧ tape.col ≤ col
  | 1 => tape.erase fun row col => row = tape.row ∧ col ≤ tape.col
  | 2 => tape.erase fun row _ => row = tape.row
  | _ => tape

/-- Remembers the cursor. -/
def save (tape : Tape) : Tape :=
  { tape with saved := some (tape.row - tape.top, tape.col) }

/-- Brings back the cursor remembered last, where it was in the window. -/
def restore (tape : Tape) : Tape :=
  match tape.saved with
  | none => tape
  | some (depth, col) => { tape.moveTo (tape.top + depth) col with saved := none }

/-! ### Instructions -/

/-- Carries out a control character: a step back, a step to the next multiple of eight
columns, a line feed, or a return to the first column. -/
def execute (tape : Tape) (byte : UInt8) : Tape :=
  match byte.toNat with
  | 0x08 => tape.moveTo tape.row (tape.col - 1)
  | 0x09 => tape.moveTo tape.row (min (tape.col / 8 * 8 + 8) (tape.width - 1))
  | 0x0A | 0x0B | 0x0C => tape.lineFeed
  | 0x0D => tape.moveTo tape.row 0
  | _ => tape

/-- The number a sequence gives at a place, if it gives one there. -/
def argument (parameters : List (List UInt16)) (place absent : Nat) : Nat :=
  ((parameters[place]?.bind List.head?).map UInt16.toNat).getD absent

/-- Carries out a control sequence. -/
def control (tape : Tape) (parameters : List (List UInt16)) (final : Char) : Tape :=
  let count := max 1 (argument parameters 0 1)
  let mode := ((parameters[0]?.bind List.head?).getD 0)
  let bottom := tape.top + (tape.height - 1)
  let lastCol := tape.width - 1
  match final with
  | 'A' => tape.moveTo (max tape.top (tape.row - count)) tape.col
  | 'B' => tape.moveTo (min bottom (tape.row + count)) tape.col
  | 'C' => tape.moveTo tape.row (min lastCol (tape.col + count))
  | 'D' => tape.moveTo tape.row (tape.col - count)
  | 'G' => tape.moveTo tape.row (min lastCol (count - 1))
  | 'H' | 'f' =>
      tape.moveTo (min bottom (tape.top + (argument parameters 0 1 - 1)))
        (min lastCol (argument parameters 1 1 - 1))
  | 'J' => tape.eraseWindow mode
  | 'K' => tape.eraseRow mode
  | 's' => tape.save
  | 'u' => tape.restore
  | _ => tape

/-- Carries out an instruction. -/
def perform (tape : Tape) : Instruction → Tape
  | .print c => tape.print c
  | .execute byte => tape.execute byte
  | .control parameters marked final =>
      if marked then tape else tape.control parameters (Char.ofNat final.toNat)
  | .escape final =>
      match final.toNat with
      | 0x37 => tape.save
      | 0x38 => tape.restore
      | _ => tape

/-- Carries out the instructions of a byte stream from its beginning. -/
def feed (tape : Tape) (bytes : List UInt8) : Tape :=
  (ControlDecoder.initial.run bytes).2.foldl perform tape

/-! ### The screen that shows the window -/

/-- A cursor of the usual form so far below the top of the screen. -/
def cursorAt (depth col : Nat) : Cursor :=
  { Cursor.initial with position := ⟨.ofNat depth, .ofNat col⟩ }

/-- The screen that shows the window and remembers the last rows above it, without the
blanks at their ends. -/
def toGrid (tape : Tape) (limit : Nat) : Grid where
  rows := tape.window
  size := ⟨.ofNat tape.height, .ofNat tape.width⟩
  cursor := cursorAt (tape.row - tape.top) tape.col
  saved := tape.saved.map fun cursor => cursorAt cursor.1 cursor.2
  wrapPending := tape.full
  scrollback := keepLast limit (tape.above.map Text.trimEnd)
  scrollbackLimit := limit
  overflowed := false

end Tape

end RuntimeConsole
