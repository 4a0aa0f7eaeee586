/-
Module: RuntimeConsole.Screen.Grid
Purpose: The cells of a screen, its cursor, and the lines that left it.
Main exports:
  Cursor, Grid, and the operations on grids
-/
import RuntimeConsole.Config.Settings
import RuntimeConsole.Geometry
import RuntimeConsole.Text.Blank

namespace RuntimeConsole

/-- A cursor. -/
structure Cursor where
  position : Position
  visible : Bool
  style : CursorStyle
deriving Repr, DecidableEq, Inhabited

/-- A visible block in the top-left corner. -/
def Cursor.initial : Cursor := ⟨.origin, true, .block⟩

/-- A screen and the lines that left it at the top.

Coordinates are sixteen bits wide.  Where the next one would need more the program
stops, so a grid that has overflowed is the last there is. -/
structure Grid where
  /-- The rows of the screen, from top to bottom. -/
  rows : List (List Char)
  size : Size
  cursor : Cursor
  /-- The cursor to be restored. -/
  saved : Option Cursor
  /-- Whether the last column has been printed into, so that the next character
  goes to the next row. -/
  wrapPending : Bool
  /-- The lines that left the screen, oldest first. -/
  scrollback : List (List Char)
  /-- The number of lines kept after they left the screen. -/
  scrollbackLimit : Nat
  /-- Whether a coordinate would have needed more than sixteen bits. -/
  overflowed : Bool
deriving Repr, DecidableEq, Inhabited

/-- The last items of a list, at most `limit`. -/
def keepLast {α : Type} (limit : Nat) (items : List α) : List α :=
  items.drop (items.length - limit)

/-- A row of blanks. -/
def blankRow (cols : UInt16) : List Char :=
  List.replicate cols.toNat ' '

/-- Rows of blanks. -/
def blankRows (size : Size) : List (List Char) :=
  List.replicate size.rows.toNat (blankRow size.cols)

/-- The cells with those from `start` to before `stop` blanked. -/
def eraseCells (start stop : Nat) (cells : List Char) : List Char :=
  cells.mapIdx fun col c => if start ≤ col ∧ col < stop then ' ' else c

/-- Cells laid on others from the first on: where `below` goes on after `above`
ends it shows, and what of `above` has nothing below it is lost. -/
def overlay {α : Type} : (above below : List α) → List α
  | _, [] => []
  | [], below => below
  | cell :: above, _ :: below => cell :: overlay above below

namespace Grid

open Coordinate

/-- A blank screen. -/
def blank (size : Size) (scrollbackLimit : Nat) : Grid where
  rows := blankRows size
  size := size
  cursor := .initial
  saved := none
  wrapPending := false
  scrollback := []
  scrollbackLimit := scrollbackLimit
  overflowed := false

/-- The last row of the screen. -/
def lastRow (grid : Grid) : UInt16 :=
  if grid.size.rows = 0 then 0 else grid.size.rows - 1

/-- The last column of the screen. -/
def lastCol (grid : Grid) : UInt16 :=
  if grid.size.cols = 0 then 0 else grid.size.cols - 1

/-- The character in a cell of the screen. -/
def charAt? (grid : Grid) (row col : UInt16) : Option Char :=
  grid.rows[row.toNat]?.bind fun cells => cells[col.toNat]?

/-- The text of a row, without the blanks at its end. -/
def rowText? (grid : Grid) (row : UInt16) : Option (List Char) :=
  grid.rows[row.toNat]?.map Text.trimEnd

/-- The texts of all rows. -/
def visibleLines (grid : Grid) : List (List Char) :=
  (grid.rows.take grid.size.rows.toNat).map Text.trimEnd

/-- The lines that left the screen and those on it, without the empty ones at
the end. -/
def plainLines (grid : Grid) : List (List Char) :=
  ((grid.scrollback ++ grid.visibleLines).reverse.dropWhile List.isEmpty).reverse

/-- The plain text of the lines that left the screen and those on it. -/
def plainText (grid : Grid) : List Char :=
  ['\n'].intercalate grid.plainLines

/-- The grid with its cursor moved.  A pending wrap does not survive a move. -/
def moveTo (grid : Grid) (row col : UInt16) : Grid :=
  { grid with
    cursor := { grid.cursor with position := ⟨row, col⟩ }
    wrapPending := false }

/-- The grid with a cursor of another shape.  A pending wrap does not survive. -/
def setStyle (grid : Grid) (style : CursorStyle) : Grid :=
  { grid with cursor := { grid.cursor with style := style }, wrapPending := false }

/-- The grid with its cursor shown or hidden.  A pending wrap does not survive. -/
def setVisible (grid : Grid) (visible : Bool) : Grid :=
  { grid with cursor := { grid.cursor with visible := visible }, wrapPending := false }

/-- Moves the rows of the screen up by one.  The topmost joins the lines that
left the screen, as many of them as are kept. -/
def scrollUp (grid : Grid) : Grid :=
  match grid.rows with
  | [] => grid
  | top :: rest =>
      { grid with
        rows := rest ++ [blankRow grid.size.cols]
        scrollback := keepLast grid.scrollbackLimit (grid.scrollback ++ [Text.trimEnd top]) }

/-- Moves the cursor to the first column. -/
def carriageReturn (grid : Grid) : Grid :=
  grid.moveTo grid.cursor.position.row 0

/-- The grid with a character in a cell.  Outside the screen there is nothing to
put it into. -/
def setCell (grid : Grid) (row col : UInt16) (c : Char) : Grid :=
  { grid with rows := grid.rows.modify row.toNat fun cells => cells.set col.toNat c }

/-- Moves the cursor to the row after its own.  From the last row the screen moves up
instead. -/
def descend (grid : Grid) (next : UInt16) : Grid :=
  if next ≥ grid.size.rows then grid.scrollUp else grid.moveTo next grid.cursor.position.col

/-- Moves the cursor to the column after its own.  In the last column it stays, and a
wrap is pending. -/
def advance (grid : Grid) (next : UInt16) : Grid :=
  if next ≥ grid.size.cols then { grid with wrapPending := true }
  else { grid with cursor := { grid.cursor with position := ⟨grid.cursor.position.row, next⟩ } }

/-- Moves the cursor down by one row, if that row has a number. -/
def lineFeed? (grid : Grid) : Option Grid :=
  (add? grid.cursor.position.row 1).map fun next =>
    { grid with wrapPending := false }.descend next

/-- Carries out a pending wrap. -/
def wrap? (grid : Grid) : Option Grid :=
  if grid.wrapPending then grid.carriageReturn.lineFeed? else some grid

/-- Puts a character at the cursor and moves the cursor on, if the next column has a
number. -/
def put? (grid : Grid) (c : Char) : Option Grid :=
  grid.wrap?.bind fun wrapped =>
    (add? wrapped.cursor.position.col 1).map fun next =>
      (wrapped.setCell wrapped.cursor.position.row wrapped.cursor.position.col c).advance next

/-- The grid after what can only be done with coordinates of sixteen bits.  If it
cannot be done, the grid stays as it is, but for the note of that. -/
def orOverflow (grid : Grid) (after : Option Grid) : Grid :=
  after.getD { grid with overflowed := true }

/-- The grid after a line feed. -/
def lineFeed (grid : Grid) : Grid := grid.orOverflow grid.lineFeed?

/-- The grid after a pending wrap. -/
def wrap (grid : Grid) : Grid := grid.orOverflow grid.wrap?

/-- The grid with a character put at the cursor. -/
def put (grid : Grid) (c : Char) : Grid := grid.orOverflow (grid.put? c)

@[simp] theorem orOverflow_some (grid after : Grid) : grid.orOverflow (some after) = after := rfl

/-- What holds of the grid with the note, and of every grid that can be reached, holds. -/
theorem orOverflow_induction {motive : Grid → Prop} {grid : Grid} {after : Option Grid}
    (stays : motive { grid with overflowed := true })
    (goesOn : ∀ reached, after = some reached → motive reached) :
    motive (grid.orOverflow after) := by
  cases after with
  | none => exact stays
  | some reached => exact goesOn reached rfl

/-- The same for what depends on one coordinate. -/
theorem orOverflow_map {motive : Grid → Prop} {grid : Grid} {coordinate : Option UInt16}
    {after : UInt16 → Grid} (stays : motive { grid with overflowed := true })
    (goesOn : ∀ next, coordinate = some next → motive (after next)) :
    motive (grid.orOverflow (coordinate.map after)) := by
  cases coordinate with
  | none => exact stays
  | some next => exact goesOn next rfl

theorem lineFeed_of_next {grid : Grid} {next : UInt16}
    (found : add? grid.cursor.position.row 1 = some next) :
    grid.lineFeed = { grid with wrapPending := false }.descend next := by
  rw [lineFeed, lineFeed?, found]
  rfl

theorem put_of_next {grid wrapped : Grid} {next : UInt16} (done : grid.wrap? = some wrapped)
    (found : add? wrapped.cursor.position.col 1 = some next) (c : Char) :
    grid.put c =
      (wrapped.setCell wrapped.cursor.position.row wrapped.cursor.position.col c).advance
        next := by
  rw [put, put?, done, Option.bind_some, found]
  rfl

/-- What a line feed can come to. -/
theorem lineFeed_induction {motive : Grid → Prop} {grid : Grid}
    (stays : motive { grid with overflowed := true })
    (goesOn : ∀ next, add? grid.cursor.position.row 1 = some next →
      motive ({ grid with wrapPending := false }.descend next)) :
    motive grid.lineFeed :=
  orOverflow_map stays goesOn

/-- What a pending wrap can come to. -/
theorem wrap_induction {motive : Grid → Prop} {grid : Grid}
    (stays : motive { grid with overflowed := true })
    (fed : motive grid.carriageReturn.lineFeed) (same : motive grid) : motive grid.wrap := by
  unfold wrap wrap?
  split
  · refine orOverflow_induction stays fun reached done => ?_
    rwa [lineFeed, done] at fed
  · exact same

/-- What printing a character can come to. -/
theorem put_induction {motive : Grid → Prop} {grid : Grid} {c : Char}
    (stays : motive { grid with overflowed := true })
    (goesOn : ∀ next, add? grid.wrap.cursor.position.col 1 = some next →
      motive ((grid.wrap.setCell grid.wrap.cursor.position.row grid.wrap.cursor.position.col
        c).advance next)) :
    motive (grid.put c) := by
  cases done : grid.wrap? with
  | none =>
      rw [put, put?, done]
      exact stays
  | some wrapped =>
      have same : grid.wrap = wrapped := by rw [wrap, done, orOverflow_some]
      rw [same] at goesOn
      rw [put, put?, done]
      exact orOverflow_map stays goesOn

/-- From a row of the screen a line feed is always possible. -/
theorem lineFeed?_eq {grid : Grid} (inside : grid.cursor.position.row < grid.size.rows) :
    grid.lineFeed? = some grid.lineFeed := by
  rw [lineFeed_of_next (add?_one inside), lineFeed?, add?_one inside]
  rfl

theorem wrap?_eq {grid : Grid} (inside : grid.cursor.position.row < grid.size.rows) :
    grid.wrap? = some grid.wrap := by
  have returned : grid.carriageReturn.lineFeed? = some grid.carriageReturn.lineFeed :=
    lineFeed?_eq inside
  unfold wrap wrap?
  rw [returned]
  cases grid.wrapPending <;> rfl

theorem wrap_eq {grid : Grid} (inside : grid.cursor.position.row < grid.size.rows) :
    grid.wrap = if grid.wrapPending then grid.carriageReturn.lineFeed else grid := by
  have returned : grid.carriageReturn.lineFeed? = some grid.carriageReturn.lineFeed :=
    lineFeed?_eq inside
  unfold wrap wrap?
  rw [returned]
  cases grid.wrapPending <;> rfl

/-- Blanks the cells of a row from `start` to before `stop`. -/
def eraseInRow (grid : Grid) (row start stop : UInt16) : Grid :=
  { grid with rows := grid.rows.modify row.toNat (eraseCells start.toNat stop.toNat) }

/-- Blanks the rows from `start` to before `stop`. -/
def eraseRows (grid : Grid) (start stop : UInt16) : Grid :=
  { grid with
    rows := grid.rows.mapIdx fun row cells =>
      if start.toNat ≤ row ∧ row < min stop.toNat grid.size.rows.toNat then
        eraseCells 0 grid.size.cols.toNat cells
      else cells }

/-- Remembers the cursor. -/
def saveCursor (grid : Grid) : Grid :=
  { grid with saved := some grid.cursor }

/-- Brings back the cursor remembered last, if it has not been brought back
since. -/
def restoreCursor (grid : Grid) : Grid :=
  match grid.saved with
  | none => grid
  | some cursor => { grid with cursor := cursor, saved := none, wrapPending := false }

/-- Drops every line but the one the cursor is on, which becomes the first of
the screen. -/
def clear (grid : Grid) : Grid :=
  let current := grid.rows[grid.cursor.position.row.toNat]?.getD (blankRow grid.size.cols)
  { grid with
    rows := overlay [current] (blankRows grid.size)
    cursor := { grid.cursor with position := ⟨0, grid.cursor.position.col⟩ }
    scrollback := [] }

/-- Gives the screen another size.  The cells in the top-left corner that both
sizes have are kept, and the cursor stays on the screen if there is one. -/
def resize (grid : Grid) (size : Size) : Grid :=
  let position := grid.cursor.position
  let row := if size.rows = 0 then position.row else min position.row (size.rows - 1)
  let col := if size.cols = 0 then position.col else min position.col (size.cols - 1)
  { grid with
    rows :=
      overlay (grid.rows.map fun cells => overlay cells (blankRow size.cols)) (blankRows size)
    size := size
    cursor := { grid.cursor with position := ⟨row, col⟩ }
    wrapPending := false }

end Grid

end RuntimeConsole
