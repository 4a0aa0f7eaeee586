/-
Module: RuntimeConsole.Screen.Display
Purpose: What the instructions of a byte stream do to a grid.
Main exports:
  Grid.perform?, Grid.perform, Display, Display.feed, Display.feed?
-/
import RuntimeConsole.Screen.Control
import RuntimeConsole.Screen.Grid

namespace RuntimeConsole

namespace Grid

open Coordinate

/-- The distance between two tab stops. -/
def tabWidth : UInt16 := 8

/-- The tab stop after a column, if it has sixteen bits. -/
def nextStop? (col : UInt16) : Option UInt16 :=
  (add? (col / tabWidth) 1).bind fun next => mul? next tabWidth

theorem toNat_tabNumber (col : UInt16) : (col / tabWidth).toNat = col.toNat / 8 :=
  UInt16.toNat_div ..

/-- The number of the next tab stop has sixteen bits. -/
theorem toNat_nextTab (col : UInt16) : (col / tabWidth + 1).toNat = col.toNat / 8 + 1 := by
  have small := col.toNat_lt
  rw [UInt16.toNat_add, toNat_tabNumber]
  simp
  omega

/-- The tab stops behind the one at 65528 are beyond sixteen bits. -/
theorem nextStop?_eq (col : UInt16) :
    nextStop? col =
      if 65528 ≤ col.toNat then none else some ((col / tabWidth + 1) * tabWidth) := by
  have small := col.toNat_lt
  have next : add? (col / tabWidth) 1 = some (col / tabWidth + 1) := by
    rw [add?_eq, toNat_tabNumber, if_pos]
    simp
    omega
  rw [nextStop?, next, Option.bind_some, mul?_eq, toNat_nextTab]
  by_cases far : 65528 ≤ col.toNat
  · rw [if_pos far, if_neg]
    simp [tabWidth]
    omega
  · rw [if_neg far, if_pos]
    simp [tabWidth]
    omega

/-- Moves the cursor to the next tab stop, at most to the last column.  The stop itself
has to have sixteen bits, even where the last column comes before it. -/
def tab? (grid : Grid) : Option Grid :=
  (nextStop? grid.cursor.position.col).map fun stop =>
    grid.moveTo grid.cursor.position.row (min stop grid.lastCol)

/-- Moves the cursor one column back. -/
def backspace (grid : Grid) : Grid :=
  let position := grid.cursor.position
  grid.moveTo position.row (if position.col = 0 then 0 else position.col - 1)

/-- Carries out a control character. -/
def execute? (grid : Grid) (byte : UInt8) : Option Grid :=
  if byte == 0x08 then some grid.backspace
  else if byte == 0x09 then grid.tab?
  else if byte == 0x0A || byte == 0x0B || byte == 0x0C then grid.lineFeed?
  else if byte == 0x0D then some grid.carriageReturn
  else some grid

/-- The difference of two coordinates, at least zero. -/
def coordinateSub (a b : UInt16) : UInt16 :=
  if a ≤ b then 0 else a - b

/-- The sum of two coordinates, at most a bound. -/
def coordinateAdd (bound a b : UInt16) : UInt16 :=
  UInt16.ofNat (min (min 65535 (a.toNat + b.toNat)) bound.toNat)

/-- The first part of a parameter, if the sequence has that parameter. -/
def parameter? (parameters : List (List UInt16)) (index : Nat) : Option UInt16 :=
  parameters[index]?.bind List.head?

/-- How far a sequence moves the cursor: once if it does not say, or says not at
all. -/
def distance (parameters : List (List UInt16)) : UInt16 :=
  match parameter? parameters 0 with
  | some n => if n = 0 then 1 else n
  | none => 1

/-- A sequence moves the cursor by one column at least. -/
theorem one_le_distance (parameters : List (List UInt16)) : 1 ≤ distance parameters := by
  unfold distance
  split
  next n _ =>
      split
      next => exact UInt16.le_refl 1
      next some =>
          rw [UInt16.le_iff_toNat_le]
          exact Nat.pos_of_ne_zero fun none => some (UInt16.toNat_inj.mp none)
  next => exact UInt16.le_refl 1

/-- Blanks a part of the screen: after the cursor, before it, or all of it.  The
cell under the cursor belongs to each of them. -/
def eraseDisplay? (grid : Grid) (mode : UInt16) : Option Grid :=
  let position := grid.cursor.position
  if mode = 0 then
    (add? position.row 1).map fun next =>
      (grid.eraseInRow position.row position.col grid.size.cols).eraseRows next grid.size.rows
  else if mode = 1 then
    (add? position.col 1).map fun next =>
      (grid.eraseRows 0 position.row).eraseInRow position.row 0 next
  else if mode = 2 ∨ mode = 3 then some (grid.eraseRows 0 grid.size.rows)
  else some grid

/-- Blanks a part of the row of the cursor: after the cursor, before it, or all
of it. -/
def eraseLine? (grid : Grid) (mode : UInt16) : Option Grid :=
  let position := grid.cursor.position
  if mode = 0 then some (grid.eraseInRow position.row position.col grid.size.cols)
  else if mode = 1 then
    (add? position.col 1).map fun next => grid.eraseInRow position.row 0 next
  else if mode = 2 then some (grid.eraseInRow position.row 0 grid.size.cols)
  else some grid

/-- Moves the cursor to a row and a column counted from one, at most to the last
ones. -/
def moveToParameters (grid : Grid) (parameters : List (List UInt16)) : Grid :=
  let row := coordinateSub ((parameter? parameters 0).getD 1) 1
  let col := coordinateSub ((parameter? parameters 1).getD 1) 1
  grid.moveTo (min row grid.lastRow) (min col grid.lastCol)

/-- Carries out a control sequence that is not marked. -/
def control? (grid : Grid) (parameters : List (List UInt16)) (final : UInt8) : Option Grid :=
  let position := grid.cursor.position
  let mode := (parameter? parameters 0).getD 0
  match Char.ofNat final.toNat with
  | 'A' => some (grid.moveTo (coordinateSub position.row (distance parameters)) position.col)
  | 'B' =>
      some (grid.moveTo (coordinateAdd grid.lastRow position.row (distance parameters))
        position.col)
  | 'C' =>
      some (grid.moveTo position.row
        (coordinateAdd grid.lastCol position.col (distance parameters)))
  | 'D' => some (grid.moveTo position.row (coordinateSub position.col (distance parameters)))
  | 'G' =>
      (sub? (distance parameters) 1).map fun col =>
        grid.moveTo position.row (min col grid.lastCol)
  | 'H' | 'f' => some (grid.moveToParameters parameters)
  | 'J' => grid.eraseDisplay? mode
  | 'K' => grid.eraseLine? mode
  | 's' => some grid.saveCursor
  | 'u' => some grid.restoreCursor
  | _ => some grid

/-- Carries out an instruction.  Marked control sequences switch modes, which
leave the text alone. -/
def perform? (grid : Grid) : Instruction → Option Grid
  | .print c => grid.put? c
  | .execute byte => grid.execute? byte
  | .control parameters marked final =>
      if marked then some grid else grid.control? parameters final
  | .escape final =>
      if final == 0x37 then some grid.saveCursor
      else if final == 0x38 then some grid.restoreCursor
      else some grid

/-- The grid after a tab. -/
def tab (grid : Grid) : Grid := grid.orOverflow grid.tab?

/-- The grid after a control character. -/
def execute (grid : Grid) (byte : UInt8) : Grid := grid.orOverflow (grid.execute? byte)

/-- The grid with a part of the screen blanked. -/
def eraseDisplay (grid : Grid) (mode : UInt16) : Grid := grid.orOverflow (grid.eraseDisplay? mode)

/-- The grid with a part of the row of the cursor blanked. -/
def eraseLine (grid : Grid) (mode : UInt16) : Grid := grid.orOverflow (grid.eraseLine? mode)

/-- The grid after a control sequence that is not marked. -/
def control (grid : Grid) (parameters : List (List UInt16)) (final : UInt8) : Grid :=
  grid.orOverflow (grid.control? parameters final)

/-- The grid after an instruction. -/
def perform (grid : Grid) (instruction : Instruction) : Grid :=
  grid.orOverflow (grid.perform? instruction)

theorem execute_eq (grid : Grid) (byte : UInt8) :
    grid.execute byte =
      if byte == 0x08 then grid.backspace
      else if byte == 0x09 then grid.tab
      else if byte == 0x0A || byte == 0x0B || byte == 0x0C then grid.lineFeed
      else if byte == 0x0D then grid.carriageReturn
      else grid := by
  unfold execute execute?
  repeat' split
  all_goals rfl

theorem eraseDisplay_eq (grid : Grid) (mode : UInt16) :
    grid.eraseDisplay mode =
      if mode = 0 then
        grid.orOverflow ((add? grid.cursor.position.row 1).map fun next =>
          (grid.eraseInRow grid.cursor.position.row grid.cursor.position.col
            grid.size.cols).eraseRows next grid.size.rows)
      else if mode = 1 then
        grid.orOverflow ((add? grid.cursor.position.col 1).map fun next =>
          (grid.eraseRows 0 grid.cursor.position.row).eraseInRow grid.cursor.position.row 0 next)
      else if mode = 2 ∨ mode = 3 then grid.eraseRows 0 grid.size.rows
      else grid := by
  unfold eraseDisplay eraseDisplay?
  dsimp only
  repeat' split
  all_goals rfl

theorem eraseLine_eq (grid : Grid) (mode : UInt16) :
    grid.eraseLine mode =
      if mode = 0 then
        grid.eraseInRow grid.cursor.position.row grid.cursor.position.col grid.size.cols
      else if mode = 1 then
        grid.orOverflow ((add? grid.cursor.position.col 1).map fun next =>
          grid.eraseInRow grid.cursor.position.row 0 next)
      else if mode = 2 then grid.eraseInRow grid.cursor.position.row 0 grid.size.cols
      else grid := by
  unfold eraseLine eraseLine?
  dsimp only
  repeat' split
  all_goals rfl

/-- Only erasures can need a coordinate of more than sixteen bits. -/
theorem control_eq (grid : Grid) (parameters : List (List UInt16)) (final : UInt8) :
    grid.control parameters final =
      let position := grid.cursor.position
      let mode := (parameter? parameters 0).getD 0
      match Char.ofNat final.toNat with
      | 'A' => grid.moveTo (coordinateSub position.row (distance parameters)) position.col
      | 'B' =>
          grid.moveTo (coordinateAdd grid.lastRow position.row (distance parameters)) position.col
      | 'C' =>
          grid.moveTo position.row (coordinateAdd grid.lastCol position.col (distance parameters))
      | 'D' => grid.moveTo position.row (coordinateSub position.col (distance parameters))
      | 'G' => grid.moveTo position.row (min (distance parameters - 1) grid.lastCol)
      | 'H' | 'f' => grid.moveToParameters parameters
      | 'J' => grid.eraseDisplay mode
      | 'K' => grid.eraseLine mode
      | 's' => grid.saveCursor
      | 'u' => grid.restoreCursor
      | _ => grid := by
  unfold control control?
  rw [sub?_eq (one_le_distance parameters)]
  dsimp only
  split
  all_goals rfl

theorem perform_print (grid : Grid) (c : Char) : grid.perform (.print c) = grid.put c := rfl

theorem perform_control (grid : Grid) (parameters : List (List UInt16)) (marked : Bool)
    (final : UInt8) :
    grid.perform (.control parameters marked final) =
      if marked then grid else grid.control parameters final := by
  cases marked <;> rfl

theorem perform_escape (grid : Grid) (final : UInt8) :
    grid.perform (.escape final) =
      if final == 0x37 then grid.saveCursor
      else if final == 0x38 then grid.restoreCursor
      else grid := by
  unfold perform perform?
  dsimp only
  repeat' split
  all_goals rfl

end Grid

/-- A grid together with what its byte stream left unfinished. -/
structure Display where
  decoder : ControlDecoder
  grid : Grid
deriving Repr, DecidableEq, Inhabited

namespace Display

/-- A display that has shown nothing. -/
def ofGrid (grid : Grid) : Display := ⟨.initial, grid⟩

/-- Shows one byte of a stream. -/
def feedByte (display : Display) (byte : UInt8) : Display :=
  let (decoder, instructions) := display.decoder.step byte
  ⟨decoder, instructions.foldl Grid.perform display.grid⟩

/-- Shows the bytes of a stream.  Sequences may be split between calls at any
place. -/
def feed (display : Display) (bytes : List UInt8) : Display :=
  bytes.foldl feedByte display

/-- Shows one byte of a stream, if that can be done with coordinates of sixteen bits. -/
def feedByte? (display : Display) (byte : UInt8) : Option Display :=
  let (decoder, instructions) := display.decoder.step byte
  (instructions.foldlM Grid.perform? display.grid).map fun grid => ⟨decoder, grid⟩

/-- Shows the bytes of a stream, if that can be done with coordinates of sixteen bits. -/
def feed? (display : Display) (bytes : List UInt8) : Option Display :=
  bytes.foldlM feedByte? display

/-- Showing bytes in two pieces is showing them at once. -/
theorem feed_append (display : Display) (first second : List UInt8) :
    display.feed (first ++ second) = (display.feed first).feed second :=
  List.foldl_append ..

end Display

end RuntimeConsole
