/-
Module: RuntimeConsole.Screen.Operation
Purpose: Everything a grid can be told, by the stream of a display or directly, one thing at a
  time, and runs of such uses.
Main exports:
  GridOperation, DisplayUse, Display.use, Display.useAll, Display.useAll?
-/
import RuntimeConsole.Screen.Event

namespace RuntimeConsole

/-- What a grid can be told directly, beside what happens to every display. -/
inductive GridOperation where
  | put (c : Char)
  | lineFeed
  | carriageReturn
  | eraseInRow (row start stop : UInt16)
  | eraseRows (start stop : UInt16)
  /-- The cursor is overwritten, be it with one that is not on the screen. -/
  | setCursor (cursor : Cursor)
deriving Repr, DecidableEq, Inhabited

/-- A use of a display and the grid in it. -/
inductive DisplayUse where
  | event (event : DisplayEvent)
  | operation (operation : GridOperation)
deriving Repr, DecidableEq, Inhabited

/-- The size a use gives to the screen. -/
def DisplayUse.given : DisplayUse → Option Size
  | .event happened => happened.given
  | .operation _ => none

namespace Grid

/-- The grid with another cursor.  A pending wrap does not survive. -/
def setCursor (grid : Grid) (cursor : Cursor) : Grid :=
  { grid with cursor := cursor, wrapPending := false }

/-- The grid after an operation, if no coordinate on the way takes more than sixteen bits. -/
def operate? (grid : Grid) : GridOperation → Option Grid
  | .put c => grid.put? c
  | .lineFeed => grid.lineFeed?
  | .carriageReturn => some grid.carriageReturn
  | .eraseInRow row start stop => some (grid.eraseInRow row start stop)
  | .eraseRows start stop => some (grid.eraseRows start stop)
  | .setCursor cursor => some (grid.setCursor cursor)

/-- The grid after an operation. -/
def operate (grid : Grid) (operation : GridOperation) : Grid :=
  grid.orOverflow (grid.operate? operation)

end Grid

namespace Display

/-- The display after a use. -/
def use (display : Display) : DisplayUse → Display
  | .event event => display.apply event
  | .operation operation => display.onGrid fun grid => grid.operate operation

/-- The display after several uses. -/
def useAll (display : Display) (uses : List DisplayUse) : Display :=
  uses.foldl use display

/-- The display after a use, if no coordinate on the way takes more than sixteen bits. -/
def use? (display : Display) : DisplayUse → Option Display
  | .event (.byte byte) => display.feedByte? byte
  | .event event => some (display.apply event)
  | .operation operation =>
      (display.grid.operate? operation).map fun grid => { display with grid := grid }

/-- The display after several uses, if no coordinate on the way takes more than sixteen bits. -/
def useAll? (display : Display) (uses : List DisplayUse) : Option Display :=
  uses.foldlM use? display

theorem useAll_concat (display : Display) (uses : List DisplayUse) (use : DisplayUse) :
    display.useAll (uses ++ [use]) = (display.useAll uses).use use := by
  rw [useAll, List.foldl_append]
  rfl

end Display

end RuntimeConsole
