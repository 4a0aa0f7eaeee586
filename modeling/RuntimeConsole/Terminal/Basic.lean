/-
Module: RuntimeConsole.Terminal.Basic
Purpose: Terminals: a display, what is attached to it, and who watches it.
Main exports:
  Terminal, LineChange, LineListener, KeyFilter, StartHandler
-/
import RuntimeConsole.Json.Basic
import RuntimeConsole.Keyboard.AllowList
import RuntimeConsole.Screen.Display
import RuntimeConsole.Terminal.Identity

namespace RuntimeConsole

/-- A row of the screen that shows another text than before. -/
structure LineChange where
  row : UInt16
  text : List Char
deriving Repr, DecidableEq, Inhabited

/-- Who is told about changed rows. -/
inductive LineListener where
  /-- A link resolver, known by its number. -/
  | resolver (id : Nat)
  /-- Code of the embedding program, known by a label. -/
  | guest (label : Json)
deriving Repr, DecidableEq, Inhabited

/-- Which key events a terminal leaves to the editor. -/
inductive KeyFilter where
  /-- Those on the allow-list in force for a kind of terminal. -/
  | lists (kind : TerminalClass)
  /-- Those on a list of its own. -/
  | fixed (list : AllowList)
deriving Repr, DecidableEq, Inhabited

/-- Who is asked to start a process when the user presses enter and none is
attached. -/
inductive StartHandler where
  | session
  /-- Code of the embedding program, known by a label. -/
  | guest (label : Json)
deriving Repr, DecidableEq, Inhabited

/-- How a terminal is set up. -/
structure TerminalOptions where
  title : String
  styleClass : String
  size : Size
  scrollback : Nat
  cursorStyle : CursorStyle
deriving Repr, DecidableEq, Inhabited

/-- How a terminal is set up where nothing else is asked for. -/
def TerminalOptions.standard : TerminalOptions :=
  ⟨"Terminal", "julia-terminal", .standard, 5000, .block⟩

/-- A terminal. -/
structure Terminal where
  id : TerminalId
  title : String
  styleClass : String
  display : Display
  /-- The number of the stream attached. -/
  stream : Option Nat
  /-- The texts of the rows as the listeners know them. -/
  scanned : List (List Char)
  /-- The ends of the selection, in reading order. -/
  selection : Option (Position × Position)
  keyFilter : Option KeyFilter
  startHandler : Option StartHandler
  isOpen : Bool
  /-- Who is told about changed rows, with the key each is removed by. -/
  listeners : List (Nat × LineListener)
  nextListener : Nat
deriving Repr, DecidableEq, Inhabited

/-- The rows from `row` on whose text differs, where `known` are their texts as
they were.  A row that was not there was empty. -/
def lineChanges (row : Nat) : (known shown : List (List Char)) → List LineChange
  | _, [] => []
  | known, text :: shown =>
      let rest := lineChanges (row + 1) known.tail shown
      if known.head?.getD [] = text then rest else ⟨UInt16.ofNat row, text⟩ :: rest

/-- Rows of texts with those that are not empty, numbered from `row` on. -/
def occupiedLines (row : Nat) : List (List Char) → List LineChange
  | [] => []
  | text :: rest =>
      if text.isEmpty then occupiedLines (row + 1) rest
      else ⟨UInt16.ofNat row, text⟩ :: occupiedLines (row + 1) rest

namespace Terminal

/-- A terminal nothing is attached to. -/
def new (id : TerminalId) (options : TerminalOptions) : Terminal where
  id := id
  title := options.title
  styleClass := options.styleClass
  display := .ofGrid ((Grid.blank options.size options.scrollback).setStyle options.cursorStyle)
  stream := none
  scanned := []
  selection := none
  keyFilter := none
  startHandler := none
  isOpen := false
  listeners := []
  nextListener := 0

/-- The cells of the terminal. -/
def grid (terminal : Terminal) : Grid := terminal.display.grid

/-- The lines that left the screen and those on it, as plain text. -/
def contents (terminal : Terminal) : List Char := terminal.grid.plainText

/-- Whether a stream is attached. -/
def isAttached (terminal : Terminal) : Bool := terminal.stream.isSome

/-- The width in columns. -/
def cols (terminal : Terminal) : UInt16 := terminal.grid.size.cols

/-- Brings what the listeners know up to date.  The second part of the result
are the rows they have to be told about. -/
def rescan (terminal : Terminal) : Terminal × List LineChange :=
  let shown := terminal.grid.visibleLines
  ({ terminal with scanned := shown }, lineChanges 0 terminal.scanned shown)

/-- Shows bytes. -/
def render (terminal : Terminal) (bytes : List UInt8) : Terminal × List LineChange :=
  { terminal with display := terminal.display.feed bytes }.rescan

/-- Does something to the cells and drops the selection. -/
def reshape (terminal : Terminal) (change : Grid → Grid) : Terminal × List LineChange :=
  { terminal with
    display := { terminal.display with grid := change terminal.grid }
    selection := none }.rescan

/-- Drops every line but the current one. -/
def clear (terminal : Terminal) : Terminal × List LineChange :=
  terminal.reshape Grid.clear

/-- Gives the screen another size. -/
def resize (terminal : Terminal) (size : Size) : Terminal × List LineChange :=
  terminal.reshape fun grid => grid.resize size

/-- Selects everything between two positions, both included, whichever comes
first. -/
def select (terminal : Terminal) (first second : Position) : Terminal :=
  { terminal with
    selection := some (if first.precedes second then (first, second) else (second, first)) }

/-- The selected text of a row, without the blanks at its end. -/
def selectedInRow (terminal : Terminal) (first last : Position) (row : Nat) : List Char :=
  let start := if row = first.row.toNat then first.col.toNat else 0
  let stop := if row = last.row.toNat then last.col.toNat else terminal.grid.lastCol.toNat
  let cells := (terminal.grid.rows[row]?).getD []
  Text.trimEnd ((cells.drop start).take (stop + 1 - start))

/-- The selected text, unless it is empty. -/
def copySelection (terminal : Terminal) : Option (List Char) :=
  match terminal.selection with
  | none => none
  | some (first, last) =>
      let rows := List.range' first.row.toNat (last.row.toNat + 1 - first.row.toNat)
      let text := ['\n'].intercalate (rows.map (terminal.selectedInRow first last))
      if text.isEmpty then none else some text

/-- Adds a listener for changed rows.  The result are the key it is removed by
and the rows it is told about at once: those known not to be empty. -/
def addListener (terminal : Terminal) (listener : LineListener) :
    Terminal × Nat × List LineChange :=
  ({ terminal with
      listeners := terminal.listeners ++ [(terminal.nextListener, listener)]
      nextListener := terminal.nextListener + 1 },
    terminal.nextListener, occupiedLines 0 terminal.scanned)

/-- Removes a listener. -/
def removeListener (terminal : Terminal) (key : Nat) : Terminal :=
  { terminal with listeners := terminal.listeners.filter fun entry => entry.1 != key }

end Terminal

end RuntimeConsole
