/-
Module: RuntimeConsole.Proofs.ErasedRegions
Purpose: Which cells the erasing control sequences blank: those before or after the cursor, or all
  of them, on the screen or in the row of the cursor; and that they change nothing else.
Main exports:
  Erasure, Erasure.covers, blankCells, Erasure.on_eq, ErasedRegions, regions_erased
-/
import RuntimeConsole.Proofs.CursorBounds
import RuntimeConsole.Proofs.TapeRefinement

namespace RuntimeConsole

/-! ### Regions -/

/-- What a control sequence erases: the screen, or the row of the cursor. -/
inductive Erasure where
  | display
  | line
deriving DecidableEq

namespace Erasure

/-- The character a control sequence that erases ends with. -/
def final : Erasure → UInt8
  | .display => 0x4A
  | .line => 0x4B

/-- The grid after an erasure. -/
def on (erasure : Erasure) (mode : UInt16) (grid : Grid) : Grid :=
  match erasure with
  | .display => grid.eraseDisplay mode
  | .line => grid.eraseLine mode

/-- Whether a position is in the part that a mode names: from the cursor on, up to the cursor, or
all of it. -/
def inPart (mode : UInt16) (cursor position : Position) : Bool :=
  if mode = 0 then cursor.precedes position
  else if mode = 1 then position.precedes cursor
  else mode == 2

/-- Whether an erasure blanks a cell.  The screen has one mode more than the row of the cursor,
which names all of it again. -/
def covers (erasure : Erasure) (mode : UInt16) (cursor position : Position) : Bool :=
  match erasure with
  | .display => mode == 3 || inPart mode cursor position
  | .line => position.row == cursor.row && inPart mode cursor position

end Erasure

theorem mapIdx_kept {Item : Type} (items : List Item) : items.mapIdx (fun _ item => item) = items :=
  List.ext_getElem? fun place => by rw [List.getElem?_mapIdx]; exact Option.map_id' ..

/-- The rows with the cells of a region blanked. -/
def blankCells (region : Nat → Nat → Bool) (rows : List (List Char)) : List (List Char) :=
  rows.mapIdx fun row cells => cells.mapIdx fun col c => if region row col then ' ' else c

section

variable {rows : List (List Char)} {first second region : Nat → Nat → Bool}

/-- Cells that are blanked twice are blank. -/
theorem blankCells_blankCells :
    blankCells second (blankCells first rows) =
      blankCells (fun row col => first row col || second row col) rows := by
  rw [blankCells, blankCells, List.mapIdx_mapIdx]
  refine congrFun (congrArg List.mapIdx (funext fun row => funext fun cells => ?_)) rows
  rw [Function.comp_apply, List.mapIdx_mapIdx]
  refine congrFun (congrArg List.mapIdx (funext fun col => funext fun c => ?_)) cells
  cases first : first row col <;> cases second : second row col <;> simp [first, second]

theorem blankCells_congr (same : ∀ row col, first row col = second row col) :
    blankCells first rows = blankCells second rows := by
  rw [funext fun row => funext (same row)]

theorem blankCells_none (empty : ∀ row col, region row col = false) :
    blankCells region rows = rows := by
  simp only [blankCells, empty, Bool.false_eq_true, if_false, mapIdx_kept]

theorem getElem?_blankCells (row col : Nat) :
    (blankCells region rows)[row]?.bind (fun cells => cells[col]?) =
      (rows[row]?.bind fun cells => cells[col]?).map fun c =>
        if region row col then ' ' else c := by
  rw [blankCells, List.getElem?_mapIdx]
  cases rows[row]? with
  | none => rfl
  | some cells => simp

end

/-! ### Erasing is blanking -/

namespace Grid

variable {grid : Grid}

theorem eraseInRow_eq (row start stop : UInt16) : grid.eraseInRow row start stop =
    { grid with rows := blankCells (fun r c =>
        r == row.toNat && decide (start.toNat ≤ c ∧ c < stop.toNat)) grid.rows } := by
  rw [eraseInRow, modify_eq_mapIdx, blankCells]
  congr 1
  refine congrFun (congrArg List.mapIdx (funext fun r => funext fun cells => ?_)) grid.rows
  by_cases here : r = row.toNat
  · simp [here, eraseCells]
  · simp [here, mapIdx_kept]

theorem eraseRows_eq (start stop : UInt16) : grid.eraseRows start stop =
    { grid with rows := blankCells (fun r c =>
        decide (start.toNat ≤ r ∧ r < min stop.toNat grid.size.rows.toNat) &&
          decide (c < grid.size.cols.toNat)) grid.rows } := by
  rw [eraseRows, blankCells]
  congr 1
  refine congrFun (congrArg List.mapIdx (funext fun r => funext fun cells => ?_)) grid.rows
  by_cases inside : start.toNat ≤ r ∧ r < min stop.toNat grid.size.rows.toNat
  · simp only [inside, eraseCells, decide_true, Bool.true_and, Nat.zero_le, true_and,
      and_self, if_true, decide_eq_true_eq]
  · simp only [inside, decide_false, Bool.false_and, if_false, Bool.false_eq_true, mapIdx_kept]

/-- A screen with as many cells as its size says has one at every position on it. -/
theorem Shaped.charAt?_within (shaped : grid.Shaped) {position : Position}
    (within : position.Within grid.size) : ∃ c, grid.charAt? position.row position.col = some c := by
  have row : position.row.toNat < grid.rows.length := by
    rw [shaped.height]
    exact UInt16.lt_iff_toNat_lt.mp within.1
  have col : position.col.toNat < grid.rows[position.row.toNat].length := by
    rw [shaped.width _ (List.getElem_mem row)]
    exact UInt16.lt_iff_toNat_lt.mp within.2
  exact ⟨grid.rows[position.row.toNat][position.col.toNat], by
    rw [charAt?, List.getElem?_eq_getElem row, Option.bind_some, List.getElem?_eq_getElem col]⟩

end Grid

namespace Erasure

/-- The part of a screen that a mode names, in plain numbers. -/
def partAt (mode : UInt16) (cursor : Position) (row col : Nat) : Bool :=
  if mode = 0 then
    decide (cursor.row.toNat < row ∨ cursor.row.toNat = row ∧ cursor.col.toNat ≤ col)
  else if mode = 1 then
    decide (row < cursor.row.toNat ∨ row = cursor.row.toNat ∧ col ≤ cursor.col.toNat)
  else mode == 2

/-- The cells of a screen that an erasure blanks, in plain numbers. -/
def region (erasure : Erasure) (mode : UInt16) (size : Size) (cursor : Position)
    (row col : Nat) : Bool :=
  decide (row < size.rows.toNat ∧ col < size.cols.toNat) &&
    match erasure with
    | .display => mode == 3 || partAt mode cursor row col
    | .line => decide (row = cursor.row.toNat) && partAt mode cursor row col

variable {grid : Grid} {erasure : Erasure} {mode : UInt16} {size : Size} {cursor : Position}

theorem inPart_eq (position : Position) :
    inPart mode cursor position = partAt mode cursor position.row.toNat position.col.toNat := by
  have number (first second : Position) : first.precedes second =
      decide (first.row.toNat < second.row.toNat ∨
        first.row.toNat = second.row.toNat ∧ first.col.toNat ≤ second.col.toNat) :=
    Bool.eq_iff_iff.mpr (Position.precedes_iff.trans decide_eq_true_iff.symm)
  rw [inPart, partAt, number, number]

theorem region_eq (position : Position) :
    erasure.region mode size cursor position.row.toNat position.col.toNat =
      (decide (position.Within size) && erasure.covers mode cursor position) := by
  have inside : (position.row.toNat < size.rows.toNat ∧ position.col.toNat < size.cols.toNat) ↔
      position.Within size := by
    rw [Position.Within, UInt16.lt_iff_toNat_lt, UInt16.lt_iff_toNat_lt]
  unfold region covers
  simp only [inside, inPart_eq]
  cases erasure with
  | display => rfl
  | line => simp [← UInt16.toNat_inj, beq_eq_decide]

/-- An erasure blanks its region and changes nothing else. -/
theorem on_eq (within : grid.cursor.position.Within grid.size) :
    erasure.on mode grid =
      { grid with
        rows := blankCells (erasure.region mode grid.size grid.cursor.position) grid.rows } := by
  have row := UInt16.lt_iff_toNat_lt.mp within.1
  have col := UInt16.lt_iff_toNat_lt.mp within.2
  have nextRow := within.nextRow
  have nextCol := within.nextCol
  have alike {first second : Nat → Nat → Bool}
      (same : ∀ row col, first row col = true ↔ second row col = true) :
      { grid with rows := blankCells first grid.rows } =
        { grid with rows := blankCells second grid.rows } := by
    rw [blankCells_congr fun row col => Bool.eq_iff_iff.mpr (same row col)]
  have untouched {none : Nat → Nat → Bool} (empty : ∀ row col, none row col = false) :
      grid = { grid with rows := blankCells none grid.rows } := by
    rw [blankCells_none empty]
  unfold on
  cases erasure with
  | display =>
      dsimp only
      rw [Grid.eraseDisplay_eq, Coordinate.add?_one within.1, Coordinate.add?_one within.2]
      simp only [Option.map_some, Grid.orOverflow_some]
      split
      next after =>
          subst after
          rw [Grid.eraseRows_eq, Grid.eraseInRow_eq, blankCells_blankCells]
          refine alike fun r c => ?_
          simp [region, partAt, nextRow]
          omega
      split
      next before =>
          subst before
          rw [Grid.eraseInRow_eq, Grid.eraseRows_eq, blankCells_blankCells]
          refine alike fun r c => ?_
          simp [region, partAt, nextCol]
          omega
      split
      next whole =>
          rw [Grid.eraseRows_eq]
          refine alike fun r c => ?_
          rcases whole with rfl | rfl <;> simp [region, partAt]
      next notAfter notBefore neither =>
          obtain ⟨notWhole, notThree⟩ := not_or.mp neither
          exact untouched fun r c => by
            simp [region, partAt, notAfter, notBefore, notWhole, notThree]
  | line =>
      dsimp only
      rw [Grid.eraseLine_eq, Coordinate.add?_one within.2]
      simp only [Option.map_some, Grid.orOverflow_some]
      split
      next after =>
          subst after
          rw [Grid.eraseInRow_eq]
          refine alike fun r c => ?_
          simp [region, partAt]
          omega
      split
      next before =>
          subst before
          rw [Grid.eraseInRow_eq]
          refine alike fun r c => ?_
          simp [region, partAt, nextCol]
          omega
      split
      next whole =>
          subst whole
          rw [Grid.eraseInRow_eq]
          refine alike fun r c => ?_
          simp [region, partAt]
          omega
      next notAfter notBefore notWhole =>
          exact untouched fun r c => by
            simp [region, partAt, notAfter, notBefore, notWhole]

/-- Two erasures blank both their regions. -/
theorem on_on (within : grid.cursor.position.Within grid.size) (first second : UInt16) :
    erasure.on second (erasure.on first grid) =
      { grid with
        rows := blankCells (fun row col =>
          erasure.region first grid.size grid.cursor.position row col ||
            erasure.region second grid.size grid.cursor.position row col) grid.rows } := by
  have once : erasure.on first grid = _ := on_eq within
  have still : (erasure.on first grid).cursor.position.Within (erasure.on first grid).size := by
    rw [once]
    exact within
  rw [on_eq still, once, blankCells_blankCells]

/-- Every cell is up to the cursor or from the cursor on. -/
theorem region_halves (row col : Nat) :
    (erasure.region 0 size cursor row col || erasure.region 1 size cursor row col) =
      erasure.region 2 size cursor row col := by
  rw [Bool.eq_iff_iff]
  cases erasure with
  | display =>
      simp [region, partAt]
      omega
  | line =>
      simp [region, partAt]
      omega

/-! ### Sequences of bytes -/

/-- The escape character begins a sequence wherever the decoder is, except inside a character. -/
theorem run_escape {decoder : ControlDecoder} (outside : decoder.insideCharacter = false)
    (bytes : List UInt8) :
    decoder.run (0x1B :: bytes) = (ControlDecoder.begin_ .escape).run bytes := by
  have begun : decoder.step 0x1B = (ControlDecoder.begin_ .escape, []) := by
    rw [ControlDecoder.step, outside]
    rfl
  rw [ControlDecoder.run, begun]
  rfl

/-- A control sequence that erases, with a digit for its mode. -/
theorem run_sequence : ∀ (erasure : Erasure) (digit : Fin 10),
    ((ControlDecoder.begin_ .escape).run
      [0x5B, 0x30 + UInt8.ofNat digit, erasure.final]).2 =
        [.control [[UInt16.ofNat digit]] false erasure.final] := by
  intro erasure
  cases erasure <;> decide

/-- One without a mode. -/
theorem run_bare_sequence : ∀ erasure : Erasure,
    ((ControlDecoder.begin_ .escape).run [0x5B, erasure.final]).2 =
      [.control [[0]] false erasure.final] := by
  intro erasure
  cases erasure <;> decide

theorem perform_final (grid : Grid) (erasure : Erasure) (parameters : List (List UInt16)) :
    grid.perform (.control parameters false erasure.final) =
      erasure.on ((Grid.parameter? parameters 0).getD 0) grid := by
  cases erasure <;> rfl

end Erasure

/-- What the control sequences that erase do to a grid. -/
structure ErasedRegions (grid : Grid) : Prop where
  /-- An erasure blanks exactly the cells it covers. -/
  cells : ∀ (erasure : Erasure) (mode : UInt16) (position : Position),
    (erasure.on mode grid).charAt? position.row position.col =
      (grid.charAt? position.row position.col).map fun c =>
        if position.Within grid.size ∧
          erasure.covers mode grid.cursor.position position = true then ' ' else c
  /-- It changes nothing but cells. -/
  frame : ∀ (erasure : Erasure) (mode : UInt16),
    erasure.on mode grid = { grid with rows := (erasure.on mode grid).rows }
  /-- Where the screen has as many cells as its size says, so it has afterwards, and those that
  are covered are blank. -/
  shaped : grid.Shaped → ∀ (erasure : Erasure) (mode : UInt16), (erasure.on mode grid).Shaped ∧
    ∀ position : Position, position.Within grid.size →
      erasure.covers mode grid.cursor.position position = true →
        (erasure.on mode grid).charAt? position.row position.col = some ' '
  /-- To erase from the cursor on and up to the cursor, one after the other, is to erase all. -/
  halves : ∀ erasure : Erasure, erasure.on 1 (erasure.on 0 grid) = erasure.on 2 grid ∧
    erasure.on 0 (erasure.on 1 grid) = erasure.on 2 grid
  idempotent : ∀ (erasure : Erasure) (mode : UInt16),
    erasure.on mode (erasure.on mode grid) = erasure.on mode grid
  /-- The mode is the first parameter of the control sequence, and zero if there is none. -/
  performed : ∀ (erasure : Erasure) (parameters : List (List UInt16)),
    grid.perform (.control parameters false erasure.final) =
      erasure.on ((Grid.parameter? parameters 0).getD 0) grid
  /-- The sequence may come at any time but in the middle of a character. -/
  shown : ∀ decoder : ControlDecoder, decoder.insideCharacter = false →
    ∀ (erasure : Erasure) (digit : Fin 10),
      ((Display.mk decoder grid).feed
        [0x1B, 0x5B, 0x30 + UInt8.ofNat digit, erasure.final]).grid =
          erasure.on (UInt16.ofNat digit) grid ∧
      ((Display.mk decoder grid).feed [0x1B, 0x5B, erasure.final]).grid = erasure.on 0 grid

/-- While the cursor is on the screen, the control sequences that erase blank exactly the cells
from the cursor on, up to the cursor, or all of them, of the screen or of the row of the cursor;
modes that are none of these blank nothing. -/
theorem regions_erased (grid : Grid) (within : grid.cursor.position.Within grid.size) :
    ErasedRegions grid := by
  have cells (erasure : Erasure) (mode : UInt16) (position : Position) :
      (erasure.on mode grid).charAt? position.row position.col =
        (grid.charAt? position.row position.col).map fun c =>
          if position.Within grid.size ∧
            erasure.covers mode grid.cursor.position position = true then ' ' else c := by
    rw [Erasure.on_eq within, Grid.charAt?, getElem?_blankCells, Erasure.region_eq]
    simp only [Bool.and_eq_true, decide_eq_true_eq]
    rfl
  exact {
    cells := cells
    frame := fun erasure mode => by rw [Erasure.on_eq within]
    shaped := fun shaped erasure mode => by
      refine ⟨?_, fun position inside covered => ?_⟩
      · cases erasure with
        | display => exact (grid.eraseDisplay_keeps mode).shaped shaped
        | line => exact (grid.eraseLine_keeps mode).shaped shaped
      · obtain ⟨c, found⟩ := shaped.charAt?_within inside
        rw [cells, found, Option.map_some, if_pos ⟨inside, covered⟩]
    halves := fun erasure => by
      rw [Erasure.on_on within, Erasure.on_on within, Erasure.on_eq within]
      refine ⟨?_, ?_⟩
      · rw [blankCells_congr Erasure.region_halves]
      · rw [blankCells_congr fun row col =>
          (Bool.or_comm _ _).trans (Erasure.region_halves row col)]
    idempotent := fun erasure mode => by
      rw [Erasure.on_on within, Erasure.on_eq within,
        blankCells_congr fun row col => Bool.or_self _]
    performed := Erasure.perform_final grid
    shown := fun decoder outside erasure digit => by
      rw [Display.feed_eq_run, Display.feed_eq_run]
      dsimp only
      rw [Erasure.run_escape outside, Erasure.run_escape outside, Erasure.run_sequence,
        Erasure.run_bare_sequence]
      exact ⟨Erasure.perform_final grid erasure _, Erasure.perform_final grid erasure _⟩ }

/-- Two rows of three letters, with the cursor on the fifth. -/
def sixLetters : Grid :=
  (['a', 'b', 'c', 'd', 'e', 'f'].foldl Grid.put (.blank ⟨2, 3⟩ 0)).moveTo 1 1

theorem regions_erased_letters :
    sixLetters.cursor.position.Within sixLetters.size ∧ ErasedRegions sixLetters ∧
      (sixLetters.eraseDisplay 0).rows = [['a', 'b', 'c'], ['d', ' ', ' ']] ∧
      (sixLetters.eraseDisplay 1).rows = [[' ', ' ', ' '], [' ', ' ', 'f']] ∧
      (sixLetters.eraseLine 1).rows = [['a', 'b', 'c'], [' ', ' ', 'f']] := by
  have within : sixLetters.cursor.position.Within sixLetters.size := by decide
  exact ⟨within, regions_erased sixLetters within, by decide, by decide, by decide⟩

/-- The row of the cursor knows no fourth mode: it is not erased by the mode that erases the
screen once more. -/
theorem row_kept_by_third_mode :
    ¬ ∀ (grid : Grid) (position : Position), grid.cursor.position.Within grid.size →
      position.Within grid.size → position.row = grid.cursor.position.row →
        (grid.perform (.control [[3]] false 0x4B)).charAt? position.row position.col =
          some ' ' := by
  intro blanked
  have cell := blanked sixLetters ⟨1, 0⟩ (by decide) (by decide) (by decide)
  exact absurd cell (by decide)

end RuntimeConsole
