/-
Module: RuntimeConsole.Proofs.CursorBounds
Purpose: The cursor stays on the screen, and every character that is printed is shown, as
  long as no cursor is brought back to where the screen is not any more.
Main exports:
  Position.Within, Grid.CursorFits, Grid.landing, Display.Strays, Display.CutOff,
  cursor_on_screen
-/
import Mathlib.Data.List.Induction
import RuntimeConsole.Proofs.ScreenCells
import RuntimeConsole.Proofs.ScreenText
import RuntimeConsole.Screen.Event

namespace RuntimeConsole

/-- Whether there is a cell at a position of a screen. -/
def Position.Within (position : Position) (size : Size) : Prop :=
  position.row < size.rows ∧ position.col < size.cols

instance (position : Position) (size : Size) : Decidable (position.Within size) :=
  inferInstanceAs (Decidable (_ ∧ _))

/-- A coordinate below another and the next one do not exceed sixteen bits. -/
theorem toNat_next {coordinate bound : UInt16} (below : coordinate < bound) :
    (coordinate + 1).toNat = coordinate.toNat + 1 := by
  have inside := UInt16.lt_iff_toNat_lt.mp below
  have small := bound.toNat_lt
  rw [UInt16.toNat_add]
  simp
  omega

theorem Position.Within.nextRow {position : Position} {size : Size}
    (within : position.Within size) : (position.row + 1).toNat = position.row.toNat + 1 :=
  toNat_next within.1

theorem Position.Within.nextCol {position : Position} {size : Size}
    (within : position.Within size) : (position.col + 1).toNat = position.col.toNat + 1 :=
  toNat_next within.2

open Coordinate

namespace Grid

/-- The rows and columns of the screen are as many as its size says. -/
structure Shaped (grid : Grid) : Prop where
  height : grid.rows.length = grid.size.rows.toNat
  width : ∀ cells ∈ grid.rows, cells.length = grid.size.cols.toNat

/-- The cursor is on the screen, and a wrap is pending only in the last column. -/
structure CursorFits (grid : Grid) : Prop where
  within : grid.cursor.position.Within grid.size
  pending : grid.wrapPending = true → grid.cursor.position.col = grid.size.cols - 1

/-- Where the next character is put. -/
def landing (grid : Grid) : Position := grid.wrap.cursor.position

variable {grid : Grid}

/-! ### Shape -/

theorem blank_shaped (size : Size) (limit : Nat) : (Grid.blank size limit).Shaped where
  height := by simp [blank, blankRows]
  width cells member := by
    obtain ⟨-, rfl⟩ := List.mem_replicate.mp member
    simp [blankRow, blank]

theorem Shaped.of_same {other : Grid} (shaped : grid.Shaped) (rows : other.rows = grid.rows)
    (size : other.size = grid.size) : other.Shaped where
  height := by rw [rows, size, shaped.height]
  width := by rw [rows, size]; exact shaped.width

/-- Rows are changed where they are and keep their width. -/
theorem Shaped.mapIdx (shaped : grid.Shaped) {change : Nat → List Char → List Char}
    (width : ∀ row cells, (change row cells).length = cells.length) :
    { grid with rows := grid.rows.mapIdx change }.Shaped where
  height := by rw [List.length_mapIdx]; exact shaped.height
  width cells member := by
    obtain ⟨row, inside, rfl⟩ := List.mem_mapIdx.mp member
    rw [width]
    exact shaped.width _ (List.getElem_mem inside)

theorem Shaped.modify (shaped : grid.Shaped) (row : Nat) {change : List Char → List Char}
    (width : ∀ cells, (change cells).length = cells.length) :
    { grid with rows := grid.rows.modify row change }.Shaped := by
  rw [modify_eq_mapIdx]
  refine shaped.mapIdx fun _ cells => ?_
  split
  · exact width cells
  · rfl

theorem length_eraseCells (start stop : Nat) (cells : List Char) :
    (eraseCells start stop cells).length = cells.length :=
  List.length_mapIdx

theorem scrollUp_shaped (shaped : grid.Shaped) : grid.scrollUp.Shaped := by
  unfold scrollUp
  split
  next => exact shaped
  next top rest found =>
      refine ⟨by simpa [found] using shaped.height, fun cells member => ?_⟩
      rcases List.mem_append.mp member with inside | last
      · exact shaped.width cells (by simp [found, inside])
      · obtain rfl := List.mem_singleton.mp last
        simp [blankRow]

theorem length_of_mem_blankRows {size : Size} {cells : List Char}
    (member : cells ∈ blankRows size) : cells.length = size.cols.toNat := by
  obtain ⟨-, rfl⟩ := List.mem_replicate.mp member
  simp [blankRow]

theorem clear_shaped (shaped : grid.Shaped) : grid.clear.Shaped where
  height := by simp [clear, blankRows]
  width cells member := by
    rcases mem_overlay _ _ member with current | blank
    · obtain rfl := List.mem_singleton.mp current
      cases found : grid.rows[grid.cursor.position.row.toNat]? with
      | none => simp [blankRow, clear]
      | some cells => exact shaped.width cells (List.mem_of_getElem? found)
    · exact length_of_mem_blankRows blank

theorem resize_shaped (grid : Grid) (size : Size) : (grid.resize size).Shaped where
  height := by simp [resize, blankRows]
  width cells member := by
    rcases mem_overlay _ _ member with kept | blank
    · obtain ⟨old, -, rfl⟩ := List.mem_map.mp kept
      simp [blankRow, resize]
    · exact length_of_mem_blankRows blank

/-! ### Operations that keep the cursor on the screen -/

/-- An operation that keeps the size, the shape and the cursor to be restored, and leaves the
cursor on the screen if it is there. -/
structure Keeps (before after : Grid) : Prop where
  size : after.size = before.size
  saved : after.saved = before.saved
  shaped : before.Shaped → after.Shaped
  fits : before.CursorFits → after.CursorFits

theorem Keeps.refl (grid : Grid) : Keeps grid grid := ⟨rfl, rfl, id, id⟩

theorem Keeps.trans {first second third : Grid} (earlier : Keeps first second)
    (later : Keeps second third) : Keeps first third where
  size := later.size.trans earlier.size
  saved := later.saved.trans earlier.saved
  shaped known := later.shaped (earlier.shaped known)
  fits known := later.fits (earlier.fits known)

/-- Only cells change. -/
theorem Keeps.of_rows {rows : List (List Char)}
    (shaped : grid.Shaped → { grid with rows := rows }.Shaped) :
    Keeps grid { grid with rows := rows } :=
  ⟨rfl, rfl, shaped, fun fits => ⟨fits.within, fits.pending⟩⟩

/-- The cursor moves to a place on the screen, told in plain numbers. -/
theorem moveTo_keeps {row col : UInt16}
    (inside : grid.cursor.position.row.toNat < grid.size.rows.toNat →
      grid.cursor.position.col.toNat < grid.size.cols.toNat →
      row.toNat < grid.size.rows.toNat ∧ col.toNat < grid.size.cols.toNat) :
    Keeps grid (grid.moveTo row col) where
  size := rfl
  saved := rfl
  shaped shaped := shaped.of_same rfl rfl
  fits fits :=
    have place := inside (UInt16.lt_iff_toNat_lt.mp fits.within.1)
      (UInt16.lt_iff_toNat_lt.mp fits.within.2)
    ⟨⟨UInt16.lt_iff_toNat_lt.mpr place.1, UInt16.lt_iff_toNat_lt.mpr place.2⟩, nofun⟩

theorem scrollUp_keeps (grid : Grid) : Keeps grid grid.scrollUp := by
  refine ⟨?_, ?_, scrollUp_shaped, fun fits => ⟨?_, ?_⟩⟩
  all_goals unfold scrollUp; split
  · rfl
  · rfl
  · rfl
  · rfl
  · exact fits.within
  · exact fits.within
  · exact fits.pending
  · exact fits.pending

theorem unwrapped_keeps (grid : Grid) : Keeps grid { grid with wrapPending := false } :=
  ⟨rfl, rfl, fun shaped => shaped.of_same rfl rfl, fun fits => ⟨fits.within, nofun⟩⟩

/-- A grid that could not go on is as it was. -/
theorem overflowed_keeps (grid : Grid) : Keeps grid { grid with overflowed := true } :=
  ⟨rfl, rfl, fun shaped => shaped.of_same rfl rfl, fun fits => ⟨fits.within, fits.pending⟩⟩

theorem Keeps.of_coordinate {coordinate : Option UInt16} {after : UInt16 → Grid}
    (goesOn : ∀ next, Keeps grid (after next)) :
    Keeps grid (grid.orOverflow (coordinate.map after)) :=
  orOverflow_map (motive := Keeps grid) grid.overflowed_keeps fun next _ => goesOn next

theorem lineFeed_keeps (grid : Grid) : Keeps grid grid.lineFeed := by
  refine lineFeed_induction (motive := Keeps grid) grid.overflowed_keeps fun next _ => ?_
  unfold descend
  split
  next => exact grid.unwrapped_keeps.trans (scrollUp_keeps _)
  next inner =>
      exact grid.unwrapped_keeps.trans
        (moveTo_keeps fun _ col => ⟨UInt16.lt_iff_toNat_lt.mp (UInt16.not_le.mp inner), col⟩)

theorem carriageReturn_keeps (grid : Grid) : Keeps grid grid.carriageReturn :=
  moveTo_keeps fun row col => ⟨row, Nat.zero_lt_of_lt col⟩

theorem wrap_keeps (grid : Grid) : Keeps grid grid.wrap :=
  wrap_induction (motive := Keeps grid) grid.overflowed_keeps
    (grid.carriageReturn_keeps.trans (lineFeed_keeps _)) (.refl grid)

theorem setCell_keeps (grid : Grid) (row col : UInt16) (c : Char) :
    Keeps grid (grid.setCell row col c) :=
  .of_rows fun shaped => shaped.modify _ fun _ => List.length_set

theorem fill_keeps (full : grid.size.cols ≤ grid.cursor.position.col + 1) :
    Keeps grid { grid with wrapPending := true } where
  size := rfl
  saved := rfl
  shaped shaped := shaped.of_same rfl rfl
  fits fits := by
    refine ⟨fits.within, fun _ => UInt16.toNat_inj.mp ?_⟩
    have inside := UInt16.lt_iff_toNat_lt.mp fits.within.2
    have full := UInt16.le_iff_toNat_le.mp full
    rw [fits.within.nextCol] at full
    rw [UInt16.toNat_sub_of_le _ _ (Nat.zero_lt_of_lt inside)]
    change grid.cursor.position.col.toNat = grid.size.cols.toNat - 1
    omega

theorem advance_keeps (inner : grid.cursor.position.col + 1 < grid.size.cols) :
    Keeps grid { grid with
      cursor := { grid.cursor with
        position := ⟨grid.cursor.position.row, grid.cursor.position.col + 1⟩ } } where
  size := rfl
  saved := rfl
  shaped shaped := shaped.of_same rfl rfl
  fits fits := by
    refine ⟨⟨fits.within.1, inner⟩, fun pending => ?_⟩
    have last := congrArg UInt16.toNat (fits.pending pending)
    have inside := UInt16.lt_iff_toNat_lt.mp fits.within.2
    have inner := UInt16.lt_iff_toNat_lt.mp inner
    rw [fits.within.nextCol] at inner
    rw [UInt16.toNat_sub_of_le _ _ (Nat.zero_lt_of_lt inside)] at last
    change grid.cursor.position.col.toNat = grid.size.cols.toNat - 1 at last
    omega

theorem put_keeps (grid : Grid) (c : Char) : Keeps grid (grid.put c) := by
  have set := grid.wrap_keeps.trans
    (grid.wrap.setCell_keeps grid.wrap.cursor.position.row grid.wrap.cursor.position.col c)
  refine put_induction (motive := Keeps grid) grid.overflowed_keeps fun next found => ?_
  obtain rfl := eq_of_add? found
  unfold advance
  split
  next full => exact set.trans (fill_keeps full)
  next inner => exact set.trans (advance_keeps (UInt16.not_le.mp inner))

theorem eraseInRow_keeps (grid : Grid) (row start stop : UInt16) :
    Keeps grid (grid.eraseInRow row start stop) :=
  .of_rows fun shaped => shaped.modify _ fun _ => length_eraseCells _ _ _

theorem eraseRows_keeps (grid : Grid) (start stop : UInt16) :
    Keeps grid (grid.eraseRows start stop) :=
  .of_rows fun shaped => shaped.mapIdx fun _ _ => by
    split
    · exact length_eraseCells _ _ _
    · rfl

theorem eraseDisplay_keeps (grid : Grid) (mode : UInt16) : Keeps grid (grid.eraseDisplay mode) := by
  rw [eraseDisplay_eq]
  split
  · exact .of_coordinate fun next =>
      (grid.eraseInRow_keeps _ _ _).trans (eraseRows_keeps _ next _)
  split
  · exact .of_coordinate fun next =>
      (grid.eraseRows_keeps _ _).trans (eraseInRow_keeps _ _ _ next)
  split
  · exact grid.eraseRows_keeps _ _
  · exact .refl grid

theorem eraseLine_keeps (grid : Grid) (mode : UInt16) : Keeps grid (grid.eraseLine mode) := by
  rw [eraseLine_eq]
  split
  · exact grid.eraseInRow_keeps _ _ _
  split
  · exact .of_coordinate fun next =>
      grid.eraseInRow_keeps _ _ next
  split
  · exact grid.eraseInRow_keeps _ _ _
  · exact .refl grid

/-- The line of the cursor becomes the first one, so the cursor keeps its column. -/
theorem clear_keeps (grid : Grid) : Keeps grid grid.clear :=
  ⟨rfl, rfl, clear_shaped, fun fits => ⟨⟨UInt16.lt_iff_toNat_lt.mpr
    (Nat.zero_lt_of_lt (UInt16.lt_iff_toNat_lt.mp fits.within.1)), fits.within.2⟩, fits.pending⟩⟩

/-! ### Moves -/

theorem backspace_keeps (grid : Grid) : Keeps grid grid.backspace :=
  moveTo_keeps fun row col => by
    refine ⟨row, ?_⟩
    split
    next => exact Nat.zero_lt_of_lt col
    next beyond =>
        have positive : 1 ≤ grid.cursor.position.col.toNat :=
          Nat.pos_of_ne_zero fun none => beyond (UInt16.toNat_inj.mp none)
        rw [UInt16.toNat_sub_of_le _ _ positive]
        exact Nat.lt_of_le_of_lt (Nat.sub_le _ _) col

/-- A tab stop may lie beyond the last column, but the cursor does not go there. -/
theorem tab_keeps (grid : Grid) : Keeps grid grid.tab :=
  .of_coordinate fun stop =>
    moveTo_keeps fun row col => by
      rw [toNat_min, toNat_lastCol]
      omega

theorem execute_keeps (grid : Grid) (byte : UInt8) : Keeps grid (grid.execute byte) := by
  rw [execute_eq]
  split
  · exact grid.backspace_keeps
  split
  · exact grid.tab_keeps
  split
  · exact grid.lineFeed_keeps
  split
  · exact grid.carriageReturn_keeps
  · exact .refl grid

theorem moveToParameters_keeps (grid : Grid) (parameters : List (List UInt16)) :
    Keeps grid (grid.moveToParameters parameters) :=
  moveTo_keeps fun row col => by
    rw [toNat_min, toNat_min, toNat_lastRow, toNat_lastCol]
    omega

/-- What happens to the cursor of a screen: it stays on the screen, or is remembered, or is
brought back, or the screen gets another size.  The last two are told apart from the rest. -/
inductive Step : Bool → Option Size → Grid → Grid → Prop where
  | keep {before after : Grid} : Keeps before after → Step false none before after
  | save {grid : Grid} : Step false none grid grid.saveCursor
  | restore {grid : Grid} : Step true none grid grid.restoreCursor
  | resize {grid : Grid} {size : Size} : 0 < size.rows → 0 < size.cols →
      Step false (some size) grid (grid.resize size)

theorem control_step (grid : Grid) (parameters : List (List UInt16)) (final : UInt8) :
    Step (final == 0x75) none grid (grid.control parameters final) := by
  by_cases u : final = 0x75
  · subst u
    exact .restore
  have valid : final.toNat.isValidChar := .inl (Nat.lt_trans final.toNat_lt (by decide))
  have notU : Char.ofNat final.toNat ≠ 'u' := by
    rw [Char.ofNat, dif_pos valid]
    exact fun same => u (UInt8.toNat_inj.mp (congrArg Char.toNat same))
  rw [beq_eq_false_iff_ne.mpr u]
  have lastRow := toNat_lastRow grid
  have lastCol := toNat_lastCol grid
  rw [control_eq]
  generalize Char.ofNat final.toNat = final at notU ⊢
  dsimp only
  split
  next =>
      refine .keep (moveTo_keeps fun row col => ?_)
      rw [toNat_coordinateSub]
      omega
  next =>
      refine .keep (moveTo_keeps fun row col => ?_)
      rw [toNat_coordinateAdd]
      omega
  next =>
      refine .keep (moveTo_keeps fun row col => ?_)
      rw [toNat_coordinateAdd]
      omega
  next =>
      refine .keep (moveTo_keeps fun row col => ?_)
      rw [toNat_coordinateSub]
      omega
  next =>
      refine .keep (moveTo_keeps fun row col => ?_)
      rw [toNat_min]
      omega
  next => exact .keep (grid.moveToParameters_keeps _)
  next => exact .keep (grid.moveToParameters_keeps _)
  next => exact .keep (grid.eraseDisplay_keeps _)
  next => exact .keep (grid.eraseLine_keeps _)
  next => exact .save
  next => exact absurd rfl notU
  next => exact .keep (.refl grid)

theorem perform_step (grid : Grid) (instruction : Instruction) :
    Step instruction.recalls none grid (grid.perform instruction) := by
  cases instruction with
  | print c => exact .keep (grid.put_keeps c)
  | execute byte => exact .keep (grid.execute_keeps byte)
  | control parameters marked final =>
      cases marked with
      | false => exact grid.control_step parameters final
      | true => exact .keep (.refl grid)
  | escape final =>
      rw [perform_escape]
      unfold Instruction.recalls
      dsimp only
      split
      next save =>
          obtain rfl := eq_of_beq save
          exact .save
      split
      next same =>
          rw [same]
          exact .restore
      next other =>
          rw [Bool.eq_false_iff.mpr other]
          exact .keep (.refl grid)

/-! ### What a step keeps -/

variable {recalls : Bool} {given : Option Size} {before after : Grid} {cursor : Cursor}

theorem Step.shaped (step : Step recalls given before after) (shaped : before.Shaped) :
    after.Shaped := by
  cases step with
  | keep keeps => exact keeps.shaped shaped
  | save => exact shaped.of_same rfl rfl
  | restore =>
      unfold restoreCursor
      split
      · exact shaped
      · exact shaped.of_same rfl rfl
  | resize _ _ => exact resize_shaped _ _

theorem resize_fits {size : Size} (someRow : 0 < size.rows) (someCol : 0 < size.cols) :
    (grid.resize size).CursorFits where
  within := by
    have row := UInt16.lt_iff_toNat_lt.mp someRow
    have col := UInt16.lt_iff_toNat_lt.mp someCol
    have lastRow := UInt16.toNat_sub_of_le size.rows 1 row
    have lastCol := UInt16.toNat_sub_of_le size.cols 1 col
    constructor
    · change (if size.rows = 0 then _ else min _ (size.rows - 1)) < size.rows
      rw [if_neg (UInt16.ne_of_lt someRow).symm, UInt16.lt_iff_toNat_lt, toNat_min, lastRow]
      exact Nat.lt_of_le_of_lt (Nat.min_le_right ..) (Nat.sub_lt row Nat.one_pos)
    · change (if size.cols = 0 then _ else min _ (size.cols - 1)) < size.cols
      rw [if_neg (UInt16.ne_of_lt someCol).symm, UInt16.lt_iff_toNat_lt, toNat_min, lastCol]
      exact Nat.lt_of_le_of_lt (Nat.min_le_right ..) (Nat.sub_lt col Nat.one_pos)
  pending := nofun

theorem Step.fits (step : Step recalls given before after) (fits : before.CursorFits)
    (safe : recalls = true → ∀ cursor, before.saved = some cursor →
      cursor.position.Within before.size) : after.CursorFits := by
  cases step with
  | keep keeps => exact keeps.fits fits
  | save => exact ⟨fits.within, fits.pending⟩
  | restore =>
      unfold restoreCursor
      split
      next => exact fits
      next cursor saved => exact ⟨safe rfl cursor saved, nofun⟩
  | resize someRow someCol => exact resize_fits someRow someCol

/-- A cursor brought back to where there is no cell is where there is no cell. -/
theorem Step.strays (step : Step true given before after) (saved : before.saved = some cursor)
    (outside : ¬ cursor.position.Within before.size) : ¬ after.CursorFits := by
  cases step with
  | restore =>
      unfold restoreCursor
      rw [saved]
      exact fun fits => outside fits.within

/-- A remembered cursor is on the screen if it is new, and else where it was. -/
theorem Step.saved (step : Step recalls given before after) (fits : before.CursorFits)
    (saved : after.saved = some cursor) :
    cursor.position.Within after.size ∨
      before.saved = some cursor ∧ after.size = given.getD before.size := by
  cases step with
  | keep keeps => exact .inr ⟨keeps.saved.symm.trans saved, keeps.size⟩
  | save =>
      obtain rfl := Option.some.inj saved
      exact .inl fits.within
  | restore =>
      unfold restoreCursor at saved ⊢
      split at saved
      next fresh => exact absurd (fresh.symm.trans saved) nofun
      next => exact absurd saved nofun
  | resize _ _ => exact .inr ⟨saved, rfl⟩

/-! ### Characters -/

/-- The character is in the cell it is put into. -/
theorem charAt?_put (shaped : grid.Shaped) (fits : grid.CursorFits) (c : Char) :
    grid.landing.Within grid.size ∧
      (grid.put c).charAt? grid.landing.row grid.landing.col = some c := by
  have wrapped := grid.wrap_keeps
  have shape := wrapped.shaped shaped
  have within : grid.landing.Within grid.wrap.size := (wrapped.fits fits).within
  refine ⟨wrapped.size ▸ within, ?_⟩
  have rows : (grid.put c).rows =
      grid.wrap.rows.modify grid.landing.row.toNat (·.set grid.landing.col.toNat c) := by
    have next : add? grid.wrap.cursor.position.col 1 = some (grid.wrap.cursor.position.col + 1) :=
      add?_one (wrapped.fits fits).within.2
    rw [put_of_next (wrap?_eq fits.within.1) next]
    unfold advance
    split <;> rfl
  have row : grid.landing.row.toNat < grid.wrap.rows.length := by
    rw [shape.height]
    exact UInt16.lt_iff_toNat_lt.mp within.1
  have col : grid.landing.col.toNat < (grid.wrap.rows[grid.landing.row.toNat]).length := by
    rw [shape.width _ (List.getElem_mem row)]
    exact UInt16.lt_iff_toNat_lt.mp within.2
  rw [charAt?, rows, List.getElem?_modify_eq, List.getElem?_eq_getElem row]
  simp [col]

end Grid

/-! ### Bytes -/

namespace ControlDecoder

variable (decoder : ControlDecoder) (byte : UInt8)

theorem length_stepGround : (decoder.stepGround byte).2.length ≤ 1 := by
  unfold stepGround
  repeat' split
  all_goals simp

theorem length_stepCharacter (bits following low high : Nat) :
    (decoder.stepCharacter bits following low high byte).2.length ≤ 1 := by
  unfold stepCharacter
  dsimp only
  repeat' split
  all_goals simp

theorem length_stepEscape : (decoder.stepEscape byte).2.length ≤ 1 := by
  unfold stepEscape
  repeat' split
  all_goals simp

theorem length_stepEscapeIntermediate : (decoder.stepEscapeIntermediate byte).2.length ≤ 1 := by
  unfold stepEscapeIntermediate
  repeat' split
  all_goals simp

theorem length_stepControl : (decoder.stepControl byte).2.length ≤ 1 := by
  unfold stepControl dispatch
  repeat' split
  all_goals simp

theorem length_stepControlIgnored : (decoder.stepControlIgnored byte).2.length ≤ 1 := by
  unfold stepControlIgnored
  repeat' split
  all_goals simp

theorem length_stepState : (decoder.stepState byte).2.length ≤ 1 := by
  unfold stepState
  split
  next => exact decoder.length_stepGround byte
  next => exact decoder.length_stepCharacter byte _ _ _ _
  next => exact decoder.length_stepEscape byte
  next => exact decoder.length_stepEscapeIntermediate byte
  next => exact decoder.length_stepControl byte
  next => exact decoder.length_stepControl byte
  next => exact decoder.length_stepControl byte
  next => exact decoder.length_stepControlIgnored byte
  all_goals exact Nat.zero_le 1

/-- A byte brings at most one instruction. -/
theorem length_step : (decoder.step byte).2.length ≤ 1 := by
  unfold step
  split
  · exact decoder.length_stepState byte
  split
  · exact Nat.le_refl 1
  split
  · exact Nat.zero_le 1
  · exact decoder.length_stepState byte

theorem step_cases : (decoder.step byte).2 = [] ∨
    ∃ instruction, (decoder.step byte).2 = [instruction] := by
  have short := decoder.length_step byte
  match told : (decoder.step byte).2 with
  | [] => exact .inl rfl
  | [instruction] => exact .inr ⟨instruction, rfl⟩
  | _ :: _ :: _ => simp [told] at short

end ControlDecoder

/-! ### Runs -/

namespace Display

/-- Whether an event brings a cursor back to where there is no cell. -/
def Strays (display : Display) (event : DisplayEvent) : Prop :=
  display.recalls event = true ∧ ∃ cursor, display.grid.saved = some cursor ∧
    ¬ cursor.position.Within display.grid.size

/-- Whether no event of a run brings a cursor back to where there is no cell. -/
def Straight (display : Display) (events : List DisplayEvent) : Prop :=
  ∀ earlier event, earlier ++ [event] <+: events → ¬ (display.run earlier).Strays event

/-- Whether a remembered cursor was on the screen until the screen was given a size that
leaves it outside. -/
def CutOff (display : Display) (events : List DisplayEvent) (cursor : Cursor) : Prop :=
  ∃ earlier size, earlier ++ [.resize size] <+: events ∧
    (display.run earlier).grid.saved = some cursor ∧
    cursor.position.Within (display.run earlier).grid.size ∧ ¬ cursor.position.Within size

/-- Whether every size the screen is given has a cell. -/
def SomeCells (events : List DisplayEvent) : Prop :=
  ∀ size, .resize size ∈ events → 0 < size.rows ∧ 0 < size.cols

variable {display : Display} {events earlier : List DisplayEvent} {event : DisplayEvent}

theorem SomeCells.of_prefix (some : SomeCells events) (known : earlier <+: events) :
    SomeCells earlier :=
  fun size member => some size (known.subset member)

theorem Straight.of_prefix (straight : display.Straight events) (known : earlier <+: events) :
    display.Straight earlier :=
  fun before event first => straight before event (first.trans known)

theorem CutOff.append {cursor : Cursor} (cut : display.CutOff earlier cursor)
    (known : earlier <+: events) : display.CutOff events cursor := by
  obtain ⟨before, size, first, rest⟩ := cut
  exact ⟨before, size, first.trans known, rest⟩

theorem apply_step (display : Display)
    (some : ∀ size, event = .resize size → 0 < size.rows ∧ 0 < size.cols) :
    Grid.Step (display.recalls event) event.given display.grid (display.apply event).grid := by
  cases event with
  | byte byte =>
      obtain none | ⟨instruction, told⟩ := display.decoder.step_cases byte
      · have kept : (display.apply (.byte byte)).grid = display.grid := by
          simp only [apply, feedByte, none, List.foldl_nil]
        have silent : display.recalls (.byte byte) = false := by
          rw [recalls_byte, none]
          rfl
        rw [kept, silent]
        exact .keep (.refl _)
      · have performed : (display.apply (.byte byte)).grid = display.grid.perform instruction := by
          simp only [apply, feedByte, told, List.foldl_cons, List.foldl_nil]
        have told : display.recalls (.byte byte) = instruction.recalls := by
          rw [recalls_byte, told, List.any_cons, List.any_nil, Bool.or_false]
        rw [performed, told]
        exact display.grid.perform_step instruction
  | clear => exact .keep display.grid.clear_keeps
  | save => exact .save
  | restore => exact .restore
  | resize size => exact .resize (some size rfl).1 (some size rfl).2

/-- The screen has its shape whatever happens, also without a cell. -/
theorem apply_shaped (shaped : display.grid.Shaped) (event : DisplayEvent) :
    (display.apply event).grid.Shaped := by
  cases event with
  | resize size => exact display.grid.resize_shaped size
  | byte _ | clear | save | restore =>
      exact (display.apply_step (by rintro _ ⟨⟩)).shaped shaped

theorem run_step (some : SomeCells events) (known : earlier ++ [event] <+: events) :
    Grid.Step ((display.run earlier).recalls event) event.given (display.run earlier).grid
      (display.run (earlier ++ [event])).grid := by
  rw [run_concat]
  exact (display.run earlier).apply_step fun size here =>
    some size (known.subset (by simp [here]))

theorem run_shaped (shaped : display.grid.Shaped) (some : SomeCells events) :
    (display.run events).grid.Shaped := by
  induction events using List.reverseRecOn with
  | nil => exact shaped
  | append_singleton events event inductionHypothesis =>
      exact (run_step some (List.prefix_refl _)).shaped
        (inductionHypothesis (some.of_prefix (List.prefix_append ..)))

/-- A step off the screen brings back a cursor that is off the screen. -/
theorem run_fits (fits : display.grid.CursorFits) (some : SomeCells events)
    (straight : display.Straight events) : (display.run events).grid.CursorFits := by
  induction events using List.reverseRecOn with
  | nil => exact fits
  | append_singleton events event inductionHypothesis =>
      have earlier := List.prefix_append events [event]
      refine (run_step some (List.prefix_refl _)).fits
        (inductionHypothesis (some.of_prefix earlier) (straight.of_prefix earlier)) ?_
      intro recalls cursor saved
      by_contra outside
      exact straight events event (List.prefix_refl _) ⟨recalls, cursor, saved, outside⟩

/-- Nothing but a size that is too small brings a remembered cursor off the screen. -/
theorem run_saved (fits : display.grid.CursorFits) (fresh : display.grid.saved = none)
    (some : SomeCells events) (straight : display.Straight events) {cursor : Cursor}
    (saved : (display.run events).grid.saved = .some cursor) :
    cursor.position.Within (display.run events).grid.size ∨ display.CutOff events cursor := by
  induction events using List.reverseRecOn with
  | nil => exact absurd (fresh.symm.trans saved) nofun
  | append_singleton events event inductionHypothesis =>
      have before := List.prefix_append events [event]
      have fits := run_fits fits (some.of_prefix before) (straight.of_prefix before)
      obtain inside | ⟨old, size⟩ :=
        (run_step some (List.prefix_refl _)).saved fits saved
      · exact .inl inside
      rw [size]
      obtain within | cut := inductionHypothesis (some.of_prefix before)
        (straight.of_prefix before) old
      · match event with
        | .resize size =>
            by_cases inside : cursor.position.Within size
            · exact .inl inside
            · exact .inr ⟨events, size, List.prefix_refl _, old, within, inside⟩
        | .byte _ | .clear | .save | .restore => exact .inl within
      · exact .inr (cut.append before)

end Display

/-- The cursor of a display on which something happens. -/
structure CursorOnScreen (display : Display) (events : List DisplayEvent) : Prop where
  /-- The cursor is on the screen all the time, and a wrap is pending only in the last column,
  exactly if no cursor is brought back to where there is no cell. -/
  bounds : (∀ earlier, earlier <+: events → (display.run earlier).grid.CursorFits) ↔
    display.Straight events
  /-- As long as the cursor is on the screen, every character is in a cell of the screen after
  it was printed. -/
  printed : ∀ earlier byte c, earlier ++ [.byte byte] <+: events →
    .print c ∈ ((display.run earlier).decoder.step byte).2 →
    (display.run earlier).grid.CursorFits →
      (display.run earlier).grid.landing.Within (display.run earlier).grid.size ∧
      (display.run (earlier ++ [.byte byte])).grid.charAt? (display.run earlier).grid.landing.row
        (display.run earlier).grid.landing.col = some c
  /-- The first cursor that is brought back to where there is no cell was on the screen when
  it was remembered, and then cut off by a size. -/
  strays : ∀ earlier event, earlier ++ [event] <+: events → display.Straight earlier →
    (display.run earlier).Strays event →
      ∃ cursor, (display.run earlier).grid.saved = some cursor ∧ display.CutOff earlier cursor

theorem blank_fits {size : Size} {limit : Nat} (someRow : 0 < size.rows)
    (someCol : 0 < size.cols) : (Grid.blank size limit).CursorFits :=
  ⟨⟨someRow, someCol⟩, nofun⟩

/-- From a blank screen on, the cursor is on the screen whatever happens, and every character
that is printed is shown, up to the moment when a cursor is brought back that a size has cut
off. -/
theorem cursor_on_screen (size : Size) (limit : Nat) (events : List DisplayEvent)
    (someRow : 0 < size.rows) (someCol : 0 < size.cols)
    (someCells : ∀ size, .resize size ∈ events → 0 < size.rows ∧ 0 < size.cols) :
    CursorOnScreen (.ofGrid (.blank size limit)) events := by
  have fits : (Display.ofGrid (.blank size limit)).grid.CursorFits := blank_fits someRow someCol
  have shaped : (Display.ofGrid (.blank size limit)).grid.Shaped := Grid.blank_shaped size limit
  have some : Display.SomeCells events := someCells
  generalize start : Display.ofGrid (.blank size limit) = display at fits shaped ⊢
  have fresh : display.grid.saved = none := by rw [← start]; rfl
  refine ⟨⟨fun always earlier event known strays => ?_, fun straight earlier known => ?_⟩,
    fun earlier byte c known printed fits => ?_, fun earlier event known straight strays => ?_⟩
  · obtain ⟨recalls, cursor, saved, outside⟩ := strays
    have step : Grid.Step ((display.run earlier).recalls event) event.given
        (display.run earlier).grid (display.run (earlier ++ [event])).grid :=
      Display.run_step some known
    rw [recalls] at step
    exact step.strays saved outside (always _ known)
  · exact Display.run_fits fits (some.of_prefix known) (straight.of_prefix known)
  · have before := (List.prefix_append earlier _).trans known
    have shown : (display.run (earlier ++ [.byte byte])).grid =
        (display.run earlier).grid.put c := by
      rw [Display.run_concat]
      obtain none | ⟨instruction, told⟩ := (display.run earlier).decoder.step_cases byte
      · simp [none] at printed
      · obtain rfl := List.mem_singleton.mp (told ▸ printed)
        simp [Display.apply, Display.feedByte, told, Grid.perform_print]
    rw [shown]
    exact Grid.charAt?_put (Display.run_shaped shaped (some.of_prefix before)) fits c
  · obtain ⟨-, cursor, saved, outside⟩ := strays
    have before := (List.prefix_append earlier _).trans known
    exact ⟨cursor, saved, (Display.run_saved fits fresh (some.of_prefix before) straight
      saved).resolve_left outside⟩

/-- A cursor is remembered in the last cell of five rows and ten columns, two rows and three
columns are left of the screen, the cursor is brought back and a character printed: no cell
shows it. -/
theorem cursor_on_screen_cut :
    let start := Display.ofGrid (.blank ⟨5, 10⟩ 100)
    let events := [.byte 0x1B, .byte 0x5B, .byte 0x35, .byte 0x3B, .byte 0x31, .byte 0x30,
      .byte 0x48, .save, .resize ⟨2, 3⟩, .restore, .byte 0x78]
    CursorOnScreen start events ∧ ¬ start.Straight events ∧
      (start.run events).grid.cursor.position = ⟨4, 9⟩ ∧
      (start.run events).grid.rows = blankRows ⟨2, 3⟩ := by
  intro start events
  have followed : CursorOnScreen start events :=
    cursor_on_screen ⟨5, 10⟩ 100 events (by decide) (by decide) fun size member => by
      have : size = ⟨2, 3⟩ := by simpa [events] using member
      subst this
      decide
  refine ⟨followed, fun straight => ?_, by decide, by decide⟩
  have fits := followed.bounds.mpr straight events (List.prefix_refl _)
  exact absurd fits.within (by decide)

end RuntimeConsole
