/-
Module: RuntimeConsole.Proofs.TapeRefinement
Purpose: A screen with its scrollback shows the window of a tape that forgets nothing,
  whatever is fed to both.
Main exports:
  Tape.Ordered, Tape.Descends, Tape.perform_toGrid, grid_follows_tape
-/
import RuntimeConsole.Proofs.ScreenCells

namespace RuntimeConsole

open Coordinate

namespace Tape

/-- A tape a screen can show: the cursor is in the window, also the one to be restored, and
nothing has been printed below the window. -/
structure Ordered (tape : Tape) : Prop where
  rows : tape.height ≤ 65535
  /-- Up to this width every tab stop is a column of sixteen bits. -/
  cols : tape.width ≤ 65528
  inside : tape.CursorInside
  savedInside : ∀ depth col, tape.saved = some (depth, col) →
    depth < tape.height ∧ col < tape.width
  below : ∀ row col, tape.top + tape.height ≤ row → tape.cell row col = ' '

/-- The window has moved down, if at all, and left the rows above it as they were. -/
structure Descends (before after : Tape) : Prop where
  height : after.height = before.height
  width : after.width = before.width
  top : before.top ≤ after.top
  kept : ∀ row col, row < before.top → after.cell row col = before.cell row col

variable {tape first second third : Tape}

theorem Descends.refl (tape : Tape) : Descends tape tape :=
  ⟨rfl, rfl, Nat.le_refl _, fun _ _ _ => rfl⟩

theorem Descends.trans (earlier : Descends first second) (later : Descends second third) :
    Descends first third where
  height := later.height.trans earlier.height
  width := later.width.trans earlier.width
  top := Nat.le_trans earlier.top later.top
  kept row col above :=
    (later.kept row col (Nat.lt_of_lt_of_le above earlier.top)).trans
      (earlier.kept row col above)

/-- An operation that leaves the window where it is. -/
theorem Descends.of_kept (height : second.height = first.height)
    (width : second.width = first.width) (top : second.top = first.top)
    (kept : ∀ row col, row < first.top → second.cell row col = first.cell row col) :
    Descends first second :=
  ⟨height, width, Nat.le_of_eq top.symm, kept⟩

/-- What is above the window once stays there, row by row. -/
theorem Descends.above_isPrefix (descends : Descends first second) :
    first.above <+: second.above := by
  obtain ⟨more, grown⟩ := Nat.exists_eq_add_of_le descends.top
  refine ⟨tabulate more first.width fun row col => second.cell (first.top + row) col, ?_⟩
  have same : first.above = tabulate first.top first.width fun row => second.cell row :=
    tabulate_congr fun row above col _ => by
      simpa using (descends.kept row col above).symm
  rw [same, ← tabulate_add, above, lines, descends.width, grown]
  simp

/-- Every row down to the end of the window is above the window or in it, once and in
order. -/
theorem above_append_window (tape : Tape) :
    tape.above ++ tape.window = tape.lines 0 (tape.top + tape.height) := by
  simp [above, window, lines, tabulate_add]

/-! ### Positions -/

theorem Ordered.row_lt (ordered : tape.Ordered) : tape.row - tape.top < 65536 := by
  have := ordered.inside.2.1
  have := ordered.rows
  omega

theorem Ordered.col_lt (ordered : tape.Ordered) : tape.col < 65536 := by
  have := ordered.inside.2.2
  have := ordered.cols
  omega

theorem Ordered.toGrid_row (ordered : tape.Ordered) (limit : Nat) :
    (tape.toGrid limit).cursor.position.row.toNat = tape.row - tape.top :=
  UInt16.toNat_ofNat_of_lt' ordered.row_lt

theorem Ordered.toGrid_col (ordered : tape.Ordered) (limit : Nat) :
    (tape.toGrid limit).cursor.position.col.toNat = tape.col :=
  UInt16.toNat_ofNat_of_lt' ordered.col_lt

theorem Ordered.toGrid_rows (ordered : tape.Ordered) (limit : Nat) :
    (tape.toGrid limit).size.rows.toNat = tape.height :=
  UInt16.toNat_ofNat_of_lt' (Nat.lt_succ_of_le ordered.rows)

theorem Ordered.toGrid_cols (ordered : tape.Ordered) (limit : Nat) :
    (tape.toGrid limit).size.cols.toNat = tape.width :=
  UInt16.toNat_ofNat_of_lt' (by have := ordered.cols; simp only [UInt16.size]; omega)

theorem Ordered.toGrid_lastRow (ordered : tape.Ordered) (limit : Nat) :
    (tape.toGrid limit).lastRow.toNat = tape.height - 1 := by
  rw [Grid.toNat_lastRow, ordered.toGrid_rows limit]

theorem Ordered.toGrid_lastCol (ordered : tape.Ordered) (limit : Nat) :
    (tape.toGrid limit).lastCol.toNat = tape.width - 1 := by
  rw [Grid.toNat_lastCol, ordered.toGrid_cols limit]

/-- The cursor is on the screen. -/
theorem Ordered.toGrid_inside (ordered : tape.Ordered) (limit : Nat) :
    (tape.toGrid limit).cursor.position.row < (tape.toGrid limit).size.rows ∧
      (tape.toGrid limit).cursor.position.col < (tape.toGrid limit).size.cols := by
  obtain ⟨top, bottom, right⟩ := ordered.inside
  rw [UInt16.lt_iff_toNat_lt, UInt16.lt_iff_toNat_lt, ordered.toGrid_row, ordered.toGrid_col,
    ordered.toGrid_rows, ordered.toGrid_cols]
  omega

/-- The screen shows the tape after an operation, and the tape after it is in order and has
only moved down. -/
structure Simulates (limit : Nat) (before after : Tape) (grid : Grid) : Prop where
  shown : grid = after.toGrid limit
  ordered : after.Ordered
  descends : Descends before after

theorem Simulates.idle (ordered : tape.Ordered) (limit : Nat) :
    Simulates limit tape tape (tape.toGrid limit) :=
  ⟨rfl, ordered, .refl tape⟩

/-- A move to a place in the window. -/
theorem Ordered.moveTo (ordered : tape.Ordered) (limit : Nat) {row col : UInt16}
    {place column : Nat} (top : tape.top ≤ place) (bottom : place < tape.top + tape.height)
    (right : column < tape.width) (rowEq : row.toNat = place - tape.top)
    (colEq : col.toNat = column) :
    Simulates limit tape (tape.moveTo place column)
      ((tape.toGrid limit).moveTo row col) where
  shown := by
    have depth : UInt16.ofNat (place - tape.top) = row := by
      rw [← rowEq, UInt16.ofNat_toNat]
    have shift : UInt16.ofNat column = col := by rw [← colEq, UInt16.ofNat_toNat]
    simp [toGrid, Tape.moveTo, Grid.moveTo, cursorAt, window, above, lines, depth, shift]
  ordered := ⟨ordered.rows, ordered.cols, ⟨top, bottom, right⟩, ordered.savedInside,
    ordered.below⟩
  descends := .of_kept rfl rfl rfl fun _ _ _ => rfl

/-! ### Line feeds -/

theorem Ordered.lineFeed_ordered (ordered : tape.Ordered) : tape.lineFeed.Ordered where
  rows := ordered.rows
  cols := ordered.cols
  inside := by
    obtain ⟨top, bottom, right⟩ := ordered.inside
    simp [CursorInside, Tape.lineFeed]
    omega
  savedInside := ordered.savedInside
  below row col beyond := ordered.below row col (by
    simp [Tape.lineFeed] at beyond
    omega)

theorem lineFeed_descends (tape : Tape) : Descends tape tape.lineFeed :=
  ⟨rfl, rfl, Nat.le_max_left _ _, fun _ _ _ => rfl⟩

/-- Above the last row of the window a line feed is a move. -/
theorem lineFeed_eq_moveTo (inner : tape.row + 1 < tape.top + tape.height) :
    tape.lineFeed = tape.moveTo (tape.row + 1) tape.col := by
  have top : max tape.top (tape.row + 2 - tape.height) = tape.top := by omega
  rw [Tape.lineFeed, top]
  rfl

theorem top_lineFeed (last : tape.row + 1 = tape.top + tape.height) :
    tape.lineFeed.top = tape.top + 1 := by
  change max tape.top (tape.row + 2 - tape.height) = _
  omega

/-- The row that leaves the window is the last one above it. -/
theorem above_lineFeed (last : tape.row + 1 = tape.top + tape.height) :
    tape.lineFeed.above = tape.above ++ [(List.range tape.width).map (tape.cell tape.top)] := by
  rw [above, lines, top_lineFeed last, tabulate_add]
  simp [above, lines, tabulate, Tape.lineFeed]

/-- The other rows of the window move up in it, and a blank one follows them. -/
theorem Ordered.window_lineFeed (ordered : tape.Ordered)
    (last : tape.row + 1 = tape.top + tape.height) {height : Nat}
    (heightEq : tape.height = height + 1) {cols : UInt16} (colsEq : tape.width = cols.toNat) :
    tape.lineFeed.window =
      (tabulate height tape.width fun row => tape.cell (tape.top + (row + 1))) ++
        [blankRow cols] := by
  have empty (col : Nat) : tape.cell (tape.top + (height + 1)) col = ' ' :=
    ordered.below _ col (by omega)
  rw [scroll_tabulate (fun row => tape.cell (tape.top + row)) colsEq fun col _ => empty col,
    ← heightEq]
  refine tabulate_congr fun row _ col _ => ?_
  change tape.cell (tape.lineFeed.top + row) col = _
  rw [top_lineFeed last, Nat.add_right_comm, Nat.add_assoc]

/-- On the last row of the window the screen moves up and keeps the row that leaves it. -/
theorem Ordered.scrollUp (ordered : tape.Ordered) (limit : Nat)
    (last : tape.row + 1 = tape.top + tape.height) :
    { tape.toGrid limit with wrapPending := false }.scrollUp = tape.lineFeed.toGrid limit := by
  obtain ⟨height, heightEq⟩ : ∃ height, tape.height = height + 1 :=
    ⟨tape.height - 1, by have := ordered.inside.1; omega⟩
  have rows : (tape.toGrid limit).rows =
      (List.range tape.width).map (tape.cell tape.top) ::
        tabulate height tape.width fun row => tape.cell (tape.top + (row + 1)) := by
    change tape.window = _
    rw [window, lines, heightEq, tabulate_succ]
    rfl
  have depth : tape.lineFeed.row - tape.lineFeed.top = tape.row - tape.top := by
    rw [top_lineFeed last]
    change tape.row + 1 - (tape.top + 1) = _
    omega
  have window := ordered.window_lineFeed last heightEq (ordered.toGrid_cols limit).symm
  unfold Grid.scrollUp
  dsimp only
  rw [rows]
  simp only [toGrid, above_lineFeed last, depth, List.map_append, List.map_cons, List.map_nil]
  rw [keepLast_append, window]
  rfl

theorem Ordered.lineFeed (ordered : tape.Ordered) (limit : Nat) :
    Simulates limit tape tape.lineFeed (tape.toGrid limit).lineFeed := by
  refine ⟨?_, ordered.lineFeed_ordered, tape.lineFeed_descends⟩
  obtain ⟨top, bottom, right⟩ := ordered.inside
  have high := ordered.rows
  have rows := ordered.toGrid_rows limit
  have next : ((tape.toGrid limit).cursor.position.row + 1).toNat = tape.row + 1 - tape.top := by
    rw [UInt16.toNat_add, ordered.toGrid_row limit]
    simp
    omega
  have bound : (tape.toGrid limit).size.rows ≤ (tape.toGrid limit).cursor.position.row + 1 ↔
      tape.row + 1 = tape.top + tape.height := by
    rw [UInt16.le_iff_toNat_le]
    omega
  rw [Grid.lineFeed_of_next (add?_one (ordered.toGrid_inside limit).1)]
  unfold Grid.descend
  split
  next atEnd => exact ordered.scrollUp limit (bound.mp atEnd)
  next inner =>
      have inner : tape.row + 1 < tape.top + tape.height := by
        have := mt bound.mpr inner
        omega
      rw [lineFeed_eq_moveTo inner]
      exact (ordered.moveTo limit (by omega) inner right next (ordered.toGrid_col limit)).shown

/-! ### Printing -/

theorem Ordered.wrap (ordered : tape.Ordered) (limit : Nat) :
    Simulates limit tape tape.wrap (tape.toGrid limit).wrap := by
  rw [Grid.wrap_eq (ordered.toGrid_inside limit).1]
  unfold Tape.wrap
  change Simulates limit tape (if tape.full then _ else _) (if tape.full then _ else _)
  split
  · obtain ⟨top, bottom, right⟩ := ordered.inside
    have returned : Simulates limit tape (tape.moveTo tape.row 0)
        (tape.toGrid limit).carriageReturn :=
      ordered.moveTo limit top bottom (by omega) (ordered.toGrid_row limit) rfl
    have fed := returned.ordered.lineFeed limit
    rw [returned.shown]
    exact ⟨fed.shown, fed.ordered, returned.descends.trans fed.descends⟩
  · exact .idle ordered limit

/-- Cells of the window are changed. -/
theorem Ordered.changeCells (ordered : tape.Ordered) (limit : Nat) {cell : Nat → Nat → Char}
    {rows : List (List Char)}
    (kept : ∀ row col, ¬ (tape.top ≤ row ∧ row < tape.top + tape.height) →
      cell row col = tape.cell row col)
    (shown : rows = tabulate tape.height tape.width fun row => cell (tape.top + row)) :
    Simulates limit tape { tape with cell := cell }
      { tape.toGrid limit with rows := rows } where
  shown := by
    have above : { tape with cell := cell }.above = tape.above :=
      tabulate_congr fun row (inside : row < tape.top) col _ => kept (0 + row) col (by omega)
    simp only [toGrid, above, shown]
    rfl
  ordered := ⟨ordered.rows, ordered.cols, ordered.inside, ordered.savedInside,
    fun row col beyond => (kept row col (by have : tape.top + tape.height ≤ row := beyond; omega))
      |>.trans (ordered.below row col beyond)⟩
  descends := .of_kept rfl rfl rfl fun row col above => kept row col (by omega)

theorem Ordered.write (ordered : tape.Ordered) (limit : Nat) (c : Char) :
    Simulates limit tape (tape.write c)
      ((tape.toGrid limit).setCell (tape.toGrid limit).cursor.position.row
        (tape.toGrid limit).cursor.position.col c) := by
  obtain ⟨top, bottom, right⟩ := ordered.inside
  refine ordered.changeCells limit (fun row col outside => if_neg fun here => ?_) ?_
  · omega
  · rw [ordered.toGrid_row limit, ordered.toGrid_col limit]
    change tape.window.modify _ _ = _
    rw [Tape.window, lines, modify_set_tabulate]
    refine tabulate_congr fun row _ col _ => ?_
    have place : row = tape.row - tape.top ↔ tape.top + row = tape.row := by omega
    simp [place]

theorem Ordered.print (ordered : tape.Ordered) (limit : Nat) (c : Char) :
    Simulates limit tape (tape.print c) ((tape.toGrid limit).put c) := by
  have wrapped := ordered.wrap limit
  have written := wrapped.ordered.write limit c
  unfold Tape.print
  have done := Grid.wrap?_eq (ordered.toGrid_inside limit).1
  rw [wrapped.shown] at done
  rw [Grid.put_of_next done (add?_one (wrapped.ordered.toGrid_inside limit).2), written.shown]
  unfold Grid.advance
  generalize tape.wrap = line at wrapped written ⊢
  obtain ⟨top, bottom, right⟩ := written.ordered.inside
  have narrow := written.ordered.cols
  have col : (line.toGrid limit).cursor.position.col.toNat = (line.write c).col :=
    wrapped.ordered.toGrid_col limit
  have next : ((line.toGrid limit).cursor.position.col + 1).toNat = (line.write c).col + 1 := by
    rw [UInt16.toNat_add, col]
    simp
    omega
  have bound : ((line.write c).toGrid limit).size.cols ≤
        (line.toGrid limit).cursor.position.col + 1 ↔
      ¬ (line.write c).col + 1 < (line.write c).width := by
    rw [UInt16.le_iff_toNat_le, next, written.ordered.toGrid_cols limit]
    omega
  obtain ⟨height, width, window, kept⟩ := wrapped.descends.trans written.descends
  unfold forward
  by_cases inner : (line.write c).col + 1 < (line.write c).width
  · have shift : UInt16.ofNat ((line.write c).col + 1) =
        (line.toGrid limit).cursor.position.col + 1 := by
      rw [← next, UInt16.ofNat_toNat]
    rw [if_pos inner, if_neg (fun atEnd => bound.mp atEnd inner)]
    refine ⟨?_, ⟨written.ordered.rows, narrow, ⟨top, bottom, inner⟩,
      written.ordered.savedInside, written.ordered.below⟩, ⟨height, width, window, kept⟩⟩
    simp only [toGrid, cursorAt, shift]
    rfl
  · rw [if_neg inner, if_pos (bound.mpr inner)]
    exact ⟨rfl, ⟨written.ordered.rows, narrow, ⟨top, bottom, right⟩,
      written.ordered.savedInside, written.ordered.below⟩, ⟨height, width, window, kept⟩⟩

/-! ### Erasing -/

theorem Ordered.erase (ordered : tape.Ordered) (limit : Nat) (region : Nat → Nat → Prop)
    [DecidableRel region] {rows : List (List Char)}
    (shown : rows = tabulate tape.height tape.width fun row col =>
      if region (tape.top + row) col then ' ' else tape.cell (tape.top + row) col) :
    Simulates limit tape (tape.erase region) { tape.toGrid limit with rows := rows } := by
  refine ordered.changeCells limit (fun row col outside => if_neg fun here => outside here.1) ?_
  rw [shown]
  refine tabulate_congr fun row inside col _ => ?_
  have within : tape.top ≤ tape.top + row ∧ tape.top + row < tape.top + tape.height := by omega
  simp [within]

theorem Ordered.eraseInRow (ordered : tape.Ordered) (limit : Nat) {row start stop : UInt16}
    (region : Nat → Nat → Prop) [DecidableRel region]
    (inRow : ∀ depth col, col < tape.width →
      (depth = row.toNat ∧ start.toNat ≤ col ∧ col < stop.toNat ↔
        region (tape.top + depth) col)) :
    Simulates limit tape (tape.erase region) ((tape.toGrid limit).eraseInRow row start stop) := by
  refine ordered.erase limit region ?_
  change tape.window.modify _ _ = _
  rw [Tape.window, lines, modify_eraseCells_tabulate]
  refine tabulate_congr fun depth _ col within => ?_
  simp only [inRow depth col within]

theorem Ordered.eraseRows (ordered : tape.Ordered) (limit : Nat) {start stop : UInt16}
    (region : Nat → Nat → Prop) [DecidableRel region]
    (inRows : ∀ depth col, depth < tape.height →
      (start.toNat ≤ depth ∧ depth < stop.toNat ↔ region (tape.top + depth) col)) :
    Simulates limit tape (tape.erase region) ((tape.toGrid limit).eraseRows start stop) := by
  refine ordered.erase limit region ?_
  change tape.window.mapIdx _ = _
  rw [Tape.window, lines]
  refine mapIdx_tabulate fun depth inside => ?_
  rw [ordered.toGrid_rows limit, ordered.toGrid_cols limit, eraseCells_range]
  have chosen (col : Nat) := inRows depth col inside
  by_cases here : start.toNat ≤ depth ∧ depth < stop.toNat
  · rw [if_pos (by omega)]
    refine List.map_congr_left fun col within => ?_
    rw [if_pos ⟨Nat.zero_le _, List.mem_range.mp within⟩, if_pos ((chosen col).mp here)]
  · rw [if_neg (by omega)]
    refine List.map_congr_left fun col _ => (if_neg (mt (chosen col).mpr here)).symm

/-- A region is erased in two steps. -/
theorem erase_erase (tape : Tape) {first second both : Nat → Nat → Prop} [DecidableRel first]
    [DecidableRel second] [DecidableRel both]
    (split : ∀ row col, both row col ↔ first row col ∨ second row col) :
    (tape.erase first).erase second = tape.erase both := by
  unfold erase
  congr 1
  funext row col
  by_cases inside : tape.top ≤ row ∧ row < tape.top + tape.height <;>
    by_cases inFirst : first row col <;> by_cases inSecond : second row col <;>
      simp [inside, inFirst, inSecond, split]

theorem Simulates.trans {limit : Nat} {grid : Grid} (earlier : Simulates limit first second grid)
    (change : Grid → Grid) (later : Simulates limit second third (change (second.toGrid limit))) :
    Simulates limit first third (change grid) where
  shown := by rw [earlier.shown, later.shown]
  ordered := later.ordered
  descends := earlier.descends.trans later.descends

/-- What is erased in two steps is erased as a whole. -/
theorem Simulates.eraseAlso {limit : Nat} {grid : Grid} {first second both : Nat → Nat → Prop}
    [DecidableRel first] [DecidableRel second] [DecidableRel both]
    (earlier : Simulates limit tape (tape.erase first) grid) (change : Grid → Grid)
    (later : Simulates limit (tape.erase first) ((tape.erase first).erase second)
      (change ((tape.erase first).toGrid limit)))
    (split : ∀ row col, both row col ↔ first row col ∨ second row col) :
    Simulates limit tape (tape.erase both) (change grid) := by
  rw [← erase_erase tape split]
  exact earlier.trans change later

theorem Ordered.nextRow (ordered : tape.Ordered) (limit : Nat) :
    ((tape.toGrid limit).cursor.position.row + 1).toNat = tape.row - tape.top + 1 := by
  have := ordered.inside.2.1
  have := ordered.rows
  rw [UInt16.toNat_add, ordered.toGrid_row limit]
  simp
  omega

theorem Ordered.nextCol (ordered : tape.Ordered) (limit : Nat) :
    ((tape.toGrid limit).cursor.position.col + 1).toNat = tape.col + 1 := by
  have := ordered.inside.2.2
  have := ordered.cols
  rw [UInt16.toNat_add, ordered.toGrid_col limit]
  simp
  omega

theorem Ordered.eraseWindow (ordered : tape.Ordered) (limit : Nat) (mode : UInt16) :
    Simulates limit tape (tape.eraseWindow mode) ((tape.toGrid limit).eraseDisplay mode) := by
  have row := ordered.toGrid_row limit
  have col := ordered.toGrid_col limit
  have rows := ordered.toGrid_rows limit
  have cols := ordered.toGrid_cols limit
  have nextRow := ordered.nextRow limit
  have nextCol := ordered.nextCol limit
  have top := ordered.inside.1
  rw [Grid.eraseDisplay_eq, add?_one (ordered.toGrid_inside limit).1,
    add?_one (ordered.toGrid_inside limit).2]
  unfold Tape.eraseWindow
  simp only [← UInt16.toNat_inj, UInt16.reduceToNat, Option.map_some, Grid.orOverflow_some]
  generalize (tape.toGrid limit).cursor.position.row + 1 = below at nextRow ⊢
  generalize (tape.toGrid limit).cursor.position.col + 1 = behind at nextCol ⊢
  generalize (tape.toGrid limit).cursor.position.row = depth at row ⊢
  generalize (tape.toGrid limit).cursor.position.col = shift at col ⊢
  generalize (tape.toGrid limit).size.rows = height at rows ⊢
  generalize (tape.toGrid limit).size.cols = width at cols ⊢
  have everything : Simulates limit tape (tape.erase fun _ _ => True)
      ((tape.toGrid limit).eraseRows 0 height) :=
    ordered.eraseRows limit _ fun place _ inside => by simp; omega
  split
  next after =>
      rw [if_pos after]
      have inRow : Simulates limit tape (tape.erase fun r c => r = tape.row ∧ tape.col ≤ c)
          ((tape.toGrid limit).eraseInRow depth shift width) :=
        ordered.eraseInRow limit _ fun place c within => by omega
      refine inRow.eraseAlso (·.eraseRows below height)
        (inRow.ordered.eraseRows limit (fun r _ => tape.row < r) fun place _ inside => ?_)
        fun r c => by omega
      change place < tape.height at inside
      change _ ↔ tape.row < tape.top + place
      omega
  next before =>
      rw [if_neg (by rw [before]; decide), if_pos before]
      have inRows : Simulates limit tape (tape.erase fun r _ => r < tape.row)
          ((tape.toGrid limit).eraseRows 0 depth) :=
        ordered.eraseRows limit _ fun place _ inside => by simp; omega
      refine inRows.eraseAlso (·.eraseInRow depth 0 behind)
        (inRows.ordered.eraseInRow limit (fun r c => r = tape.row ∧ c ≤ tape.col)
          fun place c within => ?_) fun r c => by omega
      change _ ↔ tape.top + place = tape.row ∧ c ≤ tape.col
      simp
      omega
  next all =>
      rw [if_neg (by rw [all]; decide), if_neg (by rw [all]; decide), if_pos (.inl all)]
      exact everything
  next all =>
      rw [if_neg (by rw [all]; decide), if_neg (by rw [all]; decide), if_pos (.inr all)]
      exact everything
  next zero one two three =>
      rw [if_neg zero, if_neg one, if_neg (not_or.mpr ⟨two, three⟩)]
      exact .idle ordered limit

theorem Ordered.eraseRow (ordered : tape.Ordered) (limit : Nat) (mode : UInt16) :
    Simulates limit tape (tape.eraseRow mode) ((tape.toGrid limit).eraseLine mode) := by
  have row := ordered.toGrid_row limit
  have col := ordered.toGrid_col limit
  have cols := ordered.toGrid_cols limit
  have nextCol := ordered.nextCol limit
  have top := ordered.inside.1
  rw [Grid.eraseLine_eq, add?_one (ordered.toGrid_inside limit).2]
  unfold Tape.eraseRow
  simp only [← UInt16.toNat_inj, UInt16.reduceToNat, Option.map_some, Grid.orOverflow_some]
  generalize (tape.toGrid limit).cursor.position.col + 1 = behind at nextCol ⊢
  split
  next after =>
      rw [if_pos after]
      exact ordered.eraseInRow limit _ fun place c within => by omega
  next before =>
      rw [if_neg (by rw [before]; decide), if_pos before]
      exact ordered.eraseInRow limit _ fun place c within => by simp; omega
  next all =>
      rw [if_neg (by rw [all]; decide), if_neg (by rw [all]; decide), if_pos all]
      exact ordered.eraseInRow limit _ fun place c within => by simp; omega
  next zero one two =>
      rw [if_neg zero, if_neg one, if_neg two]
      exact .idle ordered limit

/-! ### The cursor that is remembered -/

theorem Ordered.save (ordered : tape.Ordered) (limit : Nat) :
    Simulates limit tape tape.save (tape.toGrid limit).saveCursor where
  shown := rfl
  ordered := ⟨ordered.rows, ordered.cols, ordered.inside, by
    obtain ⟨top, bottom, right⟩ := ordered.inside
    rintro depth col ⟨⟩
    change tape.row - tape.top < tape.height ∧ tape.col < tape.width
    exact ⟨by omega, right⟩, ordered.below⟩
  descends := .of_kept rfl rfl rfl fun _ _ _ => rfl

theorem Ordered.restore (ordered : tape.Ordered) (limit : Nat) :
    Simulates limit tape tape.restore (tape.toGrid limit).restoreCursor := by
  have remembered : (tape.toGrid limit).saved =
      tape.saved.map fun cursor => cursorAt cursor.1 cursor.2 := rfl
  unfold Grid.restoreCursor Tape.restore
  rw [remembered]
  cases saved : tape.saved with
  | none => exact .idle ordered limit
  | some cursor =>
      obtain ⟨depth, col⟩ := cursor
      obtain ⟨bottom, right⟩ := ordered.savedInside depth col saved
      refine ⟨?_, ⟨ordered.rows, ordered.cols, ⟨by simp [Tape.moveTo], by simpa [Tape.moveTo],
        right⟩, nofun, ordered.below⟩, .of_kept rfl rfl rfl fun _ _ _ => rfl⟩
      simp only [Option.map_some, toGrid, Tape.moveTo, Nat.add_sub_cancel_left]
      rfl

/-! ### Instructions -/

/-- The next tab stop has a column of sixteen bits. -/
theorem Ordered.tabStop (ordered : tape.Ordered) (limit : Nat) :
    (min (((tape.toGrid limit).cursor.position.col / Grid.tabWidth + 1) * Grid.tabWidth)
      (tape.toGrid limit).lastCol).toNat = min (tape.col / 8 * 8 + 8) (tape.width - 1) := by
  have right := ordered.inside.2.2
  have narrow := ordered.cols
  rw [toNat_min, ordered.toGrid_lastCol limit, UInt16.toNat_mul, UInt16.toNat_add,
    UInt16.toNat_div, ordered.toGrid_col limit]
  simp [Grid.tabWidth]
  omega

theorem Ordered.tab_eq (ordered : tape.Ordered) (limit : Nat) :
    (tape.toGrid limit).tab =
      (tape.toGrid limit).moveTo (tape.toGrid limit).cursor.position.row
        (min (((tape.toGrid limit).cursor.position.col / Grid.tabWidth + 1) * Grid.tabWidth)
          (tape.toGrid limit).lastCol) := by
  have near : ¬ 65528 ≤ (tape.toGrid limit).cursor.position.col.toNat := by
    have right := ordered.inside.2.2
    have narrow := ordered.cols
    rw [ordered.toGrid_col limit]
    omega
  rw [Grid.tab, Grid.tab?, Grid.nextStop?_eq, if_neg near]
  rfl

theorem Ordered.execute (ordered : tape.Ordered) (limit : Nat) (byte : UInt8) :
    Simulates limit tape (tape.execute byte) ((tape.toGrid limit).execute byte) := by
  obtain ⟨top, bottom, right⟩ := ordered.inside
  have row := ordered.toGrid_row limit
  have col := ordered.toGrid_col limit
  rw [Grid.execute_eq]
  unfold Tape.execute
  simp only [beq_iff_eq, Bool.or_eq_true, ← UInt8.toNat_inj, UInt8.reduceToNat]
  split
  next back =>
      rw [if_pos back]
      refine ordered.moveTo limit top bottom (by omega) row ?_
      split
      next first => simp [← col, first]
      next beyond =>
          have positive : 1 ≤ (tape.toGrid limit).cursor.position.col.toNat :=
            Nat.pos_of_ne_zero fun none => beyond (UInt16.toNat_inj.mp none)
          rw [UInt16.toNat_sub_of_le _ _ positive, col]
          rfl
  next tab =>
      rw [if_neg (by omega), if_pos tab, ordered.tab_eq limit]
      exact ordered.moveTo limit top bottom (by omega) row (ordered.tabStop limit)
  next feed =>
      rw [if_neg (by omega), if_neg (by omega), if_pos (by omega)]
      exact ordered.lineFeed limit
  next feed =>
      rw [if_neg (by omega), if_neg (by omega), if_pos (by omega)]
      exact ordered.lineFeed limit
  next feed =>
      rw [if_neg (by omega), if_neg (by omega), if_pos (by omega)]
      exact ordered.lineFeed limit
  next back =>
      rw [if_neg (by omega), if_neg (by omega), if_neg (by omega), if_pos back]
      exact ordered.moveTo limit top bottom (Nat.zero_lt_of_lt right) row rfl
  next notBack notTab notFeed notDown notForm notReturn =>
      rw [if_neg notBack, if_neg notTab,
        if_neg (not_or.mpr ⟨not_or.mpr ⟨notFeed, notDown⟩, notForm⟩), if_neg notReturn]
      exact .idle ordered limit

/-- A sequence moves the cursor at least by one. -/
theorem toNat_distance (parameters : List (List UInt16)) :
    (Grid.distance parameters).toNat = max 1 (argument parameters 0 1) := by
  unfold Grid.distance Grid.parameter? argument
  cases parameters[0]?.bind List.head? with
  | none => rfl
  | some n =>
      dsimp only [Option.map_some, Option.getD_some]
      split
      next none => simp [none]
      next some =>
          have positive : n.toNat ≠ 0 := fun none => some (UInt16.toNat_inj.mp none)
          omega

theorem toNat_parameter (parameters : List (List UInt16)) (place : Nat) :
    ((Grid.parameter? parameters place).getD 1).toNat = argument parameters place 1 := by
  unfold Grid.parameter? argument
  cases parameters[place]?.bind List.head? <;> rfl

theorem Ordered.moveToParameters (ordered : tape.Ordered) (limit : Nat)
    (parameters : List (List UInt16)) :
    Simulates limit tape
      (tape.moveTo
        (min (tape.top + (tape.height - 1)) (tape.top + (argument parameters 0 1 - 1)))
        (min (tape.width - 1) (argument parameters 1 1 - 1)))
      ((tape.toGrid limit).moveToParameters parameters) := by
  obtain ⟨top, bottom, right⟩ := ordered.inside
  refine ordered.moveTo limit (by omega) (by omega) (by omega) ?_ ?_
  · rw [toNat_min, Grid.toNat_coordinateSub, toNat_parameter, ordered.toGrid_lastRow limit]
    simp
    omega
  · rw [toNat_min, Grid.toNat_coordinateSub, toNat_parameter, ordered.toGrid_lastCol limit,
      Nat.min_comm]
    rfl

theorem Ordered.control (ordered : tape.Ordered) (limit : Nat) (parameters : List (List UInt16))
    (final : UInt8) :
    Simulates limit tape (tape.control parameters (Char.ofNat final.toNat))
      ((tape.toGrid limit).control parameters final) := by
  obtain ⟨top, bottom, right⟩ := ordered.inside
  have row := ordered.toGrid_row limit
  have col := ordered.toGrid_col limit
  have lastRow := ordered.toGrid_lastRow limit
  have lastCol := ordered.toGrid_lastCol limit
  have distance := toNat_distance parameters
  rw [Grid.control_eq]
  generalize Char.ofNat final.toNat = final
  dsimp only
  split
  next =>
      refine ordered.moveTo limit (by omega) (by omega) right ?_ col
      rw [Grid.toNat_coordinateSub]
      omega
  next =>
      refine ordered.moveTo limit (by omega) (by omega) right ?_ col
      rw [Grid.toNat_coordinateAdd]
      omega
  next =>
      refine ordered.moveTo limit top bottom (by omega) row ?_
      rw [Grid.toNat_coordinateAdd]
      omega
  next =>
      refine ordered.moveTo limit top bottom (by omega) row ?_
      rw [Grid.toNat_coordinateSub]
      omega
  next =>
      refine ordered.moveTo limit top bottom (by omega) row ?_
      rw [toNat_min, UInt16.toNat_sub_of_le _ _ (Grid.one_le_distance parameters), distance, lastCol,
        Nat.min_comm]
      rfl
  next => exact ordered.moveToParameters limit parameters
  next => exact ordered.moveToParameters limit parameters
  next => exact ordered.eraseWindow limit _
  next => exact ordered.eraseRow limit _
  next => exact ordered.save limit
  next => exact ordered.restore limit
  next =>
      -- No other letter means anything, to the window either.
      have nothing : tape.control parameters final = tape := by
        unfold Tape.control
        split <;> first | rfl | contradiction
      rw [nothing]
      exact .idle ordered limit

/-- Every instruction does to the screen what it does to the window. -/
theorem Ordered.perform (ordered : tape.Ordered) (limit : Nat) (instruction : Instruction) :
    Simulates limit tape (tape.perform instruction) ((tape.toGrid limit).perform instruction) := by
  cases instruction with
  | print c => exact ordered.print limit c
  | execute byte => exact ordered.execute limit byte
  | control parameters marked final =>
      cases marked with
      | false => exact ordered.control limit parameters final
      | true => exact .idle ordered limit
  | escape final =>
      rw [Grid.perform_escape]
      unfold Tape.perform
      simp only [beq_iff_eq, ← UInt8.toNat_inj, UInt8.reduceToNat]
      split
      next save => rw [if_pos save]; exact ordered.save limit
      next restore => rw [if_neg (by omega), if_pos restore]; exact ordered.restore limit
      next notSave notRestore =>
          rw [if_neg notSave, if_neg notRestore]
          exact .idle ordered limit

theorem Ordered.performAll (ordered : tape.Ordered) (limit : Nat)
    (instructions : List Instruction) :
    Simulates limit tape (instructions.foldl Tape.perform tape)
      (instructions.foldl Grid.perform (tape.toGrid limit)) := by
  induction instructions generalizing tape with
  | nil => exact .idle ordered limit
  | cons instruction instructions inductionHypothesis =>
      have performed := ordered.perform limit instruction
      exact performed.trans (instructions.foldl Grid.perform ·)
        (inductionHypothesis performed.ordered)

theorem blank_ordered {size : Size} (someRow : 0 < size.rows) (someCol : 0 < size.cols)
    (narrow : size.cols ≤ 65528) : (blank size).Ordered where
  rows := Nat.le_of_lt_succ size.rows.toNat_lt
  cols := UInt16.le_iff_toNat_le.mp narrow
  inside := ⟨Nat.le_refl _, by simpa [blank] using UInt16.lt_iff_toNat_lt.mp someRow,
    UInt16.lt_iff_toNat_lt.mp someCol⟩
  savedInside := nofun
  below _ _ _ := rfl

theorem blank_toGrid (size : Size) (limit : Nat) :
    (blank size).toGrid limit = Grid.blank size limit := by
  have rows : (blank size).window = blankRows size := (blankRows_eq_tabulate size).symm
  simp only [toGrid, rows]
  simp [blank, Grid.blank, cursorAt, Cursor.initial, Position.origin, above, lines, tabulate,
    keepLast]

end Tape

/-- A display carries out the instructions of its bytes. -/
theorem Display.feed_eq_run (display : Display) (bytes : List UInt8) :
    display.feed bytes =
      ⟨(display.decoder.run bytes).1,
        (display.decoder.run bytes).2.foldl Grid.perform display.grid⟩ := by
  induction bytes generalizing display with
  | nil => rfl
  | cons byte bytes inductionHypothesis =>
      rw [feed, List.foldl_cons]
      change (display.feedByte byte).feed bytes = _
      rw [inductionHypothesis, ControlDecoder.run]
      simp [feedByte, List.foldl_append]

theorem ControlDecoder.run_append (decoder : ControlDecoder) (first second : List UInt8) :
    (decoder.run (first ++ second)).2 =
      (decoder.run first).2 ++ ((decoder.run first).1.run second).2 := by
  induction first generalizing decoder with
  | nil => rfl
  | cons byte first inductionHypothesis =>
      simp [ControlDecoder.run, inductionHypothesis]

/-- The screen with its scrollback, the window of the tape and the rows above it after the
same bytes. -/
structure FollowsTape (size : Size) (limit : Nat) (bytes : List UInt8) (tape : Tape)
    (grid : Grid) : Prop where
  /-- The rows on the screen are those in the window. -/
  rows : grid.rows = tape.window
  /-- The scrollback is the last of the rows above the window, oldest first. -/
  scrollback : grid.scrollback = keepLast limit (tape.above.map Text.trimEnd)
  /-- The rest of the screen follows the tape too. -/
  shown : grid = tape.toGrid limit
  /-- Rows above the window and in it are all rows there are, once and in order. -/
  complete : tape.above ++ tape.window = tape.lines 0 (tape.top + size.rows.toNat)
  inside : tape.CursorInside
  cursor : grid.cursor.position.row.toNat = tape.row - tape.top ∧
    grid.cursor.position.col.toNat = tape.col
  /-- Whatever comes next, the window moves down only, and what it leaves stays. -/
  onlyDown : ∀ more, tape.top ≤ ((Tape.blank size).feed (bytes ++ more)).top ∧
    tape.above <+: ((Tape.blank size).feed (bytes ++ more)).above

/-- A screen of at least one row and up to 65528 columns shows the window of a tape that
forgets nothing, after every byte stream. -/
theorem grid_follows_tape (size : Size) (limit : Nat) (bytes : List UInt8)
    (someRow : 0 < size.rows) (someCol : 0 < size.cols) (narrow : size.cols ≤ 65528) :
    FollowsTape size limit bytes ((Tape.blank size).feed bytes)
      ((Display.ofGrid (.blank size limit)).feed bytes).grid := by
  have reached := (Tape.blank_ordered someRow someCol narrow).performAll limit
    (ControlDecoder.initial.run bytes).2
  rw [Tape.blank_toGrid] at reached
  have shown : ((Display.ofGrid (.blank size limit)).feed bytes).grid =
      ((Tape.blank size).feed bytes).toGrid limit := by
    rw [Display.feed_eq_run]
    exact reached.shown
  have height : ((Tape.blank size).feed bytes).height = size.rows.toNat := reached.descends.height
  exact {
    rows := by rw [shown]; rfl
    scrollback := by rw [shown]; rfl
    shown := shown
    complete := by rw [← height]; exact Tape.above_append_window _
    inside := reached.ordered.inside
    cursor := by
      rw [shown]
      exact ⟨reached.ordered.toGrid_row limit, reached.ordered.toGrid_col limit⟩
    onlyDown := fun more => by
      have further := reached.ordered.performAll limit
        ((ControlDecoder.initial.run bytes).1.run more).2
      have fed : (Tape.blank size).feed (bytes ++ more) =
          ((ControlDecoder.initial.run bytes).1.run more).2.foldl Tape.perform
            ((Tape.blank size).feed bytes) := by
        rw [Tape.feed, ControlDecoder.run_append, List.foldl_append]
        rfl
      rw [fed]
      exact ⟨further.descends.top, further.descends.above_isPrefix⟩ }

/-- Two rows of three columns that keep one line, and eleven characters: two rows are above
the window, of which the last is kept. -/
theorem grid_follows_tape_limited :
    let bytes : List UInt8 := [0x61, 0x62, 0x63, 0x64, 0x65, 0x66, 0x67, 0x68, 0x69, 0x6A, 0x6B]
    let tape := (Tape.blank ⟨2, 3⟩).feed bytes
    let grid := ((Display.ofGrid (.blank ⟨2, 3⟩ 1)).feed bytes).grid
    FollowsTape ⟨2, 3⟩ 1 bytes tape grid ∧
      tape.above = [['a', 'b', 'c'], ['d', 'e', 'f']] ∧
      grid.scrollback = [['d', 'e', 'f']] ∧
      grid.rows = [['g', 'h', 'i'], ['j', 'k', ' ']] :=
  ⟨grid_follows_tape ⟨2, 3⟩ 1 _ (by decide) (by decide) (by decide), by decide, by decide,
    by decide⟩

end RuntimeConsole
