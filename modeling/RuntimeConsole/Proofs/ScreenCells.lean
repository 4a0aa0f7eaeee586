/-
Module: RuntimeConsole.Proofs.ScreenCells
Purpose: What the operations of a screen do to its cells, cell by cell.
Main exports:
  tabulate_congr, modify_set_tabulate, modify_eraseCells_tabulate, scroll_tabulate,
  keepLast_append
-/
import RuntimeConsole.Screen.Tape

namespace RuntimeConsole

/-! ### Rows of cells -/

section

variable {Item : Type} {height width : Nat} {cell other : Nat → Nat → Item}

@[simp] theorem length_tabulate : (tabulate height width cell).length = height := by
  simp [tabulate]

theorem getElem?_tabulate (row : Nat) :
    (tabulate height width cell)[row]? =
      if row < height then some ((List.range width).map (cell row)) else none := by
  by_cases inside : row < height <;> simp [tabulate, inside]

theorem tabulate_congr
    (same : ∀ row < height, ∀ col < width, cell row col = other row col) :
    tabulate height width cell = tabulate height width other := by
  refine List.map_congr_left fun row inside => List.map_congr_left fun col within => ?_
  exact same row (List.mem_range.mp inside) col (List.mem_range.mp within)

/-- A change of rows that can be told cell by cell. -/
theorem mapIdx_tabulate {change : Nat → List Item → List Item}
    (told : ∀ row < height,
      change row ((List.range width).map (cell row)) = (List.range width).map (other row)) :
    (tabulate height width cell).mapIdx change = tabulate height width other := by
  refine List.ext_getElem? fun row => ?_
  rw [List.getElem?_mapIdx, getElem?_tabulate, getElem?_tabulate]
  by_cases inside : row < height
  · simp [inside, told row inside]
  · simp [inside]

theorem modify_eq_mapIdx (rows : List (List Item)) (place : Nat)
    (change : List Item → List Item) :
    rows.modify place change =
      rows.mapIdx fun row cells => if row = place then change cells else cells := by
  refine List.ext_getElem? fun row => ?_
  rw [List.getElem?_modify, List.getElem?_mapIdx]
  by_cases here : row = place
  · simp [here]
  · simp [here, Ne.symm here]

/-- The first rows and the others. -/
theorem tabulate_add (first second : Nat) :
    tabulate (first + second) width cell =
      tabulate first width cell ++ tabulate second width fun row => cell (first + row) := by
  simp [tabulate, List.range_add]

theorem tabulate_succ :
    tabulate (height + 1) width cell =
      (List.range width).map (cell 0) :: tabulate height width fun row => cell (row + 1) := by
  rw [Nat.add_comm, tabulate_add]
  simp [tabulate, Nat.add_comm]

end

/-! ### Changes of cells -/

theorem set_range (width place : Nat) (cell : Nat → Char) (c : Char) :
    ((List.range width).map cell).set place c =
      (List.range width).map fun col => if col = place then c else cell col := by
  refine List.ext_getElem? fun col => ?_
  rw [List.getElem?_set]
  by_cases here : col = place
  · subst here
    by_cases inside : col < width <;> simp [inside]
  · by_cases inside : col < width <;> simp [here, inside, Ne.symm here]

theorem eraseCells_range (start stop width : Nat) (cell : Nat → Char) :
    eraseCells start stop ((List.range width).map cell) =
      (List.range width).map fun col => if start ≤ col ∧ col < stop then ' ' else cell col := by
  refine List.ext_getElem? fun col => ?_
  by_cases inside : col < width <;> simp [eraseCells, inside]

theorem blankRow_eq_range (cols : UInt16) :
    blankRow cols = (List.range cols.toNat).map fun _ => ' ' := by
  rw [blankRow, List.map_const', List.length_range]

theorem blankRows_eq_tabulate (size : Size) :
    blankRows size = tabulate size.rows.toNat size.cols.toNat fun _ _ => ' ' := by
  rw [blankRows, tabulate, List.map_const', List.length_range, blankRow_eq_range]

section

variable {height width : Nat} {cell : Nat → Nat → Char}

theorem modify_set_tabulate (place col : Nat) (c : Char) :
    (tabulate height width cell).modify place (·.set col c) =
      tabulate height width fun row k => if row = place ∧ k = col then c else cell row k := by
  rw [modify_eq_mapIdx]
  refine mapIdx_tabulate fun row _ => ?_
  by_cases here : row = place
  · simp [here, set_range]
  · simp [here]

theorem modify_eraseCells_tabulate (place start stop : Nat) :
    (tabulate height width cell).modify place (eraseCells start stop) =
      tabulate height width fun row k =>
        if row = place ∧ start ≤ k ∧ k < stop then ' ' else cell row k := by
  rw [modify_eq_mapIdx]
  refine mapIdx_tabulate fun row _ => ?_
  by_cases here : row = place
  · simp [here, eraseCells_range]
  · simp [here]

/-- The topmost row goes, and a blank one comes from below. -/
theorem scroll_tabulate (cell : Nat → Nat → Char) {cols : UInt16} (wide : width = cols.toNat)
    (below : ∀ col < width, cell (height + 1) col = ' ') :
    (tabulate height width fun row => cell (row + 1)) ++ [blankRow cols] =
      tabulate (height + 1) width fun row => cell (row + 1) := by
  rw [tabulate_add]
  refine congrArg _ ?_
  subst wide
  simp only [tabulate, List.range_one, List.map_cons, List.map_nil, Nat.add_zero,
    blankRow_eq_range]
  exact congrArg (fun row => [row])
    (List.map_congr_left fun col inside => (below col (List.mem_range.mp inside)).symm)

end

/-! ### Coordinates -/

theorem toNat_min (a b : UInt16) : (min a b).toNat = min a.toNat b.toNat := by
  change (if a ≤ b then a else b).toNat = _
  split
  next below => exact (Nat.min_eq_left below).symm
  next above => exact (Nat.min_eq_right (Nat.le_of_lt (Nat.lt_of_not_le above))).symm

namespace Grid

theorem toNat_coordinateSub (a b : UInt16) : (coordinateSub a b).toNat = a.toNat - b.toNat := by
  unfold coordinateSub
  split
  next below => exact (Nat.sub_eq_zero_of_le below).symm
  next above =>
      exact UInt16.toNat_sub_of_le a b (Nat.le_of_lt (Nat.lt_of_not_le above))

theorem toNat_coordinateAdd (bound a b : UInt16) :
    (coordinateAdd bound a b).toNat = min bound.toNat (a.toNat + b.toNat) := by
  have small := bound.toNat_lt
  rw [coordinateAdd, UInt16.toNat_ofNat']
  omega

theorem toNat_lastRow (grid : Grid) : grid.lastRow.toNat = grid.size.rows.toNat - 1 := by
  unfold lastRow
  split
  next none => simp [none]
  next some =>
      have positive : 0 < grid.size.rows.toNat :=
        Nat.pos_of_ne_zero fun none => some (UInt16.toNat_inj.mp none)
      exact UInt16.toNat_sub_of_le _ _ positive

theorem toNat_lastCol (grid : Grid) : grid.lastCol.toNat = grid.size.cols.toNat - 1 := by
  unfold lastCol
  split
  next none => simp [none]
  next some =>
      have positive : 0 < grid.size.cols.toNat :=
        Nat.pos_of_ne_zero fun none => some (UInt16.toNat_inj.mp none)
      exact UInt16.toNat_sub_of_le _ _ positive

end Grid

/-! ### The last rows -/

/-- What is kept of the last items and one more are the last of all of them. -/
theorem keepLast_append {Item : Type} (limit : Nat) (items : List Item) (item : Item) :
    keepLast limit (keepLast limit items ++ [item]) = keepLast limit (items ++ [item]) := by
  unfold keepLast
  rw [List.length_append, List.length_drop, List.drop_append, List.drop_append, List.drop_drop,
    List.length_append, List.length_drop]
  congr 2 <;> simp only [List.length_cons, List.length_nil] <;> omega

end RuntimeConsole
