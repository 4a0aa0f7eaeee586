/-
Module: RuntimeConsole.Proofs.GridShape
Purpose: Whatever a grid is told, wherever its cursor is: it has the rows and columns its size says,
  the lines that left it are trimmed and no more than are kept, and another size keeps the cells
  that both sizes have.
Main exports:
  Grid.charAt?_resize, Grid.Archives, Grid.Tidy, GridShape, grid_shape_kept
-/
import RuntimeConsole.Proofs.ErasedRegions
import RuntimeConsole.Proofs.Overflow

namespace RuntimeConsole

/-! ### Cells after a resize -/

theorem getElem?_overlay {Item : Type} (above below : List Item) (place : Nat) :
    (overlay above below)[place]? = below[place]?.map fun item => above[place]?.getD item := by
  induction above generalizing below place with
  | nil => cases below <;> simp [overlay]
  | cons cell above inductionHypothesis =>
      cases below with
      | nil => rfl
      | cons under below =>
          cases place with
          | zero => rfl
          | succ place => exact inductionHypothesis below place

namespace Grid

variable {grid before after : Grid}

/-- After a resize the screen shows what was at a position, and a blank where nothing was. -/
theorem charAt?_resize (grid : Grid) (size : Size) (position : Position) :
    (grid.resize size).charAt? position.row position.col =
      if position.Within size then some ((grid.charAt? position.row position.col).getD ' ')
      else none := by
  have rows : (grid.resize size).rows =
      overlay (grid.rows.map fun cells => overlay cells (blankRow size.cols)) (blankRows size) :=
    rfl
  rw [charAt?, rows, getElem?_overlay, List.getElem?_map, charAt?]
  simp only [Position.Within, UInt16.lt_iff_toNat_lt]
  by_cases row : position.row.toNat < size.rows.toNat
  · have blank : (blankRows size)[position.row.toNat]? = some (blankRow size.cols) :=
      List.getElem?_replicate_of_lt row
    rw [blank, Option.map_some, Option.bind_some]
    by_cases col : position.col.toNat < size.cols.toNat
    · have cell : (blankRow size.cols)[position.col.toNat]? = some ' ' :=
        List.getElem?_replicate_of_lt col
      rw [if_pos ⟨row, col⟩]
      cases grid.rows[position.row.toNat]? with
      | none => exact cell
      | some cells =>
          rw [Option.map_some, Option.getD_some, getElem?_overlay, cell]
          rfl
    · have outside : (blankRow size.cols)[position.col.toNat]? = none :=
        List.getElem?_eq_none (by simpa [blankRow] using col)
      rw [if_neg fun inside => col inside.2]
      cases grid.rows[position.row.toNat]? with
      | none => exact outside
      | some cells =>
          rw [Option.map_some, Option.getD_some, getElem?_overlay, outside]
          rfl
  · have below : (blankRows size)[position.row.toNat]? = none :=
      List.getElem?_eq_none (by simpa [blankRows] using row)
    rw [below, if_neg fun inside => row inside.1]
    rfl

/-- There are no cells but those on the screen. -/
theorem Shaped.charAt?_outside (shaped : grid.Shaped) {position : Position}
    (outside : ¬ position.Within grid.size) : grid.charAt? position.row position.col = none := by
  rw [charAt?, Option.bind_eq_none_iff]
  intro cells found
  obtain ⟨inside, -⟩ := List.getElem?_eq_some_iff.mp found
  have row : position.row < grid.size.rows := by
    rw [UInt16.lt_iff_toNat_lt, ← shaped.height]
    exact inside
  refine List.getElem?_eq_none (Nat.le_of_not_lt fun within => outside ⟨row, ?_⟩)
  rw [UInt16.lt_iff_toNat_lt, ← shaped.width cells (List.mem_of_getElem? found)]
  exact within

/-! ### The lines that left the screen -/

/-- What may become of the lines that left the screen: they stay, or they are dropped, or the
topmost row joins them, as many of them as are kept. -/
structure Archives (before after : Grid) : Prop where
  limit : after.scrollbackLimit = before.scrollbackLimit
  lines : after.scrollback = before.scrollback ∨ after.scrollback = [] ∨
    ∃ top, before.rows.head? = some top ∧ after.scrollback =
      keepLast before.scrollbackLimit (before.scrollback ++ [Text.trimEnd top])

theorem Archives.same (limit : after.scrollbackLimit = before.scrollbackLimit)
    (lines : after.scrollback = before.scrollback) : Archives before after :=
  ⟨limit, .inl lines⟩

theorem scrollUp_archives (grid : Grid) : Archives grid grid.scrollUp := by
  unfold scrollUp
  split
  next => exact .same rfl rfl
  next top rest found => exact ⟨rfl, .inr (.inr ⟨top, by rw [found]; rfl, rfl⟩)⟩

theorem overflowed_archives (grid : Grid) : Archives grid { grid with overflowed := true } :=
  .same rfl rfl

theorem Archives.of_coordinate {grid : Grid} {coordinate : Option UInt16} {after : UInt16 → Grid}
    (goesOn : ∀ next, Archives grid (after next)) :
    Archives grid (grid.orOverflow (coordinate.map after)) :=
  orOverflow_map (motive := Archives grid) grid.overflowed_archives fun next _ => goesOn next

theorem descend_archives (grid : Grid) (next : UInt16) : Archives grid (grid.descend next) := by
  unfold descend
  split
  · exact grid.scrollUp_archives
  · exact .same rfl rfl

theorem lineFeed_archives (grid : Grid) : Archives grid grid.lineFeed := by
  refine lineFeed_induction (motive := Archives grid) grid.overflowed_archives fun next _ => ?_
  have fed := descend_archives { grid with wrapPending := false } next
  exact ⟨fed.limit, fed.lines⟩

theorem wrap_archives (grid : Grid) : Archives grid grid.wrap := by
  -- The return to the first column leaves the rows and the lines as they are.
  have fed := grid.carriageReturn.lineFeed_archives
  exact wrap_induction (motive := Archives grid) grid.overflowed_archives ⟨fed.limit, fed.lines⟩
    (.same rfl rfl)

theorem put_archives (grid : Grid) (c : Char) : Archives grid (grid.put c) := by
  have wrapped := grid.wrap_archives
  refine put_induction (motive := Archives grid) grid.overflowed_archives fun next _ => ?_
  unfold advance
  split <;> exact ⟨wrapped.limit, wrapped.lines⟩

theorem restoreCursor_archives (grid : Grid) : Archives grid grid.restoreCursor := by
  unfold restoreCursor
  split <;> exact .same rfl rfl

theorem execute_archives (grid : Grid) (byte : UInt8) : Archives grid (grid.execute byte) := by
  rw [execute_eq]
  split
  · exact .same rfl rfl
  split
  · exact .of_coordinate fun _ => .same rfl rfl
  split
  · exact grid.lineFeed_archives
  split <;> exact .same rfl rfl

theorem eraseDisplay_archives (grid : Grid) (mode : UInt16) :
    Archives grid (grid.eraseDisplay mode) := by
  rw [eraseDisplay_eq]
  split
  · exact .of_coordinate fun _ => .same rfl rfl
  split
  · exact .of_coordinate fun _ => .same rfl rfl
  split <;> exact .same rfl rfl

theorem eraseLine_archives (grid : Grid) (mode : UInt16) :
    Archives grid (grid.eraseLine mode) := by
  rw [eraseLine_eq]
  split
  · exact .same rfl rfl
  split
  · exact .of_coordinate fun _ => .same rfl rfl
  split <;> exact .same rfl rfl

theorem control_archives (grid : Grid) (parameters : List (List UInt16)) (final : UInt8) :
    Archives grid (grid.control parameters final) := by
  rw [control_eq]
  dsimp only
  split
  next => exact .same rfl rfl
  next => exact .same rfl rfl
  next => exact .same rfl rfl
  next => exact .same rfl rfl
  next => exact .same rfl rfl
  next => exact .same rfl rfl
  next => exact .same rfl rfl
  next => exact grid.eraseDisplay_archives _
  next => exact grid.eraseLine_archives _
  next => exact .same rfl rfl
  next => exact grid.restoreCursor_archives
  next => exact .same rfl rfl

theorem perform_archives (grid : Grid) (instruction : Instruction) :
    Archives grid (grid.perform instruction) := by
  cases instruction with
  | print c => exact grid.put_archives c
  | execute byte => exact grid.execute_archives byte
  | control parameters marked final =>
      rw [perform_control]
      split
      · exact .same rfl rfl
      · exact grid.control_archives parameters final
  | escape final =>
      rw [perform_escape]
      split
      · exact .same rfl rfl
      split
      · exact grid.restoreCursor_archives
      · exact .same rfl rfl

theorem operate_archives (grid : Grid) (operation : GridOperation) :
    Archives grid (grid.operate operation) := by
  cases operation with
  | put c => exact grid.put_archives c
  | lineFeed => exact grid.lineFeed_archives
  | carriageReturn => exact .same rfl rfl
  | eraseInRow row start stop => exact .same rfl rfl
  | eraseRows start stop => exact .same rfl rfl
  | setCursor cursor => exact .same rfl rfl

theorem operate_shaped (shaped : grid.Shaped) (operation : GridOperation) :
    (grid.operate operation).Shaped := by
  cases operation with
  | put c => exact (grid.put_keeps c).shaped shaped
  | lineFeed => exact grid.lineFeed_keeps.shaped shaped
  | carriageReturn => exact grid.carriageReturn_keeps.shaped shaped
  | eraseInRow row start stop => exact (grid.eraseInRow_keeps row start stop).shaped shaped
  | eraseRows start stop => exact (grid.eraseRows_keeps start stop).shaped shaped
  | setCursor cursor => exact shaped.of_same rfl rfl

@[simp] theorem operate_size (grid : Grid) (operation : GridOperation) :
    (grid.operate operation).size = grid.size := by
  cases operation with
  | put c => exact grid.put_size c
  | lineFeed => exact grid.lineFeed_size
  | carriageReturn | eraseInRow _ _ _ | eraseRows _ _ | setCursor _ => rfl

/-! ### Tidy grids -/

/-- A grid with as many rows and columns as its size says, and with no more lines that left the
screen than are kept, none of which ends in a blank. -/
structure Tidy (grid : Grid) : Prop where
  shaped : grid.Shaped
  few : grid.scrollback.length ≤ grid.scrollbackLimit
  trimmed : ∀ line ∈ grid.scrollback, ∀ c, line.getLast? = some c → Text.isBlank c = false

theorem blank_tidy (size : Size) (limit : Nat) : (blank size limit).Tidy :=
  ⟨blank_shaped size limit, Nat.zero_le limit, nofun⟩

theorem Archives.tidy (archives : Archives before after) (tidy : before.Tidy)
    (shaped : after.Shaped) : after.Tidy := by
  obtain same | none | ⟨top, -, joined⟩ := archives.lines
  · refine ⟨shaped, ?_, ?_⟩
    · rw [same, archives.limit]
      exact tidy.few
    · rw [same]
      exact tidy.trimmed
  · refine ⟨shaped, ?_, ?_⟩
    · rw [none]
      exact Nat.zero_le _
    · rw [none]
      exact nofun
  · refine ⟨shaped, ?_, fun line member => ?_⟩
    · rw [joined, archives.limit, keepLast, List.length_drop]
      omega
    · rw [joined] at member
      rcases List.mem_append.mp (List.mem_of_mem_drop member) with old | new
      · exact tidy.trimmed line old
      · obtain rfl := List.mem_singleton.mp new
        exact Text.trimEnd_getLast?_not_blank top

end Grid

/-! ### Uses of a display -/

namespace Display

variable {display : Display}

theorem apply_archives (display : Display) (event : DisplayEvent) :
    Grid.Archives display.grid (display.apply event).grid := by
  cases event with
  | byte byte =>
      unfold apply feedByte
      dsimp only
      obtain none | ⟨instruction, told⟩ := display.decoder.step_cases byte
      · rw [none]
        exact .same rfl rfl
      · rw [told]
        exact display.grid.perform_archives instruction
  | clear => exact ⟨rfl, .inr (.inl rfl)⟩
  | save => exact .same rfl rfl
  | restore => exact display.grid.restoreCursor_archives
  | resize size => exact .same rfl rfl

theorem use_archives (display : Display) (use : DisplayUse) :
    Grid.Archives display.grid (display.use use).grid := by
  cases use with
  | event event => exact display.apply_archives event
  | operation operation => exact display.grid.operate_archives operation

theorem use_tidy (tidy : display.grid.Tidy) (use : DisplayUse) : (display.use use).grid.Tidy := by
  refine (display.use_archives use).tidy tidy ?_
  cases use with
  | event event => exact apply_shaped tidy.shaped event
  | operation operation => exact Grid.operate_shaped tidy.shaped operation

/-- Only a resize gives the screen another size. -/
theorem use_size (display : Display) (use : DisplayUse) :
    (display.use use).grid.size = use.given.getD display.grid.size := by
  cases use with
  | operation operation => exact display.grid.operate_size operation
  | event event =>
      cases event with
      | byte byte => exact display.feedByte_size byte
      | restore => exact display.grid.restoreCursor_size
      | clear | save | resize _ => rfl

theorem useAll_tidy (tidy : display.grid.Tidy) (uses : List DisplayUse) :
    (display.useAll uses).grid.Tidy := by
  induction uses generalizing display with
  | nil => exact tidy
  | cons use uses inductionHypothesis => exact inductionHypothesis (use_tidy tidy use)

theorem useAll_limit (display : Display) (uses : List DisplayUse) :
    (display.useAll uses).grid.scrollbackLimit = display.grid.scrollbackLimit := by
  induction uses generalizing display with
  | nil => rfl
  | cons use uses inductionHypothesis =>
      exact (inductionHypothesis _).trans (display.use_archives use).limit

/-- The size given last is in force. -/
theorem useAll_size (display : Display) (uses : List DisplayUse) :
    (display.useAll uses).grid.size =
      (uses.filterMap DisplayUse.given).getLast?.getD display.grid.size := by
  induction uses using List.reverseRecOn with
  | nil => rfl
  | append_singleton uses use inductionHypothesis =>
      rw [useAll_concat, use_size, inductionHypothesis, List.filterMap_append]
      cases given : use.given with
      | none => simp [given]
      | some size => simp [given]

end Display

/-- The grid of a display that was used. -/
structure GridShape (start : Display) (uses : List DisplayUse) : Prop where
  /-- There are as many rows as the size says, and as many cells in each of them. -/
  shaped : (start.useAll uses).grid.Shaped
  /-- The size is the one given last. -/
  size : (start.useAll uses).grid.size =
    (uses.filterMap DisplayUse.given).getLast?.getD start.grid.size
  /-- There is one visible line for each row, and it is the text of the row. -/
  lines : (start.useAll uses).grid.visibleLines.length =
      (start.useAll uses).grid.size.rows.toNat ∧
    ∀ row : UInt16, (start.useAll uses).grid.visibleLines[row.toNat]? =
      (start.useAll uses).grid.rowText? row
  /-- The lines that left the screen are no more than were to be kept from the beginning. -/
  few : (start.useAll uses).grid.scrollback.length ≤ start.grid.scrollbackLimit
  /-- None of them ends in a blank. -/
  trimmed : ∀ line ∈ (start.useAll uses).grid.scrollback, ∀ c,
    line.getLast? = some c → Text.isBlank c = false
  /-- Of all cells of another size, those that were on the screen before are kept, and the others
  are blank. -/
  resized : ∀ (size : Size) (position : Position),
    (start.useAll (uses ++ [.event (.resize size)])).grid.charAt? position.row position.col =
      if position.Within size then
        if position.Within (start.useAll uses).grid.size then
          (start.useAll uses).grid.charAt? position.row position.col
        else some ' '
      else none
  /-- An arithmetic of coordinates that stops where a result does not have sixteen bits comes to
  the same display, if it does not stop. -/
  exact : ∀ after, start.useAll? uses = some after → after = start.useAll uses
  /-- It stops exactly if the grid is marked as overflowed. -/
  stops : start.useAll? uses = none ↔ (start.useAll uses).grid.overflowed = true

/-- From a blank screen of any size on, with any number of lines to be kept, and whatever it is
told, a grid has the shape its size says, keeps trimmed lines, and is resized in its top-left
corner. -/
theorem grid_shape_kept (size : Size) (limit : Nat) (uses : List DisplayUse) :
    GridShape (.ofGrid (.blank size limit)) uses := by
  have blank : (Display.ofGrid (.blank size limit)).grid.Tidy := Grid.blank_tidy size limit
  have clean : (Display.ofGrid (.blank size limit)).overflowed = false := rfl
  generalize Display.ofGrid (.blank size limit) = start at blank clean ⊢
  have tidy := Display.useAll_tidy blank uses
  exact {
    shaped := tidy.shaped
    size := start.useAll_size uses
    lines := ⟨Grid.length_visibleLines tidy.shaped.height,
      Grid.getElem?_visibleLines tidy.shaped.height⟩
    few := start.useAll_limit uses ▸ tidy.few
    trimmed := tidy.trimmed
    resized := fun size position => by
      rw [Display.useAll_concat]
      refine ((start.useAll uses).grid.charAt?_resize size position).trans ?_
      split
      · split
        next kept =>
            obtain ⟨c, there⟩ := tidy.shaped.charAt?_within kept
            rw [there]
            rfl
        next new =>
            rw [tidy.shaped.charAt?_outside new]
            rfl
      · rfl
    exact := fun after found => (Display.useAll_follows.goesOn start uses after found).1.symm
    stops := Display.useAll_follows.eq_none_iff clean uses }

/-- A screen without rows is printed on and given two of three columns; then the cursor is put
outside of it, and the second character there moves the screen up.  No coordinate on the way takes
more than sixteen bits. -/
theorem grid_shape_kept_outside :
    let start := Display.ofGrid (.blank ⟨0, 2⟩ 1)
    let uses := [.operation (.put 'a'), .event (.resize ⟨2, 3⟩), .event (.byte 0x62),
      .event (.byte 0x20), .operation (.setCursor { Cursor.initial with position := ⟨9, 9⟩ }),
      .operation (.put 'c'), .operation (.put 'd')]
    GridShape start uses ∧ start.useAll? uses = some (start.useAll uses) ∧
      (start.useAll uses).grid.rows = blankRows ⟨2, 3⟩ ∧
      (start.useAll uses).grid.scrollback = [[' ', 'b']] := by
  intro start uses
  have kept : GridShape start uses := grid_shape_kept ⟨0, 2⟩ 1 uses
  have goesOn : (start.useAll? uses).isSome = true := by decide
  obtain ⟨after, found⟩ := Option.isSome_iff_exists.mp goesOn
  exact ⟨kept, found.trans (congrArg some (kept.exact after found)), by decide, by decide⟩

end RuntimeConsole
