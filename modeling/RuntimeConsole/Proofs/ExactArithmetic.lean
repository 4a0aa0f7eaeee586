/-
Module: RuntimeConsole.Proofs.ExactArithmetic
Purpose: Whatever is shown on a screen, the only coordinate that may not have sixteen bits is that
  of a tab stop behind the last of them.
Main exports:
  Grid.perform?_eq_none_iff, Grid.Confined, Display.feed_overflowed_iff, ExactArithmetic,
  arithmetic_exact
-/
import RuntimeConsole.Proofs.CursorBounds
import RuntimeConsole.Proofs.Overflow
import RuntimeConsole.Proofs.TapeRefinement

namespace RuntimeConsole

open Coordinate

/-! ### Operations on grids -/

namespace Grid

variable {grid : Grid}

theorem isSome_put? (fits : grid.CursorFits) (c : Char) : (grid.put? c).isSome := by
  have within := (grid.wrap_keeps.fits fits).within
  rw [put?, wrap?_eq fits.within.1, Option.bind_some, add?_one within.2]
  rfl

/-- The tab stops behind the one at 65528 are beyond sixteen bits. -/
theorem tab?_eq_none_iff : grid.tab? = none ↔ 65528 ≤ grid.cursor.position.col.toNat := by
  rw [tab?, Option.map_eq_none_iff, nextStop?_eq]
  split <;> simp_all

theorem isSome_eraseDisplay? (fits : grid.CursorFits) (mode : UInt16) :
    (grid.eraseDisplay? mode).isSome := by
  unfold eraseDisplay?
  dsimp only
  rw [add?_one fits.within.1, add?_one fits.within.2]
  repeat' split
  all_goals rfl

theorem isSome_eraseLine? (fits : grid.CursorFits) (mode : UInt16) :
    (grid.eraseLine? mode).isSome := by
  unfold eraseLine?
  dsimp only
  rw [add?_one fits.within.2]
  repeat' split
  all_goals rfl

theorem isSome_control? (fits : grid.CursorFits) (parameters : List (List UInt16))
    (final : UInt8) : (grid.control? parameters final).isSome := by
  unfold control?
  rw [sub?_eq (one_le_distance parameters)]
  dsimp only
  split
  case h_8 => exact isSome_eraseDisplay? fits _
  case h_9 => exact isSome_eraseLine? fits _
  all_goals rfl

/-- Whether an instruction moves the cursor to a tab stop that does not have sixteen bits. -/
def exceeds (grid : Grid) (instruction : Instruction) : Bool :=
  instruction == .execute 0x09 && decide (65528 ≤ grid.cursor.position.col.toNat)

/-- While the cursor is on the screen, nothing else leads beyond sixteen bits. -/
theorem perform?_eq_none_iff (fits : grid.CursorFits) (instruction : Instruction) :
    grid.perform? instruction = none ↔ grid.exceeds instruction = true := by
  cases instruction with
  | print c => simpa [exceeds, perform?, Option.isSome_iff_ne_none] using isSome_put? fits c
  | execute byte =>
      by_cases tabs : byte = 0x09
      · subst tabs
        simp [perform?, execute?, exceeds, tab?_eq_none_iff]
      · have possible : (grid.execute? byte).isSome := by
          unfold execute?
          rw [lineFeed?_eq fits.within.1, if_neg (c := (byte == 0x09) = true) (by simpa using tabs)]
          repeat' split
          all_goals rfl
        simpa [exceeds, tabs, perform?, Option.isSome_iff_ne_none] using possible
  | control parameters marked final =>
      cases marked with
      | false =>
          simpa [exceeds, perform?, Option.isSome_iff_ne_none] using
            isSome_control? fits parameters final
      | true => simp [exceeds, perform?]
  | escape final =>
      have possible : (grid.perform? (.escape final)).isSome := by
        unfold perform?
        dsimp only
        repeat' split
        all_goals rfl
      simpa [exceeds, Option.isSome_iff_ne_none] using possible

/-- The cursor is on the screen, and so is the one to be restored. -/
structure Confined (grid : Grid) : Prop where
  fits : grid.CursorFits
  saved : ∀ cursor, grid.saved = some cursor → cursor.position.Within grid.size

theorem Confined.perform (confined : grid.Confined) (instruction : Instruction) :
    (grid.perform instruction).Confined where
  fits := (grid.perform_step instruction).fits confined.fits fun _ => confined.saved
  saved cursor saved := by
    obtain within | ⟨old, size⟩ := (grid.perform_step instruction).saved confined.fits saved
    · exact within
    · rw [size]
      exact confined.saved cursor old

theorem blank_confined {size : Size} (someRow : 0 < size.rows) (someCol : 0 < size.cols)
    (limit : Nat) : (blank size limit).Confined :=
  ⟨blank_fits someRow someCol, nofun⟩

/-! ### Tabs -/

/-- A tab to a stop of sixteen bits moves the cursor to it, or to the last column. -/
theorem tab_near (near : grid.cursor.position.col.toNat < 65528) :
    grid.tab.cursor.position.row = grid.cursor.position.row ∧
      grid.tab.cursor.position.col.toNat =
        min ((grid.cursor.position.col.toNat / 8 + 1) * 8) (grid.size.cols.toNat - 1) := by
  have stop : nextStop? grid.cursor.position.col =
      some ((grid.cursor.position.col / tabWidth + 1) * tabWidth) := by
    rw [nextStop?_eq, if_neg (Nat.not_le.mpr near)]
  rw [tab, tab?, stop, Option.map_some, orOverflow_some]
  refine ⟨rfl, ?_⟩
  change (min ((grid.cursor.position.col / tabWidth + 1) * tabWidth) grid.lastCol).toNat = _
  rw [toNat_min, toNat_lastCol, UInt16.toNat_mul, toNat_nextTab]
  simp only [tabWidth, UInt16.reduceToNat]
  omega

/-- A tab to a stop that does not have them leaves everything as it is. -/
theorem tab_far (far : 65528 ≤ grid.cursor.position.col.toNat) :
    grid.tab = { grid with overflowed := true } := by
  rw [tab, tab?_eq_none_iff.mpr far]
  rfl

/-- A tab never moves the cursor to the left. -/
theorem le_tab (fits : grid.CursorFits) :
    grid.cursor.position.col ≤ grid.tab.cursor.position.col := by
  by_cases far : 65528 ≤ grid.cursor.position.col.toNat
  · rw [tab_far far]
    exact UInt16.le_refl _
  · have inside := UInt16.lt_iff_toNat_lt.mp fits.within.2
    have next := (tab_near (Nat.not_le.mp far)).2
    rw [UInt16.le_iff_toNat_le]
    omega

/-- Sixteen bits of a tab stop make a column to the left of the cursor exactly if the stop does not
have sixteen bits. -/
theorem wrappedStop_lt_iff (col : UInt16) :
    (col / tabWidth + 1) * tabWidth < col ↔ 65528 ≤ col.toNat := by
  have small := col.toNat_lt
  rw [UInt16.lt_iff_toNat_lt, UInt16.toNat_mul, toNat_nextTab]
  simp only [tabWidth, UInt16.reduceToNat]
  omega

end Grid

/-! ### Streams -/

namespace Display

variable {display : Display} {bytes : List UInt8}

/-- Whether a byte moves the cursor to a tab stop that does not have sixteen bits. -/
def exceeds (display : Display) (byte : UInt8) : Bool :=
  (display.decoder.step byte).2.any display.grid.exceeds

/-- Whether some byte of a stream does so. -/
def Overruns (display : Display) (bytes : List UInt8) : Prop :=
  ∃ earlier byte, earlier ++ [byte] <+: bytes ∧ (display.feed earlier).exceeds byte = true

theorem feedByte_confined (confined : display.grid.Confined) (byte : UInt8) :
    (display.feedByte byte).grid.Confined := by
  unfold feedByte
  obtain none | ⟨instruction, told⟩ := display.decoder.step_cases byte
  · simpa [none] using confined
  · simpa [told] using confined.perform instruction

theorem feed_confined (confined : display.grid.Confined) (bytes : List UInt8) :
    (display.feed bytes).grid.Confined := by
  induction bytes generalizing display with
  | nil => exact confined
  | cons byte bytes inductionHypothesis =>
      exact inductionHypothesis (feedByte_confined confined byte)

theorem feed_tab (told : (display.decoder.step 0x09).2 = [.execute 0x09]) :
    (display.feed [0x09]).grid = display.grid.tab := by
  change (display.decoder.step 0x09).2.foldl Grid.perform display.grid = _
  rw [told]
  rfl

theorem feedByte?_eq_none_iff (confined : display.grid.Confined) (byte : UInt8) :
    display.feedByte? byte = none ↔ display.exceeds byte = true := by
  have instruction? := Grid.perform?_eq_none_iff confined.fits
  unfold feedByte? exceeds
  obtain none | ⟨instruction, told⟩ := display.decoder.step_cases byte
  · simp [none]
  · simp [told, instruction?]

theorem overruns_concat {byte : UInt8} :
    display.Overruns (bytes ++ [byte]) ↔
      display.Overruns bytes ∨ (display.feed bytes).exceeds byte = true := by
  constructor
  · rintro ⟨earlier, last, known, exceeds⟩
    obtain same | shorter := List.prefix_concat_iff.mp known
    · obtain ⟨rfl, rfl⟩ := List.concat_inj.mp (by simpa using same)
      exact .inr exceeds
    · exact .inl ⟨earlier, last, shorter, exceeds⟩
  · rintro (⟨earlier, last, known, exceeds⟩ | exceeds)
    · exact ⟨earlier, last, known.trans (List.prefix_append ..), exceeds⟩
    · exact ⟨bytes, byte, List.prefix_refl _, exceeds⟩

/-- The screen overflows at the first tab stop that does not have sixteen bits. -/
theorem feed_overflowed_iff (confined : display.grid.Confined)
    (clean : display.overflowed = false) (bytes : List UInt8) :
    (display.feed bytes).overflowed = true ↔ display.Overruns bytes := by
  induction bytes using List.reverseRecOn with
  | nil =>
      refine ⟨fun marked => ?_, fun ⟨_, _, known, _⟩ => ?_⟩
      · exact absurd (clean.symm.trans marked) Bool.false_ne_true
      · exact absurd known (by simp)
  | append_singleton bytes byte inductionHypothesis =>
      rw [overruns_concat, feed_append, ← inductionHypothesis,
        ← feedByte?_eq_none_iff (feed_confined confined bytes)]
      exact feedByte_follows.marked_iff _ byte

/-- A cursor within the first 65528 columns is never before a tab stop that does not have
sixteen bits. -/
theorem not_exceeds_of_narrow (fits : display.grid.CursorFits)
    (narrow : display.grid.size.cols ≤ 65528) (byte : UInt8) : display.exceeds byte = false := by
  have inside := UInt16.lt_iff_toNat_lt.mp fits.within.2
  have narrow := UInt16.le_iff_toNat_le.mp narrow
  simp only [UInt16.reduceToNat] at narrow
  refine List.any_eq_false.mpr fun instruction _ exceeds => ?_
  have far := of_decide_eq_true (Bool.and_eq_true_iff.mp exceeds).2
  omega

/-- The stream that moves the cursor to column 65529, counted from one. -/
def edge : List UInt8 := [0x1B, 0x5B, 0x36, 0x35, 0x35, 0x32, 0x39, 0x47]

theorem feed_edge (size : Size) (limit : Nat) :
    (ofGrid (.blank size limit)).feed edge =
      ⟨(ControlDecoder.initial.run edge).1,
        (Grid.blank size limit).moveTo 0 (min 65528 (Grid.blank size limit).lastCol)⟩ := by
  have told : (ControlDecoder.initial.run edge).2 = [.control [[65529]] false 0x47] := by decide
  rw [feed_eq_run]
  change Display.mk (ControlDecoder.initial.run edge).1
    ((ControlDecoder.initial.run edge).2.foldl Grid.perform (Grid.blank size limit)) = _
  rw [told]
  rfl

/-- After it, a tab is a tab. -/
theorem step_edge (size : Size) (limit : Nat) :
    (((ofGrid (.blank size limit)).feed edge).decoder.step 0x09).2 = [.execute 0x09] := by
  rw [feed_edge]
  change ((ControlDecoder.initial.run edge).1.step 0x09).2 = [.execute 0x09]
  decide

/-- The column is there if the screen is wide enough. -/
theorem feed_edge_position {size : Size} (wide : 65528 < size.cols) (limit : Nat) :
    ((ofGrid (.blank size limit)).feed edge).grid.cursor.position = ⟨0, 65528⟩ := by
  have wide := UInt16.lt_iff_toNat_lt.mp wide
  have last : min 65528 (Grid.blank size limit).lastCol = 65528 := by
    rw [← UInt16.toNat_inj, toNat_min, Grid.toNat_lastCol]
    exact Nat.min_eq_left (Nat.le_sub_one_of_lt wide)
  rw [feed_edge, last]
  rfl

theorem feed_edge_far {size : Size} (wide : 65528 < size.cols) (limit : Nat) :
    65528 ≤ ((ofGrid (.blank size limit)).feed edge).grid.cursor.position.col.toNat := by
  rw [feed_edge_position wide]
  decide

theorem overruns_edge {size : Size} (wide : 65528 < size.cols) (limit : Nat) :
    (ofGrid (.blank size limit)).Overruns (edge ++ [0x09]) := by
  have exceeds : ((ofGrid (.blank size limit)).feed edge).exceeds 0x09 = true := by
    rw [exceeds, step_edge]
    simpa [Grid.exceeds] using feed_edge_far wide limit
  exact ⟨edge, 0x09, List.prefix_refl _, exceeds⟩

/-- From there a tab leads nowhere. -/
theorem feed_edge_tab {size : Size} (wide : 65528 < size.cols) (limit : Nat) :
    ((ofGrid (.blank size limit)).feed (edge ++ [0x09])).grid =
      { ((ofGrid (.blank size limit)).feed edge).grid with overflowed := true } := by
  rw [feed_append, feed_tab (step_edge size limit), Grid.tab_far (feed_edge_far wide limit)]

end Display

/-- The arithmetic of coordinates while a display shows a stream. -/
structure ExactArithmetic (start : Display) (bytes : List UInt8) : Prop where
  /-- Every single byte is shown with sixteen bits, but for the tab that leads beyond them. -/
  step : ∀ earlier byte, earlier ++ [byte] <+: bytes →
    (start.feed earlier).feedByte? byte =
      if (start.feed earlier).exceeds byte then none
      else some ((start.feed earlier).feedByte byte)
  /-- The stream is shown with sixteen bits exactly if there is no such tab. -/
  stops : start.feed? bytes = none ↔ start.Overruns bytes
  exact : start.feed? bytes = some (start.feed bytes) ↔ ¬ start.Overruns bytes
  /-- The screen is known to have overflowed exactly if there is one. -/
  marked : (start.feed bytes).grid.overflowed = true ↔ start.Overruns bytes
  /-- There is none on screens of up to 65528 columns. -/
  narrow : start.grid.size.cols ≤ 65528 → start.feed? bytes = some (start.feed bytes)
  /-- There is one on every other screen, with the cursor in column 65528, where it stays. -/
  wide : 65528 < start.grid.size.cols →
    start.feed? (Display.edge ++ [0x09]) = none ∧
      (start.feed Display.edge).grid.cursor.position = ⟨0, 65528⟩ ∧
      (start.feed (Display.edge ++ [0x09])).grid =
        { (start.feed Display.edge).grid with overflowed := true }
  /-- Wherever the stream has left the cursor, a tab moves it on to the next stop of sixteen
  bits in its row. -/
  tab : (start.feed bytes).grid.cursor.position.col.toNat < 65528 →
    (start.feed bytes).grid.tab.cursor.position.row =
        (start.feed bytes).grid.cursor.position.row ∧
      (start.feed bytes).grid.tab.cursor.position.col.toNat =
        min (((start.feed bytes).grid.cursor.position.col.toNat / 8 + 1) * 8)
          (start.grid.size.cols.toNat - 1)
  /-- It never moves it to the left. -/
  onward : (start.feed bytes).grid.cursor.position.col ≤
    (start.feed bytes).grid.tab.cursor.position.col
  /-- In an arithmetic that drops what goes beyond sixteen bits the next stop would be to the left
  from column 65528 on, and nowhere else. -/
  left : ((start.feed bytes).grid.cursor.position.col / Grid.tabWidth + 1) * Grid.tabWidth <
      (start.feed bytes).grid.cursor.position.col ↔
    65528 ≤ (start.feed bytes).grid.cursor.position.col.toNat

/-- From a blank screen on, every byte stream is shown with an arithmetic of sixteen bits that
stops where a result does not have them, and it stops at the tabs behind column 65528 only. -/
theorem arithmetic_exact (size : Size) (limit : Nat) (bytes : List UInt8)
    (someRow : 0 < size.rows) (someCol : 0 < size.cols) :
    ExactArithmetic (.ofGrid (.blank size limit)) bytes := by
  have blank : (Display.ofGrid (.blank size limit)).grid.Confined :=
    Grid.blank_confined someRow someCol limit
  have confined := Display.feed_confined blank
  have clean : (Display.ofGrid (.blank size limit)).overflowed = false := rfl
  have overruns := Display.feed_overflowed_iff blank clean
  have shown := Display.feed_follows.eq clean
  exact {
    step := fun earlier byte _ =>
      Display.feedByte_follows.eq_of_stops (Display.feedByte?_eq_none_iff (confined earlier) byte)
    stops := (Display.feed_follows.eq_none_iff clean bytes).trans (overruns bytes)
    exact := by
      rw [← overruns, shown]
      simp
    marked := overruns bytes
    narrow := fun narrow => by
      rw [shown, if_neg]
      rw [overruns]
      rintro ⟨earlier, byte, -, exceeds⟩
      have size := Display.feed_size (.ofGrid (.blank size limit)) earlier
      rw [Display.not_exceeds_of_narrow (confined earlier).fits (size ▸ narrow)] at exceeds
      contradiction
    wide := fun beyond => by
      have wide : 65528 < size.cols := beyond
      refine ⟨?_, Display.feed_edge_position wide limit, Display.feed_edge_tab wide limit⟩
      rw [shown, if_pos ((overruns _).mpr (Display.overruns_edge wide limit))]
    tab := fun near => by
      rw [← Display.feed_size (.ofGrid (.blank size limit)) bytes]
      exact Grid.tab_near near
    onward := Grid.le_tab (confined bytes).fits
    left := Grid.wrappedStop_lt_iff _ }

/-- One row of the largest width: in column 65528, with six columns to its right, there is no
way on for a tab. -/
theorem arithmetic_exact_widest :
    let start := Display.ofGrid (.blank ⟨1, 65535⟩ 0)
    let stream := Display.edge ++ [0x09]
    ExactArithmetic start stream ∧ start.feed? stream = none ∧
      (start.feed Display.edge).grid.cursor.position = ⟨0, 65528⟩ ∧
      (start.feed stream).grid = { (start.feed Display.edge).grid with overflowed := true } :=
  have exact := arithmetic_exact ⟨1, 65535⟩ 0 (Display.edge ++ [0x09]) (by decide) (by decide)
  ⟨exact, exact.wide (by decide)⟩

end RuntimeConsole
