/-
Module: RuntimeConsole.Proofs.ScreenText
Purpose: Whatever is shown, a screen has as many rows as its size says and no line break
  in a cell; and the rows listeners are told about bring what they know up to date.
Main exports:
  Display.Proper, Display.feed_proper, Grid.textAt, afterChanges, afterChanges_of_told
-/
import Mathlib.Data.List.TakeWhile
import RuntimeConsole.Terminal.Basic

namespace RuntimeConsole

/-! ### What the decoder prints -/

/-- The character under way, if there is one, will not be a control character, whichever
bytes complete it. -/
def ControlState.Proper : ControlState → Prop
  | .character bits following low high =>
      0x80 ≤ low ∧ high ≤ 0xBF ∧ 0x80 ≤ (bits * 0x40 + (low - 0x80)) * Nat.pow 0x40 (following - 1)
  | _ => True

/-- The instruction prints no line break. -/
def Instruction.Proper : Instruction → Prop
  | .print c => c ≠ '\n'
  | _ => True

theorem ofNat_ne_lineBreak {n : Nat} (other : n ≠ 10) : Char.ofNat n ≠ '\n' := by
  by_cases valid : n.isValidChar
  · rw [Char.ofNat, dif_pos valid]
    intro same
    have number : (Char.ofNatAux n valid).toNat = 10 := congrArg Char.toNat same
    exact other number
  · rw [Char.ofNat, dif_neg valid]
    decide

namespace ControlDecoder

theorem lead?_proper {byte : UInt8} {lead : Text.Lead} (found : Text.lead? byte = some lead)
    (beyond : 0x80 ≤ byte.toNat) :
    (ControlState.character lead.bits lead.following lead.low lead.high).Proper := by
  unfold Text.lead? at found
  generalize byte.toNat = n at found beyond
  simp only [beq_iff_eq] at found
  have proper (bits following low high : Nat)
      (kept : 0x80 ≤ low ∧ high ≤ 0xBF ∧
        0x80 ≤ (bits * 0x40 + (low - 0x80)) * Nat.pow 0x40 (following - 1))
      (same : some ⟨bits, following, low, high⟩ = some lead) :
      (ControlState.character lead.bits lead.following lead.low lead.high).Proper := by
    cases same
    exact kept
  split at found
  · omega
  split at found
  · cases found
  split at found
  · exact proper _ _ _ _ (by simp; omega) found
  split at found
  · exact proper _ _ _ _ (by decide) found
  split at found
  · exact proper _ _ _ _ (by decide) found
  split at found
  · exact proper _ _ _ _ (by simp; omega) found
  split at found
  · exact proper _ _ _ _ (by decide) found
  split at found
  · exact proper _ _ _ _ (by simp; omega) found
  split at found
  · exact proper _ _ _ _ (by decide) found
  · cases found

theorem stepGround_proper (decoder : ControlDecoder) (byte : UInt8)
    (proper : decoder.state.Proper) :
    (decoder.stepGround byte).1.state.Proper ∧
      ∀ instruction ∈ (decoder.stepGround byte).2, instruction.Proper := by
  unfold stepGround
  split
  next => exact ⟨proper, by simp [Instruction.Proper]⟩
  next printable =>
      have beyond : 0x20 ≤ byte.toNat := by
        simpa [UInt8.lt_iff_toNat_lt] using printable
      split
      next =>
          refine ⟨proper, ?_⟩
          simp only [List.mem_singleton, forall_eq]
          exact ofNat_ne_lineBreak (by omega)
      next high =>
          have wide : 0x80 ≤ byte.toNat := by
            simpa [UInt8.lt_iff_toNat_lt] using high
          split
          next lead found => exact ⟨lead?_proper found wide, by simp⟩
          next => exact ⟨proper, by simp⟩

theorem stepCharacter_proper (decoder : ControlDecoder) {bits following low high : Nat}
    (byte : UInt8) (proper : (ControlState.character bits following low high).Proper) :
    (decoder.stepCharacter bits following low high byte).1.state.Proper ∧
      ∀ instruction ∈ (decoder.stepCharacter bits following low high byte).2,
        instruction.Proper := by
  obtain ⟨lowest, highest, large⟩ := proper
  unfold stepCharacter
  split
  next inside =>
      have value : byte.toNat % 0x40 = byte.toNat - 0x80 := by omega
      rw [value]
      dsimp only
      split
      next last =>
          refine ⟨trivial, ?_⟩
          have one : following - 1 = 0 := by omega
          rw [one, Nat.pow_eq, Nat.pow_zero, Nat.mul_one] at large
          simp only [List.mem_singleton, forall_eq]
          exact ofNat_ne_lineBreak (by omega)
      next more =>
          obtain ⟨further, rfl⟩ : ∃ further, following = further + 2 :=
            ⟨following - 2, by omega⟩
          refine ⟨⟨Nat.le_refl _, Nat.le_refl _, ?_⟩, by simp⟩
          have grown : bits * 0x40 + (low - 0x80) ≤ bits * 0x40 + (byte.toNat - 0x80) := by omega
          calc 0x80 ≤ (bits * 0x40 + (low - 0x80)) * 0x40 ^ (further + 1) := large
            _ ≤ (bits * 0x40 + (byte.toNat - 0x80)) * 0x40 ^ (further + 1) :=
              Nat.mul_le_mul_right _ grown
            _ = ((bits * 0x40 + (byte.toNat - 0x80)) * 0x40 + (0x80 - 0x80)) *
                  0x40 ^ further := by
              rw [Nat.pow_succ, Nat.sub_self, Nat.add_zero, Nat.mul_assoc,
                Nat.mul_comm (0x40 ^ further) 0x40]
  next =>
      refine ⟨trivial, ?_⟩
      simp only [List.mem_singleton, forall_eq]
      exact ofNat_ne_lineBreak (by decide)

/-- The other sequences print nothing and are in the middle of no character. -/
theorem stepState_proper (decoder : ControlDecoder) (byte : UInt8)
    (proper : decoder.state.Proper) :
    (decoder.stepState byte).1.state.Proper ∧
      ∀ instruction ∈ (decoder.stepState byte).2, instruction.Proper := by
  unfold stepState
  cases state : decoder.state with
  | ground => exact decoder.stepGround_proper byte proper
  | character bits following low high => exact decoder.stepCharacter_proper byte (state ▸ proper)
  | escape =>
      unfold stepEscape
      grind [ControlState.Proper, Instruction.Proper, enter, mark, begin_]
  | escapeIntermediate =>
      unfold stepEscapeIntermediate
      grind [ControlState.Proper, Instruction.Proper, enter]
  | controlEntry | controlParameter | controlIntermediate =>
      unfold stepControl
      grind [ControlState.Proper, Instruction.Proper, enter, mark, parameter, dispatch]
  | controlIgnored =>
      unfold stepControlIgnored
      grind [ControlState.Proper, Instruction.Proper, enter]
  | deviceEntry | deviceParameter | deviceIntermediate =>
      unfold stepDevice
      grind [ControlState.Proper, enter]
  | deviceBody | otherString | systemString => grind [ControlState.Proper, enter]

/-- The decoder never prints a line break. -/
theorem step_proper (decoder : ControlDecoder) (byte : UInt8) (proper : decoder.state.Proper) :
    (decoder.step byte).1.state.Proper ∧
      ∀ instruction ∈ (decoder.step byte).2, instruction.Proper := by
  unfold step
  split
  · exact decoder.stepState_proper byte proper
  · split
    · exact ⟨trivial, by simp [Instruction.Proper]⟩
    · split
      · exact ⟨trivial, by simp⟩
      · exact decoder.stepState_proper byte proper

end ControlDecoder

/-! ### Cells -/

theorem mem_overlay {Item : Type} {item : Item} (above below : List Item)
    (member : item ∈ overlay above below) : item ∈ above ∨ item ∈ below := by
  induction above generalizing below with
  | nil =>
      cases below with
      | nil => cases member
      | cons other below => exact .inr member
  | cons cell above inductionHypothesis =>
      cases below with
      | nil => cases member
      | cons other below =>
          rw [overlay, List.mem_cons] at member
          rcases member with rfl | member
          · exact .inl List.mem_cons_self
          · rcases inductionHypothesis below member with inside | inside
            · exact .inl (List.mem_cons_of_mem _ inside)
            · exact .inr (List.mem_cons_of_mem _ inside)

@[simp] theorem length_overlay {Item : Type} (above below : List Item) :
    (overlay above below).length = below.length := by
  induction above generalizing below with
  | nil => cases below <;> rfl
  | cons cell above inductionHypothesis =>
      cases below with
      | nil => rfl
      | cons other below => simp [overlay, inductionHypothesis]

theorem lineBreak_not_mem_blankRow (cols : UInt16) : '\n' ∉ blankRow cols := by
  simp [blankRow, List.mem_replicate]

theorem lineBreak_not_mem_eraseCells {cells : List Char} (clean : '\n' ∉ cells)
    (start stop : Nat) : '\n' ∉ eraseCells start stop cells := by
  intro member
  obtain ⟨col, inside, same⟩ := List.mem_mapIdx.mp member
  split at same
  · exact absurd same (by decide)
  · exact clean (same ▸ List.getElem_mem inside)

namespace Grid

/-- A grid with as many rows as its size says and without line breaks in its cells. -/
structure Proper (grid : Grid) : Prop where
  height : grid.rows.length = grid.size.rows.toNat
  clean : ∀ cells ∈ grid.rows, '\n' ∉ cells

variable {grid : Grid}

theorem blank_proper (size : Size) (scrollbackLimit : Nat) :
    (Grid.blank size scrollbackLimit).Proper where
  height := by simp [blank, blankRows]
  clean cells member := by
    obtain ⟨-, rfl⟩ := List.mem_replicate.mp member
    exact lineBreak_not_mem_blankRow size.cols

/-- The cursor may be anywhere. -/
theorem Proper.of_same {other : Grid} (proper : grid.Proper) (rows : other.rows = grid.rows)
    (size : other.size = grid.size) : other.Proper where
  height := by rw [rows, size, proper.height]
  clean := by rw [rows]; exact proper.clean

/-- Rows are changed where they are. -/
theorem Proper.modify (proper : grid.Proper) (row : Nat) {change : List Char → List Char}
    (clean : ∀ cells, '\n' ∉ cells → '\n' ∉ change cells) :
    { grid with rows := grid.rows.modify row change }.Proper where
  height := by simpa using proper.height
  clean cells member := by
    obtain ⟨place, inside, rfl⟩ := List.mem_iff_getElem.mp member
    have within : place < grid.rows.length := by simpa using inside
    have here := proper.clean grid.rows[place] (List.getElem_mem within)
    rw [List.getElem_modify]
    split
    · exact clean _ here
    · exact here

theorem scrollUp_proper (proper : grid.Proper) : grid.scrollUp.Proper := by
  unfold scrollUp
  split
  next => exact proper
  next top rest found =>
      refine ⟨by simpa [found] using proper.height, fun cells member => ?_⟩
      rcases List.mem_append.mp member with inside | last
      · exact proper.clean cells (by simp [found, inside])
      · obtain rfl := List.mem_singleton.mp last
        exact lineBreak_not_mem_blankRow _

theorem Proper.of_coordinate {coordinate : Option UInt16} {after : UInt16 → Grid}
    (proper : grid.Proper) (goesOn : ∀ next, (after next).Proper) :
    (grid.orOverflow (coordinate.map after)).Proper :=
  orOverflow_map (motive := Proper) (proper.of_same rfl rfl) fun next _ => goesOn next

theorem lineFeed_proper (proper : grid.Proper) : grid.lineFeed.Proper := by
  have unwrapped : { grid with wrapPending := false }.Proper := proper.of_same rfl rfl
  refine lineFeed_induction (motive := Proper) (proper.of_same rfl rfl) fun next _ => ?_
  unfold descend
  split
  · exact scrollUp_proper unwrapped
  · exact unwrapped.of_same rfl rfl

theorem wrap_proper (proper : grid.Proper) : grid.wrap.Proper :=
  wrap_induction (motive := Proper) (proper.of_same rfl rfl)
    (lineFeed_proper (proper.of_same rfl rfl)) proper

theorem put_proper (proper : grid.Proper) {c : Char} (visible : c ≠ '\n') :
    (grid.put c).Proper := by
  have wrapped := wrap_proper proper
  have set :
      (grid.wrap.setCell grid.wrap.cursor.position.row grid.wrap.cursor.position.col c).Proper := by
    refine wrapped.modify _ fun cells clean member => ?_
    rcases List.mem_or_eq_of_mem_set member with inside | same
    · exact clean inside
    · exact visible same.symm
  refine put_induction (motive := Proper) (proper.of_same rfl rfl) fun next _ => ?_
  unfold advance
  split <;> exact set.of_same rfl rfl

theorem eraseInRow_proper (proper : grid.Proper) (row start stop : UInt16) :
    (grid.eraseInRow row start stop).Proper :=
  proper.modify _ fun _ clean => lineBreak_not_mem_eraseCells clean _ _

theorem eraseRows_proper (proper : grid.Proper) (start stop : UInt16) :
    (grid.eraseRows start stop).Proper where
  height := by simpa [eraseRows] using proper.height
  clean cells member := by
    obtain ⟨row, inside, rfl⟩ := List.mem_mapIdx.mp member
    have here := proper.clean grid.rows[row] (List.getElem_mem _)
    split
    · exact lineBreak_not_mem_eraseCells here _ _
    · exact here

theorem restoreCursor_proper (proper : grid.Proper) : grid.restoreCursor.Proper := by
  unfold restoreCursor
  split
  · exact proper
  · exact proper.of_same rfl rfl

theorem tab_proper (proper : grid.Proper) : grid.tab.Proper :=
  proper.of_coordinate fun _ => proper.of_same rfl rfl

theorem execute_proper (proper : grid.Proper) (byte : UInt8) : (grid.execute byte).Proper := by
  rw [execute_eq]
  split
  · exact proper.of_same rfl rfl
  · split
    · exact tab_proper proper
    · split
      · exact lineFeed_proper proper
      · split
        · exact proper.of_same rfl rfl
        · exact proper

theorem eraseDisplay_proper (proper : grid.Proper) (mode : UInt16) :
    (grid.eraseDisplay mode).Proper := by
  rw [eraseDisplay_eq]
  split
  · exact proper.of_coordinate fun next =>
      eraseRows_proper (eraseInRow_proper proper _ _ _) next _
  · split
    · exact proper.of_coordinate fun next =>
        eraseInRow_proper (eraseRows_proper proper _ _) _ _ next
    · split
      · exact eraseRows_proper proper _ _
      · exact proper

theorem eraseLine_proper (proper : grid.Proper) (mode : UInt16) :
    (grid.eraseLine mode).Proper := by
  rw [eraseLine_eq]
  split
  · exact eraseInRow_proper proper _ _ _
  · split
    · exact proper.of_coordinate fun next => eraseInRow_proper proper _ _ next
    · split
      · exact eraseInRow_proper proper _ _ _
      · exact proper

theorem control_proper (proper : grid.Proper) (parameters : List (List UInt16)) (final : UInt8) :
    (grid.control parameters final).Proper := by
  rw [control_eq]
  dsimp only
  split
  case h_8 => exact eraseDisplay_proper proper _
  case h_9 => exact eraseLine_proper proper _
  case h_11 => exact restoreCursor_proper proper
  all_goals exact proper.of_same rfl rfl

theorem perform_proper (proper : grid.Proper) {instruction : Instruction}
    (printable : instruction.Proper) : (grid.perform instruction).Proper := by
  cases instruction with
  | print c => exact put_proper proper printable
  | execute byte => exact execute_proper proper byte
  | control parameters marked final =>
      rw [perform_control]
      split
      · exact proper
      · exact control_proper proper parameters final
  | escape final =>
      rw [perform_escape]
      split
      · exact proper.of_same rfl rfl
      · split
        · exact restoreCursor_proper proper
        · exact proper

theorem clear_proper (proper : grid.Proper) : grid.clear.Proper where
  height := by simp [clear, blankRows]
  clean cells member := by
    rcases mem_overlay _ _ member with current | blank
    · obtain rfl := List.mem_singleton.mp current
      cases found : grid.rows[grid.cursor.position.row.toNat]? with
      | none => exact lineBreak_not_mem_blankRow _
      | some cells => exact proper.clean cells (List.mem_of_getElem? found)
    · obtain ⟨-, rfl⟩ := List.mem_replicate.mp blank
      exact lineBreak_not_mem_blankRow _

theorem resize_proper (proper : grid.Proper) (size : Size) : (grid.resize size).Proper where
  height := by simp [resize, blankRows]
  clean cells member := by
    rcases mem_overlay _ _ member with kept | blank
    · obtain ⟨old, inside, rfl⟩ := List.mem_map.mp kept
      intro lineBreak
      rcases mem_overlay _ _ lineBreak with inOld | inBlank
      · exact proper.clean old inside inOld
      · exact lineBreak_not_mem_blankRow _ inBlank
    · obtain ⟨-, rfl⟩ := List.mem_replicate.mp blank
      exact lineBreak_not_mem_blankRow _

end Grid

namespace Display

/-- A display that is in the middle of no line break and shows none. -/
structure Proper (display : Display) : Prop where
  decoder : display.decoder.state.Proper
  grid : display.grid.Proper

theorem feedByte_proper {display : Display} (proper : display.Proper) (byte : UInt8) :
    (display.feedByte byte).Proper := by
  obtain ⟨decoder, printable⟩ := display.decoder.step_proper byte proper.decoder
  refine ⟨decoder, ?_⟩
  have performed : ∀ (instructions : List Instruction) (grid : Grid),
      (∀ instruction ∈ instructions, instruction.Proper) → grid.Proper →
        (instructions.foldl Grid.perform grid).Proper := by
    intro instructions
    induction instructions with
    | nil => exact fun grid _ proper => proper
    | cons instruction instructions inductionHypothesis =>
        intro grid printable proper
        exact inductionHypothesis _ (fun other member => printable other (by simp [member]))
          (Grid.perform_proper proper (printable instruction (by simp)))
  exact performed _ _ printable proper.grid

/-- Whatever is shown, the display stays proper. -/
theorem feed_proper {display : Display} (proper : display.Proper) (bytes : List UInt8) :
    (display.feed bytes).Proper := by
  induction bytes generalizing display with
  | nil => exact proper
  | cons byte bytes inductionHypothesis => exact inductionHypothesis (feedByte_proper proper byte)

end Display

/-! ### The size of the screen -/

namespace Grid

@[simp] theorem scrollUp_size (grid : Grid) : grid.scrollUp.size = grid.size := by
  unfold scrollUp
  split <;> rfl

theorem size_of_coordinate {grid : Grid} {coordinate : Option UInt16} {after : UInt16 → Grid}
    (same : ∀ next, (after next).size = grid.size) :
    (grid.orOverflow (coordinate.map after)).size = grid.size :=
  orOverflow_map (motive := fun after => after.size = grid.size) rfl fun next _ => same next

@[simp] theorem lineFeed_size (grid : Grid) : grid.lineFeed.size = grid.size := by
  refine lineFeed_induction (motive := fun after => after.size = grid.size) rfl fun next _ => ?_
  unfold descend
  split
  · exact scrollUp_size _
  · rfl

@[simp] theorem wrap_size (grid : Grid) : grid.wrap.size = grid.size :=
  wrap_induction (motive := fun after => after.size = grid.size) rfl (lineFeed_size _) rfl

@[simp] theorem put_size (grid : Grid) (c : Char) : (grid.put c).size = grid.size := by
  refine put_induction (motive := fun after => after.size = grid.size) rfl fun next _ => ?_
  unfold advance
  split <;> exact wrap_size grid

@[simp] theorem restoreCursor_size (grid : Grid) : grid.restoreCursor.size = grid.size := by
  unfold restoreCursor
  split <;> rfl

@[simp] theorem tab_size (grid : Grid) : grid.tab.size = grid.size :=
  size_of_coordinate fun _ => rfl

@[simp] theorem execute_size (grid : Grid) (byte : UInt8) :
    (grid.execute byte).size = grid.size := by
  rw [execute_eq]
  repeat' split
  all_goals first | rfl | exact tab_size grid | exact lineFeed_size grid

@[simp] theorem eraseDisplay_size (grid : Grid) (mode : UInt16) :
    (grid.eraseDisplay mode).size = grid.size := by
  rw [eraseDisplay_eq]
  repeat' split
  · exact size_of_coordinate fun _ => rfl
  · exact size_of_coordinate fun _ => rfl
  all_goals rfl

@[simp] theorem eraseLine_size (grid : Grid) (mode : UInt16) :
    (grid.eraseLine mode).size = grid.size := by
  rw [eraseLine_eq]
  repeat' split
  · rfl
  · exact size_of_coordinate fun _ => rfl
  all_goals rfl

@[simp] theorem control_size (grid : Grid) (parameters : List (List UInt16)) (final : UInt8) :
    (grid.control parameters final).size = grid.size := by
  rw [control_eq]
  dsimp only
  split
  case h_8 => exact eraseDisplay_size grid _
  case h_9 => exact eraseLine_size grid _
  case h_11 => exact restoreCursor_size grid
  all_goals rfl

@[simp] theorem perform_size (grid : Grid) (instruction : Instruction) :
    (grid.perform instruction).size = grid.size := by
  cases instruction with
  | print c => exact grid.put_size c
  | execute byte => exact grid.execute_size byte
  | control parameters marked final =>
      rw [perform_control]
      split
      · rfl
      · exact grid.control_size parameters final
  | escape final =>
      rw [perform_escape]
      split
      · rfl
      · split
        · exact grid.restoreCursor_size
        · rfl

end Grid

namespace Display

theorem feedByte_size (display : Display) (byte : UInt8) :
    (display.feedByte byte).grid.size = display.grid.size := by
  have performed : ∀ (instructions : List Instruction) (grid : Grid),
      (instructions.foldl Grid.perform grid).size = grid.size := by
    intro instructions
    induction instructions with
    | nil => exact fun _ => rfl
    | cons instruction instructions inductionHypothesis =>
        exact fun grid => (inductionHypothesis _).trans (grid.perform_size instruction)
  exact performed _ _

/-- No output changes the size of the screen. -/
@[simp] theorem feed_size (display : Display) (bytes : List UInt8) :
    (display.feed bytes).grid.size = display.grid.size := by
  induction bytes generalizing display with
  | nil => rfl
  | cons byte bytes inductionHypothesis =>
      exact (inductionHypothesis _).trans (display.feedByte_size byte)

end Display

/-! ### The texts of rows -/

/-- The text of a row; a row that is not on the screen has none. -/
def Grid.textAt (grid : Grid) (row : UInt16) : List Char :=
  (grid.visibleLines[row.toNat]?).getD []

section

variable {grid : Grid} (height : grid.rows.length = grid.size.rows.toNat)

include height

/-- A screen with the rows its size says shows the text of each. -/
theorem Grid.visibleLines_eq : grid.visibleLines = grid.rows.map Text.trimEnd := by
  rw [visibleLines, ← height, List.take_length]

theorem Grid.length_visibleLines : grid.visibleLines.length = grid.size.rows.toNat := by
  rw [visibleLines_eq height, List.length_map, height]

theorem Grid.getElem?_visibleLines (row : UInt16) :
    grid.visibleLines[row.toNat]? = grid.rowText? row := by
  rw [visibleLines_eq height]
  exact List.getElem?_map ..

end

theorem Grid.textAt_of_outside {grid : Grid} (proper : grid.Proper) {row : UInt16}
    (outside : grid.size.rows ≤ row) : grid.textAt row = [] := by
  rw [UInt16.le_iff_toNat_le, ← length_visibleLines proper.height] at outside
  rw [textAt, List.getElem?_eq_none outside, Option.getD_none]

/-- The text of a row is what its cells say, without the blanks at the end. -/
theorem Grid.textAt_cells {grid : Grid} (proper : grid.Proper) {row : UInt16}
    (inside : row < grid.size.rows) :
    ∃ cells, grid.rows[row.toNat]? = some cells ∧ grid.textAt row = Text.trimEnd cells := by
  rw [UInt16.lt_iff_toNat_lt] at inside
  have within : row.toNat < grid.rows.length := proper.height ▸ inside
  refine ⟨grid.rows[row.toNat], List.getElem?_eq_getElem within, ?_⟩
  simp [textAt, visibleLines, inside, within]

/-- A blank screen has no text. -/
theorem Grid.blank_textAt (size : Size) (scrollbackLimit : Nat) (row : UInt16) :
    (Grid.blank size scrollbackLimit).textAt row = [] := by
  have blank : Text.trimEnd (blankRow size.cols) = [] := by
    simp [Text.trimEnd, blankRow, Text.isBlank]
  rw [textAt, visibleLines]
  cases found : (((Grid.blank size scrollbackLimit).rows.take size.rows.toNat).map
      Text.trimEnd)[row.toNat]? with
  | none => exact congrArg (Option.getD · []) found
  | some text =>
      refine (congrArg (Option.getD · []) found).trans ?_
      obtain ⟨cells, member, rfl⟩ := List.mem_map.mp (List.mem_of_getElem? found)
      obtain ⟨-, rfl⟩ := List.mem_replicate.mp (List.mem_of_mem_take member)
      exact blank

theorem trimEnd_isPrefix (text : List Char) : Text.trimEnd text <+: text := by
  have suffix : text.reverse.dropWhile Text.isBlank <:+ text.reverse := List.dropWhile_suffix _
  simpa [Text.trimEnd] using List.reverse_prefix.mpr suffix

/-- A row without text is blank. -/
theorem trimEnd_eq_nil_iff {text : List Char} :
    Text.trimEnd text = [] ↔ ∀ c ∈ text, Text.isBlank c = true := by
  simp [Text.trimEnd, List.dropWhile_eq_nil_iff]

theorem Grid.textAt_noBreak {grid : Grid} (proper : grid.Proper) (row : UInt16) :
    '\n' ∉ grid.textAt row := by
  rcases UInt16.lt_or_le row grid.size.rows with inside | outside
  · obtain ⟨cells, found, text⟩ := textAt_cells proper inside
    rw [text]
    exact fun member => proper.clean cells (List.mem_of_getElem? found)
      ((trimEnd_isPrefix cells).subset member)
  · rw [textAt_of_outside proper outside]
    exact List.not_mem_nil

/-! ### Changed rows -/

/-- The rows as somebody knows them who is told about changes. -/
def afterChanges (known : UInt16 → List Char) (changes : List LineChange) :
    UInt16 → List Char :=
  changes.foldl (fun known change row => if row = change.row then change.text else known row) known

theorem afterChanges_of_not_mem (known : UInt16 → List Char) (changes : List LineChange)
    {row : UInt16} (untold : row ∉ changes.map LineChange.row) :
    afterChanges known changes row = known row := by
  induction changes generalizing known with
  | nil => rfl
  | cons change changes inductionHypothesis =>
      simp only [List.map_cons, List.mem_cons, not_or] at untold
      rw [afterChanges, List.foldl_cons, ← afterChanges, inductionHypothesis _ untold.2]
      exact if_neg untold.1

theorem afterChanges_of_mem (known : UInt16 → List Char) {changes : List LineChange}
    (distinct : (changes.map LineChange.row).Nodup) {change : LineChange}
    (member : change ∈ changes) : afterChanges known changes change.row = change.text := by
  induction changes generalizing known with
  | nil => cases member
  | cons first changes inductionHypothesis =>
      rw [List.map_cons, List.nodup_cons] at distinct
      rw [afterChanges, List.foldl_cons, ← afterChanges]
      rcases List.mem_cons.mp member with rfl | member
      · rw [afterChanges_of_not_mem _ _ distinct.1]
        exact if_pos rfl
      · exact inductionHypothesis _ distinct.2 member

theorem mem_lineChanges_iff {first : Nat} {known shown : List (List Char)} {change : LineChange} :
    change ∈ lineChanges first known shown ↔
      ∃ place, shown[place]? = some change.text ∧ (known[place]?).getD [] ≠ change.text ∧
        change.row = UInt16.ofNat (first + place) := by
  induction shown generalizing first known with
  | nil => simp [lineChanges]
  | cons text shown inductionHypothesis =>
      have later : change ∈ lineChanges (first + 1) known.tail shown ↔
          ∃ place, (text :: shown)[place + 1]? = some change.text ∧
            (known[place + 1]?).getD [] ≠ change.text ∧
            change.row = UInt16.ofNat (first + (place + 1)) := by
        rw [inductionHypothesis]
        simp [Nat.add_assoc, Nat.add_comm 1]
      have split (property : Nat → Prop) : (∃ place, property place) ↔
          property 0 ∨ ∃ place, property (place + 1) :=
        ⟨fun ⟨place, holds⟩ => by cases place with
          | zero => exact .inl holds
          | succ place => exact .inr ⟨place, holds⟩,
        fun holds => holds.elim (⟨0, ·⟩) fun ⟨place, holds⟩ => ⟨place + 1, holds⟩⟩
      rw [split, ← later, lineChanges]
      have head : known.head?.getD [] = (known[0]?).getD [] := by rw [List.head?_eq_getElem?]
      rw [head]
      by_cases same : (known[0]?).getD [] = text
      · have unchanged : ¬((text :: shown)[0]? = some change.text ∧
            (known[0]?).getD [] ≠ change.text ∧ change.row = UInt16.ofNat (first + 0)) := by
          rintro ⟨shownHere, other, -⟩
          exact other (same.trans (by simpa using shownHere))
        rw [if_pos same, or_iff_right unchanged]
      · rw [if_neg same, List.mem_cons]
        refine or_congr_left ⟨?_, ?_⟩
        · rintro rfl
          exact ⟨rfl, same, rfl⟩
        · rintro ⟨shownHere, -, row⟩
          obtain rfl : text = change.text := by simpa using shownHere
          exact congrArg (LineChange.mk · change.text) row

theorem lineChanges_distinct {first : Nat} (known : List (List Char)) {shown : List (List Char)}
    (fits : first + shown.length ≤ 65536) :
    ((lineChanges first known shown).map LineChange.row).Nodup := by
  induction shown generalizing first known with
  | nil => exact List.nodup_nil
  | cons text shown inductionHypothesis =>
      rw [List.length_cons] at fits
      have later := inductionHypothesis known.tail (by omega : first + 1 + shown.length ≤ 65536)
      rw [lineChanges]
      split
      · exact later
      · rw [List.map_cons, List.nodup_cons]
        refine ⟨fun member => ?_, later⟩
        obtain ⟨change, told, same⟩ := List.mem_map.mp member
        obtain ⟨place, shownHere, -, row⟩ := mem_lineChanges_iff.mp told
        obtain ⟨inside, -⟩ := List.getElem?_eq_some_iff.mp shownHere
        have numbers := congrArg UInt16.toNat (same.symm.trans row)
        simp only [UInt16.toNat_ofNat'] at numbers
        omega

/-- Listeners are told about the rows that show another text than they know. -/
theorem row_mem_lineChanges_iff {known shown : List (List Char)} (fits : shown.length ≤ 65536)
    {row : UInt16} :
    row ∈ (lineChanges 0 known shown).map LineChange.row ↔
      ∃ text, shown[row.toNat]? = some text ∧ (known[row.toNat]?).getD [] ≠ text := by
  rw [List.mem_map]
  constructor
  · rintro ⟨change, told, rfl⟩
    obtain ⟨place, shownHere, other, row⟩ := mem_lineChanges_iff.mp told
    obtain ⟨inside, -⟩ := List.getElem?_eq_some_iff.mp shownHere
    have place_eq : change.row.toNat = place := by
      rw [row, Nat.zero_add, UInt16.toNat_ofNat']
      omega
    rw [place_eq]
    exact ⟨change.text, shownHere, other⟩
  · rintro ⟨text, shownHere, other⟩
    exact ⟨⟨row, text⟩, mem_lineChanges_iff.mpr ⟨row.toNat, shownHere, other, by simp⟩, rfl⟩

/-- Who is told about a row knows it, whatever was known before. -/
theorem afterChanges_of_told {known shown : List (List Char)} (fits : shown.length ≤ 65536)
    (heard : UInt16 → List Char) {row : UInt16}
    (told : row ∈ (lineChanges 0 known shown).map LineChange.row) :
    afterChanges heard (lineChanges 0 known shown) row = (shown[row.toNat]?).getD [] := by
  obtain ⟨text, shownHere, other⟩ := (row_mem_lineChanges_iff fits).mp told
  have change : (⟨row, text⟩ : LineChange) ∈ lineChanges 0 known shown :=
    mem_lineChanges_iff.mpr ⟨row.toNat, shownHere, other, by simp⟩
  rw [afterChanges_of_mem heard (lineChanges_distinct known (by omega)) change, shownHere,
    Option.getD_some]

/-- A row nobody is told about shows what is known of it. -/
theorem known_of_untold {known shown : List (List Char)} (fits : shown.length ≤ 65536)
    {row : UInt16} (inside : row.toNat < shown.length)
    (untold : row ∉ (lineChanges 0 known shown).map LineChange.row) :
    (known[row.toNat]?).getD [] = (shown[row.toNat]?).getD [] := by
  have shownHere : shown[row.toNat]? = some shown[row.toNat] := List.getElem?_eq_getElem inside
  rw [row_mem_lineChanges_iff fits] at untold
  rw [shownHere, Option.getD_some]
  exact Classical.byContradiction fun other => untold ⟨_, shownHere, other⟩

/-- A new listener is told what it would be told if it knew nothing. -/
theorem occupiedLines_eq (first : Nat) (texts : List (List Char)) :
    occupiedLines first texts = lineChanges first [] texts := by
  induction texts generalizing first with
  | nil => rfl
  | cons text texts inductionHypothesis =>
      rw [occupiedLines, lineChanges, inductionHypothesis]
      cases text <;> rfl

end RuntimeConsole
