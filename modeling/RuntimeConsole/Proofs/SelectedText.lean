/-
Module: RuntimeConsole.Proofs.SelectedText
Purpose: When there is something to copy: blanks alone are nothing in a selection within one row,
  while of a selection over several rows the line breaks are always copied.
Main exports:
  Position.Between, Grid.BlankBetween, selectedRows_blank, selection_copied
-/
import RuntimeConsole.Proofs.ReachableScreens

namespace RuntimeConsole

/-! ### Positions in reading order -/

namespace Position

/-- Whether a position lies between two others, both included, whichever of them comes first. -/
def Between (first second position : Position) : Prop :=
  first.precedes position = true ∧ position.precedes second = true ∨
    second.precedes position = true ∧ position.precedes first = true

/-- Positions between two that stand in reading order. -/
theorem between_of_precedes {first last : Position} (ordered : first.precedes last = true)
    (position : Position) : Between first last position ↔
      first.precedes position = true ∧ position.precedes last = true := by
  refine ⟨fun between => ?_, .inl⟩
  rcases between with inOrder | ⟨afterLast, beforeFirst⟩
  · exact inOrder
  · rw [precedes_iff] at ordered afterLast beforeFirst
    rw [precedes_iff, precedes_iff]
    omega

theorem between_comm (first second position : Position) :
    Between first second position ↔ Between second first position :=
  or_comm

end Position

open Position

/-- Whether every cell of the screen between two positions is blank. -/
def Grid.BlankBetween (grid : Grid) (first second : Position) : Prop :=
  ∀ (position : Position) (c : Char), Between first second position →
    grid.charAt? position.row position.col = some c → Text.isBlank c = true

/-! ### The selected rows -/

theorem mem_take_drop {cells : List Char} {start count : Nat} {c : Char} :
    c ∈ (cells.drop start).take count ↔
      ∃ col, start ≤ col ∧ col < start + count ∧ cells[col]? = some c := by
  rw [List.mem_iff_getElem?]
  constructor
  · rintro ⟨offset, found⟩
    rw [List.getElem?_take] at found
    split at found
    next inside =>
        rw [List.getElem?_drop] at found
        exact ⟨start + offset, by omega, by omega, found⟩
    next => cases found
  · rintro ⟨col, above, below, found⟩
    refine ⟨col - start, ?_⟩
    rw [List.getElem?_take, if_pos (by omega), List.getElem?_drop, Nat.add_sub_cancel' above, found]

namespace Terminal

variable {terminal : Terminal} {first last : Position}

/-- There are no cells behind the last column. -/
theorem le_lastCol (shaped : terminal.grid.Shaped) {row col : Nat} {cells : List Char} {c : Char}
    (inRow : terminal.grid.rows[row]? = some cells) (inCol : cells[col]? = some c) :
    col ≤ terminal.grid.lastCol.toNat := by
  have width := shaped.width cells (List.mem_of_getElem? inRow)
  obtain ⟨inside, -⟩ := List.getElem?_eq_some_iff.mp inCol
  have present : 0 < terminal.grid.size.cols.toNat := by omega
  have some : terminal.grid.size.cols ≠ 0 := by
    intro none
    rw [none] at present
    exact absurd present (by decide)
  have positive : (1 : UInt16) ≤ terminal.grid.size.cols := UInt16.le_iff_toNat_le.mpr present
  have one : (1 : UInt16).toNat = 1 := rfl
  rw [Grid.lastCol, if_neg some, UInt16.toNat_sub_of_le _ _ positive, one]
  omega

/-- Nothing is selected in a row if its cells between the two positions are blank. -/
theorem selectedInRow_eq_nil (shaped : terminal.grid.Shaped) (row : Nat) :
    terminal.selectedInRow first last row = [] ↔
      ∀ (cells : List Char) (col : Nat) (c : Char), terminal.grid.rows[row]? = some cells →
        (row = first.row.toNat → first.col.toNat ≤ col) →
        (row = last.row.toNat → col ≤ last.col.toNat) → cells[col]? = some c →
          Text.isBlank c = true := by
  rw [selectedInRow, trimEnd_eq_nil_iff]
  cases found : terminal.grid.rows[row]? with
  | none => simp
  | some cells =>
      simp only [Option.getD_some, mem_take_drop, Option.some.injEq]
      constructor
      · rintro blank _ col c rfl fromFirst toLast inCol
        have onScreen := le_lastCol shaped found inCol
        refine blank c ⟨col, ?_, ?_, inCol⟩
        · split <;> omega
        · split <;> split <;> omega
      · rintro blank c ⟨col, above, below, inCol⟩
        refine blank cells col c rfl ?_ ?_ inCol
        · rintro rfl
          simpa using above
        · rintro rfl
          rw [if_pos rfl] at below
          omega

/-- The lines of the selected text. -/
def selectedLines (terminal : Terminal) (first last : Position) : List (List Char) :=
  (List.range' first.row.toNat (last.row.toNat + 1 - first.row.toNat)).map
    (terminal.selectedInRow first last)

/-- All of them are empty if all cells between the two positions are blank. -/
theorem selectedLines_blank (shaped : terminal.grid.Shaped)
    (ordered : first.precedes last = true) :
    (∀ line ∈ terminal.selectedLines first last, line = []) ↔
      terminal.grid.BlankBetween first last := by
  have rows : (∀ line ∈ terminal.selectedLines first last, line = []) ↔
      ∀ row, first.row.toNat ≤ row → row ≤ last.row.toNat →
        terminal.selectedInRow first last row = [] := by
    simp only [selectedLines, List.forall_mem_map, List.mem_range'_1]
    exact ⟨fun empty row above below => empty row ⟨above, by omega⟩,
      fun empty row inside => empty row inside.1 (by omega)⟩
  rw [rows]
  simp only [selectedInRow_eq_nil shaped]
  constructor
  · intro blank position c between found
    obtain ⟨cells, inRow, inCol⟩ := Option.bind_eq_some_iff.mp found
    rw [between_of_precedes ordered, precedes_iff, precedes_iff] at between
    exact blank position.row.toNat (by omega) (by omega) cells position.col.toNat c inRow
      (by omega) (by omega) inCol
  · intro blank row above below cells col c inRow fromFirst toLast inCol
    have rowFits : row < UInt16.size := Nat.lt_of_le_of_lt below last.row.toNat_lt
    have colFits : col < UInt16.size :=
      Nat.lt_of_le_of_lt (le_lastCol shaped inRow inCol) terminal.grid.lastCol.toNat_lt
    have rowCode : (UInt16.ofNat row).toNat = row := UInt16.toNat_ofNat_of_lt rowFits
    have colCode : (UInt16.ofNat col).toNat = col := UInt16.toNat_ofNat_of_lt colFits
    refine blank ⟨.ofNat row, .ofNat col⟩ c ?_ ?_
    · rw [between_of_precedes ordered, precedes_iff, precedes_iff, rowCode, colCode]
      omega
    · rw [Grid.charAt?, rowCode, colCode, inRow, Option.bind_some, inCol]

/-- A line of the selected text has something to be seen unless it is empty. -/
theorem selectedLines_visible {line : List Char}
    (member : line ∈ terminal.selectedLines first last) : (∀ c ∈ line, c = '\n') ↔ line = [] := by
  refine ⟨fun breaks => ?_, fun empty => by simp [empty]⟩
  obtain ⟨row, -, rfl⟩ := List.mem_map.mp member
  cases ends : (terminal.selectedInRow first last row).getLast? with
  | none => exact List.getLast?_eq_none_iff.mp ends
  | some c =>
      have visible : Text.isBlank c = false := Text.trimEnd_getLast?_not_blank _ c ends
      rw [breaks c (List.mem_of_getLast? ends)] at visible
      exact absurd visible (by decide)

end Terminal

/-! ### Lines joined by line breaks -/

theorem intercalate_eq_nil {lines : List (List Char)} :
    ['\n'].intercalate lines = [] ↔ lines = [] ∨ lines = [[]] := by
  cases lines with
  | nil => simp
  | cons line lines =>
      cases lines with
      | nil => simp
      | cons next lines => simp [List.intercalate_cons_cons]

theorem breaks_intercalate {lines : List (List Char)} :
    (∀ c ∈ ['\n'].intercalate lines, c = '\n') ↔ ∀ line ∈ lines, ∀ c ∈ line, c = '\n' := by
  induction lines with
  | nil => simp
  | cons line lines inductionHypothesis =>
      cases lines with
      | nil => simp
      | cons next lines =>
          rw [List.intercalate_cons_cons, List.forall_mem_cons, ← inductionHypothesis]
          simp only [List.forall_mem_append, List.forall_mem_singleton, and_true]

/-! ### The selected text -/

namespace Terminal

variable {terminal : Terminal} {first last : Position}

/-- The lines are as many as there are rows from the one position to the other, so their text is
empty only within one row. -/
theorem intercalate_selectedLines (ordered : first.precedes last = true) :
    ['\n'].intercalate (terminal.selectedLines first last) = [] ↔
      first.row = last.row ∧ ∀ line ∈ terminal.selectedLines first last, line = [] := by
  have length : (terminal.selectedLines first last).length =
      last.row.toNat + 1 - first.row.toNat := by simp [selectedLines]
  rw [precedes_iff] at ordered
  rw [intercalate_eq_nil, ← UInt16.toNat_inj]
  constructor
  · rintro (none | one)
    · rw [none, List.length_nil] at length
      omega
    · rw [one, List.length_singleton] at length
      exact ⟨by omega, by simp [one]⟩
  · rintro ⟨sameRow, empty⟩
    obtain ⟨line, one⟩ := List.length_eq_one_iff.mp (by omega :
      (terminal.selectedLines first last).length = 1)
    rw [one, List.forall_mem_singleton] at empty
    exact .inr (by rw [one, empty])

/-- The selected text, and the two positions it is between in reading order. -/
theorem copySelection_select (terminal : Terminal) (first second : Position) :
    ∃ start stop, start.precedes stop = true ∧
      (start = first ∧ stop = second ∨ start = second ∧ stop = first) ∧
      (terminal.select first second).copySelection =
        (let text := ['\n'].intercalate (terminal.selectedLines start stop)
        if text.isEmpty then none else some text) := by
  by_cases ordered : first.precedes second = true
  · refine ⟨first, second, ordered, .inl ⟨rfl, rfl⟩, ?_⟩
    rw [copySelection, select, if_pos ordered]
    rfl
  · refine ⟨second, first, precedes_of_not ordered, .inr ⟨rfl, rfl⟩, ?_⟩
    rw [copySelection, select, if_neg ordered]
    rfl

end Terminal

/-- What is copied of a selection between two positions of a terminal, whichever comes first and
wherever they are.  Nothing is copied if and only if they are in one row and every cell of the
screen between them is blank.  Between positions in different rows there is always something to
copy, and it is nothing but line breaks if and only if every cell between them is blank.  The
command interrupts the runtime if there is nothing to copy, and copies otherwise.  The screen of
an activated console has as many cells as its size says, whatever has happened to it. -/
theorem selection_copied (terminal : Terminal) (shaped : terminal.grid.Shaped)
    (first second : Position) :
    ((terminal.select first second).copySelection = none ↔
      first.row = second.row ∧ terminal.grid.BlankBetween first second) ∧
    (first.row ≠ second.row → ∃ text, (terminal.select first second).copySelection = some text ∧
      ((∀ c ∈ text, c = '\n') ↔ terminal.grid.BlankBetween first second)) ∧
    (∀ (console : Console) (ticket : Nat), console.terminal = terminal.select first second →
      ∃ result, console.execute ticket .copyOrInterrupt =
          console.finish ticket (.executed result) ∧
        (result = .dispatched interruptCommand ↔
          first.row = second.row ∧ terminal.grid.BlankBetween first second) ∧
        (result ≠ .dispatched interruptCommand → ∃ text,
          (terminal.select first second).copySelection = some text ∧
            result = .copied (String.ofList text))) ∧
    ∀ (parts : ConsoleParts) (start : Console) (events : List ConsoleEvent),
      Console.activate? parts = some start → (start.undergoAll events).terminal.grid.Shaped := by
  obtain ⟨start, stop, ordered, positions, copied⟩ := terminal.copySelection_select first second
  have blank : terminal.grid.BlankBetween first second ↔
      ∀ line ∈ terminal.selectedLines start stop, line = [] := by
    rw [Terminal.selectedLines_blank shaped ordered]
    rcases positions with ⟨rfl, rfl⟩ | ⟨rfl, rfl⟩
    · exact Iff.rfl
    · simp only [Grid.BlankBetween, between_comm]
  have sameRow : first.row = second.row ↔ start.row = stop.row := by
    rcases positions with ⟨rfl, rfl⟩ | ⟨rfl, rfl⟩
    · exact Iff.rfl
    · exact eq_comm
  have nothing : (terminal.select first second).copySelection = none ↔
      first.row = second.row ∧ terminal.grid.BlankBetween first second := by
    rw [blank, sameRow, ← Terminal.intercalate_selectedLines ordered, copied]
    simp
  refine ⟨nothing, fun apart => ?_, fun console ticket given => ?_,
    fun parts start events activated => (Console.sound_reachable activated events).shaped⟩
  · have text : ['\n'].intercalate (terminal.selectedLines start stop) ≠ [] := fun empty =>
      apart (sameRow.mpr ((Terminal.intercalate_selectedLines ordered).mp empty).1)
    refine ⟨_, by simpa [text] using copied, ?_⟩
    rw [blank, breaks_intercalate]
    exact forall₂_congr fun line member => Terminal.selectedLines_visible member
  · cases text : (terminal.select first second).copySelection with
    | none =>
        refine ⟨.dispatched interruptCommand, ?_, ?_, fun other => absurd rfl other⟩
        · rw [Console.execute, given, text]
        · exact iff_of_true rfl (nothing.mp text)
    | some copy =>
        refine ⟨.copied (String.ofList copy), ?_, ?_, fun _ => ⟨copy, rfl, rfl⟩⟩
        · rw [Console.execute, given, text]
        · refine iff_of_false (by simp) fun blank => ?_
          rw [nothing.mpr blank] at text
          cases text

/-- A blank screen of two rows: of one row nothing is copied, of both a line break, though all
that is selected is blank. -/
theorem selection_copied_blank :
    let terminal := Terminal.new .repl { TerminalOptions.standard with size := ⟨2, 3⟩ }
    (terminal.select ⟨0, 0⟩ ⟨0, 9⟩).copySelection = none ∧
      (terminal.select ⟨1, 0⟩ ⟨0, 0⟩).copySelection = some ['\n'] ∧
      terminal.grid.BlankBetween ⟨1, 0⟩ ⟨0, 0⟩ := by
  intro terminal
  have shaped : terminal.grid.Shaped := (Grid.blank_shaped ⟨2, 3⟩ _).of_same rfl rfl
  have lineBreak : (terminal.select ⟨1, 0⟩ ⟨0, 0⟩).copySelection = some ['\n'] := by decide
  obtain ⟨text, copied, blank⟩ :=
    (selection_copied terminal shaped ⟨1, 0⟩ ⟨0, 0⟩).2.1 (by decide)
  rw [lineBreak, Option.some.injEq] at copied
  exact ⟨by decide, lineBreak, blank.mp (by simp [← copied])⟩

end RuntimeConsole
