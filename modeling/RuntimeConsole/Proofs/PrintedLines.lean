/-
Module: RuntimeConsole.Proofs.PrintedLines
Purpose: Lines that are printed on a blank screen are read back from it and from the lines that
  left it, cut where the screen ends.
Main exports:
  Text.cut, Text.CutInto, Grid.Printed, printedRows, PrintedBack, printed_back
-/
import RuntimeConsole.Proofs.EarlyOutput

namespace RuntimeConsole

/-! ### Lines cut into rows -/

namespace Text

/-- A text cut into rows of a width, of which the first has begun with `current`. -/
def cutFrom (width : Nat) (current : List Char) : List Char → List (List Char)
  | [] => [current]
  | c :: rest =>
      if current.length < width then cutFrom width (current ++ [c]) rest
      else current :: cutFrom width [c] rest

/-- A line cut into rows of a width.  An empty line is one empty row. -/
def cut (width : Nat) (line : List Char) : List (List Char) :=
  cutFrom width [] line

/-- Rows that make up a line: only the last may be narrower than the width, and it is empty only
if the line is. -/
structure CutInto (width : Nat) (line : List Char) (rows : List (List Char)) : Prop where
  whole : rows.flatten = line
  full : ∀ row ∈ rows.dropLast, row.length = width
  last : ∃ row, rows.getLast? = some row ∧ row.length ≤ width ∧ (row = [] → line = [])

theorem cutFrom_cutInto {width : Nat} (wide : 0 < width) {current : List Char}
    (fits : current.length ≤ width) (text : List Char) :
    CutInto width (current ++ text) (cutFrom width current text) := by
  induction text generalizing current with
  | nil =>
      rw [List.append_nil]
      exact ⟨by simp [cutFrom], by simp [cutFrom], current, rfl, fits, id⟩
  | cons c text inductionHypothesis =>
      rw [cutFrom]
      split
      next room =>
          have longer : (current ++ [c]).length ≤ width := by
            rw [List.length_append, List.length_singleton]
            exact room
          simpa using inductionHypothesis longer
      next =>
          have one : [c].length ≤ width := wide
          obtain ⟨whole, full, row, last, narrow, some⟩ := inductionHypothesis one
          obtain ⟨first, others, rest⟩ := List.exists_cons_of_ne_nil
            (show cutFrom width [c] text ≠ [] by rintro empty; simp [empty] at last)
          rw [rest] at whole full last ⊢
          refine ⟨by rw [List.flatten_cons, whole]; rfl, ?_, row, ?_, narrow, ?_⟩
          · rw [List.dropLast_cons_cons, List.forall_mem_cons]
            exact ⟨by omega, full⟩
          · rw [List.getLast?_cons_cons, last]
          · intro empty
            cases some empty

/-- A line is cut into the rows that make it up. -/
theorem cut_cutInto {width : Nat} (wide : 0 < width) (line : List Char) :
    CutInto width line (cut width line) := by
  have empty : ([] : List Char).length ≤ width := Nat.zero_le width
  exact cutFrom_cutInto wide empty line

theorem cutFrom_of_fits {width : Nat} {current text : List Char}
    (fits : (current ++ text).length ≤ width) : cutFrom width current text = [current ++ text] := by
  induction text generalizing current with
  | nil => rw [cutFrom, List.append_nil]
  | cons c text inductionHypothesis =>
      have room : current.length < width := by
        simp only [List.length_append, List.length_cons] at fits
        omega
      rw [cutFrom, if_pos room, inductionHypothesis (by simpa using fits), List.append_assoc]
      rfl

/-- A line that fits is one row, also if it fills it. -/
theorem cut_of_fits {width : Nat} {line : List Char} (fits : line.length ≤ width) :
    cut width line = [line] :=
  cutFrom_of_fits fits

/-- A row of a width that begins with a text. -/
def padded (width : Nat) (text : List Char) : List Char :=
  text ++ List.replicate (width - text.length) ' '

theorem padded_nil (cols : UInt16) : padded cols.toNat [] = blankRow cols := rfl

theorem trimEnd_padded (width : Nat) (text : List Char) :
    trimEnd (padded width text) = trimEnd text := by
  have blank : isBlank ' ' = true := by decide
  rw [trimEnd, padded, List.reverse_append, List.reverse_replicate]
  generalize width - text.length = blanks
  induction blanks with
  | zero => rfl
  | succ blanks inductionHypothesis =>
      rw [List.replicate_succ, List.cons_append, List.dropWhile_cons, if_pos blank,
        inductionHypothesis]

/-- The next character comes into the first of the blanks. -/
theorem padded_set {width : Nat} {text : List Char} (room : text.length < width) (c : Char) :
    (padded width text).set text.length c = padded width (text ++ [c]) := by
  obtain ⟨blanks, count⟩ := Nat.exists_eq_add_of_lt room
  have before : width - text.length = blanks + 1 := by omega
  have after : width - (text ++ [c]).length = blanks := by
    rw [List.length_append, List.length_singleton]
    omega
  rw [padded, padded, before, after, List.set_append_right _ _ (Nat.le_refl _), Nat.sub_self,
    List.replicate_succ, List.set_cons_zero, List.append_assoc]
  rfl

end Text

/-! ### The last of the rows -/

section

variable {Item : Type} {limit : Nat} {items : List Item}

theorem keepLast_of_le (few : items.length ≤ limit) : keepLast limit items = items := by
  rw [keepLast, Nat.sub_eq_zero_of_le few, List.drop_zero]

theorem keepLast_concat (some : 0 < limit) (items : List Item) (item : Item) :
    keepLast limit (items ++ [item]) = keepLast (limit - 1) items ++ [item] := by
  rw [keepLast, keepLast, List.drop_append_of_le_length]
  · congr 2
    rw [List.length_append, List.length_singleton]
    omega
  · rw [List.length_append, List.length_singleton]
    omega

/-- Where there are enough items, the last ones begin with the first that is not left out. -/
theorem keepLast_eq_cons (some : 0 < limit) (enough : limit ≤ items.length) :
    ∃ top, keepLast limit items = top :: keepLast (limit - 1) items ∧
      items.take (items.length + 1 - limit) = items.take (items.length - limit) ++ [top] := by
  have inside : items.length - limit < items.length := by omega
  have next : items.length + 1 - limit = items.length - limit + 1 := by omega
  have rest : items.length - (limit - 1) = items.length - limit + 1 := by omega
  refine ⟨items[items.length - limit], ?_, ?_⟩
  · rw [keepLast, keepLast, rest, List.drop_eq_getElem_cons inside]
  · rw [next, List.take_add_one, List.getElem?_eq_getElem inside]
    rfl

theorem keepLast_map {Other : Type} (limit : Nat) (change : Item → Other) (items : List Item) :
    keepLast limit (items.map change) = (keepLast limit items).map change := by
  rw [keepLast, keepLast, List.length_map, List.map_drop]

/-- What comes before the last items and the last items are all there are. -/
theorem take_append_keepLast (limit : Nat) (items : List Item) :
    items.take (items.length - limit) ++ keepLast limit items = items :=
  List.take_append_drop _ _

theorem modify_append_cons (front : List Item) (item : Item) (back : List Item)
    (change : Item → Item) :
    (front ++ item :: back).modify front.length change = front ++ change item :: back := by
  induction front with
  | nil => rfl
  | cons first front inductionHypothesis =>
      rw [List.cons_append, List.length_cons, List.modify_succ_cons, inductionHypothesis]
      rfl

end

namespace Grid

/-- Rows that have been printed, the last of them under the cursor: the last ones are on the
screen, and those above it are kept as lines. -/
structure Printed (size : Size) (limit : Nat) (above : List (List Char)) (current : List Char)
    (grid : Grid) : Prop where
  sized : grid.size = size
  limited : grid.scrollbackLimit = limit
  fits : current.length ≤ size.cols.toNat
  rows : grid.rows =
    (keepLast size.rows.toNat (above ++ [current]) ++
      List.replicate (size.rows.toNat - (above.length + 1)) []).map (Text.padded size.cols.toNat)
  scrollback : grid.scrollback =
    keepLast limit ((above.take (above.length + 1 - size.rows.toNat)).map Text.trimEnd)
  row : grid.cursor.position.row.toNat = min above.length (size.rows.toNat - 1)
  col : grid.cursor.position.col.toNat = min current.length (size.cols.toNat - 1)
  /-- A wrap is pending exactly when the row is full. -/
  full : grid.wrapPending = true ↔ current.length = size.cols.toNat

section

variable {size : Size} {limit : Nat} {above : List (List Char)} {current : List Char} {grid : Grid}

/-- A screen on which nothing has been printed has one empty row under the cursor. -/
theorem blank_printed (high : 0 < size.rows.toNat) (wide : 0 < size.cols.toNat) (limit : Nat) :
    Printed size limit [] [] (blank size limit) where
  sized := rfl
  limited := rfl
  fits := Nat.zero_le _
  rows := by
    have rows : size.rows.toNat = size.rows.toNat - 1 + 1 := by omega
    have one : keepLast size.rows.toNat ([] ++ [([] : List Char)]) = [[]] := keepLast_of_le high
    rw [one, List.length_nil, Nat.zero_add, List.map_append, List.map_replicate, Text.padded_nil,
      List.map_singleton, Text.padded_nil]
    change blankRows size = _
    rw [blankRows, rows, List.replicate_succ]
    rfl
  scrollback := by simp [blank, keepLast]
  row := (Nat.zero_min _).symm
  col := (Nat.zero_min _).symm
  full := by simp [blank]; omega

theorem Printed.rows_set (printed : grid.Printed size limit above current)
    (high : 0 < size.rows.toNat) (room : current.length < size.cols.toNat) (c : Char) :
    (grid.setCell grid.cursor.position.row grid.cursor.position.col c).rows =
      (keepLast size.rows.toNat (above ++ [current ++ [c]]) ++
        List.replicate (size.rows.toNat - (above.length + 1)) []).map
          (Text.padded size.cols.toNat) := by
  have col : grid.cursor.position.col.toNat = current.length := by
    rw [printed.col]
    omega
  have row : grid.cursor.position.row.toNat =
      ((keepLast (size.rows.toNat - 1) above).map (Text.padded size.cols.toNat)).length := by
    rw [printed.row, List.length_map, keepLast, List.length_drop]
    omega
  rw [setCell, printed.rows, row, col, keepLast_concat high, keepLast_concat high,
    List.append_assoc, List.map_append, List.singleton_append, List.map_cons, modify_append_cons,
    Text.padded_set room]
  simp

/-- What is under the cursor goes on, as long as it does not fill the row. -/
theorem Printed.put_room (printed : grid.Printed size limit above current)
    (high : 0 < size.rows.toNat) (room : current.length < size.cols.toNat) (c : Char) :
    (grid.put c).Printed size limit above (current ++ [c]) := by
  have unwrapped : grid.wrap? = some grid :=
    if_neg fun pending => absurd (printed.full.mp pending) (Nat.ne_of_lt room)
  have col : grid.cursor.position.col.toNat = current.length := by
    rw [printed.col]
    omega
  have inside : grid.cursor.position.col < size.cols := UInt16.lt_iff_toNat_lt.mpr (col ▸ room)
  have next : (grid.cursor.position.col + 1).toNat = current.length + 1 := by
    rw [toNat_next inside, col]
  have rows := printed.rows_set high room c
  have longer : (current ++ [c]).length = current.length + 1 := List.length_append
  rw [put_of_next unwrapped (Coordinate.add?_one inside)]
  unfold advance
  split
  next last =>
      have full : current.length + 1 = size.cols.toNat := by
        have reached : grid.size.cols ≤ grid.cursor.position.col + 1 := last
        rw [UInt16.le_iff_toNat_le, next, printed.sized] at reached
        omega
      refine ⟨printed.sized, printed.limited, longer ▸ room, rows, printed.scrollback,
        printed.row, ?_, ?_⟩
      · rw [longer]
        change grid.cursor.position.col.toNat = _
        omega
      · rw [longer]
        exact iff_of_true rfl full
  next inner =>
      have within : current.length + 1 < size.cols.toNat := by
        have reached : ¬ grid.size.cols ≤ grid.cursor.position.col + 1 := inner
        rw [UInt16.le_iff_toNat_le, next, printed.sized] at reached
        omega
      refine ⟨printed.sized, printed.limited, longer ▸ room, rows, printed.scrollback,
        printed.row, ?_, ?_⟩
      · rw [longer]
        change (grid.cursor.position.col + 1).toNat = _
        omega
      · rw [longer]
        change grid.wrapPending = true ↔ _
        rw [printed.full]
        omega

theorem Printed.inside (printed : grid.Printed size limit above current)
    (high : 0 < size.rows.toNat) : grid.cursor.position.row < size.rows := by
  rw [UInt16.lt_iff_toNat_lt, printed.row]
  omega

theorem Printed.toNat_nextRow (printed : grid.Printed size limit above current)
    (high : 0 < size.rows.toNat) :
    (grid.cursor.position.row + 1).toNat = min above.length (size.rows.toNat - 1) + 1 := by
  rw [toNat_next (printed.inside high), printed.row]

/-- The next line begins where a line feed leads from the first column. -/
theorem Printed.lineFeed_eq (printed : grid.Printed size limit above current)
    (high : 0 < size.rows.toNat) :
    grid.carriageReturn.lineFeed =
      grid.carriageReturn.descend (grid.cursor.position.row + 1) :=
  lineFeed_of_next (Coordinate.add?_one (printed.inside high))

/-- Below the last row of the screen everything moves up. -/
theorem Printed.nextRow_last (printed : grid.Printed size limit above current)
    (high : 0 < size.rows.toNat) (wide : 0 < size.cols.toNat)
    (last : size.rows.toNat ≤ above.length + 1) :
    grid.carriageReturn.lineFeed.Printed size limit (above ++ [current]) [] := by
  have length : (above ++ [current]).length = above.length + 1 := List.length_append
  have scrolled : grid.carriageReturn.lineFeed = grid.carriageReturn.scrollUp := by
    refine (printed.lineFeed_eq high).trans (if_pos ?_)
    change grid.size.rows ≤ grid.cursor.position.row + 1
    rw [UInt16.le_iff_toNat_le, printed.toNat_nextRow high, printed.sized]
    omega
  obtain ⟨top, shown, left⟩ := keepLast_eq_cons high (length ▸ last)
  have rows : grid.carriageReturn.rows =
      Text.padded size.cols.toNat top ::
        (keepLast (size.rows.toNat - 1) (above ++ [current])).map
          (Text.padded size.cols.toNat) := by
    have none : size.rows.toNat - (above.length + 1) = 0 := by omega
    change grid.rows = _
    rw [printed.rows, shown, none, List.replicate_zero, List.append_nil, List.map_cons]
  rw [scrolled, scrollUp, rows]
  refine {
    sized := printed.sized
    limited := printed.limited
    fits := Nat.zero_le _
    rows := ?_
    scrollback := ?_
    row := ?_
    col := (Nat.zero_min _).symm
    full := iff_of_false Bool.false_ne_true (Nat.ne_of_lt wide) }
  · have none : size.rows.toNat - (above.length + 1 + 1) = 0 := by omega
    rw [keepLast_concat high, length, none, List.replicate_zero, List.append_nil,
      List.map_append, List.map_singleton, Text.padded_nil, ← printed.sized]
    rfl
  · have taken : (above ++ [current]).take (above.length + 1 - size.rows.toNat) =
        above.take (above.length + 1 - size.rows.toNat) :=
      List.take_append_of_le_length (by omega)
    rw [length, taken] at left
    change keepLast grid.scrollbackLimit (grid.scrollback ++ _) = _
    rw [printed.limited, printed.scrollback, keepLast_append, Text.trimEnd_padded, length, left,
      List.map_append, List.map_singleton]
  · change grid.cursor.position.row.toNat = _
    rw [printed.row, length]
    omega

/-- Above the last row of the screen there is a blank one below. -/
theorem Printed.nextRow_inner (printed : grid.Printed size limit above current)
    (wide : 0 < size.cols.toNat) (inner : above.length + 1 < size.rows.toNat) :
    grid.carriageReturn.lineFeed.Printed size limit (above ++ [current]) [] := by
  have length : (above ++ [current]).length = above.length + 1 := List.length_append
  have next := printed.toNat_nextRow (Nat.zero_lt_of_lt inner)
  have moved : grid.carriageReturn.lineFeed = grid.moveTo (grid.cursor.position.row + 1) 0 := by
    refine (printed.lineFeed_eq (Nat.zero_lt_of_lt inner)).trans (if_neg ?_)
    change ¬ grid.size.rows ≤ grid.cursor.position.row + 1
    rw [UInt16.le_iff_toNat_le, next, printed.sized]
    omega
  rw [moved]
  refine {
    sized := printed.sized
    limited := printed.limited
    fits := Nat.zero_le _
    rows := ?_
    scrollback := ?_
    row := ?_
    col := (Nat.zero_min _).symm
    full := iff_of_false Bool.false_ne_true (Nat.ne_of_lt wide) }
  · have one : size.rows.toNat - (above.length + 1) =
        size.rows.toNat - (above.length + 1 + 1) + 1 := by omega
    change grid.rows = _
    rw [printed.rows, length, one, keepLast_of_le (by omega), keepLast_of_le (by simp; omega),
      List.replicate_succ, List.append_assoc _ [[]], List.singleton_append]
  · change grid.scrollback = _
    rw [printed.scrollback, length, Nat.sub_eq_zero_of_le (by omega),
      Nat.sub_eq_zero_of_le (by omega)]
    rfl
  · change (grid.cursor.position.row + 1).toNat = _
    rw [next, length]
    omega

/-- The row under the cursor is done with, and an empty one follows. -/
theorem Printed.nextRow (printed : grid.Printed size limit above current)
    (high : 0 < size.rows.toNat) (wide : 0 < size.cols.toNat) :
    grid.carriageReturn.lineFeed.Printed size limit (above ++ [current]) [] :=
  (Nat.lt_or_ge (above.length + 1) size.rows.toNat).elim (printed.nextRow_inner wide)
    (printed.nextRow_last high wide)

/-- A character behind a full row comes into the next one. -/
theorem Printed.put_full (printed : grid.Printed size limit above current)
    (high : 0 < size.rows.toNat) (wide : 0 < size.cols.toNat)
    (full : current.length = size.cols.toNat) (c : Char) :
    (grid.put c).Printed size limit (above ++ [current]) [c] := by
  have fed : grid.carriageReturn.lineFeed? = some grid.carriageReturn.lineFeed :=
    lineFeed?_eq (printed.sized ▸ printed.inside high : grid.cursor.position.row < grid.size.rows)
  have wrapped : grid.wrap? = some grid.carriageReturn.lineFeed :=
    (if_pos (printed.full.mpr full)).trans fed
  have after := printed.nextRow high wide
  have settled : grid.carriageReturn.lineFeed.put c = grid.put c := by
    have done : grid.carriageReturn.lineFeed.wrap? = some grid.carriageReturn.lineFeed :=
      if_neg fun pending => absurd (after.full.mp pending) (Nat.ne_of_lt wide)
    have inside : grid.carriageReturn.lineFeed.cursor.position.col < size.cols := by
      rw [UInt16.lt_iff_toNat_lt, after.col]
      exact Nat.lt_of_le_of_lt (Nat.min_le_left ..) wide
    have next := Coordinate.add?_one inside
    rw [put_of_next done next, put_of_next wrapped next]
  exact settled ▸ after.put_room high wide c

/-- Some rows have been printed, and the cursor is behind the last of them. -/
def Shows (size : Size) (limit : Nat) (rows : List (List Char)) (grid : Grid) : Prop :=
  ∃ above current, rows = above ++ [current] ∧ grid.Printed size limit above current

theorem Printed.puts (printed : grid.Printed size limit above current)
    (high : 0 < size.rows.toNat) (wide : 0 < size.cols.toNat) (text : List Char) :
    (text.foldl put grid).Shows size limit
      (above ++ Text.cutFrom size.cols.toNat current text) := by
  induction text generalizing grid above current with
  | nil => exact ⟨above, current, rfl, printed⟩
  | cons c text inductionHypothesis =>
      rw [List.foldl_cons, Text.cutFrom]
      split
      next room => exact inductionHypothesis (printed.put_room high room c)
      next narrow =>
          have full : current.length = size.cols.toNat :=
            Nat.le_antisymm printed.fits (Nat.not_lt.mp narrow)
          have next := inductionHypothesis (printed.put_full high wide full c)
          rwa [List.append_assoc, List.singleton_append] at next

end

end Grid

/-! ### Lines that are printed -/

namespace Display

variable {display : Display}

/-- Outside of sequences, characters are put one after the other. -/
theorem feed_line (ground : display.decoder.state = .ground) {line : List Char}
    (visible : ∀ c ∈ line, 0x20 ≤ c.toNat) :
    display.feed (Text.encode line) =
      { display with grid := line.foldl Grid.put display.grid } := by
  induction line generalizing display with
  | nil => rfl
  | cons c line inductionHypothesis =>
      obtain ⟨first, others⟩ := List.forall_mem_cons.mp visible
      have split : Text.encode (c :: line) = Text.encodeChar c ++ Text.encode line :=
        List.flatMap_cons
      have put : ({ display with grid := display.grid.put c } : Display).decoder.state = .ground :=
        ground
      rw [split, feed_append, feed_encodeChar ground first]
      exact inductionHypothesis put others

/-- Outside of sequences, the end of a line takes the cursor to the beginning of the next. -/
theorem feed_lineEnd (ground : display.decoder.state = .ground) :
    display.feed (Text.encode ['\r', '\n']) =
      { display with grid := display.grid.carriageReturn.lineFeed } := by
  obtain ⟨⟨state, parameters, marked⟩, grid⟩ := display
  obtain rfl : state = .ground := ground
  rfl

end Display

/-- Lines with an end between any two of them. -/
theorem joined_cons (first : List Char) (others : List (List Char)) :
    ['\r', '\n'].intercalate (first :: others) =
      first ++ others.flatMap (['\r', '\n'] ++ ·) := by
  induction others generalizing first with
  | nil => simp
  | cons next others inductionHypothesis =>
      rw [List.intercalate_cons_cons, inductionHypothesis, List.flatMap_cons]
      simp

/-- The rows lines are printed in, without the blanks at their ends. -/
def printedRows (cols : UInt16) (lines : List (List Char)) : List (List Char) :=
  (lines.flatMap (Text.cut cols.toNat)).map Text.trimEnd

/-- What is read back of lines that have been printed. -/
structure PrintedBack (size : Size) (limit : Nat) (lines : List (List Char)) (grid : Grid) :
    Prop where
  /-- The last rows are on the screen, and below them it is blank. -/
  visible : grid.visibleLines = keepLast size.rows.toNat (printedRows size.cols lines) ++
    List.replicate (size.rows.toNat - (printedRows size.cols lines).length) []
  /-- The last of those above are kept as lines. -/
  scrollback : grid.scrollback = keepLast limit ((printedRows size.cols lines).take
    ((printedRows size.cols lines).length - size.rows.toNat))
  /-- Nothing is lost that does not exceed what is kept. -/
  whole : (printedRows size.cols lines).length ≤ size.rows.toNat + limit →
    grid.scrollback ++ grid.visibleLines = printedRows size.cols lines ++
      List.replicate (size.rows.toNat - (printedRows size.cols lines).length) []
  /-- Every character of a line is in one of its rows. -/
  rows : ∀ line ∈ lines, Text.CutInto size.cols.toNat line (Text.cut size.cols.toNat line)
  /-- A line that fills a row takes no other. -/
  exact : ∀ line ∈ lines, line.length = size.cols.toNat → Text.cut size.cols.toNat line = [line]

section

variable {size : Size} {limit : Nat}

/-- Each line goes on below the rows there are. -/
theorem shows_others (high : 0 < size.rows.toNat) (wide : 0 < size.cols.toNat) {display : Display}
    (ground : display.decoder.state = .ground) {rows : List (List Char)}
    (shows_ : display.grid.Shows size limit rows) {others : List (List Char)}
    (visible : ∀ line ∈ others, ∀ c ∈ line, 0x20 ≤ c.toNat) :
    (display.feed (Text.encode (others.flatMap (['\r', '\n'] ++ ·)))).grid.Shows size limit
      (rows ++ others.flatMap (Text.cut size.cols.toNat)) := by
  induction others generalizing display rows with
  | nil =>
      rw [List.flatMap_nil, List.flatMap_nil, List.append_nil]
      exact shows_
  | cons line others inductionHypothesis =>
      obtain ⟨first, rest⟩ := List.forall_mem_cons.mp visible
      obtain ⟨above, current, rfl, printed⟩ := shows_
      rw [List.flatMap_cons, List.flatMap_cons, Text.encode_append, Text.encode_append,
        Display.feed_append, Display.feed_append, Display.feed_lineEnd ground,
        Display.feed_line (by exact ground) first, ← List.append_assoc]
      have next := (printed.nextRow high wide).puts high wide line
      have after : (⟨display.decoder, line.foldl Grid.put display.grid.carriageReturn.lineFeed⟩ :
          Display).decoder.state = .ground := ground
      exact inductionHypothesis after next rest

/-- Rows that have been printed are read back from the screen and the lines above it. -/
theorem Grid.Shows.readBack {grid : Grid} {rows : List (List Char)}
    (high : 0 < size.rows.toNat) (shows_ : grid.Shows size limit rows) :
    grid.visibleLines = keepLast size.rows.toNat (rows.map Text.trimEnd) ++
        List.replicate (size.rows.toNat - rows.length) [] ∧
      grid.scrollback = keepLast limit ((rows.map Text.trimEnd).take
        (rows.length - size.rows.toNat)) := by
  obtain ⟨above, current, rfl, printed⟩ := shows_
  have length : (above ++ [current]).length = above.length + 1 := List.length_append
  have untrimmed : Text.trimEnd ∘ Text.padded size.cols.toNat = Text.trimEnd :=
    funext (Text.trimEnd_padded size.cols.toNat)
  constructor
  · rw [visibleLines, printed.sized, List.take_of_length_le, printed.rows, List.map_map, untrimmed,
      List.map_append, List.map_replicate, Text.trimEnd_nil, keepLast_map, length]
    rw [printed.rows, List.length_map, List.length_append, keepLast, List.length_drop,
      List.length_replicate, length]
    omega
  · have taken : (above ++ [current]).take (above.length + 1 - size.rows.toNat) =
        above.take (above.length + 1 - size.rows.toNat) :=
      List.take_append_of_le_length (by omega)
    rw [printed.scrollback, length, ← List.map_take, taken]

/-- What is read back does not lose a row that is within what is kept. -/
theorem PrintedBack.of_readBack (wide : 0 < size.cols.toNat) {lines : List (List Char)}
    {grid : Grid}
    (visible : grid.visibleLines = keepLast size.rows.toNat (printedRows size.cols lines) ++
      List.replicate (size.rows.toNat - (printedRows size.cols lines).length) [])
    (scrollback : grid.scrollback = keepLast limit ((printedRows size.cols lines).take
      ((printedRows size.cols lines).length - size.rows.toNat))) :
    PrintedBack size limit lines grid where
  visible := visible
  scrollback := scrollback
  whole := by
    intro kept
    rw [visible, scrollback, keepLast_of_le, ← List.append_assoc, take_append_keepLast]
    rw [List.length_take]
    omega
  rows := fun line _ => Text.cut_cutInto wide line
  exact := fun _ _ full => Text.cut_of_fits (Nat.le_of_eq full)

end

/-- Lines of visible characters, printed on a blank screen, are read back as the rows they are
cut into: the last ones from the screen and those before from the lines that are kept. -/
theorem printed_back (size : Size) (limit : Nat) (lines : List (List Char)) (high : 0 < size.rows)
    (wide : 0 < size.cols) (visible : ∀ line ∈ lines, ∀ c ∈ line, 0x20 ≤ c.toNat) :
    PrintedBack size limit lines ((Display.ofGrid (.blank size limit)).feed
      (Text.encode (['\r', '\n'].intercalate lines))).grid := by
  rw [UInt16.lt_iff_toNat_lt] at high wide
  have blank := Grid.blank_printed high wide limit
  cases lines with
  | nil =>
      obtain ⟨shown, -⟩ := Grid.Shows.readBack high ⟨[], [], rfl, blank⟩
      have one : size.rows.toNat = size.rows.toNat - 1 + 1 := by omega
      refine .of_readBack wide (shown.trans ?_) ?_
      · rw [keepLast_of_le high, keepLast_of_le (Nat.zero_le _)]
        change [] :: List.replicate (size.rows.toNat - 1) [] = List.replicate size.rows.toNat []
        rw [← List.replicate_succ, ← one]
      · change [] = keepLast limit (List.take _ [])
        rw [List.take_nil, keepLast_of_le (Nat.zero_le _)]
  | cons first others =>
      obtain ⟨firstVisible, othersVisible⟩ := List.forall_mem_cons.mp visible
      have begun := blank.puts high wide first
      have ground : (⟨.initial, first.foldl Grid.put (.blank size limit)⟩ : Display).decoder.state =
          .ground := rfl
      have shown := shows_others high wide ground begun othersVisible
      obtain ⟨visible, scrollback⟩ := shown.readBack high
      rw [joined_cons, Text.encode_append, Display.feed_append, Display.feed_line rfl firstVisible]
      refine .of_readBack wide ?_ ?_
      · rw [printedRows, List.length_map]
        exact visible
      · rw [printedRows, List.length_map]
        exact scrollback

/-- Three lines on a screen of two rows of four columns: the second fills its row, the last goes
on in a row of its own, and of the two rows that left the screen one is kept. -/
theorem printed_back_small :
    let lines := ["one".toList, "four".toList, "sixty".toList]
    let grid := ((Display.ofGrid (.blank ⟨2, 4⟩ 1)).feed
      (Text.encode (['\r', '\n'].intercalate lines))).grid
    PrintedBack ⟨2, 4⟩ 1 lines grid ∧
      grid.visibleLines = ["sixt".toList, "y".toList] ∧ grid.scrollback = ["four".toList] := by
  intro lines grid
  have visible : ∀ line ∈ lines, ∀ c ∈ line, 0x20 ≤ c.toNat := by
    have checked : (lines.all fun line => line.all fun c => 0x20 ≤ c.toNat) = true := by decide
    simpa only [List.all_eq_true, decide_eq_true_eq] using checked
  have back : PrintedBack ⟨2, 4⟩ 1 lines grid :=
    printed_back ⟨2, 4⟩ 1 lines (by decide) (by decide) visible
  exact ⟨back, back.visible, back.scrollback⟩

end RuntimeConsole
