/-
Module: RuntimeConsole.Proofs.Overflow
Purpose: A grid is marked as overflowed exactly if what it was told could not be done with
  coordinates of sixteen bits, and else it is what comes of doing it.
Main exports:
  Follows, Follows.eq_none_iff, Follows.eq, Follows.foldl, Grid.perform_follows,
  Display.feed_follows, Display.useAll_follows
-/
import RuntimeConsole.Screen.Operation

namespace RuntimeConsole

/-! ### Steps that may stop -/

/-- A step follows one that may stop: it comes to the same, with the mark as it was, and where
the other stops it marks the state. -/
structure Follows {State Item : Type} (marked : State → Bool)
    (step? : State → Item → Option State) (step : State → Item → State) : Prop where
  goesOn : ∀ state item reached, step? state item = some reached →
    step state item = reached ∧ marked reached = marked state
  stops : ∀ state item, step? state item = none → marked (step state item) = true

namespace Follows

variable {State Item : Type} {marked : State → Bool} {step? : State → Item → Option State}
  {step : State → Item → State}

/-- No step takes a mark away, and none sets one but where the other stops. -/
theorem marked_iff (follows : Follows marked step? step) (state : State) (item : Item) :
    marked (step state item) = true ↔ marked state = true ∨ step? state item = none := by
  cases found : step? state item with
  | none => simp [follows.stops state item found]
  | some reached =>
      obtain ⟨same, unmarked⟩ := follows.goesOn state item reached found
      simp [same, unmarked]

/-- What tells where the other step stops tells all of it. -/
theorem eq_of_stops (follows : Follows marked step? step) {state : State} {item : Item}
    {stopped : Bool} (told : step? state item = none ↔ stopped = true) :
    step? state item = if stopped then none else some (step state item) := by
  split
  next stopped => exact told.mpr stopped
  next goesOn =>
      obtain ⟨reached, found⟩ := Option.ne_none_iff_exists'.mp (mt told.mp goesOn)
      rw [found, (follows.goesOn state item reached found).1]

/-- From an unmarked state on, the mark tells that. -/
theorem eq_none_iff (follows : Follows marked step? step) {state : State}
    (clean : marked state = false) (item : Item) :
    step? state item = none ↔ marked (step state item) = true := by
  simp [follows.marked_iff, clean]

theorem eq (follows : Follows marked step? step) {state : State} (clean : marked state = false)
    (item : Item) :
    step? state item = if marked (step state item) then none else some (step state item) :=
  follows.eq_of_stops (follows.eq_none_iff clean item)

/-- The same of several steps. -/
theorem foldl (follows : Follows marked step? step) :
    Follows marked (fun state (items : List Item) => items.foldlM step? state)
      (fun state items => items.foldl step state) where
  goesOn state items := by
    induction items generalizing state with
    | nil =>
        intro reached found
        cases found
        exact ⟨rfl, rfl⟩
    | cons item items inductionHypothesis =>
        intro reached found
        rw [List.foldlM_cons, Option.bind_eq_bind, Option.bind_eq_some_iff] at found
        obtain ⟨next, first, rest⟩ := found
        obtain ⟨same, unmarked⟩ := follows.goesOn state item next first
        rw [List.foldl_cons, same, ← unmarked]
        exact inductionHypothesis next reached rest
  stops state items := by
    -- Where the first of them stops, the mark has to outlast the rest.
    have kept (items : List Item) (state : State) (already : marked state = true) :
        marked (items.foldl step state) = true := by
      induction items generalizing state with
      | nil => exact already
      | cons item items inductionHypothesis =>
          exact inductionHypothesis _ ((follows.marked_iff state item).mpr (.inl already))
    induction items generalizing state with
    | nil => exact nofun
    | cons item items inductionHypothesis =>
        intro found
        rw [List.foldl_cons]
        cases first : step? state item with
        | none => exact kept items _ (follows.stops state item first)
        | some next =>
            rw [(follows.goesOn state item next first).1]
            refine inductionHypothesis next ?_
            rwa [List.foldlM_cons, first] at found

end Follows

/-! ### Grids -/

namespace Grid

variable {grid reached : Grid}

/-- Whether what comes of a grid, if anything does, is marked as the grid is. -/
def KeepsMark (grid : Grid) (after : Option Grid) : Prop :=
  ∀ reached, after = some reached → reached.overflowed = grid.overflowed

theorem KeepsMark.of_some (same : reached.overflowed = grid.overflowed) :
    KeepsMark grid (some reached) := by
  rintro _ ⟨⟩
  exact same

theorem KeepsMark.of_map {coordinate : Option UInt16} {change : UInt16 → Grid}
    (same : ∀ next, (change next).overflowed = grid.overflowed) :
    KeepsMark grid (coordinate.map change) := by
  rintro _ found
  obtain ⟨next, -, rfl⟩ := Option.map_eq_some_iff.mp found
  exact same next

theorem scrollUp_overflowed (grid : Grid) : grid.scrollUp.overflowed = grid.overflowed := by
  unfold scrollUp
  split <;> rfl

theorem descend_overflowed (grid : Grid) (next : UInt16) :
    (grid.descend next).overflowed = grid.overflowed := by
  unfold descend
  split
  · exact grid.scrollUp_overflowed
  · rfl

theorem advance_overflowed (grid : Grid) (next : UInt16) :
    (grid.advance next).overflowed = grid.overflowed := by
  unfold advance
  split <;> rfl

theorem restoreCursor_overflowed (grid : Grid) :
    grid.restoreCursor.overflowed = grid.overflowed := by
  unfold restoreCursor
  split <;> rfl

theorem lineFeed?_keepsMark (grid : Grid) : grid.KeepsMark grid.lineFeed? :=
  .of_map fun _ => descend_overflowed ..

theorem wrap?_keepsMark (grid : Grid) : grid.KeepsMark grid.wrap? := by
  unfold wrap?
  split
  · exact grid.carriageReturn.lineFeed?_keepsMark
  · exact .of_some rfl

theorem put?_keepsMark (grid : Grid) (c : Char) : grid.KeepsMark (grid.put? c) := by
  intro reached found
  obtain ⟨wrapped, done, rest⟩ := Option.bind_eq_some_iff.mp found
  rw [← grid.wrap?_keepsMark wrapped done]
  obtain ⟨next, -, rfl⟩ := Option.map_eq_some_iff.mp rest
  exact advance_overflowed ..

theorem execute?_keepsMark (grid : Grid) (byte : UInt8) :
    grid.KeepsMark (grid.execute? byte) := by
  unfold execute?
  split
  · exact .of_some rfl
  split
  · exact .of_map fun _ => rfl
  split
  · exact grid.lineFeed?_keepsMark
  split <;> exact .of_some rfl

theorem eraseDisplay?_keepsMark (grid : Grid) (mode : UInt16) :
    grid.KeepsMark (grid.eraseDisplay? mode) := by
  unfold eraseDisplay?
  dsimp only
  split
  · exact .of_map fun _ => rfl
  split
  · exact .of_map fun _ => rfl
  split <;> exact .of_some rfl

theorem eraseLine?_keepsMark (grid : Grid) (mode : UInt16) :
    grid.KeepsMark (grid.eraseLine? mode) := by
  unfold eraseLine?
  dsimp only
  split
  · exact .of_some rfl
  split
  · exact .of_map fun _ => rfl
  split <;> exact .of_some rfl

theorem control?_keepsMark (grid : Grid) (parameters : List (List UInt16)) (final : UInt8) :
    grid.KeepsMark (grid.control? parameters final) := by
  unfold control?
  dsimp only
  split
  next => exact .of_some rfl
  next => exact .of_some rfl
  next => exact .of_some rfl
  next => exact .of_some rfl
  next => exact .of_map fun _ => rfl
  next => exact .of_some rfl
  next => exact .of_some rfl
  next => exact grid.eraseDisplay?_keepsMark _
  next => exact grid.eraseLine?_keepsMark _
  next => exact .of_some rfl
  next => exact .of_some grid.restoreCursor_overflowed
  next => exact .of_some rfl

theorem perform?_keepsMark (grid : Grid) (instruction : Instruction) :
    grid.KeepsMark (grid.perform? instruction) := by
  cases instruction with
  | print c => exact grid.put?_keepsMark c
  | execute byte => exact grid.execute?_keepsMark byte
  | control parameters marked final =>
      cases marked with
      | false => exact grid.control?_keepsMark parameters final
      | true => exact .of_some rfl
  | escape final =>
      unfold perform?
      dsimp only
      split
      · exact .of_some rfl
      split
      · exact .of_some grid.restoreCursor_overflowed
      · exact .of_some rfl

theorem operate?_keepsMark (grid : Grid) (operation : GridOperation) :
    grid.KeepsMark (grid.operate? operation) := by
  cases operation with
  | put c => exact grid.put?_keepsMark c
  | lineFeed => exact grid.lineFeed?_keepsMark
  | carriageReturn | eraseInRow _ _ _ | eraseRows _ _ | setCursor _ => exact .of_some rfl

/-- A grid is marked where it cannot go on. -/
theorem orOverflow_follows {Item : Type} {step? : Grid → Item → Option Grid}
    (keeps : ∀ (grid : Grid) item, grid.KeepsMark (step? grid item)) :
    Follows Grid.overflowed step? fun grid item => grid.orOverflow (step? grid item) where
  goesOn grid item reached found :=
    ⟨by rw [found, orOverflow_some], keeps grid item reached found⟩
  stops grid item none := by
    rw [none]
    rfl

theorem perform_follows : Follows Grid.overflowed perform? perform :=
  orOverflow_follows perform?_keepsMark

theorem operate_follows : Follows Grid.overflowed operate? operate :=
  orOverflow_follows operate?_keepsMark

end Grid

/-! ### Displays -/

namespace Display

/-- Whether the grid of a display has overflowed. -/
def overflowed (display : Display) : Bool := display.grid.overflowed

theorem feedByte_follows : Follows overflowed feedByte? feedByte where
  goesOn display byte reached found := by
    obtain ⟨grid, shown, rfl⟩ := Option.map_eq_some_iff.mp found
    obtain ⟨same, marked⟩ := Grid.perform_follows.foldl.goesOn _ _ grid shown
    exact ⟨congrArg (Display.mk _) same, marked⟩
  stops display byte none :=
    Grid.perform_follows.foldl.stops _ _ (Option.map_eq_none_iff.mp none)

theorem feed_follows : Follows overflowed feed? feed := feedByte_follows.foldl

theorem use_follows : Follows overflowed use? use where
  goesOn display told reached found := by
    cases told with
    | event event =>
        cases event with
        | byte byte => exact feedByte_follows.goesOn display byte reached found
        | clear | save | resize _ =>
            cases found
            exact ⟨rfl, rfl⟩
        | restore =>
            cases found
            exact ⟨rfl, display.grid.restoreCursor_overflowed⟩
    | operation operation =>
        obtain ⟨grid, done, rfl⟩ := Option.map_eq_some_iff.mp found
        obtain ⟨same, marked⟩ := Grid.operate_follows.goesOn _ operation grid done
        exact ⟨congrArg (Display.mk _) same, marked⟩
  stops display told none := by
    cases told with
    | event event =>
        cases event with
        | byte byte => exact feedByte_follows.stops display byte none
        | clear | save | resize _ | restore => cases none
    | operation operation =>
        exact Grid.operate_follows.stops _ operation (Option.map_eq_none_iff.mp none)

theorem useAll_follows : Follows overflowed useAll? useAll := use_follows.foldl

end Display

end RuntimeConsole
