/-
Module: RuntimeConsole.Proofs.LinkHistory
Purpose: What the link resolver at work knows after a run, compared with what the screen
  shows: it is out of date only where a row has been cut off since it was heard of.
Main exports:
  Console.moments, Console.rowEra, Console.Lasting, Linked, Recorded, Recorded.run
-/
import RuntimeConsole.Proofs.LinkCycle

namespace RuntimeConsole

namespace Console

/-- The consoles there are in the course of a run, the first and the last among them. -/
def moments (console : Console) (events : List Event) : List Console :=
  console :: console.noted (fun console event => [console.apply event]) events

theorem moments_concat (console : Console) (events : List Event) (event : Event) :
    console.moments (events ++ [event]) =
      console.moments events ++ [(console.run events).apply event] := by
  rw [moments, noted_concat, moments, List.cons_append]

/-- The last console of a run is the one it ends in. -/
theorem moments_eq (console : Console) (events : List Event) :
    ∃ earlier, console.moments events = earlier ++ [console.run events] := by
  rcases List.eq_nil_or_concat events with rfl | ⟨events, event, rfl⟩
  · exact ⟨[], rfl⟩
  · exact ⟨_, by rw [List.concat_eq_append, moments_concat, run_concat]⟩

/-- Which resolver is at work, and how often it has heard of a row.  As long as this stays the
same the resolver has heard nothing new of the row. -/
def rowEra (console : Console) (row : UInt16) : Option (Nat × Nat) :=
  console.session.cycle.resolver.bind fun id =>
    (console.resolvers[id]?).bind fun resolver => (resolver.generation? row).map (id, ·)

/-- A row has been on the screen ever since the resolver at work heard of it last, where
`past` are the consoles there have been. -/
def Lasting (past : List Console) (console : Console) (row : UInt16) : Prop :=
  ∀ moment ∈ past, moment.rowEra row = console.rowEra row → row < moment.terminal.grid.size.rows

theorem rowEra_eq {console : Console} {id : Nat} {resolver : Resolver}
    (current : console.session.cycle.resolver = some id)
    (known : console.resolvers[id]? = some resolver) (row : UInt16) :
    console.rowEra row = (resolver.generation? row).map (id, ·) := by
  rw [rowEra, current, Option.bind_some, known, Option.bind_some]

theorem current_of_rowEra {console : Console} {row : UInt16} {id generation : Nat}
    (era : console.rowEra row = some (id, generation)) :
    console.session.cycle.resolver = some id := by
  simp only [rowEra, Option.bind_eq_some_iff, Option.map_eq_some_iff] at era
  obtain ⟨_, current, _, -, _, -, same⟩ := era
  obtain ⟨rfl, -⟩ := Prod.mk.inj same
  exact current

end Console

open Console

/-- What a resolver knows.  `past` are the consoles there have been, `given` the verdicts that
have been given, `questions` those that wait for their answers, and `heard` the texts the
resolver heard last. -/
structure Knows (past : List Console) (given : List LinkVerdict) (id : Nat) (resolver : Resolver)
    (questions : List Question) (heard : UInt16 → List Char) : Prop where
  alive : resolver.alive = true
  tracks : resolver.Tracks questions heard fun link confirmed => ⟨id, link, confirmed⟩ ∈ given
  clean : ∀ row, '\n' ∉ heard row
  /-- The resolver has heard of no row less often than before. -/
  eras : ∀ moment ∈ past, ∀ row generation, moment.rowEra row = some (id, generation) →
    ∃ latest, resolver.generation? row = some latest ∧ generation ≤ latest
  /-- A row was on the screen when the resolver heard of it. -/
  begun : ∀ row generation, resolver.generation? row = some generation →
    ∃ moment ∈ past, moment.rowEra row = some (id, generation) ∧
      row < moment.terminal.grid.size.rows

/-- What the resolver at work knows is what the screen shows, unless a row was cut off. -/
structure Linked (past : List Console) (given : List LinkVerdict) (console : Console) (id : Nat)
    (resolver : Resolver) (heard : UInt16 → List Char) : Prop where
  present : console ∈ past
  current : console.session.cycle.resolver = some id
  known : console.resolvers[id]? = some resolver
  validates : resolver.validates = console.host.concurrent
  platform : resolver.platform = console.host.platform
  knows : Knows past given id resolver (console.questions id) heard
  shown : ∀ row, Lasting past console row → console.terminal.grid.textAt row = heard row
  /-- A row that was cut off came back empty, if it came back. -/
  cut : ∀ row, ¬Lasting past console row → console.terminal.grid.textAt row = []

namespace Resolver

theorem accept_generation? (resolver : Resolver)
    (distinct : (resolver.rows.map RowLinks.row).Nodup) (row : UInt16) (generation : Nat)
    (link : LinkMatch) (other : UInt16) :
    (resolver.accept row generation link).generation? other = resolver.generation? other := by
  cases found : resolver.row? row with
  | none => rw [accept, found]
  | some entry =>
      unfold accept
      rw [found]
      dsimp only
      split
      · have place : entry.row = row := ((row?_eq_some_iff distinct).mp found).2
        unfold generation? row?
        dsimp only
        rw [find?_setRow]
        split
        next here =>
            rw [here, place]
            exact (congrArg (Option.map RowLinks.generation) found).symm
        next => rfl
      · rfl

end Resolver

/-- A row that changed is on the screen, and who is told about it knows it. -/
theorem Console.Orderly.of_told {after : Console} (orderly : after.Orderly) (before : Console)
    (heard : UInt16 → List Char) (row : UInt16)
    (told : row ∈ (before.changedRows after).map LineChange.row) :
    row < after.terminal.grid.size.rows ∧
      afterChanges heard (before.changedRows after) row = after.terminal.grid.textAt row := by
  have fits := orderly.length_visibleLines_le
  refine ⟨?_, afterChanges_of_told fits heard told⟩
  obtain ⟨text, here, -⟩ := (row_mem_lineChanges_iff fits).mp told
  obtain ⟨inside, -⟩ := List.getElem?_eq_some_iff.mp here
  exact UInt16.lt_iff_toNat_lt.mpr (orderly.length_visibleLines ▸ inside)

/-- A row that did not change shows what it showed, as long as it is on the screen. -/
theorem Console.Orderly.of_untold {before after : Console} (orderly : before.Orderly)
    (reordered : after.Orderly) (row : UInt16)
    (untold : row ∉ (before.changedRows after).map LineChange.row)
    (inside : row < after.terminal.grid.size.rows) :
    after.terminal.grid.textAt row = before.terminal.grid.textAt row := by
  rw [← orderly.scanned]
  refine (known_of_untold reordered.length_visibleLines_le ?_ untold).symm
  exact reordered.length_visibleLines.symm ▸ UInt16.lt_iff_toNat_lt.mp inside

namespace Knows

variable {past : List Console} {given more : List LinkVerdict} {after : Console} {id : Nat}
  {resolver next : Resolver} {questions others : List Question} {heard : UInt16 → List Char}
  {changes : List LineChange}

/-- No row is heard of. -/
theorem keep (knows : Knows past given id resolver questions heard)
    (current : after.session.cycle.resolver = some id)
    (known : after.resolvers[id]? = some next) (alive : next.alive = resolver.alive)
    (tracks : next.Tracks others heard fun link confirmed => ⟨id, link, confirmed⟩ ∈ more)
    (generations : ∀ row, next.generation? row = resolver.generation? row) :
    Knows (past ++ [after]) more id next others heard where
  alive := alive.trans knows.alive
  tracks := tracks
  clean := knows.clean
  eras := by
    intro moment member row generation here
    rcases List.mem_append.mp member with before | now
    · rw [generations]
      exact knows.eras moment before row generation here
    · rw [List.mem_singleton.mp now, rowEra_eq current known, Option.map_eq_some_iff] at here
      obtain ⟨latest, found, same⟩ := here
      obtain ⟨-, rfl⟩ := Prod.mk.inj same
      exact ⟨latest, found, Nat.le_refl _⟩
  begun := by
    intro row generation here
    rw [generations] at here
    obtain ⟨moment, member, same, inside⟩ := knows.begun row generation here
    exact ⟨moment, List.mem_append_left _ member, same, inside⟩

/-- A row that is heard of is heard of more often than ever before. -/
theorem newer (knows : Knows past given id resolver questions heard)
    {row : UInt16} (told : row ∈ changes.map LineChange.row) :
    ∃ generation, (resolver.hear changes).1.generation? row = some generation ∧
      ∀ moment ∈ past, ∀ older, moment.rowEra row = some (id, older) → older < generation := by
  obtain ⟨entry, found, later⟩ := (Resolver.hear_generation? knows.alive changes row).2 told
  refine ⟨entry.generation, by rw [Resolver.generation?, found]; rfl, ?_⟩
  intro moment member older same
  obtain ⟨latest, knownBefore, below⟩ := knows.eras moment member row older same
  exact Nat.lt_of_le_of_lt below (later latest knownBefore)

theorem generation?_of_untold (knows : Knows past given id resolver questions heard)
    {row : UInt16} (untold : row ∉ changes.map LineChange.row) :
    (resolver.hear changes).1.generation? row = resolver.generation? row :=
  congrArg (Option.map RowLinks.generation)
    ((Resolver.hear_generation? knows.alive changes row).1 untold)

/-- A row that is heard of begins an era of its own. -/
theorem lasting_of_told (knows : Knows past given id resolver questions heard)
    (current : after.session.cycle.resolver = some id)
    (known : after.resolvers[id]? = some (resolver.hear changes).1) {row : UInt16}
    (told : row ∈ changes.map LineChange.row) (inside : row < after.terminal.grid.size.rows) :
    Lasting (past ++ [after]) after row := by
  intro moment member same
  rcases List.mem_append.mp member with earlier | now
  · obtain ⟨latest, found, later⟩ := knows.newer told
    rw [rowEra_eq current known, found, Option.map_some] at same
    exact absurd (later moment earlier latest same) (Nat.lt_irrefl _)
  · rw [List.mem_singleton.mp now]
    exact inside

/-- Rows that are on the screen are heard of. -/
theorem hear (knows : Knows past given id resolver questions heard)
    (current : after.session.cycle.resolver = some id)
    (known : after.resolvers[id]? = some (resolver.hear changes).1) (orderly : after.Orderly)
    (told : ∀ row ∈ changes.map LineChange.row, row < after.terminal.grid.size.rows ∧
      afterChanges heard changes row = after.terminal.grid.textAt row)
    (same : (questions ++ (resolver.hear changes).2).Perm others)
    (since : ∀ verdict ∈ given, verdict ∈ more) :
    Knows (past ++ [after]) more id (resolver.hear changes).1 others
      (afterChanges heard changes) where
  alive := (resolver.hear_same changes).1.trans knows.alive
  tracks := (knows.tracks.hear knows.alive changes).of_perm same fun link confirmed =>
    since ⟨id, link, confirmed⟩
  clean := by
    intro row
    by_cases heardOf : row ∈ changes.map LineChange.row
    · rw [(told row heardOf).2]
      exact Grid.textAt_noBreak orderly.display.grid row
    · rw [afterChanges_of_not_mem heard changes heardOf]
      exact knows.clean row
  eras := by
    intro moment member row generation here
    rcases List.mem_append.mp member with earlier | now
    · by_cases heardOf : row ∈ changes.map LineChange.row
      · obtain ⟨latest, found, later⟩ := knows.newer heardOf
        exact ⟨latest, found, Nat.le_of_lt (later moment earlier generation here)⟩
      · rw [knows.generation?_of_untold heardOf]
        exact knows.eras moment earlier row generation here
    · rw [List.mem_singleton.mp now, rowEra_eq current known, Option.map_eq_some_iff] at here
      obtain ⟨latest, found, equal⟩ := here
      obtain ⟨-, rfl⟩ := Prod.mk.inj equal
      exact ⟨latest, found, Nat.le_refl _⟩
  begun := by
    intro row generation here
    by_cases heardOf : row ∈ changes.map LineChange.row
    · refine ⟨after, by simp, ?_, (told row heardOf).1⟩
      rw [rowEra_eq current known, here, Option.map_some]
    · rw [knows.generation?_of_untold heardOf] at here
      obtain ⟨moment, member, equal, inside⟩ := knows.begun row generation here
      exact ⟨moment, List.mem_append_left _ member, equal, inside⟩

end Knows

namespace Linked

variable {past : List Console} {given more : List LinkVerdict} {console after : Console} {id : Nat}
  {resolver next : Resolver} {heard : UInt16 → List Char}

/-- The screen stays as it is, and no row is heard of. -/
theorem keep (linked : Linked past given console id resolver heard)
    (current : after.session.cycle.resolver = some id)
    (known : after.resolvers[id]? = some next)
    (same : next.alive = resolver.alive ∧ next.validates = resolver.validates ∧
      next.platform = resolver.platform)
    (host : after.host = console.host)
    (tracks : next.Tracks (after.questions id) heard fun link confirmed =>
      ⟨id, link, confirmed⟩ ∈ more)
    (generations : ∀ row, next.generation? row = resolver.generation? row)
    (display : after.terminal.display = console.terminal.display) :
    Linked (past ++ [after]) more after id next heard := by
  obtain ⟨alive, validates, platform⟩ := same
  have era (row : UInt16) : after.rowEra row = console.rowEra row := by
    rw [rowEra_eq current known, rowEra_eq linked.current linked.known, generations]
  have grid : after.terminal.grid = console.terminal.grid := congrArg Display.grid display
  have lasting (row : UInt16) :
      Lasting (past ++ [after]) after row ↔ Lasting past console row := by
    constructor
    · intro lasts moment member same
      exact lasts moment (List.mem_append_left _ member) (same.trans (era row).symm)
    · intro lasts moment member same
      rcases List.mem_append.mp member with before | now
      · exact lasts moment before (same.trans (era row))
      · rw [List.mem_singleton.mp now, grid]
        exact lasts console linked.present rfl
  exact {
    present := by simp
    current := current
    known := known
    validates := by rw [validates, linked.validates, host]
    platform := by rw [platform, linked.platform, host]
    knows := linked.knows.keep current known alive tracks generations
    shown := fun row lasts => by
      rw [grid]
      exact linked.shown row ((lasting row).mp lasts)
    cut := fun row lost => by
      rw [grid]
      exact linked.cut row (mt (lasting row).mpr lost) }

/-- The screen shows something else, and the resolver hears of the rows that changed. -/
theorem hear (linked : Linked past given console id resolver heard) (orderly : console.Orderly)
    (reordered : after.Orderly) (current : after.session.cycle.resolver = some id)
    (host : after.host = console.host) (since : ∀ verdict ∈ given, verdict ∈ more)
    (known : after.resolvers[id]? = some (resolver.hear (console.changedRows after)).1)
    (questions : (after.questions id).Perm
      (console.questions id ++ (resolver.hear (console.changedRows after)).2)) :
    Linked (past ++ [after]) more after id (resolver.hear (console.changedRows after)).1
      (afterChanges heard (console.changedRows after)) := by
  obtain ⟨-, validates, platform⟩ := resolver.hear_same (console.changedRows after)
  have told := reordered.of_told console heard
  have untold := orderly.of_untold reordered
  generalize console.changedRows after = changes
    at known questions validates platform told untold ⊢
  have era (row : UInt16) (unheard : row ∉ changes.map LineChange.row) :
      after.rowEra row = console.rowEra row := by
    rw [rowEra_eq current known, rowEra_eq linked.current linked.known,
      linked.knows.generation?_of_untold unheard]
  exact {
    present := by simp
    current := current
    known := known
    validates := by rw [validates, linked.validates, host]
    platform := by rw [platform, linked.platform, host]
    knows := linked.knows.hear current known reordered told questions.symm since
    shown := by
      intro row lasts
      by_cases heardOf : row ∈ changes.map LineChange.row
      · exact (told row heardOf).2.symm
      · rw [afterChanges_of_not_mem heard changes heardOf,
          untold row heardOf (lasts after (by simp) rfl)]
        refine linked.shown row fun moment member equal => ?_
        exact lasts moment (List.mem_append_left _ member)
          (equal.trans (era row heardOf).symm)
    cut := by
      intro row lost
      by_cases heardOf : row ∈ changes.map LineChange.row
      · exact absurd (linked.knows.lasting_of_told current known heardOf (told row heardOf).1) lost
      · rcases UInt16.lt_or_le row after.terminal.grid.size.rows with inside | outside
        · rw [untold row heardOf inside]
          refine linked.cut row fun lasts => lost fun moment member equal => ?_
          rcases List.mem_append.mp member with earlier | now
          · exact lasts moment earlier (equal.trans (era row heardOf))
          · rw [List.mem_singleton.mp now]
            exact inside
        · exact Grid.textAt_of_outside reordered.display.grid outside }

/-- As long as a connection lasts, its resolver is out of date only where a row was cut
off. -/
theorem step (linked : Linked past given console id resolver heard)
    (step : LinkStep id more console after) (orderly : console.Orderly)
    (reordered : after.Orderly) (current : after.session.cycle.resolver = some id)
    (host : after.host = console.host) :
    ∃ next heardAfter, Linked (past ++ [after]) (given ++ more) after id next heardAfter := by
  have since : ∀ verdict ∈ given, verdict ∈ given ++ more := fun verdict member =>
    List.mem_append_left _ member
  cases step with
  | still same questions display =>
      exact ⟨resolver, heard, linked.keep current (same.trans linked.known) ⟨rfl, rfl, rfl⟩ host
        (linked.knows.tracks.of_perm questions.symm fun link confirmed => since _) (fun _ => rfl)
        display⟩
  | hears found foundKnown heardOf questions =>
      obtain rfl := Option.some.inj (linked.known.symm.trans foundKnown)
      exact ⟨_, _, linked.hear orderly reordered current host since heardOf questions⟩
  | settles found foundKnown question confirmed verdict settled questions display =>
      obtain rfl := Option.some.inj (linked.known.symm.trans foundKnown)
      have asked : resolver.Tracks (question :: after.questions id) heard fun link confirmed =>
          ⟨id, link, confirmed⟩ ∈ given ++ more :=
        linked.knows.tracks.of_perm questions fun link confirmed => since _
      have tracks := asked.settle linked.knows.alive (List.mem_append_right given verdict)
      refine ⟨_, heard, linked.keep current settled ?_ host tracks ?_ display⟩
      · cases confirmed with
        | false => exact ⟨rfl, rfl, rfl⟩
        | true => exact resolver.accept_same _ _ _
      · cases confirmed with
        | false => exact fun _ => rfl
        | true => exact resolver.accept_generation? linked.knows.tracks.distinct _ _ _

/-- A new resolver hears of all rows that are not empty. -/
theorem of_beginCycle {ready : Console} (orderly : ready.Orderly)
    (cycle : ready.session.cycle = .empty) (reordered : ready.beginCycle.Orderly)
    (current : ready.beginCycle.session.cycle.resolver = some ready.resolvers.length)
    (older : ∀ moment ∈ past, ∀ id, moment.session.cycle.resolver = some id →
      id < ready.resolvers.length) :
    ∃ resolver heard, Linked (past ++ [ready.beginCycle]) given ready.beginCycle
      ready.resolvers.length resolver heard := by
  obtain ⟨known, questions⟩ := beginCycle_hears orderly cycle
  have begun := ready.beginCycle_changes
  have display : ready.beginCycle.terminal.display = ready.terminal.display :=
    begun.same .display (by decide)
  have host : ready.beginCycle.host = ready.host := begun.same .host (by decide)
  have text (row : UInt16) : ready.beginCycle.terminal.grid.textAt row =
      (ready.terminal.scanned[row.toNat]?).getD [] := by
    rw [orderly.scanned, Terminal.grid, display]
    rfl
  have fits : ready.terminal.scanned.length ≤ 65536 := Nat.le_succ_of_le orderly.fits
  have told : ∀ row ∈ (lineChanges 0 [] ready.terminal.scanned).map LineChange.row,
      row < ready.beginCycle.terminal.grid.size.rows ∧
        afterChanges (fun _ => []) (lineChanges 0 [] ready.terminal.scanned) row =
          ready.beginCycle.terminal.grid.textAt row := by
    intro row member
    refine ⟨?_, (afterChanges_of_told fits _ member).trans (text row).symm⟩
    obtain ⟨shown, here, other⟩ := (row_mem_lineChanges_iff fits).mp member
    refine UInt16.not_le.mp fun outside => other ?_
    have empty : ready.beginCycle.terminal.grid.textAt row = [] :=
      Grid.textAt_of_outside reordered.display.grid outside
    rw [text, here] at empty
    exact empty.symm
  have untold : ∀ row ∉ (lineChanges 0 [] ready.terminal.scanned).map LineChange.row,
      ready.beginCycle.terminal.grid.textAt row = [] := by
    intro row absent
    rw [text]
    by_cases inside : row.toNat < ready.terminal.scanned.length
    · exact (known_of_untold fits inside absent).symm
    · rw [List.getElem?_eq_none (Nat.le_of_not_lt inside), Option.getD_none]
  have knows : Knows past given ready.resolvers.length
      (.fresh ready.host.platform ready.host.concurrent) [] fun _ => [] := {
    alive := rfl
    tracks := Resolver.fresh_tracks _ _ _
    clean := fun _ => List.not_mem_nil
    eras := fun moment member row generation here =>
      absurd (older moment member _ (current_of_rowEra here)) (Nat.lt_irrefl _)
    begun := fun _ _ here => by cases here }
  obtain ⟨-, validates, platform⟩ := Resolver.hear_same
    (.fresh ready.host.platform ready.host.concurrent) (lineChanges 0 [] ready.terminal.scanned)
  refine ⟨_, _, {
    present := by simp
    current := current
    known := known
    validates := by rw [validates, host]; rfl
    platform := by rw [platform, host]; rfl
    knows := knows.hear current known reordered told questions.symm fun _ => id
    shown := ?_
    cut := ?_ }⟩
  · intro row _
    by_cases heardOf : row ∈ (lineChanges 0 [] ready.terminal.scanned).map LineChange.row
    · exact (told row heardOf).2.symm
    · rw [untold row heardOf, afterChanges_of_not_mem _ _ heardOf]
  · intro row lost
    by_cases heardOf : row ∈ (lineChanges 0 [] ready.terminal.scanned).map LineChange.row
    · exact absurd (knows.lasting_of_told current known heardOf (told row heardOf).1) lost
    · exact untold row heardOf

end Linked

/-- What there is after a run, where `past` and `given` are what there has been in its course. -/
structure Recorded (base : Console) (past : List Console) (given : List LinkVerdict)
    (console : Console) : Prop where
  settled : Settled base console
  ordered : console.CallsInOrder
  orderly : console.Orderly
  host : console.host = base.host
  /-- Resolvers are numbered in the order in which they came. -/
  older : ∀ moment ∈ past, ∀ id, moment.session.cycle.resolver = some id →
    id < console.resolvers.length
  linked : ∀ id, console.session.cycle.resolver = some id →
    ∃ resolver heard, Linked past given console id resolver heard

namespace Recorded

variable {base console : Console} {past : List Console} {given : List LinkVerdict}

theorem lt_of_current (settled : Settled base console) {id : Nat}
    (current : console.session.cycle.resolver = some id) : id < console.resolvers.length := by
  rcases settled.place with unbound | ⟨keys, bound⟩
  · rw [unbound.cycle] at current
    cases current
  · rw [bound.cycle] at current
    obtain rfl : keys.resolver = id := Option.some.inj current
    obtain ⟨resolver, known, -⟩ := bound.resolver
    exact (List.getElem?_eq_some_iff.mp known).1

theorem step (fresh : Fresh base) (recorded : Recorded base past given console) (event : Event) :
    Recorded base (past ++ [console.apply event]) (given ++ console.verdictsBy event)
      (console.apply event) := by
  obtain ⟨settled, ordered⟩ := recorded.settled.step fresh recorded.ordered event
  have advances := console.apply_advances event
  have orderly := advances.orderly recorded.orderly
  exact {
    settled := settled
    ordered := ordered
    orderly := orderly
    host := advances.host.trans recorded.host
    older := by
      intro moment member id current
      rcases List.mem_append.mp member with before | now
      · exact Nat.lt_of_lt_of_le (recorded.older moment before id current) advances.resolvers
      · rw [List.mem_singleton.mp now] at current
        exact lt_of_current settled current
    linked := by
      intro id current
      cases linkMove_apply fresh recorded.settled recorded.ordered event with
      | during keys held kept step =>
          rw [kept.cycle] at current
          obtain rfl : keys.resolver = id := Option.some.inj current
          obtain ⟨resolver, heard, linked⟩ :=
            recorded.linked keys.resolver (by rw [held.cycle]; rfl)
          exact linked.step step recorded.orderly orderly (by rw [kept.cycle]; rfl) advances.host
      | idle unbound =>
          rw [unbound.cycle] at current
          cases current
      | begins ready keys begun cycle kept number reached =>
          rw [kept.cycle] at current
          obtain rfl : keys.resolver = id := Option.some.inj current
          rw [number] at current ⊢
          rw [reached] at orderly kept ⊢
          refine Linked.of_beginCycle (begun.orderly recorded.orderly) cycle orderly
            (by rw [kept.cycle]; exact current) fun moment member id earlier => ?_
          exact Nat.lt_of_lt_of_le (recorded.older moment member id earlier) begun.resolvers }

/-- A run goes on from what there has been. -/
theorem run (fresh : Fresh base) (recorded : Recorded base past given console)
    (events : List Event) :
    Recorded base (past ++ console.noted (fun console event => [console.apply event]) events)
      (given ++ console.noted verdictsBy events) (console.run events) := by
  induction events generalizing past given console with
  | nil => simpa [noted] using recorded
  | cons event events inductionHypothesis =>
      have next := inductionHypothesis (recorded.step fresh event)
      rwa [List.append_assoc, List.append_assoc] at next

/-- The session is activated while there is no resolver. -/
theorem of_activateSession (fresh : Fresh base) (orderly : base.Orderly) :
    Recorded base [base.activateSession] [] base.activateSession := by
  obtain ⟨settled, ordered⟩ := activateSession_settled fresh
  have idle : base.activateSession.session.cycle.resolver = none := by
    simp [activateSession, fresh.session, Session.idle, Cycle.empty]
  exact {
    settled := settled
    ordered := ordered
    orderly := ⟨orderly.display, orderly.scanned, orderly.fits, orderly.questions⟩
    host := rfl
    older := by
      intro moment member id current
      rw [List.mem_singleton.mp member] at current
      exact lt_of_current settled current
    linked := by
      intro id current
      rw [idle] at current
      cases current }

end Recorded

/-- What there is after every run of a console in which the session has been activated. -/
theorem recorded_run (base : Console) (fresh : Fresh base) (orderly : base.Orderly)
    (events : List Event) :
    Recorded base (base.activateSession.moments events)
      (base.activateSession.noted verdictsBy events) (base.activateSession.run events) :=
  (Recorded.of_activateSession fresh orderly).run fresh events

end RuntimeConsole
