/-
Module: RuntimeConsole.Proofs.LinkAccuracy
Purpose: The links of the screen after a run: where every question has been answered they
  are the candidates that name something, and a link that is not on the screen is one of a
  row that was cut off.
Main exports:
  Grid.Spells, ExactLinks, links_exact, links_present
-/
import RuntimeConsole.Proofs.LinkHistory

namespace RuntimeConsole

/-! ### Links on the screen -/

/-- A row is on the screen, and its cells from where a link starts to before where it ends
spell the link. -/
def Grid.Spells (grid : Grid) (row : UInt16) (link : LinkMatch) : Prop :=
  row < grid.size.rows ∧ ∃ cells, grid.rows[row.toNat]? = some cells ∧
    (cells.drop link.start).take (link.stop - link.start) = link.text.toList

namespace Grid

variable {grid : Grid} {row : UInt16} {link : LinkMatch}

theorem spells_of_spelledBy (proper : grid.Proper) (spelled : link.SpelledBy (grid.textAt row)) :
    grid.Spells row link := by
  rcases UInt16.lt_or_le row grid.size.rows with inside | outside
  · obtain ⟨cells, found, text⟩ := textAt_cells proper inside
    obtain ⟨blanks, whole⟩ := trimEnd_isPrefix cells
    rw [text] at spelled
    have starts := spelled.nonempty
    have stops := spelled.inside
    refine ⟨inside, cells, found, ?_⟩
    rw [spelled.text, ← whole, List.drop_append_of_le_length (by omega),
      List.take_append_of_le_length (by rw [List.length_drop]; omega), whole]
  · have starts := spelled.nonempty
    have stops := spelled.inside
    rw [textAt_of_outside proper outside, List.length_nil] at stops
    omega

/-- A row without text spells nothing that can be seen. -/
theorem not_spells_of_blank (proper : grid.Proper) (blank : grid.textAt row = [])
    (visible : ∃ c, link.text.toList.head? = some c ∧ Text.isBlank c = false) :
    ¬grid.Spells row link := by
  rintro ⟨inside, cells, found, spelled⟩
  obtain ⟨known, foundToo, text⟩ := textAt_cells proper inside
  obtain rfl := Option.some.inj (found.symm.trans foundToo)
  obtain ⟨c, first, seen⟩ := visible
  have member : c ∈ cells := by
    rw [← spelled] at first
    exact List.mem_of_mem_drop (List.mem_of_mem_take (List.mem_of_head? first))
  have unseen := trimEnd_eq_nil_iff.mp (text.symm.trans blank) c member
  rw [seen] at unseen
  cases unseen

end Grid

/-! ### Rows that stay -/

namespace ScreenAct

/-- Acts that are no resizes leave the size alone. -/
theorem foldl_on_size (acts : List ScreenAct) (keep : acts.any isResize = false)
    (display : Display) : (acts.foldl on display).grid.size = display.grid.size := by
  induction acts generalizing display with
  | nil => rfl
  | cons act acts inductionHypothesis =>
      rw [List.any_cons, Bool.or_eq_false_iff] at keep
      rw [List.foldl_cons, inductionHypothesis keep.2]
      cases act with
      | shows bytes => exact display.feed_size bytes
      | announcesExit =>
          rw [on]
          exact display.feed_size _
      | clears => rfl
      | resizes size => cases keep.1

/-- The smallest acts an act consists of: bytes are shown one after the other. -/
def atoms : ScreenAct → List ScreenAct
  | shows bytes => bytes.map fun byte => shows [byte]
  | announcesExit => [announcesExit]
  | clears => [clears]
  | resizes size => [resizes size]

/-- It does not matter how what is shown is split. -/
theorem foldl_atoms (acts : List ScreenAct) (display : Display) :
    (acts.flatMap atoms).foldl on display = acts.foldl on display := by
  have split (bytes : List UInt8) (display : Display) :
      (bytes.map fun byte => shows [byte]).foldl on display = display.feed bytes := by
    induction bytes generalizing display with
    | nil => rfl
    | cons byte bytes inductionHypothesis => exact inductionHypothesis _
  induction acts generalizing display with
  | nil => rfl
  | cons act acts inductionHypothesis =>
      rw [List.flatMap_cons, List.foldl_append, inductionHypothesis, List.foldl_cons]
      cases act with
      | shows bytes => rw [atoms, split, on]
      | _ => rw [atoms, List.foldl_cons, List.foldl_nil]

end ScreenAct

namespace Console

/-- The screen is not resized in the course of a run while a resolver is at work. -/
def Unresized (console : Console) (events : List Event) (id : Nat) : Prop :=
  ∀ earlier size later, events = earlier ++ .resize size :: later →
    (console.run earlier).session.cycle.resolver ≠ some id

theorem apply_size {base console : Console} (fresh : Fresh base) (settled : Settled base console)
    (ordered : console.CallsInOrder) (event : Event) (other : ∀ size, event ≠ .resize size) :
    (console.apply event).terminal.grid.size = console.terminal.grid.size := by
  obtain ⟨_, followed, -⟩ := apply_followed fresh settled ordered.connection event
  rw [Terminal.grid, followed.display]
  exact ScreenAct.foldl_on_size _ (console.screenActs_keep event other) _

/-- The screen has had as many rows as it has now as long as a resolver has been at work. -/
def KeepsRows (past : List Console) (console : Console) (id : Nat) : Prop :=
  console.session.cycle.resolver = some id → ∀ moment ∈ past,
    moment.session.cycle.resolver = some id →
      moment.terminal.grid.size.rows = console.terminal.grid.size.rows

theorem KeepsRows.step {base console : Console} {past : List Console} {given : List LinkVerdict}
    {id : Nat} (fresh : Fresh base) (recorded : Recorded base past given console)
    (keeps : KeepsRows past console id) (event : Event)
    (unresized : ∀ size, event = .resize size → console.session.cycle.resolver ≠ some id) :
    KeepsRows (past ++ [console.apply event]) (console.apply event) id := by
  intro current moment member earlier
  rcases List.mem_append.mp member with before | now
  · cases linkMove_apply fresh recorded.settled recorded.ordered event with
    | during keys held kept _ =>
        rw [kept.cycle] at current
        obtain rfl : keys.resolver = id := Option.some.inj current
        have currentBefore : console.session.cycle.resolver = some keys.resolver := by
          rw [held.cycle]
          rfl
        rw [keeps currentBefore moment before earlier, apply_size fresh recorded.settled
          recorded.ordered event fun size same => unresized size same currentBefore]
    | idle unbound =>
        rw [unbound.cycle] at current
        cases current
    | begins ready keys begun _ kept number _ =>
        rw [kept.cycle] at current
        obtain rfl : keys.resolver = id := Option.some.inj current
        have old := recorded.older moment before keys.resolver earlier
        rw [number] at old
        exact absurd (Nat.lt_of_lt_of_le old begun.resolvers) (Nat.lt_irrefl _)
  · rw [List.mem_singleton.mp now]

theorem KeepsRows.run {base console : Console} {past : List Console} {given : List LinkVerdict}
    {id : Nat} (fresh : Fresh base) (recorded : Recorded base past given console)
    (keeps : KeepsRows past console id) (events : List Event)
    (unresized : console.Unresized events id) :
    KeepsRows (past ++ console.noted (fun console event => [console.apply event]) events)
      (console.run events) id := by
  induction events generalizing past given console with
  | nil => simpa [noted] using keeps
  | cons event events inductionHypothesis =>
      have kept : KeepsRows (past ++ [console.apply event]) (console.apply event) id :=
        keeps.step fresh recorded event fun size same =>
          unresized [] size events (by rw [same, List.nil_append])
      have next := inductionHypothesis (recorded.step fresh event) kept
        fun earlier size later same =>
          unresized (event :: earlier) size later (by rw [same, List.cons_append])
      rwa [List.append_assoc] at next

end Console

open Console

/-! ### Every question answered -/

/-- After a run a resolver is at work, the screen has not been resized since it began, and
every question it had was answered: with yes for what is valid, with no for the rest. -/
structure AllAnswered (start : Console) (events : List Event) (id : Nat) (valid : String → Bool) :
    Prop where
  current : (start.run events).session.cycle.resolver = some id
  unresized : start.Unresized events id
  answered : (start.run events).questions id = []
  truthful : ∀ verdict ∈ start.noted verdictsBy events, verdict.resolver = id →
    verdict.confirmed = valid verdict.link.text

/-- The links are the candidates on the screen that are valid, and every position has the one
link that covers it. -/
structure ExactLinks (grid : Grid) (platform : Platform) (valid : String → Bool)
    (resolver : Resolver) : Prop where
  links : resolver.links = grid.validLinks platform valid
  ordered : resolver.links.Pairwise LinkBefore
  found : ∀ position link, resolver.linkAt? position = some link ↔
    (position.row, link) ∈ resolver.links ∧ link.containsCol position.col.toNat = true
  unique : ∀ row col first second, (row, first) ∈ resolver.links → (row, second) ∈ resolver.links →
    first.containsCol col = true → second.containsCol col = true → first = second

/-- Links that do not overlap do not cover the same position. -/
theorem eq_of_containsCol {links : List (UInt16 × LinkMatch)} (ordered : links.Pairwise LinkBefore)
    {row : UInt16} {col : Nat} {first second : LinkMatch} (member : (row, first) ∈ links)
    (memberToo : (row, second) ∈ links) (covers : first.containsCol col = true)
    (coversToo : second.containsCol col = true) : first = second := by
  simp only [LinkMatch.containsCol, Bool.and_eq_true, decide_eq_true_eq] at covers coversToo
  rcases Resolver.before_cases ordered member memberToo with same | before | before
  · exact (Prod.mk.inj same).2
  all_goals
    rcases before with less | ⟨-, apart⟩
    · exact absurd less (UInt16.lt_irrefl row)
    · dsimp only at apart
      omega

namespace Linked

variable {past : List Console} {given : List LinkVerdict} {console : Console} {id : Nat}
  {resolver : Resolver} {heard : UInt16 → List Char} {valid : String → Bool}

/-- As long as the screen keeps its rows, what was heard last of each is what it shows. -/
theorem upToDate (linked : Linked past given console id resolver heard)
    (keeps : KeepsRows past console id) (row : UInt16) :
    heard row = console.terminal.grid.textAt row := by
  by_cases lasts : Lasting past console row
  · exact (linked.shown row lasts).symm
  · rw [linked.cut row lasts]
    cases known : resolver.row? row with
    | none => exact linked.knows.tracks.unheard row known
    | some entry =>
        have generation : resolver.generation? row = some entry.generation := by
          rw [Resolver.generation?, known]
          rfl
        obtain ⟨moment, member, era, inside⟩ := linked.knows.begun row _ generation
        rw [keeps linked.current moment member (current_of_rowEra era)] at inside
        refine absurd (fun other otherMember same => ?_) lasts
        rw [rowEra_eq linked.current linked.known, generation] at same
        rw [keeps linked.current other otherMember (current_of_rowEra same)]
        exact inside

theorem exact_links (linked : Linked past given console id resolver heard)
    (orderly : console.Orderly) (keeps : KeepsRows past console id)
    (running : console.host.concurrent = true) (answered : console.questions id = [])
    (truthful : ∀ verdict ∈ given, verdict.resolver = id →
      verdict.confirmed = valid verdict.link.text) :
    ExactLinks console.terminal.grid console.host.platform valid resolver := by
  have tracks := linked.knows.tracks
  rw [answered] at tracks
  have proper : console.terminal.grid.Proper := orderly.display.grid
  have links := Resolver.links_eq proper tracks (linked.upToDate keeps)
    (linked.validates.trans running) fun link confirmed told => truthful _ told rfl
  rw [linked.platform] at links
  have ordered : resolver.links.Pairwise LinkBefore := by
    rw [links]
    exact Grid.validLinks_before proper _ _
  have unique : ∀ row col first second, (row, first) ∈ resolver.links →
      (row, second) ∈ resolver.links → first.containsCol col = true →
        second.containsCol col = true → first = second :=
    fun _ _ _ _ member memberToo => eq_of_containsCol ordered member memberToo
  exact ⟨links, ordered, fun _ _ => Resolver.linkAt?_eq_some_iff tracks.distinct unique, unique⟩

end Linked

/-- What there is after a run at whose end every question is answered. -/
structure LinksSettled (start : Console) (events : List Event) (id : Nat)
    (valid : String → Bool) (resolver : Resolver) : Prop where
  known : (start.run events).resolvers[id]? = some resolver
  exactly : ExactLinks (start.run events).terminal.grid start.host.platform valid resolver
  /-- Only what has been shown matters: neither how it was split nor the order of the answers. -/
  confluent : ∀ others otherId other, AllAnswered start others otherId valid →
    (start.run others).resolvers[otherId]? = some other →
    (start.noted screenActs others).flatMap ScreenAct.atoms =
        (start.noted screenActs events).flatMap ScreenAct.atoms →
      other.links = resolver.links ∧
        ∀ position, other.linkAt? position = resolver.linkAt? position

theorem AllAnswered.exact_links {base : Console} {events : List Event} {id : Nat}
    {valid : String → Bool} (fresh : Fresh base) (orderly : base.Orderly)
    (running : base.host.concurrent = true)
    (answered : AllAnswered base.activateSession events id valid) :
    ∃ resolver, (base.activateSession.run events).resolvers[id]? = some resolver ∧
      ExactLinks (base.activateSession.run events).terminal.grid base.host.platform valid
        resolver := by
  have start := Recorded.of_activateSession fresh orderly
  have recorded := start.run fresh events
  obtain ⟨resolver, heard, linked⟩ := recorded.linked id answered.current
  have kept : KeepsRows [base.activateSession] base.activateSession id := by
    intro _ moment member _
    rw [List.mem_singleton.mp member]
  have keeps := kept.run fresh start events answered.unresized
  refine ⟨resolver, linked.known, recorded.host ▸ ?_⟩
  exact linked.exact_links recorded.orderly keeps (recorded.host ▸ running) answered.answered
    answered.truthful

/-- Whenever every question has been answered, the links are the candidates on the screen
that are valid, in whatever order the answers came and however the output was split. -/
theorem links_exact (base : Console) (events : List Event) (id : Nat) (valid : String → Bool)
    (fresh : Fresh base) (orderly : base.Orderly) (running : base.host.concurrent = true)
    (answered : AllAnswered base.activateSession events id valid) :
    ∃ resolver, LinksSettled base.activateSession events id valid resolver := by
  obtain ⟨settled, ordered⟩ := activateSession_settled fresh
  obtain ⟨resolver, known, exactly⟩ := answered.exact_links fresh orderly running
  refine ⟨resolver, known, exactly, fun others otherId other answeredToo otherKnown same => ?_⟩
  obtain ⟨found, foundKnown, exactToo⟩ := answeredToo.exact_links fresh orderly running
  obtain rfl := Option.some.inj (otherKnown.symm.trans foundKnown)
  have display : (base.activateSession.run others).terminal.display =
      (base.activateSession.run events).terminal.display := by
    rw [(noted_screenActs fresh settled ordered others).1,
      (noted_screenActs fresh settled ordered events).1, ← ScreenAct.foldl_atoms, same,
      ScreenAct.foldl_atoms]
  have links : other.links = resolver.links := by
    rw [exactToo.links, exactly.links, Terminal.grid, display]
    rfl
  refine ⟨links, fun position => Option.ext fun link => ?_⟩
  rw [exactToo.found, exactly.found, links]

theorem bare_orderly (size : Size) : (Console.bare size).Orderly :=
  unwired_orderly _ _ _ _

/-- Two candidates are asked about, and the second question is answered first. -/
def twoCandidates : List Event :=
  [.connect .plain, .write (Text.encode "\r\n\r\n/a/b.jl /c.jl".toList), .work .task,
    .work .task, .frame (.response 5 (.bool false)), .frame (.response 4 (.bool true)),
    .work .task, .work .task]

/-- Of two candidates one is valid, and the answers come in the other order. -/
theorem links_exact_reordered :
    Fresh (Console.bare ⟨3, 20⟩) ∧ (Console.bare ⟨3, 20⟩).Orderly ∧
      (Console.bare ⟨3, 20⟩).host.concurrent = true ∧
      AllAnswered (Console.bare ⟨3, 20⟩).activateSession twoCandidates 0 (· == "/a/b.jl") ∧
      ∃ resolver, LinksSettled (Console.bare ⟨3, 20⟩).activateSession twoCandidates 0
        (· == "/a/b.jl") resolver := by
  have answered : AllAnswered (Console.bare ⟨3, 20⟩).activateSession twoCandidates 0
      (· == "/a/b.jl") := {
    current := by decide +kernel
    unresized := by
      intro earlier size later same
      have member : Event.resize size ∈ twoCandidates := by simp [same]
      simp [twoCandidates] at member
    answered := by decide +kernel
    truthful := by decide +kernel }
  exact ⟨bare_fresh _, bare_orderly _, rfl, answered,
    links_exact _ _ _ _ (bare_fresh _) (bare_orderly _) rfl answered⟩

/-! ### Links that are not on the screen -/

/-- What the links are worth, whether their questions are answered or not. -/
structure LinksPresent (start : Console) (events : List Event) (id : Nat) (resolver : Resolver) :
    Prop where
  current : (start.run events).session.cycle.resolver = some id
  known : (start.run events).resolvers[id]? = some resolver
  /-- A link is on the screen exactly as long as its row has been since it was heard of. -/
  shown : ∀ row link, (row, link) ∈ resolver.links →
    ((start.run events).terminal.grid.Spells row link ↔
      Lasting (start.moments events) (start.run events) row)
  found : ∀ position link, resolver.linkAt? position = some link →
    (position.row, link) ∈ resolver.links ∧ link.containsCol position.col.toNat = true
  /-- What the user opens is the link that is found. -/
  opened : ∀ ticket position, (start.run events).openLink ticket position =
    match resolver.linkAt? position with
    | some link => (start.run events).activateLink ticket id link
    | none => (start.run events).finish ticket (.linkOpened false)

theorem Linked.spells_iff {past : List Console} {given : List LinkVerdict} {console : Console}
    {id : Nat} {resolver : Resolver} {heard : UInt16 → List Char}
    (linked : Linked past given console id resolver heard) (orderly : console.Orderly)
    {row : UInt16} {link : LinkMatch} (member : (row, link) ∈ resolver.links) :
    console.terminal.grid.Spells row link ↔ Lasting past console row := by
  have tracks := linked.knows.tracks
  have proper : console.terminal.grid.Proper := orderly.display.grid
  have spelled : link.SpelledBy (heard row) := by
    obtain ⟨entry, known, inside⟩ := (Resolver.mem_links_iff tracks.distinct).mp member
    obtain ⟨refused, unasked, balance, -⟩ := (tracks.balanced row entry known).balance
    have candidate := balance.mem_iff.mpr (List.mem_append_left _ inside)
    rw [linksInText_of_noBreak _ (linked.knows.clean row)] at candidate
    exact linksInLine_spelled _ _ link candidate
  constructor
  · intro spells
    refine Classical.byContradiction fun lost => ?_
    exact Grid.not_spells_of_blank proper (linked.cut row lost) spelled.visible spells
  · intro lasts
    refine Grid.spells_of_spelledBy proper ?_
    rw [linked.shown row lasts]
    exact spelled

/-- While a session is attached, a link is on the screen unless its row was cut off by a
smaller screen after it was heard of; nothing else makes a link stale. -/
theorem links_present (base : Console) (events : List Event) (fresh : Fresh base)
    (orderly : base.Orderly)
    (attached : (base.activateSession.run events).session.state = .attached) :
    ∃ id resolver, LinksPresent base.activateSession events id resolver := by
  have recorded := recorded_run base fresh orderly events
  rcases recorded.settled.place with unbound | ⟨keys, bound⟩
  · exact absurd attached unbound.state
  · have current : (base.activateSession.run events).session.cycle.resolver =
        some keys.resolver := by
      rw [bound.cycle]
      rfl
    obtain ⟨resolver, heard, linked⟩ := recorded.linked keys.resolver current
    refine ⟨keys.resolver, resolver, current, linked.known, ?_, ?_, ?_⟩
    · exact fun row link member => linked.spells_iff recorded.orderly member
    · exact fun position link => Resolver.mem_links_of_linkAt? linked.knows.tracks.distinct
    · intro ticket position
      rw [openLink, current]
      dsimp only
      rw [activateAt, linked.known]
      rfl

/-- The screen loses its last two rows and gets them back. -/
def cutAndRestored : List Event :=
  twoCandidates ++ [.resize ⟨1, 20⟩, .resize ⟨3, 20⟩]

/-- The link of a row that was cut off is found where the screen is blank now. -/
theorem links_present_cut :
    Fresh (Console.bare ⟨3, 20⟩) ∧ (Console.bare ⟨3, 20⟩).Orderly ∧
      ((Console.bare ⟨3, 20⟩).activateSession.run cutAndRestored).session.state = .attached ∧
      (∃ id resolver, LinksPresent (Console.bare ⟨3, 20⟩).activateSession cutAndRestored id
        resolver) ∧
      (((Console.bare ⟨3, 20⟩).activateSession.run cutAndRestored).resolvers[0]?.bind
        (·.linkAt? ⟨2, 3⟩)).map LinkMatch.text = some "/a/b.jl" ∧
      ((Console.bare ⟨3, 20⟩).activateSession.run cutAndRestored).terminal.grid.textAt 2 = [] := by
  have attached :
      ((Console.bare ⟨3, 20⟩).activateSession.run cutAndRestored).session.state = .attached := by
    decide +kernel
  exact ⟨bare_fresh _, bare_orderly _, attached,
    links_present _ _ (bare_fresh _) (bare_orderly _) attached, by decide +kernel,
    by decide +kernel⟩

end RuntimeConsole
