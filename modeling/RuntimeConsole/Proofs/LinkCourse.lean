/-
Module: RuntimeConsole.Proofs.LinkCourse
Purpose: Where the answers to activations come from, over any run in which links are activated
  while other things happen: each belongs to an inquiry made before, which waited until then, and
  a resolver that still works has belonged to one connection all the time.
Main exports:
  Settled.works_iff, Awaited, Traced, Traced.of_run, worked_throughout, inquiries_increasing,
  openedLinks_once
-/
import RuntimeConsole.Proofs.LinkInquiries

namespace RuntimeConsole

namespace Console

/-- The inquiries that are made in an event, at most one. -/
def inquiries (console : Console) (event : LinkEvent) : List Inquiry :=
  (console.inquiry? event).toList

/-! ### Resolvers at work -/

theorem works_iff_living {console : Console} {id : Nat} :
    console.works id = true ↔ (console.resolvers.map Resolver.alive)[id]? = some true := by
  rw [works, List.getElem?_map]
  cases console.resolvers[id]? <;> simp

theorem works_of_changes {before after : Console} {aspects : List Aspect}
    (step : Changes aspects before after) (apart : Aspect.living ∉ aspects) (id : Nat) :
    after.works id = before.works id := by
  have same : after.resolvers.map Resolver.alive = before.resolvers.map Resolver.alive :=
    step.same .living apart
  rw [Bool.eq_iff_iff, works_iff_living, works_iff_living, same]

section

variable {base console : Console} {id : Nat}

/-- The resolver of the session works, and no other. -/
theorem Settled.works_iff (settled : Settled base console) :
    console.works id = true ↔ console.session.cycle.resolver = some id := by
  rw [works_iff_living]
  rcases settled.place with unbound | ⟨keys, bound⟩
  · have idle : (console.resolvers.map Resolver.alive)[id]? ≠ some true := unbound.wiring.living id
    rw [unbound.cycle]
    exact iff_of_false idle nofun
  · have living : (console.resolvers.map Resolver.alive)[id]? = some true ↔ id = keys.resolver :=
      bound.wiring.living id
    rw [living, bound.cycle, CycleKeys.cycle, Option.some.injEq, eq_comm]

theorem Settled.connected_of_works (settled : Settled base console)
    (works : console.works id = true) : console.client.connection ≠ none := by
  have current := settled.works_iff.mp works
  rcases settled.place with unbound | ⟨keys, bound⟩
  · rw [unbound.cycle] at current
    cases current
  · obtain ⟨connection, _, connected, -⟩ := bound.connection
    simp [connected]

theorem lt_of_works (works : console.works id = true) : id < console.resolvers.length := by
  rw [works_iff_living] at works
  obtain ⟨inside, -⟩ := List.getElem?_eq_some_iff.mp works
  simpa using inside

/-! ### One event -/

/-- An event is one of those that happen to the console, or the session does not notice it. -/
theorem use_cases (console : Console) (event : LinkEvent) :
    (∃ happened, event = .happens happened) ∨
      Changes besideAspects console (console.use event) := by
  cases event with
  | happens event => exact .inl ⟨event, rfl⟩
  | resumes place => exact .inr (console.resumeTask_changes place)
  | activates ticket resolver link =>
      exact .inr ((console.activateLink_changes ticket resolver link).mono (by decide))
  | activatesAt ticket resolver position =>
      exact .inr ((console.activateAt_changes ticket resolver position).mono (by decide))

theorem use_settled (fresh : Fresh base) (settled : Settled base console)
    (reckoned : console.Reckoned) (event : LinkEvent) :
    Settled base (console.use event) ∧ (console.use event).Reckoned ∧
      CallUse console event := by
  have reached : Settled base (console.use event) := by
    rcases console.use_cases event with ⟨happened, rfl⟩ | step
    · exact (settled.step fresh reckoned.ordered happened).1
    · exact settled.of_changes step (by decide)
  have change := callUse_use reckoned.ordered event reached.steady.overrun
  exact ⟨reached, change.reckoned reckoned, change⟩

theorem use_resolvers (console : Console) (event : LinkEvent) :
    console.resolvers.length ≤ (console.use event).resolvers.length := by
  rcases console.use_cases event with ⟨happened, rfl⟩ | step
  · exact (console.apply_advances happened).resolvers
  · exact Nat.le_of_eq (resolvers_length_of_changes step (by decide)).symm

/-- A resolver that was there before an event and works after it worked before it, for the same
connection. -/
theorem worked_before (fresh : Fresh base) (settled : Settled base console)
    (reckoned : console.Reckoned) (event : LinkEvent) (there : id < console.resolvers.length)
    (works : (console.use event).works id = true) :
    console.works id = true ∧
      (console.use event).client.connection = console.client.connection := by
  rcases console.use_cases event with ⟨happened, rfl⟩ | step
  · obtain ⟨reached, -⟩ := settled.step fresh reckoned.ordered happened
    have current := reached.works_iff.mp works
    cases taskMove_apply fresh settled reckoned.ordered happened with
    | idle unbound =>
        rw [unbound.cycle] at current
        cases current
    | begins keys kept _ new =>
        rw [kept.cycle] at current
        obtain rfl : keys.resolver = id := Option.some.inj current
        exact absurd there (Nat.not_lt.mpr new)
    | lasts keys held kept same _ =>
        rw [kept.cycle, ← held.cycle] at current
        exact ⟨settled.works_iff.mpr current, same⟩
  · exact ⟨(works_of_changes step (by decide) id).symm.trans works,
      step.same .connection (by decide)⟩

/-! ### Runs -/

theorem useAll_settled (fresh : Fresh base) (settled : Settled base console)
    (reckoned : console.Reckoned) (events : List LinkEvent) :
    Settled base (console.useAll events) ∧ (console.useAll events).Reckoned := by
  induction events generalizing console with
  | nil => exact ⟨settled, reckoned⟩
  | cons event events inductionHypothesis =>
      obtain ⟨next, nextReckoned, -⟩ := use_settled fresh settled reckoned event
      exact inductionHypothesis next nextReckoned

/-- A resolver that was there at the beginning of a run and works at its end has worked all the
time, and for one connection. -/
theorem worked_throughout (fresh : Fresh base) (settled : Settled base console)
    (reckoned : console.Reckoned) (there : id < console.resolvers.length)
    (events : List LinkEvent) (works : (console.useAll events).works id = true) :
    ∀ first, first <+: events → (console.useAll first).works id = true ∧
      (console.useAll first).client.connection = console.client.connection := by
  induction events generalizing console with
  | nil =>
      intro first ahead
      rw [List.prefix_nil.mp ahead]
      exact ⟨works, rfl⟩
  | cons event events inductionHypothesis =>
      obtain ⟨next, nextReckoned, -⟩ := use_settled fresh settled reckoned event
      have later := inductionHypothesis next nextReckoned
        (Nat.lt_of_lt_of_le there (console.use_resolvers event)) works
      obtain ⟨worked, same⟩ :=
        worked_before fresh settled reckoned event there (later [] (List.nil_prefix)).1
      intro first ahead
      rcases List.prefix_cons_iff.mp ahead with rfl | ⟨rest, rfl, within⟩
      · exact ⟨worked, rfl⟩
      · obtain ⟨stillWorks, stillSame⟩ := later rest within
        exact ⟨stillWorks, stillSame.trans same⟩

end

end Console

open Console

/-! ### Where answers come from -/

/-- An inquiry is made in an event of a run and waits through the events that follow it. -/
structure Awaited (start : Console) (before : List LinkEvent) (event : LinkEvent)
    (between : List LinkEvent) (inquiry : Inquiry) : Prop where
  made : (start.useAll before).inquiry? event = some inquiry
  waits : ∀ first, first <+: between →
    inquiry.call ∈ (start.useAll (before ++ event :: first)).client.pending

/-- The calls that wait to open a link, and the answers to such calls, go back to inquiries of the
run. -/
structure Traced (start : Console) (past : List LinkEvent) : Prop where
  waiting : ∀ call ∈ (start.useAll past).client.pending, call.opens = true →
    ∃ before event between inquiry, past = before ++ event :: between ∧ inquiry.call = call ∧
      Awaited start before event between inquiry
  answered : ∀ call answer, (call, answer) ∈ (start.useAll past).answers → call.opens = true →
    ∃ before event waiting reply rest inquiry,
      past = before ++ event :: (waiting ++ reply :: rest) ∧
      inquiry.call = call ∧ Awaited start before event waiting inquiry ∧
        Replies (start.useAll (before ++ event :: waiting)) reply call answer

theorem Awaited.concat {start : Console} {before between : List LinkEvent} {event next : LinkEvent}
    {inquiry : Inquiry} (awaited : Awaited start before event between inquiry)
    (still : inquiry.call ∈
      (start.useAll (before ++ event :: (between ++ [next]))).client.pending) :
    Awaited start before event (between ++ [next]) inquiry where
  made := awaited.made
  waits first ahead := by
    rcases List.prefix_concat_iff.mp ahead with rfl | ahead
    · exact still
    · exact awaited.waits first ahead

namespace Traced

variable {start : Console} {past : List LinkEvent}

theorem of_nothing (pending : start.client.pending = []) (answers : start.answers = []) :
    Traced start [] where
  waiting call waits := by
    change call ∈ start.client.pending at waits
    rw [pending] at waits
    cases waits
  answered call answer given := by
    change (call, answer) ∈ start.answers at given
    rw [answers] at given
    cases given

theorem step (traced : Traced start past) (ordered : (start.useAll past).CallsInOrder)
    {event : LinkEvent} (change : CallUse (start.useAll past) event) :
    Traced start (past ++ [event]) where
  waiting call waits opens := by
    have waitsNow := waits
    rw [useAll_concat] at waits
    rcases change.pending_cases waits with old | ⟨-, own⟩
    · obtain ⟨before, activation, between, inquiry, rfl, rfl, awaited⟩ :=
        traced.waiting call old opens
      rw [List.append_assoc, List.cons_append] at waitsNow ⊢
      exact ⟨before, activation, between ++ [event], inquiry, rfl, rfl, awaited.concat waitsNow⟩
    · obtain ⟨inquiry, made, rfl⟩ := own opens
      refine ⟨past, event, [], inquiry, rfl, rfl, made, fun first ahead => ?_⟩
      rw [List.prefix_nil.mp ahead]
      exact waitsNow
  answered call answer given opens := by
    rw [useAll_concat] at given
    rcases change.answers_cases ordered given with old | ⟨waited, replies⟩
    · obtain ⟨before, activation, waiting, reply, rest, inquiry, rfl, same, awaited, replied⟩ :=
        traced.answered call answer old opens
      refine ⟨before, activation, waiting, reply, rest ++ [event], inquiry, ?_, same, awaited,
        replied⟩
      simp
    · obtain ⟨before, activation, between, inquiry, rfl, same, awaited⟩ :=
        traced.waiting call waited opens
      refine ⟨before, activation, between, event, [], inquiry, ?_, same, awaited, replies⟩
      simp

theorem of_run {base : Console} (fresh : Fresh base) (settled : Settled base start)
    (reckoned : start.Reckoned) (pending : start.client.pending = [])
    (answers : start.answers = []) (past : List LinkEvent) : Traced start past := by
  induction past using List.reverseRecOn with
  | nil => exact .of_nothing pending answers
  | append_singleton past event inductionHypothesis =>
      obtain ⟨reached, reachedReckoned⟩ := useAll_settled fresh settled reckoned past
      exact inductionHypothesis.step reachedReckoned.ordered
        (use_settled fresh reached reachedReckoned event).2.2

end Traced

/-! ### Numbers -/

theorem Inquiry.call_injective {first second : Inquiry} (same : first.call = second.call) :
    first = second := by
  obtain ⟨number, ticket, resolver, link⟩ := first
  obtain ⟨other, otherTicket, otherResolver, otherLink⟩ := second
  simp only [Inquiry.call, PendingCall.mk.injEq, Waiter.opening.injEq] at same
  obtain ⟨rfl, -, rfl, rfl, rfl⟩ := same
  rfl

namespace Console

/-- A number has been given away, and nothing waits under it any more. -/
structure Spent (console : Console) (number : Nat) : Prop where
  given : number < console.client.nextId
  unawaited : ∀ call ∈ console.client.pending, call.id ≠ number
  unanswered : ∀ entry ∈ console.answers, entry.1.id ≠ number

section

variable {base console : Console} {event : LinkEvent}

theorem Spent.use {number : Nat} (spent : console.Spent number) (ordered : console.CallsInOrder)
    (change : CallUse console event) : (console.use event).Spent number where
  given := Nat.lt_of_lt_of_le spent.given change.nextId_le
  unawaited call waits := by
    rcases change.pending_cases waits with old | ⟨new, -⟩
    · exact spent.unawaited call old
    · exact new ▸ Nat.ne_of_gt spent.given
  unanswered entry given := by
    rcases change.answers_cases ordered given with old | ⟨waited, -⟩
    · exact spent.unanswered entry old
    · exact spent.unawaited entry.1 waited

/-- An answer that is gone on with leaves nothing under its number. -/
theorem spent_of_taken {after : Console} {call : PendingCall} {answer : Except Failure Json}
    (taken : Taken console call answer after) (reckoned : console.Reckoned) :
    after.Spent call.id := by
  have there : (call, answer) ∈ console.answers := taken.answers.mem_iff.mpr List.mem_cons_self
  have apart := (taken.answers.map fun entry => entry.1.id).nodup_iff.mp reckoned.distinct
  refine ⟨taken.nextId ▸ reckoned.ordered.answered _ there, fun other waits => ?_,
    fun entry given same => ?_⟩
  · rw [taken.pending] at waits
    exact (reckoned.ordered.apart other waits _ there).symm
  · exact (List.nodup_cons.mp apart).1 (List.mem_map.mpr ⟨entry, given, same⟩)

/-- Every inquiry is made under a number of its own, in the order of the activations. -/
theorem inquiries_increasing (fresh : Fresh base) (settled : Settled base console)
    (reckoned : console.Reckoned) (events : List LinkEvent) :
    ((console.notedIn inquiries events).map Inquiry.number).Pairwise (· < ·) ∧
      ∀ inquiry ∈ console.notedIn inquiries events, console.client.nextId ≤ inquiry.number := by
  induction events generalizing console with
  | nil => exact ⟨.nil, nofun⟩
  | cons event events inductionHypothesis =>
      obtain ⟨next, nextReckoned, change⟩ := use_settled fresh settled reckoned event
      obtain ⟨increasing, later⟩ := inductionHypothesis next nextReckoned
      rw [notedIn, inquiries]
      cases made : console.inquiry? event with
      | none =>
          exact ⟨increasing, fun inquiry member =>
            Nat.le_trans change.nextId_le (later inquiry member)⟩
      | some inquiry =>
          obtain ⟨placed, -⟩ := use_inquiry made
          have number : inquiry.number = console.client.nextId := placed.fresh
          have above (other : Inquiry)
              (member : other ∈ (console.use event).notedIn inquiries events) :
              inquiry.number < other.number := by
            have := later other member
            have := placed.nextId
            omega
          refine ⟨?_, fun other member => ?_⟩
          · rw [Option.toList_some, List.singleton_append, List.map_cons, List.pairwise_cons]
            refine ⟨fun other member => ?_, increasing⟩
            obtain ⟨found, later, rfl⟩ := List.mem_map.mp member
            exact above found later
          · rcases List.mem_cons.mp member with rfl | member
            · exact Nat.le_of_eq number.symm
            · exact number ▸ Nat.le_of_lt (above other member)

/-- A link is opened where the answer of its activation is gone on with, gives a path, and finds
the resolver at work. -/
theorem mem_openedLinks {opened : OpenedLink} (member : opened ∈ console.openedLinks event) :
    ∃ call, call.id = opened.inquiry.number ∧
      call.waiter = .opening opened.inquiry.activation.ticket opened.inquiry.activation.resolver
        opened.inquiry.activation.link ∧
      console.resumed? event = some (.resume call (.ok (.str opened.path))) ∧
      console.works opened.inquiry.activation.resolver = true := by
  rw [openedLinks, Option.mem_toList, Option.bind_eq_some_iff] at member
  obtain ⟨task, goesOn, opens⟩ := member
  unfold openedLink? at opens
  split at opens
  next number name ticket resolver link path =>
      rw [Option.ite_none_right_eq_some, Option.some.injEq] at opens
      obtain ⟨working, rfl⟩ := opens
      exact ⟨_, rfl, rfl, goesOn, working⟩
  next => cases opens

theorem length_openedLinks_le (console : Console) (event : LinkEvent) :
    (console.openedLinks event).length ≤ 1 := by
  rw [openedLinks]
  cases (console.resumed? event).bind console.openedLink? <;> simp

/-- No inquiry is opened twice. -/
theorem openedLinks_once (fresh : Fresh base) (settled : Settled base console)
    (reckoned : console.Reckoned) (events : List LinkEvent) :
    ((console.notedIn openedLinks events).map fun opened => opened.inquiry.number).Nodup ∧
      ∀ opened ∈ console.notedIn openedLinks events, ¬console.Spent opened.inquiry.number := by
  induction events generalizing console with
  | nil => exact ⟨.nil, nofun⟩
  | cons event events inductionHypothesis =>
      obtain ⟨next, nextReckoned, change⟩ := use_settled fresh settled reckoned event
      obtain ⟨once, later⟩ := inductionHypothesis next nextReckoned
      have unspent (opened : OpenedLink)
          (member : opened ∈ (console.use event).notedIn openedLinks events) :
          ¬console.Spent opened.inquiry.number :=
        fun spent => later opened member (spent.use reckoned.ordered change)
      rw [notedIn]
      rcases found : console.openedLinks event with _ | ⟨opened, rest⟩
      · exact ⟨once, unspent⟩
      · have short := console.length_openedLinks_le event
        obtain rfl : rest = [] := by
          rw [found, List.length_cons] at short
          exact List.length_eq_zero_iff.mp (by omega)
        have here : opened ∈ console.openedLinks event := found ▸ List.mem_cons_self
        obtain ⟨call, number, -, goesOn, -⟩ := mem_openedLinks here
        have taken := use_taken goesOn
        have spent : (console.use event).Spent opened.inquiry.number :=
          number ▸ spent_of_taken taken reckoned
        rw [List.singleton_append, List.map_cons]
        refine ⟨List.nodup_cons.mpr ⟨fun member => ?_, once⟩, fun other member => ?_⟩
        · obtain ⟨other, member, same⟩ := List.mem_map.mp member
          exact later other member (same ▸ spent)
        · rcases List.mem_cons.mp member with rfl | member
          · intro spentBefore
            exact spentBefore.unanswered _
              (taken.answers.mem_iff.mpr List.mem_cons_self) number
          · exact unspent other member

end

end Console

end RuntimeConsole
