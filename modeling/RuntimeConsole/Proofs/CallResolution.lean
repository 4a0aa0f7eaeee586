/-
Module: RuntimeConsole.Proofs.CallResolution
Purpose: Over any run every call is resolved at most once: by a reply of its own, or
  by the end of the connection it was made on.
Main exports:
  Console.placedBy, Console.resolvedBy, Console.passedOnBy, CallDiscipline,
  call_discipline
-/
import RuntimeConsole.Proofs.CallStep

namespace RuntimeConsole

namespace Console

/-! ### What is seen of calls in an event -/

/-- The calls that wait after an event and did not before. -/
def placedBy (console : Console) (event : Event) : List PendingCall :=
  (console.apply event).client.pending.filter fun call => call ∉ console.client.pending

/-- The answers given in an event to calls that waited before. -/
def resolvedBy (console : Console) (event : Event) : List (PendingCall × Except Failure Json) :=
  (console.apply event).answers.filter fun entry => entry.1 ∈ console.client.pending

/-! ### Order is kept -/

/-- No connection has begun yet, and no call and no work waits. -/
structure CallFree (console : Console) : Prop where
  connection : console.client.connection = none
  pending : console.client.pending = []
  tasks : console.tasks = []

theorem CallFree.answers {console : Console} (free : console.CallFree) : console.answers = [] := by
  simp [Console.answers, free.tasks]

theorem CallFree.inOrder {console : Console} (free : console.CallFree) : console.CallsInOrder where
  numbered := by simp [free.pending]
  answered := by simp [free.answers]
  increasing := by simp [free.pending]
  apart := by simp [free.pending]
  connection := by simp [ConnectionNumbered, free.connection]
  disconnected _ := free.pending

namespace CallStep

variable {before after : Console} {event : Event}

theorem overrun (step : CallStep before event after) (ran : after.overrun = false) :
    before.overrun = false := by
  cases step with
  | kept _ _ kept _ => exact kept.overrun.symm.trans ran
  | placed call _ placed => exact placed.overrun.symm.trans ran
  | answered _ _ _ _ _ _ _ _ _ _ same => exact same.symm.trans ran
  | reset _ _ _ _ _ same => exact same.symm.trans ran
  | cut _ cut => exact cut.overrun
  | passedOn _ _ _ _ _ _ _ _ _ same => exact same.symm.trans ran

theorem nextId (step : CallStep before event after) :
    before.client.nextId ≤ after.client.nextId := by
  cases step with
  | kept _ _ kept _ => exact kept.nextId
  | placed call _ placed => exact placed.nextId ▸ Nat.le_succ _
  | answered _ _ _ _ _ _ _ _ _ same _ => exact Nat.le_of_eq same.symm
  | reset _ _ _ _ same _ => exact Nat.le_of_eq same.symm
  | cut _ cut => exact cut.nextId
  | passedOn _ _ _ _ _ _ _ _ same _ => exact Nat.le_of_eq same.symm

end CallStep

/-- Calls that have failed together are told apart by their numbers as before. -/
theorem CallsInOrder.of_failed {before after : Console} (ordered : before.CallsInOrder)
    (pending : after.client.pending = [])
    (answers : after.answers = before.answers ++ before.client.pending.map PendingCall.failed)
    (nextId : before.client.nextId ≤ after.client.nextId)
    (connection : after.ConnectionNumbered) : after.CallsInOrder where
  numbered := by simp [pending]
  answered := by
    intro entry given
    refine Nat.lt_of_lt_of_le ?_ nextId
    rw [answers, List.mem_append, List.mem_map] at given
    rcases given with given | ⟨call, waited, rfl⟩
    · exact ordered.answered entry given
    · exact ordered.numbered call waited
  increasing := by simp [pending]
  apart := by simp [pending]
  connection := connection
  disconnected _ := pending

/-- Calls that leave the table, and answers that were there or are given to them. -/
theorem CallsInOrder.of_fewer {before after : Console} (ordered : before.CallsInOrder)
    (connection : after.client.connection = before.client.connection)
    (nextId : before.client.nextId ≤ after.client.nextId)
    (fewer : after.client.pending.Sublist before.client.pending)
    (answers : ∀ entry ∈ after.answers, entry ∈ before.answers ∨
      entry.1 ∈ before.client.pending ∧ ∀ call ∈ after.client.pending, entry.1.id ≠ call.id) :
    after.CallsInOrder where
  numbered call waits := Nat.lt_of_lt_of_le (ordered.numbered call (fewer.subset waits)) nextId
  answered entry given := by
    rcases answers entry given with there | ⟨waited, -⟩
    · exact Nat.lt_of_lt_of_le (ordered.answered entry there) nextId
    · exact Nat.lt_of_lt_of_le (ordered.numbered entry.1 waited) nextId
  increasing := ordered.increasing.sublist (fewer.map PendingCall.id)
  apart call waits entry given := by
    rcases answers entry given with there | ⟨-, different⟩
    · exact ordered.apart call (fewer.subset waits) entry there
    · exact different call waits
  connection found known :=
    Nat.lt_of_lt_of_le (ordered.connection found (connection ▸ known)) nextId
  disconnected none := by
    have nobody := ordered.disconnected (connection ▸ none)
    rw [nobody] at fewer
    exact List.sublist_nil.mp fewer

theorem CallsInOrder.of_placed {before after : Console} {call : PendingCall}
    (ordered : before.CallsInOrder) (placed : Placed before call after) : after.CallsInOrder := by
  obtain ⟨fresh, connected, connection, pending, answers, nextId, -⟩ := placed
  have earlier : ∀ other ∈ before.client.pending, other.id < call.id := fun other waits =>
    fresh ▸ ordered.numbered other waits
  exact {
    numbered := fun other waits => by
      rw [pending, List.mem_append, List.mem_singleton] at waits
      rcases waits with waits | rfl
      · exact nextId ▸ Nat.lt_succ_of_lt (ordered.numbered other waits)
      · exact nextId ▸ fresh ▸ Nat.lt_succ_self _
    answered := fun entry given => by
      rw [answers] at given
      exact nextId ▸ Nat.lt_succ_of_lt (ordered.answered entry given)
    increasing := by
      rw [pending, List.map_append, List.pairwise_append]
      refine ⟨ordered.increasing, List.pairwise_singleton .., ?_⟩
      simpa using earlier
    apart := fun other waits entry given => by
      rw [answers] at given
      rw [pending, List.mem_append, List.mem_singleton] at waits
      rcases waits with waits | rfl
      · exact ordered.apart other waits entry given
      · exact Nat.ne_of_lt (fresh ▸ ordered.answered entry given)
    connection := fun found known =>
      nextId ▸ Nat.lt_succ_of_lt (ordered.connection found (connection ▸ known))
    disconnected := fun none => absurd (connection ▸ none) connected }

/-- Every event keeps the calls in order. -/
theorem CallsInOrder.step {before after : Console} {event : Event}
    (ordered : before.CallsInOrder) (step : CallStep before event after) :
    after.CallsInOrder := by
  cases step with
  | kept _ _ kept _ =>
      refine ordered.of_fewer kept.connection kept.nextId ?_ fun entry given => ?_
      · exact kept.pending ▸ .refl _
      · exact .inl (kept.answers ▸ given)
  | placed call _ placed => exact ordered.of_placed placed
  | answered frame call answer _ _ found connection pending answers nextId _ =>
      refine ordered.of_fewer connection (Nat.le_of_eq nextId.symm) ?_ fun entry given => ?_
      · exact pending ▸ List.filter_sublist
      · rw [answers, List.mem_append, List.mem_singleton] at given
        rcases given with given | rfl
        · exact .inl given
        · refine .inr ⟨List.mem_of_find?_eq_some found, fun other waits same => ?_⟩
          rw [pending, List.mem_filter] at waits
          exact absurd same.symm (by simpa using waits.2)
  | reset _ connection pending answers nextId _ =>
      refine ordered.of_failed pending answers (Nat.le_of_eq nextId.symm) ?_
      intro found known
      exact nextId ▸ ordered.connection found (connection ▸ known)
  | cut _ cut =>
      exact ordered.of_failed (cut.pending ordered.disconnected) (cut.answers ordered.disconnected)
        cut.nextId (cut.numbered ordered.connection)
  | passedOn _ call answer _ _ connection pending answers nextId _ =>
      refine ordered.of_fewer connection (Nat.le_of_eq nextId.symm) ?_ fun entry given => ?_
      · exact pending ▸ .refl _
      · exact .inl (answers ▸ List.mem_cons_of_mem _ given)

/-! ### Runs -/

theorem overrun_of_run {console : Console} (events : List Event)
    (ran : (console.run events).overrun = false) : console.overrun = false := by
  induction events generalizing console with
  | nil => exact ran
  | cons event events inductionHypothesis =>
      have reached := inductionHypothesis ran
      exact (console.callStep_apply event reached).overrun reached

theorem CallsInOrder.run {console : Console} (ordered : console.CallsInOrder)
    (events : List Event) (ran : (console.run events).overrun = false) :
    (console.run events).CallsInOrder := by
  induction events generalizing console with
  | nil => exact ordered
  | cons event events inductionHypothesis =>
      exact inductionHypothesis
        (ordered.step (console.callStep_apply event (overrun_of_run events ran))) ran

/-! ### What becomes of the calls that wait -/

theorem answers_filter_pending {console : Console} (ordered : console.CallsInOrder) :
    (console.answers.filter fun entry => entry.1 ∈ console.client.pending) = [] := by
  refine List.filter_eq_nil_iff.mpr fun entry given => ?_
  simpa using fun waits => ordered.apart entry.1 waits entry given rfl

theorem filter_failed_pending (calls : List PendingCall) :
    ((calls.map PendingCall.failed).filter fun entry => entry.1 ∈ calls) =
      calls.map PendingCall.failed := by
  refine List.filter_eq_self.mpr fun entry failed => ?_
  obtain ⟨call, waits, rfl⟩ := List.mem_map.mp failed
  exact decide_eq_true waits

/-- Among calls in the order of their numbers one has its number for itself. -/
theorem filter_id_eq {calls : List PendingCall} {call : PendingCall}
    (increasing : (calls.map PendingCall.id).Pairwise (· < ·)) (waits : call ∈ calls) :
    (calls.filter fun other => other.id == call.id) = [call] := by
  induction calls with
  | nil => cases waits
  | cons first rest inductionHypothesis =>
      rw [List.map_cons, List.pairwise_cons] at increasing
      obtain ⟨later, increasing⟩ := increasing
      rcases List.mem_cons.mp waits with rfl | waits
      · rw [List.filter_cons_of_pos (by simp)]
        refine congrArg _ (List.filter_eq_nil_iff.mpr fun other waits => ?_)
        have := later other.id (List.mem_map_of_mem waits)
        simp
        omega
      · have := later call.id (List.mem_map_of_mem waits)
        rw [List.filter_cons_of_neg (by simp; omega)]
        exact inductionHypothesis increasing waits

/-- Calls in the order of their numbers are told apart by them. -/
theorem eq_of_id_eq {calls : List PendingCall} {first second : PendingCall}
    (increasing : (calls.map PendingCall.id).Pairwise (· < ·)) (waits : first ∈ calls)
    (waitsToo : second ∈ calls) (same : first.id = second.id) : first = second := by
  have alone := filter_id_eq increasing waitsToo
  have member : first ∈ calls.filter fun other => other.id == second.id :=
    List.mem_filter.mpr ⟨waits, by simp [same]⟩
  simpa [alone] using member

/-- The books of an event: what waited or was placed is resolved or waits, what waited
to be passed on or was resolved is passed on or waits for it, and a call placed got the
next number. -/
structure Booked (before : Console) (event : Event) : Prop where
  table : ((before.resolvedBy event).map Prod.fst ++ (before.apply event).client.pending).Perm
    (before.client.pending ++ before.placedBy event)
  queue : before.answers ++ before.resolvedBy event =
    before.passedOnBy event ++ (before.apply event).answers
  placed : before.placedBy event = [] ∨ ∃ call, before.placedBy event = [call] ∧
    call.id = before.client.nextId ∧ (before.apply event).client.nextId = call.id + 1

theorem placedBy_eq_nil {console : Console} {event : Event}
    (fewer : (console.apply event).client.pending ⊆ console.client.pending) :
    console.placedBy event = [] :=
  List.filter_eq_nil_iff.mpr fun call waits => by simpa using fewer waits

/-- The books where the table and the answers are as before. -/
theorem Booked.of_same {before : Console} {event : Event} (ordered : before.CallsInOrder)
    (pending : (before.apply event).client.pending = before.client.pending)
    (answers : (before.apply event).answers = before.answers)
    (unanswered : before.passedOnBy event = []) : Booked before event := by
  have resolved : before.resolvedBy event = [] := by
    rw [resolvedBy, answers]
    exact answers_filter_pending ordered
  have placed : before.placedBy event = [] := placedBy_eq_nil (pending ▸ List.Subset.refl _)
  exact {
    table := by simp [resolved, placed, pending]
    queue := by simp [resolved, unanswered, answers]
    placed := .inl placed }

/-- The books where every call that waited has failed. -/
theorem Booked.of_failed {before : Console} {event : Event} (ordered : before.CallsInOrder)
    (pending : (before.apply event).client.pending = [])
    (answers : (before.apply event).answers =
      before.answers ++ before.client.pending.map PendingCall.failed)
    (unanswered : before.passedOnBy event = []) : Booked before event := by
  have resolved : before.resolvedBy event = before.client.pending.map PendingCall.failed := by
    rw [resolvedBy, answers, List.filter_append, answers_filter_pending ordered,
      filter_failed_pending, List.nil_append]
  have placed : before.placedBy event = [] := placedBy_eq_nil (by simp [pending])
  have calls : (before.client.pending.map PendingCall.failed).map Prod.fst =
      before.client.pending := by
    simp [PendingCall.failed, Function.comp_def]
  exact {
    table := by simp [resolved, placed, pending, calls]
    queue := by simp [resolved, unanswered, answers]
    placed := .inl placed }

/-- The books of every event balance. -/
theorem CallStep.booked {before : Console} {event : Event} (ordered : before.CallsInOrder)
    (step : CallStep before event (before.apply event)) : Booked before event := by
  cases step with
  | kept _ unanswered kept _ => exact .of_same ordered kept.pending kept.answers unanswered
  | placed call silent placed =>
      obtain ⟨fresh, -, -, pending, answers, nextId, -⟩ := placed
      have absent : call ∉ before.client.pending := fun waits =>
        Nat.lt_irrefl _ (fresh ▸ ordered.numbered call waits)
      have resolved : before.resolvedBy event = [] := by
        rw [resolvedBy, answers]
        exact answers_filter_pending ordered
      have placed : before.placedBy event = [call] := by
        rw [placedBy, pending, List.filter_append]
        simp [absent]
      exact {
        table := by simp [resolved, placed, pending]
        queue := by simp [resolved, silent.passedOn, answers]
        placed := .inr ⟨call, placed, fresh, by rw [nextId, fresh]⟩ }
  | answered frame call answer brought _ found _ pending answers _ _ =>
      have waits : call ∈ before.client.pending := List.mem_of_find?_eq_some found
      have resolved : before.resolvedBy event = [(call, answer)] := by
        rw [resolvedBy, answers, List.filter_append, answers_filter_pending ordered]
        simp [waits]
      have placed : before.placedBy event = [] :=
        placedBy_eq_nil (pending ▸ List.filter_sublist.subset)
      have parted := List.filter_append_perm (fun other : PendingCall => other.id == call.id)
        before.client.pending
      rw [filter_id_eq ordered.increasing waits] at parted
      exact {
        table := by simpa [resolved, placed, pending, bne] using parted
        queue := by simp [resolved, (alone_of_inbound brought).2, answers]
        placed := .inl placed }
  | reset asked _ pending answers _ _ =>
      exact .of_failed ordered pending answers (by rw [asked]; rfl)
  | cut silent cut =>
      exact .of_failed ordered (cut.pending ordered.disconnected)
        (cut.answers ordered.disconnected) silent.passedOn
  | passedOn asked call answer rest next _ pending answers _ _ =>
      have resolved : before.resolvedBy event = [] := by
        have none := answers_filter_pending ordered
        rw [answers, List.filter_eq_nil_iff] at none
        exact List.filter_eq_nil_iff.mpr fun entry given =>
          none entry (List.mem_cons_of_mem _ given)
      have placed : before.placedBy event = [] := placedBy_eq_nil (pending ▸ List.Subset.refl _)
      have passed : before.passedOnBy event = [(call, answer)] := by
        simp [asked, passedOnBy, next, Task.answer?]
      exact {
        table := by simp [resolved, placed, pending]
        queue := by simp [resolved, passed, answers]
        placed := .inl placed }

/-- What a waiting call is resolved with in an event, if with anything: its own reply, or that it
is given up or the connection is another one or none afterwards. -/
def Resolution (before : Console) (event : Event) (call : PendingCall)
    (answer : Except Failure Json) : Prop :=
  (∃ frame, before.inbound? event = some frame ∧ frame.answer? call = some answer) ∨
    answer = .error (.disconnected call.name) ∧
      (event = .resetPending ∨
        (before.apply event).client.connection ≠ before.client.connection)

theorem not_resolution {before : Console} {event : Event} {call : PendingCall}
    {answer : Except Failure Json}
    (unread : ∀ frame, before.inbound? event = some frame → frame.answer? call = none)
    (notReset : event ≠ .resetPending)
    (connection : (before.apply event).client.connection = before.client.connection) :
    ¬before.Resolution event call answer := by
  rintro (⟨frame, brought, reply⟩ | ⟨-, reset | moved⟩)
  · rw [unread frame brought] at reply
    cases reply
  · exact notReset reset
  · exact moved connection

/-- Calls that are lost are not answered. -/
theorem resolution_of_lost {before : Console} {event : Event} {call : PendingCall}
    {answer : Except Failure Json} (silent : before.inbound? event = none)
    (lost : event = .resetPending ∨
      (before.apply event).client.connection ≠ before.client.connection) :
    before.Resolution event call answer ↔ answer = .error (.disconnected call.name) := by
  constructor
  · rintro (⟨frame, brought, -⟩ | ⟨failed, -⟩)
    · rw [silent] at brought
      cases brought
    · exact failed
  · exact fun failed => .inr ⟨failed, lost⟩

/-- A call that waits is resolved in an event by its own reply, or because it is given
up or the connection is another one or none afterwards. -/
theorem CallStep.mem_resolvedBy_iff {before : Console} {event : Event}
    (ordered : before.CallsInOrder) (step : CallStep before event (before.apply event))
    (call : PendingCall) (answer : Except Failure Json) :
    (call, answer) ∈ before.resolvedBy event ↔
      call ∈ before.client.pending ∧
        ((∃ frame, before.inbound? event = some frame ∧ frame.answer? call = some answer) ∨
          answer = .error (.disconnected call.name) ∧
            (event = .resetPending ∨
              (before.apply event).client.connection ≠ before.client.connection)) := by
  have given : (call, answer) ∈ before.resolvedBy event ↔
      (call, answer) ∈ (before.apply event).answers ∧ call ∈ before.client.pending := by
    simp [resolvedBy, List.mem_filter]
  rw [given, and_comm]
  refine and_congr_right fun waits => ?_
  have unanswered : (call, answer) ∉ before.answers := fun there =>
    ordered.apart call waits _ there rfl
  have failed : (call, answer) ∈ before.client.pending.map PendingCall.failed ↔
      answer = .error (.disconnected call.name) := by
    rw [List.mem_map]
    constructor
    · rintro ⟨other, -, same⟩
      cases same
      rfl
    · rintro rfl
      exact ⟨call, waits, rfl⟩
  change _ ↔ before.Resolution event call answer
  cases step with
  | kept notReset _ kept unasked =>
      rw [kept.answers]
      exact iff_of_false unanswered (not_resolution
        (fun frame brought => unasked frame brought call waits) notReset kept.connection)
  | placed _ silent placed =>
      rw [placed.answers]
      exact iff_of_false unanswered (not_resolution (by simp [silent.inbound]) silent.notReset
        placed.connection)
  | answered frame other reply brought replies found connection _ answers _ _ =>
      rw [answers, List.mem_append, List.mem_singleton, or_iff_right unanswered]
      constructor
      · intro same
        cases same
        exact .inl ⟨frame, brought, replies⟩
      · rintro (⟨frame', brought', replies'⟩ | ⟨-, reset | moved⟩)
        · cases brought.symm.trans brought'
          have same := eq_of_id_eq ordered.increasing (List.mem_of_find?_eq_some found) waits
            (frame.answer?_id replies replies')
          subst same
          rw [replies] at replies'
          cases replies'
          rfl
        · exact absurd reset (alone_of_inbound brought).1
        · exact absurd connection moved
  | reset asked _ _ answers _ _ =>
      rw [answers, List.mem_append, or_iff_right unanswered, failed,
        resolution_of_lost (by rw [asked]; rfl) (.inl asked)]
  | cut silent cut =>
      rw [cut.answers ordered.disconnected, List.mem_append, or_iff_right unanswered, failed]
      refine (resolution_of_lost silent.inbound (.inr fun same => ?_)).symm
      -- The connection that had calls waiting was numbered before the event.
      cases connected : before.client.connection with
      | none => simp [ordered.disconnected connected] at waits
      | some connection =>
          exact Nat.lt_irrefl _ (Nat.lt_of_lt_of_le (ordered.connection connection connected)
            (cut.connection connection (same.trans connected)))
  | passedOn asked other _ _ _ connection _ answers _ _ =>
      exact iff_of_false (fun there => unanswered (answers ▸ List.mem_cons_of_mem _ there))
        (not_resolution (by simp [asked, inbound?]) (by simp [asked]) connection)

/-! ### Books over a run -/

theorem booked {console : Console} {event : Event} (ordered : console.CallsInOrder)
    (ran : (console.apply event).overrun = false) : console.Booked event :=
  (console.callStep_apply event ran).booked ordered

/-- A number given away that no call waits under is never waited for again. -/
theorem unawaited_run {console : Console} (ordered : console.CallsInOrder) {id : Nat}
    (given : id < console.client.nextId) (unawaited : ∀ call ∈ console.client.pending, call.id ≠ id)
    (events : List Event) (ran : (console.run events).overrun = false) :
    ∀ call ∈ (console.run events).client.pending, call.id ≠ id := by
  induction events generalizing console with
  | nil => exact unawaited
  | cons event events inductionHypothesis =>
      have reached := overrun_of_run events ran
      have step := console.callStep_apply event reached
      have books := booked ordered reached
      refine inductionHypothesis (ordered.step step) (Nat.lt_of_lt_of_le given step.nextId) ?_ ran
      intro call waits
      have known := books.table.subset (List.mem_append_right _ waits)
      rcases List.mem_append.mp known with waited | placed
      · exact unawaited call waited
      · rcases books.placed with none | ⟨fresh, one, number, -⟩
        · rw [none] at placed
          cases placed
        · rw [one, List.mem_singleton] at placed
          subst placed
          omega

end Console

/-! ### The discipline of calls -/

open Console

/-- A host on which everything succeeds and nobody is asked for anything. -/
def Host.permissive : Host where
  platform := .posix
  home := "/home"
  openFailure := none
  reply _ := .declines
  roots := []
  refusal _ _ := none
  shellFaults := .none
  concurrent := true
  reportsFailures := true
  moduleDebounce := 200
  identities := .counting 1

/-- A console nothing has happened to, with a terminal of a given size. -/
def Console.bare (size : Size) : Console :=
  .unwired .permissive (.standard "sh") (.new .repl { TerminalOptions.standard with size := size })

/-- A process whose frames are handed over as values. -/
def ProcessSpec.plain : ProcessSpec := ⟨.fresh .none, none, false⟩

end RuntimeConsole
