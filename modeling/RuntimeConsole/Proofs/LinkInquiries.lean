/-
Module: RuntimeConsole.Proofs.LinkInquiries
Purpose: What an event does to the calls where links are activated while other things happen: an
  activation asks the runtime under a number of its own, and an answer that has come in is gone on
  with once, whenever its turn comes.
Main exports:
  Console.inquiry?, Replies, CallUse, Console.callUse_use, Console.Reckoned
-/
import RuntimeConsole.Console.LinkUse
import RuntimeConsole.Proofs.ConsoleUpkeep
import RuntimeConsole.Proofs.StaleQuestions

namespace RuntimeConsole

/-- Whether somebody activates a link in an event, be there one or not. -/
def LinkEvent.activating : LinkEvent → Bool
  | .activates .. | .activatesAt .. | .happens (.openLink ..) => true
  | .happens _ | .resumes _ => false

/-- Whether a call is made to open a link. -/
def PendingCall.opens (call : PendingCall) : Bool :=
  match call.waiter with
  | .opening .. => true
  | .validation .. | .guest .. => false

namespace Console

/-- The inquiry that is made in an event: an activation asks if its resolver works and somebody
takes what is said to the runtime. -/
def inquiry? (console : Console) (event : LinkEvent) : Option Inquiry :=
  (console.activation? event).bind fun activation =>
    if console.works activation.resolver && console.takesFrames then
      some ⟨console.client.nextId, activation⟩
    else none

/-- The frame of the runtime an event brings in, if it brings one. -/
def inboundFrame? (console : Console) : LinkEvent → Option Frame
  | .happens event => console.inbound? event
  | _ => none

section

variable {console : Console} {event : LinkEvent}

theorem inquiry?_eq_some_iff {inquiry : Inquiry} :
    console.inquiry? event = some inquiry ↔
      console.activation? event = some inquiry.activation ∧
        console.works inquiry.activation.resolver = true ∧ console.takesFrames = true ∧
          inquiry.number = console.client.nextId := by
  obtain ⟨number, activation⟩ := inquiry
  simp only [inquiry?, Option.bind_eq_some_iff, Option.ite_none_right_eq_some, Bool.and_eq_true,
    Option.some.injEq, Inquiry.mk.injEq]
  constructor
  · rintro ⟨found, known, ⟨working, takes⟩, rfl, rfl⟩
    exact ⟨known, working, takes, rfl⟩
  · rintro ⟨known, working, takes, rfl⟩
    exact ⟨activation, known, ⟨working, takes⟩, rfl, rfl⟩

/-! ### Activations -/

theorem activateAt_of_activation {ticket resolver : Nat} {position : Position}
    {activation : Activation}
    (known : console.activationAt? ticket resolver position = some activation) :
    console.activateAt ticket resolver position =
      console.activateLink activation.ticket activation.resolver activation.link := by
  rw [activationAt?, Option.map_eq_some_iff] at known
  obtain ⟨link, found, rfl⟩ := known
  rw [activateAt, found]

theorem activateAt_of_none {ticket resolver : Nat} {position : Position}
    (nothing : console.activationAt? ticket resolver position = none) :
    console.activateAt ticket resolver position = console.finish ticket (.linkOpened false) := by
  rw [activationAt?, Option.map_eq_none_iff] at nothing
  rw [activateAt, nothing]

/-- However a link is activated, it is activated through a resolver. -/
theorem use_of_activation {activation : Activation}
    (known : console.activation? event = some activation) :
    console.use event =
      console.activateLink activation.ticket activation.resolver activation.link := by
  cases event with
  | activates ticket resolver link =>
      cases known
      rfl
  | activatesAt ticket resolver position => exact activateAt_of_activation known
  | resumes place => cases known
  | happens event =>
      cases event with
      | openLink ticket position =>
          obtain ⟨resolver, current, found⟩ := Option.bind_eq_some_iff.mp known
          change console.openLink ticket position = _
          rw [openLink, current]
          exact activateAt_of_activation found
      | _ => cases known

/-- Where there is no link to be activated, that is the outcome. -/
theorem use_of_no_activation (activating : event.activating = true)
    (nothing : console.activation? event = none) :
    ∃ ticket, console.use event = console.finish ticket (.linkOpened false) := by
  cases event with
  | activates ticket resolver link => cases nothing
  | activatesAt ticket resolver position => exact ⟨ticket, activateAt_of_none nothing⟩
  | resumes place => cases activating
  | happens event =>
      cases event with
      | openLink ticket position =>
          refine ⟨ticket, ?_⟩
          change console.openLink ticket position = _
          unfold openLink
          cases current : console.session.cycle.resolver with
          | none => rfl
          | some resolver =>
              rw [activation?, current] at nothing
              exact activateAt_of_none nothing
      | _ => cases activating

theorem activateLink_working {ticket resolver : Nat} (link : LinkMatch)
    (working : console.works resolver = true) :
    console.activateLink ticket resolver link =
      console.call "fullpath" [.str link.path] (.opening ticket resolver link) :=
  if_pos working

theorem activateLink_ended {ticket resolver : Nat} (link : LinkMatch)
    (ended : console.works resolver = false) :
    console.activateLink ticket resolver link = console.finish ticket (.linkOpened false) :=
  if_neg (ne_true_of_eq_false ended)

end

end Console

open Console

/-- An answer is given to a call in an event: a frame brings it, or the call is given up because
the connection ends or its calls are reset. -/
def Replies (console : Console) (event : LinkEvent) (call : PendingCall)
    (answer : Except Failure Json) : Prop :=
  (∃ frame, console.inboundFrame? event = some frame ∧ frame.answer? call = some answer) ∨
    answer = .error (.disconnected call.name) ∧
      (event = .happens .resetPending ∨
        (console.use event).client.connection ≠ console.client.connection)

/-- An answer that waits has been taken to be gone on with. -/
structure Taken (before : Console) (call : PendingCall) (answer : Except Failure Json)
    (after : Console) : Prop where
  connection : after.client.connection = before.client.connection
  pending : after.client.pending = before.client.pending
  answers : before.answers.Perm ((call, answer) :: after.answers)
  nextId : after.client.nextId = before.client.nextId

/-- What an event does to the calls. -/
inductive CallUse (before : Console) (event : LinkEvent) : Prop where
  | kept (kept : Kept before (before.use event))
  /-- A call is placed; if it is to open a link, it is the inquiry of an activation. -/
  | placed (call : PendingCall) (placed : Placed before call (before.use event))
      (own : call.opens = true →
        ∃ inquiry, before.inquiry? event = some inquiry ∧ inquiry.call = call)
  /-- An answer is gone on with. -/
  | taken (call : PendingCall) (answer : Except Failure Json)
      (goesOn : before.resumed? event = some (.resume call answer))
      (taken : Taken before call answer (before.use event))
  /-- Nobody calls, but calls that wait may be answered. -/
  | answers (happened : Event) (same : event = .happens happened)
      (quiet : happened.calls = false) (step : CallStep before happened (before.apply happened))
      (fewer : (before.apply happened).client.pending ⊆ before.client.pending)

namespace Console

/-! ### Events that call -/

/-- An inquiry is said to the runtime, and its call waits. -/
theorem use_inquiry {console : Console} {event : LinkEvent} {inquiry : Inquiry}
    (made : console.inquiry? event = some inquiry) :
    Placed console inquiry.call (console.use event) ∧
      Says [inquiry.frame] console (console.use event) := by
  obtain ⟨known, working, takes, number⟩ := inquiry?_eq_some_iff.mp made
  have reached := use_of_activation known
  rw [activateLink_working _ working] at reached
  rw [reached, Inquiry.call, Inquiry.frame, number]
  exact ⟨console.call_leaves _ _ _ takes, console.call_speech _ _ _⟩

theorem callUse_of_activating (console : Console) {event : LinkEvent}
    (activating : event.activating = true) : CallUse console event := by
  cases known : console.activation? event with
  | none =>
      obtain ⟨ticket, reached⟩ := use_of_no_activation activating known
      exact .kept (reached ▸ .of_changes (console.finish_changes ticket _) (by decide))
  | some activation =>
      cases working : console.works activation.resolver with
      | false =>
          have reached := use_of_activation known
          rw [activateLink_ended _ working] at reached
          exact .kept (reached ▸ .of_changes (console.finish_changes _ _) (by decide))
      | true =>
          cases takes : console.takesFrames with
          | false =>
              have reached := use_of_activation known
              rw [activateLink_working _ working] at reached
              exact .kept (reached ▸ console.call_kept _ _ _ takes)
          | true =>
              have made : console.inquiry? event = some ⟨console.client.nextId, activation⟩ :=
                inquiry?_eq_some_iff.mpr ⟨known, working, takes, rfl⟩
              exact .placed _ (use_inquiry made).1 fun _ => ⟨_, made, rfl⟩

/-! ### Work that is gone on with -/

theorem filterMap_eraseIdx_of_none {Item Note : Type} {pick : Item → Option Note}
    {items : List Item} {place : Nat} {item : Item} (found : items[place]? = some item)
    (nothing : pick item = none) :
    (items.eraseIdx place).filterMap pick = items.filterMap pick := by
  induction items generalizing place with
  | nil => cases found
  | cons first items inductionHypothesis =>
      cases place with
      | zero =>
          obtain rfl : first = item := Option.some.inj found
          rw [List.eraseIdx_cons_zero, List.filterMap_cons_none nothing]
      | succ place =>
          rw [List.eraseIdx_cons_succ, List.filterMap_cons, List.filterMap_cons,
            inductionHypothesis found]

/-- A task that passes no answer on may call, but not to open a link. -/
theorem runTask_calls (console : Console) {task : Task} (noAnswer : task.answer? = none) :
    Kept console (console.runTask task) ∨
      ∃ call, call.opens = false ∧ Placed console call (console.runTask task) := by
  cases task with
  | validate resolver row generation link =>
      rcases console.call_keptOrPlaced "validatepath" [.str link.text]
        (.validation resolver row generation link) with kept | placed
      · exact .inl kept
      · exact .inr ⟨_, rfl, placed⟩
  | resume call answer => cases noAnswer
  | chosen errand choice =>
      exact .inl (.of_changes (console.resumeErrand_changes choice errand) (by decide))

/-- Work that is gone on with is taken from what has been put off. -/
theorem use_of_resumed {console : Console} {event : LinkEvent} {task : Task}
    (goesOn : console.resumed? event = some task) :
    ∃ place, console.tasks[place]? = some task ∧
      console.use event = { console with tasks := console.tasks.eraseIdx place }.runTask task := by
  have resumed {place : Nat} (found : console.tasks[place]? = some task)
      (reached : console.use event = console.resumeTask place) :
      console.use event = { console with tasks := console.tasks.eraseIdx place }.runTask task := by
    rw [reached, resumeTask, found]
  cases event with
  | resumes place => exact ⟨place, goesOn, resumed goesOn rfl⟩
  | happens event =>
      cases event with
      | work step =>
          cases step with
          | task => exact ⟨0, goesOn, resumed goesOn console.runOldest_eq⟩
          | _ => cases goesOn
      | _ => cases goesOn
  | _ => cases goesOn

theorem use_taken {console : Console} {event : LinkEvent} {call : PendingCall}
    {answer : Except Failure Json} (goesOn : console.resumed? event = some (.resume call answer)) :
    Taken console call answer (console.use event) := by
  obtain ⟨place, found, reached⟩ := use_of_resumed goesOn
  have step := deliver_changes { console with tasks := console.tasks.eraseIdx place } answer
    call.waiter
  have left : (runTask { console with tasks := console.tasks.eraseIdx place }
      (.resume call answer)).answers = (console.tasks.eraseIdx place).filterMap Task.answer? :=
    step.same .answers (by decide)
  rw [reached]
  exact {
    connection := step.same .connection (by decide)
    pending := step.same .pending (by decide)
    answers := left ▸ (perm_cons_eraseIdx found).filterMap Task.answer?
    nextId := step.same .nextId (by decide) }

theorem callUse_of_resumed {console : Console} {event : LinkEvent} {task : Task}
    (goesOn : console.resumed? event = some task) : CallUse console event := by
  cases answers : task.answer? with
  | none =>
      obtain ⟨place, found, reached⟩ := use_of_resumed goesOn
      have same : { console with tasks := console.tasks.eraseIdx place }.answers =
          console.answers := filterMap_eraseIdx_of_none found answers
      have left : Kept console { console with tasks := console.tasks.eraseIdx place } :=
        ⟨rfl, rfl, same, Nat.le_refl _, rfl⟩
      rcases runTask_calls { console with tasks := console.tasks.eraseIdx place } answers with
        kept | ⟨call, other, placed⟩
      · exact .kept (reached ▸ left.trans kept)
      · refine .placed call (reached ▸ ?_) fun opens => ?_
        · exact ⟨placed.fresh, placed.connected, placed.connection, placed.pending,
            placed.answers.trans same, placed.nextId, placed.overrun⟩
        · rw [other] at opens
          cases opens
  | some entry =>
      cases task with
      | resume call answer => exact .taken call answer goesOn (use_taken goesOn)
      | _ => cases answers

/-! ### Events that do not call -/

theorem handleFrame_fewer (console : Console) (frame : Frame) :
    (console.handleFrame frame).client.pending ⊆ console.client.pending := by
  cases console.handleFrame_callStep (.frame frame) frame rfl with
  | kept _ _ kept _ => exact kept.pending ▸ List.Subset.refl _
  | placed call silent placed => cases silent.inbound
  | answered _ _ _ _ _ _ _ pending _ _ _ => exact pending ▸ List.filter_sublist.subset
  | reset asked => cases asked
  | cut silent cut => cases silent.inbound
  | passedOn asked => cases asked

theorem KeptOrCut.fewer {before after : Console} (step : KeptOrCut before after)
    (disconnected : before.client.connection = none → before.client.pending = []) :
    after.client.pending ⊆ before.client.pending := by
  rcases step with kept | cut
  · exact kept.pending ▸ List.Subset.refl _
  · rw [cut.pending disconnected]
    exact List.nil_subset _

/-- Where nobody calls, no call comes to those that wait. -/
theorem apply_fewer {console : Console} (ordered : console.CallsInOrder) {event : Event}
    (quiet : event.calls = false) (ran : (console.apply event).overrun = false) :
    (console.apply event).client.pending ⊆ console.client.pending := by
  have unchanged {aspects : List Aspect} {after : Console} (step : Changes aspects console after)
      (apart : Aspect.pending ∉ aspects) : after.client.pending ⊆ console.client.pending := by
    have same : after.client.pending = console.client.pending := step.same .pending apart
    exact same ▸ List.Subset.refl _
  cases console.sessionMove_apply event with
  | aside _ _ _ how =>
      cases how with
      | quiet step apart =>
          exact unchanged step (of_decide_eq_true (List.all_eq_true.mp apart .pending (by decide)))
      | hears ready frame readied reached =>
          rw [reached]
          exact List.Subset.trans (ready.handleFrame_fewer frame) (unchanged readied (by decide))
      | acts direct =>
          cases event with
          | resetPending =>
              change console.resetPending.client.pending ⊆ _
              rw [resetPending_pending]
              exact List.nil_subset _
          | write bytes => exact unchanged (console.write_changes bytes) (by decide)
          | pump => exact unchanged console.pump_changes (by decide)
          | clear => exact unchanged console.clear_changes (by decide)
          | resize size => exact unchanged (console.resize_changes size) (by decide)
          | call ticket expected name args => cases quiet
          | openLink ticket position => cases quiet
          | work step =>
              cases step with
              | task => cases quiet
              | _ => cases direct
          | _ => cases direct
  | starts reached _ =>
      rw [reached] at ran ⊢
      exact (console.start_keptOrCut ran).fewer ordered.disconnected
  | fails ready failure readied reached _ =>
      rw [reached]
      exact unchanged (readied.andThen (ready.bootFailed_changes failure) (fun _ among => among))
        (by decide)
  | connects ready spec readied reached _ =>
      rw [reached] at ran ⊢
      exact (KeptOrCut.after_changes readied (.inr (ready.connect_cut spec ran)) (by decide)).fewer
        ordered.disconnected
  | ends ready readied reached _ =>
      rw [reached] at ran ⊢
      exact (KeptOrCut.after_changes readied (.inr (ready.disconnect_cut ran)) (by decide)).fewer
        ordered.disconnected

/-! ### Any event -/

/-- Whatever happens does one of a few things to the calls. -/
theorem callUse_use {console : Console} (ordered : console.CallsInOrder) (event : LinkEvent)
    (ran : (console.use event).overrun = false) : CallUse console event := by
  have guest {happened : Event} {name : String} {args : List Json} {ticket : Nat}
      {expected : Expectation} (reached : console.use (.happens happened) =
        console.call name args (.guest ticket expected)) : CallUse console (.happens happened) := by
    rcases console.call_keptOrPlaced name args (.guest ticket expected) with kept | placed
    · exact .kept (reached ▸ kept)
    · exact .placed ⟨console.client.nextId, name, .guest ticket expected⟩ (reached ▸ placed) nofun
  have resumed {event : LinkEvent} {place : Nat}
      (goesOn : console.resumed? event = console.tasks[place]?)
      (reached : console.use event = console.resumeTask place) : CallUse console event := by
    cases found : console.tasks[place]? with
    | none =>
        rw [resumeTask, found] at reached
        exact .kept (reached ▸ .refl console)
    | some task => exact callUse_of_resumed (goesOn.trans found)
  cases event with
  | activates ticket resolver link => exact console.callUse_of_activating rfl
  | activatesAt ticket resolver position => exact console.callUse_of_activating rfl
  | resumes place => exact resumed rfl rfl
  | happens event =>
      cases quiet : event.calls with
      | false =>
          exact .answers event rfl quiet (console.callStep_apply event ran)
            (apply_fewer ordered quiet ran)
      | true =>
          cases event with
          | call ticket expected name args => exact guest rfl
          | openLink ticket position => exact console.callUse_of_activating rfl
          | work step =>
              cases step with
              | task => exact resumed rfl console.runOldest_eq
              | _ => cases quiet
          | _ => cases quiet

/-- The calls are in order, and no two answers that wait are to the same call. -/
structure Reckoned (console : Console) : Prop where
  ordered : console.CallsInOrder
  distinct : (console.answers.map fun entry => entry.1.id).Nodup

/-- Calls that have failed together have answers of their own. -/
theorem nodup_of_failed {before after : Console} (ordered : before.CallsInOrder)
    (distinct : (before.answers.map fun entry => entry.1.id).Nodup)
    (answers : after.answers = before.answers ++ before.client.pending.map PendingCall.failed) :
    (after.answers.map fun entry => entry.1.id).Nodup := by
  have numbers : (before.client.pending.map PendingCall.failed).map (fun entry => entry.1.id) =
      before.client.pending.map PendingCall.id := by
    rw [List.map_map]
    rfl
  rw [answers, List.map_append, numbers, List.nodup_append]
  refine ⟨distinct, ordered.increasing.imp Nat.ne_of_lt, ?_⟩
  simp only [List.mem_map]
  rintro _ ⟨entry, there, rfl⟩ _ ⟨call, waits, rfl⟩
  exact ordered.apart call waits entry there

theorem CallStep.distinct {before after : Console} {event : Event}
    (step : CallStep before event after) (ordered : before.CallsInOrder)
    (distinct : (before.answers.map fun entry => entry.1.id).Nodup) :
    (after.answers.map fun entry => entry.1.id).Nodup := by
  cases step with
  | kept _ _ kept _ => rwa [kept.answers]
  | placed _ _ placed => rwa [placed.answers]
  | answered _ call answer _ _ found _ _ answers _ _ =>
      have waits : call ∈ before.client.pending := List.mem_of_find?_eq_some found
      rw [answers, List.map_append, List.nodup_append]
      refine ⟨distinct, by simp, ?_⟩
      simp only [List.mem_map, List.map_cons, List.map_nil, List.mem_singleton]
      rintro _ ⟨entry, there, rfl⟩ _ rfl
      exact ordered.apart call waits entry there
  | reset _ _ _ answers _ _ => exact nodup_of_failed ordered distinct answers
  | cut _ cut => exact nodup_of_failed ordered distinct (cut.answers ordered.disconnected)
  | passedOn _ call answer _ _ _ _ answers _ _ =>
      rw [answers, List.map_cons] at distinct
      exact (List.nodup_cons.mp distinct).2

theorem CallFree.reckoned {console : Console} (free : console.CallFree) : console.Reckoned :=
  ⟨free.inOrder, by simp [free.answers]⟩

end Console

namespace CallUse

variable {before : Console} {event : LinkEvent}

theorem nextId_le (change : CallUse before event) :
    before.client.nextId ≤ (before.use event).client.nextId := by
  cases change with
  | kept kept => exact kept.nextId
  | placed call placed own => exact placed.nextId ▸ Nat.le_succ _
  | taken _ _ _ taken => exact Nat.le_of_eq taken.nextId.symm
  | answers happened same _ step _ => exact same ▸ step.nextId

/-- A call that waits has waited before, or it has been placed under the next number. -/
theorem pending_cases (change : CallUse before event) {call : PendingCall}
    (waits : call ∈ (before.use event).client.pending) :
    call ∈ before.client.pending ∨ call.id = before.client.nextId ∧
      (call.opens = true →
        ∃ inquiry, before.inquiry? event = some inquiry ∧ inquiry.call = call) := by
  cases change with
  | kept kept => exact .inl (kept.pending ▸ waits)
  | placed new placed own =>
      rw [placed.pending, List.mem_append, List.mem_singleton] at waits
      rcases waits with waits | rfl
      · exact .inl waits
      · exact .inr ⟨placed.fresh, own⟩
  | taken _ _ _ taken => exact .inl (taken.pending ▸ waits)
  | answers happened same _ _ fewer =>
      subst same
      exact .inl (fewer waits)

/-- An answer that waits has waited before, or it has been given to a call that waited. -/
theorem answers_cases (ordered : before.CallsInOrder) (change : CallUse before event)
    {call : PendingCall} {answer : Except Failure Json}
    (given : (call, answer) ∈ (before.use event).answers) :
    (call, answer) ∈ before.answers ∨
      call ∈ before.client.pending ∧ Replies before event call answer := by
  cases change with
  | kept kept => exact .inl (kept.answers ▸ given)
  | placed new placed own => exact .inl (placed.answers ▸ given)
  | taken _ _ _ taken => exact .inl (taken.answers.mem_iff.mpr (List.mem_cons_of_mem _ given))
  | answers happened same _ step _ =>
      subst same
      have there : (call, answer) ∈ before.answers ++ before.resolvedBy happened := by
        rw [(step.booked ordered).queue]
        exact List.mem_append_right _ given
      rcases List.mem_append.mp there with there | resolved
      · exact .inl there
      · obtain ⟨waits, how⟩ := (step.mem_resolvedBy_iff ordered call answer).mp resolved
        refine .inr ⟨waits, how.imp id (And.imp id fun lost => ?_)⟩
        exact lost.imp (congrArg LinkEvent.happens) id

/-- An answer that waits goes on waiting, unless it is the one that is gone on with. -/
theorem answers_kept (ordered : before.CallsInOrder) (change : CallUse before event)
    {call : PendingCall} {answer : Except Failure Json} (given : (call, answer) ∈ before.answers) :
    (call, answer) ∈ (before.use event).answers ∨
      before.resumed? event = some (.resume call answer) := by
  cases change with
  | kept kept => exact .inl (kept.answers ▸ given)
  | placed _ placed _ => exact .inl (placed.answers ▸ given)
  | taken other otherAnswer goesOn taken =>
      rcases List.mem_cons.mp (taken.answers.mem_iff.mp given) with same | still
      · obtain ⟨rfl, rfl⟩ := Prod.mk.inj same
        exact .inr goesOn
      · exact .inl still
  | answers happened same quiet step _ =>
      subst same
      refine .inl ?_
      have more {extra : List (PendingCall × Except Failure Json)}
          (answers : (before.apply happened).answers = before.answers ++ extra) :
          (call, answer) ∈ (before.apply happened).answers :=
        answers ▸ List.mem_append_left _ given
      cases step with
      | kept _ _ kept _ => exact (kept.answers ▸ given :)
      | placed _ _ placed => exact (placed.answers ▸ given :)
      | answered _ _ _ _ _ _ _ _ answers _ _ => exact more answers
      | reset _ _ _ answers _ _ => exact more answers
      | cut _ cut => exact more (cut.answers ordered.disconnected)
      | passedOn asked =>
          rw [asked] at quiet
          cases quiet

/-- A call that waits fails when the connection ends. -/
theorem failed_of_lost (ordered : before.CallsInOrder) (change : CallUse before event)
    {call : PendingCall} (waits : call ∈ before.client.pending)
    (lost : (before.use event).client.connection ≠ before.client.connection) :
    call.failed ∈ (before.use event).answers := by
  cases change with
  | kept kept => exact absurd kept.connection lost
  | placed _ placed _ => exact absurd placed.connection lost
  | taken _ _ _ taken => exact absurd taken.connection lost
  | answers happened same _ step _ =>
      subst same
      cases step with
      | kept _ _ kept _ => exact absurd kept.connection lost
      | placed _ _ placed => exact absurd placed.connection lost
      | answered _ _ _ _ _ _ connection _ _ _ _ => exact absurd connection lost
      | reset _ connection _ _ _ _ => exact absurd connection lost
      | cut _ cut =>
          have answers : (before.use (.happens happened)).answers = _ :=
            cut.answers ordered.disconnected
          rw [answers]
          exact List.mem_append_right _ (List.mem_map_of_mem waits)
      | passedOn _ _ _ _ _ connection _ _ _ _ => exact absurd connection lost

theorem reckoned (change : CallUse before event) (reckoned : before.Reckoned) :
    (before.use event).Reckoned := by
  obtain ⟨ordered, distinct⟩ := reckoned
  cases change with
  | kept kept =>
      refine ⟨ordered.of_fewer kept.connection kept.nextId (kept.pending ▸ .refl _)
        fun entry given => .inl (kept.answers ▸ given), ?_⟩
      rwa [kept.answers]
  | placed call placed own =>
      refine ⟨ordered.of_placed placed, ?_⟩
      rwa [placed.answers]
  | taken call answer _ taken =>
      refine ⟨ordered.of_fewer taken.connection (Nat.le_of_eq taken.nextId.symm)
        (taken.pending ▸ .refl _)
        fun entry given => .inl (taken.answers.mem_iff.mpr (List.mem_cons_of_mem _ given)), ?_⟩
      have apart := (taken.answers.map fun entry => entry.1.id).nodup_iff.mp distinct
      exact (List.nodup_cons.mp apart).2
  | answers happened same _ step _ =>
      subst same
      exact ⟨ordered.step step, step.distinct ordered distinct⟩

end CallUse

end RuntimeConsole
