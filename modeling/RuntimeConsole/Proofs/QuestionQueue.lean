/-
Module: RuntimeConsole.Proofs.QuestionQueue
Purpose: The tasks that wait to be carried out, event by event: they are taken up in order, and
  while a connection lasts no link resolver but its own comes up with a question.
Main exports:
  Console.carriedOut, Queues, TaskMove, Console.taskMove_apply
-/
import RuntimeConsole.Proofs.LinkCycle

namespace RuntimeConsole

/-- The resolver that asks in a task, if one does. -/
def Task.asker? : Task → Option Nat
  | .validate resolver _ _ _ => some resolver
  | .resume .. | .chosen .. => none

namespace Console

/-- The tasks that are carried out in an event. -/
def carriedOut (console : Console) : Event → List Task
  | .work .task => console.tasks.take 1
  | _ => []

end Console

open Console

/-- The tasks that are carried out were the first, and those that are put off come last.  If a
resolver asks in one of those it is `asker`. -/
def Queues (asker : Nat) (carried : List Task) (before after : Console) : Prop :=
  ∃ left more, before.tasks = carried ++ left ∧ after.tasks = left ++ more ∧
    ∀ task ∈ more, ∀ other, task.asker? = some other → other = asker

namespace Queues

variable {asker : Nat} {carried : List Task} {first second third : Console}
  {aspects : List Aspect}

theorem of_tasks (same : second.tasks = first.tasks) : Queues asker [] first second :=
  ⟨first.tasks, [], rfl, by simp [same], by simp⟩

theorem of_changes (step : Changes aspects first second) (apart : Aspect.tasks ∉ aspects) :
    Queues asker [] first second :=
  of_tasks (step.same .tasks apart)

theorem trans (step : Queues asker carried first second) (next : Queues asker [] second third) :
    Queues asker carried first third := by
  obtain ⟨left, more, taken, put, own⟩ := step
  obtain ⟨_, others, rfl, putToo, ownToo⟩ := next
  refine ⟨left, more ++ others, taken, ?_, fun task member => ?_⟩
  · rw [putToo, put, List.append_assoc]
  · exact (List.mem_append.mp member).elim (own task) (ownToo task)

theorem spawn (console : Console) {task : Task}
    (own : ∀ other, task.asker? = some other → other = asker) :
    Queues asker [] console (console.spawn task) :=
  ⟨console.tasks, [task], rfl, rfl, fun _ member => List.mem_singleton.mp member ▸ own⟩

theorem foldl {Item : Type} {step : Console → Item → Console}
    (each : ∀ console item, Queues asker [] console (step console item)) (items : List Item)
    (console : Console) : Queues asker [] console (items.foldl step console) := by
  induction items generalizing console with
  | nil => exact of_tasks rfl
  | cons item items inductionHypothesis => exact (each console item).trans (inductionHypothesis _)

end Queues

namespace Console

/-! ### The terminal -/

theorem resolverSeesLine_queues (console : Console) (id : Nat) (change : LineChange) :
    Queues id [] console (console.resolverSeesLine id change) := by
  unfold resolverSeesLine
  split
  next => exact .of_tasks rfl
  next resolver _ =>
      have heard : Queues id [] console
          (console.setResolver id (resolver.lineChanged change.row change.text).1) :=
        .of_tasks rfl
      dsimp only
      split
      · refine heard.trans (.foldl (fun console link => .spawn console ?_) _ _)
        rintro _ ⟨⟩
        rfl
      · exact heard

section

variable {console : Console} {id : Nat}

/-- Where code of the embedding program and a resolver are told about rows, nobody but the
resolver asks. -/
theorem notify_queues (listens : console.Listens id) (changes : List LineChange) :
    Queues id [] console (console.notify changes) := by
  induction changes generalizing console with
  | nil => exact .of_tasks rfl
  | cons change changes inductionHypothesis =>
      have still : (console.notify [change]).Listens id :=
        listens.of_changes (console.notify_changes [change]) (by decide)
      obtain ⟨guests, key, listeners, outside⟩ := listens
      have seen := guestsSeeLine_changes outside change console
      have told : Queues id [] console (console.notify [change]) := by
        rw [notify, List.foldl_cons, List.foldl_nil, listeners, List.foldl_append]
        exact (Queues.of_changes seen (by decide)).trans (resolverSeesLine_queues _ id change)
      exact told.trans (inductionHypothesis still)

theorem withTerminal_queues (listens : console.Listens id) {changed : Terminal × List LineChange}
    (listeners : changed.1.listeners = console.terminal.listeners) :
    Queues id [] console (console.withTerminal changed) := by
  have shown : Queues id [] console { console with terminal := changed.1 } := .of_tasks rfl
  obtain ⟨guests, key, same, outside⟩ := listens
  exact shown.trans (notify_queues ⟨guests, key, listeners.trans same, outside⟩ _)

theorem write_queues (listens : console.Listens id) (bytes : List UInt8) :
    Queues id [] console (console.write bytes) :=
  withTerminal_queues listens rfl

theorem clear_queues (listens : console.Listens id) : Queues id [] console console.clear :=
  withTerminal_queues listens rfl

theorem resize_queues (listens : console.Listens id) (size : Size) :
    Queues id [] console (console.resize size).1 := by
  have reshaped : Queues id [] console (console.withTerminal (console.terminal.resize size)) :=
    withTerminal_queues listens rfl
  unfold resize
  dsimp only
  split
  · exact reshaped.trans (.of_changes (onStream_changes _ _ _) (by decide))
  · exact reshaped

theorem pump_queues (listens : console.Listens id) : Queues id [] console console.pump.1 := by
  unfold pump
  split
  next => exact .of_tasks rfl
  next stream _ =>
      have read := console.readStream_changes stream
      split
      next reached bytes result =>
          rw [result] at read
          dsimp only at read ⊢
          split
          · exact .of_changes read (by decide)
          · exact (Queues.of_changes read (by decide)).trans
              (write_queues (listens.of_changes read (by decide)) bytes)
      next result =>
          rw [result] at read
          exact .of_changes read (by decide)

/-! ### Calls and requests -/

theorem resetPending_queues (console : Console) (id : Nat) :
    Queues id [] console console.resetPending := by
  have given : Queues id [] console
      (console.withClient { console.client with pending := [] }) := .of_tasks rfl
  refine given.trans (.foldl (fun console call => .spawn console ?_) _ _)
  exact fun _ asked => absurd asked nofun

theorem complete_queues (console : Console) (id call : Nat)
    (answer : PendingCall → Except Failure Json) :
    Queues id [] console (console.complete call answer) := by
  unfold complete
  split
  next => exact .of_tasks rfl
  next entry _ =>
      have answered : Queues id [] console
          (console.withClient (console.client.removePending call)) := .of_tasks rfl
      exact answered.trans (.spawn _ nofun)

theorem handle_queues (listens : console.Listens id) (args : List Json) (handler : Handler) :
    Queues id [] console (console.handle args handler).1 := by
  rcases console.handle_cases args handler with ⟨-, same⟩ | ⟨-, same⟩ | ⟨-, -, quiet⟩
  · rw [same]
    exact clear_queues listens
  · rw [same]
    exact write_queues listens _
  · exact .of_changes quiet (by decide)

theorem handleFrame_queues (listens : console.Listens id) (frame : Frame) :
    Queues id [] console (console.handleFrame frame) := by
  have dispatched (name : String) (args : List Json) :
      Queues id [] console (console.dispatch name args).1 := by
    unfold dispatch
    split
    · exact handle_queues listens args _
    · exact .of_tasks rfl
  cases frame with
  | message name args => exact dispatched name args
  | call number name args =>
      exact (dispatched name args).trans (.of_changes (sendFrame_changes _ _) (by decide))
  | response number result => exact console.complete_queues id number _
  | error number text => exact console.complete_queues id number _

/-! ### Events -/

theorem carriedOut_eq_nil {event : Event} (other : event ≠ .work .task) (console : Console) :
    console.carriedOut event = [] := by
  unfold carriedOut
  split
  next => exact absurd rfl other
  next => rfl

theorem runTask_tasks (console : Console) (task : Task) :
    (console.runTask task).tasks = console.tasks := by
  cases task with
  | validate resolver row generation link =>
      exact (console.call_changes "validatepath" _ _).same .tasks (by decide)
  | resume call answer => exact (console.deliver_changes answer call.waiter).same .tasks (by decide)
  | chosen errand choice =>
      exact (console.resumeErrand_changes choice errand).same .tasks (by decide)

theorem runOldest_queues (console : Console) (asker : Nat) :
    Queues asker (console.tasks.take 1) console console.runOldest := by
  unfold runOldest
  split
  next none => exact ⟨[], [], by simp [none], by simp [none], by simp⟩
  next task rest waiting =>
      refine ⟨rest, [], by simp [waiting], ?_, by simp⟩
      rw [runTask_tasks, List.append_nil]

/-- Whatever happens while a resolver is told about rows, nobody but the resolver asks. -/
theorem Aside.queues (listens : console.Listens id) {event : Event}
    (aside : Aside console event (console.apply event)) :
    Queues id (console.carriedOut event) console (console.apply event) := by
  by_cases task : event = .work .task
  · subst task
    exact console.runOldest_queues id
  rw [carriedOut_eq_nil task]
  cases aside with
  | quiet step apart => exact .of_tasks (step.kept apart .tasks (by decide))
  | hears ready frame readied reached =>
      rw [reached]
      exact (Queues.of_changes readied (by decide)).trans
        (handleFrame_queues (listens.of_changes readied (by decide)) frame)
  | acts direct =>
      cases event with
      | resetPending => exact console.resetPending_queues id
      | call ticket expected name args =>
          exact .of_changes (console.call_changes name args _) (by decide)
      | openLink ticket position =>
          exact .of_changes (console.openLink_changes ticket position) (by decide)
      | write bytes => exact write_queues listens bytes
      | pump => exact pump_queues listens
      | clear => exact clear_queues listens
      | resize size => exact resize_queues listens size
      | work step =>
          cases step with
          | task => exact absurd rfl task
          | _ => cases direct
      | _ => cases direct

end

/-- What an event comes to for the tasks that wait, and for the resolver at work. -/
inductive TaskMove (base before : Console) (event : Event) (after : Console) : Prop where
  /-- A connection lasts, and its resolver with it. -/
  | lasts (keys : CycleKeys) (held : Bound base keys before) (kept : Bound base keys after)
      (connection : after.client.connection = before.client.connection)
      (queues : Queues keys.resolver (before.carriedOut event) before after)
  | idle (unbound : Unbound base after)
  /-- A connection begins, and with it a resolver that was not there before. -/
  | begins (keys : CycleKeys) (kept : Bound base keys after)
      (renewed : after.client.connection ≠ before.client.connection)
      (fresh : before.resolvers.length ≤ keys.resolver)

section

variable {base before after : Console} {event : Event}

/-- An event in which nothing happens that has to do with tasks. -/
theorem TaskMove.of_changes {aspects : List Aspect} {keys : CycleKeys}
    (held : Bound base keys before) (other : event ≠ .work .task)
    (step : Changes aspects before after)
    (apart : (.tasks :: .origins :: bindingAspects).all (· ∉ aspects) = true) :
    TaskMove base before event after := by
  refine .lasts keys held (held.of_changes_apart step (apart_mono apart (by decide)))
    (step.kept apart .connection (by decide)) ?_
  rw [carriedOut_eq_nil other]
  exact .of_tasks (step.kept apart .tasks (by decide))

end

variable {base console : Console}

/-- A connection that takes the place of another, or begins where there is none. -/
theorem connect_taskMove {before ready : Console} {event : Event} (fresh : Fresh base)
    (settled : Settled base before) (ordered : before.CallsInOrder)
    (readied : Changes [.launches, .streams] before ready) (spec : ProcessSpec) :
    TaskMove base before event (ready.connect spec).1 := by
  have readySettled : Settled base ready := settled.of_changes readied (by decide)
  have began := connectWithin_began fresh readySettled.steady readySettled.place spec 97
  have cut := ready.connect_cut spec began.steady.overrun
  have numbered := ordered.connection.of_changes readied (by decide)
  have connection : ready.client.connection = before.client.connection :=
    readied.same .connection (by decide)
  obtain ⟨opened, keys, advances, -, kept, number, reached⟩ :=
    connectWithin_begins fresh readySettled spec 97
  have length := resolvers_length_of_changes readied (by decide)
  rw [← reached] at kept
  refine .begins keys kept (fun same => ?_) (number ▸ length ▸ advances.resolvers)
  obtain ⟨found, _, connected, -⟩ := kept.connection
  have known : ready.client.connection = some found :=
    connection.trans (same.symm.trans connected)
  exact absurd (numbered found known) (Nat.not_lt.mpr (cut.connection found connected))

theorem taskMove_of_bound (fresh : Fresh base) (settled : Settled base console)
    (ordered : console.CallsInOrder) {keys : CycleKeys} (bound : Bound base keys console)
    (event : Event) : TaskMove base console event (console.apply event) := by
  have move := console.sessionMove_apply event
  by_cases task : event = .work .task
  · subst task
    have step := console.runOldest_changes
    exact .lasts keys bound (bound.of_changes_apart step (by decide))
      (step.same .connection (by decide)) (console.runOldest_queues _)
  cases move with
  | aside step _ _ how =>
      exact .lasts keys bound (bound.of_changes_apart step (by decide))
        (step.same .connection (by decide)) (how.queues (bound.listens fresh))
  | starts reached _ =>
      rw [reached, bound.still.1]
      exact .of_changes bound task (.refl [] console) (by decide)
  | fails ready failure readied reached _ =>
      have readyBound := bound.of_changes_apart readied (by decide)
      rw [reached, readyBound.still.2]
      exact .of_changes bound task readied (by decide)
  | connects ready spec readied reached _ =>
      rw [reached]
      exact connect_taskMove fresh settled ordered readied spec
  | ends ready readied reached _ =>
      have readySettled := settled.of_changes readied (by decide)
      have readyBound := bound.of_changes_apart readied (by decide)
      rw [reached, disconnect_eq]
      exact .idle (disconnectWithin_ended fresh readySettled.steady readyBound 98).unbound

/-- Whatever happens to a settled console comes to one of a few things for its tasks. -/
theorem taskMove_apply (fresh : Fresh base) (settled : Settled base console)
    (ordered : console.CallsInOrder) (event : Event) :
    TaskMove base console event (console.apply event) := by
  rcases settled.place with unbound | ⟨keys, bound⟩
  · cases linkMove_apply fresh settled ordered event with
    | during keys held _ _ =>
        obtain ⟨connection, _, connected, -⟩ := held.connection
        exact absurd (unbound.connection.symm.trans connected) nofun
    | idle unboundToo => exact .idle unboundToo
    | begins ready keys advances _ kept number _ =>
        obtain ⟨connection, _, connected, -⟩ := kept.connection
        refine .begins keys kept ?_ (number ▸ advances.resolvers)
        rw [connected, unbound.connection]
        exact nofun
  · exact taskMove_of_bound fresh settled ordered bound event

end Console

end RuntimeConsole
