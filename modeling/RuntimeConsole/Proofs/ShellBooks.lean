/-
Module: RuntimeConsole.Proofs.ShellBooks
Purpose: The books of the auxiliary terminals balance in every run: no shell is lost or
  attached twice, no terminal is displaced, and operations say truly what they have done.
Main exports:
  Counts, Console.ShellMove, ShellBooks, shell_books
-/
import Mathlib.Data.List.Induction
import Mathlib.Data.List.Perm.Basic
import RuntimeConsole.Proofs.CallResolution
import RuntimeConsole.Proofs.ShellSteps

namespace RuntimeConsole

/-! ### What operations say about themselves -/

/-- The errands that wait, the effects so far, the operations that have begun, and how many
terminals each has registered: every errand knows the number of its operation, and every
operation that restored terminals has said it. -/
structure Counts (waiting : List Errand) (trace : List Effect) (operations : List Nat)
    (registered : Nat → Nat) : Prop where
  tickets : (waiting.map Errand.ticket).Nodup
  begun : ∀ errand ∈ waiting, errand.ticket ∈ operations
  count : ∀ errand ∈ waiting, registered errand.ticket = errand.count
  fresh : ∀ ticket, ticket ∉ operations → registered ticket = 0
  ended : ∀ ticket total, .finished ticket (.restored total) ∈ trace →
    ticket ∈ operations ∧ ticket ∉ waiting.map Errand.ticket ∧ registered ticket = total

/-- The same while an operation that has registered so many terminals is carried on. -/
structure Carries (waiting : List Errand) (trace : List Effect) (operations : List Nat)
    (registered : Nat → Nat) (ticket count : Nat) : Prop where
  others : Counts waiting trace operations registered
  begun : ticket ∈ operations
  away : ticket ∉ waiting.map Errand.ticket
  count : registered ticket = count
  unended : ∀ total, .finished ticket (.restored total) ∉ trace

section

variable {waiting other : List Errand} {trace effects : List Effect} {operations : List Nat}
  {registered later : Nat → Nat} {ticket count more : Nat} {errand : Errand}

theorem Counts.perm (counts : Counts waiting trace operations registered)
    (same : waiting.Perm other) : Counts other trace operations registered where
  tickets := (same.map _).nodup_iff.mp counts.tickets
  begun errand member := counts.begun errand (same.mem_iff.mpr member)
  count errand member := counts.count errand (same.mem_iff.mpr member)
  fresh := counts.fresh
  ended ticket total said := by
    obtain ⟨known, away, total⟩ := counts.ended ticket total said
    exact ⟨known, fun member => away ((same.map _).mem_iff.mpr member), total⟩

/-- An operation begins. -/
theorem Counts.begins (counts : Counts waiting trace operations registered)
    (new : ticket ∉ operations) :
    Carries waiting trace (operations ++ [ticket]) registered ticket 0 where
  others := {
    tickets := counts.tickets
    begun := fun errand member => List.mem_append_left _ (counts.begun errand member)
    count := counts.count
    fresh := fun other unknown => counts.fresh other fun known =>
      unknown (List.mem_append_left _ known)
    ended := fun other total said =>
      (counts.ended other total said).imp_left (List.mem_append_left _) }
  begun := by simp
  away member := by
    obtain ⟨errand, waits, rfl⟩ := List.mem_map.mp member
    exact new (counts.begun errand waits)
  count := counts.fresh ticket new
  unended total said := new (counts.ended ticket total said).1

/-- An operation that waited goes on. -/
theorem Counts.resumes (counts : Counts (errand :: waiting) trace operations registered) :
    Carries waiting trace operations registered errand.ticket errand.count where
  others := {
    tickets := (List.nodup_cons.mp counts.tickets).2
    begun := fun other member => counts.begun other (List.mem_cons_of_mem _ member)
    count := fun other member => counts.count other (List.mem_cons_of_mem _ member)
    fresh := counts.fresh
    ended := fun ticket total said => by
      obtain ⟨known, away, total⟩ := counts.ended ticket total said
      exact ⟨known, fun member => away (List.mem_cons_of_mem _ member), total⟩ }
  begun := counts.begun errand List.mem_cons_self
  away := (List.nodup_cons.mp counts.tickets).1
  count := counts.count errand List.mem_cons_self
  unended total said := (counts.ended _ total said).2.1 List.mem_cons_self

/-- Terminals are registered for the operation that is carried on. -/
theorem Carries.register (carries : Carries waiting trace operations registered ticket count)
    (quiet : ∀ effect ∈ effects, effect.isFinish = false)
    (laterEq : ∀ other, later other = registered other + if other = ticket then more else 0) :
    Carries waiting (trace ++ effects) operations later ticket (count + more) := by
  have silent {other total : Nat} (said : .finished other (.restored total) ∈ trace ++ effects) :
      .finished other (.restored total) ∈ trace :=
    (List.mem_append.mp said).resolve_right fun new => absurd (quiet _ new) nofun
  have elsewhere {other : Nat} (different : other ≠ ticket) : later other = registered other := by
    rw [laterEq, if_neg different, Nat.add_zero]
  exact {
    others := {
      tickets := carries.others.tickets
      begun := carries.others.begun
      count := fun errand member => by
        have different : errand.ticket ≠ ticket :=
          fun same => carries.away (same ▸ List.mem_map_of_mem member)
        rw [elsewhere different, carries.others.count errand member]
      fresh := fun other unknown => by
        have different : other ≠ ticket := fun same => unknown (same ▸ carries.begun)
        rw [elsewhere different, carries.others.fresh other unknown]
      ended := fun other total said => by
        have different : other ≠ ticket :=
          fun same => carries.unended total (same ▸ silent said)
        rw [elsewhere different]
        exact carries.others.ended other total (silent said) }
    begun := carries.begun
    away := carries.away
    count := by rw [laterEq, if_pos rfl, carries.count]
    unended := fun total said => carries.unended total (silent said) }

/-- The operation that is carried on ends. -/
theorem Carries.ends (carries : Carries waiting trace operations registered ticket count)
    {outcome : Outcome} (truth : ∀ total, outcome = .restored total → total = count) :
    Counts waiting (trace ++ [.finished ticket outcome]) operations registered where
  tickets := carries.others.tickets
  begun := carries.others.begun
  count := carries.others.count
  fresh := carries.others.fresh
  ended other total said := by
    rcases List.mem_append.mp said with old | new
    · exact carries.others.ended other total old
    · obtain ⟨rfl, same⟩ := Effect.finished.inj (List.mem_singleton.mp new)
      exact ⟨carries.begun, carries.away, by rw [carries.count, truth total same.symm]⟩

/-- The operation that is carried on waits. -/
theorem Carries.waits (carries : Carries waiting trace operations registered ticket count)
    (owner : errand.ticket = ticket) (known : errand.count = count) :
    Counts (errand :: waiting) trace operations registered where
  tickets := by
    rw [List.map_cons, owner]
    exact List.nodup_cons.mpr ⟨carries.away, carries.others.tickets⟩
  begun other member := by
    rcases List.mem_cons.mp member with rfl | member
    · exact owner ▸ carries.begun
    · exact carries.others.begun other member
  count other member := by
    rcases List.mem_cons.mp member with rfl | member
    · rw [owner, known, carries.count]
    · exact carries.others.count other member
  fresh := carries.others.fresh
  ended other total said := by
    obtain ⟨begun, away, total⟩ := carries.others.ended other total said
    refine ⟨begun, fun member => ?_, total⟩
    rcases List.mem_cons.mp member with same | member
    · exact carries.unended _ (same.trans owner ▸ said)
    · exact away member

end

/-! ### Steps of a run -/

namespace Console

/-- The errands of operations that wait for the user or to be taken up again. -/
def waiting (console : Console) : List Errand :=
  console.errands ++ console.tasks.filterMap Task.errand?

/-- The same auxiliary terminals with the same shells. -/
structure SameShells (before after : Console) : Prop where
  registry : after.registry = before.registry
  streams : after.streams = before.streams

/-- Nothing is different but who waits for what. -/
structure Rearranged (before after : Console) : Prop where
  shells : SameShells before after
  trace : after.trace = before.trace
  host : after.host = before.host

/-- Whether nothing has been put off but operations on auxiliary terminals. -/
def OnlyErrands (console : Console) : Prop :=
  ∀ task ∈ console.tasks, ∃ errand choice, task = .chosen errand choice

/-- What an event does to the auxiliary terminals and to the operations on them: it begins an
operation, takes one up again that waited, or leaves the operations alone. -/
inductive ShellMove (before : Console) (event : ShellEvent) : Console → Prop where
  | begins {ticket : Nat} {after : Console} : event.begins? = some ticket →
      before.carries? event = some ticket → Goes ticket 0 before after →
      ShellMove before event after
  | resumes {middle after : Console} {errand : Errand} : event.begins? = none →
      before.carries? event = some errand.ticket → Rearranged before middle →
      before.waiting.Perm (errand :: middle.waiting) → middle.tasks.Sublist before.tasks →
      Goes errand.ticket errand.count middle after → ShellMove before event after
  | rearranges {after : Console} : event.begins? = none → before.carries? event = none →
      Rearranged before after → before.waiting.Perm after.waiting →
      (before.OnlyErrands → after.OnlyErrands) → ShellMove before event after
  | closes {id : TerminalId} : event = .closes id →
      ShellMove before event (before.closeTerminal id).1
  | turns {refusal : String → Option String → Option String} {faults : StreamFaults} :
      event = .turns refusal faults →
      ShellMove before event
        { before with host := { before.host with refusal := refusal, shellFaults := faults } }

theorem perm_cons_eraseIdx {Item : Type} {items : List Item} {place : Nat} {item : Item}
    (found : items[place]? = some item) : items.Perm (item :: items.eraseIdx place) := by
  obtain ⟨inside, rfl⟩ := List.getElem?_eq_some_iff.mp found
  exact (List.getElem_cons_eraseIdx_perm inside).symm

/-- A question that is answered waits as a task from then on. -/
theorem answerQuestion_waiting (console : Console) (question : Nat) (choice : Option String) :
    console.waiting.Perm (console.answerQuestion question choice).waiting := by
  unfold answerQuestion
  split
  next => exact .refl _
  next errand found =>
      have taken := (perm_cons_eraseIdx found).append_right
        (console.tasks.filterMap Task.errand?)
      refine taken.trans ?_
      simp only [waiting, spawn, List.filterMap_append, List.filterMap_cons, Task.errand?,
        List.filterMap_nil]
      rw [← List.append_assoc]
      exact (List.perm_append_singleton _ _).symm

theorem answerQuestion_move (console : Console) (question : Nat) (choice : Option String) :
    ShellMove console (.answers question choice) (console.answerQuestion question choice) := by
  have listed := console.answerQuestion_waiting question choice
  unfold answerQuestion at listed ⊢
  generalize console.errands[question]? = asked at listed ⊢
  cases asked with
  | none => exact .rearranges rfl rfl ⟨⟨rfl, rfl⟩, rfl, rfl⟩ listed id
  | some errand =>
      refine .rearranges rfl rfl ⟨⟨rfl, rfl⟩, rfl, rfl⟩ listed fun known task member => ?_
      rcases List.mem_append.mp member with old | new
      · exact known task old
      · exact ⟨errand, choice, List.mem_singleton.mp new⟩

theorem resumeTask_move (console : Console) (onlyErrands : console.OnlyErrands)
    (proper : ∀ errand ∈ console.waiting, errand.Proper) (place : Nat) :
    ShellMove console (.resumes place) (console.resumeTask place) := by
  unfold resumeTask
  split
  next missing =>
      exact .rearranges rfl (by simp [carries?, missing]) ⟨⟨rfl, rfl⟩, rfl, rfl⟩ (.refl _) id
  next task found =>
      obtain ⟨errand, choice, rfl⟩ := onlyErrands task (List.mem_of_getElem? found)
      have owner : console.carries? (.resumes place) = some errand.ticket := by
        simp [carries?, found, Task.errand?]
      have same : Rearranged console { console with tasks := console.tasks.eraseIdx place } :=
        ⟨⟨rfl, rfl⟩, rfl, rfl⟩
      have fewer := List.eraseIdx_sublist console.tasks place
      have listed : console.waiting.Perm
          (errand :: { console with tasks := console.tasks.eraseIdx place }.waiting) :=
        (((perm_cons_eraseIdx found).filterMap Task.errand?).append_left console.errands).trans
          List.perm_middle
      exact .resumes rfl owner same listed fewer
        (resumeErrand_goes _ choice (proper errand (listed.mem_iff.mpr List.mem_cons_self)))

theorem applyShell_move (console : Console) (onlyErrands : console.OnlyErrands)
    (proper : ∀ errand ∈ console.waiting, errand.Proper) (event : ShellEvent) :
    ShellMove console event (console.applyShell event) := by
  cases event with
  | opens ticket byCommand => exact .begins rfl rfl (console.newTerminal_goes ticket byCommand)
  | restores ticket items => exact .begins rfl rfl (console.restoreFrom_goes ticket 0 items)
  | answers question choice => exact console.answerQuestion_move question choice
  | resumes place => exact console.resumeTask_move onlyErrands proper place
  | closes id => exact .closes rfl
  | turns refusal faults => exact .turns rfl

/-! ### What every step keeps -/

/-- Everything about the auxiliary terminals and the operations on them is as it should be. -/
structure InOrder (first : Nat) (console : Console) : Prop where
  tidy : Tidy first console.registry console.streams
  draws : console.host.DrawsAuxiliary
  proper : ∀ errand ∈ console.waiting, errand.Proper
  onlyErrands : console.OnlyErrands

variable {before middle after : Console} {first ticket count : Nat} {event : ShellEvent}

theorem InOrder.rearranged (inOrder : InOrder first before) (same : Rearranged before after)
    (waiting : after.waiting ⊆ before.waiting)
    (onlyErrands : before.OnlyErrands → after.OnlyErrands) : InOrder first after where
  tidy := by
    rw [same.shells.registry, same.shells.streams]
    exact inOrder.tidy
  draws := by
    rw [same.host]
    exact inOrder.draws
  proper errand member := inOrder.proper errand (waiting member)
  onlyErrands := onlyErrands inOrder.onlyErrands

theorem InOrder.serves {registered : Nat} (inOrder : InOrder first before)
    (serves : Serves before registered after) : InOrder first after where
  tidy := serves.tidy first inOrder.draws inOrder.tidy
  draws := by
    rw [serves.beside.host]
    exact inOrder.draws
  proper := by
    rw [waiting, serves.beside.errands, serves.beside.tasks]
    exact inOrder.proper
  onlyErrands := by
    rw [OnlyErrands, serves.beside.tasks]
    exact inOrder.onlyErrands

theorem InOrder.goes (inOrder : InOrder first before) (goes : Goes ticket count before after) :
    InOrder first after := by
  cases goes with
  | ends serves _ =>
      have reached := inOrder.serves serves
      exact ⟨reached.tidy, reached.draws, reached.proper, reached.onlyErrands⟩
  | waits serves _ _ proper =>
      have reached := inOrder.serves serves
      refine ⟨reached.tidy, reached.draws, fun errand member => ?_, reached.onlyErrands⟩
      simp only [waiting, List.append_assoc, List.mem_append, List.mem_singleton] at member
      rcases member with old | rfl | old
      · exact reached.proper errand (List.mem_append_left _ old)
      · exact proper
      · exact reached.proper errand (List.mem_append_right _ old)

theorem InOrder.close (inOrder : InOrder first before) (id : TerminalId) :
    InOrder first (before.closeTerminal id).1 := by
  unfold closeTerminal
  split
  next => exact inOrder
  next aux found =>
      unfold killShell
      rw [tryOnStream_eq]
      exact ⟨inOrder.tidy.erase found, inOrder.draws, inOrder.proper, inOrder.onlyErrands⟩

theorem InOrder.step (inOrder : InOrder first before) (event : ShellEvent) :
    InOrder first (before.applyShell event) := by
  have move := before.applyShell_move inOrder.onlyErrands inOrder.proper event
  generalize before.applyShell event = after at move ⊢
  cases move with
  | begins _ _ goes => exact inOrder.goes goes
  | resumes _ _ same listed fewer goes =>
      refine (inOrder.rearranged same ?_ fun known task member => ?_).goes goes
      · exact fun errand member => listed.mem_iff.mpr (List.mem_cons_of_mem _ member)
      · exact known task (fewer.subset member)
  | rearranges _ _ same listed onlyErrands =>
      exact inOrder.rearranged same (fun errand member => listed.mem_iff.mpr member) onlyErrands
  | closes _ => exact inOrder.close _
  | turns _ => exact ⟨inOrder.tidy, inOrder.draws, inOrder.proper, inOrder.onlyErrands⟩

theorem InOrder.run (inOrder : InOrder first before) (events : List ShellEvent) :
    InOrder first (before.runShells events) := by
  induction events generalizing before with
  | nil => exact inOrder
  | cons event events inductionHypothesis => exact inductionHypothesis (inOrder.step event)

/-- An operation leaves the terminals and the streams there are where they are. -/
theorem Goes.grows (goes : Goes ticket count before after) :
    before.registry.terminals <+: after.registry.terminals ∧ before.streams <+: after.streams := by
  cases goes with
  | ends serves _ =>
      obtain ⟨added, grown, -⟩ := serves.terminals
      exact ⟨⟨added, grown.symm⟩, serves.streams⟩
  | waits serves _ _ _ =>
      obtain ⟨added, grown, -⟩ := serves.terminals
      exact ⟨⟨added, grown.symm⟩, serves.streams⟩

/-- Only closing takes a terminal from the registry, and no shell there is notices anything of
the others. -/
theorem InOrder.kept (inOrder : InOrder first before) (notClosing : ∀ id, event ≠ .closes id) :
    before.registry.terminals <+: (before.applyShell event).registry.terminals ∧
      before.streams <+: (before.applyShell event).streams := by
  have move := before.applyShell_move inOrder.onlyErrands inOrder.proper event
  generalize before.applyShell event = after at move ⊢
  cases move with
  | begins _ _ goes => exact goes.grows
  | resumes _ _ same _ _ goes =>
      have kept := goes.grows
      rwa [same.shells.registry, same.shells.streams] at kept
  | rearranges _ _ same _ _ =>
      rw [same.shells.registry, same.shells.streams]
      exact ⟨List.prefix_refl _, List.prefix_refl _⟩
  | closes same => exact absurd same (notClosing _)
  | turns _ => exact ⟨List.prefix_refl _, List.prefix_refl _⟩

/-! ### What every step says -/

variable {operations : List Nat} {registered later : Nat → Nat}

theorem Serves.size {more : Nat} (serves : Serves before more after) :
    after.registry.size - before.registry.size = more := by
  obtain ⟨added, grown, rfl⟩ := serves.terminals
  rw [Registry.size, grown, List.length_append, Registry.size, Nat.add_sub_cancel_left]

theorem Serves.carries {more : Nat} (serves : Serves before more after)
    (carries : Carries before.waiting before.trace operations registered ticket count)
    (laterEq : ∀ other, later other = registered other + if other = ticket then more else 0) :
    Carries after.waiting after.trace operations later ticket (count + more) := by
  obtain ⟨effects, traceEq, quiet⟩ := serves.beside.told
  rw [waiting, serves.beside.errands, serves.beside.tasks, traceEq]
  exact carries.register quiet laterEq

theorem Goes.counts (goes : Goes ticket count before after)
    (carries : Carries before.waiting before.trace operations registered ticket count)
    (laterEq : ∀ other, later other =
      registered other +
        if other = ticket then after.registry.size - before.registry.size else 0) :
    Counts after.waiting after.trace operations later := by
  cases goes with
  | ends serves truth => exact (serves.carries carries (serves.size ▸ laterEq)).ends truth
  | waits serves owner total _ =>
      have waits := (serves.carries carries (serves.size ▸ laterEq)).waits owner total
      refine waits.perm ?_
      simp only [waiting, List.append_assoc, List.singleton_append]
      exact List.perm_middle.symm

theorem ShellMove.counts (move : ShellMove before event after)
    (counts : Counts before.waiting before.trace operations registered)
    (new : ∀ ticket, event.begins? = some ticket → ticket ∉ operations)
    (laterEq : ∀ ticket, later ticket =
      registered ticket +
        if before.carries? event = some ticket then
          after.registry.size - before.registry.size
        else 0) :
    Counts after.waiting after.trace (operations ++ event.begins?.toList) later := by
  have idle (aside : before.carries? event = none) : later = registered := by
    funext ticket
    rw [laterEq, aside, if_neg nofun, Nat.add_zero]
  have carried {owner : Nat} (owned : before.carries? event = some owner) (ticket : Nat) :
      later ticket = registered ticket +
        if ticket = owner then after.registry.size - before.registry.size else 0 := by
    rw [laterEq, owned]
    simp only [Option.some.injEq, eq_comm]
  cases move with
  | begins begins owned goes =>
      rw [begins]
      exact goes.counts (counts.begins (new _ begins)) (carried owned)
  | resumes begins owned same listed _ goes =>
      rw [begins, Option.toList_none, List.append_nil]
      have resumed := (counts.perm listed).resumes
      rw [← same.trace] at resumed
      refine goes.counts resumed ?_
      rw [same.shells.registry]
      exact carried owned
  | rearranges begins aside same listed _ =>
      rw [begins, Option.toList_none, List.append_nil, idle aside, same.trace]
      exact counts.perm listed
  | closes same =>
      subst same
      rw [idle rfl]
      unfold closeTerminal ShellEvent.begins?
      rw [Option.toList_none, List.append_nil]
      split
      · exact counts
      · unfold killShell
        rw [tryOnStream_eq]
        exact counts
  | turns same =>
      subst same
      rw [idle rfl]
      unfold ShellEvent.begins?
      rw [Option.toList_none, List.append_nil]
      exact counts

/-- A console on whose auxiliary terminals nothing has been done. -/
structure NoShells (console : Console) : Prop where
  registry : console.registry = .empty
  errands : console.errands = []
  tasks : console.tasks = []
  trace : ∀ ticket total, .finished ticket (.restored total) ∉ console.trace

theorem NoShells.waiting {base : Console} (fresh : base.NoShells) : base.waiting = [] := by
  rw [Console.waiting, fresh.errands, fresh.tasks]
  rfl

theorem NoShells.inOrder {base : Console} (fresh : base.NoShells)
    (draws : base.host.DrawsAuxiliary) : InOrder base.streams.length base where
  tidy := by
    have none (aux : AuxiliaryTerminal) : aux ∉ Registry.empty.terminals := List.not_mem_nil
    rw [fresh.registry]
    refine ⟨Nat.le_refl _, .nil, fun aux member => (none aux member).elim,
      fun aux member => (none aux member).elim, .nil, fun aux member => (none aux member).elim,
      fun shell stream above found => ?_⟩
    exact absurd (List.getElem?_eq_some_iff.mp found).1 (Nat.not_lt.mpr above)
  draws := draws
  proper := by
    rw [fresh.waiting]
    exact fun errand member => (List.not_mem_nil member).elim
  onlyErrands := by
    rw [OnlyErrands, fresh.tasks]
    exact fun task member => (List.not_mem_nil member).elim

theorem NoShells.counts {base : Console} (fresh : base.NoShells)
    (draws : base.host.DrawsAuxiliary) {events : List ShellEvent}
    (tickets : (events.filterMap ShellEvent.begins?).Nodup) :
    Counts (base.runShells events).waiting (base.runShells events).trace
      (events.filterMap ShellEvent.begins?) (fun ticket => base.registeredFor ticket events) := by
  induction events using List.reverseRecOn with
  | nil =>
      change Counts base.waiting base.trace [] fun _ => 0
      rw [fresh.waiting]
      exact ⟨.nil, fun errand member => (List.not_mem_nil member).elim,
        fun errand member => (List.not_mem_nil member).elim, fun _ _ => rfl,
        fun ticket total said => (fresh.trace ticket total said).elim⟩
  | append_singleton events event inductionHypothesis =>
      have inOrder := (fresh.inOrder draws).run events
      have move := (base.runShells events).applyShell_move inOrder.onlyErrands inOrder.proper event
      have last : [event].filterMap ShellEvent.begins? = event.begins?.toList := by
        cases begins : event.begins? <;> simp [begins]
      rw [← runShells_concat] at move
      rw [List.filterMap_append, last] at tickets ⊢
      obtain ⟨earlier, -, apart⟩ := List.nodup_append.mp tickets
      refine move.counts (inductionHypothesis earlier) (fun ticket begins known => ?_)
        fun ticket => base.registeredFor_concat ticket events event |>.trans ?_
      · exact apart ticket known ticket (by rw [begins]; exact List.mem_singleton_self _) rfl
      · rfl

/-! ### Attempts that come to nothing -/

/-- A declined question or a shell that cannot be started leaves the auxiliary terminals and
the streams as they are. -/
theorem startChosen_fails (console : Console) {choice : Option String}
    (fails : console.Fails choice) :
    ∃ failure, (console.startChosen choice).2 = .error failure ∧
      SameShells console (console.startChosen choice).1 := by
  obtain ⟨failure, -, result, starts⟩ | ⟨cwd, admits, -⟩ := console.startChosen_cases choice
  · exact ⟨failure, result, starts.registry, by simpa using starts.streams⟩
  · exact absurd fails admits

theorem finishTerminal_fails (console : Console) {choice : Option String}
    (fails : console.Fails choice) (ticket : Nat) (byCommand : Bool) :
    SameShells console (console.finishTerminal ticket byCommand choice) := by
  have started := console.startChosen_fails fails
  unfold finishTerminal
  generalize console.startChosen choice = outcome at started
  obtain ⟨reached, result⟩ := outcome
  obtain ⟨failure, rfl, same⟩ := started
  exact ⟨same.registry, same.streams⟩

theorem restoreChosen_fails (console : Console) {choice : Option String}
    (fails : console.Fails choice) (terminal : Terminal) :
    SameShells console (console.restoreChosen terminal choice).1 ∧
      (console.restoreChosen terminal choice).2 = false := by
  have started := console.startChosen_fails fails
  unfold restoreChosen
  generalize console.startChosen choice = outcome at started
  obtain ⟨reached, result⟩ := outcome
  obtain ⟨failure, rfl, same⟩ := started
  exact ⟨same, rfl⟩

theorem restoreIn_fails (console : Console) {cwd : String}
    (refuses : console.Refuses (Directory.expandHome console.host.home cwd))
    (terminal : Terminal) :
    SameShells console (console.restoreIn terminal cwd).1 ∧
      (console.restoreIn terminal cwd).2 = false := by
  have started := console.startShell_cases (Directory.expandHome console.host.home cwd)
  unfold restoreIn
  dsimp only
  generalize console.startShell (Directory.expandHome console.host.home cwd) = outcome at started
  obtain ⟨reached, result⟩ := outcome
  obtain ⟨failure, -, rfl, starts⟩ | ⟨admits, -⟩ := started
  · exact ⟨⟨starts.registry, by simpa using starts.streams⟩, rfl⟩
  · exact absurd refuses admits

end Console

/-! ### What survives a restart -/

theorem Registry.persist_perm (registry : Registry) :
    registry.persist.Perm (registry.terminals.map AuxiliaryTerminal.persisted) :=
  List.mergeSort_perm _ _

/-- Identities that are all different stand in their strict order. -/
theorem Registry.persist_sorted {registry : Registry} (ids : registry.ids.Nodup) :
    registry.persist.Pairwise fun first second => first.id.text < second.id.text := by
  have sorted : registry.persist.Pairwise fun first second =>
      first.id.precedes second.id = true := by
    refine List.pairwise_mergeSort ?_ ?_ _
    · intro first second third earlier later
      simp only [TerminalId.precedes, Bool.not_eq_true', decide_eq_false_iff_not,
        String.not_lt] at earlier later ⊢
      exact String.le_trans earlier later
    · intro first second
      simp only [TerminalId.precedes, Bool.or_eq_true, Bool.not_eq_true', decide_eq_false_iff_not,
        String.not_lt]
      exact String.le_total first.id.text second.id.text
  have different : registry.persist.Pairwise fun first second => first.id ≠ second.id := by
    have listed : (registry.persist.map PersistedTerminal.id).Nodup := by
      refine (registry.persist_perm.map PersistedTerminal.id).nodup_iff.mpr ?_
      rw [List.map_map]
      exact ids
    exact List.pairwise_map.mp listed
  refine (sorted.and different).imp fun {first second} ordered => ?_
  by_contra notBefore
  have precedes := ordered.1
  simp only [TerminalId.precedes, Bool.not_eq_true', decide_eq_false_iff_not,
    String.not_lt] at precedes
  have same := String.le_antisymm precedes (String.not_lt.mp notBefore)
  exact ordered.2 (congrArg TerminalId.mk same)

/-! ### Whole runs -/

/-- The auxiliary terminals after a run in which operations opened, restored and closed them,
in any order and each waiting for the user at any time. -/
structure ShellBooks (base : Console) (events : List ShellEvent) (now : Console) : Prop where
  /-- A shell that has been started and not been ended belongs to exactly one terminal, where
  only a shell that lets itself be ended can be. -/
  shells : ∀ shell stream, base.streams.length ≤ shell → now.stream? shell = some stream →
    stream.alive = true → stream.faults.kill = none →
      ∃! aux, aux ∈ now.registry.terminals ∧ aux.shell = shell
  /-- Every terminal has a shell that was started for it, which no other has, and is known by
  its own identity, which is an auxiliary one. -/
  terminals : ∀ aux ∈ now.registry.terminals,
    aux.terminal.stream = some aux.shell ∧ base.streams.length ≤ aux.shell ∧
      (now.stream? aux.shell).isSome ∧ aux.id.isAuxiliary = true ∧
      now.registry.get? aux.id = some aux
  unique : now.registry.ids.Nodup ∧ (now.registry.terminals.map AuxiliaryTerminal.shell).Nodup
  /-- Whatever happens but that terminals are closed, those there are stay where they are with
  their shells. -/
  kept : ∀ earlier event, earlier ++ [event] <+: events → (∀ id, event ≠ .closes id) →
    (base.runShells earlier).registry.terminals <+:
        (base.runShells (earlier ++ [event])).registry.terminals ∧
      (base.runShells earlier).streams <+: (base.runShells (earlier ++ [event])).streams
  /-- A declined question or a directory in which no shell can be started starts none and
  changes nothing, whether a terminal was to be opened or restored. -/
  failed : ∀ choice, now.Fails choice → ∀ ticket byCommand terminal,
    Console.SameShells now (now.finishTerminal ticket byCommand choice) ∧
      Console.SameShells now (now.restoreChosen terminal choice).1 ∧
      (now.restoreChosen terminal choice).2 = false
  refused : ∀ cwd, now.Refuses (Directory.expandHome now.host.home cwd) → ∀ terminal,
    Console.SameShells now (now.restoreIn terminal cwd).1 ∧
      (now.restoreIn terminal cwd).2 = false
  /-- The number an operation says it has restored is the number of terminals it has
  registered. -/
  counted : ∀ ticket total, .finished ticket (.restored total) ∈ now.trace →
    base.registeredFor ticket events = total
  /-- What survives a restart lists every terminal once, by identity. -/
  persisted : now.registry.persist.Perm (now.registry.terminals.map AuxiliaryTerminal.persisted) ∧
    now.registry.persist.Pairwise fun first second => first.id.text < second.id.text

/-- However operations that open, restore and close auxiliary terminals interleave, no shell is
lost, none is attached twice and no terminal is displaced. -/
theorem shell_books (base : Console) (events : List ShellEvent) (fresh : base.NoShells)
    (draws : ∀ n, (base.host.identities.draw n).isAuxiliary = true)
    (tickets : (events.filterMap ShellEvent.begins?).Nodup) :
    ShellBooks base events (base.runShells events) := by
  have inOrder := (fresh.inOrder draws).run events
  exact {
    shells := fun shell stream above found alive ends => by
      have registered : shell ∈
          (base.runShells events).registry.terminals.map AuxiliaryTerminal.shell := by
        by_contra unregistered
        have ended := inOrder.tidy.ended shell stream above found unregistered
        simp [alive, ends] at ended
      obtain ⟨aux, member, rfl⟩ := List.mem_map.mp registered
      exact ⟨aux, ⟨member, rfl⟩, fun other owner =>
        List.inj_on_of_nodup_map inOrder.tidy.shells owner.1 member owner.2⟩
    terminals := fun aux member => by
      obtain ⟨above, below⟩ := inOrder.tidy.started aux member
      exact ⟨inOrder.tidy.attached aux member, above, by simpa [Console.stream?] using below,
        inOrder.tidy.auxiliary aux member, Registry.get?_of_mem inOrder.tidy.ids member⟩
    unique := ⟨inOrder.tidy.ids, inOrder.tidy.shells⟩
    kept := fun earlier event _ notClosing => by
      rw [Console.runShells_concat]
      exact ((fresh.inOrder draws).run earlier).kept notClosing
    failed := fun choice fails ticket byCommand terminal =>
      ⟨Console.finishTerminal_fails _ fails ticket byCommand,
        Console.restoreChosen_fails _ fails terminal⟩
    refused := fun cwd refuses terminal => Console.restoreIn_fails _ refuses terminal
    counted := fun ticket total said =>
      ((fresh.counts draws tickets).ended ticket total said).2.2
    persisted := ⟨Registry.persist_perm _, Registry.persist_sorted inOrder.tidy.ids⟩ }

/-- Two operations restore the same terminal, one of them while it waits for the user, a third
opens a new one, and the restored one is closed in between. -/
theorem shell_books_raced :
    let base := { Console.bare ⟨2, 20⟩ with
      host := { Host.permissive with reply := fun _ => .hesitates } }
    let item := TerminalId.auxiliary 7
    let events := [ShellEvent.restores 1 [⟨item, none⟩, ⟨TerminalId.repl, none⟩],
      .opens 2 false, .restores 3 [⟨item, some "/b"⟩], .answers 0 (some "/a"), .resumes 0,
      .closes item, .answers 0 (some "~/c"), .resumes 0, .opens 4 true, .answers 0 none, .resumes 0]
    base.NoShells ∧ ShellBooks base events (base.runShells events) := by
  intro base item events
  have fresh : base.NoShells := ⟨rfl, rfl, rfl, fun ticket total said => nomatch said⟩
  exact ⟨fresh, shell_books base events fresh (IdSupply.counting_isAuxiliary 1) (by decide)⟩

end RuntimeConsole
