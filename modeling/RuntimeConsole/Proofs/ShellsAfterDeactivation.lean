/-
Module: RuntimeConsole.Proofs.ShellsAfterDeactivation
Purpose: Which auxiliary shells run once a console has been taken down in the midst of
  operations that open, restore and close terminals.
Main exports:
  Aftermath, shells_after_deactivation
-/
import RuntimeConsole.Proofs.ActivatedConsole
import RuntimeConsole.Proofs.ShellLodging

namespace RuntimeConsole

namespace Console

/-! ### Taking the console down -/

/-- The console after everything but the auxiliary terminals has been let go of. -/
def letGoAll (console : Console) : Console :=
  ({ console with subscriptions := .empty }.dispose console.subscriptions).deactivateSession

theorem deactivate_eq (console : Console) :
    console.deactivate = (console.letGoAll.shutdownShells, console.registry.persist) := rfl

theorem deactivateSession_changes (console : Console) :
    Changes (.session :: releaseAspects) console console.deactivateSession := by
  refine console.teardownCycle_changes.trans (.trans ⟨fun aspect outside => ?_⟩
    ((dispose_changes _ _).mono (by decide)))
  cases aspect <;> first | rfl | exact absurd (by decide) outside

theorem letGoAll_changes (console : Console) :
    Changes (.subscriptions :: .session :: releaseAspects) console console.letGoAll := by
  refine .trans ?_ ((deactivateSession_changes _).mono (by decide))
  refine .trans ⟨fun aspect outside => ?_⟩ ((dispose_changes _ _).mono (by decide))
  cases aspect <;> first | rfl | exact absurd (by decide) outside

/-- What is taken down of the auxiliary terminals: the registry is empty and its shells have been
ended, while all that waits goes on waiting. -/
structure TakenDown (before after : Console) : Prop where
  registry : after.registry = .empty
  streams : after.streams =
    killAll (before.registry.terminals.map AuxiliaryTerminal.shell) before.streams
  errands : after.errands = before.errands
  tasks : after.tasks = before.tasks
  host : after.host = before.host

theorem deactivate_takenDown (console : Console) : TakenDown console console.deactivate.1 := by
  have gone := console.letGoAll_changes
  have shells := gone.same .shells (by decide)
  simp only [look, Prod.mk.injEq] at shells
  have streams : console.letGoAll.streams = console.streams := gone.same .streams (by decide)
  rw [deactivate_eq, shutdownShells_eq]
  exact {
    registry := rfl
    streams := by rw [shells.1, streams]
    errands := shells.2.2.1
    tasks := gone.same .tasks (by decide)
    host := gone.same .host (by decide) }

variable {before after : Console}

theorem killAll_length (shells : List Nat) (streams : List ProcessStream) :
    (killAll shells streams).length = streams.length := by
  induction shells generalizing streams with
  | nil => rfl
  | cons shell shells inductionHypothesis =>
      exact (inductionHypothesis _).trans (List.length_modify ..)

theorem TakenDown.waiting (down : TakenDown before after) : after.waiting = before.waiting := by
  rw [Console.waiting, down.errands, down.tasks, Console.waiting]

/-- A shell is over that was registered or was over before. -/
theorem TakenDown.over_of_ended (down : TakenDown before after) {shell : Nat}
    {stream : ProcessStream}
    (ended : shell ∉ before.registry.terminals.map AuxiliaryTerminal.shell →
      ∀ earlier, before.stream? shell = some earlier → earlier.Over)
    (found : after.stream? shell = some stream) : stream.Over := by
  rw [stream?, down.streams] at found
  obtain ⟨earlier, known, -, -, -, killed, same⟩ := killAll_cases found
  by_cases registered : shell ∈ before.registry.terminals.map AuxiliaryTerminal.shell
  · exact killed registered
  · obtain rfl := same registered
    exact ended registered stream known

/-- Every shell that was started is over. -/
theorem TakenDown.all_over {first : Nat} (down : TakenDown before after)
    (tidy : Tidy first before.registry before.streams) {shell : Nat} {stream : ProcessStream}
    (above : first ≤ shell) (found : after.stream? shell = some stream) : stream.Over :=
  down.over_of_ended
    (fun unregistered earlier known => tidy.ended shell earlier above known unregistered) found

/-- Nothing is registered, so everything that is going to be belongs to a shell of its own that
is started later. -/
theorem TakenDown.inOrder {first : Nat} (down : TakenDown before after)
    (inOrder : InOrder first before) : InOrder after.streams.length after where
  tidy := by
    rw [down.registry]
    have none (aux : AuxiliaryTerminal) : aux ∉ Registry.empty.terminals := List.not_mem_nil
    exact {
      bound := Nat.le_refl _
      ids := .nil
      auxiliary := fun aux member => (none aux member).elim
      attached := fun aux member => (none aux member).elim
      shells := .nil
      started := fun aux member => (none aux member).elim
      ended := fun _ _ above found _ =>
        absurd (List.getElem?_eq_some_iff.mp found).1 (Nat.not_lt.mpr above) }
  draws := by
    rw [down.host]
    exact inOrder.draws
  proper := by
    rw [down.waiting]
    exact inOrder.proper
  onlyErrands := by
    rw [OnlyErrands, down.tasks]
    exact inOrder.onlyErrands

/-! ### Operations that go on -/

theorem prefix_modify {Item : Type} {items longer : List Item} {place : Nat}
    (within : items <+: longer) (behind : items.length ≤ place) (change : Item → Item) :
    items <+: longer.modify place change := by
  rw [List.prefix_iff_getElem?] at within ⊢
  intro index inside
  have other : place ≠ index := by omega
  rw [List.getElem?_modify, within index inside]
  simp [other]

variable {limit : Nat} {event : ShellEvent}

/-- The streams there were when the console was taken down stay as they were left: only shells
that were started later are closed. -/
theorem InOrder.spares {streams : List ProcessStream} (inOrder : InOrder streams.length before)
    (within : streams <+: before.streams) (event : ShellEvent) :
    streams <+: (before.applyShell event).streams := by
  by_cases closing : ∃ id, event = .closes id
  · obtain ⟨id, rfl⟩ := closing
    unfold applyShell closeTerminal
    dsimp only
    split
    next => exact within
    next aux found =>
        unfold killShell
        rw [tryOnStream_eq]
        exact prefix_modify within
          (inOrder.tidy.started aux (List.mem_of_find?_eq_some found)).1 _
  · have stays : ∀ id, event ≠ .closes id := fun id same => closing ⟨id, same⟩
    exact within.trans (inOrder.kept stays).2

theorem InOrder.spares_run {streams : List ProcessStream}
    (inOrder : InOrder streams.length before) (within : streams <+: before.streams)
    (events : List ShellEvent) : streams <+: (before.runShells events).streams := by
  induction events generalizing before with
  | nil => exact within
  | cons event events inductionHypothesis =>
      exact inductionHypothesis (inOrder.step event) (inOrder.spares within event)

/-- An operation that is carried on waits under its own number, if it waits. -/
theorem Goes.tickets {ticket count : Nat} (goes : Goes ticket count before after) :
    after.waiting.map Errand.ticket ⊆ ticket :: before.waiting.map Errand.ticket := by
  cases goes with
  | ends serves _ =>
      simp only [Console.waiting, finish, emit, serves.beside.errands, serves.beside.tasks]
      exact List.subset_cons_self _ _
  | waits serves owner _ _ =>
      intro other member
      simp only [Console.waiting, serves.beside.errands, serves.beside.tasks, List.map_append,
        List.map_cons, List.map_nil, owner, List.mem_append, List.mem_cons] at member ⊢
      tauto

/-- What an event does to operations: it starts a shell for one of those that wait or for the
one that begins with it, and no other operation waits afterwards. -/
theorem ShellMove.cause (move : ShellMove before event after) :
    (after.waiting.map Errand.ticket ⊆
        before.waiting.map Errand.ticket ++ event.begins?.toList) ∧
      (after.streams.length ≠ before.streams.length → ∃ ticket,
        before.carries? event = some ticket ∧
          ticket ∈ before.waiting.map Errand.ticket ++ event.begins?.toList) := by
  cases move with
  | begins begins owned goes =>
      rw [begins, Option.toList_some]
      refine ⟨List.Subset.trans goes.tickets fun ticket member => ?_,
        fun _ => ⟨_, owned, by simp⟩⟩
      rw [List.mem_append, List.mem_singleton]
      exact (List.mem_cons.mp member).symm
  | resumes begins owned same listed _ goes =>
      have tickets := listed.map Errand.ticket
      rw [List.map_cons] at tickets
      rw [begins, Option.toList_none, List.append_nil]
      refine ⟨fun ticket member => tickets.mem_iff.mpr (goes.tickets member), fun _ => ?_⟩
      exact ⟨_, owned, tickets.mem_iff.mpr List.mem_cons_self⟩
  | rearranges begins _ same listed _ =>
      rw [begins, Option.toList_none, List.append_nil]
      exact ⟨(listed.map Errand.ticket).symm.subset,
        fun grown => absurd (congrArg List.length same.shells.streams) grown⟩
  | closes same =>
      subst same
      unfold closeTerminal ShellEvent.begins?
      rw [Option.toList_none, List.append_nil]
      split
      · exact ⟨List.Subset.refl _, fun grown => absurd rfl grown⟩
      · unfold killShell
        rw [tryOnStream_eq]
        exact ⟨List.Subset.refl _, fun grown => absurd (List.length_modify ..) grown⟩
  | turns same =>
      subst same
      exact ⟨fun _ member => List.mem_append_left _ member, fun grown => absurd rfl grown⟩

/-- Every operation that waits after a run waited before it or began in it. -/
theorem InOrder.tickets (inOrder : InOrder limit before) (events : List ShellEvent) :
    (before.runShells events).waiting.map Errand.ticket ⊆
      before.waiting.map Errand.ticket ++ events.filterMap ShellEvent.begins? := by
  induction events using List.reverseRecOn with
  | nil => simp [runShells]
  | append_singleton events event inductionHypothesis =>
      have reached := inOrder.run events
      have moved := (applyShell_move _ reached.onlyErrands reached.proper event).cause.1
      have last : [event].filterMap ShellEvent.begins? = event.begins?.toList := by
        cases begins : event.begins? <;> simp [begins]
      rw [runShells_concat, List.filterMap_append, last, ← List.append_assoc]
      exact List.Subset.trans moved (List.append_subset.mpr
        ⟨List.Subset.trans inductionHypothesis (List.subset_append_left _ _),
          List.subset_append_right _ _⟩)

/-! ### An answer that comes late -/

/-- A terminal is registered whose shell runs. -/
def ShellRuns (console : Console) (limit : Nat) : Prop :=
  ∃ aux stream, aux ∈ console.registry.terminals ∧ limit ≤ aux.shell ∧
    console.stream? aux.shell = some stream ∧ stream.alive = true

theorem ShellRuns.later (runs : before.ShellRuns limit)
    (terminals : before.registry.terminals <+: after.registry.terminals)
    (streams : before.streams <+: after.streams) : after.ShellRuns limit := by
  obtain ⟨aux, stream, member, above, found, alive⟩ := runs
  obtain ⟨inside, rfl⟩ := List.getElem?_eq_some_iff.mp found
  exact ⟨aux, _, terminals.subset member, above,
    List.prefix_iff_getElem?.mp streams aux.shell inside, alive⟩

/-- A terminal that was registered runs a new shell. -/
theorem Houses.runs (houses : Houses before after)
    (registered : before.registry.size < after.registry.size) :
    after.ShellRuns before.streams.length := by
  obtain ⟨added, grown, lodged⟩ := houses.added
  cases added with
  | nil => simp [Registry.size, grown] at registered
  | cons aux rest =>
      obtain ⟨-, above, stream, found, alive⟩ := lodged aux List.mem_cons_self
      exact ⟨aux, stream, by rw [grown]; simp, above, found, alive⟩

/-- Where no terminal is open and a shell can be started, an operation that gets a directory
starts one. -/
theorem resumeErrand_runs {console : Console} {choice : Option String} {errand : Errand}
    (empty : console.registry = .empty) (succeeds : ¬ console.Fails choice)
    (guarded : errand.Guarded) :
    (console.resumeErrand choice errand).ShellRuns console.streams.length := by
  obtain ⟨failure, fails, -⟩ | ⟨cwd, -, result, starts⟩ := console.startChosen_cases choice
  · exact absurd fails succeeds
  cases errand with
  | shell ticket => exact guarded.elim
  | newTerminal ticket byCommand =>
      unfold resumeErrand finishTerminal
      generalize console.startChosen choice = outcome at result starts
      obtain ⟨reached, answer⟩ := outcome
      obtain rfl : answer = .ok (console.streams.length, cwd) := result
      dsimp only at starts ⊢
      have serves : Serves console 1 (reached.openTerminal console.streams.length cwd).1 :=
        starts.openTerminal
      have size := serves.size
      exact starts.openTerminal_lodges.houses.runs (by omega)
  | restore ticket terminal rest count =>
      unfold resumeErrand restoreChosen
      generalize console.startChosen choice = outcome at result starts
      obtain ⟨reached, answer⟩ := outcome
      obtain rfl : answer = .ok (console.streams.length, cwd) := result
      dsimp only at starts ⊢
      have admitted : (reached.admitRestored terminal console.streams.length cwd).2 = true := by
        have same : (reached.attachShell terminal console.streams.length cwd).1.registry = .empty :=
          (starts.change _).registry.trans empty
        unfold admitRestored
        dsimp only
        rw [same]
        rfl
      have serves : Serves console (reached.admitRestored terminal _ cwd).2.toNat
          (reached.admitRestored terminal console.streams.length cwd).1 :=
        starts.admitRestored guarded.1
      have size := serves.size
      rw [admitted, Bool.toNat_true] at size
      have lodges : Lodges console
          (reached.admitRestored terminal console.streams.length cwd).1 :=
        starts.admitRestored_lodges guarded.2
      have runs := lodges.houses.runs (by omega)
      obtain ⟨terminals, streams⟩ := (restoreFrom_goes _ ticket _ rest).grows
      exact runs.later terminals streams

end Console

open Console

/-- What becomes of the auxiliary shells of a console that is taken down in the midst of
operations on them and of which nothing but such operations is taken up afterwards. -/
structure Aftermath (before : Console) (later : List ShellEvent) : Prop where
  /-- The terminals that were open are gone, and every shell that was started is over: it does
  not run, unless it refuses to be ended. -/
  registry : before.deactivate.1.registry = .empty
  finished : ∀ shell stream, before.deactivate.1.stream? shell = some stream → stream.Over
  /-- The operations that wait for the user or to be taken up again go on waiting. -/
  waiting : before.deactivate.1.waiting = before.waiting
  /-- A shell that is over stays so. -/
  spared : before.deactivate.1.streams <+: (before.deactivate.1.runShells later).streams
  /-- A shell that runs later on was started later and belongs to exactly one terminal of the
  registry, where only a shell that lets itself be ended can be. -/
  late : ∀ shell stream,
    (before.deactivate.1.runShells later).stream? shell = some stream →
      stream.alive = true → stream.faults.kill = none →
        before.streams.length ≤ shell ∧
          ∃! aux, aux ∈ (before.deactivate.1.runShells later).registry.terminals ∧
            aux.shell = shell
  /-- Where an event starts a shell, it carries on an operation that waited when the console was
  taken down or has begun since. -/
  cause : ∀ first event, first ++ [event] <+: later →
    (before.deactivate.1.runShells (first ++ [event])).streams.length ≠
        (before.deactivate.1.runShells first).streams.length →
      ∃ ticket, (before.deactivate.1.runShells first).carries? event = some ticket ∧
        ticket ∈ before.waiting.map Errand.ticket ++
          (first ++ [event]).filterMap ShellEvent.begins?
  /-- So none is started where nothing waited and nothing begins. -/
  none : before.waiting = [] → later.filterMap ShellEvent.begins? = [] →
    (before.deactivate.1.runShells later).streams = before.deactivate.1.streams
  /-- But an operation that waited for the user starts a shell, if it gets a directory in which
  one can be started, and nothing ends it. -/
  outlives : ∀ question errand choice, before.errands[question]? = some errand →
    ¬ before.deactivate.1.Fails choice →
      (before.deactivate.1.runShells
          [.answers question choice, .resumes before.tasks.length]).ShellRuns
        before.streams.length

namespace Console

variable {before : Console}

theorem InOrder.cause {limit : Nat} {down : Console} (inOrder : InOrder limit down)
    (first : List ShellEvent) (event : ShellEvent)
    (grown : (down.runShells (first ++ [event])).streams.length ≠
      (down.runShells first).streams.length) :
    ∃ ticket, (down.runShells first).carries? event = some ticket ∧
      ticket ∈ down.waiting.map Errand.ticket ++
        (first ++ [event]).filterMap ShellEvent.begins? := by
  have reached := inOrder.run first
  rw [runShells_concat] at grown
  obtain ⟨ticket, owned, known⟩ :=
    (applyShell_move _ reached.onlyErrands reached.proper event).cause.2 grown
  refine ⟨ticket, owned, ?_⟩
  have last : [event].filterMap ShellEvent.begins? = event.begins?.toList := by
    cases begins : event.begins? <;> simp [begins]
  rw [List.filterMap_append, last, ← List.append_assoc]
  rcases List.mem_append.mp known with old | new
  · exact List.mem_append_left _ (inOrder.tickets first old)
  · exact List.mem_append_right _ new

/-- Where nothing waits and nothing begins, no shell is started. -/
theorem InOrder.starts_none {limit : Nat} {down : Console} (inOrder : InOrder limit down)
    (idle : down.waiting = []) (events : List ShellEvent)
    (none : events.filterMap ShellEvent.begins? = []) :
    (down.runShells events).streams.length = down.streams.length := by
  induction events using List.reverseRecOn with
  | nil => rfl
  | append_singleton events event inductionHypothesis =>
      by_contra grown
      rw [List.filterMap_append, List.append_eq_nil_iff] at none
      rw [← inductionHypothesis none.1] at grown
      obtain ⟨ticket, -, known⟩ := inOrder.cause events event grown
      simp [idle, none] at known

/-- An operation that waits for the user goes on with an answer, before anything else that has
been put off since. -/
theorem runShells_answered {down : Console} {question : Nat} {errand : Errand}
    (found : down.errands[question]? = some errand) (choice : Option String) :
    down.runShells [.answers question choice, .resumes down.tasks.length] =
      { down with
        errands := down.errands.eraseIdx question }.resumeErrand choice errand := by
  have answered : down.answerQuestion question choice =
      { down with
        errands := down.errands.eraseIdx question
        tasks := down.tasks ++ [.chosen errand choice] } := by
    rw [answerQuestion, found]
    rfl
  simp only [runShells, List.foldl_cons, List.foldl_nil, applyShell, answered, resumeTask,
    List.getElem?_concat_length, List.eraseIdx_append_of_length_le (Nat.le_refl _), Nat.sub_self,
    List.eraseIdx_cons_zero, List.append_nil]
  rfl

theorem aftermath_of_inOrder (inOrder : InOrder 0 before) (attended : before.Attended)
    (later : List ShellEvent) : Aftermath before later := by
  have down := before.deactivate_takenDown
  have afresh := down.inOrder inOrder
  have longer : before.deactivate.1.streams.length = before.streams.length := by
    rw [down.streams, killAll_length]
  have finished (shell : Nat) (stream : ProcessStream)
      (found : before.deactivate.1.stream? shell = some stream) : stream.Over :=
    down.all_over inOrder.tidy (Nat.zero_le shell) found
  have spared := afresh.spares_run (List.prefix_refl _) later
  have reached := afresh.run later
  exact {
    registry := down.registry
    finished := finished
    waiting := down.waiting
    spared := spared
    late := fun shell stream found alive ends => by
      have behind : before.deactivate.1.streams.length ≤ shell := by
        by_contra inside
        have earlier : before.deactivate.1.stream? shell = some stream := by
          have known := List.prefix_iff_getElem?.mp spared shell (Nat.not_le.mp inside)
          rw [stream?, found.symm.trans known]
          exact List.getElem?_eq_getElem _
        simpa [ProcessStream.Over, alive, ends] using finished shell stream earlier
      have registered : shell ∈
          (before.deactivate.1.runShells later).registry.terminals.map AuxiliaryTerminal.shell := by
        by_contra unregistered
        simpa [alive, ends] using reached.tidy.ended shell stream behind found unregistered
      obtain ⟨aux, member, rfl⟩ := List.mem_map.mp registered
      exact ⟨longer ▸ behind, aux, ⟨member, rfl⟩, fun other owner =>
        List.inj_on_of_nodup_map reached.tidy.shells owner.1 member owner.2⟩
    cause := fun first event _ grown => down.waiting ▸ afresh.cause first event grown
    none := fun idle nothing =>
      (spared.eq_of_length
        (afresh.starts_none (down.waiting.trans idle) later nothing).symm).symm
    outlives := fun question errand choice asked succeeds => by
      have found : before.deactivate.1.errands[question]? = some errand := down.errands ▸ asked
      have guarded := attended errand (List.mem_append_left _ (List.mem_of_getElem? asked))
      rw [← down.tasks, runShells_answered found choice, ← longer]
      exact resumeErrand_runs down.registry succeeds guarded }

end Console

/-- Taking a console down ends every auxiliary shell there is, but not the operations that wait
in the midst of starting one: each of them still starts its shell when it gets a directory, and
only they and later operations do. -/
theorem shells_after_deactivation (parts : ConsoleParts) (start : Console)
    (earlier later : List ShellEvent) (activated : activate? parts = some start)
    (draws : ∀ n, (parts.host.identities.draw n).isAuxiliary = true) :
    Aftermath (start.runShells earlier) later := by
  have begun : InOrder 0 (wired parts) := by
    have first := (wired_noShells parts).inOrder (wired_host parts ▸ draws)
    rwa [wired_streams parts] at first
  have nobody : (wired parts).Attended := by
    rw [Attended, (wired_noShells parts).waiting]
    exact fun errand member => (List.not_mem_nil member).elim
  obtain rfl := activate?_eq activated
  exact aftermath_of_inOrder ((begun.run _).run earlier) ((nobody.run _).run earlier) later

/-- A user who leaves every question open for the time being. -/
def hesitantParts : ConsoleParts :=
  ⟨.standard "sh", { Host.permissive with reply := fun _ => .hesitates }, none, false, []⟩

/-- The user chooses a directory for a new terminal after the console has been taken down: the
shell is started and runs. -/
theorem shells_after_deactivation_prompted :
    let start := wired hesitantParts
    let later := [ShellEvent.answers 0 (some "/tmp"), .resumes 0]
    activate? hesitantParts = some start ∧
      Aftermath (start.runShells [.opens 1 true]) later ∧
      ((start.runShells [.opens 1 true]).deactivate.1.runShells later).streams.map
        ProcessStream.alive = [true] := by
  intro start later
  have activated : activate? hesitantParts = some start := rfl
  exact ⟨activated, shells_after_deactivation hesitantParts start [.opens 1 true] later activated
    (IdSupply.counting_isAuxiliary 1), by decide +kernel⟩

end RuntimeConsole
