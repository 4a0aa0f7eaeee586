/-
Module: RuntimeConsole.Proofs.ShellLodging
Purpose: What becomes of each shell that is started: it is lodged in a new terminal of the
  registry, or it is ended at once.
Main exports:
  Lodged, Console.Lodges, Console.Proceeds, Console.resumeErrand_proceeds, Console.Houses
-/
import RuntimeConsole.Proofs.SessionFootprint
import RuntimeConsole.Proofs.ShellBooks

namespace RuntimeConsole

/-- Whether a shell is over: it has ended, unless it refuses to. -/
def ProcessStream.Over (stream : ProcessStream) : Prop :=
  stream.alive = false ∨ stream.faults.kill.isSome

/-- A terminal that leaves the keystrokes of auxiliary terminals to the editor and asks nobody
for a start. -/
structure Terminal.Guarded (terminal : Terminal) : Prop where
  keys : terminal.keyFilter = some (.lists .auxiliary)
  start : terminal.startHandler = none

/-- A terminal of the registry with its shell attached. -/
structure Lodged (aux : AuxiliaryTerminal) : Prop where
  guarded : aux.terminal.Guarded
  attached : aux.terminal.stream = some aux.shell

/-- Whether an errand opens auxiliary terminals, all of them guarded. -/
def Errand.Guarded : Errand → Prop
  | .shell _ => False
  | .newTerminal .. => True
  | .restore _ terminal _ _ => terminal.id.isAuxiliary = true ∧ terminal.Guarded

namespace Console

theorem auxiliaryTerminal_guarded (console : Console) (id : TerminalId) :
    (console.auxiliaryTerminal id).Guarded := ⟨rfl, rfl⟩

/-! ### Shells that are started -/

/-- Shells are started one after the other, and each is lodged or ended before the next. -/
inductive Lodges (before : Console) : Console → Prop where
  | refl : Lodges before before
  /-- Something is done between shells. -/
  | aside {middle after : Console} : Lodges before middle → Starts middle [] after →
      Lodges before after
  | lodges {middle ready : Console} {stream : ProcessStream} {aux : AuxiliaryTerminal} :
      Lodges before middle → Starts middle [stream] ready → stream.alive = true →
      stream.input = [] → aux.id ∉ middle.registry.ids → Lodged aux →
      aux.shell = middle.streams.length → Lodges before (ready.register aux)
  | loses {middle after : Console} {stream : ProcessStream} :
      Lodges before middle → Starts middle [stream] after → stream.Over → stream.input = [] →
      Lodges before after

variable {before middle after : Console} {stream : ProcessStream} {terminal : Terminal}
  {cwd : String} {ticket : Nat}

theorem Lodges.trans (earlier : Lodges before middle) (later : Lodges middle after) :
    Lodges before after := by
  induction later with
  | refl => exact earlier
  | aside _ starts inductionHypothesis => exact .aside inductionHypothesis starts
  | lodges _ starts alive untouched unused lodged shell inductionHypothesis =>
      exact .lodges inductionHypothesis starts alive untouched unused lodged shell
  | loses _ starts finished untouched inductionHypothesis =>
      exact .loses inductionHypothesis starts finished untouched

theorem Starts.lodges (starts : Starts before [] after) : Lodges before after :=
  .aside .refl starts

/-- A shell that is told the size of its screen runs and has not been written to. -/
theorem fresh_after_resize (faults : StreamFaults) (size : Size) :
    ((ProcessStream.fresh faults).after (·.resize size)).alive = true ∧
      ((ProcessStream.fresh faults).after (·.resize size)).input = [] := by
  unfold ProcessStream.after ProcessStream.resize ProcessStream.unlessRefused
  cases refused : faults.resize <;> simp [ProcessStream.fresh, refused]

theorem input_after_kill (stream : ProcessStream) :
    (stream.after ProcessStream.kill).input = stream.input := by
  unfold ProcessStream.after ProcessStream.kill ProcessStream.unlessRefused
  cases stream.faults.kill <;> rfl

theorem faults_after_kill (stream : ProcessStream) :
    (stream.after ProcessStream.kill).faults = stream.faults := by
  unfold ProcessStream.after ProcessStream.kill ProcessStream.unlessRefused
  cases stream.faults.kill <;> rfl

/-- A shell is lodged in a terminal that is restored, or ended if its identity is in use. -/
theorem Starts.admitRestored_lodges {faults : StreamFaults}
    (starts : Starts before [.fresh faults] after) (guarded : terminal.Guarded) :
    Lodges before (after.admitRestored terminal before.streams.length cwd).1 := by
  have told := starts.change fun shell => shell.resize terminal.grid.size
  obtain ⟨alive, untouched⟩ := fresh_after_resize faults terminal.grid.size
  unfold Console.admitRestored attachShell
  dsimp only
  split
  next =>
      have killed := told.change ProcessStream.kill
      exact .loses .refl killed (ProcessStream.ended_after_kill _)
        ((input_after_kill _).trans untouched)
  next unused =>
      refine .lodges .refl told alive untouched ?_ ⟨⟨guarded.keys, guarded.start⟩, rfl⟩ rfl
      rw [← told.registry]
      change terminal.id ∉ _
      simpa [Registry.contains] using unused

theorem Starts.openTerminal_lodges {faults : StreamFaults}
    (starts : Starts before [.fresh faults] after) :
    Lodges before (after.openTerminal before.streams.length cwd).1 := by
  have unused := after.host.identities.draw_firstUnused_not_mem after.registry.ids after.drawn
  unfold Console.openTerminal freshIdentity attachShell
  dsimp only
  generalize after.host.identities.firstUnused after.registry.ids after.drawn = drawn at unused ⊢
  have drawnOnly : Starts before [.fresh faults] { after with drawn := drawn + 1 } :=
    ⟨⟨starts.beside.errands, starts.beside.tasks, starts.beside.host, starts.beside.told⟩,
      starts.registry, starts.streams⟩
  rw [starts.registry] at unused
  obtain ⟨alive, untouched⟩ := fresh_after_resize faults
    ({ after with drawn := drawn + 1 }.auxiliaryTerminal
      (after.host.identities.draw drawn)).grid.size
  exact .lodges .refl (drawnOnly.change _) alive untouched unused ⟨⟨rfl, rfl⟩, rfl⟩ rfl

theorem restoreChosen_lodges (console : Console) (choice : Option String)
    (guarded : terminal.Guarded) :
    Lodges console (console.restoreChosen terminal choice).1 := by
  have started := console.startChosen_cases choice
  unfold restoreChosen
  generalize console.startChosen choice = outcome at started
  obtain ⟨reached, result⟩ := outcome
  obtain ⟨failure, -, rfl, starts⟩ | ⟨cwd, -, rfl, starts⟩ := started
  · exact starts.lodges
  · exact starts.admitRestored_lodges guarded

theorem restoreIn_lodges (console : Console) (cwd : String) (guarded : terminal.Guarded) :
    Lodges console (console.restoreIn terminal cwd).1 := by
  have started := console.startShell_cases (Directory.expandHome console.host.home cwd)
  unfold restoreIn
  dsimp only
  generalize console.startShell (Directory.expandHome console.host.home cwd) = outcome at started
  obtain ⟨reached, result⟩ := outcome
  obtain ⟨failure, -, rfl, starts⟩ | ⟨-, rfl, starts⟩ := started
  · exact starts.lodges
  · exact starts.admitRestored_lodges guarded

/-! ### Operations that end or wait -/

/-- An operation has been carried on until it ends, or until it waits for the user. -/
inductive Proceeds (before : Console) : Console → Prop where
  | ends {reached : Console} (ticket : Nat) (outcome : Outcome) :
      Lodges before reached → Proceeds before (reached.finish ticket outcome)
  | waits {reached : Console} {errand : Errand} :
      Lodges before reached → errand.Guarded →
      Proceeds before { reached with errands := reached.errands ++ [errand] }

theorem Lodges.proceeds (earlier : Lodges before middle) (later : Proceeds middle after) :
    Proceeds before after := by
  cases later with
  | ends ticket outcome later => exact .ends ticket outcome (earlier.trans later)
  | waits later guarded => exact .waits (earlier.trans later) guarded

theorem finishTerminal_proceeds (console : Console) (ticket : Nat) (byCommand : Bool)
    (choice : Option String) :
    Proceeds console (console.finishTerminal ticket byCommand choice) := by
  have started := console.startChosen_cases choice
  unfold finishTerminal
  generalize console.startChosen choice = outcome at started
  obtain ⟨reached, result⟩ := outcome
  obtain ⟨failure, -, rfl, starts⟩ | ⟨cwd, -, rfl, starts⟩ := started
  · exact .ends _ _ starts.lodges
  · exact .ends _ _ starts.openTerminal_lodges

theorem restoreFrom_proceeds (console : Console) (ticket count : Nat)
    (items : List PersistedTerminal) :
    Proceeds console (console.restoreFrom ticket count items) := by
  induction items generalizing console count with
  | nil => exact .ends _ _ .refl
  | cons item rest inductionHypothesis =>
      have guarded := console.auxiliaryTerminal_guarded item.id
      unfold restoreFrom
      split
      next => exact inductionHypothesis console count
      next accepted =>
          have auxiliary : item.id.isAuxiliary = true := by
            simp at accepted
            exact accepted.1
          dsimp only
          split
          next cwd _ =>
              exact (console.restoreIn_lodges cwd guarded).proceeds (inductionHypothesis _ _)
          next =>
              have asked := console.askDirectory_starts
              split
              next reached choice result =>
                  rw [result] at asked
                  exact (asked.lodges.trans (reached.restoreChosen_lodges choice guarded)).proceeds
                    (inductionHypothesis _ _)
              next reached result =>
                  rw [result] at asked
                  exact .waits asked.lodges ⟨auxiliary, guarded⟩

/-- An operation on auxiliary terminals goes on with the answer of the user. -/
theorem resumeErrand_proceeds (console : Console) (choice : Option String) {errand : Errand}
    (guarded : errand.Guarded) : Proceeds console (console.resumeErrand choice errand) := by
  cases errand with
  | shell ticket => exact guarded.elim
  | newTerminal ticket byCommand => exact console.finishTerminal_proceeds ticket byCommand choice
  | restore ticket terminal rest count =>
      exact (console.restoreChosen_lodges choice guarded.2).proceeds
        (restoreFrom_proceeds _ _ _ _)

theorem newTerminal_proceeds (console : Console) (ticket : Nat) (byCommand : Bool) :
    Proceeds console (console.newTerminal ticket byCommand) := by
  have asked := console.askDirectory_starts
  unfold newTerminal promptFor
  split
  next reached choice result =>
      rw [result] at asked
      exact asked.lodges.proceeds (reached.finishTerminal_proceeds ticket byCommand choice)
  next reached result =>
      rw [result] at asked
      exact .waits asked.lodges trivial

/-! ### What has come of the shells -/

/-- The terminals that were registered come after those there were, and the shells that were
started behind the streams there were: those of the new terminals run, all others are over, and
nothing has been written to any. -/
structure Houses (before after : Console) : Prop where
  host : after.host = before.host
  streams : before.streams <+: after.streams
  added : ∃ added, after.registry.terminals = before.registry.terminals ++ added ∧
    ∀ aux ∈ added, Lodged aux ∧ before.streams.length ≤ aux.shell ∧
      ∃ stream, after.streams[aux.shell]? = some stream ∧ stream.alive = true
  ids : before.registry.ids.Nodup → after.registry.ids.Nodup
  others : ∀ shell stream, before.streams.length ≤ shell → after.streams[shell]? = some stream →
    stream.input = [] ∧
      (shell ∉ after.registry.terminals.map AuxiliaryTerminal.shell → stream.Over)

theorem Houses.refl (console : Console) : Houses console console where
  host := rfl
  streams := List.prefix_refl _
  added := ⟨[], (List.append_nil _).symm, fun _ member => (List.not_mem_nil member).elim⟩
  ids := id
  others _ _ above found :=
    absurd (List.getElem?_eq_some_iff.mp found).1 (Nat.not_lt.mpr above)

/-- Nothing has come of the shells where no shell has been started. -/
theorem Houses.then_aside (houses : Houses before middle) (starts : Starts middle [] after) :
    Houses before after := by
  have streams : after.streams = middle.streams := by simpa using starts.streams
  refine ⟨starts.beside.host.trans houses.host, ?_, ?_, ?_, ?_⟩
  · rw [streams]
    exact houses.streams
  · rw [starts.registry, streams]
    exact houses.added
  · rw [starts.registry]
    exact houses.ids
  · rw [starts.registry, streams]
    exact houses.others

/-- A stream that is found behind all others is the one that came last. -/
theorem getElem?_concat_cases {Item : Type} {items : List Item} {item found : Item} {place : Nat}
    (known : (items ++ [item])[place]? = some found) :
    items[place]? = some found ∨ place = items.length ∧ item = found := by
  rw [List.getElem?_append] at known
  split at known
  next => exact .inl known
  next outside =>
      rw [List.getElem?_singleton] at known
      split at known
      next first => exact .inr ⟨by omega, Option.some.inj known⟩
      next => cases known

theorem getElem?_concat_of_some {Item : Type} {items : List Item} {found : Item} {place : Nat}
    (known : items[place]? = some found) (item : Item) :
    (items ++ [item])[place]? = some found := by
  rw [List.getElem?_append_left (List.getElem?_eq_some_iff.mp known).1, known]

/-- A shell more that is over. -/
theorem Houses.then_ended (houses : Houses before middle) (starts : Starts middle [stream] after)
    (finished : stream.Over) (untouched : stream.input = []) : Houses before after where
  host := starts.beside.host.trans houses.host
  streams := by
    rw [starts.streams]
    exact houses.streams.trans (List.prefix_append _ _)
  added := by
    obtain ⟨added, grown, lodged⟩ := houses.added
    rw [starts.registry, starts.streams]
    refine ⟨added, grown, fun aux member => ?_⟩
    obtain ⟨own, above, running, found, alive⟩ := lodged aux member
    exact ⟨own, above, running, getElem?_concat_of_some found stream, alive⟩
  ids := by
    rw [starts.registry]
    exact houses.ids
  others := by
    rw [starts.registry, starts.streams]
    intro shell other above found
    rcases getElem?_concat_cases found with old | ⟨rfl, rfl⟩
    · exact houses.others shell other above old
    · exact ⟨untouched, fun _ => finished⟩

/-- A shell more that is lodged. -/
theorem Houses.then_lodged {aux : AuxiliaryTerminal} (houses : Houses before middle)
    (starts : Starts middle [stream] after) (alive : stream.alive = true)
    (untouched : stream.input = []) (unused : aux.id ∉ middle.registry.ids) (lodged : Lodged aux)
    (shell : aux.shell = middle.streams.length) : Houses before (after.register aux) where
  host := starts.beside.host.trans houses.host
  streams := by
    change _ <+: after.streams
    rw [starts.streams]
    exact houses.streams.trans (List.prefix_append _ _)
  added := by
    obtain ⟨added, grown, addedLodged⟩ := houses.added
    change ∃ added, after.registry.terminals ++ [aux] = _ ∧ _
    rw [starts.registry, grown]
    refine ⟨added ++ [aux], List.append_assoc .., fun other member => ?_⟩
    change _ ∧ _ ∧ ∃ running, after.streams[other.shell]? = _ ∧ _
    rw [starts.streams]
    rcases List.mem_append.mp member with old | new
    · obtain ⟨own, above, running, found, runs⟩ := addedLodged other old
      exact ⟨own, above, running, getElem?_concat_of_some found stream, runs⟩
    · obtain rfl := List.mem_singleton.mp new
      exact ⟨lodged, shell ▸ houses.streams.length_le, stream, by rw [shell]; simp, alive⟩
  ids known := by
    change ((after.registry.terminals ++ [aux]).map AuxiliaryTerminal.id).Nodup
    rw [starts.registry, List.map_append]
    refine List.nodup_append.mpr ⟨houses.ids known, List.nodup_singleton _, ?_⟩
    rintro id member other last rfl
    exact unused (List.mem_singleton.mp last ▸ member)
  others number other above found := by
    change (after.streams)[number]? = some other at found
    change _ ∧ (number ∉ (after.registry.terminals ++ [aux]).map AuxiliaryTerminal.shell → _)
    rw [starts.streams] at found
    rw [starts.registry, List.map_append]
    rcases getElem?_concat_cases found with old | ⟨rfl, rfl⟩
    · obtain ⟨quiet, finished⟩ := houses.others number other above old
      exact ⟨quiet, fun elsewhere => finished fun member => elsewhere (List.mem_append_left _ member)⟩
    · exact ⟨untouched, fun elsewhere => absurd (by simp [shell]) elsewhere⟩

theorem Lodges.houses (lodges : Lodges before after) : Houses before after := by
  induction lodges with
  | refl => exact .refl before
  | aside _ starts houses => exact houses.then_aside starts
  | lodges _ starts alive untouched unused lodged shell houses =>
      exact houses.then_lodged starts alive untouched unused lodged shell
  | loses _ starts finished untouched houses => exact houses.then_ended starts finished untouched

/-- No operation ends or begins to wait while shells are started. -/
theorem Lodges.beside (lodges : Lodges before after) : Beside before after := by
  induction lodges with
  | refl => exact .refl before
  | aside _ starts beside => exact beside.trans starts.beside
  | lodges _ starts _ _ _ _ _ beside =>
      exact beside.trans
        ⟨starts.beside.errands, starts.beside.tasks, starts.beside.host, starts.beside.told⟩
  | loses _ starts _ _ beside => exact beside.trans starts.beside

theorem Proceeds.houses (proceeds : Proceeds before after) : Houses before after := by
  cases proceeds with
  | ends ticket outcome lodges =>
      have houses := lodges.houses
      exact ⟨houses.host, houses.streams, houses.added, houses.ids, houses.others⟩
  | waits lodges _ =>
      have houses := lodges.houses
      exact ⟨houses.host, houses.streams, houses.added, houses.ids, houses.others⟩

/-- An operation that is carried on leaves the others waiting, and waits itself with a guarded
errand, if it waits. -/
theorem Proceeds.waits_guarded (proceeds : Proceeds before after) :
    after.tasks = before.tasks ∧ ∃ added, after.errands = before.errands ++ added ∧
      ∀ errand ∈ added, errand.Guarded := by
  cases proceeds with
  | ends ticket outcome lodges =>
      exact ⟨lodges.beside.tasks, [], lodges.beside.errands.trans (List.append_nil _).symm, by simp⟩
  | waits lodges guarded =>
      exact ⟨lodges.beside.tasks, [_], by rw [lodges.beside.errands], by simpa using guarded⟩

/-! ### What waits -/

/-- Whether every errand that waits opens auxiliary terminals, all of them guarded. -/
def Attended (console : Console) : Prop :=
  ∀ errand ∈ console.waiting, errand.Guarded

theorem Attended.proceeds (attended : before.Attended) (proceeds : Proceeds before after) :
    after.Attended := by
  obtain ⟨tasks, added, errands, guarded⟩ := proceeds.waits_guarded
  intro errand member
  rw [waiting, tasks, errands, List.mem_append, List.mem_append] at member
  rcases member with (old | new) | later
  · exact attended errand (List.mem_append_left _ old)
  · exact guarded errand new
  · exact attended errand (List.mem_append_right _ later)

/-- Where nothing that waits is new. -/
theorem Attended.of_subset (attended : before.Attended) (fewer : after.waiting ⊆ before.waiting) :
    after.Attended :=
  fun errand member => attended errand (fewer member)

theorem waiting_of_changes {aspects : List Aspect} (step : Changes aspects before after)
    (apart : [.shells, .tasks].all (· ∉ aspects) = true) : after.waiting = before.waiting := by
  have shells := step.kept apart .shells (by decide)
  have tasks : after.tasks = before.tasks := step.kept apart .tasks (by decide)
  simp only [look, Prod.mk.injEq] at shells
  rw [waiting, shells.2.2.1, tasks, waiting]

/-- Work that has been put off is an operation that goes on, or has nothing to do with auxiliary
terminals. -/
theorem runTask_cases (console : Console) (task : Task)
    (guarded : ∀ errand, task.errand? = some errand → errand.Guarded) :
    Proceeds console (console.runTask task) ∨
      task.errand? = none ∧
        Changes [.nextId, .pending, .channels, .trace, .resolvers] console
          (console.runTask task) := by
  cases task with
  | validate resolver row generation link =>
      exact .inr ⟨rfl, (console.call_changes ..).mono (by decide)⟩
  | resume call answer => exact .inr ⟨rfl, (console.deliver_changes ..).mono (by decide)⟩
  | chosen errand choice => exact .inl (console.resumeErrand_proceeds choice (guarded errand rfl))

theorem waiting_of_task {console : Console} {place : Nat} {task : Task}
    (found : console.tasks[place]? = some task) :
    console.waiting.Perm
      (task.errand?.toList ++ { console with tasks := console.tasks.eraseIdx place }.waiting) := by
  have taken := ((perm_cons_eraseIdx found).filterMap Task.errand?).append_left console.errands
  refine taken.trans ?_
  cases known : task.errand? with
  | none => rw [List.filterMap_cons_none known]; exact .refl _
  | some errand => rw [List.filterMap_cons_some known]; exact List.perm_middle

theorem Attended.resumeTask (attended : before.Attended) (place : Nat) :
    (before.resumeTask place).Attended := by
  unfold Console.resumeTask
  split
  next => exact attended
  next task found =>
      have listed := waiting_of_task found
      have rest : { before with tasks := before.tasks.eraseIdx place }.Attended :=
        attended.of_subset fun errand member =>
          listed.mem_iff.mpr (List.mem_append_right _ member)
      have guarded (errand : Errand) (known : task.errand? = some errand) : errand.Guarded :=
        attended errand (listed.mem_iff.mpr (by simp [known]))
      rcases runTask_cases _ task guarded with proceeds | ⟨-, changed⟩
      · exact rest.proceeds proceeds
      · have same := waiting_of_changes changed (by decide)
        exact rest.of_subset (same ▸ List.Subset.refl _)

theorem Attended.step (attended : before.Attended) (event : ShellEvent) :
    (before.applyShell event).Attended := by
  cases event with
  | opens ticket byCommand => exact attended.proceeds (before.newTerminal_proceeds ticket byCommand)
  | restores ticket items => exact attended.proceeds (before.restoreFrom_proceeds ticket 0 items)
  | answers question choice =>
      exact attended.of_subset (before.answerQuestion_waiting question choice).symm.subset
  | resumes place => exact attended.resumeTask place
  | closes id =>
      refine attended.of_subset ?_
      unfold applyShell closeTerminal
      dsimp only
      split
      · exact List.Subset.refl _
      · unfold killShell
        rw [tryOnStream_eq]
        exact List.Subset.refl _
  | turns refusal faults => exact attended

theorem Attended.run (attended : before.Attended) (events : List ShellEvent) :
    (before.runShells events).Attended := by
  induction events generalizing before with
  | nil => exact attended
  | cons event events inductionHypothesis => exact inductionHypothesis (attended.step event)

/-! ### Shells that are ended together -/

/-- The streams after several shells have been ended. -/
def killAll (shells : List Nat) (streams : List ProcessStream) : List ProcessStream :=
  shells.foldl (fun streams shell => streams.modify shell (·.after ProcessStream.kill)) streams

/-- Shells that are ended together are over, and all other streams are as they were. -/
theorem killAll_cases {shells : List Nat} {streams : List ProcessStream} {id : Nat}
    {stream : ProcessStream} (found : (killAll shells streams)[id]? = some stream) :
    ∃ earlier, streams[id]? = some earlier ∧ stream.input = earlier.input ∧
      stream.faults = earlier.faults ∧ (earlier.Over → stream.Over) ∧
      (id ∈ shells → stream.Over) ∧ (id ∉ shells → stream = earlier) := by
  induction shells generalizing streams with
  | nil => exact ⟨stream, found, rfl, rfl, fun finished => finished, by simp, fun _ => rfl⟩
  | cons shell shells inductionHypothesis =>
      obtain ⟨between, there, input, faults, still, ended, same⟩ := inductionHypothesis found
      rw [List.getElem?_modify] at there
      obtain ⟨earlier, known, rfl⟩ := Option.map_eq_some_iff.mp there
      by_cases own : shell = id
      · rw [if_pos own] at input faults still same
        refine ⟨earlier, known, input.trans (input_after_kill _),
          faults.trans (faults_after_kill _), fun _ => still (ProcessStream.ended_after_kill _),
          fun _ => still (ProcessStream.ended_after_kill _), fun outside => ?_⟩
        exact absurd (own ▸ List.mem_cons_self) outside
      · rw [if_neg own] at input faults still same
        refine ⟨earlier, known, input, faults, still, fun inside => ?_, fun outside => ?_⟩
        · exact ended ((List.mem_cons.mp inside).resolve_left fun same => own same.symm)
        · exact same fun member => outside (List.mem_cons_of_mem _ member)

theorem shutdownShells_eq (console : Console) :
    console.shutdownShells = { console with
      registry := .empty
      streams := killAll (console.registry.terminals.map AuxiliaryTerminal.shell)
        console.streams } := by
  have folded : ∀ (terminals : List AuxiliaryTerminal) (console : Console),
      terminals.foldl (fun console aux => console.killShell aux.shell) console =
        { console with
          streams := killAll (terminals.map AuxiliaryTerminal.shell) console.streams } := by
    intro terminals
    induction terminals with
    | nil => exact fun _ => rfl
    | cons aux terminals inductionHypothesis =>
        intro console
        rw [List.foldl_cons, inductionHypothesis, killShell, tryOnStream_eq]
        rfl
  exact folded _ _

end Console

end RuntimeConsole
