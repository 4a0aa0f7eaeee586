/-
Module: RuntimeConsole.Proofs.ShellSteps
Purpose: What operations on auxiliary terminals do between two questions to the user: every
  shell they start ends up in the registry or is ended.
Main exports:
  Tidy, Console.Serves, Console.Goes, Console.resumeErrand_goes
-/
import Mathlib.Data.List.Nodup
import RuntimeConsole.Console.ShellEvent

namespace RuntimeConsole

/-- A registry and the streams it knows, where the shells are the streams from `first` on:
every terminal has an identity and a shell of its own, and every other shell has ended,
unless it refuses to. -/
structure Tidy (first : Nat) (registry : Registry) (streams : List ProcessStream) : Prop where
  bound : first ≤ streams.length
  ids : registry.ids.Nodup
  auxiliary : ∀ aux ∈ registry.terminals, aux.id.isAuxiliary = true
  attached : ∀ aux ∈ registry.terminals, aux.terminal.stream = some aux.shell
  shells : (registry.terminals.map AuxiliaryTerminal.shell).Nodup
  started : ∀ aux ∈ registry.terminals, first ≤ aux.shell ∧ aux.shell < streams.length
  ended : ∀ shell stream, first ≤ shell → streams[shell]? = some stream →
    shell ∉ registry.terminals.map AuxiliaryTerminal.shell →
      stream.alive = false ∨ stream.faults.kill.isSome

namespace Tidy

variable {first : Nat} {registry : Registry} {streams : List ProcessStream}
  {stream : ProcessStream}

/-- A terminal of an unused identity is registered with a new shell. -/
theorem insert (tidy : Tidy first registry streams) {aux : AuxiliaryTerminal}
    (unused : aux.id ∉ registry.ids) (auxiliary : aux.id.isAuxiliary = true)
    (attached : aux.terminal.stream = some aux.shell) (shell : aux.shell = streams.length) :
    Tidy first (registry.insert aux) (streams ++ [stream]) where
  bound := by simpa using Nat.le_succ_of_le tidy.bound
  ids := by
    simpa [Registry.ids, Registry.insert, List.nodup_append] using
      ⟨tidy.ids, fun other member same => unused (same ▸ List.mem_map_of_mem member)⟩
  auxiliary other member := by
    rcases List.mem_append.mp member with old | new
    · exact tidy.auxiliary other old
    · exact List.mem_singleton.mp new ▸ auxiliary
  attached other member := by
    rcases List.mem_append.mp member with old | new
    · exact tidy.attached other old
    · exact List.mem_singleton.mp new ▸ attached
  shells := by
    simpa [Registry.insert, List.nodup_append] using
      ⟨tidy.shells, fun other member => shell ▸ Nat.ne_of_lt (tidy.started other member).2⟩
  started other member := by
    rw [List.length_append]
    rcases List.mem_append.mp member with old | new
    · exact (tidy.started other old).imp_right (Nat.lt_add_right 1)
    · obtain rfl := List.mem_singleton.mp new
      exact ⟨shell ▸ tidy.bound, shell ▸ Nat.lt_succ_self _⟩
  ended number other above found unregistered := by
    simp only [Registry.insert, List.map_append, List.mem_append, not_or, List.map_cons,
      List.map_nil, List.mem_singleton] at unregistered
    rw [List.getElem?_append_left] at found
    · exact tidy.ended number other above found unregistered.1
    · have inside := (List.getElem?_eq_some_iff.mp found).1
      have := unregistered.2
      simp at inside
      omega

/-- A new shell is ended at once. -/
theorem lose (tidy : Tidy first registry streams)
    (ended : stream.alive = false ∨ stream.faults.kill.isSome) :
    Tidy first registry (streams ++ [stream]) where
  bound := by simpa using Nat.le_succ_of_le tidy.bound
  ids := tidy.ids
  auxiliary := tidy.auxiliary
  attached := tidy.attached
  shells := tidy.shells
  started aux member := by
    simpa using (tidy.started aux member).imp_right (Nat.lt_add_right 1)
  ended shell other above found unregistered := by
    rw [List.getElem?_append] at found
    split at found
    next old => exact tidy.ended shell other above found unregistered
    next new =>
        obtain rfl : stream = other := by
          rw [List.getElem?_singleton] at found
          split at found
          · exact Option.some.inj found
          · exact absurd found nofun
        exact ended

end Tidy

/-! ### Streams -/

/-- A stream after an operation that it may have refused. -/
def ProcessStream.after (operation : ProcessStream → Except Failure ProcessStream)
    (stream : ProcessStream) : ProcessStream :=
  match operation stream with
  | .ok changed => changed
  | .error _ => stream

theorem ProcessStream.ended_after_kill (stream : ProcessStream) :
    (stream.after kill).alive = false ∨ (stream.after kill).faults.kill.isSome := by
  unfold ProcessStream.after ProcessStream.kill unlessRefused
  cases refused : stream.faults.kill with
  | none => exact .inl rfl
  | some reason => exact .inr (by simp [refused])

theorem Console.tryOnStream_eq (console : Console) (id : Nat)
    (operation : ProcessStream → Except Failure ProcessStream) :
    console.tryOnStream id operation =
      { console with streams := console.streams.modify id (·.after operation) } := by
  unfold tryOnStream onStream stream? setStream
  split
  next missing => rw [List.modify_eq_self (List.getElem?_eq_none_iff.mp missing)]
  next stream found =>
      have after : console.streams.modify id (·.after operation) =
          console.streams.set id (stream.after operation) := by
        rw [List.modify_eq_set_getElem?, found]
        rfl
      rw [after]
      cases outcome : operation stream with
      | ok changed => simp only [ProcessStream.after, outcome]
      | error failure =>
          obtain ⟨inside, rfl⟩ := List.getElem?_eq_some_iff.mp found
          simp only [ProcessStream.after, outcome, List.set_getElem_self]

theorem modify_last {Item : Type} (items : List Item) (item : Item) (change : Item → Item) :
    (items ++ [item]).modify items.length change = items ++ [change item] := by
  induction items with
  | nil => rfl
  | cons first items inductionHypothesis => simp [inductionHypothesis]

/-! ### Closing -/

theorem Registry.get?_of_mem {registry : Registry} (ids : registry.ids.Nodup)
    {aux : AuxiliaryTerminal} (member : aux ∈ registry.terminals) :
    registry.get? aux.id = some aux := by
  cases found : registry.get? aux.id with
  | none => simpa using List.find?_eq_none.mp found aux member
  | some other =>
      have same : other.id = aux.id := by simpa using List.find?_some found
      exact congrArg some (List.inj_on_of_nodup_map ids (List.mem_of_find?_eq_some found)
        member same)

/-- A terminal is closed and its shell ended. -/
theorem Tidy.erase {first : Nat} {registry : Registry} {streams : List ProcessStream}
    (tidy : Tidy first registry streams) {id : TerminalId} {aux : AuxiliaryTerminal}
    (found : registry.get? id = some aux) :
    Tidy first (registry.erase id) (streams.modify aux.shell (·.after ProcessStream.kill)) := by
  have kept : (registry.erase id).terminals.Sublist registry.terminals := List.filter_sublist
  refine ⟨by simpa using tidy.bound, (kept.map _).nodup tidy.ids,
    fun other member => tidy.auxiliary other (kept.subset member),
    fun other member => tidy.attached other (kept.subset member), (kept.map _).nodup tidy.shells,
    fun other member => by simpa using tidy.started other (kept.subset member), ?_⟩
  intro shell stream above there unregistered
  rw [List.getElem?_modify] at there
  obtain ⟨before, beforeThere, rfl⟩ := Option.map_eq_some_iff.mp there
  split
  next => exact before.ended_after_kill
  next other =>
      refine tidy.ended shell before above beforeThere fun member => ?_
      obtain ⟨owner, ownerMember, rfl⟩ := List.mem_map.mp member
      have erased : owner.id = id := by
        by_contra different
        exact unregistered (List.mem_map_of_mem
          (List.mem_filter.mpr ⟨ownerMember, by simpa using different⟩))
      have same := Registry.get?_of_mem tidy.ids ownerMember
      rw [erased, found] at same
      exact other (congrArg AuxiliaryTerminal.shell (Option.some.inj same))

/-! ### Operations -/

/-- Whether an effect is the end of an operation. -/
def Effect.isFinish : Effect → Bool
  | .finished .. => true
  | _ => false

/-- How many terminals have been registered for an errand before. -/
def Errand.count : Errand → Nat
  | .restore _ _ _ count => count
  | _ => 0

/-- Whether an errand opens terminals, all of them auxiliary ones. -/
def Errand.Proper : Errand → Prop
  | .shell _ => False
  | .newTerminal .. => True
  | .restore _ terminal _ _ => terminal.id.isAuxiliary = true

/-- Whether all the identities that can be drawn are those of auxiliary terminals. -/
def Host.DrawsAuxiliary (host : Host) : Prop :=
  ∀ n, (host.identities.draw n).isAuxiliary = true

namespace Console

/-- No operation has ended or begun to wait. -/
structure Beside (before after : Console) : Prop where
  errands : after.errands = before.errands
  tasks : after.tasks = before.tasks
  host : after.host = before.host
  told : ∃ effects, after.trace = before.trace ++ effects ∧
    ∀ effect ∈ effects, effect.isFinish = false

/-- Shells have been started and not been attached yet. -/
structure Starts (before : Console) (shells : List ProcessStream) (after : Console) : Prop where
  beside : Beside before after
  registry : after.registry = before.registry
  streams : after.streams = before.streams ++ shells

/-- So many terminals have been registered, after those there were, and every other shell
that was started has been ended. -/
structure Serves (before : Console) (registered : Nat) (after : Console) : Prop where
  beside : Beside before after
  terminals : ∃ added, after.registry.terminals = before.registry.terminals ++ added ∧
    added.length = registered
  streams : before.streams <+: after.streams
  tidy : ∀ first, before.host.DrawsAuxiliary → Tidy first before.registry before.streams →
    Tidy first after.registry after.streams

variable {before middle after : Console} {first second count ticket : Nat}
  {shells : List ProcessStream}

theorem Beside.refl (console : Console) : Beside console console :=
  ⟨rfl, rfl, rfl, [], (List.append_nil _).symm, nofun⟩

theorem Beside.trans (earlier : Beside before middle) (later : Beside middle after) :
    Beside before after where
  errands := later.errands.trans earlier.errands
  tasks := later.tasks.trans earlier.tasks
  host := later.host.trans earlier.host
  told := by
    obtain ⟨effects, traceEq, quiet⟩ := earlier.told
    obtain ⟨more, moreEq, moreQuiet⟩ := later.told
    refine ⟨effects ++ more, by rw [moreEq, traceEq, List.append_assoc], fun effect member => ?_⟩
    exact (List.mem_append.mp member).elim (quiet effect) (moreQuiet effect)

theorem Starts.refl (console : Console) : Starts console [] console :=
  ⟨.refl console, rfl, (List.append_nil _).symm⟩

/-- Nothing has been started. -/
theorem Starts.serves (starts : Starts before [] after) : Serves before 0 after where
  beside := starts.beside
  terminals := ⟨[], by rw [starts.registry, List.append_nil], rfl⟩
  streams := ⟨[], starts.streams.symm⟩
  tidy _ _ tidy := by
    rw [starts.registry, starts.streams, List.append_nil]
    exact tidy

theorem Serves.trans (earlier : Serves before first middle) (later : Serves middle second after) :
    Serves before (first + second) after where
  beside := earlier.beside.trans later.beside
  terminals := by
    obtain ⟨added, addedEq, rfl⟩ := earlier.terminals
    obtain ⟨more, moreEq, rfl⟩ := later.terminals
    exact ⟨added ++ more, by rw [moreEq, addedEq, List.append_assoc], List.length_append⟩
  streams := earlier.streams.trans later.streams
  tidy bound draws tidy :=
    later.tidy bound (earlier.beside.host ▸ draws) (earlier.tidy bound draws tidy)

/-! ### Shells -/

theorem askDirectory_starts (console : Console) : Starts console [] console.askDirectory.1 := by
  have asked : Starts console []
      ({ console with asked := console.asked + 1 }.emit (.askedDirectory console.host.roots)) :=
    ⟨⟨rfl, rfl, rfl, [_], rfl, by simp [Effect.isFinish]⟩, rfl, (List.append_nil _).symm⟩
  unfold askDirectory
  dsimp only
  split <;> exact asked

/-- Whether no shell can be started in a directory. -/
def Refuses (console : Console) (cwd : String) : Prop :=
  (console.host.refusal console.settings.current.shell (some cwd)).isSome = true

theorem startShell_cases (console : Console) (cwd : String) :
    (∃ failure, console.Refuses cwd ∧ (console.startShell cwd).2 = .error failure ∧
      Starts console [] (console.startShell cwd).1) ∨
    (¬ console.Refuses cwd ∧ (console.startShell cwd).2 = .ok console.streams.length ∧
      Starts console [.fresh console.host.shellFaults] (console.startShell cwd).1) := by
  have told : Beside console
      (console.emit (.startedShell console.settings.current.shell .auxiliary cwd)) :=
    ⟨rfl, rfl, rfl, [_], rfl, by simp [Effect.isFinish]⟩
  unfold startShell Refuses
  dsimp only
  split
  next reason refused =>
      exact .inl ⟨_, refused ▸ rfl, rfl, told, rfl, (List.append_nil _).symm⟩
  next started =>
      exact .inr ⟨started ▸ nofun, rfl, ⟨told.errands, told.tasks, told.host, told.told⟩, rfl, rfl⟩

/-- Whether no shell can be started in the directory a user chose, if one was chosen. -/
def Fails (console : Console) (choice : Option String) : Prop :=
  match chosenDirectory console.host.home choice with
  | .error _ => True
  | .ok cwd => console.Refuses cwd

theorem startChosen_cases (console : Console) (choice : Option String) :
    (∃ failure, console.Fails choice ∧ (console.startChosen choice).2 = .error failure ∧
      Starts console [] (console.startChosen choice).1) ∨
    (∃ cwd, ¬ console.Fails choice ∧
      (console.startChosen choice).2 = .ok (console.streams.length, cwd) ∧
      Starts console [.fresh console.host.shellFaults] (console.startChosen choice).1) := by
  unfold startChosen Fails
  cases chosenDirectory console.host.home choice with
  | error failure => exact .inl ⟨failure, trivial, rfl, .refl console⟩
  | ok cwd =>
      have started := console.startShell_cases cwd
      dsimp only
      generalize console.startShell cwd = outcome at started
      obtain ⟨reached, result⟩ := outcome
      obtain ⟨failure, refuses, rfl, starts⟩ | ⟨admits, rfl, starts⟩ := started
      · exact .inl ⟨failure, refuses, rfl, starts⟩
      · exact .inr ⟨cwd, admits, rfl, starts⟩

variable {stream : ProcessStream} {terminal : Terminal} {cwd : String}

/-- Something is done to the shell that has been started. -/
theorem Starts.change (starts : Starts before [stream] after)
    (operation : ProcessStream → Except Failure ProcessStream) :
    Starts before [stream.after operation]
      (after.tryOnStream before.streams.length operation) := by
  rw [tryOnStream_eq]
  refine ⟨⟨starts.beside.errands, starts.beside.tasks, starts.beside.host, starts.beside.told⟩,
    starts.registry, ?_⟩
  change after.streams.modify before.streams.length _ = _
  rw [starts.streams, modify_last]

/-- The shell that has been started belongs to a new terminal. -/
theorem Starts.register (starts : Starts before [stream] after) {aux : AuxiliaryTerminal}
    (unused : aux.id ∉ before.registry.ids)
    (auxiliary : before.host.DrawsAuxiliary → aux.id.isAuxiliary = true)
    (attached : aux.terminal.stream = some aux.shell)
    (shell : aux.shell = before.streams.length) : Serves before 1 (after.register aux) where
  beside := ⟨starts.beside.errands, starts.beside.tasks, starts.beside.host, starts.beside.told⟩
  terminals := ⟨[aux], by rw [← starts.registry]; rfl, rfl⟩
  streams := ⟨[stream], starts.streams.symm⟩
  tidy first draws tidy := by
    change Tidy first (after.registry.insert aux) after.streams
    rw [starts.registry, starts.streams]
    exact tidy.insert unused (auxiliary draws) attached shell

/-- The shell that has been started is ended. -/
theorem Starts.kill (starts : Starts before [stream] after) :
    Serves before 0 (after.killShell before.streams.length) := by
  have killed : Starts before [stream.after ProcessStream.kill]
      (after.killShell before.streams.length) := starts.change ProcessStream.kill
  exact ⟨killed.beside, ⟨[], by rw [killed.registry, List.append_nil], rfl⟩,
    ⟨[_], killed.streams.symm⟩, fun first _ tidy => by
      rw [killed.registry, killed.streams]
      exact tidy.lose stream.ended_after_kill⟩

theorem Starts.admitRestored (starts : Starts before [stream] after)
    (auxiliary : terminal.id.isAuxiliary = true) :
    Serves before (after.admitRestored terminal before.streams.length cwd).2.toNat
      (after.admitRestored terminal before.streams.length cwd).1 := by
  have told := starts.change fun shell => shell.resize terminal.grid.size
  unfold Console.admitRestored attachShell
  dsimp only
  split
  next => exact told.kill
  next unused =>
      refine told.register ?_ (fun _ => auxiliary) rfl rfl
      rw [← told.registry]
      change terminal.id ∉ _
      simpa [Registry.contains] using unused

theorem Starts.openTerminal (starts : Starts before [stream] after) :
    Serves before 1 (after.openTerminal before.streams.length cwd).1 := by
  have unused := after.host.identities.draw_firstUnused_not_mem after.registry.ids after.drawn
  unfold Console.openTerminal freshIdentity attachShell
  dsimp only
  generalize after.host.identities.firstUnused after.registry.ids after.drawn = drawn at unused ⊢
  have drawnOnly : Starts before [stream] { after with drawn := drawn + 1 } :=
    ⟨⟨starts.beside.errands, starts.beside.tasks, starts.beside.host, starts.beside.told⟩,
      starts.registry, starts.streams⟩
  refine (drawnOnly.change _).register ?_ ?_ rfl rfl
  · rw [← starts.registry]
    exact unused
  · intro draws
    rw [← starts.beside.host] at draws
    exact draws drawn

theorem restoreChosen_serves (console : Console) (terminal : Terminal) (choice : Option String)
    (auxiliary : terminal.id.isAuxiliary = true) :
    Serves console (console.restoreChosen terminal choice).2.toNat
      (console.restoreChosen terminal choice).1 := by
  have started := console.startChosen_cases choice
  unfold restoreChosen
  generalize console.startChosen choice = outcome at started
  obtain ⟨reached, result⟩ := outcome
  obtain ⟨failure, -, rfl, starts⟩ | ⟨cwd, -, rfl, starts⟩ := started
  · exact starts.serves
  · exact starts.admitRestored auxiliary

theorem restoreIn_serves (console : Console) (terminal : Terminal) (cwd : String)
    (auxiliary : terminal.id.isAuxiliary = true) :
    Serves console (console.restoreIn terminal cwd).2.toNat
      (console.restoreIn terminal cwd).1 := by
  have started := console.startShell_cases (Directory.expandHome console.host.home cwd)
  unfold restoreIn
  dsimp only
  generalize console.startShell (Directory.expandHome console.host.home cwd) = outcome at started
  obtain ⟨reached, result⟩ := outcome
  obtain ⟨failure, -, rfl, starts⟩ | ⟨-, rfl, starts⟩ := started
  · exact starts.serves
  · exact starts.admitRestored auxiliary

/-! ### Operations that end or wait -/

/-- An operation has been carried on: it ends, or waits with an errand, and what it says about
the number of terminals it has registered is true if it was before. -/
inductive Goes (ticket count : Nat) (before : Console) : Console → Prop where
  | ends {registered : Nat} {reached : Console} {outcome : Outcome} :
      Serves before registered reached →
      (∀ total, outcome = .restored total → total = count + registered) →
      Goes ticket count before (reached.finish ticket outcome)
  | waits {registered : Nat} {reached : Console} {errand : Errand} :
      Serves before registered reached → errand.ticket = ticket →
      errand.count = count + registered → errand.Proper →
      Goes ticket count before { reached with errands := reached.errands ++ [errand] }

theorem Serves.goes {registered : Nat} (serves : Serves before registered middle)
    (goes : Goes ticket (count + registered) middle after) : Goes ticket count before after := by
  cases goes with
  | ends later total =>
      exact .ends (serves.trans later) fun count known => by rw [total count known, Nat.add_assoc]
  | waits later owner total proper =>
      exact .waits (serves.trans later) owner (by rw [total, Nat.add_assoc]) proper

theorem finishTerminal_goes (console : Console) (ticket : Nat) (byCommand : Bool)
    (choice : Option String) :
    Goes ticket 0 console (console.finishTerminal ticket byCommand choice) := by
  have started := console.startChosen_cases choice
  unfold finishTerminal
  generalize console.startChosen choice = outcome at started
  obtain ⟨reached, result⟩ := outcome
  obtain ⟨failure, -, rfl, starts⟩ | ⟨cwd, -, rfl, starts⟩ := started
  · refine .ends starts.serves fun total => ?_
    split <;> nofun
  · refine .ends starts.openTerminal fun total => ?_
    split <;> nofun

theorem restoreFrom_goes (console : Console) (ticket count : Nat)
    (items : List PersistedTerminal) :
    Goes ticket count console (console.restoreFrom ticket count items) := by
  induction items generalizing console count with
  | nil =>
      exact .ends (Starts.refl console).serves fun total same =>
        (Outcome.restored.inj same).symm
  | cons item rest inductionHypothesis =>
      unfold restoreFrom
      split
      next => exact inductionHypothesis console count
      next accepted =>
          have auxiliary : item.id.isAuxiliary = true := by
            simp at accepted
            exact accepted.1
          dsimp only
          split
          next cwd _ =>
              exact (console.restoreIn_serves (console.auxiliaryTerminal item.id) cwd
                auxiliary).goes (inductionHypothesis _ _)
          next =>
              have asked := console.askDirectory_starts
              split
              next reached choice result =>
                  rw [result] at asked
                  have restored :=
                    reached.restoreChosen_serves (console.auxiliaryTerminal item.id) choice
                      auxiliary
                  exact asked.serves.goes (restored.goes (inductionHypothesis _ _))
              next reached result =>
                  rw [result] at asked
                  exact .waits asked.serves rfl rfl auxiliary

/-- An operation on auxiliary terminals goes on with the answer of the user. -/
theorem resumeErrand_goes (console : Console) (choice : Option String) {errand : Errand}
    (proper : errand.Proper) :
    Goes errand.ticket errand.count console (console.resumeErrand choice errand) := by
  cases errand with
  | shell ticket => exact proper.elim
  | newTerminal ticket byCommand => exact console.finishTerminal_goes ticket byCommand choice
  | restore ticket terminal rest count =>
      exact (console.restoreChosen_serves terminal choice proper).goes (restoreFrom_goes _ _ _ _)

theorem newTerminal_goes (console : Console) (ticket : Nat) (byCommand : Bool) :
    Goes ticket 0 console (console.newTerminal ticket byCommand) := by
  have asked := console.askDirectory_starts
  unfold newTerminal promptFor
  split
  next reached choice result =>
      rw [result] at asked
      have gone := reached.finishTerminal_goes ticket byCommand choice
      exact asked.serves.goes gone
  next reached result =>
      rw [result] at asked
      exact .waits asked.serves rfl rfl trivial

end Console

end RuntimeConsole
