/-
Module: RuntimeConsole.Proofs.ConsoleMove
Purpose: What everything that can happen to an activated console comes to, and what becomes of
  the auxiliary terminals and of every shell that was started for them.
Main exports:
  Console.Housed, Console.ConsoleMove, Console.consoleMove_undergo, Console.Housed.step
-/
import RuntimeConsole.Proofs.EventSpares
import RuntimeConsole.Proofs.ShellLodging

namespace RuntimeConsole

/-! ### Shells and terminals -/

/-- A process that has ended, or refuses to, is over later on. -/
theorem Ages.stays_over {typed : Nat → List UInt8} {first second : List ProcessStream}
    (ages : Ages typed first second) {shell : Nat} {stream : ProcessStream}
    (inside : shell < first.length) (found : second[shell]? = some stream)
    (finished : ∀ earlier : ProcessStream, first[shell]? = some earlier → earlier.Over) :
    stream.Over := by
  have known := List.getElem?_eq_getElem inside
  obtain ⟨later, there, faults, ended⟩ := ages.fate shell _ known
  obtain rfl := Option.some.inj (there.symm.trans found)
  rcases finished _ known with finished | refuses
  · exact .inl (ended finished)
  · exact .inr (faults ▸ refuses)

/-- Terminals of the registry may show something else. -/
def Registry.Redrawn (before after : Registry) : Prop :=
  ∃ change : AuxiliaryTerminal → AuxiliaryTerminal,
    after.terminals = before.terminals.map change ∧ ∀ aux, (change aux).id = aux.id ∧
      (change aux).shell = aux.shell ∧ (Lodged aux → Lodged (change aux))

namespace Registry.Redrawn

variable {first second third : Registry}

theorem refl (registry : Registry) : Redrawn registry registry :=
  ⟨fun aux => aux, (List.map_id' _).symm, fun _ => ⟨rfl, rfl, fun lodged => lodged⟩⟩

theorem trans (earlier : Redrawn first second) (later : Redrawn second third) :
    Redrawn first third := by
  obtain ⟨change, reached, kept⟩ := earlier
  obtain ⟨more, reachedToo, keptToo⟩ := later
  refine ⟨fun aux => more (change aux), ?_, fun aux => ?_⟩
  · rw [reachedToo, reached, List.map_map]
    rfl
  · obtain ⟨id, shell, lodged⟩ := kept aux
    obtain ⟨idToo, shellToo, lodgedToo⟩ := keptToo (change aux)
    exact ⟨idToo.trans id, shellToo.trans shell, fun own => lodgedToo (lodged own)⟩

theorem ids (redrawn : Redrawn first second) : second.ids = first.ids := by
  obtain ⟨change, reached, kept⟩ := redrawn
  rw [Registry.ids, reached, List.map_map, Registry.ids]
  exact List.map_congr_left fun aux _ => (kept aux).1

theorem shells (redrawn : Redrawn first second) :
    second.terminals.map AuxiliaryTerminal.shell =
      first.terminals.map AuxiliaryTerminal.shell := by
  obtain ⟨change, reached, kept⟩ := redrawn
  rw [reached, List.map_map]
  exact List.map_congr_left fun aux _ => (kept aux).2.1

/-- Something is done to the terminal of an identity by which it is the same to everybody. -/
theorem modify (registry : Registry) (id : TerminalId) {change : Terminal → Terminal}
    (kept : ∀ terminal, (change terminal).id = terminal.id ∧
      (terminal.Guarded → (change terminal).Guarded) ∧
      (change terminal).stream = terminal.stream) :
    Redrawn registry (registry.modify id change) := by
  refine ⟨_, rfl, fun aux => ?_⟩
  obtain ⟨named, guarded, attached⟩ := kept aux.terminal
  split
  · exact ⟨named, rfl, fun lodged =>
      ⟨guarded lodged.guarded, attached.trans lodged.attached⟩⟩
  · exact ⟨rfl, rfl, fun lodged => lodged⟩

end Registry.Redrawn

namespace Console

/-- Every terminal that is open is guarded and lodges one of the shells that were started; the
shells that lodge in none are over, and whatever waits is going to open guarded terminals. -/
structure Housed (shells : List Nat) (console : Console) : Prop where
  ids : console.registry.ids.Nodup
  lodged : ∀ aux ∈ console.registry.terminals, Lodged aux ∧ aux.shell ∈ shells
  started : ∀ shell ∈ shells, shell < console.streams.length
  ended : ∀ shell ∈ shells, shell ∉ console.registry.terminals.map AuxiliaryTerminal.shell →
    ∀ stream : ProcessStream, console.streams[shell]? = some stream → stream.Over
  attended : console.Attended

section

variable {before after : Console} {shells : List Nat} {typed : Nat → List UInt8}

/-- Streams get older, and terminals are drawn again. -/
theorem Housed.of_redrawn (housed : Housed shells before)
    (redrawn : before.registry.Redrawn after.registry)
    (ages : Ages typed before.streams after.streams) (waiting : after.waiting ⊆ before.waiting) :
    Housed shells after where
  ids := redrawn.ids ▸ housed.ids
  lodged aux member := by
    obtain ⟨change, reached, kept⟩ := redrawn
    rw [reached] at member
    obtain ⟨old, known, rfl⟩ := List.mem_map.mp member
    obtain ⟨lodged, shell⟩ := housed.lodged old known
    exact ⟨(kept old).2.2 lodged, (kept old).2.1 ▸ shell⟩
  started shell member := Nat.lt_of_lt_of_le (housed.started shell member) ages.length_le
  ended shell member unregistered stream found :=
    ages.stays_over (housed.started shell member) found
      (housed.ended shell member (redrawn.shells ▸ unregistered))
  attended := housed.attended.of_subset waiting

theorem Housed.of_ages (housed : Housed shells before) (registry : after.registry = before.registry)
    (ages : Ages typed before.streams after.streams) (waiting : after.waiting ⊆ before.waiting) :
    Housed shells after :=
  housed.of_redrawn (registry ▸ .refl _) ages waiting

/-- An operation is carried on: the shells it starts are added. -/
theorem Housed.proceeds (housed : Housed shells before) (proceeds : Proceeds before after) :
    Housed (shells ++ List.range' before.streams.length
      (after.streams.length - before.streams.length)) after := by
  have houses := proceeds.houses
  have longer := houses.streams.length_le
  obtain ⟨added, grown, lodged⟩ := houses.added
  have new (shell : Nat) : shell ∈ List.range' before.streams.length
      (after.streams.length - before.streams.length) ↔
      before.streams.length ≤ shell ∧ shell < after.streams.length := by
    rw [List.mem_range'_1]
    omega
  refine ⟨houses.ids housed.ids, fun aux member => ?_, fun shell member => ?_,
    fun shell member unregistered stream found => ?_, housed.attended.proceeds proceeds⟩
  · rw [grown] at member
    rcases List.mem_append.mp member with old | extra
    · exact (housed.lodged aux old).imp_right (List.mem_append_left _)
    · obtain ⟨own, above, stream, found, -⟩ := lodged aux extra
      exact ⟨own, List.mem_append_right _
        ((new aux.shell).mpr ⟨above, (List.getElem?_eq_some_iff.mp found).1⟩)⟩
  · rcases List.mem_append.mp member with old | extra
    · exact Nat.lt_of_lt_of_le (housed.started shell old) longer
    · exact ((new shell).mp extra).2
  · rcases List.mem_append.mp member with old | extra
    · have inside := housed.started shell old
      have same := List.prefix_iff_getElem?.mp houses.streams shell inside
      refine housed.ended shell old (fun registered => unregistered ?_) stream ?_
      · rw [grown, List.map_append]
        exact List.mem_append_left _ registered
      · rw [← found, same]
        exact List.getElem?_eq_getElem inside
    · exact (houses.others shell stream ((new shell).mp extra).1 found).2 unregistered

/-- Where a terminal is open it is closed, and its shell ended. -/
theorem closeTerminal_eq {console : Console} {id : TerminalId} {aux : AuxiliaryTerminal}
    (found : console.registry.get? id = some aux) :
    (console.closeTerminal id).1 = { console with
      registry := console.registry.erase id
      streams := console.streams.modify aux.shell (·.after ProcessStream.kill) } := by
  rw [Console.closeTerminal, found]
  exact tryOnStream_eq { console with registry := console.registry.erase id } _ _

theorem closeTerminal_none {console : Console} {id : TerminalId}
    (missing : console.registry.get? id = none) : (console.closeTerminal id).1 = console := by
  rw [Console.closeTerminal, missing]

theorem closeTerminal_ages (console : Console) (id : TerminalId) :
    Ages untyped console.streams (console.closeTerminal id).1.streams := by
  cases found : console.registry.get? id with
  | none =>
      rw [closeTerminal_none found]
      exact .refl _
  | some aux =>
      have killed := console.tryOnStream_ages aux.shell ProcessStream.kill_harmless
      rw [tryOnStream_eq] at killed
      rw [closeTerminal_eq found]
      exact killed

/-- A terminal is closed, and its shell with it. -/
theorem Housed.closeTerminal (housed : Housed shells before) (id : TerminalId) :
    Housed shells (before.closeTerminal id).1 := by
  have ages := before.closeTerminal_ages id
  cases found : before.registry.get? id with
  | none =>
      rw [closeTerminal_none found]
      exact housed
  | some aux =>
      have member := List.mem_of_find?_eq_some found
      have named : aux.id = id := by simpa using List.find?_some found
      have registry : (before.closeTerminal id).1.registry = before.registry.erase id := by
        rw [closeTerminal_eq found]
      have streams : (before.closeTerminal id).1.streams =
          before.streams.modify aux.shell (·.after ProcessStream.kill) := by
        rw [closeTerminal_eq found]
      have waiting : (before.closeTerminal id).1.waiting = before.waiting := by
        rw [closeTerminal_eq found]
        rfl
      have fewer : (before.registry.erase id).terminals.Sublist before.registry.terminals :=
        List.filter_sublist
      generalize (before.closeTerminal id).1 = after at ages registry streams waiting
      refine ⟨?_, fun other there => ?_, fun shell known => ?_,
        fun shell known unregistered stream there => ?_,
        housed.attended.of_subset (waiting ▸ List.Subset.refl _)⟩
      · rw [registry]
        exact housed.ids.sublist (fewer.map _)
      · exact housed.lodged other (fewer.subset (registry ▸ there))
      · exact Nat.lt_of_lt_of_le (housed.started shell known) ages.length_le
      · by_cases own : aux.shell = shell
        · rw [streams, own, List.getElem?_modify_eq] at there
          obtain ⟨earlier, -, rfl⟩ := Option.map_eq_some_iff.mp there
          exact earlier.ended_after_kill
        · refine ages.stays_over (housed.started shell known) there
            (housed.ended shell known fun registered => unregistered ?_)
          -- Only the terminal that is closed has its identity.
          obtain ⟨other, old, rfl⟩ := List.mem_map.mp registered
          rw [registry]
          refine List.mem_map_of_mem (List.mem_filter.mpr ⟨old, ?_⟩)
          rw [bne_iff_ne]
          intro same
          have equal := List.inj_on_of_nodup_map housed.ids old member (same.trans named.symm)
          exact own (congrArg AuxiliaryTerminal.shell equal).symm

end

/-- Nobody begins to wait where work is put off that has nothing to do with auxiliary
terminals. -/
theorem Spares.waiting {typed : Nat → List UInt8} {before after : Console}
    (spares : Spares typed before after) : after.waiting ⊆ before.waiting := by
  have errands : after.errands = before.errands :=
    congrArg (fun shells => shells.2.2.1) (spares.footprint.same .shells (by decide))
  intro errand member
  rw [Console.waiting, errands] at member
  refine (List.mem_append.mp member).elim (List.mem_append_left _) fun put => ?_
  obtain ⟨task, there, kind⟩ := List.mem_filterMap.mp put
  rcases spares.defers task there with old | other
  · exact List.mem_append_right _ (List.mem_filterMap.mpr ⟨task, old, kind⟩)
  · rw [other] at kind
    cases kind

/-! ### What shells print -/

/-- What shells have printed is shown in their terminals, and nothing else about them changes. -/
structure Pumped (before after : Console) : Prop where
  redrawn : before.registry.Redrawn after.registry
  ages : Ages untyped before.streams after.streams
  waiting : after.waiting = before.waiting
  footprint : Changes [.streams, .shells] before after

theorem Pumped.refl (console : Console) : Pumped console console where
  redrawn := .refl _
  ages := .refl _
  waiting := rfl
  footprint := .refl _ console

theorem Pumped.trans {first second third : Console} (earlier : Pumped first second)
    (later : Pumped second third) : Pumped first third where
  redrawn := earlier.redrawn.trans later.redrawn
  ages := earlier.ages.after_untyped later.ages
  waiting := later.waiting.trans earlier.waiting
  footprint := earlier.footprint.trans later.footprint

theorem pumpShell_pumped (console : Console) (aux : AuxiliaryTerminal) :
    Pumped console (console.pumpShell aux).1 := by
  have ages := console.readStream_ages aux.shell
  have step := console.readStream_changes aux.shell
  have registry : (console.readStream aux.shell).1.registry = console.registry :=
    congrArg Prod.fst (step.same .shells (by decide))
  have waiting : (console.readStream aux.shell).1.waiting = console.waiting :=
    waiting_of_changes step (by decide)
  have wide := step.mono (by decide : _ ⊆ [.streams, .shells])
  unfold pumpShell
  split
  next reached bytes result =>
      rw [result] at ages registry waiting wide
      dsimp only at ages registry waiting wide ⊢
      refine ⟨?_, ages, waiting, wide.trans ?_⟩
      · rw [← registry]
        refine .modify _ _ fun terminal => ?_
        cases bytes with
        | nil => exact ⟨rfl, fun guarded => guarded, rfl⟩
        | cons byte bytes => exact ⟨rfl, fun guarded => ⟨guarded.keys, guarded.start⟩, rfl⟩
      · refine ⟨fun aspect outside => ?_⟩
        cases aspect <;> first | rfl | exact absurd (by decide) outside
  next reached failure result =>
      rw [result] at ages registry waiting wide
      exact ⟨registry ▸ .refl _, ages, waiting, wide⟩

theorem pumpShells_pumped (console : Console) : Pumped console console.pumpShells.1 := by
  have folded {step : Console × Nat → AuxiliaryTerminal → Console × Nat}
      (shows : ∀ reached aux, (step reached aux).1 = (reached.1.pumpShell aux).1)
      (terminals : List AuxiliaryTerminal) (reached : Console × Nat) :
      Pumped reached.1 (terminals.foldl step reached).1 := by
    induction terminals generalizing reached with
    | nil => exact .refl _
    | cons aux terminals inductionHypothesis =>
        refine .trans ?_ (inductionHypothesis (step reached aux))
        rw [shows]
        exact reached.1.pumpShell_pumped aux
  unfold pumpShells
  refine folded ?_ _ (console, 0)
  exact fun _ _ => rfl

/-! ### What an event comes to -/

/-- What reaches streams of what the user enters, the filters of the terminals being what they
are. -/
def enteredIn (console : Console) : ConsoleEvent → Nat → List UInt8
  | .event event => console.entered event
  | .pressIn id key => (console.registry.get? id).elim untyped fun aux =>
      if console.admits key aux.terminal.keyFilter then
        console.offered aux.terminal.stream key.bytes
      else untyped
  | _ => untyped

/-- What can be changed in an event that concerns neither the runtime nor the settings. -/
def tendedAspects : List Aspect :=
  [.display, .scanned, .selection, .resolvers, .streams, .shells, .host, .tasks, .trace]

/-- What something that happens to an activated console comes to. -/
inductive ConsoleMove (before : Console) (event : ConsoleEvent) (after : Console) : Prop where
  /-- Those who are registered stay. -/
  | spares (spares : Spares (before.enteredIn event) before after)
      (idle : before.carriesOn event = false)
  /-- An operation on auxiliary terminals is carried on. -/
  | proceeds (ready : Console) (taken : Spares untyped before ready)
      (streams : ready.streams = before.streams) (proceeds : Proceeds ready after)
      (step : Changes shellAspects ready after) (carries : before.carriesOn event = true)
      (quiet : before.enteredIn event = untyped)
  | configures (settings : Settings) (asked : event = .event (.configure settings))
  /-- The auxiliary terminals are tended to otherwise. -/
  | tends (step : Changes tendedAspects before after)
      (ages : Ages untyped before.streams after.streams)
      (housed : ∀ shells, Housed shells before → Housed shells after)
      (idle : before.carriesOn event = false) (quiet : before.enteredIn event = untyped)
  /-- The embedding program handles requests from now on. -/
  | serves (name : String) (label : Json) (sends : Option String)
      (reply : List Json → Except Failure Json)
      (asked : event = .serves name label sends reply)

section

variable {console : Console} {shells : List Nat}

/-- An operation that was put off is taken up again, or other work is done. -/
theorem resumeTask_consoleMove {event : ConsoleEvent} (housed : Housed shells console) (place : Nat)
    (carries : console.carriesOn event = ((console.tasks[place]?).bind Task.errand?).isSome)
    (quiet : console.enteredIn event = untyped) :
    ConsoleMove console event (console.resumeTask place) := by
  cases known : (console.tasks[place]?).bind Task.errand? with
  | none =>
      rw [known] at carries
      exact .spares (quiet ▸ resumeTask_spares known) carries
  | some errand =>
      rw [known] at carries
      obtain ⟨task, found, kind⟩ := Option.bind_eq_some_iff.mp known
      have guarded : errand.Guarded :=
        housed.attended errand (List.mem_append_right _
          (List.mem_filterMap.mpr ⟨task, List.mem_of_getElem? found, kind⟩))
      obtain ⟨choice, rfl⟩ : ∃ choice, task = .chosen errand choice := by
        cases task with
        | chosen own choice => exact ⟨choice, by rw [Option.some.inj kind]⟩
        | _ => cases kind
      have reached : console.resumeTask place =
          ({ console with tasks := console.tasks.eraseIdx place }).resumeErrand choice errand := by
        rw [resumeTask, found]
        rfl
      rw [reached]
      exact .proceeds _ (console.takeTask_spares place) rfl
        (resumeErrand_proceeds _ choice guarded) (resumeErrand_changes _ choice errand) carries
        quiet

theorem newTerminal_changes (console : Console) (ticket : Nat) (byCommand : Bool) :
    Changes shellAspects console (console.newTerminal ticket byCommand) := by
  have asked := console.askDirectory_changes
  unfold newTerminal promptFor
  split
  next reached choice result =>
      rw [result] at asked
      exact asked.trans (reached.resumeErrand_changes choice _)
  next reached result =>
      rw [result] at asked
      refine asked.trans ⟨fun aspect outside => ?_⟩
      cases aspect <;> first | rfl | exact absurd (by decide) outside

theorem closeTerminal_changes (console : Console) (id : TerminalId) :
    Changes [.streams, .shells] console (console.closeTerminal id).1 := by
  unfold closeTerminal
  split
  · exact .refl _ console
  · refine .trans ⟨fun aspect outside => ?_⟩ ((tryOnStream_changes _ _ _).mono (by decide))
    cases aspect <;> first | rfl | exact absurd (by decide) outside

theorem answerQuestion_changes (console : Console) (question : Nat) (choice : Option String) :
    Changes [.shells, .tasks] console (console.answerQuestion question choice) := by
  unfold answerQuestion
  split
  next => exact .refl _ console
  next errand _ =>
      have asked : Changes [.shells, .tasks] console
          { console with errands := console.errands.eraseIdx question } := by
        refine ⟨fun aspect outside => ?_⟩
        cases aspect <;> first | rfl | exact absurd (by decide) outside
      exact asked.trans ((spawn_changes _ (.chosen errand choice) rfl).mono (by decide))

theorem applyShell_consoleMove (housed : Housed shells console) (event : ShellEvent) :
    ConsoleMove console (.shell event) (console.applyShell event) := by
  cases event with
  | opens ticket byCommand =>
      exact .proceeds console (.refl console) rfl (console.newTerminal_proceeds ticket byCommand)
        (console.newTerminal_changes ticket byCommand) rfl rfl
  | restores ticket items =>
      exact .proceeds console (.refl console) rfl (console.restoreFrom_proceeds ticket 0 items)
        (console.restoreFrom_changes ticket 0 items) rfl rfl
  | answers question choice =>
      have step := console.answerQuestion_changes question choice
      have streams := ages_of_changes step (by decide)
      have registry : (console.answerQuestion question choice).registry = console.registry := by
        unfold answerQuestion
        split <;> rfl
      exact .tends (step.mono (by decide)) streams (fun shells housed =>
        housed.of_ages registry streams
          (console.answerQuestion_waiting question choice).symm.subset) rfl rfl
  | resumes place =>
      exact resumeTask_consoleMove housed place Option.isSome_map rfl
  | closes id =>
      exact .tends ((console.closeTerminal_changes id).mono (by decide))
        (console.closeTerminal_ages id) (fun shells housed => housed.closeTerminal id) rfl rfl
  | turns refusal faults =>
      refine .tends ⟨fun aspect outside => ?_⟩ (.refl _) (fun shells housed =>
        housed.of_ages rfl (.refl _) (List.Subset.refl _)) rfl rfl
      cases aspect <;> first | rfl | exact absurd (by decide) outside

theorem execute_consoleMove (console : Console) (ticket : Nat) (command : Command) :
    ConsoleMove console (.execute ticket command) (console.execute ticket command) := by
  have noted (console : Console) (outcome : Outcome) :
      Spares untyped console (console.finish ticket outcome) :=
    .of_changes (console.finish_changes ticket outcome) (by decide) (by decide)
  cases command with
  | openConsole =>
      have shown : Changes [] console (console.setOpen true) := by
        refine ⟨fun aspect outside => ?_⟩
        cases aspect <;> rfl
      exact .spares ((Spares.of_changes shown (by decide) (by decide)).trans (noted _ _)) rfl
  | clearConsole => exact .spares (console.clear_spares.trans (noted _ _)) rfl
  | copyOrInterrupt => exact .spares (noted _ _) rfl
  | newTerminal =>
      exact .proceeds console (.refl console) rfl (console.newTerminal_proceeds ticket true)
        (console.newTerminal_changes ticket true) rfl rfl

/-- Enter asks for no session where a shell is running. -/
theorem Housed.neverStarts (housed : Housed shells console) {aux : AuxiliaryTerminal}
    (member : aux ∈ console.registry.terminals) (key : KeyEvent) :
    aux.terminal.startHandler = some .session → aux.terminal.stream = none →
      key.key = .enter → console.admits key aux.terminal.keyFilter = false := by
  rw [(housed.lodged aux member).1.guarded.start]
  nofun

/-- A key that is pressed in an auxiliary terminal concerns nothing but its shell. -/
theorem pressIn_changes (housed : Housed shells console) (id : TerminalId) (key : KeyEvent) :
    Changes [.streams, .trace] console (console.pressIn id key) := by
  unfold pressIn pressAuxiliaryKey
  cases found : console.registry.get? id with
  | none => exact (Changes.refl [] console).mono (by decide)
  | some aux =>
      exact console.pressKeyIn_changes aux.terminal key
        (housed.neverStarts (List.mem_of_find?_eq_some found) key)

theorem pressIn_consoleMove (housed : Housed shells console) (id : TerminalId) (key : KeyEvent) :
    ConsoleMove console (.pressIn id key) (console.pressIn id key) := by
  have step := pressIn_changes housed id key
  unfold pressIn pressAuxiliaryKey at step ⊢
  refine .spares ?_ rfl
  cases found : console.registry.get? id with
  | none =>
      rw [enteredIn, found]
      exact .refl console
  | some aux =>
      rw [found] at step
      have ages := console.pressKeyIn_ages aux.terminal key
        (housed.neverStarts (List.mem_of_find?_eq_some found) key)
      rw [enteredIn, found]
      exact .of_parts step (by decide) (by decide) ages (.of_changes step (by decide))

theorem plain_of_ne (console : Console) {event : Event}
    (configured : ∀ settings, event ≠ .configure settings) (worked : event ≠ .work .task) :
    console.plain event := by
  unfold Console.plain
  split
  next settings => exact configured settings rfl
  next => exact absurd rfl worked
  next => trivial

/-- Whatever happens to an activated console comes to one of a few things. -/
theorem consoleMove_undergo (followers : console.HoldsFollowers) (housed : Housed shells console)
    (event : ConsoleEvent) : ConsoleMove console event (console.undergo event) := by
  cases event with
  | event event =>
      by_cases configured : ∃ settings, event = .configure settings
      · obtain ⟨settings, rfl⟩ := configured
        exact .configures settings rfl
      by_cases worked : event = .work .task
      · subst worked
        change ConsoleMove console _ console.runOldest
        rw [runOldest_eq]
        refine resumeTask_consoleMove housed 0 ?_ rfl
        rw [← List.head?_eq_getElem?]
        rfl
      · have plain := console.plain_of_ne (fun settings same => configured ⟨settings, same⟩) worked
        have idle : console.carriesOn (.event event) = false := by
          unfold carriesOn
          split
          next same =>
              obtain rfl := ConsoleEvent.event.inj same
              exact absurd rfl worked
          next same => cases same
          next same => cases same
          next => rfl
        exact .spares (apply_spares followers plain) idle
  | shell event => exact applyShell_consoleMove housed event
  | execute ticket command => exact console.execute_consoleMove ticket command
  | pressIn id key => exact pressIn_consoleMove housed id key
  | pumpAll =>
      have pumped := console.pump_changes
      have spared := console.pump_spares
      have registry : console.pump.1.registry = console.registry :=
        congrArg Prod.fst (pumped.same .shells (by decide))
      change ConsoleMove console _ console.pump.1.pumpShells.1
      have shown := console.pump.1.pumpShells_pumped
      refine .tends ((pumped.mono (by decide)).trans (shown.footprint.mono (by decide)))
        (spared.ages.after_untyped shown.ages) (fun shells housed => ?_) rfl rfl
      exact (housed.of_ages registry spared.ages spared.waiting).of_redrawn shown.redrawn shown.ages
        (shown.waiting ▸ List.Subset.refl _)
  | serves name label sends reply => exact .serves name label sends reply rfl

theorem handleRequests_changes (console : Console) (name : String) (handler : Handler) :
    Changes [.nextId, .handlers] console (console.handleRequests name handler).1 := by
  refine ⟨fun aspect outside => ?_⟩
  cases aspect <;> first | rfl | exact absurd (by decide) outside

theorem shellsStarted_of_idle {event : ConsoleEvent} (idle : console.carriesOn event = false) :
    console.shellsStarted event = [] := by
  rw [shellsStarted, idle]
  rfl

/-- The auxiliary terminals stay in order, and the shells that are started are added. -/
theorem Housed.step (housed : Housed shells console) (followers : console.HoldsFollowers)
    (event : ConsoleEvent) :
    Housed (shells ++ console.shellsStarted event) (console.undergo event) := by
  have apart {aspects : List Aspect} (step : Changes aspects console (console.undergo event))
      (others : [.streams, .shells, .tasks].all (· ∉ aspects) = true)
      (idle : console.carriesOn event = false) :
      Housed (shells ++ console.shellsStarted event) (console.undergo event) := by
    rw [shellsStarted_of_idle idle, List.append_nil]
    exact housed.of_ages (congrArg Prod.fst (step.kept others .shells (by decide)))
      (.of_eq (step.kept others .streams (by decide)))
      (waiting_of_changes step (apart_mono others (by decide)) ▸ List.Subset.refl _)
  cases consoleMove_undergo followers housed event with
  | spares spares idle =>
      rw [shellsStarted_of_idle idle, List.append_nil]
      exact housed.of_ages (congrArg Prod.fst (spares.footprint.same .shells (by decide)))
        spares.ages spares.waiting
  | proceeds ready taken streams proceeds _ carries _ =>
      have readied : Housed shells ready :=
        housed.of_ages (congrArg Prod.fst (taken.footprint.same .shells (by decide))) taken.ages
          taken.waiting
      rw [shellsStarted, carries, ← streams]
      exact readied.proceeds proceeds
  | configures settings asked =>
      subst asked
      exact apart (console.updateSettings_changes settings) (by decide) rfl
  | tends _ _ housedStill idle _ =>
      rw [shellsStarted_of_idle idle, List.append_nil]
      exact housedStill shells housed
  | serves name label sends reply asked =>
      subst asked
      exact apart (console.handleRequests_changes name _) (by decide) rfl

end

end Console

end RuntimeConsole
