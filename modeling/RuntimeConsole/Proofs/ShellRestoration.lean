/-
Module: RuntimeConsole.Proofs.ShellRestoration
Purpose: Auxiliary terminals that were open at one time can be opened again at another: what
  survives a restart brings back every one of them, once, without asking the user.
Main exports:
  PersistedTerminal.restorable, Console.Restored, Console.Restores, Console.restoreFrom_directories,
  Console.restoreFrom_restores, Restoration, shells_restored
-/
import RuntimeConsole.Proofs.Deactivation
import RuntimeConsole.Proofs.PersistedShells

namespace RuntimeConsole

/-! ### Terminals that can be restored -/

namespace PersistedTerminal

variable {used : List TerminalId} {items : List PersistedTerminal}

/-- The terminals of a list that are restored where some identities are in use: of the auxiliary
ones every identity that is not in use, for the first time it is listed. -/
def restorable (used : List TerminalId) : List PersistedTerminal → List PersistedTerminal
  | [] => []
  | item :: rest =>
      if !item.id.isAuxiliary || used.contains item.id then restorable used rest
      else item :: restorable (used ++ [item.id]) rest

/-- The terminal in the directory its own directory stands for. -/
def settled (home : String) (item : PersistedTerminal) : PersistedTerminal :=
  ⟨item.id, item.cwd.map (Directory.expandHome home)⟩

/-- Everything is restored where all identities are new and different. -/
theorem restorable_all (auxiliary : ∀ item ∈ items, item.id.isAuxiliary = true)
    (fresh : (used ++ items.map PersistedTerminal.id).Nodup) : restorable used items = items := by
  induction items generalizing used with
  | nil => rfl
  | cons item rest inductionHypothesis =>
      obtain ⟨first, others⟩ := List.forall_mem_cons.mp auxiliary
      have unused : item.id ∉ used := fun member =>
        (List.disjoint_of_nodup_append fresh) member List.mem_cons_self
      rw [restorable, if_neg (by simp [first, unused]), inductionHypothesis others]
      rwa [List.append_assoc]

end PersistedTerminal

/-- No shell is refused. -/
def Host.Willing (host : Host) : Prop :=
  ∀ shell cwd, host.refusal shell cwd = none

/-- The directory in which a shell is started. -/
def Effect.shellIn? : Effect → Option String
  | .startedShell _ _ cwd => some cwd
  | _ => none

/-- Whether the user is asked for a directory. -/
def Effect.isPrompt : Effect → Bool
  | .askedDirectory _ => true
  | _ => false

namespace Console

/-! ### Terminals that are restored -/

/-- Terminals have been registered after those there were, while the user has been asked for so
many directories.  Each has a shell of its own that was started for it and runs; no other shell
was started. -/
structure Restored (added : List AuxiliaryTerminal) (prompts : Nat) (before after : Console) :
    Prop where
  terminals : after.registry.terminals = before.registry.terminals ++ added
  shells : added.map AuxiliaryTerminal.shell = List.range' before.streams.length added.length
  attached : ∀ aux ∈ added, aux.terminal.stream = some aux.shell
  streams : ∃ started, after.streams = before.streams ++ started ∧
    started.length = added.length ∧ ∀ stream ∈ started, stream.alive = true
  told : ∃ effects, after.trace = before.trace ++ effects ∧
    effects.filterMap Effect.shellIn? = added.map AuxiliaryTerminal.cwd ∧
    effects.countP Effect.isPrompt = prompts
  asked : after.asked = before.asked + prompts
  errands : after.errands = before.errands
  host : after.host = before.host
  settings : after.settings = before.settings

section

variable {before middle after console : Console} {added more : List AuxiliaryTerminal}
  {prompts questions : Nat} {terminal : Terminal} {items : List PersistedTerminal}

theorem Restored.refl (console : Console) : Restored [] 0 console console where
  terminals := (List.append_nil _).symm
  shells := rfl
  attached := by simp
  streams := ⟨[], (List.append_nil _).symm, rfl, nofun⟩
  told := ⟨[], (List.append_nil _).symm, rfl, rfl⟩
  asked := rfl
  errands := rfl
  host := rfl
  settings := rfl

theorem Restored.trans (earlier : Restored added prompts before middle)
    (later : Restored more questions middle after) :
    Restored (added ++ more) (prompts + questions) before after where
  terminals := by rw [later.terminals, earlier.terminals, List.append_assoc]
  shells := by
    obtain ⟨started, streams, length, -⟩ := earlier.streams
    rw [List.map_append, earlier.shells, later.shells, streams, List.length_append, length,
      List.length_append, List.range'_append_1]
  attached aux member :=
    (List.mem_append.mp member).elim (earlier.attached aux) (later.attached aux)
  streams := by
    obtain ⟨started, streams, length, alive⟩ := earlier.streams
    obtain ⟨others, moreStreams, moreLength, moreAlive⟩ := later.streams
    refine ⟨started ++ others, by rw [moreStreams, streams, List.append_assoc],
      by rw [List.length_append, List.length_append, length, moreLength], fun stream member => ?_⟩
    exact (List.mem_append.mp member).elim (alive stream) (moreAlive stream)
  told := by
    obtain ⟨effects, trace, shells, prompted⟩ := earlier.told
    obtain ⟨others, moreTrace, moreShells, morePrompted⟩ := later.told
    exact ⟨effects ++ others, by rw [moreTrace, trace, List.append_assoc],
      by rw [List.filterMap_append, shells, moreShells, List.map_append],
      by rw [List.countP_append, prompted, morePrompted]⟩
  asked := by rw [later.asked, earlier.asked, Nat.add_assoc]
  errands := later.errands.trans earlier.errands
  host := later.host.trans earlier.host
  settings := later.settings.trans earlier.settings

theorem Restored.ids (restored : Restored added prompts before after) :
    after.registry.ids = before.registry.ids ++ added.map AuxiliaryTerminal.id := by
  rw [Registry.ids, restored.terminals, List.map_append, Registry.ids]

/-- The user has been asked. -/
theorem askDirectory_restored (console : Console) :
    Restored [] 1 console console.askDirectory.1 := by
  have asked : Restored [] 1 console
      ({ console with asked := console.asked + 1 }.emit (.askedDirectory console.host.roots)) :=
    ⟨(List.append_nil _).symm, rfl, by simp, ⟨[], (List.append_nil _).symm, rfl, nofun⟩,
      ⟨[_], rfl, rfl, rfl⟩, rfl, rfl, rfl, rfl⟩
  unfold askDirectory
  dsimp only
  split <;> exact asked

theorem startShell_willing (willing : console.host.Willing) (cwd : String) :
    console.startShell cwd =
      ({ console with
          trace := console.trace ++ [.startedShell console.settings.current.shell .auxiliary cwd]
          streams := console.streams ++ [.fresh console.host.shellFaults] },
        .ok console.streams.length) := by
  have unrefused := willing console.settings.current.shell (some cwd)
  simp only [startShell, emit, addStream, unrefused]

theorem startShell_ok (willing : console.host.Willing) (cwd : String) :
    console.startShell cwd = ((console.startShell cwd).1, .ok console.streams.length) := by
  rw [startShell_willing willing]

/-- A shell that has just been started becomes that of a terminal whose identity is not in use. -/
theorem admitRestored_restored (willing : console.host.Willing)
    (unused : terminal.id ∉ console.registry.ids) (cwd : String) :
    ∃ aux : AuxiliaryTerminal, aux.id = terminal.id ∧ aux.cwd = cwd ∧
      Restored [aux] 0 console
        ((console.startShell cwd).1.admitRestored terminal console.streams.length cwd).1 ∧
      ((console.startShell cwd).1.admitRestored terminal console.streams.length cwd).2 = true := by
  obtain ⟨alive, -⟩ := fresh_after_resize console.host.shellFaults terminal.grid.size
  have vacant : console.registry.contains terminal.id = false := by
    simpa [Registry.contains] using unused
  refine ⟨⟨{ terminal with stream := some console.streams.length }, console.streams.length, cwd⟩,
    rfl, rfl, ?_⟩
  rw [startShell_willing willing, Console.admitRestored, attachShell, tryOnStream_eq]
  dsimp only
  rw [vacant, if_neg Bool.false_ne_true, modify_last]
  refine ⟨⟨rfl, rfl, ?_, ⟨[_], rfl, rfl, ?_⟩, ⟨[_], rfl, rfl, rfl⟩, rfl, rfl, rfl, rfl⟩, rfl⟩
  · simp
  · simpa using alive

theorem restoreIn_restored (terminal : Terminal) (willing : console.host.Willing)
    (unused : terminal.id ∉ console.registry.ids) (path : String) :
    ∃ aux : AuxiliaryTerminal, aux.id = terminal.id ∧
      aux.cwd = Directory.expandHome console.host.home path ∧
      Restored [aux] 0 console (console.restoreIn terminal path).1 ∧
      (console.restoreIn terminal path).2 = true := by
  obtain ⟨aux, id, cwd, restored⟩ := admitRestored_restored willing unused
    (Directory.expandHome console.host.home path)
  refine ⟨aux, id, cwd, ?_⟩
  unfold Console.restoreIn
  dsimp only
  rw [startShell_ok willing]
  exact restored

/-- A terminal is restored where the user chose a directory, and nothing is started otherwise. -/
theorem restoreChosen_restored (willing : console.host.Willing)
    (unused : terminal.id ∉ console.registry.ids) (choice : Option String) :
    (∃ aux : AuxiliaryTerminal, aux.id = terminal.id ∧
      Restored [aux] 0 console (console.restoreChosen terminal choice).1 ∧
      (console.restoreChosen terminal choice).2 = true) ∨
    console.restoreChosen terminal choice = (console, false) := by
  unfold Console.restoreChosen Console.startChosen
  cases chosenDirectory console.host.home choice with
  | error failure => exact .inr rfl
  | ok cwd =>
      obtain ⟨aux, id, -, restored⟩ := admitRestored_restored willing unused cwd
      refine .inl ⟨aux, id, ?_⟩
      dsimp only
      rw [startShell_ok willing]
      exact restored

/-! ### Lists of terminals -/

/-- Where every terminal has a directory, those that can be restored are, and nobody is asked. -/
theorem restoreFrom_directories (willing : console.host.Willing) (ticket count : Nat)
    (directories : ∀ item ∈ items, item.cwd.isSome = true) :
    ∃ added reached,
      console.restoreFrom ticket count items =
        reached.finish ticket (.restored (count + added.length)) ∧
      Restored added 0 console reached ∧
      added.map AuxiliaryTerminal.persisted =
        (PersistedTerminal.restorable console.registry.ids items).map
          (PersistedTerminal.settled console.host.home) := by
  induction items generalizing console count with
  | nil => exact ⟨[], console, rfl, .refl console, rfl⟩
  | cons item rest inductionHypothesis =>
      obtain ⟨directory, others⟩ := List.forall_mem_cons.mp directories
      obtain ⟨cwd, known⟩ := Option.isSome_iff_exists.mp directory
      unfold Console.restoreFrom PersistedTerminal.restorable
      split
      next passed =>
          rw [Registry.contains] at passed
          rw [if_pos passed]
          exact inductionHypothesis willing count others
      next accepted =>
          rw [Registry.contains] at accepted
          rw [if_neg accepted, known]
          have unused : item.id ∉ console.registry.ids := by
            simp at accepted
            exact accepted.2
          obtain ⟨aux, id, settled, first, done⟩ :=
            restoreIn_restored (console.auxiliaryTerminal item.id) willing unused cwd
          dsimp only
          rw [done]
          obtain ⟨added, reached, finished, restored, listed⟩ :=
            inductionHypothesis (first.host ▸ willing) (count + 1) others
          refine ⟨aux :: added, reached, ?_, first.trans restored, ?_⟩
          · rw [Bool.toNat_true, finished, List.length_cons, Nat.add_assoc, Nat.add_comm 1]
          · have same : aux.id = item.id := id
            rw [List.map_cons, listed, first.ids, first.host, List.map_singleton, same,
              List.map_cons, AuxiliaryTerminal.persisted, same, settled,
              PersistedTerminal.settled, known]
            rfl

/-- Terminals of a list have been registered in its order: none twice, and none whose identity is
not that of an auxiliary terminal or was in use. -/
structure OneEach (items : List PersistedTerminal) (used : List TerminalId)
    (added : List AuxiliaryTerminal) : Prop where
  listed : (added.map AuxiliaryTerminal.id).Sublist (items.map PersistedTerminal.id)
  different : (added.map AuxiliaryTerminal.id).Nodup
  unused : ∀ aux ∈ added, aux.id.isAuxiliary = true ∧ aux.id ∉ used

/-- The restoring of a list has come to its end, or waits for the user in the midst of it. -/
inductive Restores (ticket count : Nat) (items : List PersistedTerminal) (before : Console) :
    Console → Prop where
  | ends {added : List AuxiliaryTerminal} {prompts : Nat} {reached : Console} :
      Restored added prompts before reached → OneEach items before.registry.ids added →
      Restores ticket count items before (reached.finish ticket (.restored (count + added.length)))
  | waits {added : List AuxiliaryTerminal} {prompts : Nat} {reached : Console}
      {earlier rest : List PersistedTerminal} {terminal : Terminal} :
      Restored added prompts before reached → OneEach earlier before.registry.ids added →
      items = earlier ++ ⟨terminal.id, none⟩ :: rest → terminal.id.isAuxiliary = true →
      terminal.id ∉ reached.registry.ids →
      Restores ticket count items before
        { reached with
          errands := reached.errands ++ [.restore ticket terminal rest (count + added.length)] }

theorem OneEach.none (items : List PersistedTerminal) (used : List TerminalId) :
    OneEach items used [] :=
  ⟨List.nil_sublist _, List.nodup_nil, by simp⟩

theorem OneEach.one {item : PersistedTerminal} {used : List TerminalId} {aux : AuxiliaryTerminal}
    (id : aux.id = item.id) (auxiliary : item.id.isAuxiliary = true) (unused : item.id ∉ used) :
    OneEach [item] used [aux] where
  listed := by simp [id]
  different := List.nodup_singleton _
  unused := by simpa [id] using ⟨auxiliary, unused⟩

theorem OneEach.append {others : List PersistedTerminal} {used : List TerminalId}
    (first : OneEach items used added)
    (second : OneEach others (used ++ added.map AuxiliaryTerminal.id) more) :
    OneEach (items ++ others) used (added ++ more) where
  listed := by
    rw [List.map_append, List.map_append]
    exact first.listed.append second.listed
  different := by
    rw [List.map_append]
    refine first.different.append second.different fun id earlier later => ?_
    obtain ⟨aux, member, rfl⟩ := List.mem_map.mp later
    exact (second.unused aux member).2 (List.mem_append_right _ earlier)
  unused aux member := by
    rcases List.mem_append.mp member with earlier | later
    · exact first.unused aux earlier
    · exact (second.unused aux later).imp_right fun outside inside =>
        outside (List.mem_append_left _ inside)

/-- What is restored first is restored before the rest. -/
theorem Restores.following (items : List PersistedTerminal) {others : List PersistedTerminal}
    {ticket count : Nat} (first : Restored added prompts before middle)
    (one : OneEach items before.registry.ids added)
    (rest : Restores ticket (count + added.length) others middle after) :
    Restores ticket count (items ++ others) before after := by
  cases rest with
  | ends restored other =>
      rw [first.ids] at other
      rw [Nat.add_assoc, ← List.length_append]
      exact .ends (first.trans restored) (one.append other)
  | @waits others _ _ earlier _ _ restored other listed auxiliary unused =>
      rw [first.ids] at other
      rw [Nat.add_assoc, ← List.length_append]
      exact .waits (first.trans restored) (one.append other)
        (by rw [listed, List.append_assoc]) auxiliary unused

/-- A terminal is restored in the directory the user chose, if any, and the rest follows. -/
theorem restoreChosen_restores {ticket count : Nat} {rest : List PersistedTerminal}
    (terminal : Terminal) (willing : console.host.Willing)
    (auxiliary : terminal.id.isAuxiliary = true) (unused : terminal.id ∉ console.registry.ids)
    (choice : Option String)
    (follows : ∀ (reached : Console) (count : Nat), reached.host.Willing →
      Restores ticket count rest reached (reached.restoreFrom ticket count rest)) :
    Restores ticket count (⟨terminal.id, none⟩ :: rest) console
      ((console.restoreChosen terminal choice).1.restoreFrom ticket
        (count + (console.restoreChosen terminal choice).2.toNat) rest) := by
  rcases restoreChosen_restored willing unused choice with ⟨aux, id, restored, done⟩ | nothing
  · rw [done]
    exact .following [⟨terminal.id, none⟩] restored (.one id auxiliary unused)
      (follows _ _ (restored.host ▸ willing))
  · rw [nothing]
    exact .following [⟨terminal.id, none⟩] (.refl console) (.none _ _)
      (follows _ _ willing)

/-- Whatever list is restored and however the user answers, every identity gets a shell once. -/
theorem restoreFrom_restores (willing : console.host.Willing) (ticket count : Nat)
    (items : List PersistedTerminal) :
    Restores ticket count items console (console.restoreFrom ticket count items) := by
  induction items generalizing console count with
  | nil => exact .ends (.refl console) (.none [] _)
  | cons item rest inductionHypothesis =>
      unfold Console.restoreFrom
      split
      next =>
          exact .following [item] (.refl console) (.none [item] _)
            (inductionHypothesis willing count)
      next accepted =>
          obtain ⟨auxiliary, unused⟩ :
              item.id.isAuxiliary = true ∧ item.id ∉ console.registry.ids := by
            simpa [Registry.contains] using accepted
          obtain ⟨id, cwd⟩ := item
          cases cwd with
          | some cwd =>
              obtain ⟨aux, same, -, restored, done⟩ :=
                restoreIn_restored (console.auxiliaryTerminal id) willing unused cwd
              dsimp only
              rw [done]
              exact .following [⟨id, some cwd⟩] restored (.one same auxiliary unused)
                (inductionHypothesis (restored.host ▸ willing) _)
          | none =>
              have asked := console.askDirectory_restored
              have vacant : id ∉ console.askDirectory.1.registry.ids := by
                rwa [asked.ids, List.map_nil, List.append_nil]
              dsimp only
              split
              next reached choice result =>
                  rw [result] at asked vacant
                  exact .following [] asked (.none [] _)
                    (restoreChosen_restores (console.auxiliaryTerminal id)
                      (asked.host ▸ willing) auxiliary vacant choice fun _ _ willing =>
                        inductionHypothesis willing _)
              next reached result =>
                  rw [result] at asked vacant
                  exact .waits asked (.none [] _) (List.nil_append _).symm auxiliary vacant

/-- A list all of whose terminals are there, or are not auxiliary ones, comes to nothing. -/
theorem restoreFrom_known (ticket count : Nat)
    (known : ∀ item ∈ items, item.id.isAuxiliary = true → item.id ∈ console.registry.ids) :
    console.restoreFrom ticket count items = console.finish ticket (.restored count) := by
  induction items with
  | nil => rfl
  | cons item rest inductionHypothesis =>
      obtain ⟨first, others⟩ := List.forall_mem_cons.mp known
      rw [Console.restoreFrom, if_pos, inductionHypothesis others]
      cases auxiliary : item.id.isAuxiliary with
      | false => rfl
      | true => simpa [Registry.contains] using first auxiliary

end

end Console

/-! ### Restarts -/

theorem Registry.persist_of_sorted {registry : Registry} {saved : List PersistedTerminal}
    (known : registry.terminals.map AuxiliaryTerminal.persisted = saved)
    (sorted : saved.Pairwise fun first second => first.id.text < second.id.text) :
    registry.persist = saved := by
  rw [Registry.persist, known]
  refine List.mergeSort_of_pairwise (sorted.imp fun {first second} before => ?_)
  simp only [TerminalId.precedes, Bool.not_eq_true', decide_eq_false_iff_not]
  exact String.lt_asymm before

/-- What becomes of the terminals that are saved where the user has a given home directory, and of
lists of terminals in general. -/
structure Restoration (home : String) (saved : List PersistedTerminal) : Prop where
  /-- What is written is read back, on one line and as the state file lays it out. -/
  written : PersistedTerminal.listOfText? (PersistedTerminal.listToJson saved).render = some saved ∧
    CommandLine.savedTerminals (some (CommandLine.stateFile saved).toList) = saved
  /-- Where no terminal is open and no shell refused, all of them are restored, each with a shell
  of its own.  The user is not asked, and what survives the next restart is the same.  Restoring
  them once more comes to nothing. -/
  restored : ∀ fresh : Console, fresh.registry = .empty → fresh.host.home = home →
    fresh.host.Willing → ∀ ticket, ∃ added reached,
      fresh.restoreTerminals ticket saved = reached.finish ticket (.restored saved.length) ∧
        fresh.Restored added 0 reached ∧ added.map AuxiliaryTerminal.persisted = saved ∧
        reached.registry.persist = saved ∧
        ∀ again, (fresh.restoreTerminals ticket saved).restoreTerminals again saved =
          (fresh.restoreTerminals ticket saved).finish again (.restored 0)
  /-- Whatever terminals are open, of a list whose terminals have directories those are restored
  that are auxiliary ones and not open, each identity once. -/
  directories : ∀ console : Console, console.host.Willing → ∀ ticket items,
    (∀ item ∈ items, item.cwd.isSome = true) → ∃ added reached,
      console.restoreTerminals ticket items = reached.finish ticket (.restored added.length) ∧
        console.Restored added 0 reached ∧
        added.map AuxiliaryTerminal.persisted =
          (PersistedTerminal.restorable console.registry.ids items).map
            (PersistedTerminal.settled console.host.home)
  /-- Where the user is asked for directories, no identity gets a second shell either, and none
  that is not that of an auxiliary terminal gets any, also after a question that waited. -/
  prompted : ∀ console : Console, console.host.Willing → ∀ ticket items,
    console.Restores ticket 0 items (console.restoreTerminals ticket items)
  resumed : ∀ console : Console, console.host.Willing → ∀ ticket count terminal rest choice,
    terminal.id.isAuxiliary = true → terminal.id ∉ console.registry.ids →
      console.Restores ticket count (⟨terminal.id, none⟩ :: rest)
        (console.resumeErrand choice (.restore ticket terminal rest count))
  /-- Terminals that are open and those that are not auxiliary ones are passed over, whatever
  shells are refused. -/
  known : ∀ (console : Console) ticket items,
    (∀ item ∈ items, item.id.isAuxiliary = true → item.id ∈ console.registry.ids) →
      console.restoreTerminals ticket items = console.finish ticket (.restored 0)

/-- Auxiliary terminals listed by identity are restored where their directories stand for
themselves. -/
theorem restoration_of_sorted {home : String} {saved : List PersistedTerminal}
    (auxiliary : ∀ item ∈ saved, item.id.isAuxiliary = true)
    (settled : ∀ item ∈ saved, item.cwd.isSome = true ∧ item.settled home = item)
    (sorted : saved.Pairwise fun first second => first.id.text < second.id.text) :
    Restoration home saved where
  written := ⟨PersistedTerminal.listOfText?_compact saved, savedTerminals_stateFile saved⟩
  restored fresh nobody homed willing ticket := by
    have different : (saved.map PersistedTerminal.id).Nodup :=
      List.pairwise_map.mpr (sorted.imp fun {first second} before same => by
        rw [same] at before
        exact String.lt_irrefl _ before)
    obtain ⟨added, reached, finished, restored, listed⟩ :=
      Console.restoreFrom_directories willing ticket 0 fun item member => (settled item member).1
    have ids : fresh.registry.ids = [] := by rw [nobody, Registry.ids, Registry.empty, List.map_nil]
    have kept : saved.map (PersistedTerminal.settled home) = saved :=
      (List.map_congr_left fun item member => (settled item member).2).trans (List.map_id _)
    rw [ids, PersistedTerminal.restorable_all auxiliary different, homed, kept] at listed
    have number : 0 + added.length = saved.length := by
      rw [← listed, List.length_map, Nat.zero_add]
    have known : reached.registry.terminals.map AuxiliaryTerminal.persisted = saved := by
      rw [restored.terminals, nobody, Registry.empty, List.nil_append, listed]
    rw [number] at finished
    refine ⟨added, reached, finished, restored, listed,
      Registry.persist_of_sorted known sorted, fun again => ?_⟩
    refine Console.restoreFrom_known again 0 fun item member _ => ?_
    rw [Console.restoreTerminals, finished]
    change item.id ∈ reached.registry.ids
    rw [← known, List.mem_map] at member
    obtain ⟨aux, there, rfl⟩ := member
    exact List.mem_map_of_mem there
  directories console willing ticket items directories := by
    obtain ⟨added, reached, finished, restored⟩ :=
      Console.restoreFrom_directories willing ticket 0 directories
    exact ⟨added, reached, by rw [Console.restoreTerminals, finished, Nat.zero_add], restored⟩
  prompted console willing ticket items := Console.restoreFrom_restores willing ticket 0 items
  resumed console willing ticket count terminal rest choice auxiliary unused :=
    Console.restoreChosen_restores terminal willing auxiliary unused choice fun _ _ willing =>
      Console.restoreFrom_restores willing ticket _ rest
  known console ticket items known := Console.restoreFrom_known ticket 0 known

/-- A restart brings back the auxiliary terminals there were at any moment after a console was
activated. -/
theorem shells_restored (parts : ConsoleParts) (start : Console) (events : List ConsoleEvent)
    (activated : Console.activate? parts = some start)
    (absolute : Directory.isAbsolute parts.host.home.toList = true)
    (draws : ∀ n, (parts.host.identities.draw n).isAuxiliary = true) :
    Restoration parts.host.home (start.undergoAll events).registry.persist := by
  have standing := (Console.persistable_reachable activated absolute draws events).standing
  have ids := (Console.upkept_reachable activated events).housed.ids
  generalize (start.undergoAll events).registry = registry at standing ids ⊢
  have known (item : PersistedTerminal) (member : item ∈ registry.persist) :
      ∃ aux ∈ registry.terminals, aux.persisted = item :=
    List.mem_map.mp (registry.persist_perm.mem_iff.mp member)
  refine restoration_of_sorted (fun item member => ?_) (fun item member => ?_)
    (Registry.persist_sorted ids)
  · obtain ⟨aux, there, rfl⟩ := known item member
    exact (standing aux there).auxiliary
  · obtain ⟨aux, there, rfl⟩ := known item member
    refine ⟨rfl, ?_⟩
    rw [PersistedTerminal.settled, AuxiliaryTerminal.persisted, Option.map_some,
      (standing aux there).settled]

/-- Two terminals are opened, one of them below the home directory; the next console of the same
user can restore them. -/
theorem shells_restored_saved :
    let parts := { decidedParts with
      host := { Host.permissive with reply := fun n => .chooses (if n = 0 then "~/b" else " /a ") } }
    let start := Console.wired parts
    let fresh := Console.bare ⟨2, 20⟩
    let events := [ConsoleEvent.execute 1 .newTerminal, .execute 2 .newTerminal]
    Console.activate? parts = some start ∧
      Directory.isAbsolute parts.host.home.toList = true ∧
      (∀ n, (parts.host.identities.draw n).isAuxiliary = true) ∧
      Restoration parts.host.home (start.undergoAll events).registry.persist ∧
      (start.undergoAll events).registry.terminals.map AuxiliaryTerminal.cwd = ["/home/b", "/a"] ∧
      fresh.registry = .empty ∧ fresh.host.home = parts.host.home ∧ fresh.host.Willing := by
  intro parts start fresh events
  have activated : Console.activate? parts = some start := rfl
  exact ⟨activated, by decide, IdSupply.counting_isAuxiliary 1,
    shells_restored parts start events activated (by decide) (IdSupply.counting_isAuxiliary 1),
    by decide +kernel, rfl, rfl, fun _ _ => rfl⟩

end RuntimeConsole
