/-
Module: RuntimeConsole.Proofs.PersistedShells
Purpose: What survives a restart of an auxiliary terminal can be read back from where it was
  written, and names a directory that stands for itself.
Main exports:
  Directory.expandHome_expandHome, savedTerminals_stateFile, Console.Persistable,
  Console.persistable_reachable
-/
import RuntimeConsole.CommandLine
import RuntimeConsole.Proofs.ConsoleUpkeep
import RuntimeConsole.Proofs.JsonLayout

namespace RuntimeConsole

/-! ### Directories -/

namespace Directory

variable {home path : List Char}

/-- An absolute path has no tilde to be replaced. -/
theorem expandHomeChars_of_absolute (absolute : isAbsolute path = true) :
    expandHomeChars home path = path := by
  unfold expandHomeChars
  split
  · simp [isAbsolute] at absolute
  · simp [isAbsolute] at absolute
  · simp [isAbsolute] at absolute
  · rfl

theorem joinChars_absolute (absolute : isAbsolute home = true) (rest : List Char) :
    isAbsolute (joinChars home rest) = true := by
  unfold joinChars
  split
  next already => exact already
  next =>
      have kept (more : List Char) : isAbsolute (home ++ more) = true := by
        cases home with
        | nil => simp [isAbsolute] at absolute
        | cons first home => exact absolute
      split
      · exact kept rest
      · exact kept ('/' :: rest)

/-- Whatever a tilde is replaced in has none afterwards, where the home directory is absolute. -/
theorem expandHomeChars_expandHomeChars (absolute : isAbsolute home = true) (path : List Char) :
    expandHomeChars home (expandHomeChars home path) = expandHomeChars home path := by
  rw [expandHomeChars.eq_def home path]
  split
  · exact expandHomeChars_of_absolute absolute
  · exact expandHomeChars_of_absolute (joinChars_absolute absolute _)
  · exact expandHomeChars_of_absolute (joinChars_absolute absolute _)
  next alone slash backslash =>
      unfold expandHomeChars
      split
      · exact (alone rfl).elim
      · exact (slash _ rfl).elim
      · exact (backslash _ rfl).elim
      · rfl

theorem expandHome_expandHome {home : String} (absolute : isAbsolute home.toList = true)
    (path : String) : expandHome home (expandHome home path) = expandHome home path := by
  rw [expandHome, expandHome, String.toList_ofList, expandHomeChars_expandHomeChars absolute]

end Directory

/-! ### What is written -/

namespace PersistedTerminal

theorem listToJson_isPlain (items : List PersistedTerminal) :
    (listToJson items).isPlain = true := by
  rw [listToJson, Json.isPlain]
  induction items with
  | nil => rfl
  | cons item items inductionHypothesis =>
      have plain : item.toJson.isPlain = true := by
        obtain ⟨id, cwd⟩ := item
        cases cwd <;> simp [toJson, Json.isPlain, Json.membersPlain]
      rw [List.map_cons, Json.itemsPlain, plain, inductionHypothesis]
      rfl

theorem listToJson_depth (items : List PersistedTerminal) :
    (listToJson items).depth ≤ Json.nestingLimit := by
  have shallow : Json.depthOfItems (items.map toJson) ≤ 1 := by
    induction items with
    | nil => exact Nat.zero_le 1
    | cons item items inductionHypothesis =>
        have flat : item.toJson.depth ≤ 1 := by
          obtain ⟨id, cwd⟩ := item
          cases cwd <;> simp [toJson, Json.depth, Json.depthOfMembers]
        rw [List.map_cons, Json.depthOfItems]
        exact Nat.max_le.mpr ⟨flat, inductionHypothesis⟩
  rw [listToJson, Json.depth, Json.nestingLimit]
  omega

/-- What is of interest in the text of a list of terminals is all there is in it. -/
theorem listToJson_covered (items : List PersistedTerminal) :
    (Json.Interest.items (.members fieldNames)).Covers (listToJson items) := by
  simp only [listToJson, Json.Interest.Covers, List.mem_map]
  rintro _ ⟨item, -, rfl⟩
  simp [toJson, Json.Interest.Covers, fieldNames]

theorem ofJson_toJson (item : PersistedTerminal) : ofJson item.toJson = .ok item := by
  obtain ⟨⟨text⟩, cwd⟩ := item
  cases cwd <;>
    simp [ofJson, toJson, fieldNames, Json.asRecord, Record.ofMembers, Record.required,
      Record.nullable, Record.find?, Json.asString, Json.asOption, bind, Except.bind,
      List.lookup_cons, Except.map, pure, Except.pure]

theorem listOfJson_listToJson (items : List PersistedTerminal) :
    listOfJson (listToJson items) = .ok items := by
  rw [listToJson, listOfJson, Json.asList]
  induction items with
  | nil => rfl
  | cons item items inductionHypothesis =>
      rw [List.map_cons, List.mapM_cons, ofJson_toJson, inductionHypothesis]
      rfl

/-- The terminals are found in their text. -/
theorem listOfText?_of_parse {text : List Char} {items : List PersistedTerminal}
    (read : Json.parseChars? Json.nestingLimit text =
      Json.admitted (listToJson items).depth Json.nestingLimit (listToJson items)) :
    listOfText? text = some items := by
  rw [Json.admitted, if_pos (listToJson_depth items)] at read
  rw [listOfText?, Json.parseWith?_covered read (listToJson_covered items)]
  simp only [listOfJson_listToJson]
  rfl

theorem listOfText?_compact (items : List PersistedTerminal) :
    listOfText? (listToJson items).render = some items :=
  listOfText?_of_parse (Json.parseChars?_render _ (listToJson_isPlain items))

theorem listOfText?_pretty (items : List PersistedTerminal) :
    listOfText? ((listToJson items).renderIndented 0) = some items :=
  listOfText?_of_parse (Json.parseChars?_pretty _ (listToJson_isPlain items))

end PersistedTerminal

/-- The state file gives back the terminals it was written for. -/
theorem savedTerminals_stateFile (items : List PersistedTerminal) :
    CommandLine.savedTerminals (some (CommandLine.stateFile items).toList) = items := by
  rw [CommandLine.savedTerminals, Option.bind_some, CommandLine.stateFile, Json.pretty,
    String.toList_ofList, PersistedTerminal.listOfText?_pretty]
  rfl

namespace Console

/-! ### Terminals that are open -/

/-- A terminal that a restart brings back as it is, where the user has a given home directory. -/
structure Standing (home : String) (id : TerminalId) (cwd : String) : Prop where
  auxiliary : id.isAuxiliary = true
  settled : Directory.expandHome home cwd = cwd

/-- A console all of whose terminals a restart brings back as they are.  The home directory is
absolute, and identities that are drawn are those of auxiliary terminals. -/
structure Persistable (home : String) (console : Console) : Prop where
  homed : console.host.home = home
  absolute : Directory.isAbsolute home.toList = true
  draws : console.host.DrawsAuxiliary
  standing : ∀ aux ∈ console.registry.terminals, Standing home aux.id aux.cwd

section

variable {home : String} {before after console : Console} {shells : List ProcessStream}
  {aspects : List Aspect}

theorem Persistable.of_same (persistable : Persistable home before)
    (host : after.host = before.host) (registry : after.registry = before.registry) :
    Persistable home after where
  homed := host ▸ persistable.homed
  absolute := persistable.absolute
  draws := host ▸ persistable.draws
  standing := registry ▸ persistable.standing

theorem Persistable.of_changes (persistable : Persistable home before)
    (step : Changes aspects before after)
    (apart : [.host, .shells].all (· ∉ aspects) = true) : Persistable home after :=
  persistable.of_same (step.kept apart .host (by decide))
    (congrArg Prod.fst (step.kept apart .shells (by decide)))

theorem Persistable.starts (persistable : Persistable home before)
    (starts : Starts before shells after) : Persistable home after :=
  persistable.of_same starts.beside.host starts.registry

/-- Some terminals are closed, others are drawn again. -/
theorem Persistable.of_persisted (persistable : Persistable home before)
    (host : after.host = before.host)
    (known : after.registry.terminals.map AuxiliaryTerminal.persisted ⊆
      before.registry.terminals.map AuxiliaryTerminal.persisted) : Persistable home after where
  homed := host ▸ persistable.homed
  absolute := persistable.absolute
  draws := host ▸ persistable.draws
  standing aux member := by
    obtain ⟨old, oldMember, same⟩ := List.mem_map.mp (known (List.mem_map_of_mem member))
    obtain ⟨id, cwd⟩ := PersistedTerminal.mk.inj same
    rw [← id, ← Option.some.inj cwd]
    exact persistable.standing old oldMember

theorem Persistable.register (persistable : Persistable home console) {aux : AuxiliaryTerminal}
    (standing : Standing home aux.id aux.cwd) : Persistable home (console.register aux) where
  homed := persistable.homed
  absolute := persistable.absolute
  draws := persistable.draws
  standing other member := by
    rcases List.mem_append.mp member with old | new
    · exact persistable.standing other old
    · exact List.mem_singleton.mp new ▸ standing

theorem Persistable.tryOnStream (persistable : Persistable home console) (id : Nat)
    (operation : ProcessStream → Except Failure ProcessStream) :
    Persistable home (console.tryOnStream id operation) :=
  persistable.of_changes (console.tryOnStream_changes id operation) (by decide)

/-- Directories are settled once they have been read. -/
theorem Persistable.settled (persistable : Persistable home console) (path : String) :
    Directory.expandHome home (Directory.expandHome console.host.home path) =
      Directory.expandHome console.host.home path := by
  rw [persistable.homed, Directory.expandHome_expandHome persistable.absolute]

theorem Persistable.admitRestored (persistable : Persistable home console) {terminal : Terminal}
    (stream : Nat) {cwd : String} (standing : Standing home terminal.id cwd) :
    Persistable home (console.admitRestored terminal stream cwd).1 := by
  have told := persistable.tryOnStream stream fun shell => shell.resize terminal.grid.size
  unfold Console.admitRestored attachShell
  dsimp only
  split
  · exact told.tryOnStream stream ProcessStream.kill
  · exact told.register standing

theorem Persistable.openTerminal (persistable : Persistable home console) (stream : Nat)
    {cwd : String} (settled : Directory.expandHome home cwd = cwd) :
    Persistable home (console.openTerminal stream cwd).1 := by
  have ready (drawn : Nat) : Persistable home { console with drawn := drawn } :=
    persistable.of_same rfl rfl
  unfold Console.openTerminal freshIdentity attachShell
  dsimp only
  generalize console.host.identities.firstUnused console.registry.ids console.drawn = drawn
  exact ((ready (drawn + 1)).tryOnStream stream _).register ⟨persistable.draws drawn, settled⟩

/-- A shell is started in a directory that stands for itself. -/
theorem Persistable.startShell (persistable : Persistable home console) (cwd : String) :
    Persistable home (console.startShell cwd).1 := by
  obtain ⟨failure, -, -, starts⟩ | ⟨-, -, starts⟩ := console.startShell_cases cwd
  · exact persistable.starts starts
  · exact persistable.starts starts

/-- The directory a shell is started in where the user chose one stands for itself. -/
theorem Persistable.startChosen (persistable : Persistable home console)
    (choice : Option String) :
    Persistable home (console.startChosen choice).1 ∧
      ∀ stream cwd, (console.startChosen choice).2 = .ok (stream, cwd) →
        Directory.expandHome home cwd = cwd := by
  unfold Console.startChosen
  split
  next failure chosen => exact ⟨persistable, nofun⟩
  next directory chosen =>
      have settled : Directory.expandHome home directory = directory := by
        unfold chosenDirectory at chosen
        split at chosen
        · cases chosen
        · dsimp only at chosen
          split at chosen
          · cases chosen
          · obtain rfl := Except.ok.inj chosen
            exact persistable.settled _
      have started := persistable.startShell directory
      split
      next reached stream result =>
          rw [result] at started
          refine ⟨started, fun other cwd same => ?_⟩
          obtain ⟨-, rfl⟩ := Prod.mk.inj (Except.ok.inj same)
          exact settled
      next reached failure result =>
          rw [result] at started
          exact ⟨started, nofun⟩

theorem Persistable.restoreChosen (persistable : Persistable home console) {terminal : Terminal}
    (auxiliary : terminal.id.isAuxiliary = true) (choice : Option String) :
    Persistable home (console.restoreChosen terminal choice).1 := by
  obtain ⟨started, settled⟩ := persistable.startChosen choice
  unfold Console.restoreChosen
  split
  next reached stream cwd result =>
      rw [result] at started settled
      exact started.admitRestored stream ⟨auxiliary, settled stream cwd rfl⟩
  next reached failure result =>
      rw [result] at started
      exact started

theorem Persistable.restoreIn (persistable : Persistable home console) {terminal : Terminal}
    (auxiliary : terminal.id.isAuxiliary = true) (path : String) :
    Persistable home (console.restoreIn terminal path).1 := by
  have started := persistable.startShell (Directory.expandHome console.host.home path)
  unfold Console.restoreIn
  dsimp only
  split
  next reached stream result =>
      rw [result] at started
      exact started.admitRestored stream ⟨auxiliary, persistable.settled path⟩
  next reached failure result =>
      rw [result] at started
      exact started

theorem Persistable.asks (persistable : Persistable home console) :
    Persistable home console.askDirectory.1 :=
  persistable.starts console.askDirectory_starts

theorem Persistable.restoreFrom (persistable : Persistable home console) (ticket count : Nat)
    (items : List PersistedTerminal) :
    Persistable home (console.restoreFrom ticket count items) := by
  induction items generalizing console count with
  | nil => exact persistable.of_same rfl rfl
  | cons item rest inductionHypothesis =>
      unfold Console.restoreFrom
      split
      next => exact inductionHypothesis persistable count
      next accepted =>
          have auxiliary : (console.auxiliaryTerminal item.id).id.isAuxiliary = true := by
            change item.id.isAuxiliary = true
            simp at accepted
            exact accepted.1
          dsimp only
          split
          next cwd _ => exact inductionHypothesis (persistable.restoreIn auxiliary cwd) _
          next =>
              have asked := persistable.asks
              split
              next reached choice result =>
                  rw [result] at asked
                  exact inductionHypothesis (asked.restoreChosen auxiliary choice) _
              next reached result =>
                  rw [result] at asked
                  exact asked.of_same rfl rfl

theorem Persistable.finishTerminal (persistable : Persistable home console) (ticket : Nat)
    (byCommand : Bool) (choice : Option String) :
    Persistable home (console.finishTerminal ticket byCommand choice) := by
  obtain ⟨started, settled⟩ := persistable.startChosen choice
  unfold Console.finishTerminal
  split
  next reached stream cwd result =>
      rw [result] at started settled
      exact (started.openTerminal stream (settled stream cwd rfl)).of_same rfl rfl
  next reached failure result =>
      rw [result] at started
      exact started.of_same rfl rfl

theorem Persistable.resumeErrand (persistable : Persistable home console) {errand : Errand}
    (guarded : errand.Guarded) (choice : Option String) :
    Persistable home (console.resumeErrand choice errand) := by
  cases errand with
  | shell ticket => exact guarded.elim
  | newTerminal ticket byCommand => exact persistable.finishTerminal ticket byCommand choice
  | restore ticket terminal rest count =>
      exact (persistable.restoreChosen guarded.1 choice).restoreFrom ticket _ rest

theorem Persistable.newTerminal (persistable : Persistable home console) (ticket : Nat)
    (byCommand : Bool) : Persistable home (console.newTerminal ticket byCommand) := by
  have asked := persistable.asks
  unfold Console.newTerminal promptFor
  split
  next reached choice result =>
      rw [result] at asked
      exact asked.finishTerminal ticket byCommand choice
  next reached result =>
      rw [result] at asked
      exact asked.of_same rfl rfl

/-- Work that was put off concerns auxiliary terminals only where it opens them. -/
theorem Persistable.resumeTask (persistable : Persistable home console)
    (attended : console.Attended) (place : Nat) :
    Persistable home (console.resumeTask place) := by
  unfold Console.resumeTask
  split
  next => exact persistable
  next task found =>
      have taken : Persistable home { console with tasks := console.tasks.eraseIdx place } :=
        persistable.of_same rfl rfl
      cases task with
      | chosen errand choice =>
          refine taken.resumeErrand (attended errand ?_) choice
          exact List.mem_append_right _
            (List.mem_filterMap.mpr ⟨_, List.mem_of_getElem? found, rfl⟩)
      | validate resolver row generation link =>
          exact taken.of_changes (call_changes _ _ _ _) (by decide)
      | resume call answer => exact taken.of_changes (deliver_changes _ _ _) (by decide)

/-! ### Everything that can happen -/

/-- What a shell has printed changes nothing that survives a restart. -/
theorem pumpShell_persisted (console : Console) (aux : AuxiliaryTerminal) :
    (console.pumpShell aux).1.registry.terminals.map AuxiliaryTerminal.persisted =
      console.registry.terminals.map AuxiliaryTerminal.persisted := by
  have registry : (console.readStream aux.shell).1.registry = console.registry :=
    congrArg Prod.fst ((console.readStream_changes aux.shell).same .shells (by decide))
  unfold pumpShell
  split
  next reached bytes result =>
      rw [result] at registry
      dsimp only at registry ⊢
      rw [registry, Registry.modify, List.map_map]
      refine List.map_congr_left fun other _ => ?_
      simp only [Function.comp_apply]
      split
      · split <;> rfl
      · rfl
  next reached failure result =>
      rw [result] at registry
      dsimp only at registry ⊢
      rw [registry]

theorem pumpShells_persisted (console : Console) :
    console.pumpShells.1.registry.terminals.map AuxiliaryTerminal.persisted =
      console.registry.terminals.map AuxiliaryTerminal.persisted := by
  have folded (terminals : List AuxiliaryTerminal) (reached : Console × Nat) :
      (terminals.foldl (fun pumped aux =>
        ((pumped.1.pumpShell aux).1, pumped.2 + (pumped.1.pumpShell aux).2))
          reached).1.registry.terminals.map AuxiliaryTerminal.persisted =
        reached.1.registry.terminals.map AuxiliaryTerminal.persisted := by
    induction terminals generalizing reached with
    | nil => rfl
    | cons aux terminals inductionHypothesis =>
        exact (inductionHypothesis _).trans (reached.1.pumpShell_persisted aux)
  exact folded console.registry.terminals (console, 0)

theorem Persistable.closeTerminal (persistable : Persistable home console) (id : TerminalId) :
    Persistable home (console.closeTerminal id).1 := by
  unfold Console.closeTerminal
  split
  next => exact persistable
  next aux found =>
      have erased : Persistable home { console with registry := console.registry.erase id } :=
        persistable.of_persisted rfl (List.filter_sublist.map _).subset
      exact erased.tryOnStream aux.shell ProcessStream.kill

theorem Persistable.applyShell (persistable : Persistable home console)
    (attended : console.Attended) (event : ShellEvent) :
    Persistable home (console.applyShell event) := by
  cases event with
  | opens ticket byCommand => exact persistable.newTerminal ticket byCommand
  | restores ticket items => exact persistable.restoreFrom ticket 0 items
  | answers question choice =>
      change Persistable home (console.answerQuestion question choice)
      unfold answerQuestion
      split
      · exact persistable
      · exact persistable.of_same rfl rfl
  | resumes place => exact persistable.resumeTask attended place
  | closes id => exact persistable.closeTerminal id
  | turns refusal faults =>
      exact ⟨persistable.homed, persistable.absolute, persistable.draws, persistable.standing⟩

theorem Persistable.undergo (persistable : Persistable home console) {parts : ConsoleParts}
    {lodgings : List Nat} (upkept : Upkept parts lodgings console) (event : ConsoleEvent) :
    Persistable home (console.undergo event) := by
  cases event with
  | event event =>
      by_cases worked : event = .work .task
      · subst worked
        change Persistable home console.runOldest
        rw [runOldest_eq]
        exact persistable.resumeTask upkept.housed.attended 0
      by_cases configured : ∃ settings, event = .configure settings
      · obtain ⟨settings, rfl⟩ := configured
        exact persistable.of_changes (console.updateSettings_changes settings) (by decide)
      · have plain := console.plain_of_ne (fun settings same => configured ⟨settings, same⟩) worked
        have spares := apply_spares upkept.settled.holdsFollowers plain
        exact persistable.of_changes spares.footprint (by decide)
  | shell event => exact persistable.applyShell upkept.housed.attended event
  | execute ticket command =>
      cases command with
      | openConsole => exact persistable.of_same rfl rfl
      | clearConsole =>
          have cleared := persistable.of_changes console.clear_changes (by decide)
          exact cleared.of_same rfl rfl
      | copyOrInterrupt => exact persistable.of_same rfl rfl
      | newTerminal => exact persistable.newTerminal ticket true
  | pressIn id key =>
      exact persistable.of_changes (pressIn_changes upkept.housed id key) (by decide)
  | pumpAll =>
      have pumped := persistable.of_changes console.pump_changes (by decide)
      change Persistable home console.pump.1.pumpShells.1
      have drawn := console.pump.1.pumpShells_pumped.footprint
      refine pumped.of_persisted (drawn.same .host (by decide)) ?_
      rw [pumpShells_persisted]
      exact List.Subset.refl _
  | serves name label sends reply =>
      exact persistable.of_changes (console.handleRequests_changes name _) (by decide)

end

/-- Whatever happens to a console that is to be persisted, it still is. -/
theorem Persistable.run {home : String} {parts : ConsoleParts} {shells : List Nat}
    {console : Console} (persistable : Persistable home console)
    (upkept : Upkept parts shells console) (events : List ConsoleEvent) :
    Persistable home (console.undergoAll events) := by
  induction events generalizing console shells with
  | nil => exact persistable
  | cons event events inductionHypothesis =>
      exact inductionHypothesis (persistable.undergo upkept event) (upkept.step event)

/-- A restart can bring back the auxiliary terminals of an activated console at every moment. -/
theorem persistable_reachable {parts : ConsoleParts} {start : Console}
    (activated : activate? parts = some start)
    (absolute : Directory.isAbsolute parts.host.home.toList = true)
    (draws : parts.host.DrawsAuxiliary) (events : List ConsoleEvent) :
    Persistable parts.host.home (start.undergoAll events) := by
  have fresh : Persistable parts.host.home (wired parts) := {
    homed := by rw [wired_host]
    absolute := absolute
    draws := by rwa [wired_host]
    standing := by simp [(wired_noShells parts).registry, Registry.empty] }
  have opened := fresh.run (wired_upkept parts) ((openingEvents parts).map .shell)
  rw [← activate?_undergoAll activated] at opened
  exact opened.run (upkept_reachable activated []) events

end Console

end RuntimeConsole
