/-
Module: RuntimeConsole.Proofs.SessionFootprint
Purpose: The footprints of what surrounds a connection: settings and modules, the
  pieces of the session, auxiliary shells, and the work that was put off.
-/
import RuntimeConsole.Proofs.Footprint

namespace RuntimeConsole

/-- What the end of a subscription can change. -/
def Release.aspects : Release → List Aspect
  | .clientObserver _ => [.observers]
  | .handler _ _ => [.handlers]
  | .startHandler => [.keyboard]
  | .settingsObserver _ => [.settings, .watchers]
  | .lineListener _ => [.listeners]
  | .resolver _ => [.resolvers, .living]
  | .moduleListener _ => [.moduleListeners]
  | .debouncer _ => [.debouncers]

/-- What the end of subscriptions can change. -/
def releaseAspects : List Aspect :=
  [.observers, .handlers, .keyboard, .settings, .watchers, .listeners, .resolvers, .living,
    .moduleListeners, .debouncers]

theorem Release.aspects_subset (released : Release) : released.aspects ⊆ releaseAspects := by
  cases released <;> simp [aspects, releaseAspects]

namespace Console

/-! ### Settings and modules -/

theorem settingsListenerSees_changes (console : Console) (part : Json)
    (listener : SettingsListener) :
    Changes [.channels, .trace, .allowLists] console
      (console.settingsListenerSees part listener) := by
  cases listener with
  | prompt =>
      unfold settingsListenerSees
      dsimp only
      split
      · exact (console.send_changes _ _).mono (by decide)
      · exact .refl _ console
  | keystrokes kind =>
      refine ⟨fun aspect outside => ?_⟩
      cases aspect <;> first | rfl | exact absurd (by decide) outside
  | guest label => exact (console.emit_changes (.guestSawSetting label part) rfl).mono (by decide)

/-- An observer of the prompt is told it at once; afterwards only who is told about
settings is another. -/
theorem observePrompt_changes (console : Console) :
    Changes [.channels, .trace, .settings, .watchers] console console.observePrompt.1 := by
  have told := console.send_changes "changeprompt"
    [.str (console.settings.current.prompt ++ " ")]
  refine (told.mono (by decide)).trans ⟨fun aspect outside => ?_⟩
  cases aspect <;> first | rfl | exact absurd (by decide) outside

theorem updateSettings_changes (console : Console) (settings : Settings) :
    Changes [.channels, .trace, .allowLists, .settings] console
      (console.updateSettings settings) := by
  refine .trans ?_ (.foldl ?_ _ _)
  · refine .narrow .watchers ⟨fun aspect outside => ?_⟩ ?_
    · cases aspect <;> first | rfl | exact absurd (by decide) outside
    · simp [look, watchers]
  · exact fun console notice => (console.settingsListenerSees_changes _ _).mono (by decide)

/-- The settings are replaced, and those who observe them are told. -/
theorem updateSettings_store (console : Console) (settings : Settings) :
    (console.updateSettings settings).settings = (console.settings.update settings).1 := by
  have told : Changes [.channels, .trace, .allowLists]
      { console with settings := (console.settings.update settings).1 }
      (console.updateSettings settings) :=
    .foldl (fun console notice => console.settingsListenerSees_changes _ _) _ _
  exact told.same .settings (by decide)

theorem runDebounced_changes (console : Console) (action : DebouncedAction) :
    Changes [.channels, .trace] console (console.runDebounced action) := by
  cases action with
  | reportModule => exact console.send_changes _ _
  | guest value => exact (console.emit_changes (.guestFired value) rfl).mono (by decide)

theorem debounce_changes (console : Console) (id : Nat) (action : DebouncedAction) :
    Changes [.debouncers, .channels, .trace] console (console.debounce id action) := by
  unfold debounce
  split
  next => exact .refl _ console
  next debouncer _ =>
      have replaced : Changes [.debouncers, .channels, .trace] console
          { console with
            debouncers := console.debouncers.set id (debouncer.call console.now action).1 } := by
        refine .narrow .timers ⟨fun aspect outside => ?_⟩ (List.length_set ..)
        cases aspect <;> first | rfl | exact absurd (by decide) outside
      dsimp only
      split
      · exact replaced.trans ((runDebounced_changes _ _).mono (by decide))
      · exact replaced

theorem cancelDebounced_changes (console : Console) (id : Nat) :
    Changes [.debouncers] console (console.cancelDebounced id) := by
  unfold cancelDebounced
  split
  · exact .refl _ console
  · refine .narrow .timers ⟨fun aspect outside => ?_⟩ (List.length_set ..)
    cases aspect <;> first | rfl | exact absurd (by decide) outside

theorem addDebouncer_changes (console : Console) (delay : Nat) :
    Changes [.debouncers, .timers] console (console.addDebouncer delay).1 := by
  refine ⟨fun aspect outside => ?_⟩
  cases aspect <;> first | rfl | exact absurd (by decide) outside

theorem moduleListenerSees_changes (console : Console) (name : String)
    (listener : ModuleListener) :
    Changes [.debouncers, .channels, .trace] console
      (console.moduleListenerSees name listener) := by
  cases listener with
  | runtime debouncer => exact console.debounce_changes debouncer _
  | guest label =>
      exact (console.emit_changes (.guestSawModule label name console.modules.current) rfl).mono
        (by decide)

theorem reportModule_changes (console : Console) (name : String) :
    Changes [.module, .debouncers, .channels, .trace] console (console.reportModule name) := by
  refine .trans ⟨fun aspect outside => ?_⟩ (.foldl ?_ _ _)
  · cases aspect <;> first | rfl | exact absurd (by decide) outside
  · exact fun console listener =>
      (console.moduleListenerSees_changes name listener).mono (by decide)

theorem listenModules_changes (console : Console) (listener : ModuleListener) :
    Changes [.moduleListeners] console (console.listenModules listener).1 := by
  refine ⟨fun aspect outside => ?_⟩
  cases aspect <;> first | rfl | exact absurd (by decide) outside

/-! ### The session -/

theorem withSessionState_changes (console : Console) (state : SessionState) :
    Changes [.session] console (console.withSessionState state) := by
  refine ⟨fun aspect outside => ?_⟩
  cases aspect <;> first | rfl | exact absurd (by decide) outside

theorem release_changes (console : Console) (released : Release) :
    Changes released.aspects console (console.release released) := by
  cases released with
  | resolver id =>
      unfold release
      dsimp only
      split
      · exact (console.setResolver_changes _ _).mono (by simp [Release.aspects])
      · exact .refl _ console
  | debouncer id => exact console.cancelDebounced_changes id
  | _ =>
      refine ⟨fun aspect outside => ?_⟩
      cases aspect <;> first | rfl | exact absurd (by simp [Release.aspects]) outside

/-- An observer of the settings may go. -/
theorem release_settings (console : Console) (released : Release) :
    (console.release released).settings = console.settings ∨
      ∃ key, (console.release released).settings = console.settings.release key := by
  cases released with
  | settingsObserver key => exact .inr ⟨key, rfl⟩
  | resolver id =>
      have step := console.release_changes (.resolver id)
      exact .inl (step.same .settings (by simp [Release.aspects]))
  | debouncer id =>
      exact .inl ((console.release_changes (.debouncer id)).same .settings
        (by simp [Release.aspects]))
  | _ => exact .inl rfl

/-- A list of releases changes what its members change. -/
theorem dispose_changes_within {aspects : List Aspect} (console : Console)
    (list : Disposables Release) (within : ∀ released ∈ list.actions, released.aspects ⊆ aspects) :
    Changes aspects console (console.dispose list) :=
  .foldl_of_mem _ (fun released member console => (console.release_changes released).mono
    (within released (List.mem_reverse.mp member))) _

/-- What the session holds is let go of without a trace on the screen and on the calls. -/
theorem dispose_changes (console : Console) (list : Disposables Release) :
    Changes releaseAspects console (console.dispose list) :=
  console.dispose_changes_within list fun released _ => released.aspects_subset

theorem withCycle_changes (console : Console) (cycle : Cycle) :
    Changes [.session] console (console.withCycle cycle) := by
  refine ⟨fun aspect outside => ?_⟩
  cases aspect <;> first | rfl | exact absurd (by decide) outside

theorem teardownCycle_changes (console : Console) :
    Changes (.session :: releaseAspects) console console.teardownCycle :=
  (console.withCycle_changes _).andThen (dispose_changes _ _) (by decide)

theorem takeEarly_changes (console : Console) (process : Nat) :
    Changes [.processes] console (console.takeEarly process).1 := by
  unfold takeEarly
  split
  next found known =>
      refine .narrow .origins ⟨fun aspect outside => ?_⟩ ?_
      · cases aspect <;> first | rfl | exact absurd (by decide) outside
      · obtain ⟨inside, rfl⟩ := List.getElem?_eq_some_iff.mp known
        change (console.processes.set process _).map RemoteProcess.stream =
          console.processes.map RemoteProcess.stream
        rw [List.map_set]
        dsimp only
        rw [← List.getElem_map RemoteProcess.stream, List.set_getElem_self]
        simpa using inside
  next => exact .refl _ console

theorem replayEarly_changes (console : Console) (process : Nat) :
    Changes [.processes, .display, .scanned, .resolvers, .tasks, .trace] console
      (console.replayEarly process) := by
  refine ((console.takeEarly_changes process).mono (by decide)).trans (.foldl ?_ _ _)
  exact fun console text => (console.writeText_changes text).mono (by decide)

/-- What a connection sets up is not seen on the screen nor by the client. -/
theorem openCycle_changes (console : Console) :
    Changes [.channels, .trace, .settings, .watchers, .resolvers, .living, .listeners, .tasks,
      .debouncers, .timers, .moduleListeners] console console.openCycle.1 := by
  unfold openCycle
  dsimp only
  refine .trans ?_ ((listenModules_changes _ _).mono (by decide))
  refine .trans ?_ ((addDebouncer_changes _ _).mono (by decide))
  refine .trans ?_ ((addLineListener_changes _ _).mono (by decide))
  refine .trans ?_ ((addResolver_changes _).mono (by decide))
  exact console.observePrompt_changes.mono (by decide)

theorem letGo_changes (console : Console) :
    Changes (.attached :: .session :: releaseAspects) console console.letGo := by
  unfold letGo
  split
  · exact console.detach_changes.andThen (teardownCycle_changes _) (by decide)
  · exact .refl _ console

theorem attachProcess_changes (console : Console) (process : Nat) :
    Changes [.attached, .streams] console (console.attachProcess process) := by
  unfold attachProcess
  split
  · exact console.attach_changes _
  · exact .refl _ console

theorem beginCycle_changes (console : Console) :
    Changes (.channels :: .trace :: .tasks :: .session :: .timers :: releaseAspects) console
      console.beginCycle := by
  refine .trans ?_ ((withSessionState_changes _ _).mono (by decide))
  refine .trans ?_ ((dispose_changes _ _).mono (by decide))
  refine .trans ?_ ((withCycle_changes _ _).mono (by decide))
  exact console.openCycle_changes.mono (by decide)

/-- A session that learns of a connection leaves the client alone. -/
theorem sessionBoot_changes (console : Console) (process : Nat) :
    Changes (.attached :: .streams :: .processes :: .display :: .scanned :: .channels :: .trace ::
      .tasks :: .session :: .timers :: releaseAspects) console (console.sessionBoot process) := by
  refine .trans ?_ ((beginCycle_changes _).mono (by decide))
  refine .trans ?_ ((replayEarly_changes _ process).mono (by decide))
  refine .trans ?_ ((attachProcess_changes _ process).mono (by decide))
  exact console.letGo_changes.mono (by decide)

theorem bootFailed_changes (console : Console) (failure : Failure) :
    Changes [.session, .display, .scanned, .resolvers, .tasks, .trace] console
      (console.bootFailed failure) := by
  unfold bootFailed
  split
  · exact (withSessionState_changes _ _).andThen (writeText_changes _ _) (by decide)
  · exact .refl _ console

/-- Whether a key asks the session for a start. -/
def asksSession (console : Console) (key : KeyEvent) : Bool :=
  console.admits key console.terminal.keyFilter && console.terminal.stream.isNone &&
    key.key == .enter && console.terminal.startHandler == some .session

theorem pressKey_asked {console : Console} {key : KeyEvent}
    (asked : console.asksSession key = true) : (console.pressKey key).1 = console.start.1 := by
  simp only [asksSession, Bool.and_eq_true, beq_iff_eq, Option.isNone_iff_eq_none] at asked
  obtain ⟨⟨⟨admitted, unattached⟩, enter⟩, handler⟩ := asked
  unfold pressKey pressKeyIn
  rw [if_pos admitted, unattached]
  dsimp only
  rw [if_pos enter, handler]
  rfl

/-- Any other key of a terminal is written to a process, or noted. -/
theorem pressKeyIn_changes (console : Console) (terminal : Terminal) (key : KeyEvent)
    (unasked : terminal.startHandler = some .session → terminal.stream = none →
      key.key = .enter → console.admits key terminal.keyFilter = false) :
    Changes [.streams, .trace] console (console.pressKeyIn terminal key).1 := by
  unfold pressKeyIn
  split
  next admitted =>
      cases attached : terminal.stream with
      | some stream =>
          have written :=
            (console.onStream_changes stream fun stream => stream.write key.bytes).mono
              (by decide : _ ⊆ [.streams, .trace])
          dsimp only
          split
          next result => rw [result] at written; exact written
          next result => rw [result] at written; exact written
      | none =>
          dsimp only
          split
          next enter =>
              cases asked : terminal.startHandler with
              | none => exact .refl _ console
              | some handler =>
                  cases handler with
                  | session =>
                      rw [unasked asked attached enter] at admitted
                      cases admitted
                  | guest label =>
                      exact (console.emit_changes (.guestStarted label) rfl).mono (by decide)
          next => exact .refl _ console
  next => exact .refl _ console

theorem pressKey_changes {console : Console} {key : KeyEvent}
    (unasked : console.asksSession key = false) :
    Changes [.streams, .trace] console (console.pressKey key).1 :=
  console.pressKeyIn_changes console.terminal key fun asked unattached enter => by
    simpa [asksSession, asked, unattached, enter] using unasked

/-! ### Auxiliary shells -/

/-- Shells have streams and terminals of their own. -/
def shellAspects : List Aspect := [.streams, .shells, .trace]

theorem askDirectory_changes (console : Console) :
    Changes shellAspects console console.askDirectory.1 := by
  have asked : Changes shellAspects console { console with asked := console.asked + 1 } := by
    refine ⟨fun aspect outside => ?_⟩
    cases aspect <;> first | rfl | exact absurd (by decide) outside
  have told : Changes shellAspects console
      ({ console with asked := console.asked + 1 }.emit (.askedDirectory console.host.roots)) :=
    asked.trans ((emit_changes _ _ rfl).mono (by decide))
  unfold askDirectory
  dsimp only
  split <;> exact told

theorem startShell_changes (console : Console) (cwd : String) :
    Changes shellAspects console (console.startShell cwd).1 := by
  unfold startShell
  dsimp only
  have told := (console.emit_changes (.startedShell console.settings.current.shell .auxiliary cwd)
    rfl).mono (by decide : _ ⊆ shellAspects)
  split
  · exact told
  · exact told.trans ((addStream_changes _ _).mono (by decide))

theorem startChosen_changes (console : Console) (choice : Option String) :
    Changes shellAspects console (console.startChosen choice).1 := by
  unfold startChosen
  split
  · exact .refl _ console
  next cwd _ =>
      have started := console.startShell_changes cwd
      split <;> simp_all only

theorem attachShell_changes (console : Console) (terminal : Terminal) (stream : Nat)
    (cwd : String) :
    Changes shellAspects console (console.attachShell terminal stream cwd).1 :=
  (console.tryOnStream_changes _ _).mono (by decide)

theorem register_changes (console : Console) (aux : AuxiliaryTerminal) :
    Changes shellAspects console (console.register aux) := by
  refine ⟨fun aspect outside => ?_⟩
  cases aspect <;> first | rfl | exact absurd (by decide) outside

theorem openTerminal_changes (console : Console) (stream : Nat) (cwd : String) :
    Changes shellAspects console (console.openTerminal stream cwd).1 := by
  unfold openTerminal
  dsimp only
  refine .trans (.trans ⟨fun aspect outside => ?_⟩ (attachShell_changes _ _ _ cwd))
    (register_changes _ _)
  cases aspect <;> first | rfl | exact absurd (by decide) outside

theorem admitRestored_changes (console : Console) (terminal : Terminal) (stream : Nat)
    (cwd : String) :
    Changes shellAspects console (console.admitRestored terminal stream cwd).1 := by
  unfold admitRestored
  dsimp only
  split
  · exact (attachShell_changes _ _ _ _).trans ((tryOnStream_changes _ _ _).mono (by decide))
  · exact (attachShell_changes _ _ _ _).trans (register_changes _ _)

theorem finishShell_changes (console : Console) (ticket : Nat) (choice : Option String) :
    Changes shellAspects console (console.finishShell ticket choice) := by
  have started := console.startChosen_changes choice
  unfold finishShell
  split
  next result => rw [result] at started; exact started.trans ((finish_changes ..).mono (by decide))
  next result => rw [result] at started; exact started.trans ((finish_changes ..).mono (by decide))

theorem finishTerminal_changes (console : Console) (ticket : Nat) (byCommand : Bool)
    (choice : Option String) :
    Changes shellAspects console (console.finishTerminal ticket byCommand choice) := by
  have started := console.startChosen_changes choice
  unfold finishTerminal
  split
  next reached stream cwd result =>
      rw [result] at started
      exact (started.trans (reached.openTerminal_changes stream cwd)).trans
        ((finish_changes ..).mono (by decide))
  next result => rw [result] at started; exact started.trans ((finish_changes ..).mono (by decide))

theorem restoreChosen_changes (console : Console) (terminal : Terminal)
    (choice : Option String) :
    Changes shellAspects console (console.restoreChosen terminal choice).1 := by
  have started := console.startChosen_changes choice
  unfold restoreChosen
  split
  next result => rw [result] at started; exact started.trans (admitRestored_changes ..)
  next result => rw [result] at started; exact started

theorem restoreIn_changes (console : Console) (terminal : Terminal) (cwd : String) :
    Changes shellAspects console (console.restoreIn terminal cwd).1 := by
  have started := console.startShell_changes (Directory.expandHome console.host.home cwd)
  unfold restoreIn
  dsimp only
  split
  next result => rw [result] at started; exact started.trans (admitRestored_changes ..)
  next result => rw [result] at started; exact started

theorem restoreFrom_changes (console : Console) (ticket count : Nat)
    (items : List PersistedTerminal) :
    Changes shellAspects console (console.restoreFrom ticket count items) := by
  induction items generalizing console count with
  | nil => exact (console.finish_changes ..).mono (by decide)
  | cons item rest inductionHypothesis =>
      unfold restoreFrom
      split
      · exact inductionHypothesis ..
      · dsimp only
        split
        · exact (restoreIn_changes ..).trans (inductionHypothesis ..)
        · have asked := console.askDirectory_changes
          split
          next result =>
              rw [result] at asked
              exact (asked.trans (restoreChosen_changes ..)).trans (inductionHypothesis ..)
          next reached result =>
              rw [result] at asked
              refine asked.trans ⟨fun aspect outside => ?_⟩
              cases aspect <;> first | rfl | exact absurd (by decide) outside

theorem resumeErrand_changes (console : Console) (choice : Option String) (errand : Errand) :
    Changes shellAspects console (console.resumeErrand choice errand) := by
  cases errand with
  | shell ticket => exact console.finishShell_changes ticket choice
  | newTerminal ticket byCommand => exact console.finishTerminal_changes ticket byCommand choice
  | restore ticket terminal rest count =>
      exact (restoreChosen_changes ..).trans (restoreFrom_changes ..)

/-! ### Connections and work -/

theorem giveUpNesting_changes (console : Console) :
    Changes [.overrun] console console.giveUpNesting := by
  refine ⟨fun aspect outside => ?_⟩
  cases aspect <;> first | rfl | exact absurd (by decide) outside

theorem prepareProcess_changes (console : Console) (spec : ProcessSpec) :
    Changes [.streams, .processes, .origins, .channels] console
      (console.prepareProcess spec).1 := by
  refine ⟨fun aspect outside => ?_⟩
  unfold prepareProcess
  cases spec.origin <;> cases aspect <;> first | rfl | exact absurd (by decide) outside

theorem serveChannel_changes (console : Console) (channel connection : Nat) :
    Changes [.channels] console (console.serveChannel channel connection) := by
  unfold serveChannel
  split
  · refine ⟨fun aspect outside => ?_⟩
    cases aspect <;> first | rfl | exact absurd (by decide) outside
  · exact .refl _ console

theorem installConnection_changes (console : Console) (process channel : Nat) :
    Changes [.connection, .nextId, .channels] console
      (console.installConnection process channel).1 := by
  refine .trans ⟨fun aspect outside => ?_⟩ ((serveChannel_changes _ _ _).mono (by decide))
  cases aspect <;> first | rfl | exact absurd (by decide) outside

theorem launch_changes (console : Console) (command : String) (patience : Nat) :
    Changes [.streams, .launches] console (console.launch command patience).1 := by
  unfold launch
  split
  · split
    · exact .refl _ console
    · refine ⟨fun aspect outside => ?_⟩
      cases aspect <;> first | rfl | exact absurd (by decide) outside
  · exact .refl _ console

theorem setWire_changes (console : Console) (channel : Nat) (wire : Wire) :
    Changes [.channels] console (console.setWire channel wire) := by
  refine ⟨fun aspect outside => ?_⟩
  cases aspect <;> first | rfl | exact absurd (by decide) outside

theorem writeWire_changes (console : Console) (channel : Nat) :
    Changes [.channels, .trace] console (console.writeWire channel) := by
  unfold writeWire
  split
  next => exact .refl _ console
  next wire _ =>
      split
      next => exact .refl _ console
      next frame rest _ =>
          have written := (console.setWire_changes channel { wire with outbound := rest }).mono
            (by decide : _ ⊆ [.channels, .trace])
          dsimp only
          split
          · exact written.trans ((emit_changes _ (.sent channel frame) rfl).mono (by decide))
          · exact written

theorem fireDebouncer_changes (console : Console) (id : Nat) :
    Changes [.debouncers, .channels, .trace] console (console.fireDebouncer id) := by
  unfold fireDebouncer
  split
  · split
    · exact (console.cancelDebounced_changes id).andThen (runDebounced_changes _ _) (by decide)
    · exact .refl _ console
  · exact .refl _ console

theorem closeLaunch_changes (console : Console) (id : Nat) (launch : Launch) :
    Changes [.launches] console (console.closeLaunch id launch) := by
  refine ⟨fun aspect outside => ?_⟩
  cases aspect <;> first | rfl | exact absurd (by decide) outside

theorem giveUpLaunch_changes (console : Console) (id : Nat) :
    Changes [.launches, .streams, .session, .display, .scanned, .resolvers, .tasks, .trace]
      console (console.giveUpLaunch id) := by
  unfold giveUpLaunch
  split
  next => exact .refl _ console
  next launch _ =>
      split
      next =>
          have closed : Changes [.launches, .streams] console
              ((console.closeLaunch id launch).tryOnStream launch.stream ProcessStream.kill) :=
            (console.closeLaunch_changes id launch).andThen (tryOnStream_changes _ _ _) (by decide)
          dsimp only
          split
          · refine (closed.mono (by decide)).trans ?_
            exact (emit_changes _ (.reportedFailure launch.failure) rfl).andThen
              (bootFailed_changes _ _) (by decide)
          · exact closed.mono (by decide)
      next => exact .refl _ console

/-- A task other than an answer leaves the answers that wait alone; an answer is taken
off before it is passed on. -/
theorem runTask_changes (console : Console) (task : Task) :
    Changes [.nextId, .pending, .channels, .trace, .resolvers, .streams, .shells] console
      (console.runTask task) := by
  cases task with
  | validate resolver row generation link => exact (console.call_changes ..).mono (by decide)
  | resume call answer => exact (console.deliver_changes ..).mono (by decide)
  | chosen errand choice => exact (console.resumeErrand_changes choice errand).mono (by decide)

theorem runOldest_changes (console : Console) :
    Changes [.nextId, .pending, .channels, .trace, .resolvers, .streams, .shells, .tasks, .answers]
      console console.runOldest := by
  unfold runOldest
  split
  · exact .refl _ console
  · refine .trans ⟨fun aspect outside => ?_⟩ ((runTask_changes _ _).mono (by decide))
    cases aspect <;> first | rfl | exact absurd (by decide) outside

theorem remoteWrites_changes (console : Console) (channel : Nat) (bytes : List UInt8) :
    Changes [.channels] console (console.remoteWrites channel bytes).1 := by
  unfold remoteWrites
  split
  · exact console.setWire_changes _ _
  · exact .refl _ console

theorem remoteCloses_changes (console : Console) (channel : Nat) :
    Changes [.channels] console (console.remoteCloses channel) := by
  unfold remoteCloses
  split
  · exact console.setWire_changes _ _
  · exact .refl _ console

theorem stopTaking_changes (console : Console) (channel : Nat) :
    Changes [.channels] console (console.stopTaking channel) := by
  unfold stopTaking
  split
  · refine ⟨fun aspect outside => ?_⟩
    cases aspect <;> first | rfl | exact absurd (by decide) outside
  · exact .refl _ console

end Console

/-! ### Incidental events -/

/-- Whether an event concerns neither the session, nor the calls, nor the screen. -/
def Event.incidental : Event → Bool
  | .equip _ | .send .. | .configure _ | .enterModule _ | .input _ | .print .. | .die _
  | .remoteWrites .. | .remoteCloses _ | .stopTaking _ | .work (.write _) | .work (.fire _)
  | .clock _ => true
  | _ => false

/-- What incidental events can change. -/
def incidentalAspects : List Aspect :=
  [.booter, .channels, .streams, .settings, .allowLists, .module, .debouncers, .now, .trace]

theorem Console.incidental_changes (console : Console) {event : Event}
    (incidental : event.incidental = true) :
    Changes incidentalAspects console (console.apply event) := by
  cases event with
  | equip booter =>
      refine ⟨fun aspect outside => ?_⟩
      cases aspect <;> first | rfl | exact absurd (by decide) outside
  | send name args => exact (console.send_changes name args).mono (by decide)
  | configure settings => exact (console.updateSettings_changes settings).mono (by decide)
  | enterModule name => exact (console.reportModule_changes name).mono (by decide)
  | input bytes => exact (console.sendInput_changes bytes).mono (by decide)
  | print stream bytes => exact (console.tryOnStream_changes stream _).mono (by decide)
  | die stream => exact (console.tryOnStream_changes stream _).mono (by decide)
  | remoteWrites channel bytes =>
      exact (console.remoteWrites_changes channel bytes).mono (by decide)
  | remoteCloses channel => exact (console.remoteCloses_changes channel).mono (by decide)
  | stopTaking channel => exact (console.stopTaking_changes channel).mono (by decide)
  | work step =>
      cases step with
      | write channel => exact (console.writeWire_changes channel).mono (by decide)
      | fire debouncer => exact (console.fireDebouncer_changes debouncer).mono (by decide)
      | _ => cases incidental
  | clock time =>
      refine ⟨fun aspect outside => ?_⟩
      cases aspect <;> first | rfl | exact absurd (by decide) outside
  | _ => cases incidental

end RuntimeConsole
