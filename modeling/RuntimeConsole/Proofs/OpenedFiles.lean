/-
Module: RuntimeConsole.Proofs.OpenedFiles
Purpose: The editor is asked to open a file where an activation goes on with the path the runtime
  gave, and nowhere else: every operation of the console but that one leaves the files opened so
  far as they are.
Main exports:
  OpensNothing, Console.apply_opensNothing, Console.use_openedFiles, Console.useAll_openedFiles
-/
import RuntimeConsole.Console.LinkUse
import RuntimeConsole.Proofs.EffectRecord
import RuntimeConsole.Proofs.NestedEffects

namespace RuntimeConsole

open Console

/-- The editor is asked to open nothing between two moments. -/
def OpensNothing (before after : Console) : Prop :=
  Unrecorded Effect.openedFile? before after

namespace OpensNothing

variable {first second third : Console}

theorem refl (console : Console) : OpensNothing console console := rfl

theorem trans (firstStep : OpensNothing first second) (secondStep : OpensNothing second third) :
    OpensNothing first third :=
  Unrecorded.trans firstStep secondStep

theorem of_changes {aspects : List Aspect} (step : Changes aspects first second)
    (unrecorded : Aspect.trace ∉ aspects) : OpensNothing first second :=
  Unrecorded.of_changes step unrecorded

theorem foldl {Item : Type} {step : Console → Item → Console}
    (each : ∀ console item, OpensNothing console (step console item)) (items : List Item)
    (console : Console) : OpensNothing console (items.foldl step console) :=
  Unrecorded.foldl each items console

/-- The files opened are then those opened before, and those of no link. -/
theorem openedFiles (unopened : OpensNothing first second) :
    second.openedFiles = first.openedFiles ++ ([] : List OpenedLink).map OpenedLink.file := by
  rw [List.map_nil, List.append_nil]
  exact unopened

end OpensNothing

namespace Console

theorem emit_opensNothing (console : Console) {effect : Effect}
    (other : effect.openedFile? = none) : OpensNothing console (console.emit effect) :=
  console.emit_unrecorded other

theorem finish_opensNothing (console : Console) (ticket : Nat) (outcome : Outcome) :
    OpensNothing console (console.finish ticket outcome) :=
  console.emit_opensNothing rfl

/-! ### The screen -/

theorem listenerSeesLine_opensNothing (console : Console) (change : LineChange)
    (listener : LineListener) :
    OpensNothing console (console.listenerSeesLine change listener) :=
  listenerSeesLine_unrecorded (fun _ _ _ => rfl) console change listener

theorem withTerminal_opensNothing (console : Console) (changed : Terminal × List LineChange) :
    OpensNothing console (console.withTerminal changed) :=
  withTerminal_unrecorded (fun _ _ _ => rfl) console changed

theorem write_opensNothing (console : Console) (bytes : List UInt8) :
    OpensNothing console (console.write bytes) :=
  console.withTerminal_opensNothing _

theorem writeText_opensNothing (console : Console) (text : String) :
    OpensNothing console (console.writeText text) :=
  console.write_opensNothing _

theorem clear_opensNothing (console : Console) : OpensNothing console console.clear :=
  console.withTerminal_opensNothing _

theorem resize_opensNothing (console : Console) (size : Size) :
    OpensNothing console (console.resize size).1 := by
  have reshaped := console.withTerminal_opensNothing (console.terminal.resize size)
  unfold resize
  dsimp only
  split
  · exact reshaped.trans (.of_changes (onStream_changes _ _ _) (by decide))
  · exact reshaped

theorem pump_opensNothing (console : Console) : OpensNothing console console.pump.1 := by
  unfold pump
  split
  next => exact .refl console
  next id _ =>
      have read : OpensNothing console (console.readStream id).1 :=
        .of_changes (console.readStream_changes id) (by decide)
      split
      next reached bytes result =>
          rw [result] at read
          dsimp only
          split
          · exact read
          · exact read.trans (reached.write_opensNothing bytes)
      next result =>
          rw [result] at read
          exact read

theorem addLineListener_opensNothing (console : Console) (listener : LineListener) :
    OpensNothing console (console.addLineListener listener).1 :=
  .foldl (fun console change => console.listenerSeesLine_opensNothing change listener) _
    { console with terminal := (console.terminal.addListener listener).1 }

/-! ### Messages -/

theorem sendOver_opensNothing (console : Console) (channel : Nat) (frame : Frame) :
    OpensNothing console (console.sendOver channel frame).1 :=
  sendOver_unrecorded (fun _ _ => rfl) console channel frame

theorem sendFrame_opensNothing (console : Console) (frame : Frame) :
    OpensNothing console (console.sendFrame frame) :=
  sendFrame_unrecorded (fun _ _ => rfl) console frame

theorem send_opensNothing (console : Console) (name : String) (args : List Json) :
    OpensNothing console (console.send name args) :=
  console.sendFrame_opensNothing _

/-- A caller whose call failed opens nothing. -/
theorem deliver_error_opensNothing (console : Console) (failure : Failure) (waiter : Waiter) :
    OpensNothing console (console.deliver (.error failure) waiter) := by
  cases waiter with
  | validation resolver row generation link => exact .refl console
  | opening ticket resolver link => exact console.finish_opensNothing _ _
  | guest ticket expected => exact console.finish_opensNothing _ _

theorem call_opensNothing (console : Console) (name : String) (args : List Json)
    (waiter : Waiter) : OpensNothing console (console.call name args waiter) := by
  unfold call
  split
  next => exact console.deliver_error_opensNothing _ waiter
  next connection _ =>
      have sent := (console.withClient console.client.withFreshId.1).sendOver_opensNothing
        connection.channel (.call console.client.withFreshId.2 name args)
      dsimp only
      split
      next reached accepted =>
          rw [accepted] at sent
          exact sent
      next reached refused =>
          rw [refused] at sent
          exact sent.trans (reached.deliver_error_opensNothing _ waiter)

theorem handle_opensNothing (console : Console) (args : List Json) (handler : Handler) :
    OpensNothing console (console.handle args handler).1 := by
  cases handler with
  | refreshWorkspace => exact console.emit_opensNothing rfl
  | clearTerminal => exact console.clear_opensNothing
  | reportCursor => exact console.writeText_opensNothing cursorReset
  | showLint =>
      unfold handle showLint
      dsimp only
      split
      · exact console.emit_opensNothing rfl
      · exact .refl console
  | clearLint => exact console.emit_opensNothing rfl
  | guest label sends reply =>
      have handled : OpensNothing console (console.emit (.guestHandled label args)) :=
        console.emit_opensNothing rfl
      cases sends with
      | none => exact handled
      | some name => exact handled.trans (send_opensNothing _ name [])

theorem dispatch_opensNothing (console : Console) (name : String) (args : List Json) :
    OpensNothing console (console.dispatch name args).1 := by
  unfold dispatch
  split
  · exact console.handle_opensNothing args _
  · exact .refl console

theorem handleFrame_opensNothing (console : Console) (frame : Frame) :
    OpensNothing console (console.handleFrame frame) := by
  cases frame with
  | message name args => exact console.dispatch_opensNothing name args
  | call id name args =>
      exact (console.dispatch_opensNothing name args).trans (sendFrame_opensNothing _ _)
  | response id result => exact .of_changes (console.complete_changes id _) (by decide)
  | error id message => exact .of_changes (console.complete_changes id _) (by decide)

/-- An activation asks, and opens nothing yet. -/
theorem activateLink_opensNothing (console : Console) (ticket resolver : Nat) (link : LinkMatch) :
    OpensNothing console (console.activateLink ticket resolver link) := by
  unfold activateLink
  split
  · exact console.call_opensNothing _ _ _
  · exact console.finish_opensNothing _ _

theorem activateAt_opensNothing (console : Console) (ticket resolver : Nat) (position : Position) :
    OpensNothing console (console.activateAt ticket resolver position) := by
  unfold activateAt
  split
  · exact console.activateLink_opensNothing ticket resolver _
  · exact console.finish_opensNothing _ _

theorem openLink_opensNothing (console : Console) (ticket : Nat) (position : Position) :
    OpensNothing console (console.openLink ticket position) := by
  unfold openLink
  split
  · exact console.activateAt_opensNothing ticket _ position
  · exact console.finish_opensNothing _ _

/-! ### Settings and modules -/

theorem settingsListenerSees_opensNothing (console : Console) (part : Json)
    (listener : SettingsListener) :
    OpensNothing console (console.settingsListenerSees part listener) := by
  cases listener with
  | prompt =>
      unfold settingsListenerSees
      dsimp only
      split
      · exact console.send_opensNothing _ _
      · exact .refl console
  | keystrokes kind => exact .refl console
  | guest label => exact console.emit_opensNothing rfl

theorem updateSettings_opensNothing (console : Console) (settings : Settings) :
    OpensNothing console (console.updateSettings settings) :=
  .foldl (fun console (notice : SettingsListener × Json) =>
      console.settingsListenerSees_opensNothing notice.2 notice.1) _
    { console with settings := (console.settings.update settings).1 }

theorem runDebounced_opensNothing (console : Console) (action : DebouncedAction) :
    OpensNothing console (console.runDebounced action) := by
  cases action with
  | reportModule => exact console.send_opensNothing _ _
  | guest value => exact console.emit_opensNothing rfl

theorem debounce_opensNothing (console : Console) (id : Nat) (action : DebouncedAction) :
    OpensNothing console (console.debounce id action) := by
  unfold debounce
  split
  next => exact .refl console
  next debouncer _ =>
      dsimp only
      split
      · exact runDebounced_opensNothing
          { console with
            debouncers := console.debouncers.set id (debouncer.call console.now action).1 } _
      · exact .refl console

theorem moduleListenerSees_opensNothing (console : Console) (name : String)
    (listener : ModuleListener) :
    OpensNothing console (console.moduleListenerSees name listener) := by
  cases listener with
  | runtime debouncer => exact console.debounce_opensNothing debouncer _
  | guest label => exact console.emit_opensNothing rfl

theorem reportModule_opensNothing (console : Console) (name : String) :
    OpensNothing console (console.reportModule name) :=
  .foldl (fun console listener => console.moduleListenerSees_opensNothing name listener) _
    { console with modules := (console.modules.report name).1 }

theorem fireDebouncer_opensNothing (console : Console) (id : Nat) :
    OpensNothing console (console.fireDebouncer id) := by
  unfold fireDebouncer
  split
  · split
    · exact OpensNothing.trans (.of_changes (console.cancelDebounced_changes id) (by decide))
        (runDebounced_opensNothing _ _)
    · exact .refl console
  · exact .refl console

/-! ### The session -/

theorem replayEarly_opensNothing (console : Console) (process : Nat) :
    OpensNothing console (console.replayEarly process) :=
  OpensNothing.trans (.of_changes (console.takeEarly_changes process) (by decide))
    (.foldl (fun console text => console.writeText_opensNothing text) _ _)

theorem openCycle_opensNothing (console : Console) :
    OpensNothing console console.openCycle.1 := by
  unfold openCycle
  dsimp only
  refine .trans ?_ (.of_changes (listenModules_changes _ _) (by decide))
  refine .trans ?_ (.of_changes (addDebouncer_changes _ _) (by decide))
  refine .trans ?_ (addLineListener_opensNothing _ _)
  refine .trans ?_ (.of_changes (addResolver_changes _) (by decide))
  exact console.settingsListenerSees_opensNothing _ .prompt

theorem beginCycle_opensNothing (console : Console) : OpensNothing console console.beginCycle :=
  console.openCycle_opensNothing.trans
    (.of_changes ((withCycle_changes _ _).andThen
      ((dispose_changes _ _).andThen (withSessionState_changes _ _) (fun _ among => among))
      (fun _ among => among)) (by decide))

theorem sessionBoot_opensNothing (console : Console) (process : Nat) :
    OpensNothing console (console.sessionBoot process) := by
  refine .trans ?_ (beginCycle_opensNothing _)
  refine .trans ?_ (replayEarly_opensNothing _ process)
  exact .of_changes (console.letGo_changes.andThen (attachProcess_changes _ process)
    (fun _ among => among)) (by decide)

theorem sessionDetached_opensNothing (console : Console) :
    OpensNothing console console.sessionDetached := by
  unfold sessionDetached
  split
  · refine .trans (.trans (.of_changes console.detach_changes (by decide))
      (writeText_opensNothing _ exitMessage)) ?_
    exact .of_changes ((teardownCycle_changes _).andThen
      ((resetPending_changes _).andThen (withSessionState_changes _ _) (fun _ among => among))
      (fun _ among => among)) (by decide)
  · exact .refl console

theorem bootFailed_opensNothing (console : Console) (failure : Failure) :
    OpensNothing console (console.bootFailed failure) := by
  unfold bootFailed
  split
  · exact writeText_opensNothing (console.withSessionState .detached) _
  · exact .refl console

/-- Nothing is opened by effects on the client, however deeply they are nested. -/
theorem opensNothing_parts : KeptByParts OpensNothing where
  trans := OpensNothing.trans
  quiet step := .of_changes step (by decide)
  tells console effect ofClient :=
    console.emit_opensNothing (by cases effect <;> first | rfl | cases ofClient)
  sends console name := console.send_opensNothing name []
  resets console := .of_changes console.resetPending_changes (by decide)
  prepares console spec := .of_changes (console.prepareProcess_changes spec) (by decide)
  launches console command patience :=
    .of_changes (console.launch_changes command patience) (by decide)
  boots := sessionBoot_opensNothing
  detaches := sessionDetached_opensNothing
  asks console := writeText_opensNothing (console.withSessionState .starting) _
  fails := bootFailed_opensNothing

/-! ### Auxiliary shells -/

theorem askDirectory_opensNothing (console : Console) :
    OpensNothing console console.askDirectory.1 := by
  have told : OpensNothing console ({ console with asked := console.asked + 1 }.emit
      (.askedDirectory console.host.roots)) :=
    emit_opensNothing { console with asked := console.asked + 1 } rfl
  unfold askDirectory
  dsimp only
  split <;> exact told

theorem startShell_opensNothing (console : Console) (cwd : String) :
    OpensNothing console (console.startShell cwd).1 := by
  have told : OpensNothing console
      (console.emit (.startedShell console.settings.current.shell .auxiliary cwd)) :=
    console.emit_opensNothing rfl
  unfold startShell
  dsimp only
  split
  · exact told
  · exact told.trans (.of_changes (addStream_changes _ _) (by decide))

theorem startChosen_opensNothing (console : Console) (choice : Option String) :
    OpensNothing console (console.startChosen choice).1 := by
  unfold startChosen
  split
  · exact .refl console
  next cwd _ =>
      have started := console.startShell_opensNothing cwd
      split <;> simp_all only

theorem attachShell_opensNothing (console : Console) (terminal : Terminal) (stream : Nat)
    (cwd : String) : OpensNothing console (console.attachShell terminal stream cwd).1 :=
  .of_changes (console.tryOnStream_changes stream _) (by decide)

theorem openTerminal_opensNothing (console : Console) (stream : Nat) (cwd : String) :
    OpensNothing console (console.openTerminal stream cwd).1 := by
  have drawn : OpensNothing console console.freshIdentity.1 := .refl console
  have attached := console.freshIdentity.1.attachShell_opensNothing
    { console.freshIdentity.1.auxiliaryTerminal console.freshIdentity.2 with isOpen := true }
    stream cwd
  exact drawn.trans attached

theorem admitRestored_opensNothing (console : Console) (terminal : Terminal) (stream : Nat)
    (cwd : String) : OpensNothing console (console.admitRestored terminal stream cwd).1 := by
  have attached := console.attachShell_opensNothing terminal stream cwd
  unfold admitRestored
  dsimp only
  split
  · exact attached.trans (.of_changes (tryOnStream_changes _ stream _) (by decide))
  · exact attached

theorem finishShell_opensNothing (console : Console) (ticket : Nat) (choice : Option String) :
    OpensNothing console (console.finishShell ticket choice) := by
  have started := console.startChosen_opensNothing choice
  unfold finishShell
  split
  next result => rw [result] at started; exact started.trans (finish_opensNothing ..)
  next result => rw [result] at started; exact started.trans (finish_opensNothing ..)

theorem finishTerminal_opensNothing (console : Console) (ticket : Nat) (byCommand : Bool)
    (choice : Option String) :
    OpensNothing console (console.finishTerminal ticket byCommand choice) := by
  have started := console.startChosen_opensNothing choice
  unfold finishTerminal
  split
  next reached stream cwd result =>
      rw [result] at started
      exact (started.trans (reached.openTerminal_opensNothing stream cwd)).trans
        (finish_opensNothing ..)
  next result => rw [result] at started; exact started.trans (finish_opensNothing ..)

theorem restoreChosen_opensNothing (console : Console) (terminal : Terminal)
    (choice : Option String) : OpensNothing console (console.restoreChosen terminal choice).1 := by
  have started := console.startChosen_opensNothing choice
  unfold restoreChosen
  split
  next result => rw [result] at started; exact started.trans (admitRestored_opensNothing ..)
  next result => rw [result] at started; exact started

theorem restoreIn_opensNothing (console : Console) (terminal : Terminal) (cwd : String) :
    OpensNothing console (console.restoreIn terminal cwd).1 := by
  have started := console.startShell_opensNothing (Directory.expandHome console.host.home cwd)
  unfold restoreIn
  dsimp only
  split
  next result => rw [result] at started; exact started.trans (admitRestored_opensNothing ..)
  next result => rw [result] at started; exact started

theorem restoreFrom_opensNothing (console : Console) (ticket count : Nat)
    (items : List PersistedTerminal) :
    OpensNothing console (console.restoreFrom ticket count items) := by
  induction items generalizing console count with
  | nil => exact console.finish_opensNothing _ _
  | cons item rest inductionHypothesis =>
      unfold restoreFrom
      split
      · exact inductionHypothesis ..
      · dsimp only
        split
        · exact (restoreIn_opensNothing ..).trans (inductionHypothesis ..)
        · have asked := console.askDirectory_opensNothing
          split
          next result =>
              rw [result] at asked
              exact (asked.trans (restoreChosen_opensNothing ..)).trans (inductionHypothesis ..)
          next result =>
              rw [result] at asked
              exact asked

theorem resumeErrand_opensNothing (console : Console) (choice : Option String) (errand : Errand) :
    OpensNothing console (console.resumeErrand choice errand) := by
  cases errand with
  | shell ticket => exact console.finishShell_opensNothing ticket choice
  | newTerminal ticket byCommand =>
      exact console.finishTerminal_opensNothing ticket byCommand choice
  | restore ticket terminal rest count =>
      exact (restoreChosen_opensNothing ..).trans (restoreFrom_opensNothing ..)

/-! ### Work -/

theorem finishWire_opensNothing (console : Console) (channel : Nat) :
    OpensNothing console (console.finishWire channel) := by
  unfold finishWire
  split
  next => exact .refl console
  next wire _ =>
      have closed : OpensNothing console
          (console.setWire channel { wire with serving := false }) := .refl console
      dsimp only
      refine OpensNothing.trans ?_ (opensNothing_parts.endConnection _ wire.connection)
      split
      · exact closed.trans (emit_opensNothing _ rfl)
      · exact closed

theorem readWire_opensNothing (console : Console) (channel : Nat) :
    OpensNothing console (console.readWire channel) := by
  unfold readWire
  split
  next => exact .refl console
  next wire _ =>
      split
      next bytes rest _ =>
          have taken : OpensNothing console (console.setWire channel rest) := .refl console
          dsimp only
          split
          · exact taken.trans (handleFrame_opensNothing _ _)
          · exact taken
          · exact taken.trans (finishWire_opensNothing _ channel)
      next => exact console.finishWire_opensNothing channel
      next => exact .refl console

theorem writeWire_opensNothing (console : Console) (channel : Nat) :
    OpensNothing console (console.writeWire channel) := by
  unfold writeWire
  split
  next => exact .refl console
  next wire _ =>
      split
      next => exact .refl console
      next frame rest _ =>
          dsimp only
          split
          · exact emit_opensNothing (console.setWire channel { wire with outbound := rest }) rfl
          · exact .refl console

theorem giveUpLaunch_opensNothing (console : Console) (id : Nat) :
    OpensNothing console (console.giveUpLaunch id) := by
  unfold giveUpLaunch
  split
  next => exact .refl console
  next launch _ =>
      split
      next =>
          have ended : OpensNothing console
              ((console.closeLaunch id launch).tryOnStream launch.stream ProcessStream.kill) :=
            .of_changes ((console.closeLaunch_changes id launch).andThen
              (tryOnStream_changes _ launch.stream _) (fun _ among => among)) (by decide)
          dsimp only
          split
          · exact ended.trans ((emit_opensNothing _ rfl).trans (bootFailed_opensNothing _ _))
          · exact ended
      next => exact .refl console

theorem launchConnects_opensNothing (console : Console) (id : Nat) :
    OpensNothing console (console.launchConnects id).1 := by
  unfold launchConnects
  split
  next => exact .refl console
  next launch _ =>
      split
      next =>
          have read : OpensNothing console
              ((console.closeLaunch id launch).readStream launch.stream).1 :=
            .of_changes ((console.closeLaunch_changes id launch).andThen
              (readStream_changes _ launch.stream) (fun _ among => among)) (by decide)
          dsimp only
          generalize (console.closeLaunch id launch).readStream launch.stream = result at read ⊢
          obtain ⟨ready, printed⟩ := result
          exact read.trans (opensNothing_parts.connect ready _)
      next => exact .refl console

theorem requestStart_opensNothing (console : Console) (handler : Option StartHandler) :
    OpensNothing console (console.requestStart handler).1 := by
  cases handler with
  | none => exact .refl console
  | some handler =>
      cases handler with
      | session => exact opensNothing_parts.start console
      | guest label => exact console.emit_opensNothing rfl

theorem pressKey_opensNothing (console : Console) (key : KeyEvent) :
    OpensNothing console (console.pressKey key).1 := by
  unfold pressKey pressKeyIn
  split
  next =>
      split
      next stream _ =>
          have written : OpensNothing console
              (console.onStream stream fun stream => stream.write key.bytes).1 :=
            .of_changes (console.onStream_changes stream _) (by decide)
          split
          next result => rw [result] at written; exact written
          next result => rw [result] at written; exact written
      next =>
          split
          · exact console.requestStart_opensNothing _
          · exact .refl console
  next => exact .refl console

/-- Whatever happens but that work is gone on with opens nothing. -/
theorem apply_opensNothing (console : Console) {event : Event} (other : event ≠ .work .task) :
    OpensNothing console (console.apply event) := by
  cases event with
  | start => exact opensNothing_parts.start console
  | press key => exact console.pressKey_opensNothing key
  | bootFailed failure => exact console.bootFailed_opensNothing failure
  | equip booter => exact .refl console
  | connect spec => exact opensNothing_parts.connect console spec
  | launched launch => exact console.launchConnects_opensNothing launch
  | disconnect => exact opensNothing_parts.disconnect console
  | endConnection id => exact opensNothing_parts.endConnection console id
  | resetPending => exact .of_changes console.resetPending_changes (by decide)
  | frame frame => exact console.handleFrame_opensNothing frame
  | send name args => exact console.send_opensNothing name args
  | call ticket expected name args => exact console.call_opensNothing name args _
  | openLink ticket position => exact console.openLink_opensNothing ticket position
  | configure settings => exact console.updateSettings_opensNothing settings
  | enterModule name => exact console.reportModule_opensNothing name
  | write bytes => exact console.write_opensNothing bytes
  | pump => exact console.pump_opensNothing
  | clear => exact console.clear_opensNothing
  | resize size => exact console.resize_opensNothing size
  | input bytes => exact .of_changes (console.sendInput_changes bytes) (by decide)
  | print stream bytes => exact .of_changes (console.tryOnStream_changes stream _) (by decide)
  | die stream => exact .of_changes (console.tryOnStream_changes stream _) (by decide)
  | remoteWrites channel bytes =>
      exact .of_changes (console.remoteWrites_changes channel bytes) (by decide)
  | remoteCloses channel => exact .of_changes (console.remoteCloses_changes channel) (by decide)
  | stopTaking channel => exact .of_changes (console.stopTaking_changes channel) (by decide)
  | work step =>
      cases step with
      | task => exact absurd rfl other
      | read channel => exact console.readWire_opensNothing channel
      | write channel => exact console.writeWire_opensNothing channel
      | finish channel => exact console.finishWire_opensNothing channel
      | fire debouncer => exact console.fireDebouncer_opensNothing debouncer
      | giveUp launch => exact console.giveUpLaunch_opensNothing launch
  | clock time => exact .refl console

/-! ### Runs -/

theorem openLinkFile_openedFiles (console : Console) (ticket resolver : Nat) (link : LinkMatch)
    (path : String) :
    (console.openLinkFile ticket resolver link path).openedFiles =
      console.openedFiles ++
        if console.works resolver then [(path, link.openLine, true)] else [] := by
  unfold openLinkFile works
  split
  · have opened : (console.emit (.openFile path link.openLine true)).openedFiles =
        console.openedFiles ++ [(path, link.openLine, true)] := console.emit_recorded _
    dsimp only
    split <;> exact Eq.trans (finish_opensNothing _ _ _) opened
  · exact Eq.trans (console.finish_opensNothing _ _) (List.append_nil _).symm

/-- A task that is gone on with opens the link it is there for, and nothing else. -/
theorem runTask_openedFiles (console : Console) (task : Task) :
    (console.runTask task).openedFiles =
      console.openedFiles ++ (console.openedLink? task).toList.map OpenedLink.file := by
  cases task with
  | validate resolver row generation link =>
      exact OpensNothing.openedFiles (console.call_opensNothing _ _ _)
  | chosen errand choice =>
      exact OpensNothing.openedFiles (console.resumeErrand_opensNothing choice errand)
  | resume call answer =>
      obtain ⟨number, name, waiter⟩ := call
      cases answer with
      | error failure =>
          have unopened :
              console.openedLink? (.resume ⟨number, name, waiter⟩ (.error failure)) = none := by
            cases waiter <;> rfl
          rw [unopened]
          exact OpensNothing.openedFiles (console.deliver_error_opensNothing failure waiter)
      | ok value =>
          cases waiter with
          | validation resolver row generation link =>
              refine OpensNothing.openedFiles ?_
              change OpensNothing console (console.deliver _ _)
              unfold deliver
              dsimp only
              split <;> exact .refl console
          | guest ticket expected =>
              exact OpensNothing.openedFiles (console.finish_opensNothing _ _)
          | opening ticket resolver link =>
              cases value with
              | str path =>
                  have opened := console.openLinkFile_openedFiles ticket resolver link path
                  refine opened.trans ?_
                  rw [openedLink?]
                  split <;> rfl
              | _ => exact OpensNothing.openedFiles (console.finish_opensNothing _ _)

theorem resumeTask_openedFiles (console : Console) (place : Nat) :
    (console.resumeTask place).openedFiles =
      console.openedFiles ++
        ((console.tasks[place]?).bind console.openedLink?).toList.map OpenedLink.file := by
  unfold resumeTask
  cases console.tasks[place]? with
  | none => exact (List.append_nil _).symm
  | some task =>
      exact runTask_openedFiles { console with tasks := console.tasks.eraseIdx place } task

theorem resumed?_of_ne {console : Console} {event : Event} (other : event ≠ .work .task) :
    console.resumed? (.happens event) = none := by
  cases event with
  | work step =>
      cases step with
      | task => exact absurd rfl other
      | _ => rfl
  | _ => rfl

/-- An event opens its links and nothing else. -/
theorem use_openedFiles (console : Console) (event : LinkEvent) :
    (console.use event).openedFiles =
      console.openedFiles ++ (console.openedLinks event).map OpenedLink.file := by
  cases event with
  | resumes place => exact console.resumeTask_openedFiles place
  | activates ticket resolver link =>
      exact OpensNothing.openedFiles (console.activateLink_opensNothing ..)
  | activatesAt ticket resolver position =>
      exact OpensNothing.openedFiles (console.activateAt_opensNothing ..)
  | happens event =>
      by_cases goesOn : event = .work .task
      · subst goesOn
        change console.runOldest.openedFiles = _
        rw [runOldest_eq]
        exact console.resumeTask_openedFiles 0
      · rw [openedLinks, resumed?_of_ne goesOn]
        exact OpensNothing.openedFiles (console.apply_opensNothing goesOn)

/-- A run opens its links, in their order, and nothing else. -/
theorem useAll_openedFiles (console : Console) (events : List LinkEvent) :
    (console.useAll events).openedFiles =
      console.openedFiles ++ (console.notedIn openedLinks events).map OpenedLink.file := by
  induction events generalizing console with
  | nil => exact (List.append_nil _).symm
  | cons event events inductionHypothesis =>
      have later := inductionHypothesis (console.use event)
      rw [use_openedFiles] at later
      rw [notedIn, List.map_append, ← List.append_assoc]
      exact later

end Console

end RuntimeConsole
