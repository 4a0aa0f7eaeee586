/-
Module: RuntimeConsole.Proofs.EventSpares
Purpose: What each event spares: those who are registered with the console stay, streams get
  older, and nothing is written to them but what the user enters.
Main exports:
  Console.entered, Event.plain, Console.apply_spares
-/
import RuntimeConsole.Console.ConsoleEvent
import RuntimeConsole.Proofs.StreamAges

namespace RuntimeConsole

namespace Console

open ProcessStream

/-! ### What the user enters -/

/-- What reaches streams of what the user enters in an event. -/
def entered (console : Console) : Event → Nat → List UInt8
  | .press key =>
      if console.admits key console.terminal.keyFilter then
        console.offered console.terminal.stream key.bytes
      else untyped
  | .input bytes => console.offered console.terminal.stream bytes
  | _ => untyped

theorem offered_none (console : Console) (bytes : List UInt8) :
    console.offered none bytes = untyped := by
  funext id
  simp [offered, untyped]

theorem onStream_fst (console : Console) (id : Nat)
    (operation : ProcessStream → Except Failure ProcessStream) :
    (console.onStream id operation).1 = console.tryOnStream id operation := rfl

/-- What a stream takes is all that is written to it. -/
theorem write_cases (stream : ProcessStream) (bytes : List UInt8) :
    (stream.after (·.write bytes)).faults = stream.faults ∧
      (stream.after (·.write bytes)).alive = stream.alive ∧
      (stream.after (·.write bytes)).input =
        stream.input ++ if stream.takesInput then bytes else [] := by
  unfold ProcessStream.after ProcessStream.write unlessRefused takesInput
  cases refused : stream.faults.write <;> cases running : stream.alive <;>
    simp [refused, running]

/-- Bytes are offered to a stream. -/
theorem write_ages (console : Console) (id : Nat) (bytes : List UInt8) :
    Ages (console.offered (some id) bytes) console.streams
      (console.onStream id fun stream => stream.write bytes).1.streams := by
  have taken : console.offered (some id) bytes = fun other => if other = id then
      if (console.stream? id).any takesInput then bytes else [] else [] := by
    funext other
    by_cases same : other = id
    · subst same
      simp [offered]
    · simp [offered, same, Ne.symm same]
  rw [onStream_fst, tryOnStream_eq, taken]
  refine .modify _ id (fun absent => ?_) fun stream known => ?_
  · simp [stream?, absent]
  · obtain ⟨faults, alive, input⟩ := write_cases stream bytes
    refine ⟨faults, fun ended => alive.trans ended, ?_⟩
    rw [input, stream?, known, Option.any_some]

/-- A key in a terminal reaches the stream attached, and nothing else comes of it but a start. -/
theorem pressKeyIn_ages (console : Console) (terminal : Terminal) (key : KeyEvent)
    (unasked : terminal.startHandler = some .session → terminal.stream = none →
      key.key = .enter → console.admits key terminal.keyFilter = false) :
    Ages (if console.admits key terminal.keyFilter then
        console.offered terminal.stream key.bytes else untyped)
      console.streams (console.pressKeyIn terminal key).1.streams := by
  unfold pressKeyIn
  split
  next admitted =>
      cases attached : terminal.stream with
      | some stream =>
          have written := console.write_ages stream key.bytes
          dsimp only
          split
          next result => rw [result] at written; exact written
          next result => rw [result] at written; exact written
      | none =>
          rw [offered_none]
          dsimp only
          split
          next enter =>
              cases asked : terminal.startHandler with
              | none => exact .refl _
              | some handler =>
                  cases handler with
                  | session =>
                      rw [unasked asked attached enter] at admitted
                      cases admitted
                  | guest label => exact .refl _
          next => exact .refl _
  next => exact .refl _

/-! ### Screens and requests -/

theorem withTerminal_spares {console : Console} {changed : Terminal × List LineChange}
    {aspects : List Aspect} (step : Changes aspects console (console.withTerminal changed))
    (within : aspects ⊆ sparedAspects)
    (apart : [.session, .settings, .streams].all (· ∉ aspects) = true) :
    Spares untyped console (console.withTerminal changed) :=
  .of_parts step within (apart_mono apart (by decide))
    (.of_eq (step.kept apart .streams (by decide))) (console.withTerminal_defers changed)

theorem write_spares (console : Console) (bytes : List UInt8) :
    Spares untyped console (console.write bytes) :=
  withTerminal_spares (console.write_changes bytes) (by decide) (by decide)

theorem clear_spares (console : Console) : Spares untyped console console.clear :=
  withTerminal_spares console.clear_changes (by decide) (by decide)

theorem readStream_spares (console : Console) (id : Nat) :
    Spares untyped console (console.readStream id).1 :=
  have step := console.readStream_changes id
  .of_parts step (by decide) (by decide) (console.readStream_ages id)
    (.of_changes step (by decide))

theorem tryOnStream_spares (console : Console) (id : Nat)
    {operation : ProcessStream → Except Failure ProcessStream} (harmless : Harmless operation) :
    Spares untyped console (console.tryOnStream id operation) :=
  have step := console.tryOnStream_changes id operation
  .of_parts step (by decide) (by decide) (console.tryOnStream_ages id harmless)
    (.of_changes step (by decide))

theorem pump_spares (console : Console) : Spares untyped console console.pump.1 := by
  unfold pump
  split
  next => exact .refl console
  next id _ =>
      have read := console.readStream_spares id
      split
      next reached bytes result =>
          rw [result] at read
          dsimp only
          split
          · exact read
          · exact read.trans (reached.write_spares bytes)
      next result =>
          rw [result] at read
          exact read

theorem resize_spares (console : Console) (size : Size) :
    Spares untyped console (console.resize size).1 := by
  have reshaped : Spares untyped console
      (console.withTerminal (console.terminal.resize size)) :=
    withTerminal_spares (console.reshape_changes fun grid => grid.resize size) (by decide)
      (by decide)
  unfold resize
  dsimp only
  split
  · exact reshaped.trans (tryOnStream_spares _ _ (resize_harmless size))
  · exact reshaped

theorem handle_spares (console : Console) (args : List Json) (handler : Handler) :
    Spares untyped console (console.handle args handler).1 := by
  rcases console.handle_cases args handler with ⟨-, same⟩ | ⟨-, same⟩ | ⟨-, -, quiet⟩
  · rw [same]
    exact console.clear_spares
  · rw [same]
    exact console.writeText_spares cursorReset
  · exact .of_changes quiet (by decide) (by decide)

theorem dispatch_spares (console : Console) (name : String) (args : List Json) :
    Spares untyped console (console.dispatch name args).1 := by
  unfold dispatch
  split
  · exact console.handle_spares args _
  · exact .refl console

theorem complete_spares (console : Console) (id : Nat)
    (answer : PendingCall → Except Failure Json) :
    Spares untyped console (console.complete id answer) :=
  have step := console.complete_changes id answer
  .of_parts step (by decide) (by decide) (ages_of_changes step (by decide))
    (console.complete_defers id answer)

theorem handleFrame_spares (console : Console) (frame : Frame) :
    Spares untyped console (console.handleFrame frame) := by
  cases frame with
  | message name args => exact console.dispatch_spares name args
  | call id name args =>
      exact (console.dispatch_spares name args).trans
        (.of_changes (sendFrame_changes _ _) (by decide) (by decide))
  | response id result => exact console.complete_spares id _
  | error id message => exact console.complete_spares id _

/-! ### Work -/

/-- Work that has nothing to do with auxiliary terminals is carried out. -/
theorem runTask_spares {console : Console} {task : Task} (other : task.errand? = none) :
    Spares untyped console (console.runTask task) := by
  cases task with
  | validate resolver row generation link =>
      exact .of_changes (console.call_changes ..) (by decide) (by decide)
  | resume call answer => exact .of_changes (console.deliver_changes ..) (by decide) (by decide)
  | chosen errand choice => cases other

/-- A task is taken out of those that have been put off. -/
theorem takeTask_spares (console : Console) (place : Nat) :
    Spares untyped console { console with tasks := console.tasks.eraseIdx place } := by
  have step : Changes [.tasks, .answers] console
      { console with tasks := console.tasks.eraseIdx place } := by
    refine ⟨fun aspect outside => ?_⟩
    cases aspect <;> first | rfl | exact absurd (by decide) outside
  exact .of_parts step (by decide) (by decide) (.refl _)
    fun task member => .inl (List.mem_of_mem_eraseIdx member)

theorem resumeTask_spares {console : Console} {place : Nat}
    (other : (console.tasks[place]?).bind Task.errand? = none) :
    Spares untyped console (console.resumeTask place) := by
  unfold resumeTask
  split
  next => exact .refl console
  next task found =>
      rw [found, Option.bind_some] at other
      exact (console.takeTask_spares place).trans (runTask_spares other)

theorem finishWire_spares (console : Console) (channel : Nat) :
    SparesFollowed console (console.finishWire channel) := by
  cases served : console.servedWire? channel with
  | none =>
      rw [finishWire, served]
      exact .of_spares (.refl console) rfl
  | some wire =>
      obtain ⟨ready, readied, reached⟩ := finishWire_eq served
      have session : ready.session = console.session := readied.same .session (by decide)
      rw [reached]
      exact SparesFollowed.trans
        (.of_spares (.of_changes readied (by decide) (by decide)) (congrArg Session.cycle session))
        (spares_abiding.endConnection ready wire.connection)

theorem readWire_spares (console : Console) (channel : Nat) :
    SparesFollowed console (console.readWire channel) := by
  unfold readWire
  cases console.servedWire? channel with
  | none => exact .of_spares (.refl console) rfl
  | some wire =>
      dsimp only
      generalize wire.nextLine = next
      obtain ⟨input, rest⟩ := next
      cases input with
      | waiting => exact .of_spares (.refl console) rfl
      | finished => exact console.finishWire_spares channel
      | line bytes =>
          have put : SparesFollowed console (console.setWire channel rest) :=
            .of_spares (.of_changes (console.setWire_changes channel rest) (by decide) (by decide))
              rfl
          dsimp only
          generalize console.setWire channel rest = ready at put ⊢
          cases readLine bytes with
          | frame frame =>
              exact put.trans (.of_spares (ready.handleFrame_spares frame)
                (congrArg Session.cycle ((ready.handleFrame_changes frame).same .session
                  (by decide))))
          | nothing => exact put
          | malformed => exact put.trans (ready.finishWire_spares channel)

theorem launchConnects_spares (console : Console) (id : Nat) :
    SparesFollowed console (console.launchConnects id).1 := by
  unfold launchConnects
  cases console.launches[id]? with
  | none => exact .of_spares (.refl console) rfl
  | some launch =>
      dsimp only
      split
      next =>
          have closed : SparesFollowed console (console.closeLaunch id launch) :=
            .of_spares (.of_changes (console.closeLaunch_changes id launch) (by decide)
              (by decide)) rfl
          generalize console.closeLaunch id launch = closing at closed ⊢
          have read : SparesFollowed closing (closing.readStream launch.stream).1 :=
            .of_spares (closing.readStream_spares launch.stream) (congrArg Session.cycle
              ((closing.readStream_changes launch.stream).same .session (by decide)))
          generalize closing.readStream launch.stream = result at read ⊢
          obtain ⟨ready, printed⟩ := result
          dsimp only at read ⊢
          have connected := spares_abiding.connect ready
            ⟨.running launch.stream, some (earlyPieces (printed.toOption.getD [])), true⟩
          exact closed.trans (read.trans connected)
      next => exact .of_spares (.refl console) rfl

theorem giveUpLaunch_spares (console : Console) (id : Nat) :
    SparesFollowed console (console.giveUpLaunch id) := by
  unfold giveUpLaunch
  cases console.launches[id]? with
  | none => exact .of_spares (.refl console) rfl
  | some launch =>
      dsimp only
      split
      next =>
          have closed : SparesFollowed console (console.closeLaunch id launch) :=
            .of_spares (.of_changes (console.closeLaunch_changes id launch) (by decide)
              (by decide)) rfl
          generalize console.closeLaunch id launch = closing at closed ⊢
          have killed : SparesFollowed closing (closing.tryOnStream launch.stream kill) :=
            .of_spares (closing.tryOnStream_spares launch.stream kill_harmless)
              (congrArg Session.cycle
                ((closing.tryOnStream_changes launch.stream kill).same .session (by decide)))
          have ended := closed.trans killed
          generalize closing.tryOnStream launch.stream kill = ready at ended ⊢
          split
          · have told : SparesFollowed ready (ready.emit (.reportedFailure launch.failure)) :=
              .of_spares (.of_changes (ready.emit_changes _ rfl) (by decide) (by decide)) rfl
            exact ended.trans (told.trans (bootFailed_spares _ launch.failure))
          · exact ended
      next => exact .of_spares (.refl console) rfl

/-! ### Events -/

/-- An event that neither replaces the settings nor goes on with an operation on auxiliary
terminals. -/
def plain (console : Console) : Event → Prop
  | .configure _ => False
  | .work .task => (console.tasks.head?).bind Task.errand? = none
  | _ => True

/-- A plain event spares whatever connections spare. -/
theorem apply_spares {console : Console} (followers : console.HoldsFollowers) {event : Event}
    (plain : console.plain event) :
    Spares (console.entered event) console (console.apply event) := by
  have lasting {after : Console} (keeps : SparesFollowed console after) :
      Spares untyped console after := (keeps followers).1
  cases event with
  | start => exact lasting (spares_abiding.start console)
  | press key =>
      cases asked : console.asksSession key with
      | true =>
          have unattached : console.terminal.stream = none := by
            simp only [asksSession, Bool.and_eq_true, Option.isNone_iff_eq_none] at asked
            exact asked.1.1.2
          have nothing : console.entered (.press key) = untyped := by
            rw [entered, unattached, offered_none, ite_self]
          change Spares _ console (console.pressKey key).1
          rw [nothing, pressKey_asked asked]
          exact lasting (spares_abiding.start console)
      | false =>
          have step := pressKey_changes asked
          refine .of_parts step (by decide) (by decide)
            (console.pressKeyIn_ages console.terminal key fun handler unattached enter => ?_)
            (.of_changes step (by decide))
          simpa [asksSession, handler, unattached, enter] using asked
  | bootFailed failure => exact lasting (console.bootFailed_spares failure)
  | equip booter =>
      have step : Changes [.booter] console (console.apply (.equip booter)) := by
        refine ⟨fun aspect outside => ?_⟩
        cases aspect <;> first | rfl | exact absurd (by decide) outside
      exact .of_changes step (by decide) (by decide)
  | connect spec => exact lasting (spares_abiding.connect console spec)
  | launched launch => exact lasting (console.launchConnects_spares launch)
  | disconnect => exact lasting (spares_abiding.disconnect console)
  | endConnection id => exact lasting (spares_abiding.endConnection console id)
  | resetPending => exact console.resetPending_spares
  | frame frame => exact console.handleFrame_spares frame
  | send name args => exact .of_changes (console.send_changes name args) (by decide) (by decide)
  | call ticket expected name args =>
      exact .of_changes (console.call_changes name args _) (by decide) (by decide)
  | openLink ticket position =>
      exact .of_changes (console.openLink_changes ticket position) (by decide) (by decide)
  | configure settings => exact plain.elim
  | enterModule name =>
      exact .of_changes (console.reportModule_changes name) (by decide) (by decide)
  | write bytes => exact console.write_spares bytes
  | pump => exact console.pump_spares
  | clear => exact console.clear_spares
  | resize size => exact console.resize_spares size
  | input bytes =>
      have step := console.sendInput_changes bytes
      refine .of_parts step (by decide) (by decide) ?_ (.of_changes step (by decide))
      change Ages (console.offered _ _) _ (console.sendInput bytes).1.streams
      unfold sendInput
      cases console.terminal.stream with
      | none =>
          rw [offered_none]
          exact .refl _
      | some id => exact console.write_ages id bytes
  | print stream bytes => exact console.tryOnStream_spares stream (print_harmless bytes)
  | die stream => exact console.tryOnStream_spares stream die_harmless
  | remoteWrites channel bytes =>
      exact .of_changes (console.remoteWrites_changes channel bytes) (by decide) (by decide)
  | remoteCloses channel =>
      exact .of_changes (console.remoteCloses_changes channel) (by decide) (by decide)
  | stopTaking channel =>
      exact .of_changes (console.stopTaking_changes channel) (by decide) (by decide)
  | work step =>
      cases step with
      | task =>
          change Spares untyped console console.runOldest
          rw [runOldest_eq]
          refine resumeTask_spares ?_
          rw [← List.head?_eq_getElem?]
          exact plain
      | read channel => exact lasting (console.readWire_spares channel)
      | write channel =>
          exact .of_changes (console.writeWire_changes channel) (by decide) (by decide)
      | finish channel => exact lasting (console.finishWire_spares channel)
      | fire debouncer =>
          exact .of_changes (console.fireDebouncer_changes debouncer) (by decide) (by decide)
      | giveUp launch => exact lasting (console.giveUpLaunch_spares launch)
  | clock time =>
      have step : Changes [.now] console (console.apply (.clock time)) := by
        refine ⟨fun aspect outside => ?_⟩
        cases aspect <;> first | rfl | exact absurd (by decide) outside
      exact .of_changes step (by decide) (by decide)

end Console

end RuntimeConsole
