/-
Module: RuntimeConsole.Proofs.Retirement
Purpose: What can still happen to a console that is registered nowhere: it stays so, and it says
  nothing to the runtime of its own accord.
Main exports:
  Console.Retired, Console.Utters, Console.Idles, Console.allows, Retired.apply, Retired.run
-/
import RuntimeConsole.Proofs.Registrations

namespace RuntimeConsole

/-- Whether the embedding program asks for a frame in an event. -/
def Event.asksFor : Event → Frame → Prop
  | .send name args, said => said = .message name args
  | .call _ _ name args, said => ∃ id, said = .call id name args
  | _, _ => False

theorem mem_of_handler? {client : Client} {name : String} {handler : Handler}
    (found : client.handler? name = some handler) : ∃ id, (name, id, handler) ∈ client.handlers := by
  obtain ⟨entry, known, rfl⟩ := Option.map_eq_some_iff.mp found
  obtain ⟨earlier, later, same, -⟩ := List.lookup_eq_some_iff.mp known
  exact ⟨entry.1, by rw [same]; simp⟩

namespace Console

/-! ### A console that is registered nowhere -/

/-- A console that is registered for nothing and holds nothing, without auxiliary terminals.  What
it has put off are answers that wait to be passed on. -/
structure Retired (console : Console) : Prop where
  unregistered : ∀ released, ¬ console.Registered released
  cycle : console.session.cycle = .empty
  held : console.session.subscriptions = .empty
  subscriptions : console.subscriptions = .empty
  registry : console.registry = .empty
  tasks : ∀ task ∈ console.tasks, ∃ call answer, task = .resume call answer

namespace Retired

variable {console : Console}

theorem unobserved (retired : console.Retired) :
    console.client.bootObservers = [] ∧ console.client.detachObservers = [] := by
  have none := List.eq_nil_iff_forall_not_mem.mpr fun id =>
    retired.unregistered (.clientObserver id)
  simpa using none

theorem unwatched (retired : console.Retired) : console.settings.observers = [] := by
  have none := List.eq_nil_iff_forall_not_mem.mpr fun key =>
    retired.unregistered (.settingsObserver key)
  simpa [watchers] using none

theorem unheard (retired : console.Retired) : console.terminal.listeners = [] :=
  List.map_eq_nil_iff.mp (List.eq_nil_iff_forall_not_mem.mpr fun key =>
    retired.unregistered (.lineListener key))

theorem unlistened (retired : console.Retired) : console.modules.listeners = [] :=
  List.map_eq_nil_iff.mp (List.eq_nil_iff_forall_not_mem.mpr fun key =>
    retired.unregistered (.moduleListener key))

theorem unasked (retired : console.Retired) : console.terminal.startHandler = none :=
  not_not.mp (retired.unregistered .startHandler)

theorem unreported (retired : console.Retired) (id : Nat) : console.reportAt? id = none :=
  not_not.mp (retired.unregistered (.debouncer id))

/-- No resolver is at work. -/
theorem dead (retired : console.Retired) {resolver : Resolver}
    (member : resolver ∈ console.resolvers) : resolver.alive = false := by
  obtain ⟨id, found⟩ := List.mem_iff_getElem?.mp member
  have finished := retired.unregistered (.resolver id)
  rw [Registered, List.getElem?_map, found, Option.map_some, Option.some.injEq] at finished
  simpa using finished

/-- Only code of the embedding program handles requests. -/
theorem guests (retired : console.Retired) {entry : String × Nat × Handler}
    (member : entry ∈ console.client.handlers) : entry.2.2.isGuest = true := by
  by_contra own
  exact retired.unregistered (.handler entry.1 entry.2.1)
    ⟨entry.2.2, member, Bool.not_eq_true _ ▸ own⟩

end Retired

/-! ### What is said -/

/-- Frames may have left, and all that was said are such frames as may be said. -/
def Utters (may : Frame → Prop) (before after : Console) : Prop :=
  ∀ channel, ∃ kept frames, after.said channel = kept ++ frames ∧
    kept.Sublist (before.said channel) ∧ ∀ frame ∈ frames, may frame

namespace Utters

variable {may : Frame → Prop} {first second third : Console}

theorem of_said (same : ∀ channel, second.said channel = first.said channel) :
    Utters may first second :=
  fun channel => ⟨first.said channel, [], by rw [same, List.append_nil], .refl _, by simp⟩

theorem of_speech {frames : List Frame} (speech : Says frames first second)
    (permitted : ∀ frame ∈ frames, may frame) : Utters may first second := by
  refine fun channel => ⟨_, _, speech.said channel, .refl _, fun frame member => ?_⟩
  split at member
  · exact permitted frame member
  · exact absurd member List.not_mem_nil

theorem of_silence (silence : Says [] first second) : Utters may first second :=
  of_speech silence fun _ member => absurd member List.not_mem_nil

theorem of_sublist (fewer : ∀ channel, (second.said channel).Sublist (first.said channel)) :
    Utters may first second :=
  fun channel => ⟨second.said channel, [], (List.append_nil _).symm, fewer channel, by simp⟩

theorem trans (earlier : Utters may first second) (later : Utters may second third) :
    Utters may first third := by
  intro channel
  obtain ⟨kept, frames, said, old, permitted⟩ := earlier channel
  obtain ⟨keptToo, more, saidToo, left, permittedToo⟩ := later channel
  rw [said, List.sublist_append_iff] at left
  obtain ⟨keptStill, framesStill, rfl, fewer, among⟩ := left
  refine ⟨keptStill, framesStill ++ more, by rw [saidToo, List.append_assoc],
    fewer.trans old, fun frame member => ?_⟩
  rcases List.mem_append.mp member with before | after
  · exact permitted frame (among.subset before)
  · exact permittedToo frame after

/-- What the console says of its own accord in an event may be said. -/
theorem saidBy {console : Console} {event : Event} (utters : Utters may console (console.apply event))
    {channel : Nat} {frame : Frame} (said : frame ∈ console.saidBy channel event) : may frame := by
  obtain ⟨kept, frames, all, old, permitted⟩ := utters channel
  unfold Console.saidBy at said
  split at said
  · exact absurd said List.not_mem_nil
  · rw [all, List.drop_append, List.drop_eq_nil_of_le old.length_le, List.nil_append] at said
    exact permitted frame (List.mem_of_mem_drop said)

end Utters

/-- Whether a frame replies to the runtime, or a handler sends it while it handles a request. -/
def answersWith (console : Console) (frame : Frame) : Prop :=
  (∃ id result, frame = replyFrame id result) ∨
    ∃ entry ∈ console.client.handlers, frame ∈ handlerSays entry.2.2

/-- Whether a frame may be said in an event: it answers the runtime, or the embedding program
asks for it in the event. -/
def allows (console : Console) (event : Event) (frame : Frame) : Prop :=
  console.answersWith frame ∨ event.asksFor frame

/-! ### What is done without consequences -/

/-- Everything that is put off was put off before, or is an answer. -/
def DefersAnswers (before after : Console) : Prop :=
  ∀ task ∈ after.tasks, task ∈ before.tasks ∨ ∃ call answer, task = .resume call answer

theorem DefersAnswers.of_tasks {before after : Console} (same : after.tasks = before.tasks) :
    DefersAnswers before after :=
  fun _ member => .inl (same ▸ member)

/-- A console that was registered nowhere is so again, the same handlers are there, and nothing
was said that may not be. -/
structure Idles (may : Frame → Prop) (before after : Console) : Prop where
  retired : after.Retired
  handlers : after.client.handlers = before.client.handlers
  utters : Utters may before after

/-- What can be different on a console that is registered nowhere. -/
def retiredAspects : List Aspect :=
  [.observers, .handlers, .keyboard, .watchers, .listeners, .living, .moduleListeners, .shells,
    .subscriptions]

namespace Idles

variable {may : Frame → Prop} {before after first second third : Console} {aspects : List Aspect}

theorem trans (earlier : Idles may first second) (later : Idles may second third) :
    Idles may first third where
  retired := later.retired
  handlers := later.handlers.trans earlier.handlers
  utters := earlier.utters.trans later.utters

theorem refl (retired : before.Retired) : Idles may before before :=
  ⟨retired, rfl, .of_said fun _ => rfl⟩

/-- The session and the debouncers may be used, and answers put off. -/
theorem of_parts (retired : before.Retired) (step : Changes aspects before after)
    (apart : retiredAspects.all (· ∉ aspects) = true)
    (cycle : after.session.cycle = before.session.cycle)
    (held : after.session.subscriptions = before.session.subscriptions)
    (reports : ∀ id, after.reportAt? id = none) (tasks : DefersAnswers before after)
    (utters : Utters may before after) : Idles may before after where
  retired := {
    unregistered := fun released registered => by
      have still (among : released.place ∈ retiredAspects) : False := by
        have outside : released.place ∉ aspects :=
          of_decide_eq_true (List.all_eq_true.mp apart _ among)
        exact retired.unregistered released ((registered_of_changes step outside).mp registered)
      cases released with
      | debouncer id => exact registered (reports id)
      | _ => exact still (by simp [Release.place, retiredAspects])
    cycle := cycle.trans retired.cycle
    held := held.trans retired.held
    subscriptions := (step.kept apart .subscriptions (by decide)).trans retired.subscriptions
    registry :=
      (congrArg Prod.fst (step.kept apart .shells (by decide))).trans retired.registry
    tasks := fun task member => (tasks task member).elim (retired.tasks task) id }
  handlers := step.kept apart .handlers (by decide)
  utters := utters

/-- Answers may be put off. -/
theorem of_tasks (retired : before.Retired) (step : Changes aspects before after)
    (apart : (.session :: .debouncers :: retiredAspects).all (· ∉ aspects) = true)
    (tasks : DefersAnswers before after) (utters : Utters may before after) :
    Idles may before after := by
  have session : after.session = before.session := step.kept apart .session (by decide)
  have debouncers : after.debouncers = before.debouncers := step.kept apart .debouncers (by decide)
  exact .of_parts retired step (apart_mono apart (by decide)) (congrArg Session.cycle session)
    (congrArg Session.subscriptions session)
    (fun id => (reportAt?_of_debouncers debouncers id).trans (retired.unreported id)) tasks utters

theorem of_changes (retired : before.Retired) (step : Changes aspects before after)
    (apart : (.tasks :: .session :: .debouncers :: retiredAspects).all (· ∉ aspects) = true)
    (utters : Utters may before after) : Idles may before after :=
  .of_tasks retired step (apart_mono apart (by decide))
    (.of_tasks (step.kept apart .tasks (by decide))) utters

/-- Nobody hears anything. -/
theorem unheard (retired : before.Retired) (step : Changes aspects before after)
    (apart : (.connection :: .channels :: .trace :: .tasks :: .session :: .debouncers ::
      retiredAspects).all (· ∉ aspects) = true) : Idles may before after :=
  .of_changes retired step (apart_mono apart (by decide))
    (.of_silence (.of_changes step (apart_mono apart (by decide))))

end Idles

namespace Retired

variable {may : Frame → Prop} {console : Console}

/-! ### Screens -/

theorem withTerminal_tasks {changed : Terminal × List LineChange}
    (unheard : changed.1.listeners = []) :
    (console.withTerminal changed).tasks = console.tasks := by
  unfold withTerminal
  rw [notify_unheard unheard]

/-- Rows change and nobody is told. -/
theorem withTerminal (retired : console.Retired) {changed : Terminal × List LineChange}
    (unheard : changed.1.listeners = console.terminal.listeners) {aspects : List Aspect}
    (step : Changes aspects console (console.withTerminal changed))
    (apart : (.session :: .debouncers :: retiredAspects).all (· ∉ aspects) = true) :
    Idles may console (console.withTerminal changed) :=
  .of_tasks retired step apart
    (.of_tasks (withTerminal_tasks (unheard.trans retired.unheard)))
    (.of_silence (console.withTerminal_speech changed))

theorem write (retired : console.Retired) (bytes : List UInt8) :
    Idles may console (console.write bytes) :=
  retired.withTerminal rfl (console.write_changes bytes) (by decide)

theorem writeText (retired : console.Retired) (text : String) :
    Idles may console (console.writeText text) :=
  retired.write (Text.encode text.toList)

theorem clear (retired : console.Retired) : Idles may console console.clear :=
  retired.withTerminal rfl console.clear_changes (by decide)

theorem tryOnStream (retired : console.Retired) (id : Nat)
    (operation : ProcessStream → Except Failure ProcessStream) :
    Idles may console (console.tryOnStream id operation) :=
  .unheard retired (console.tryOnStream_changes id operation) (by decide)

theorem resize (retired : console.Retired) (size : Size) :
    Idles may console (console.resize size).1 := by
  have reshaped : Idles may console (console.withTerminal (console.terminal.resize size)) :=
    retired.withTerminal rfl (console.reshape_changes fun grid => grid.resize size) (by decide)
  unfold Console.resize
  dsimp only
  split
  · exact reshaped.trans (reshaped.retired.tryOnStream _ _)
  · exact reshaped

theorem pump (retired : console.Retired) : Idles may console console.pump.1 := by
  unfold Console.pump
  split
  next => exact .refl retired
  next id _ =>
      have read : Idles may console (console.readStream id).1 :=
        .unheard retired (console.readStream_changes id) (by decide)
      split
      next reached bytes result =>
          rw [result] at read
          dsimp only
          split
          · exact read
          · exact read.trans (read.retired.write bytes)
      next result =>
          rw [result] at read
          exact read

/-! ### Requests and answers -/

theorem emit (retired : console.Retired) {effect : Effect} (noBoot : effect.isBoot = false)
    (mute : ∀ channel, effect.frameOver? channel = none) :
    Idles may console (console.emit effect) :=
  .of_changes retired (console.emit_changes effect noBoot) (by decide)
    (.of_silence (console.emit_speech mute))

theorem finish (retired : console.Retired) (ticket : Nat) (outcome : Outcome) :
    Idles may console (console.finish ticket outcome) :=
  retired.emit rfl fun _ => rfl

/-- Only code of the embedding program handles what the runtime asks for. -/
theorem dispatch (retired : console.Retired) (name : String) (args : List Json)
    (answers : ∀ frame, console.answersWith frame → may frame) :
    Idles may console (console.dispatch name args).1 := by
  have speech := console.dispatch_speech name args
  have permitted : ∀ frame ∈ console.requestSays name, may frame := by
    intro frame said
    unfold requestSays at said
    cases found : console.client.handler? name with
    | none => simp [found] at said
    | some handler =>
        rw [found] at said
        obtain ⟨id, member⟩ := mem_of_handler? found
        exact answers frame (.inr ⟨_, member, said⟩)
  have quiet : Changes [.trace, .channels] console (console.dispatch name args).1 := by
    unfold Console.dispatch
    cases found : console.client.handler? name with
    | none => exact .refl _ console
    | some handler =>
        obtain ⟨id, member⟩ := mem_of_handler? found
        have guest := retired.guests member
        rcases console.handle_cases args handler with ⟨rfl, -⟩ | ⟨rfl, -⟩ | ⟨-, -, quiet⟩
        · cases guest
        · cases guest
        · exact quiet
  exact .of_changes retired quiet (by decide) (.of_speech speech permitted)

theorem complete (retired : console.Retired) (id : Nat)
    (answer : PendingCall → Except Failure Json) :
    Idles may console (console.complete id answer) := by
  have step := console.complete_changes id answer
  refine .of_tasks retired step (by decide) ?_ (.of_silence (.of_changes step (by decide)))
  unfold Console.complete
  split
  · exact .of_tasks rfl
  · intro task member
    rcases List.mem_append.mp member with old | new
    · exact .inl old
    · exact .inr ⟨_, _, List.mem_singleton.mp new⟩

theorem handleFrame (retired : console.Retired) (frame : Frame)
    (answers : ∀ said, console.answersWith said → may said) :
    Idles may console (console.handleFrame frame) := by
  cases frame with
  | message name args => exact retired.dispatch name args answers
  | call id name args =>
      have asked := retired.dispatch name args answers
      refine asked.trans (.of_changes asked.retired (sendFrame_changes _ _) (by decide)
        (.of_speech (sendFrame_speech _ _) fun frame member => ?_))
      exact answers frame (.inl ⟨_, _, List.mem_singleton.mp member⟩)
  | response id result => exact retired.complete id _
  | error id message => exact retired.complete id _

theorem resetPending (retired : console.Retired) : Idles may console console.resetPending := by
  have step := console.resetPending_changes
  refine .of_tasks retired step (by decide) ?_ (.of_silence (.of_changes step (by decide)))
  have failed : ∀ (pending : List PendingCall) (console : Console),
      DefersAnswers console (pending.foldl failCall console) := by
    intro pending
    induction pending with
    | nil => exact fun _ => .of_tasks rfl
    | cons call pending inductionHypothesis =>
        intro console task member
        rcases inductionHypothesis _ task member with old | new
        · rcases List.mem_append.mp old with older | failing
          · exact .inl older
          · exact .inr ⟨_, _, List.mem_singleton.mp failing⟩
        · exact .inr new
  exact failed _ _

/-! ### Connections -/

/-- A connection that ends is noticed by nobody. -/
theorem disconnectWithin (retired : console.Retired) (nesting : Nat) :
    Idles may console (Console.disconnectWithin (nesting + 1) console) := by
  rw [Console.disconnectWithin]
  split
  · have ended : Changes [.connection] console
        (console.withClient { console.client with connection := none }) := by
      refine ⟨fun aspect outside => ?_⟩
      cases aspect <;> first | rfl | exact absurd (by decide) outside
    have alone : Idles may console
        (console.withClient { console.client with connection := none }) :=
      .of_changes retired ended (by decide) (.of_said fun _ => rfl)
    dsimp only
    generalize console.withClient { console.client with connection := none } = without at alone ⊢
    rw [alone.retired.unobserved.2]
    exact alone.trans alone.retired.resetPending
  · exact .refl retired

/-- A connection that begins is noticed by nobody. -/
theorem connectWithin (retired : console.Retired) (nesting : Nat) (spec : ProcessSpec) :
    Idles may console (Console.connectWithin (nesting + 2) console spec).1 := by
  rw [Console.connectWithin]
  have readied : Idles may console (console.prepareProcess spec).1 :=
    .of_changes retired (console.prepareProcess_changes spec) (by decide)
      (.of_said fun channel => (console.prepareProcess_service spec channel).2.1)
  generalize console.prepareProcess spec = prepared at readied ⊢
  obtain ⟨ready, process, place⟩ := prepared
  dsimp only at readied ⊢
  have freed : Idles may ready
      (if ready.client.isConnected then Console.disconnectWithin (nesting + 1) ready
        else ready) := by
    split
    · exact readied.retired.disconnectWithin nesting
    · exact .refl readied.retired
  generalize (if ready.client.isConnected then Console.disconnectWithin (nesting + 1) ready
    else ready) = free at freed ⊢
  have installed : Idles may free (free.installConnection process place).1 :=
    .of_changes freed.retired (installConnection_changes ..) (by decide)
      (.of_said fun channel => free.installConnection_said process place channel)
  rw [installed.retired.unobserved.1]
  exact readied.trans (freed.trans installed)

theorem connect (retired : console.Retired) (spec : ProcessSpec) :
    Idles may console (console.connect spec).1 :=
  retired.connectWithin 98 spec

theorem disconnect (retired : console.Retired) : Idles may console console.disconnect :=
  retired.disconnectWithin 99

theorem endConnection (retired : console.Retired) (id : Nat) :
    Idles may console (console.endConnection id) := by
  unfold Console.endConnection
  split
  · exact retired.disconnect
  · exact .refl retired

/-! ### Starts -/

theorem withSessionState (retired : console.Retired) (state : SessionState) :
    Idles may console (console.withSessionState state) :=
  .of_parts retired (console.withSessionState_changes state) (by decide) rfl rfl
    retired.unreported (.of_tasks rfl) (.of_said fun _ => rfl)

theorem bootFailed (retired : console.Retired) (failure : Failure) :
    Idles may console (console.bootFailed failure) := by
  unfold Console.bootFailed
  split
  · have detached : Idles may console (console.withSessionState .detached) :=
      retired.withSessionState .detached
    exact detached.trans (detached.retired.writeText _)
  · exact .refl retired

/-- A runtime that is started from outside is noticed by nobody, either. -/
theorem bootWithin (retired : console.Retired) (nesting : Nat) :
    Idles may console (Console.bootWithin (nesting + 3) console).1 := by
  rw [Console.bootWithin]
  split
  next => exact .refl retired
  next booter _ =>
      have started : Idles may console (console.emit (.booted booter.label)) :=
        .of_changes retired (console.emit_booted_changes booter.label) (by decide)
          (.of_silence (console.emit_speech fun _ => rfl))
      refine started.trans ?_
      have ready := started.retired
      generalize console.emit (.booted booter.label) = reached at ready ⊢
      cases booter.outcome with
      | pending => exact .refl ready
      | fails failure => exact .refl ready
      | launches command patience =>
          exact .unheard ready (reached.launch_changes command patience) (by decide)
      | connects spec => exact ready.connectWithin nesting spec

theorem start (retired : console.Retired) : Idles may console console.start.1 := by
  by_cases allowed : console.session.state.canStart = true
  · rw [start_eq allowed]
    have starting : Idles may console (console.withSessionState .starting) :=
      retired.withSessionState .starting
    have asked : Idles may console console.startAsked :=
      starting.trans (starting.retired.writeText startingMessage)
    refine asked.trans ?_
    have booted : Idles may console.startAsked console.startAsked.boot.1 :=
      asked.retired.bootWithin 97
    unfold bootReported
    split
    next result => rwa [result] at booted
    next result =>
        rw [result] at booted
        exact booted.trans (booted.retired.bootFailed _)
  · have same : console.start.1 = console := by rw [Console.start, if_neg allowed]
    rw [same]
    exact .refl retired

/-! ### Events -/

theorem equip (retired : console.Retired) (booter : Booter) :
    Idles may console (console.apply (.equip booter)) := by
  have step : Changes [.booter] console (console.apply (.equip booter)) := by
    refine ⟨fun aspect outside => ?_⟩
    cases aspect <;> first | rfl | exact absurd (by decide) outside
  exact .unheard retired step (by decide)

theorem launchConnects (retired : console.Retired) (id : Nat) :
    Idles may console (console.launchConnects id).1 := by
  unfold Console.launchConnects
  cases console.launches[id]? with
  | none => exact .refl retired
  | some launch =>
      dsimp only
      split
      next =>
          have closed : Idles may console (console.closeLaunch id launch) :=
            .unheard retired (console.closeLaunch_changes id launch) (by decide)
          generalize console.closeLaunch id launch = closing at closed ⊢
          have read : Idles may closing (closing.readStream launch.stream).1 :=
            .unheard closed.retired (closing.readStream_changes launch.stream) (by decide)
          generalize closing.readStream launch.stream = result at read ⊢
          obtain ⟨ready, printed⟩ := result
          dsimp only at read ⊢
          have connected : Idles may ready (ready.connect
              ⟨.running launch.stream, some (earlyPieces (printed.toOption.getD [])), true⟩).1 :=
            read.retired.connect _
          exact closed.trans (read.trans connected)
      next => exact .refl retired

theorem giveUpLaunch (retired : console.Retired) (id : Nat) :
    Idles may console (console.giveUpLaunch id) := by
  unfold Console.giveUpLaunch
  cases console.launches[id]? with
  | none => exact .refl retired
  | some launch =>
      dsimp only
      split
      next =>
          have closed : Idles may console (console.closeLaunch id launch) :=
            .unheard retired (console.closeLaunch_changes id launch) (by decide)
          generalize console.closeLaunch id launch = closing at closed ⊢
          have killed : Idles may closing (closing.tryOnStream launch.stream ProcessStream.kill) :=
            closed.retired.tryOnStream _ _
          have ended := closed.trans killed
          generalize closing.tryOnStream launch.stream ProcessStream.kill = ready at ended ⊢
          split
          · have told : Idles may ready (ready.emit (.reportedFailure launch.failure)) :=
              ended.retired.emit rfl fun _ => rfl
            exact ended.trans (told.trans (told.retired.bootFailed _))
          · exact ended
      next => exact .refl retired

/-- Settings nobody follows are replaced. -/
theorem updateSettings (retired : console.Retired) (settings : Settings) :
    Idles may console (console.updateSettings settings) := by
  have nobody : console.updateSays settings = [] := by
    rw [updateSays, Store.update, retired.unwatched]
    rfl
  refine .of_changes retired (console.updateSettings_changes settings) (by decide)
    (.of_silence ?_)
  exact nobody ▸ console.updateSettings_speech settings

/-- A module is reported to nobody. -/
theorem reportModule (retired : console.Retired) (name : String) :
    Idles may console (console.reportModule name) := by
  have reached : console.reportModule name =
      { console with modules := (console.modules.report name).1 } := by
    rw [reportModule_eq, retired.unlistened]
    rfl
  have step : Changes [.module] console
      { console with modules := (console.modules.report name).1 } := by
    refine ⟨fun aspect outside => ?_⟩
    cases aspect <;> first | rfl | exact absurd (by decide) outside
  rw [reached]
  exact .unheard retired step (by decide)

theorem pressKey (retired : console.Retired) (key : KeyEvent) :
    Idles may console (console.pressKey key).1 := by
  have unasked : console.asksSession key = false := by simp [asksSession, retired.unasked]
  exact .of_changes retired (pressKey_changes unasked) (by decide)
    (.of_silence (pressKey_speech unasked))

/-- No report is put off, so a debouncer does nothing that is heard. -/
theorem fireDebouncer (retired : console.Retired) (id : Nat) :
    Idles may console (console.fireDebouncer id) := by
  cases waits : (console.debouncers[id]?).bind Debouncer.waiting with
  | none =>
      rw [Console.fireDebouncer, waits]
      exact .refl retired
  | some entry =>
      obtain ⟨due, action⟩ := entry
      by_cases late : due ≤ console.now
      · obtain ⟨speech, debouncers⟩ := fireDebouncer_of_late waits late
        have step := console.fireDebouncer_changes id
        have session : (console.fireDebouncer id).session = console.session :=
          step.same .session (by decide)
        have silent : console.actionSays action = [] := by
          cases action with
          | guest value => rfl
          | reportModule =>
              have unreported := retired.unreported id
              rw [reportAt?, waits] at unreported
              cases unreported
        refine .of_parts retired step (by decide) (congrArg Session.cycle session)
          (congrArg Session.subscriptions session) (fun other => ?_)
          (.of_tasks (step.same .tasks (by decide))) (.of_silence (silent ▸ speech))
        rw [reportAt?_of_debouncers debouncers, cancelDebounced_reportAt?]
        split
        · rfl
        · exact retired.unreported other
      · have same : console.fireDebouncer id = console := by
          rw [Console.fireDebouncer, waits]
          exact if_neg late
        rw [same]
        exact .refl retired

/-- The oldest answer is passed on. -/
theorem runOldest (retired : console.Retired) : Idles may console console.runOldest := by
  unfold Console.runOldest
  cases waiting : console.tasks with
  | nil => exact .refl retired
  | cons task rest =>
      have taken : Idles may console { console with tasks := rest } := by
        have step : Changes [.tasks, .answers] console { console with tasks := rest } := by
          refine ⟨fun aspect outside => ?_⟩
          cases aspect <;> first | rfl | exact absurd (by decide) outside
        exact .of_tasks retired step (by decide)
          (fun other member => .inl (by rw [waiting]; exact List.mem_cons_of_mem _ member))
          (.of_said fun _ => rfl)
      obtain ⟨call, answer, rfl⟩ := retired.tasks task (by simp [waiting])
      dsimp only
      generalize ({ console with tasks := rest } : Console) = ready at taken ⊢
      exact taken.trans (.of_changes taken.retired (ready.deliver_changes answer call.waiter)
        (by decide) (.of_silence (ready.deliver_speech answer call.waiter)))

theorem finishWire (retired : console.Retired) (channel : Nat) :
    Idles may console (console.finishWire channel) := by
  cases served : console.servedWire? channel with
  | none =>
      rw [Console.finishWire, served]
      exact .refl retired
  | some wire =>
      obtain ⟨ready, ebb, reached, -⟩ := finishWire_ebbs served
      have closed : Idles may console ready :=
        .of_changes retired ebb.step (by decide) (.of_sublist ebb.said)
      rw [reached]
      exact closed.trans (closed.retired.endConnection _)

theorem readWire (retired : console.Retired) (channel : Nat)
    (answers : ∀ said, console.answersWith said → may said) :
    Idles may console (console.readWire channel) := by
  unfold Console.readWire
  cases served : console.servedWire? channel with
  | none => exact .refl retired
  | some wire =>
      obtain ⟨known, -⟩ := servedWire?_eq served
      obtain ⟨connection, serving⟩ := nextLine_connection wire
      have outbound := nextLine_outbound wire
      dsimp only
      generalize wire.nextLine = next at connection serving outbound ⊢
      obtain ⟨input, rest⟩ := next
      cases input with
      | waiting => exact .refl retired
      | finished => exact retired.finishWire channel
      | line bytes =>
          have put : Idles may console (console.setWire channel rest) :=
            .of_changes retired (console.setWire_changes channel rest) (by decide)
              (.of_silence (console.setWire_speech known connection serving outbound))
          have handlers := put.handlers
          dsimp only
          generalize console.setWire channel rest = ready at put handlers ⊢
          cases readLine bytes with
          | frame frame =>
              refine put.trans (put.retired.handleFrame frame fun said allowed => answers said ?_)
              rwa [answersWith, handlers] at allowed
          | nothing => exact put
          | malformed => exact put.trans (put.retired.finishWire channel)

theorem stopTaking_said (channel other : Nat) :
    (console.stopTaking channel).said other = console.said other := by
  unfold stopTaking
  split
  next taken known =>
      obtain ⟨inside, -⟩ := List.getElem?_eq_some_iff.mp known
      by_cases same : channel = other
      · subst same
        rw [said, said, known]
        simp [inside, Channel.queue]
      · simp [said, same]
  next => rfl

/-- Whatever happens to a console that is registered nowhere, it stays so, and it says nothing
but answers and what it is told to. -/
theorem apply (retired : console.Retired) (event : Event) :
    Idles (console.allows event) console (console.apply event) := by
  have answers : ∀ said, console.answersWith said → console.allows event said := fun _ => .inl
  cases event with
  | start => exact retired.start
  | press key => exact retired.pressKey key
  | bootFailed failure => exact retired.bootFailed failure
  | equip booter => exact retired.equip booter
  | connect spec => exact retired.connect spec
  | launched launch => exact retired.launchConnects launch
  | disconnect => exact retired.disconnect
  | endConnection id => exact retired.endConnection id
  | resetPending => exact retired.resetPending
  | frame frame => exact retired.handleFrame frame answers
  | send name args =>
      exact .of_changes retired (console.send_changes name args) (by decide)
        (.of_speech (console.send_speech name args) fun _ member =>
          .inr (List.mem_singleton.mp member))
  | call ticket expected name args =>
      refine .of_changes retired (console.call_changes name args _) (by decide)
        (.of_speech (console.call_speech name args _) fun frame member => ?_)
      exact .inr ⟨_, List.mem_singleton.mp member⟩
  | openLink ticket position =>
      change Idles _ console (console.openLink ticket position)
      rw [openLink, retired.cycle]
      exact retired.finish ticket _
  | configure settings => exact retired.updateSettings settings
  | enterModule name => exact retired.reportModule name
  | write bytes => exact retired.write bytes
  | pump => exact retired.pump
  | clear => exact retired.clear
  | resize size => exact retired.resize size
  | input bytes => exact .unheard retired (console.sendInput_changes bytes) (by decide)
  | print stream bytes => exact retired.tryOnStream stream _
  | die stream => exact retired.tryOnStream stream _
  | remoteWrites channel bytes =>
      exact .of_changes retired (console.remoteWrites_changes channel bytes) (by decide)
        (.of_silence (console.remoteWrites_speech channel bytes))
  | remoteCloses channel =>
      exact .of_changes retired (console.remoteCloses_changes channel) (by decide)
        (.of_silence (console.remoteCloses_speech channel))
  | stopTaking channel =>
      exact .of_changes retired (console.stopTaking_changes channel) (by decide)
        (.of_said fun other => stopTaking_said channel other)
  | work step =>
      cases step with
      | task => exact retired.runOldest
      | read channel => exact retired.readWire channel answers
      | write channel =>
          exact .of_changes retired (console.writeWire_changes channel) (by decide)
            (.of_sublist (console.writeWire_ebbs channel).1.said)
      | finish channel => exact retired.finishWire channel
      | fire debouncer => exact retired.fireDebouncer debouncer
      | giveUp launch => exact retired.giveUpLaunch launch
  | clock time =>
      have step : Changes [.now] console (console.apply (.clock time)) := by
        refine ⟨fun aspect outside => ?_⟩
        cases aspect <;> first | rfl | exact absurd (by decide) outside
      exact .unheard retired step (by decide)

/-! ### Runs -/

theorem run (retired : console.Retired) (later : List Event) : (console.run later).Retired := by
  induction later generalizing console with
  | nil => exact retired
  | cons event later inductionHypothesis => exact inductionHypothesis (retired.apply event).retired

/-- All that is said in a run are answers and what the embedding program asks for. -/
theorem noted (retired : console.Retired) (later : List Event) {channel : Nat} {frame : Frame}
    (said : frame ∈ console.noted (saidBy channel) later) :
    console.answersWith frame ∨ ∃ event ∈ later, event.asksFor frame := by
  induction later generalizing console with
  | nil => exact absurd said List.not_mem_nil
  | cons event later inductionHypothesis =>
      have idles := retired.apply event
      rcases List.mem_append.mp said with now | afterwards
      · exact (idles.utters.saidBy now).imp_right fun asked =>
          ⟨event, List.mem_cons_self, asked⟩
      · refine (inductionHypothesis idles.retired afterwards).imp (fun answers => ?_)
          fun ⟨other, member, asked⟩ => ⟨other, List.mem_cons_of_mem _ member, asked⟩
        rwa [answersWith, idles.handlers] at answers

end Retired

end Console

end RuntimeConsole
