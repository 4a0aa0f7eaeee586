/-
Module: RuntimeConsole.Proofs.SpeechMove
Purpose: What each event comes to for what is said to the runtime: something is said on the
  connection there is, or a connection begins or ends.
Main exports:
  Frame.isNotice, Console.Served, SpeechMove, Console.speechMove_apply
-/
import RuntimeConsole.Proofs.Speech
import RuntimeConsole.Proofs.SessionMove

namespace RuntimeConsole

/-- Whether a frame is a notice of a given name that tells something.  The notices the
embedding program sends while it handles requests and follows connections tell nothing but
their name. -/
def Frame.isNotice (name : String) : Frame → Bool
  | .message other args => other == name && !args.isEmpty
  | _ => false

/-- Whether a frame is neither about the prompt nor about modules. -/
def Frame.isSmall (frame : Frame) : Bool :=
  !frame.isNotice "changeprompt" && !frame.isNotice "changemodule"

/-- Whether a frame neither tells nor asks anything: it replies, or is nothing but a name. -/
def Frame.isIdle : Frame → Bool
  | .message _ args => args.isEmpty
  | .call .. => false
  | .response .. | .error .. => true

theorem Frame.isSmall_of_isIdle {frame : Frame} (idle : frame.isIdle = true) :
    frame.isSmall = true := by
  cases frame with
  | message name args => simp_all [isIdle, isSmall, isNotice]
  | call id name args => cases idle
  | response id result => rfl
  | error id text => rfl

/-- Whether a call can be placed in an event. -/
def Event.calls : Event → Bool
  | .call .. | .openLink .. | .work .task => true
  | _ => false

namespace Console

/-- The channel of the connection is there, and if it is a byte stream it serves it. -/
def Served (console : Console) : Prop :=
  ∀ connection, console.client.connection = some connection →
    ∃ number accepts, console.serviceAt connection.channel = some (number, accepts) ∧
      ∀ id, number = some id → id = connection.id

theorem Served.of_disconnected {console : Console}
    (disconnected : console.client.connection = none) : console.Served := by
  intro connection connected
  rw [disconnected] at connected
  cases connected

/-! ### What is said while the runtime is listened to -/

theorem handlerSays_idle (handler : Handler) : ∀ frame ∈ handlerSays handler,
    frame.isIdle = true := by
  unfold handlerSays
  split <;> simp [Frame.isIdle]

theorem requestSays_idle (console : Console) (name : String) :
    ∀ frame ∈ console.requestSays name, frame.isIdle = true := by
  unfold requestSays
  cases console.client.handler? name with
  | none => simp
  | some handler => exact handlerSays_idle handler

theorem replyFrame_idle (id : Nat) (result : Except Failure Json) :
    (replyFrame id result).isIdle = true := by
  cases result <;> rfl

theorem frameSays_idle (console : Console) (frame : Frame) :
    ∀ said ∈ console.frameSays frame, said.isIdle = true := by
  cases frame with
  | message name args => exact console.requestSays_idle name
  | call id name args =>
      intro said member
      rcases List.mem_append.mp member with member | member
      · exact console.requestSays_idle name said member
      · rw [List.mem_singleton.mp member]
        exact replyFrame_idle ..
  | response id result => exact fun _ member => absurd member List.not_mem_nil
  | error id text => exact fun _ member => absurd member List.not_mem_nil

/-! ### Events -/

/-- The aspects an event can change in which something may be said, but nothing of the prompt
nor of modules. -/
def talkAspects : List Aspect :=
  [.pending, .nextId, .booter, .channels, .processes, .streams, .launches, .display, .scanned,
    .selection, .resolvers, .shells, .tasks, .answers, .trace]

/-- Frames leave and channels close, and nothing is said. -/
structure Ebbs (before after : Console) : Prop where
  step : Changes [.channels, .trace] before after
  said : ∀ channel, (after.said channel).Sublist (before.said channel)
  number : ∀ channel, (after.serviceAt channel).map Prod.fst =
    (before.serviceAt channel).map Prod.fst
  accepts : ∀ channel, after.channelAccepts channel = true → before.channelAccepts channel = true

/-- What an event comes to for what is said to the runtime.  Where something else is done
first, it is done to `ready`. -/
inductive SpeechMove (before : Console) (event : Event) (after : Console) : Prop where
  | talks (frames : List Frame) (speech : Says frames before after)
      (small : ∀ frame ∈ frames, frame.isSmall = true)
      (idle : event.calls = false → ∀ frame ∈ frames, frame.isIdle = true)
      (step : Changes talkAspects before after)
  /-- A channel closes, or frames leave over it. -/
  | ebbs (ebb : Ebbs before after)
      (lasts : before.Served → ∀ channel, before.hears channel = true →
        after.hears channel = true ∨ event = .stopTaking channel)
  | sends (name : String) (args : List Json) (asked : event = .send name args)
  | configures (settings : Settings) (asked : event = .configure settings)
  | reports (name : String) (asked : event = .enterModule name)
  | fires (debouncer : Nat) (asked : event = .work (.fire debouncer))
  | ticks (time : Nat) (asked : event = .clock time)
  | starts (reached : after = before.start.1)
  | fails (ready : Console) (failure : Failure) (silence : Says [] before ready)
      (readied : Changes [.launches, .streams, .trace] before ready)
      (reached : after = ready.bootFailed failure)
  | connects (ready : Console) (spec : ProcessSpec)
      (readied : Changes [.launches, .streams] before ready)
      (reached : after = (ready.connect spec).1)
  | ends (ready : Console) (readied : Ebbs before ready) (reached : after = ready.disconnect)

section

variable {before after : Console} {event : Event} {aspects : List Aspect}

/-- An event in which nothing is told nor asked, whatever is replied. -/
theorem SpeechMove.idles {frames : List Frame} (speech : Says frames before after)
    (idle : ∀ frame ∈ frames, frame.isIdle = true) (step : Changes aspects before after)
    (within : aspects ⊆ talkAspects) : SpeechMove before event after :=
  .talks frames speech (fun frame member => Frame.isSmall_of_isIdle (idle frame member))
    (fun _ => idle) (step.mono within)

/-- An event in which nothing is said. -/
theorem SpeechMove.mute (silence : Says [] before after) (step : Changes aspects before after)
    (within : aspects ⊆ talkAspects) : SpeechMove before event after :=
  .idles silence (fun _ member => absurd member List.not_mem_nil) step within

/-- An event in which a call is placed. -/
theorem SpeechMove.asks (calls : event.calls = true) {id : Nat} {name : String} {args : List Json}
    (speech : Says [.call id name args] before after) (step : Changes aspects before after)
    (within : aspects ⊆ talkAspects) : SpeechMove before event after :=
  .talks _ speech (by simp [Frame.isSmall, Frame.isNotice]) (by simp [calls]) (step.mono within)

theorem SpeechMove.unheard (step : Changes aspects before after) (within : aspects ⊆ talkAspects)
    (apart : [.connection, .channels, .trace].all (· ∉ aspects) = true) :
    SpeechMove before event after :=
  .mute (.of_changes step apart) step within

theorem Ebbs.refl (console : Console) : Ebbs console console :=
  ⟨.refl _ console, fun _ => .refl _, fun _ => rfl, fun _ accepts => accepts⟩

theorem Ebbs.after_speech (silence : Says [] before after)
    (step : Changes [.channels, .trace] before after) : Ebbs before after where
  step := step
  said channel := by simp [silence.said]
  number channel := by rw [silence.service]
  accepts channel accepts := silence.accepts channel ▸ accepts

theorem Ebbs.trans {between : Console} (first : Ebbs before between) (second : Ebbs between after) :
    Ebbs before after where
  step := first.step.trans second.step
  said channel := (second.said channel).trans (first.said channel)
  number channel := (second.number channel).trans (first.number channel)
  accepts channel accepts := first.accepts channel (second.accepts channel accepts)

end

theorem servedWire?_eq {console : Console} {channel : Nat} {wire : Wire}
    (served : console.servedWire? channel = some wire) :
    console.channels[channel]? = some (.wire wire) ∧ wire.serving = true := by
  unfold servedWire? at served
  split at served
  next found known =>
      obtain ⟨serving, rfl⟩ : found.serving = true ∧ found = wire := by simpa using served
      exact ⟨known, serving⟩
  next => cases served

/-! ### Byte streams -/

/-- What is put in the place of a byte stream. -/
theorem setWire_said (console : Console) {channel : Nat} {wire rest : Wire}
    (known : console.channels[channel]? = some (.wire wire)) (other : Nat) :
    (console.setWire channel rest).said other =
      console.trace.filterMap (Effect.frameOver? other) ++
        if channel = other then rest.outbound
        else (console.channels[other]?).elim [] Channel.queue := by
  obtain ⟨inside, -⟩ := List.getElem?_eq_some_iff.mp known
  by_cases same : channel = other
  · subst same
    simp [said, setWire, inside, Channel.queue]
  · simp [said, setWire, same]

theorem setWire_service (console : Console) {channel : Nat} {wire rest : Wire}
    (known : console.channels[channel]? = some (.wire wire)) (other : Nat) :
    (console.setWire channel rest).serviceAt other =
      if channel = other then some (some rest.connection, rest.serving)
      else console.serviceAt other := by
  obtain ⟨inside, -⟩ := List.getElem?_eq_some_iff.mp known
  by_cases same : channel = other
  · subst same
    simp [serviceAt, setWire, inside, Channel.service]
  · simp [serviceAt, setWire, same]

theorem serviceAt_eq {console : Console} {channel : Nat} {wire : Wire}
    (known : console.channels[channel]? = some (.wire wire)) :
    console.serviceAt channel = some (some wire.connection, wire.serving) := by
  rw [serviceAt, known]
  rfl

theorem said_eq {console : Console} {channel : Nat} {wire : Wire}
    (known : console.channels[channel]? = some (.wire wire)) :
    console.said channel =
      console.trace.filterMap (Effect.frameOver? channel) ++ wire.outbound := by
  rw [said, known]
  rfl

/-- A byte stream out of which something is read serves as before. -/
theorem setWire_speech (console : Console) {channel : Nat} {wire rest : Wire}
    (known : console.channels[channel]? = some (.wire wire))
    (connection : rest.connection = wire.connection) (serving : rest.serving = wire.serving)
    (outbound : rest.outbound = wire.outbound) :
    Says [] console (console.setWire channel rest) := by
  refine ⟨rfl, fun other => ?_, fun other => ?_⟩
  · rw [setWire_service console known]
    split
    next same => rw [← same, serviceAt_eq known, connection, serving]
    next => rfl
  · rw [setWire_said console known, ite_self, List.append_nil]
    split
    next same => rw [← same, said_eq known, outbound]
    next => rfl

theorem nextLine_outbound (wire : Wire) : wire.nextLine.2.outbound = wire.outbound := by
  unfold Wire.nextLine
  split
  · rfl
  · split
    · rfl
    · split <;> rfl

/-- Frames leave, and every channel serves as before. -/
theorem ebbs_of_service {before after : Console}
    (service : ∀ channel, after.serviceAt channel = before.serviceAt channel)
    (connection : after.client.connection = before.client.connection)
    (step : Changes [.channels, .trace] before after)
    (fewer : ∀ channel, (after.said channel).Sublist (before.said channel)) :
    Ebbs before after ∧ ∀ channel, after.hears channel = before.hears channel := by
  have accepts (channel : Nat) : after.channelAccepts channel = before.channelAccepts channel := by
    rw [channelAccepts_eq, channelAccepts_eq, service]
  refine ⟨⟨step, fewer, fun channel => by rw [service],
    fun channel taken => accepts channel ▸ taken⟩, fun channel => ?_⟩
  rw [hears, hears, connection, accepts]

/-- A frame that leaves has been accepted before. -/
theorem writeWire_ebbs (console : Console) (channel : Nat) :
    Ebbs console (console.writeWire channel) ∧
      ∀ other, (console.writeWire channel).hears other = console.hears other := by
  unfold writeWire
  cases served : console.servedWire? channel with
  | none => exact ⟨.refl console, fun _ => rfl⟩
  | some wire =>
      obtain ⟨known, serving⟩ := servedWire?_eq served
      obtain ⟨inside, -⟩ := List.getElem?_eq_some_iff.mp known
      cases waiting : wire.outbound with
      | nil =>
          dsimp only
          rw [waiting]
          exact ⟨.refl console, fun _ => rfl⟩
      | cons frame rest =>
          dsimp only
          rw [waiting]
          dsimp only
          have written := (console.setWire_changes channel { wire with outbound := rest }).mono
            (by decide : _ ⊆ [.channels, .trace])
          have service (other : Nat) :
              (console.setWire channel { wire with outbound := rest }).serviceAt other =
                console.serviceAt other := by
            rw [setWire_service console known]
            split
            next same => rw [← same, serviceAt_eq known]
            next => rfl
          have said (other : Nat) :
              (console.setWire channel { wire with outbound := rest }).said other =
                console.trace.filterMap (Effect.frameOver? other) ++
                  if channel = other then rest
                  else (console.channels[other]?).elim [] Channel.queue :=
            console.setWire_said known other
          -- The runtime gets the frame if it is still there.
          split
          · refine ebbs_of_service service rfl (written.trans
              ((emit_changes _ (.sent channel frame) rfl).mono (by decide))) fun other => ?_
            by_cases same : channel = other
            · subst same
              rw [said_eq known, waiting]
              simp [Console.said, emit, setWire, Effect.frameOver?, inside, Channel.queue]
            · simp [Console.said, emit, setWire, Effect.frameOver?, same]
          · refine ebbs_of_service service rfl written fun other => ?_
            rw [said]
            split
            next same =>
                rw [← same, said_eq known, waiting]
                exact (List.sublist_cons_self frame rest).append_left _
            next => exact .refl _

/-- A byte stream that is not served any more. -/
theorem closeWire_ebbs (console : Console) {channel : Nat} {wire : Wire}
    (known : console.channels[channel]? = some (.wire wire)) :
    Ebbs console (console.setWire channel { wire with serving := false }) where
  step := (console.setWire_changes _ _).mono (by decide)
  said other := by
    have kept : (console.setWire channel { wire with serving := false }).said other =
        console.said other := by
      rw [setWire_said console known]
      split
      next same => rw [← same, said_eq known]
      next => rfl
    exact kept ▸ .refl _
  number other := by
    rw [setWire_service console known]
    split
    next same => rw [← same, serviceAt_eq known]; rfl
    next => rfl
  accepts other := by
    rw [channelAccepts_eq, channelAccepts_eq, setWire_service console known]
    split
    next => exact nofun
    next => exact id

/-- The service of a byte stream ends, and with it its connection, unless that has been
superseded. -/
theorem finishWire_ebbs {console : Console} {channel : Nat} {wire : Wire}
    (served : console.servedWire? channel = some wire) :
    ∃ ready, Ebbs console ready ∧ console.finishWire channel = ready.endConnection wire.connection ∧
      ∀ other, other ≠ channel → ready.channelAccepts other = console.channelAccepts other := by
  obtain ⟨known, -⟩ := servedWire?_eq served
  have closed := console.closeWire_ebbs known
  have others (other : Nat) (different : other ≠ channel) :
      (console.setWire channel { wire with serving := false }).channelAccepts other =
        console.channelAccepts other := by
    rw [channelAccepts_eq, channelAccepts_eq, setWire_service console known,
      if_neg different.symm]
  unfold finishWire
  rw [served]
  refine ⟨_, ?_, rfl, ?_⟩
  · split
    · exact closed.trans (.after_speech (emit_speech _ fun _ => rfl)
        ((emit_changes _ (.hungUp channel) rfl).mono (by decide)))
    · exact closed
  · intro other different
    rw [← others other different]
    split <;> rfl

section

variable {before : Console} {event : Event}

/-- A connection is ended by its number, which may belong to none any more. -/
theorem SpeechMove.of_endConnection {ready : Console} {id : Nat} (readied : Ebbs before ready)
    (lasts : before.Served → before.client.connection.map Connection.id ≠ some id →
      ∀ channel, before.hears channel = true → ready.hears channel = true) :
    SpeechMove before event (ready.endConnection id) := by
  have connection : ready.client.connection = before.client.connection :=
    readied.step.same .connection (by decide)
  unfold endConnection
  rw [connection]
  split
  next current => exact .ends ready readied rfl
  next other =>
      exact .ebbs readied fun served channel hearing => .inl (lasts served other channel hearing)

/-- The channel of the connection is not the one of a byte stream that serves another. -/
theorem channel_ne_of_superseded {console : Console} (served : console.Served)
    {connection : Connection} (connected : console.client.connection = some connection)
    {channel : Nat} {wire : Wire} (known : console.channels[channel]? = some (.wire wire))
    (superseded : console.client.connection.map Connection.id ≠ some wire.connection) :
    connection.channel ≠ channel := by
  rintro rfl
  obtain ⟨number, accepts, service, own⟩ := served connection connected
  rw [serviceAt_eq known, Option.some.injEq, Prod.mk.injEq] at service
  have same := own wire.connection service.1.symm
  rw [connected, same] at superseded
  exact superseded rfl

theorem finishWire_speechMove {console between : Console} {channel : Nat} {wire : Wire}
    (read : Ebbs console between) (served : between.servedWire? channel = some wire)
    (same : ∀ other, between.serviceAt other = console.serviceAt other)
    (before : ∃ wire', console.channels[channel]? = some (.wire wire') ∧
      wire'.connection = wire.connection) :
    SpeechMove console event (between.finishWire channel) := by
  obtain ⟨ready, closed, reached, others⟩ := finishWire_ebbs served
  rw [reached]
  refine .of_endConnection (read.trans closed) fun own superseded other hearing => ?_
  obtain ⟨connection, connected, rfl, accepts⟩ := hears_iff.mp hearing
  obtain ⟨known, there, number⟩ := before
  have apart := channel_ne_of_superseded own connected there (number ▸ superseded)
  refine hears_iff.mpr ⟨connection, ?_, rfl, ?_⟩
  · exact ((closed.step.same .connection (by decide)).trans
      (read.step.same .connection (by decide))).trans connected
  · rw [others _ apart, channelAccepts_eq, same, ← channelAccepts_eq]
    exact accepts

theorem readWire_speechMove (console : Console) (channel : Nat) :
    SpeechMove console (.work (.read channel)) (console.readWire channel) := by
  unfold readWire
  cases served : console.servedWire? channel with
  | none => exact .mute (.refl console) (.refl [] console) (by decide)
  | some wire =>
      obtain ⟨known, -⟩ := servedWire?_eq served
      obtain ⟨connection, serving⟩ := nextLine_connection wire
      have outbound := nextLine_outbound wire
      dsimp only
      generalize wire.nextLine = next at connection serving outbound ⊢
      obtain ⟨input, rest⟩ := next
      dsimp only at connection serving outbound ⊢
      have put := console.setWire_changes channel rest
      have silence := console.setWire_speech known connection serving outbound
      cases input with
      | waiting => exact .mute (.refl console) (.refl [] console) (by decide)
      | finished =>
          exact finishWire_speechMove (.refl console) served (fun _ => rfl) ⟨wire, known, rfl⟩
      | line bytes =>
          dsimp only
          cases readLine bytes with
          | frame frame =>
              exact .idles (silence.trans (handleFrame_speech _ frame)) (frameSays_idle _ frame)
                ((put.mono (by decide)).trans ((handleFrame_changes _ frame).mono (by decide)))
                (List.Subset.refl talkAspects)
          | nothing => exact .mute silence put (by decide)
          | malformed =>
              exact finishWire_speechMove (.after_speech silence (put.mono (by decide)))
                (servedWire?_setWire served serving) silence.service
                ⟨wire, known, connection.symm⟩

end

theorem remoteWrites_speech (console : Console) (channel : Nat) (bytes : List UInt8) :
    Says [] console (console.remoteWrites channel bytes).1 := by
  unfold remoteWrites
  split
  next wire served =>
      exact console.setWire_speech (servedWire?_eq served).1 rfl rfl rfl
  next => exact .refl console

theorem remoteCloses_speech (console : Console) (channel : Nat) :
    Says [] console (console.remoteCloses channel) := by
  unfold remoteCloses
  split
  next wire known => exact console.setWire_speech known rfl rfl rfl
  next => exact .refl console

/-- A channel from which nobody takes frames any more. -/
theorem stopTaking_speechMove (console : Console) (channel : Nat) :
    SpeechMove console (.stopTaking channel) (console.stopTaking channel) := by
  have changed := (console.stopTaking_changes channel).mono (by decide : _ ⊆ [.channels, .trace])
  unfold stopTaking at changed ⊢
  split at changed
  next taken known =>
      obtain ⟨inside, -⟩ := List.getElem?_eq_some_iff.mp known
      have service (other : Nat) (different : channel ≠ other) :
          ({ console with channels := console.channels.set channel (.direct false) } :
            Console).serviceAt other = console.serviceAt other := by
        simp [serviceAt, different]
      have own : ({ console with channels := console.channels.set channel (.direct false) } :
          Console).serviceAt channel = some (none, false) := by
        simp [serviceAt, inside, Channel.service]
      refine .ebbs ⟨changed, fun other => ?_, fun other => ?_, fun other => ?_⟩
        fun _ other hearing => ?_
      · by_cases same : channel = other
        · subst same
          simp [said, inside, Channel.queue]
        · simp [said, same]
      · by_cases same : channel = other
        · subst same
          rw [own, serviceAt, known]
          rfl
        · rw [service other same]
      · rw [channelAccepts_eq, channelAccepts_eq]
        by_cases same : channel = other
        · subst same
          rw [own]
          intro accepts
          cases accepts
        · rw [service other same]
          exact id
      · by_cases same : channel = other
        · subst same
          exact .inr rfl
        · left
          rw [hears, channelAccepts_eq, service other same, ← channelAccepts_eq]
          exact hearing
  next => exact .mute (.refl console) (.refl [] console) (by decide)

/-! ### Tasks and launches -/

/-- What is said when a task is carried out. -/
def taskSays (console : Console) : Task → List Frame
  | .validate _ _ _ link => [.call console.client.nextId "validatepath" [.str link.text]]
  | .resume .. | .chosen .. => []

theorem runTask_speech (console : Console) (task : Task) :
    Says (console.taskSays task) console (console.runTask task) := by
  cases task with
  | validate resolver row generation link => exact console.call_speech _ _ _
  | resume call answer => exact console.deliver_speech answer call.waiter
  | chosen errand choice => exact console.resumeErrand_speech choice errand

theorem runOldest_speechMove (console : Console) :
    SpeechMove console (.work .task) console.runOldest := by
  have changed := console.runOldest_changes.mono (by decide : _ ⊆ talkAspects)
  unfold runOldest at changed ⊢
  split at changed
  next none => exact .mute (.refl console) (.refl [] console) (by decide)
  next task rest waiting =>
      have taken : Says [] console { console with tasks := rest } := .of_same rfl rfl rfl
      have said := taken.trans (runTask_speech _ task)
      cases task with
      | validate resolver row generation link => exact .asks rfl said changed (by decide)
      | resume call answer => exact .mute said changed (by decide)
      | chosen errand choice => exact .mute said changed (by decide)

theorem openLink_speechMove (console : Console) (ticket : Nat) (position : Position) :
    SpeechMove console (.openLink ticket position) (console.openLink ticket position) := by
  have changed := (console.openLink_changes ticket position).mono (by decide : _ ⊆ talkAspects)
  have finished : SpeechMove console (.openLink ticket position)
      (console.finish ticket (.linkOpened false)) :=
    .mute (console.finish_speech _ _) (console.finish_changes _ _) (by decide)
  unfold openLink at changed ⊢
  split at changed
  next resolver known =>
      unfold activateAt at changed ⊢
      split at changed
      next link found =>
          unfold activateLink at changed ⊢
          split at changed
          next alive =>
              rw [if_pos alive]
              exact .asks rfl (console.call_speech _ _ _) changed (by decide)
          next dead =>
              rw [if_neg dead]
              exact finished
      next => exact finished
  next => exact finished

theorem launchConnects_speechMove (console : Console) (id : Nat) :
    SpeechMove console (.launched id) (console.launchConnects id).1 := by
  unfold launchConnects
  cases console.launches[id]? with
  | none => exact .mute (.refl console) (.refl [] console) (by decide)
  | some launch =>
      dsimp only
      split
      · have read := (console.closeLaunch id launch).readStream_changes launch.stream
        generalize (console.closeLaunch id launch).readStream launch.stream = result at read ⊢
        obtain ⟨ready, bytes⟩ := result
        dsimp only at read ⊢
        exact .connects ready _
          ((console.closeLaunch_changes id launch).andThen read (by decide)) rfl
      · exact .mute (.refl console) (.refl [] console) (by decide)

theorem giveUpLaunch_speechMove (console : Console) (id : Nat) :
    SpeechMove console (.work (.giveUp id)) (console.giveUpLaunch id) := by
  unfold giveUpLaunch
  cases console.launches[id]? with
  | none => exact .mute (.refl console) (.refl [] console) (by decide)
  | some launch =>
      dsimp only
      split
      next =>
          have closed : Changes [.launches, .streams] console
              ((console.closeLaunch id launch).tryOnStream launch.stream ProcessStream.kill) :=
            (console.closeLaunch_changes id launch).andThen (tryOnStream_changes _ _ _) (by decide)
          split
          · refine .fails _ launch.failure
              (.after_changes closed (emit_speech _ fun _ => rfl) (by decide)) ?_ rfl
            exact closed.andThen (emit_changes _ (.reportedFailure launch.failure) rfl) (by decide)
          · exact .unheard closed (by decide) (by decide)
      next => exact .mute (.refl console) (.refl [] console) (by decide)

/-- Whatever happens to a console comes to one of a few things for what is said. -/
theorem speechMove_apply (console : Console) (event : Event) :
    SpeechMove console event (console.apply event) := by
  cases event with
  | start => exact .starts rfl
  | press key =>
      cases asked : console.asksSession key with
      | true => exact .starts (pressKey_asked asked)
      | false => exact .mute (pressKey_speech asked) (pressKey_changes asked) (by decide)
  | bootFailed failure => exact .fails console failure (.refl console) (.refl _ console) rfl
  | equip booter =>
      have equipped : Changes [.booter] console (console.apply (.equip booter)) := by
        refine ⟨fun aspect outside => ?_⟩
        cases aspect <;> first | rfl | exact absurd (by decide) outside
      exact .mute (.of_same rfl rfl rfl) equipped (by decide)
  | connect spec => exact .connects console spec (.refl _ console) rfl
  | launched id => exact console.launchConnects_speechMove id
  | disconnect => exact .ends console (.refl console) rfl
  | endConnection id => exact .of_endConnection (.refl console) fun _ _ _ hearing => hearing
  | resetPending => exact .unheard console.resetPending_changes (by decide) (by decide)
  | frame frame =>
      exact .idles (console.handleFrame_speech frame) (console.frameSays_idle frame)
        (console.handleFrame_changes frame) (by decide)
  | send name args => exact .sends name args rfl
  | call ticket expected name args =>
      exact .asks rfl (console.call_speech name args _) (console.call_changes name args _)
        (by decide)
  | openLink ticket position => exact console.openLink_speechMove ticket position
  | configure settings => exact .configures settings rfl
  | enterModule name => exact .reports name rfl
  | write bytes =>
      exact .mute (console.withTerminal_speech _) (console.write_changes bytes) (by decide)
  | pump => exact .mute console.pump_speech console.pump_changes (by decide)
  | clear => exact .mute (console.withTerminal_speech _) console.clear_changes (by decide)
  | resize size =>
      exact .mute (console.resize_speech size) (console.resize_changes size) (by decide)
  | input bytes => exact .unheard (console.sendInput_changes bytes) (by decide) (by decide)
  | print stream bytes =>
      exact .unheard (console.tryOnStream_changes stream _) (by decide) (by decide)
  | die stream => exact .unheard (console.tryOnStream_changes stream _) (by decide) (by decide)
  | remoteWrites channel bytes =>
      exact .mute (console.remoteWrites_speech channel bytes)
        (console.remoteWrites_changes channel bytes) (by decide)
  | remoteCloses channel =>
      exact .mute (console.remoteCloses_speech channel) (console.remoteCloses_changes channel)
        (by decide)
  | stopTaking channel => exact console.stopTaking_speechMove channel
  | work step =>
      cases step with
      | task => exact console.runOldest_speechMove
      | read channel => exact console.readWire_speechMove channel
      | write channel =>
          obtain ⟨ebb, hears⟩ := console.writeWire_ebbs channel
          exact .ebbs ebb fun _ other hearing => .inl ((hears other).trans hearing)
      | finish channel =>
          change SpeechMove console _ (console.finishWire channel)
          cases served : console.servedWire? channel with
          | none =>
              rw [finishWire, served]
              exact .mute (.refl console) (.refl [] console) (by decide)
          | some wire =>
              exact finishWire_speechMove (.refl console) served (fun _ => rfl)
                ⟨wire, (servedWire?_eq served).1, rfl⟩
      | fire debouncer => exact .fires debouncer rfl
      | giveUp id => exact console.giveUpLaunch_speechMove id
  | clock time => exact .ticks time rfl

end Console

end RuntimeConsole
