/-
Module: RuntimeConsole.Proofs.Speech
Purpose: What a console says to the runtime over each of its channels: frames are said over
  the channel of the connection there is, and over no other.
Main exports:
  Console.said, Console.hears, Console.saidBy, Says
-/
import RuntimeConsole.Proofs.CallResolution

namespace RuntimeConsole

/-- The frame that leaves over a channel in an effect, if one does. -/
def Effect.frameOver? (channel : Nat) : Effect → Option Frame
  | .sent place frame => if place = channel then some frame else none
  | _ => none

namespace Channel

/-- The connection a byte stream serves, where the channel is one, and whether frames are
accepted. -/
def service : Channel → Option Nat × Bool
  | direct taken => (none, taken)
  | wire served => (some served.connection, served.serving)

/-- The frames that were accepted and have not left yet. -/
def queue : Channel → List Frame
  | direct _ => []
  | wire served => served.outbound

theorem service_accepts (channel : Channel) : channel.service.2 = channel.accepts := by
  cases channel <;> rfl

end Channel

namespace Console

/-- What a channel serves, and whether it accepts frames. -/
def serviceAt (console : Console) (channel : Nat) : Option (Option Nat × Bool) :=
  (console.channels[channel]?).map Channel.service

/-- Everything that was said over a channel: the frames that left, and those that were
accepted and are still to leave. -/
def said (console : Console) (channel : Nat) : List Frame :=
  console.trace.filterMap (Effect.frameOver? channel) ++
    (console.channels[channel]?).elim [] Channel.queue

/-- Whether what is said to the runtime now is said over a channel: it is the one of the
connection, and frames are taken from it. -/
def hears (console : Console) (channel : Nat) : Bool :=
  console.client.connection.map Connection.channel == some channel &&
    console.channelAccepts channel

/-- What the console says over a channel in an event of its own accord, and not because the
embedding program asks for it. -/
def saidBy (channel : Nat) (console : Console) : Event → List Frame
  | .send .. => []
  | event => ((console.apply event).said channel).drop (console.said channel).length

theorem hears_iff {console : Console} {channel : Nat} :
    console.hears channel = true ↔ ∃ connection, console.client.connection = some connection ∧
      connection.channel = channel ∧ console.channelAccepts channel = true := by
  simp [hears, ← and_assoc]

theorem hears_of_disconnected {console : Console}
    (disconnected : console.client.connection = none) (channel : Nat) :
    console.hears channel = false := by
  simp [hears, disconnected]

theorem channelAccepts_eq (console : Console) (channel : Nat) :
    console.channelAccepts channel = (console.serviceAt channel).elim false Prod.snd := by
  unfold channelAccepts serviceAt
  cases console.channels[channel]? with
  | none => rfl
  | some found => exact (found.service_accepts).symm

/-- One channel at most hears what is said. -/
theorem eq_of_hears {console : Console} {first second : Nat} (hearing : console.hears first = true)
    (hearingToo : console.hears second = true) : first = second := by
  obtain ⟨connection, connected, rfl, -⟩ := hears_iff.mp hearing
  obtain ⟨other, known, rfl, -⟩ := hears_iff.mp hearingToo
  rw [Option.some.inj (connected.symm.trans known)]

end Console

open Console

/-- Frames have been said to the runtime, as far as it hears anything, and nothing else was
said.  Connection and channels serve as before. -/
structure Says (frames : List Frame) (before after : Console) : Prop where
  connection : after.client.connection = before.client.connection
  service : ∀ channel, after.serviceAt channel = before.serviceAt channel
  said : ∀ channel, after.said channel =
    before.said channel ++ if before.hears channel then frames else []

namespace Says

variable {frames others : List Frame} {first second third : Console} {aspects : List Aspect}

theorem accepts (speech : Says frames first second) (channel : Nat) :
    second.channelAccepts channel = first.channelAccepts channel := by
  rw [channelAccepts_eq, channelAccepts_eq, speech.service]

theorem hears (speech : Says frames first second) (channel : Nat) :
    second.hears channel = first.hears channel := by
  rw [Console.hears, Console.hears, speech.connection, speech.accepts]

theorem refl (console : Console) : Says [] console console :=
  ⟨rfl, fun _ => rfl, fun channel => by simp⟩

theorem trans (speech : Says frames first second) (reply : Says others second third) :
    Says (frames ++ others) first third where
  connection := reply.connection.trans speech.connection
  service channel := (reply.service channel).trans (speech.service channel)
  said channel := by
    rw [reply.said, speech.said, speech.hears, List.append_assoc]
    split <;> rfl

/-- Nothing is said where neither channels nor effects are touched. -/
theorem of_same (connection : second.client.connection = first.client.connection)
    (channels : second.channels = first.channels) (trace : second.trace = first.trace) :
    Says [] first second := by
  refine ⟨connection, fun channel => ?_, fun channel => ?_⟩
  · rw [serviceAt, channels, serviceAt]
  · rw [Console.said, channels, trace]
    simp [Console.said]

theorem of_changes (step : Changes aspects first second)
    (apart : [.connection, .channels, .trace].all (· ∉ aspects) = true) :
    Says [] first second :=
  of_same (step.kept apart .connection (by decide)) (step.kept apart .channels (by decide))
    (step.kept apart .trace (by decide))

theorem then_mute (speech : Says frames first second) (silence : Says [] second third) :
    Says frames first third := by
  simpa using speech.trans silence

/-- Something else was done first that is not heard. -/
theorem after_changes (step : Changes aspects first second) (speech : Says frames second third)
    (apart : [.connection, .channels, .trace].all (· ∉ aspects) = true) :
    Says frames first third :=
  (of_changes step apart).trans speech

/-- Something else is done afterwards that is not heard. -/
theorem then_changes (speech : Says frames first second) (step : Changes aspects second third)
    (apart : [.connection, .channels, .trace].all (· ∉ aspects) = true) :
    Says frames first third :=
  speech.then_mute (of_changes step apart)

theorem mute_trans (silence : Says [] first second) (more : Says [] second third) :
    Says [] first third :=
  silence.trans more

theorem mute_foldl {Item : Type} {step : Console → Item → Console}
    (each : ∀ console item, Says [] console (step console item)) (items : List Item)
    (console : Console) : Says [] console (items.foldl step console) := by
  induction items generalizing console with
  | nil => exact refl console
  | cons item items inductionHypothesis =>
      exact (each console item).mute_trans (inductionHypothesis _)

/-- Without a connection nobody hears anything. -/
theorem unheard (speech : Says frames first second)
    (disconnected : first.client.connection = none) : Says [] first second := by
  refine ⟨speech.connection, speech.service, fun channel => ?_⟩
  rw [speech.said, hears_of_disconnected disconnected]
  simp

end Says

namespace Console

section

variable {console : Console} {event : Event} {channel : Nat}

theorem saidBy_of_sublist
    (fewer : ((console.apply event).said channel).Sublist (console.said channel)) :
    console.saidBy channel event = [] := by
  unfold saidBy
  split
  · rfl
  · exact List.drop_eq_nil_of_le fewer.length_le

theorem saidBy_of_append {frames : List Frame} (notSent : ∀ name args, event ≠ .send name args)
    (more : (console.apply event).said channel = console.said channel ++ frames) :
    console.saidBy channel event = frames := by
  unfold saidBy
  split
  next name args => exact absurd rfl (notSent name args)
  next => rw [more, List.drop_left]

/-- Where nothing of a kind is said, the console says nothing of it by itself. -/
theorem filter_saidBy_of_speech {frames : List Frame} (kind : Frame → Bool)
    (speech : Says frames console (console.apply event)) (none : frames.filter kind = []) :
    (console.saidBy channel event).filter kind = [] := by
  by_cases sent : ∃ name args, event = .send name args
  · obtain ⟨name, args, rfl⟩ := sent
    rfl
  · rw [saidBy_of_append (fun name args same => sent ⟨name, args, same⟩) (speech.said channel)]
    split
    · exact none
    · rfl

end

/-! ### Effects and frames -/

/-- An effect by which no frame leaves is not heard. -/
theorem emit_speech (console : Console) {effect : Effect}
    (mute : ∀ channel, effect.frameOver? channel = none) :
    Says [] console (console.emit effect) := by
  refine ⟨rfl, fun _ => rfl, fun channel => ?_⟩
  simp [said, emit, mute channel]

theorem finish_speech (console : Console) (ticket : Nat) (outcome : Outcome) :
    Says [] console (console.finish ticket outcome) :=
  console.emit_speech fun _ => rfl

theorem sendOver_said (console : Console) (channel : Nat) (frame : Frame) (other : Nat) :
    (console.sendOver channel frame).1.said other =
      console.said other ++
        if channel = other ∧ console.channelAccepts channel = true then [frame] else [] := by
  cases accepts : console.channelAccepts channel with
  | false =>
      rw [sendOver_of_closed console channel frame accepts]
      simp
  | true =>
      unfold channelAccepts at accepts
      unfold sendOver
      cases known : console.channels[channel]? with
      | none => simp [known] at accepts
      | some found =>
          obtain ⟨inside, -⟩ := List.getElem?_eq_some_iff.mp known
          cases found with
          | direct taken =>
              obtain rfl : taken = true := by simpa [known, Channel.accepts] using accepts
              by_cases same : channel = other
              · subst same
                simp [said, emit, Effect.frameOver?, known, Channel.queue]
              · simp [said, emit, Effect.frameOver?, same]
          | wire served =>
              have serving : served.serving = true := by
                simpa [known, Channel.accepts] using accepts
              by_cases same : channel = other
              · subst same
                rw [said, said, known]
                simp [serving, inside, Channel.queue]
              · simp [said, serving, same]

theorem sendOver_service (console : Console) (channel : Nat) (frame : Frame) (other : Nat) :
    (console.sendOver channel frame).1.serviceAt other = console.serviceAt other := by
  unfold sendOver
  split
  next => rfl
  next wire known =>
      split
      next serving =>
          obtain ⟨inside, -⟩ := List.getElem?_eq_some_iff.mp known
          by_cases same : channel = other
          · subst same
            rw [serviceAt, serviceAt, known]
            simp [inside, Channel.service]
          · simp [serviceAt, same]
      next => rfl
  next => rfl

theorem sendFrame_speech (console : Console) (frame : Frame) :
    Says [frame] console (console.sendFrame frame) := by
  unfold sendFrame
  cases connected : console.client.connection with
  | none =>
      refine ⟨rfl, fun _ => rfl, fun channel => ?_⟩
      simp [hears_of_disconnected connected]
  | some connection =>
      refine ⟨(console.sendOver_changes _ _).same .connection (by decide),
        console.sendOver_service _ _, fun channel => ?_⟩
      dsimp only
      rw [sendOver_said]
      congr 1
      simp only [hears, connected, Option.map_some, Bool.and_eq_true, beq_iff_eq, Option.some.injEq]
      by_cases same : connection.channel = channel
      · subst same
        rfl
      · simp [same]

theorem send_speech (console : Console) (name : String) (args : List Json) :
    Says [.message name args] console (console.send name args) :=
  console.sendFrame_speech _

/-! ### The terminal -/

theorem listenerSeesLine_speech (console : Console) (change : LineChange)
    (listener : LineListener) : Says [] console (console.listenerSeesLine change listener) := by
  cases listener with
  | resolver id => exact .of_changes (console.resolverSeesLine_changes id change) (by decide)
  | guest label => exact console.emit_speech fun _ => rfl

theorem notify_speech (console : Console) (changes : List LineChange) :
    Says [] console (console.notify changes) := by
  refine .mute_foldl (fun console change => ?_) changes console
  refine .mute_foldl (fun console entry => ?_) console.terminal.listeners console
  exact console.listenerSeesLine_speech change entry.2

theorem withTerminal_speech (console : Console) (changed : Terminal × List LineChange) :
    Says [] console (console.withTerminal changed) :=
  have shown : Says [] console { console with terminal := changed.1 } :=
    .of_same rfl rfl rfl
  shown.mute_trans (notify_speech _ _)

theorem writeText_speech (console : Console) (text : String) :
    Says [] console (console.writeText text) :=
  console.withTerminal_speech _

theorem resize_speech (console : Console) (size : Size) :
    Says [] console (console.resize size).1 := by
  have reshaped := console.withTerminal_speech (console.terminal.resize size)
  unfold resize
  dsimp only
  split
  · exact reshaped.then_changes (onStream_changes _ _ _) (by decide)
  · exact reshaped

theorem pump_speech (console : Console) : Says [] console console.pump.1 := by
  unfold pump
  split
  next => exact .refl console
  next id _ =>
      have read : Says [] console (console.readStream id).1 :=
        .of_changes (console.readStream_changes id) (by decide)
      split
      next reached bytes result =>
          rw [result] at read
          dsimp only
          split
          · exact read
          · exact read.mute_trans (reached.withTerminal_speech _)
      next result =>
          rw [result] at read
          exact read

theorem addLineListener_speech (console : Console) (listener : LineListener) :
    Says [] console (console.addLineListener listener).1 := by
  have listening : Says [] console
      { console with terminal := (console.terminal.addListener listener).1 } :=
    .of_same rfl rfl rfl
  exact listening.mute_trans (.mute_foldl (fun console change =>
    console.listenerSeesLine_speech change listener) _ _)

/-! ### Calls and requests -/

theorem deliver_speech (console : Console) (answer : Except Failure Json) (waiter : Waiter) :
    Says [] console (console.deliver answer waiter) := by
  cases waiter with
  | validation resolver row generation link =>
      unfold deliver
      dsimp only
      split
      · exact .of_changes (console.setResolver_changes _ _) (by decide)
      · exact .refl console
  | opening ticket resolver link =>
      unfold deliver openLinkFile
      dsimp only
      split
      · split
        · have asked (path : String) : Says [] console
              (console.emit (.openFile path link.openLine true)) :=
            console.emit_speech fun _ => rfl
          split
          · exact (asked _).mute_trans (finish_speech _ _ _)
          · exact (asked _).mute_trans (finish_speech _ _ _)
        · exact console.finish_speech _ _
      · exact console.finish_speech _ _
      · exact console.finish_speech _ _
  | guest ticket expected =>
      unfold deliver
      dsimp only
      split
      · exact console.finish_speech _ _
      · exact console.finish_speech _ _

/-- A call is said under the next number. -/
theorem call_speech (console : Console) (name : String) (args : List Json) (waiter : Waiter) :
    Says [.call console.client.nextId name args] console (console.call name args waiter) := by
  unfold call
  cases connected : console.client.connection with
  | none =>
      have failed := console.deliver_speech (.error (.disconnected name)) waiter
      refine ⟨failed.connection, failed.service, fun channel => ?_⟩
      rw [failed.said, hears_of_disconnected connected]
      rfl
  | some connection =>
      have numbered : Says [] console (console.withClient console.client.withFreshId.1) :=
        .of_same rfl rfl rfl
      have sent := sendFrame_speech (console.withClient console.client.withFreshId.1)
        (.call console.client.withFreshId.2 name args)
      have reached : (console.withClient console.client.withFreshId.1).sendFrame
          (.call console.client.withFreshId.2 name args) =
          ((console.withClient console.client.withFreshId.1).sendOver connection.channel
            (.call console.client.withFreshId.2 name args)).1 := by
        rw [sendFrame, show (console.withClient console.client.withFreshId.1).client.connection =
          some connection from connected]
      rw [reached] at sent
      dsimp only
      split
      next result =>
          rw [result] at sent
          have waits (reached : Console) (pending : List PendingCall) : Changes [.pending] reached
              (reached.withClient { reached.client with pending }) := by
            refine ⟨fun aspect outside => ?_⟩
            cases aspect <;> first | rfl | exact absurd (by decide) outside
          exact (numbered.trans sent).then_changes (waits _ _) (by decide)
      next result =>
          rw [result] at sent
          exact (numbered.trans sent).then_mute (deliver_speech _ _ waiter)

/-- What code of the embedding program says while it handles a request. -/
def handlerSays : Handler → List Frame
  | .guest _ (some name) _ => [.message name []]
  | _ => []

theorem handle_speech (console : Console) (args : List Json) (handler : Handler) :
    Says (handlerSays handler) console (console.handle args handler).1 := by
  cases handler with
  | refreshWorkspace => exact console.emit_speech fun _ => rfl
  | clearTerminal => exact console.withTerminal_speech _
  | reportCursor => exact console.writeText_speech _
  | showLint =>
      unfold handle showLint
      dsimp only
      split
      · exact console.emit_speech fun _ => rfl
      · exact .refl console
  | clearLint => exact console.emit_speech fun _ => rfl
  | guest label sends reply =>
      have noted : Says [] console (console.emit (.guestHandled label args)) :=
        console.emit_speech fun _ => rfl
      cases sends with
      | none => exact noted
      | some name => exact noted.trans (send_speech _ name [])

/-- What is said where the runtime asks for something by name, before it is answered. -/
def requestSays (console : Console) (name : String) : List Frame :=
  (console.client.handler? name).elim [] handlerSays

theorem dispatch_speech (console : Console) (name : String) (args : List Json) :
    Says (console.requestSays name) console (console.dispatch name args).1 := by
  unfold dispatch requestSays
  cases console.client.handler? name with
  | none => exact .refl console
  | some handler => exact console.handle_speech args handler

/-- What is said in reply to a frame of the runtime. -/
def frameSays (console : Console) : Frame → List Frame
  | .message name _ => console.requestSays name
  | .call id name args =>
      console.requestSays name ++ [replyFrame id (console.dispatch name args).2]
  | .response .. | .error .. => []

theorem handleFrame_speech (console : Console) (frame : Frame) :
    Says (console.frameSays frame) console (console.handleFrame frame) := by
  cases frame with
  | message name args => exact console.dispatch_speech name args
  | call id name args => exact (console.dispatch_speech name args).trans (sendFrame_speech _ _)
  | response id result => exact .of_changes (console.complete_changes id _) (by decide)
  | error id text => exact .of_changes (console.complete_changes id _) (by decide)

/-! ### Settings and modules -/

/-- What the runtime is told about the prompt. -/
def promptNotice (prompt : String) : Frame :=
  .message "changeprompt" [.str (prompt ++ " ")]

/-- What is said when a listener is told about a part of the settings. -/
def noticeSays (notice : SettingsListener × Json) : List Frame :=
  match notice with
  | (.prompt, .str prompt) => [promptNotice prompt]
  | _ => []

theorem settingsListenerSees_speech (console : Console) (notice : SettingsListener × Json) :
    Says (noticeSays notice) console (console.settingsListenerSees notice.2 notice.1) := by
  obtain ⟨listener, part⟩ := notice
  cases listener with
  | prompt =>
      cases part with
      | str prompt => exact console.send_speech _ _
      | _ => exact .refl console
  | keystrokes kind => exact .of_same rfl rfl rfl
  | guest label => exact console.emit_speech fun _ => rfl

theorem observePrompt_speech (console : Console) :
    Says [promptNotice console.settings.current.prompt] console console.observePrompt.1 := by
  have told := console.send_speech "changeprompt" [.str (console.settings.current.prompt ++ " ")]
  exact told.then_mute (.of_same rfl rfl rfl)

/-- What is said when the settings are replaced. -/
def updateSays (console : Console) (settings : Settings) : List Frame :=
  (console.settings.update settings).2.flatMap noticeSays

theorem updateSays_prompt (console : Console) (settings : Settings) :
    ∀ frame ∈ console.updateSays settings, ∃ prompt, frame = promptNotice prompt := by
  intro frame member
  obtain ⟨notice, -, said⟩ := List.mem_flatMap.mp member
  unfold noticeSays at said
  split at said
  next prompt => exact ⟨prompt, List.mem_singleton.mp said⟩
  next => cases said

theorem updateSettings_speech (console : Console) (settings : Settings) :
    Says (console.updateSays settings) console (console.updateSettings settings) := by
  have told : ∀ (notices : List (SettingsListener × Json)) (console : Console),
      Says (notices.flatMap noticeSays) console (notices.foldl
        (fun console notice => console.settingsListenerSees notice.2 notice.1) console) := by
    intro notices
    induction notices with
    | nil => exact fun console => .refl console
    | cons notice notices inductionHypothesis =>
        exact fun console => (console.settingsListenerSees_speech notice).trans
          (inductionHypothesis _)
  have replaced : Says [] console
      { console with settings := (console.settings.update settings).1 } :=
    .of_same rfl rfl rfl
  exact replaced.trans (told _ _)

/-- What the runtime is told about a module and the width of the terminal. -/
def moduleNotice (name : String) (cols : Nat) : Frame :=
  .message "changemodule" [.obj [("mod", .str name), ("cols", .int cols)]]

/-- What is said when a debouncer does what it put off. -/
def actionSays (console : Console) : DebouncedAction → List Frame
  | .reportModule => [moduleNotice console.modules.current console.terminal.cols.toNat]
  | .guest _ => []

theorem actionSays_module (console : Console) (action : DebouncedAction) :
    ∀ frame ∈ console.actionSays action, ∃ name cols, frame = moduleNotice name cols := by
  cases action with
  | reportModule =>
      intro frame member
      exact ⟨_, _, List.mem_singleton.mp member⟩
  | guest value => exact fun _ member => absurd member List.not_mem_nil

theorem runDebounced_speech (console : Console) (action : DebouncedAction) :
    Says (console.actionSays action) console (console.runDebounced action) := by
  cases action with
  | reportModule => exact console.send_speech _ _
  | guest value => exact console.emit_speech fun _ => rfl

theorem openCycle_speech (console : Console) :
    Says [promptNotice console.settings.current.prompt] console console.openCycle.1 := by
  unfold openCycle
  dsimp only
  refine .then_changes ?_ (listenModules_changes _ _) (by decide)
  refine .then_changes ?_ (addDebouncer_changes _ _) (by decide)
  refine .then_mute ?_ (addLineListener_speech _ _)
  exact console.observePrompt_speech.then_changes (addResolver_changes _) (by decide)

/-! ### The session -/

theorem replayEarly_speech (console : Console) (process : Nat) :
    Says [] console (console.replayEarly process) :=
  .after_changes (console.takeEarly_changes process) (.mute_foldl writeText_speech _ _) (by decide)

theorem letGo_speech (console : Console) : Says [] console console.letGo :=
  .of_changes console.letGo_changes (by decide)

theorem showProcess_speech (console : Console) (process : Nat) :
    Says [] console (console.showProcess process) :=
  (console.letGo_speech.then_changes (attachProcess_changes _ process) (by decide)).mute_trans
    (replayEarly_speech _ process)

theorem beginCycle_speech (console : Console) :
    Says [promptNotice console.settings.current.prompt] console console.beginCycle := by
  refine .then_changes ?_ (withSessionState_changes _ _) (by decide)
  refine .then_changes ?_ (dispose_changes _ _) (by decide)
  exact console.openCycle_speech.then_changes (withCycle_changes _ _) (by decide)

theorem sessionDetached_speech (console : Console) : Says [] console console.sessionDetached := by
  unfold sessionDetached
  split
  · refine .then_changes ?_ (withSessionState_changes _ _) (by decide)
    refine .then_changes ?_ (resetPending_changes _) (by decide)
    refine .then_changes ?_ (teardownCycle_changes _) (by decide)
    exact .after_changes console.detach_changes (writeText_speech _ _) (by decide)
  · exact .refl console

theorem bootFailed_speech (console : Console) (failure : Failure) :
    Says [] console (console.bootFailed failure) := by
  unfold bootFailed
  split
  · exact .after_changes (withSessionState_changes _ _) (writeText_speech _ _) (by decide)
  · exact .refl console

theorem startAsked_speech (console : Console) :
    Says [] console ((console.withSessionState .starting).writeText startingMessage) :=
  .after_changes (withSessionState_changes _ _) (writeText_speech _ _) (by decide)

/-- A key that does not start the runtime says nothing to it. -/
theorem pressKey_speech {console : Console} {key : KeyEvent}
    (unasked : console.asksSession key = false) : Says [] console (console.pressKey key).1 := by
  unfold pressKey pressKeyIn
  split
  next admitted =>
      cases attached : console.terminal.stream with
      | some stream =>
          have written : Says [] console
              (console.onStream stream fun stream => stream.write key.bytes).1 :=
            .of_changes (console.onStream_changes stream _) (by decide)
          dsimp only
          split
          next result => rw [result] at written; exact written
          next result => rw [result] at written; exact written
      | none =>
          dsimp only
          split
          next enter =>
              cases asked : console.terminal.startHandler with
              | none => exact .refl console
              | some handler =>
                  cases handler with
                  | session => simp [asksSession, admitted, attached, enter, asked] at unasked
                  | guest label => exact console.emit_speech fun _ => rfl
          next => exact .refl console
  next => exact .refl console

/-! ### Auxiliary shells -/

theorem askDirectory_speech (console : Console) : Says [] console console.askDirectory.1 := by
  have asked : Says [] console { console with asked := console.asked + 1 } :=
    .of_same rfl rfl rfl
  have told : Says [] console
      ({ console with asked := console.asked + 1 }.emit (.askedDirectory console.host.roots)) :=
    asked.mute_trans (emit_speech _ fun _ => rfl)
  unfold askDirectory
  dsimp only
  split <;> exact told

theorem startShell_speech (console : Console) (cwd : String) :
    Says [] console (console.startShell cwd).1 := by
  have told : Says [] console
      (console.emit (.startedShell console.settings.current.shell .auxiliary cwd)) :=
    console.emit_speech fun _ => rfl
  unfold startShell
  dsimp only
  split
  · exact told
  · exact told.then_changes (addStream_changes _ _) (by decide)

theorem startChosen_speech (console : Console) (choice : Option String) :
    Says [] console (console.startChosen choice).1 := by
  unfold startChosen
  split
  · exact .refl console
  next cwd _ =>
      have started := console.startShell_speech cwd
      split <;> simp_all only

theorem attachShell_speech (console : Console) (terminal : Terminal) (stream : Nat)
    (cwd : String) : Says [] console (console.attachShell terminal stream cwd).1 :=
  .of_changes (console.tryOnStream_changes _ _) (by decide)

theorem register_speech (console : Console) (aux : AuxiliaryTerminal) :
    Says [] console (console.register aux) :=
  .of_same rfl rfl rfl

theorem admitRestored_speech (console : Console) (terminal : Terminal) (stream : Nat)
    (cwd : String) : Says [] console (console.admitRestored terminal stream cwd).1 := by
  have attached := console.attachShell_speech terminal stream cwd
  unfold admitRestored
  dsimp only
  split
  · exact attached.then_changes (tryOnStream_changes _ _ _) (by decide)
  · exact attached.mute_trans (register_speech _ _)

theorem finishShell_speech (console : Console) (ticket : Nat) (choice : Option String) :
    Says [] console (console.finishShell ticket choice) := by
  have started := console.startChosen_speech choice
  unfold finishShell
  split
  next result => rw [result] at started; exact started.mute_trans (finish_speech _ _ _)
  next result => rw [result] at started; exact started.mute_trans (finish_speech _ _ _)

theorem openTerminal_speech (console : Console) (stream : Nat) (cwd : String) :
    Says [] console (console.openTerminal stream cwd).1 := by
  unfold openTerminal
  dsimp only
  refine .mute_trans ?_ (register_speech _ _)
  refine .mute_trans ?_ (attachShell_speech _ _ _ cwd)
  exact .of_same rfl rfl rfl

theorem finishTerminal_speech (console : Console) (ticket : Nat) (byCommand : Bool)
    (choice : Option String) :
    Says [] console (console.finishTerminal ticket byCommand choice) := by
  have started := console.startChosen_speech choice
  unfold finishTerminal
  split
  next reached stream cwd result =>
      rw [result] at started
      exact (started.mute_trans (reached.openTerminal_speech stream cwd)).mute_trans
        (finish_speech _ _ _)
  next result => rw [result] at started; exact started.mute_trans (finish_speech _ _ _)

theorem restoreChosen_speech (console : Console) (terminal : Terminal) (choice : Option String) :
    Says [] console (console.restoreChosen terminal choice).1 := by
  have started := console.startChosen_speech choice
  unfold restoreChosen
  split
  next result => rw [result] at started; exact started.mute_trans (admitRestored_speech _ _ _ _)
  next result => rw [result] at started; exact started

theorem restoreIn_speech (console : Console) (terminal : Terminal) (cwd : String) :
    Says [] console (console.restoreIn terminal cwd).1 := by
  have started := console.startShell_speech (Directory.expandHome console.host.home cwd)
  unfold restoreIn
  dsimp only
  split
  next result => rw [result] at started; exact started.mute_trans (admitRestored_speech _ _ _ _)
  next result => rw [result] at started; exact started

theorem restoreFrom_speech (console : Console) (ticket count : Nat)
    (items : List PersistedTerminal) :
    Says [] console (console.restoreFrom ticket count items) := by
  induction items generalizing console count with
  | nil => exact console.finish_speech _ _
  | cons item rest inductionHypothesis =>
      unfold restoreFrom
      split
      · exact inductionHypothesis ..
      · dsimp only
        split
        · exact (restoreIn_speech ..).mute_trans (inductionHypothesis ..)
        · have asked := console.askDirectory_speech
          split
          next result =>
              rw [result] at asked
              exact (asked.mute_trans (restoreChosen_speech ..)).mute_trans (inductionHypothesis ..)
          next reached result =>
              rw [result] at asked
              exact asked.mute_trans (.of_same rfl rfl rfl)

theorem resumeErrand_speech (console : Console) (choice : Option String) (errand : Errand) :
    Says [] console (console.resumeErrand choice errand) := by
  cases errand with
  | shell ticket => exact console.finishShell_speech ticket choice
  | newTerminal ticket byCommand => exact console.finishTerminal_speech ticket byCommand choice
  | restore ticket terminal rest count =>
      exact (restoreChosen_speech ..).mute_trans (restoreFrom_speech ..)

end Console

end RuntimeConsole
