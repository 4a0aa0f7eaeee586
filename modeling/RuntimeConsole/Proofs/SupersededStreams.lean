/-
Module: RuntimeConsole.Proofs.SupersededStreams
Purpose: The byte stream of a connection that has been ended or replaced: serving it leaves
  the connection there is alone, but a frame that is still read from it is taken for one of
  the runtime that is connected by then.
Main exports:
  Console.Superseded, Console.Inert, StreamSuperseded, stream_superseded
-/
import RuntimeConsole.Proofs.ChannelSuccession

namespace RuntimeConsole

namespace Console

/-! ### Connections that have been superseded -/

/-- The connection stays in an event, or is renewed. -/
theorem CallStep.connection_cases {before after : Console} {event : Event}
    (step : CallStep before event after) :
    after.client.connection = before.client.connection ∨ Renewed before after := by
  cases step with
  | kept _ _ kept _ => exact .inl kept.connection
  | placed _ _ placed => exact .inl placed.connection
  | answered _ _ _ _ _ _ connection _ _ _ _ => exact .inl connection
  | reset _ connection _ _ _ _ => exact .inl connection
  | cut _ cut => exact .inr cut.connection
  | passedOn _ _ _ _ _ connection _ _ _ _ => exact .inl connection

/-- A connection is not there any more: the one there is, if any, has another number and
another channel, and its own channel serves nothing else. -/
structure Superseded (connection : Connection) (console : Console) : Prop where
  past : Past connection.channel console
  numbered : connection.id < console.client.nextId
  replaced : ∀ current, console.client.connection = some current → current.id ≠ connection.id
  own : ∃ number, (console.serviceAt connection.channel).map Prod.fst = some number ∧
    ∀ id, number = some id → id = connection.id

variable {console : Console} {connection : Connection}

theorem Superseded.step (superseded : Superseded connection console) {event : Event}
    (ran : (console.apply event).overrun = false) :
    Superseded connection (console.apply event) := by
  have step := console.callStep_apply event ran
  refine ⟨superseded.past.step event, Nat.lt_of_lt_of_le superseded.numbered step.nextId,
    fun current connected => ?_, ?_⟩
  · rcases step.connection_cases with same | renewed
    · exact superseded.replaced current (same.symm.trans connected)
    · exact Nat.ne_of_gt (Nat.lt_of_lt_of_le superseded.numbered (renewed current connected))
  · rw [(console.apply_onward event).number _ superseded.past.there]
    exact superseded.own

theorem Superseded.run (superseded : Superseded connection console) (events : List Event)
    (ran : (console.run events).overrun = false) :
    Superseded connection (console.run events) := by
  induction events generalizing console with
  | nil => exact superseded
  | cons event events inductionHypothesis =>
      exact inductionHypothesis (superseded.step (overrun_of_run events ran)) ran

/-- A connection that is lost in an event is superseded. -/
theorem Superseded.of_lost (served : console.Served) (ordered : console.CallsInOrder)
    (connected : console.client.connection = some connection) {event : Event}
    (lost : (console.apply event).client.connection ≠ some connection)
    (ran : (console.apply event).overrun = false) :
    Superseded connection (console.apply event) := by
  have step := console.callStep_apply event ran
  have numbered := ordered.connection connection connected
  refine ⟨.of_lost served connected lost, Nat.lt_of_lt_of_le numbered step.nextId,
    fun current found => ?_, ?_⟩
  · rcases step.connection_cases with same | renewed
    · exact absurd (same.trans connected) lost
    · exact Nat.ne_of_gt (Nat.lt_of_lt_of_le numbered (renewed current found))
  · obtain ⟨number, accepts, service, own⟩ := served connection connected
    rw [(console.apply_onward event).number _ (served.lt connected), service]
    exact ⟨number, rfl, own⟩

/-! ### Serving a stream without a frame -/

/-- Nothing happens but on one channel: frames leave over it, or it is closed. -/
structure Inert (channel : Nat) (before after : Console) : Prop where
  step : Changes [.channels, .trace] before after
  others : ∀ other, other ≠ channel → after.channels[other]? = before.channels[other]?
  effects : ∃ effects, after.trace = before.trace ++ effects ∧
    ∀ effect ∈ effects, effect = .hungUp channel ∨ ∃ frame, effect = .sent channel frame

namespace Inert

variable {channel : Nat} {first second third : Console}

theorem refl (channel : Nat) (console : Console) : Inert channel console console :=
  ⟨.refl _ console, fun _ _ => rfl, [], by simp, by simp⟩

theorem trans (step : Inert channel first second) (next : Inert channel second third) :
    Inert channel first third := by
  obtain ⟨effects, trace, own⟩ := step.effects
  obtain ⟨more, traceToo, ownToo⟩ := next.effects
  refine ⟨step.step.trans next.step,
    fun other different => (next.others other different).trans (step.others other different),
    effects ++ more, by rw [traceToo, trace, List.append_assoc], fun effect member => ?_⟩
  exact (List.mem_append.mp member).elim (own effect) (ownToo effect)

theorem setWire (console : Console) (channel : Nat) (wire : Wire) :
    Inert channel console (console.setWire channel wire) :=
  ⟨(console.setWire_changes channel wire).mono (by decide),
    fun other different => List.getElem?_set_ne different.symm, [], by simp [Console.setWire],
    by simp⟩

theorem emit (console : Console) {effect : Effect} (noBoot : effect.isBoot = false)
    (own : effect = .hungUp channel ∨ ∃ frame, effect = .sent channel frame) :
    Inert channel console (console.emit effect) :=
  ⟨(console.emit_changes effect noBoot).mono (by decide), fun _ _ => rfl, [effect], rfl,
    by simpa using own⟩

end Inert

theorem writeWire_inert (console : Console) (channel : Nat) :
    Inert channel console (console.writeWire channel) := by
  unfold writeWire
  split
  next => exact .refl channel console
  next wire _ =>
      split
      next => exact .refl channel console
      next frame rest _ =>
          have written := Inert.setWire console channel { wire with outbound := rest }
          dsimp only
          split
          · exact written.trans (.emit _ rfl (.inr ⟨frame, rfl⟩))
          · exact written

/-- The end of a stream whose connection has been superseded. -/
theorem finishWire_inert {channel : Nat} {wire : Wire}
    (served : console.servedWire? channel = some wire)
    (superseded : console.client.connection.map Connection.id ≠ some wire.connection) :
    Inert channel console (console.finishWire channel) := by
  unfold finishWire
  rw [served]
  dsimp only
  have closed := Inert.setWire console channel { wire with serving := false }
  generalize console.setWire channel { wire with serving := false } = reached at closed ⊢
  have hungUp : Inert channel console
      (if wire.remoteOpen then reached.emit (.hungUp channel) else reached) := by
    split
    · exact closed.trans (.emit _ rfl (.inl rfl))
    · exact closed
  have connection : (if wire.remoteOpen then reached.emit (.hungUp channel)
      else reached).client.connection = console.client.connection :=
    hungUp.step.same .connection (by decide)
  rwa [endConnection, connection, if_neg superseded]

theorem Superseded.ne_number (superseded : Superseded connection console) {wire : Wire}
    (known : console.channels[connection.channel]? = some (.wire wire)) :
    console.client.connection.map Connection.id ≠ some wire.connection := by
  obtain ⟨number, service, own⟩ := superseded.own
  rw [serviceAt_eq known, Option.map_some, Option.some.injEq] at service
  intro current
  obtain ⟨found, connected, same⟩ := Option.map_eq_some_iff.mp current
  exact superseded.replaced found connected (same.trans (own _ service.symm))

/-- What is done for a byte stream. -/
inductive Tends (channel : Nat) : Event → Prop where
  | read : Tends channel (.work (.read channel))
  | write : Tends channel (.work (.write channel))
  | finish : Tends channel (.work (.finish channel))

/-- Serving the stream of a superseded connection touches nothing else, as long as no frame
is read from it. -/
theorem Superseded.inert (superseded : Superseded connection console) {event : Event}
    (tends : Tends connection.channel event) (nothing : console.inbound? event = none) :
    Inert connection.channel console (console.apply event) := by
  cases tends with
  | write => exact console.writeWire_inert _
  | finish =>
      change Inert _ console (console.finishWire _)
      cases served : console.servedWire? connection.channel with
      | none =>
          rw [finishWire, served]
          exact .refl _ console
      | some wire =>
          exact finishWire_inert served (superseded.ne_number (servedWire?_eq served).1)
  | read =>
      change Inert _ console (console.readWire _)
      unfold readWire
      cases served : console.servedWire? connection.channel with
      | none => exact .refl _ console
      | some wire =>
          obtain ⟨known, -⟩ := servedWire?_eq served
          obtain ⟨number, serving⟩ := nextLine_connection wire
          dsimp only
          generalize found : wire.nextLine = next at number serving ⊢
          obtain ⟨input, rest⟩ := next
          dsimp only at number serving ⊢
          cases input with
          | waiting => exact .refl _ console
          | finished => exact finishWire_inert served (superseded.ne_number known)
          | line bytes =>
              have put := Inert.setWire console connection.channel rest
              dsimp only
              cases content : readLine bytes with
              | frame frame => simp [inbound?, served, found, content] at nothing
              | nothing => exact put
              | malformed =>
                  refine put.trans (finishWire_inert (servedWire?_setWire served serving) ?_)
                  exact number ▸ superseded.ne_number known

/-! ### Frames that are still read -/

theorem closed_run {channel : Nat} (there : channel < console.channels.length)
    (closed : console.channelAccepts channel = false) (events : List Event) :
    (console.run events).channelAccepts channel = false := by
  induction events generalizing console with
  | nil => exact closed
  | cons event events inductionHypothesis =>
      have onward := console.apply_onward event
      refine inductionHypothesis (Nat.lt_of_lt_of_le there onward.channels) ?_
      rw [← Bool.not_eq_true] at closed ⊢
      exact fun accepts => closed (onward.accepts channel there accepts)

theorem servedWire?_of_closed {channel : Nat} (closed : console.channelAccepts channel = false) :
    console.servedWire? channel = none := by
  unfold servedWire?
  split
  next wire known =>
      have serving : wire.serving = false := by
        rwa [channelAccepts_eq, serviceAt_eq known] at closed
      rw [serving]
      rfl
  next => rfl

/-- A frame that is read is handled as if it had come in by itself. -/
theorem readWire_of_inbound {channel : Nat} {frame : Frame}
    (brought : console.inbound? (.work (.read channel)) = some frame) :
    ∃ rest, console.apply (.work (.read channel)) =
        (console.setWire channel rest).handleFrame frame ∧
      Says [] console (console.setWire channel rest) := by
  change ∃ rest, console.readWire channel = _ ∧ _
  unfold readWire
  cases served : console.servedWire? channel with
  | none => simp [inbound?, served] at brought
  | some wire =>
      obtain ⟨known, -⟩ := servedWire?_eq served
      obtain ⟨number, serving⟩ := nextLine_connection wire
      have outbound := nextLine_outbound wire
      dsimp only
      cases found : wire.nextLine with
      | mk input rest =>
          rw [found] at number serving outbound
          cases input with
          | finished => simp [inbound?, served, found] at brought
          | waiting => simp [inbound?, served, found] at brought
          | line bytes =>
              cases content : readLine bytes with
              | nothing => simp [inbound?, served, found, content] at brought
              | malformed => simp [inbound?, served, found, content] at brought
              | frame read =>
                  obtain rfl : read = frame := by
                    simpa [inbound?, served, found, content] using brought
                  exact ⟨rest, by simp [content],
                    console.setWire_speech known number serving outbound⟩

/-- The number of the call a frame answers, if it answers one. -/
def replyTo? : Frame → Option Nat
  | .response id _ | .error id _ => some id
  | .message .. | .call .. => none

/-- An answer to a call that does not wait is dropped. -/
theorem handleFrame_late {frame : Frame} {id : Nat} (reply : replyTo? frame = some id)
    (unawaited : ∀ call ∈ console.client.pending, call.id ≠ id) :
    console.handleFrame frame = console := by
  have nobody : console.client.pendingCall? id = none :=
    List.find?_eq_none.mpr fun call waits => by simpa using unawaited call waits
  have dropped (answer : PendingCall → Except Failure Json) :
      console.complete id answer = console := by
    rw [complete, nobody]
  cases frame with
  | message name args => cases reply
  | call number name args => cases reply
  | response number result =>
      obtain rfl : number = id := Option.some.inj reply
      exact dropped _
  | error number text =>
      obtain rfl : number = id := Option.some.inj reply
      exact dropped _

/-- What a frame asks for by name, if it asks for something. -/
def request? : Frame → Option (String × List Json)
  | .message name args | .call _ name args => some (name, args)
  | .response .. | .error .. => none

/-- Code of the embedding program that handles requests is run by whatever frame asks for
it. -/
theorem handleFrame_runs {label : Json} {sends : Option String}
    {reply : List Json → Except Failure Json} {frame : Frame} {name : String} {args : List Json}
    (asked : request? frame = some (name, args))
    (handler : console.client.handler? name = some (.guest label sends reply)) :
    (console.handleFrame frame).trace.count (.guestHandled label args) =
      console.trace.count (.guestHandled label args) + 1 := by
  have sent (console : Console) (frame : Frame) :
      (console.sendFrame frame).trace.count (.guestHandled label args) =
        console.trace.count (.guestHandled label args) := by
    unfold sendFrame sendOver
    split
    · split
      · simp [emit]
      · split <;> rfl
      · rfl
    · rfl
  have dispatched : (console.dispatch name args).1.trace.count (.guestHandled label args) =
      console.trace.count (.guestHandled label args) + 1 := by
    unfold dispatch
    rw [handler]
    unfold handle
    cases sends with
    | none => simp [emit]
    | some name => simp [send, sent, emit]
  cases frame with
  | message other values =>
      obtain ⟨rfl, rfl⟩ : other = name ∧ values = args := by simpa [request?] using asked
      exact dispatched
  | call id other values =>
      obtain ⟨rfl, rfl⟩ : other = name ∧ values = args := by simpa [request?] using asked
      exact (sent _ _).trans dispatched
  | response id result => cases asked
  | error id text => cases asked

end Console

open Console

/-- The byte stream of a connection after an event in which the connection was ended or
replaced, and after whatever came later. -/
structure StreamSuperseded (connection : Connection) (lost now : Console) : Prop where
  /-- The connection never comes back, neither under its number nor on its channel. -/
  gone : ∀ current, now.client.connection = some current →
    current.id ≠ connection.id ∧ current.channel ≠ connection.channel
  /-- Nothing more is accepted for it. -/
  silent : ∀ event, ((now.apply event).said connection.channel).Sublist
    (now.said connection.channel)
  /-- Writing to its stream, ending it, and reading what is no frame, concern nothing but
  this stream. -/
  inert : ∀ event, Tends connection.channel event → now.inbound? event = none →
    Inert connection.channel now (now.apply event)
  /-- Once its service has ended, nothing is read from the stream any more. -/
  finished : now.channelAccepts connection.channel = false → ∀ events,
    (now.run events).inbound? (.work (.read connection.channel)) = none
  /-- A frame that is still read from it is handled as if it came from the runtime that is
  connected now, and what is said in reply is said to that one. -/
  mistaken : ∀ frame, now.inbound? (.work (.read connection.channel)) = some frame →
    ∃ rest, now.apply (.work (.read connection.channel)) =
        (now.setWire connection.channel rest).handleFrame frame ∧
      Says ((now.setWire connection.channel rest).frameSays frame) now
        (now.apply (.work (.read connection.channel)))
  /-- In particular it runs what the embedding program has registered for it. -/
  handled : ∀ frame name args label sends reply,
    now.inbound? (.work (.read connection.channel)) = some frame →
    request? frame = some (name, args) →
    now.client.handler? name = some (.guest label sends reply) →
      (now.apply (.work (.read connection.channel))).trace.count (.guestHandled label args) =
        now.trace.count (.guestHandled label args) + 1
  /-- An answer to a call of the lost connection, which has a number given away by then, is
  dropped. -/
  late : ∀ frame id, now.inbound? (.work (.read connection.channel)) = some frame →
    replyTo? frame = some id → id < lost.client.nextId →
      Inert connection.channel now (now.apply (.work (.read connection.channel)))

/-- What has been ended or replaced is inert but for the frames that are still read from its
stream.  Whoever observes connections may use the client while that happens, as long as
observers do not call each other for ever. -/
theorem stream_superseded (start : Console) (earlier later : List Event) (event : Event)
    (connection : Connection) (free : start.CallFree)
    (connected : (start.run earlier).client.connection = some connection)
    (lost : (start.run (earlier ++ [event])).client.connection ≠ some connection)
    (ran : (start.run (earlier ++ [event] ++ later)).overrun = false) :
    StreamSuperseded connection (start.run (earlier ++ [event]))
      (start.run (earlier ++ [event] ++ later)) := by
  rw [run_append _ (earlier ++ [event])] at ran ⊢
  rw [run_concat] at lost ran ⊢
  have lostRan := overrun_of_run later ran
  have beforeRan := ((start.run earlier).callStep_apply event lostRan).overrun lostRan
  have ordered := free.inOrder.run earlier beforeRan
  have served := (Served.of_disconnected free.connection).run earlier
  have superseded := Superseded.of_lost served ordered connected lost lostRan
  have step := (start.run earlier).callStep_apply event lostRan
  have nobody : ((start.run earlier).apply event).client.pending = [] := by
    cases step with
    | cut _ cut => exact cut.pending ordered.disconnected
    | kept _ _ kept _ => exact absurd (kept.connection.trans connected) lost
    | placed _ _ placed => exact absurd (placed.connection.trans connected) lost
    | answered _ _ _ _ _ _ same _ _ _ _ => exact absurd (same.trans connected) lost
    | reset _ same _ _ _ _ => exact absurd (same.trans connected) lost
    | passedOn _ _ _ _ _ same _ _ _ _ => exact absurd (same.trans connected) lost
  have lostOrdered := ordered.step step
  have unawaited (id : Nat) (given : id < ((start.run earlier).apply event).client.nextId) :=
    unawaited_run lostOrdered given (by simp [nobody]) later ran
  generalize (start.run earlier).apply event = lostAt at superseded unawaited ran ⊢
  have still := superseded.run later ran
  generalize lostAt.run later = now at still unawaited ⊢
  exact {
    gone := fun current found => ⟨still.replaced current found, still.past.apart current found⟩
    silent := fun event => (now.apply_onward event).said _ still.past.there still.past.deaf
    inert := fun event tends nothing => still.inert tends nothing
    finished := fun closed events => by
      have never := closed_run still.past.there closed events
      simp [inbound?, servedWire?_of_closed never]
    mistaken := fun frame brought => by
      obtain ⟨rest, reached, silence⟩ := readWire_of_inbound brought
      refine ⟨rest, reached, ?_⟩
      rw [reached]
      exact silence.trans (handleFrame_speech _ frame)
    handled := fun frame name args label sends reply brought asked handler => by
      obtain ⟨rest, reached, -⟩ := readWire_of_inbound brought
      rw [reached]
      exact handleFrame_runs asked handler
    late := fun frame id brought reply given => by
      obtain ⟨rest, reached, -⟩ := readWire_of_inbound brought
      have dropped := handleFrame_late reply (show ∀ call ∈
        (now.setWire connection.channel rest).client.pending, call.id ≠ id from unawaited id given)
      rw [reached, dropped]
      exact .setWire now connection.channel rest }

/-- A process whose frames travel over a byte stream. -/
def ProcessSpec.streamed : ProcessSpec := ⟨.fresh .none, none, true⟩

/-- A console on which the embedding program handles one request. -/
def Console.attentive : Console :=
  (Console.bare ⟨2, 20⟩).withClient
    ((Console.bare ⟨2, 20⟩).client.onMessage "note" (.guest .null none fun _ => .ok (.int 1))).1

/-- A runtime asks for something, and gives way to another before it is read: the handler
runs all the same, and the other runtime gets the reply. -/
theorem stream_superseded_mistaken :
    let earlier : List Event :=
      [.connect .streamed, .remoteWrites 0 (writeLine (.call 9 "note" []))]
    let lost := Console.attentive.run (earlier ++ [.connect .streamed])
    let now := Console.attentive.run (earlier ++ [.connect .streamed] ++ [])
    StreamSuperseded ⟨2, 0, 0⟩ lost now ∧ now.client.connection = some ⟨3, 1, 1⟩ ∧
      now.inbound? (.work (.read 0)) = some (.call 9 "note" []) ∧
      (now.apply (.work (.read 0))).trace = [.guestHandled .null []] ∧
      (now.apply (.work (.read 0))).said 1 = [.response 9 (.int 1)] :=
  ⟨stream_superseded .attentive
      [.connect .streamed, .remoteWrites 0 (writeLine (.call 9 "note" []))] []
      (.connect .streamed) ⟨2, 0, 0⟩ ⟨rfl, rfl, rfl⟩ (by decide +kernel) (by decide +kernel)
      (by decide +kernel),
    by decide +kernel, by decide +kernel, by decide +kernel, by decide +kernel⟩

end RuntimeConsole
