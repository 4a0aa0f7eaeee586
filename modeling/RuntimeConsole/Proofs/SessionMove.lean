/-
Module: RuntimeConsole.Proofs.SessionMove
Purpose: What each event comes to for the session: nothing, a start, a failure, or a
  connection that begins or ends.
Main exports:
  Console.SessionMove, Console.Aside, Console.sessionMove_apply
-/
import RuntimeConsole.Proofs.ScreenActs

namespace RuntimeConsole

/-- Whether an event acts on the screen, or on what is asked of the runtime, whoever there
is. -/
def Event.direct : Event → Bool
  | .resetPending | .call .. | .openLink .. | .write _ | .pump | .clear | .resize _
  | .work .task => true
  | _ => false

namespace Console

/-- The aspects an event can change that is of no concern to the session. -/
def asideAspects : List Aspect :=
  [.pending, .nextId, .booter, .channels, .processes, .streams, .launches, .display, .scanned,
    .selection, .settings, .allowLists, .module, .resolvers, .debouncers, .shells, .tasks,
    .answers, .now, .trace]

/-- The aspects on which links depend: the screen, the resolvers, what is asked of the
runtime, and where the console runs. -/
def linkAspects : List Aspect :=
  [.display, .scanned, .living, .resolvers, .tasks, .pending, .host]

/-- How an event comes about that is of no concern to the session. -/
inductive Aside (before : Console) (event : Event) (after : Console) : Prop where
  | quiet {aspects : List Aspect} (step : Changes aspects before after)
      (apart : linkAspects.all (· ∉ aspects) = true)
  /-- A frame comes in, after something else was done. -/
  | hears (ready : Console) (frame : Frame) (readied : Changes [.channels] before ready)
      (reached : after = ready.handleFrame frame)
  | acts (direct : event.direct = true)

/-- What an event comes to for the session.  Where something else is done first, it is
done to `ready`. -/
inductive SessionMove (before : Console) (event : Event) (after : Console) : Prop where
  /-- The session is left alone. -/
  | aside (step : Changes asideAspects before after)
      (display : after.terminal.display =
        (before.screenActs event).foldl ScreenAct.on before.terminal.display)
      (noExit : ScreenAct.announcesExit ∉ before.screenActs event)
      (how : Aside before event after)
  | starts (reached : after = before.start.1) (acts : before.screenActs event = before.startActs)
  | fails (ready : Console) (failure : Failure)
      (readied : Changes [.launches, .streams, .trace] before ready)
      (reached : after = ready.bootFailed failure)
      (acts : before.screenActs event = before.bootFailedActs failure)
  | connects (ready : Console) (spec : ProcessSpec)
      (readied : Changes [.launches, .streams] before ready)
      (reached : after = (ready.connect spec).1)
      (acts : before.screenActs event = before.connectActs spec)
  | ends (ready : Console) (readied : Changes [.channels, .trace] before ready)
      (reached : after = ready.disconnect)
      (acts : before.screenActs event = before.disconnectActs)

section

variable {before ready after : Console} {event : Event} {aspects : List Aspect}

/-- An event that neither concerns the session nor shows, nor asks anything of the
runtime. -/
theorem SessionMove.unseen (step : Changes aspects before after)
    (within : aspects ⊆ asideAspects) (apart : linkAspects.all (· ∉ aspects) = true)
    (nothing : before.screenActs event = []) : SessionMove before event after := by
  refine .aside (step.mono within) ?_ (by simp [nothing]) (.quiet step apart)
  rw [nothing]
  exact step.kept apart .display (by decide)

/-- An event that does not concern the session and does not show. -/
theorem SessionMove.unshown (step : Changes aspects before after)
    (within : aspects ⊆ asideAspects) (apart : Aspect.display ∉ aspects)
    (nothing : before.screenActs event = []) (direct : event.direct = true) :
    SessionMove before event after := by
  refine .aside (step.mono within) ?_ (by simp [nothing]) (.acts direct)
  rw [nothing]
  exact step.same .display apart

/-- A connection is ended by its number, which may belong to none any more. -/
theorem SessionMove.of_endConnection {id : Nat} (readied : Changes [.channels, .trace] before ready)
    (acts : before.screenActs event = before.endConnectionActs id) :
    SessionMove before event (ready.endConnection id) := by
  have connection : ready.client.connection = before.client.connection :=
    readied.same .connection (by decide)
  unfold endConnectionActs at acts
  unfold endConnection
  rw [connection]
  split
  next current =>
      rw [if_pos current] at acts
      exact .ends ready readied rfl acts
  next other =>
      rw [if_neg other] at acts
      exact .unseen readied (by decide) (by decide) acts

end

theorem announcesExit_not_mem_handlerActs (handler : Handler) :
    ScreenAct.announcesExit ∉ handlerActs handler := by
  cases handler <;> simp [handlerActs, ScreenAct.text]

theorem announcesExit_not_mem_frameActs (console : Console) (frame : Frame) :
    ScreenAct.announcesExit ∉ console.frameActs frame := by
  have requested (name : String) :
      ScreenAct.announcesExit ∉ (console.client.handler? name).elim [] handlerActs := by
    cases console.client.handler? name with
    | none => exact List.not_mem_nil
    | some handler => exact announcesExit_not_mem_handlerActs handler
  cases frame with
  | message name args => exact requested name
  | call id name args => exact requested name
  | response id result => exact List.not_mem_nil
  | error id text => exact List.not_mem_nil

/-- The service of a byte stream ends, and with it the connection it serves. -/
theorem finishWire_eq {console : Console} {channel : Nat} {wire : Wire}
    (served : console.servedWire? channel = some wire) :
    ∃ ready, Changes [.channels, .trace] console ready ∧
      console.finishWire channel = ready.endConnection wire.connection := by
  unfold finishWire
  rw [served]
  refine ⟨_, ?_, rfl⟩
  have closed := (console.setWire_changes channel { wire with serving := false }).mono
    (by decide : _ ⊆ [.channels, .trace])
  split
  · exact closed.trans ((emit_changes _ (.hungUp channel) rfl).mono (by decide))
  · exact closed

theorem finishWire_move (console : Console) (channel : Nat) :
    SessionMove console (.work (.finish channel)) (console.finishWire channel) := by
  cases served : console.servedWire? channel with
  | none =>
      have idle : console.finishWire channel = console := by rw [finishWire, served]
      rw [idle]
      exact .unseen (.refl [] console) (by decide) (by decide)
        (by simp [screenActs, finishActs, served])
  | some wire =>
      obtain ⟨ready, readied, reached⟩ := finishWire_eq served
      rw [reached]
      exact .of_endConnection readied (by simp [screenActs, finishActs, served])

/-- What is left of a byte stream serves the same connection. -/
theorem nextLine_connection (wire : Wire) :
    wire.nextLine.2.connection = wire.connection ∧ wire.nextLine.2.serving = wire.serving := by
  unfold Wire.nextLine
  split
  · exact ⟨rfl, rfl⟩
  · split
    · exact ⟨rfl, rfl⟩
    · split <;> exact ⟨rfl, rfl⟩

theorem servedWire?_setWire {console : Console} {channel : Nat} {wire rest : Wire}
    (served : console.servedWire? channel = some wire) (serving : rest.serving = wire.serving) :
    (console.setWire channel rest).servedWire? channel = some rest := by
  unfold servedWire? at served ⊢
  split at served
  next found known =>
      obtain ⟨inside, -⟩ := List.getElem?_eq_some_iff.mp known
      obtain ⟨working, rfl⟩ : found.serving = true ∧ found = wire := by simpa using served
      simp [setWire, inside, serving, working]
  next => cases served

theorem readWire_move (console : Console) (channel : Nat) :
    SessionMove console (.work (.read channel)) (console.readWire channel) := by
  unfold readWire
  cases served : console.servedWire? channel with
  | none =>
      exact .unseen (.refl [] console) (by decide) (by decide)
        (by simp [screenActs, readActs, served])
  | some wire =>
      obtain ⟨connection, serving⟩ := nextLine_connection wire
      dsimp only
      generalize found : wire.nextLine = next at connection serving ⊢
      obtain ⟨input, rest⟩ := next
      cases input with
      | waiting =>
          exact .unseen (.refl [] console) (by decide) (by decide)
            (by simp [screenActs, readActs, served, found])
      | finished =>
          obtain ⟨ready, readied, reached⟩ := finishWire_eq served
          dsimp only
          rw [reached]
          exact .of_endConnection readied (by simp [screenActs, readActs, served, found])
      | line bytes =>
          have put := console.setWire_changes channel rest
          dsimp only at connection serving ⊢
          cases content : readLine bytes with
          | frame frame =>
              have acts : console.screenActs (.work (.read channel)) = console.frameActs frame := by
                simp [screenActs, readActs, served, found, content]
              refine .aside (put.andThen
                (handleFrame_changes _ frame) (by decide)) ?_ ?_ (.hears _ frame put rfl)
              · rw [acts]
                exact handleFrame_display _ frame
              · rw [acts]
                exact console.announcesExit_not_mem_frameActs frame
          | nothing =>
              exact .unseen put (by decide) (by decide)
                (by simp [screenActs, readActs, served, found, content])
          | malformed =>
              obtain ⟨ready, readied, reached⟩ :=
                finishWire_eq (servedWire?_setWire served serving)
              dsimp only
              rw [reached, connection]
              exact .of_endConnection ((put.mono (by decide)).trans readied)
                (by simp [screenActs, readActs, served, found, content])

/-- What is read depends on the streams alone. -/
theorem readStream_bytes {before after : Console} (same : after.streams = before.streams)
    (id : Nat) : (after.readStream id).2 = (before.readStream id).2 := by
  unfold readStream stream?
  rw [same]
  cases before.streams[id]? with
  | none => rfl
  | some stream =>
      dsimp only
      cases stream.read <;> rfl

theorem launchConnects_move (console : Console) (id : Nat) :
    SessionMove console (.launched id) (console.launchConnects id).1 := by
  unfold launchConnects
  cases known : console.launches[id]? with
  | none =>
      exact .unseen (.refl [] console) (by decide) (by decide)
        (by simp [screenActs, launchedActs, known])
  | some launch =>
      dsimp only
      split
      next awaited =>
          have read := (console.closeLaunch id launch).readStream_changes launch.stream
          have printed : ((console.closeLaunch id launch).readStream launch.stream).2 =
              (console.readStream launch.stream).2 :=
            readStream_bytes ((console.closeLaunch_changes id launch).same .streams (by decide)) _
          generalize (console.closeLaunch id launch).readStream launch.stream = result
            at read printed ⊢
          obtain ⟨ready, bytes⟩ := result
          dsimp only at read printed ⊢
          refine .connects ready _ ?_ rfl ?_
          · exact (console.closeLaunch_changes id launch).andThen read (by decide)
          · simp [screenActs, launchedActs, known, awaited, printed]
      next given =>
          exact .unseen (.refl [] console) (by decide) (by decide)
            (by simp [screenActs, launchedActs, known, given])

theorem giveUpLaunch_move (console : Console) (id : Nat) :
    SessionMove console (.work (.giveUp id)) (console.giveUpLaunch id) := by
  unfold giveUpLaunch
  cases known : console.launches[id]? with
  | none =>
      exact .unseen (.refl [] console) (by decide) (by decide)
        (by simp [screenActs, giveUpActs, known])
  | some launch =>
      dsimp only
      split
      next overdue =>
          have closed : Changes [.launches, .streams] console
              ((console.closeLaunch id launch).tryOnStream launch.stream ProcessStream.kill) :=
            (console.closeLaunch_changes id launch).andThen (tryOnStream_changes _ _ _) (by decide)
          have host : ((console.closeLaunch id launch).tryOnStream launch.stream
              ProcessStream.kill).host = console.host := closed.same .host (by decide)
          rw [host]
          split
          next reports =>
              refine .fails _ launch.failure (closed.andThen
                (emit_changes _ (.reportedFailure launch.failure) rfl) (by decide)) rfl ?_
              simp_all [screenActs, giveUpActs]
          next silent =>
              refine .unseen closed (by decide) (by decide) ?_
              simp [screenActs, giveUpActs, known, silent]
      next early =>
          refine .unseen (.refl [] console) (by decide) (by decide) ?_
          rw [Bool.not_eq_true] at early
          simp [screenActs, giveUpActs, known, early]

theorem incidental_move (console : Console) {event : Event}
    (incidental : event.incidental = true) :
    SessionMove console event (console.apply event) := by
  have nothing : console.screenActs event = [] := by
    cases event with
    | work step => cases step <;> first | rfl | cases incidental
    | _ => first | rfl | cases incidental
  exact .unseen (console.incidental_changes incidental) (by decide) (by decide) nothing

/-- Whatever happens to a console comes to one of a few things for the session. -/
theorem sessionMove_apply (console : Console) (event : Event) :
    SessionMove console event (console.apply event) := by
  cases event with
  | start => exact .starts rfl rfl
  | press key =>
      cases asked : console.asksSession key with
      | true => exact .starts (pressKey_asked asked) (if_pos asked)
      | false =>
          exact .unseen (pressKey_changes asked) (by decide) (by decide)
            (by simp [screenActs, pressActs, asked])
  | bootFailed failure => exact .fails console failure (.refl _ console) rfl rfl
  | connect spec => exact .connects console spec (.refl _ console) rfl rfl
  | launched id => exact console.launchConnects_move id
  | disconnect => exact .ends console (.refl _ console) rfl rfl
  | endConnection id => exact .of_endConnection (.refl _ console) rfl
  | resetPending => exact .unshown console.resetPending_changes (by decide) (by decide) rfl rfl
  | frame frame =>
      exact .aside ((console.handleFrame_changes frame).mono (by decide))
        (console.handleFrame_display frame) (console.announcesExit_not_mem_frameActs frame)
        (.hears console frame (.refl _ console) rfl)
  | call ticket expected name args =>
      exact .unshown (console.call_changes name args _) (by decide) (by decide) rfl rfl
  | openLink ticket position =>
      exact .unshown (console.openLink_changes ticket position) (by decide) (by decide) rfl rfl
  | write bytes =>
      exact .aside ((console.write_changes bytes).mono (by decide)) (console.write_display bytes)
        (by simp [screenActs]) (.acts rfl)
  | pump =>
      refine .aside (console.pump_changes.mono (by decide)) console.pump_display ?_ (.acts rfl)
      change ScreenAct.announcesExit ∉ console.pumpActs
      unfold pumpActs
      split
      · exact List.not_mem_nil
      · split <;> simp
  | clear =>
      exact .aside (console.clear_changes.mono (by decide)) console.clear_display
        (by simp [screenActs]) (.acts rfl)
  | resize size =>
      exact .aside ((console.resize_changes size).mono (by decide)) (console.resize_display size)
        (by simp [screenActs]) (.acts rfl)
  | work step =>
      cases step with
      | task => exact .unshown console.runOldest_changes (by decide) (by decide) rfl rfl
      | read channel => exact console.readWire_move channel
      | finish channel => exact console.finishWire_move channel
      | giveUp id => exact console.giveUpLaunch_move id
      | _ => exact console.incidental_move rfl
  | _ => exact console.incidental_move rfl

end Console

end RuntimeConsole
