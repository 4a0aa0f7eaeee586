/-
Module: RuntimeConsole.Proofs.SessionInvariant
Purpose: The session, the client, the terminal and everybody the session is registered
  with agree after every event, over every run.
Main exports:
  SessionAgreement, session_agreement
-/
import RuntimeConsole.Proofs.SessionCycle
import RuntimeConsole.Proofs.SessionMove

namespace RuntimeConsole

namespace Console

/-- The connection that was there before and is not any more, if there is one. -/
def lostBetween (before after : Console) : List Connection :=
  match before.client.connection with
  | none => []
  | some connection => if after.client.connection = some connection then [] else [connection]

/-- The connection an event ends, if it ends one. -/
def endedBy (console : Console) (event : Event) : List Connection :=
  console.lostBetween (console.apply event)

/-- The session has been activated, and it is between connections or bound to one. -/
structure Settled (base console : Console) : Prop where
  steady : Steady base console
  place : Unbound base console ∨ ∃ keys, Bound base keys console

/-- The session has followed what happened: it is settled again, the screen shows what
was said, and the end of a connection was announced. -/
structure Followed (base before : Console) (acts : List ScreenAct) (starts : Nat)
    (after : Console) : Prop where
  settled : Settled base after
  display : after.terminal.display = acts.foldl ScreenAct.on before.terminal.display
  begun : before.session.state ≠ .idle → after.session.state ≠ .idle
  boots : after.boots = before.boots + starts
  exits : acts.count .announcesExit = (before.lostBetween after).length

section

variable {base before ready after : Console} {aspects : List Aspect}

theorem Settled.of_changes (settled : Settled base before) (step : Changes aspects before after)
    (apart : (.origins :: .observers :: .keyboard :: .overrun :: bindingAspects).all
      (· ∉ aspects) = true) :
    Settled base after := by
  refine ⟨settled.steady.of_changes step (apart_mono apart (by decide)), ?_⟩
  rcases settled.place with unbound | ⟨keys, bound⟩
  · exact .inl (unbound.of_changes step (apart_mono apart (by decide)))
  · exact .inr ⟨keys, bound.of_changes_apart step (apart_mono apart (by decide))⟩

theorem lostBetween_of_connection (same : after.client.connection = before.client.connection) :
    before.lostBetween after = [] := by
  unfold lostBetween
  split
  next => rfl
  next connection found => exact if_pos (same.trans found)

/-- Something else was done first. -/
theorem Followed.preceded {ahead acts : List ScreenAct} {earlier later : Nat}
    (connection : ready.client.connection = before.client.connection)
    (display : ready.terminal.display = ahead.foldl ScreenAct.on before.terminal.display)
    (noExit : ScreenAct.announcesExit ∉ ahead)
    (begun : before.session.state ≠ .idle → ready.session.state ≠ .idle)
    (boots : ready.boots = before.boots + earlier)
    (followed : Followed base ready acts later after) :
    Followed base before (ahead ++ acts) (earlier + later) after where
  settled := followed.settled
  display := by rw [followed.display, display, List.foldl_append]
  begun started := followed.begun (begun started)
  boots := by rw [followed.boots, boots, Nat.add_assoc]
  exits := by
    have same : ready.lostBetween after = before.lostBetween after := by
      rw [lostBetween, connection, lostBetween]
    rw [List.count_append, List.count_eq_zero.mpr noExit, followed.exits, same, Nat.zero_add]

/-- Something else was done first that the session does not notice. -/
theorem Followed.after_changes {acts : List ScreenAct} {starts : Nat}
    (step : Changes aspects before ready)
    (apart : [.connection, .display, .session, .boots].all (· ∉ aspects) = true)
    (followed : Followed base ready acts starts after) :
    Followed base before acts starts after := by
  have session : ready.session = before.session := step.kept apart .session (by decide)
  have preceded : Followed base before ([] ++ acts) (0 + starts) after :=
    followed.preceded (step.kept apart .connection (by decide))
      (step.kept apart .display (by decide)) List.not_mem_nil (fun started => session ▸ started)
      (step.kept apart .boots (by decide))
  simpa using preceded

/-- The session is left alone. -/
theorem Followed.aside {acts : List ScreenAct} (settled : Settled base before)
    (step : Changes aspects before after)
    (apart : (.origins :: .observers :: .keyboard :: .overrun :: .boots :: bindingAspects).all
      (· ∉ aspects) = true)
    (display : after.terminal.display = acts.foldl ScreenAct.on before.terminal.display)
    (noExit : ScreenAct.announcesExit ∉ acts) : Followed base before acts 0 after := by
  have session : after.session = before.session := step.kept apart .session (by decide)
  have connection : after.client.connection = before.client.connection :=
    step.kept apart .connection (by decide)
  exact {
    settled := settled.of_changes step (apart_mono apart (by decide))
    display := display
    begun := fun started => session ▸ started
    boots := step.kept apart .boots (by decide)
    exits := by rw [List.count_eq_zero.mpr noExit, lostBetween_of_connection connection]; rfl }

end

/-! ### Failures -/

theorem bootFailed_of_starting {console : Console} (starting : console.session.state = .starting)
    (failure : Failure) :
    console.bootFailed failure =
      (console.withSessionState .detached).writeText (failureMessage failure) := if_pos starting

/-- A session between connections stays there, whatever else it is said to be. -/
theorem Unbound.withSessionState {base console : Console} {state : SessionState}
    (unbound : Unbound base console) (other : state ≠ .attached) :
    Unbound base (console.withSessionState state) where
  connection := unbound.connection
  state := other
  cycle := unbound.cycle
  attached := unbound.attached
  wiring := unbound.wiring

theorem bootFailed_followed {base console : Console} (settled : Settled base console)
    (failure : Failure) :
    Followed base console (console.bootFailedActs failure) 0 (console.bootFailed failure) := by
  by_cases starting : console.session.state = .starting
  · have acts : console.bootFailedActs failure = [.text (failureMessage failure)] :=
      if_pos starting
    have unbound : Unbound base console := settled.place.resolve_right fun ⟨keys, bound⟩ =>
      absurd (starting.symm.trans bound.state) nofun
    have shown := (console.withSessionState .detached).writeText_changes (failureMessage failure)
    have changed := console.bootFailed_changes failure
    rw [acts]
    have detached : Unbound base (console.withSessionState .detached) :=
      unbound.withSessionState nofun
    exact {
      settled := {
        steady := settled.steady.of_changes changed (by decide)
        place := .inl <| bootFailed_of_starting starting failure ▸
          detached.of_changes shown (by decide) }
      display := acts ▸ console.bootFailed_display failure
      begun := fun _ => by
        have session : (console.bootFailed failure).session =
            (console.withSessionState .detached).session :=
          bootFailed_of_starting starting failure ▸ shown.same .session (by decide)
        rw [session]
        nofun
      boots := changed.same .boots (by decide)
      exits := by
        rw [lostBetween_of_connection (changed.same .connection (by decide))]
        rfl }
  · have acts : console.bootFailedActs failure = [] := if_neg starting
    have same : console.bootFailed failure = console := if_neg starting
    rw [acts, same]
    exact .aside settled (.refl [] console) (by decide) rfl List.not_mem_nil

/-! ### Connections -/

theorem announcesExit_not_mem_texts (texts : List String) :
    ScreenAct.announcesExit ∉ texts.map ScreenAct.text := by
  simp [ScreenAct.text]

theorem disconnect_eq (console : Console) :
    console.disconnect = disconnectWithin (98 + 2) console := by
  rw [disconnect, nestingLimit]

theorem disconnect_followed {base console : Console} (fresh : Fresh base)
    (settled : Settled base console) :
    Followed base console console.disconnectActs 0 console.disconnect := by
  obtain ⟨steady, unbound | ⟨keys, bound⟩⟩ := settled
  · have idle : console.client.isConnected = false := by
      simp [Client.isConnected, unbound.connection]
    have acts : console.disconnectActs = [] := by simp [disconnectActs, idle]
    have same : console.disconnect = console := by
      rw [disconnect_eq, disconnectWithin, if_neg (by simp [idle])]
    rw [acts, same]
    exact .aside ⟨steady, .inl unbound⟩ (.refl [] console) (by decide) rfl List.not_mem_nil
  · obtain ⟨connection, _, connected, -⟩ := bound.connection
    have acts : console.disconnectActs = [.announcesExit] := by
      simp [disconnectActs, Client.isConnected, connected]
    have ended := disconnectWithin_ended fresh steady bound 98
    rw [← disconnect_eq] at ended
    rw [acts]
    exact {
      settled := ⟨steady.of_changes ended.changes (by decide), .inl ended.unbound⟩
      display := by rw [ended.display, List.foldl_cons, List.foldl_nil]
      begun := fun _ => by
        rw [ended.state]
        decide
      boots := ended.changes.same .boots (by decide)
      exits := by
        rw [lostBetween, connected]
        simp [ended.unbound.connection] }

/-- A connection that gives way to another ends like any other. -/
theorem connectWithin_followed {base console : Console} (fresh : Fresh base)
    (settled : Settled base console) (numbered : console.ConnectionNumbered)
    (spec : ProcessSpec) (nesting : Nat) :
    Followed base console (console.connectActs spec) 0
      (connectWithin (nesting + 3) console spec).1 := by
  have began := connectWithin_began fresh settled.steady settled.place spec nesting
  have cut := connectWithin_cut (nesting + 3) console spec began.steady.overrun
  obtain ⟨keys, bound⟩ := began.bound
  have lost : (console.lostBetween (connectWithin (nesting + 3) console spec).1).length =
      console.disconnectActs.count .announcesExit := by
    unfold lostBetween disconnectActs Client.isConnected
    cases known : console.client.connection with
    | none => rfl
    | some connection =>
        have other : (connectWithin (nesting + 3) console spec).1.client.connection ≠
            some connection := fun same =>
          absurd (cut.connection connection same) (Nat.not_le.mpr (numbered connection known))
        simp [other]
  exact {
    settled := ⟨began.steady, .inr ⟨keys, bound⟩⟩
    display := began.display
    begun := fun _ => by
      rw [bound.state]
      nofun
    boots := began.changes.same .boots (by decide)
    exits := by
      rw [connectActs, List.count_append, lost,
        List.count_eq_zero.mpr (announcesExit_not_mem_texts _), Nat.add_zero] }

/-! ### Starts -/

/-- The console after the runtime is started; the session hears of a failure. -/
def bootReported (console : Console) : Console :=
  match console.boot with
  | (console, .ok ()) => console
  | (console, .error failure) => console.bootFailed failure

/-- The console in which the runtime is started when a start is asked for. -/
def startAsked (console : Console) : Console :=
  (console.withSessionState .starting).writeText startingMessage

theorem start_eq {console : Console} (allowed : console.session.state.canStart = true) :
    console.start.1 = console.startAsked.bootReported := by
  rw [start, if_pos allowed, bootReported, startAsked]
  generalize ((console.withSessionState .starting).writeText startingMessage).boot = result
  obtain ⟨reached, answer⟩ := result
  cases answer <;> rfl

theorem startAsked_changes (console : Console) :
    Changes [.session, .display, .scanned, .resolvers, .tasks, .trace] console
      console.startAsked :=
  (console.withSessionState_changes .starting).andThen
    (writeText_changes _ startingMessage) (by decide)

theorem startAsked_session (console : Console) :
    console.startAsked.session = { console.session with state := .starting } :=
  ((console.withSessionState .starting).writeText_changes startingMessage).same .session (by decide)

theorem launch_snd_of_host {first second : Console} (same : first.host = second.host)
    (command : String) (patience : Nat) :
    (first.launch command patience).2 = (second.launch command patience).2 := by
  unfold launch
  rw [same]
  split
  · split <;> rfl
  · rfl

/-- The acts of a connection depend on who follows connections and whether there is one. -/
theorem connectActs_of_changes {aspects : List Aspect} {before after : Console}
    (step : Changes aspects before after)
    (apart : [.connection, .observers].all (· ∉ aspects) = true) (spec : ProcessSpec) :
    after.connectActs spec = before.connectActs spec := by
  have connection : after.client.connection = before.client.connection :=
    step.kept apart .connection (by decide)
  have observers := step.kept apart .observers (by decide)
  simp only [look, Prod.mk.injEq] at observers
  rw [connectActs, disconnectActs, Client.isConnected, connection, observers.1]
  rfl

/-- A start that reaches the booter leaves the connection alone or begins one. -/
theorem bootReported_cases (console : Console) :
    console.bootReported.client.connection = console.client.connection ∨
      ∃ booter spec, console.bootReported =
        (connectWithin (96 + 3) (console.emit (.booted booter)) spec).1 := by
  unfold bootReported boot nestingLimit bootWithin
  cases console.client.booter with
  | none => exact .inl ((console.bootFailed_changes _).same .connection (by decide))
  | some booter =>
      dsimp only
      cases booter.outcome with
      | pending => exact .inl rfl
      | fails failure => exact .inl ((bootFailed_changes _ failure).same .connection (by decide))
      | connects spec => exact .inr ⟨booter.label, spec, rfl⟩
      | launches command patience =>
          have launched := launch_changes (console.emit (.booted booter.label)) command patience
          have same : (console.emit (.booted booter.label)).client.connection =
              console.client.connection := rfl
          dsimp only
          generalize (console.emit (.booted booter.label)).launch command patience = result
            at launched ⊢
          obtain ⟨after, answer⟩ := result
          dsimp only at launched ⊢
          refine .inl (.trans ?_ ((launched.same .connection (by decide)).trans same))
          cases answer with
          | ok _ => rfl
          | error failure => exact (bootFailed_changes after failure).same .connection (by decide)

/-- A start reaches the booter once, if there is one, while the session waits for the
runtime. -/
theorem bootReported_followed {base console : Console} (fresh : Fresh base)
    (settled : Settled base console) (numbered : console.ConnectionNumbered)
    (starting : console.session.state = .starting) :
    Followed base console console.bootActs console.client.booter.toList.length
      console.bootReported := by
  unfold bootReported boot nestingLimit bootWithin bootActs
  cases equipped : console.client.booter with
  | none =>
      have failed := bootFailed_followed settled (.invalidInput "no booter installed")
      rwa [bootFailedActs, if_pos starting] at failed
  | some booter =>
      have told := console.emit_booted_changes booter.label
      have counted : (console.emit (.booted booter.label)).boots = console.boots + 1 := by
        simp [boots, emit, Effect.isBoot]
      have toldSettled := settled.of_changes told (by decide)
      have host : (console.emit (.booted booter.label)).host = console.host := rfl
      have state : (console.emit (.booted booter.label)).session.state = .starting := starting
      have acts (spec : ProcessSpec) := connectActs_of_changes told (by decide) spec
      have toldNumbered : (console.emit (.booted booter.label)).ConnectionNumbered := numbered
      -- What follows happens to a console that differs in the record only.
      have preceded {acts : List ScreenAct} {after : Console}
          (followed : Followed base (console.emit (.booted booter.label)) acts 0 after) :
          Followed base console acts 1 after := by
        have both : Followed base console ([] ++ acts) (1 + 0) after :=
          followed.preceded (told.same .connection (by decide)) (told.same .display (by decide))
            List.not_mem_nil id counted
        exact both
      dsimp only [Option.toList_some, List.length_singleton]
      generalize console.emit (.booted booter.label) = reached
        at told toldSettled host state acts toldNumbered preceded ⊢
      cases outcome : booter.outcome with
      | pending =>
          exact preceded (.aside toldSettled (.refl [] reached) (by decide) rfl List.not_mem_nil)
      | fails failure =>
          have failed := bootFailed_followed toldSettled failure
          rw [bootFailedActs, if_pos state] at failed
          exact preceded failed
      | connects spec =>
          have connected := connectWithin_followed fresh toldSettled toldNumbered spec 96
          rw [acts spec] at connected
          exact preceded connected
      | launches command patience =>
          have launched := reached.launch_changes command patience
          have same := launch_snd_of_host host command patience
          dsimp only
          generalize reached.launch command patience = result at launched same ⊢
          obtain ⟨after, answer⟩ := result
          dsimp only at launched same ⊢
          rw [← same]
          have still : after.session = reached.session := launched.same .session (by decide)
          cases answer with
          | ok _ =>
              exact preceded (.aside toldSettled launched (by decide)
                (launched.same .display (by decide)) List.not_mem_nil)
          | error failure =>
              have failed :=
                bootFailed_followed (toldSettled.of_changes launched (by decide)) failure
              rw [bootFailedActs, if_pos (still ▸ state)] at failed
              exact preceded (failed.after_changes launched (by decide))

theorem start_followed {base console : Console} (fresh : Fresh base)
    (settled : Settled base console) (numbered : console.ConnectionNumbered)
    (allowed : console.session.state.canStart = true) :
    Followed base console console.startActs console.client.booter.toList.length
      console.start.1 := by
  have asked := console.startAsked_changes
  have session := console.startAsked_session
  have unattached : console.session.state ≠ .attached := fun attached => by
    rw [attached] at allowed
    cases allowed
  have unbound : Unbound base console := settled.place.resolve_right fun ⟨keys, bound⟩ =>
    unattached bound.state
  have starting : Unbound base (console.withSessionState .starting) :=
    unbound.withSessionState nofun
  have askedSettled : Settled base console.startAsked :=
    ⟨settled.steady.of_changes asked (by decide),
      .inl (starting.of_changes (writeText_changes _ startingMessage) (by decide))⟩
  have askedNumbered : console.startAsked.ConnectionNumbered :=
    numbered.of_changes asked (by decide)
  have booter : console.startAsked.client.booter = console.client.booter :=
    asked.same .booter (by decide)
  have acts : console.startAsked.bootActs = console.bootActs := by
    unfold bootActs
    rw [booter]
    simp only [connectActs_of_changes asked (by decide),
      launch_snd_of_host (asked.same .host (by decide))]
  have booted := bootReported_followed fresh askedSettled askedNumbered
    (congrArg Session.state session)
  rw [booter, acts] at booted
  have display : console.startAsked.terminal.display =
      [ScreenAct.text startingMessage].foldl ScreenAct.on console.terminal.display := by
    rw [startAsked, writeText_display, List.foldl_cons, List.foldl_nil]
    rfl
  have preceded : Followed base console ([.text startingMessage] ++ console.bootActs)
      (0 + console.client.booter.toList.length) console.startAsked.bootReported := by
    refine booted.preceded (asked.same .connection (by decide)) display
      (by simp [ScreenAct.text]) (fun _ => ?_) (asked.same .boots (by decide))
    rw [session]
    nofun
  rw [start_eq allowed, startActs, if_pos allowed]
  simpa using preceded

/-! ### Events and runs -/

/-- The session follows every event.  A booter is reached by an accepted start only, and
once by each. -/
theorem apply_followed {base console : Console} (fresh : Fresh base)
    (settled : Settled base console) (numbered : console.ConnectionNumbered) (event : Event) :
    ∃ starts, Followed base console (console.screenActs event) starts (console.apply event) ∧
      (starts = 0 ∨ starts = 1 ∧ console.session.state.canStart = true ∧
        console.apply event = console.startAsked.bootReported) := by
  cases console.sessionMove_apply event with
  | aside step display noExit _ =>
      exact ⟨0, .aside settled step (by decide) display noExit, .inl rfl⟩
  | starts reached acts =>
      rw [reached, acts]
      by_cases allowed : console.session.state.canStart = true
      · refine ⟨_, start_followed fresh settled numbered allowed, ?_⟩
        cases console.client.booter with
        | none => exact .inl rfl
        | some booter => exact .inr ⟨rfl, allowed, start_eq allowed⟩
      · have none : console.startActs = [] := if_neg allowed
        have same : console.start.1 = console := by rw [start, if_neg allowed]
        rw [none, same]
        exact ⟨0, .aside settled (.refl [] console) (by decide) rfl List.not_mem_nil, .inl rfl⟩
  | fails ready failure readied reached acts =>
      have state : ready.bootFailedActs failure = console.bootFailedActs failure := by
        rw [bootFailedActs, show ready.session = console.session from
          readied.same .session (by decide), bootFailedActs]
      rw [reached, acts, ← state]
      exact ⟨0, (bootFailed_followed (settled.of_changes readied (by decide)) failure).after_changes
        readied (by decide), .inl rfl⟩
  | connects ready spec readied reached acts =>
      have readyNumbered : ready.ConnectionNumbered := numbered.of_changes readied (by decide)
      have connected := connectWithin_followed fresh (settled.of_changes readied (by decide))
        readyNumbered spec 97
      rw [reached, acts, ← connectActs_of_changes readied (by decide), connect, nestingLimit]
      exact ⟨0, connected.after_changes readied (by decide), .inl rfl⟩
  | ends ready readied reached acts =>
      have same : ready.disconnectActs = console.disconnectActs := by
        rw [disconnectActs, Client.isConnected, show ready.client.connection =
          console.client.connection from readied.same .connection (by decide)]
        rfl
      rw [reached, acts, ← same]
      exact ⟨0, (disconnect_followed fresh (settled.of_changes readied (by decide))).after_changes
        readied (by decide), .inl rfl⟩

theorem Settled.step {base console : Console} (fresh : Fresh base)
    (settled : Settled base console) (ordered : console.CallsInOrder) (event : Event) :
    Settled base (console.apply event) ∧ (console.apply event).CallsInOrder := by
  obtain ⟨_, followed, -⟩ := apply_followed fresh settled ordered.connection event
  have ran := followed.settled.steady.overrun
  exact ⟨followed.settled, ordered.step (console.callStep_apply event ran)⟩

theorem Settled.run {base console : Console} (fresh : Fresh base)
    (settled : Settled base console) (ordered : console.CallsInOrder) (events : List Event) :
    Settled base (console.run events) ∧ (console.run events).CallsInOrder := by
  induction events generalizing console with
  | nil => exact ⟨settled, ordered⟩
  | cons event events inductionHypothesis =>
      obtain ⟨next, nextOrdered⟩ := settled.step fresh ordered event
      exact inductionHypothesis next nextOrdered

theorem activateSession_callFree {base : Console} (fresh : Fresh base) :
    base.activateSession.CallFree :=
  ⟨fresh.callFree.connection, fresh.callFree.pending, fresh.callFree.tasks⟩

/-- The session is activated between connections. -/
theorem activateSession_settled {base : Console} (fresh : Fresh base) :
    Settled base base.activateSession ∧ base.activateSession.CallsInOrder := by
  refine ⟨⟨?_, .inl ?_⟩, (activateSession_callFree fresh).inOrder⟩
  · exact {
      bootObservers := ⟨base.client.nextId, rfl⟩
      detachObservers := ⟨base.client.nextId + 1, rfl⟩
      startHandler := rfl
      overrun := fresh.overrun }
  · exact {
      connection := fresh.callFree.connection
      state := by simp [activateSession, fresh.session, Session.idle]
      cycle := by simp [activateSession, fresh.session, Session.idle]
      attached := fresh.attached
      wiring := {
        watchers := rfl
        listeners := rfl
        moduleListeners := rfl
        promptKey := Nat.le_refl _
        lineKey := Nat.le_refl _
        moduleKey := Nat.le_refl _
        living := fun id => by simp [wiring, activateSession, fresh.resolvers] } }

/-- The screen shows what was said in the course of a run, and the session announced as
many exits as connections ended. -/
theorem noted_screenActs {base console : Console} (fresh : Fresh base)
    (settled : Settled base console) (ordered : console.CallsInOrder) (events : List Event) :
    (console.run events).terminal.display =
        (console.noted screenActs events).foldl ScreenAct.on console.terminal.display ∧
      (console.noted screenActs events).count .announcesExit =
        (console.noted endedBy events).length := by
  induction events generalizing console with
  | nil => exact ⟨rfl, rfl⟩
  | cons event events inductionHypothesis =>
      obtain ⟨_, followed, -⟩ := apply_followed fresh settled ordered.connection event
      obtain ⟨next, nextOrdered⟩ := settled.step fresh ordered event
      obtain ⟨display, exits⟩ := inductionHypothesis next nextOrdered
      rw [noted, noted, List.foldl_append, List.count_append, List.length_append, ← exits,
        followed.exits, run_cons, display, followed.display]
      exact ⟨rfl, rfl⟩

/-- A session that has begun something never forgets that it has. -/
theorem run_begun {base console : Console} (fresh : Fresh base) (settled : Settled base console)
    (ordered : console.CallsInOrder) (begun : console.session.state ≠ .idle)
    (events : List Event) : (console.run events).session.state ≠ .idle := by
  induction events generalizing console with
  | nil => exact begun
  | cons event events inductionHypothesis =>
      obtain ⟨_, followed, -⟩ := apply_followed fresh settled ordered.connection event
      obtain ⟨next, nextOrdered⟩ := settled.step fresh ordered event
      exact inductionHypothesis next nextOrdered (followed.begun begun)

/-! ### Agreement -/

/-- How many observers of the prompt there are. -/
def promptObservers (console : Console) : Nat :=
  console.watchers.countP fun entry => entry.2 == .prompt

/-- The resolvers that are told about changed rows. -/
def linkMatchers (console : Console) : List Nat :=
  console.terminal.listeners.filterMap fun entry =>
    match entry.2 with
    | .resolver id => some id
    | .guest _ => none

/-- The debouncers through which modules are reported to the runtime. -/
def moduleReporters (console : Console) : List Nat :=
  console.modules.listeners.filterMap fun entry =>
    match entry.2 with
    | .runtime debouncer => some debouncer
    | .guest _ => none

theorem promptObservers_guests {base : Console} (fresh : Fresh base) :
    base.promptObservers = 0 := by
  rw [promptObservers, List.countP_eq_zero]
  intro entry member
  simpa using fresh.watchers entry member

theorem linkMatchers_guests {base : Console} (fresh : Fresh base) : base.linkMatchers = [] := by
  rw [linkMatchers, List.filterMap_eq_nil_iff]
  intro entry member
  obtain ⟨label, known⟩ := fresh.listeners entry member
  rw [known]

theorem moduleReporters_guests {base : Console} (fresh : Fresh base) :
    base.moduleReporters = [] := by
  rw [moduleReporters, List.filterMap_eq_nil_iff]
  intro entry member
  obtain ⟨label, known⟩ := fresh.moduleListeners entry member
  rw [known]

/-- What there is while the runtime is connected. -/
structure Connected (console : Console) (connection : Connection) : Prop where
  /-- The terminal shows the process of the connection. -/
  stream : ∃ process, console.processes[connection.process]? = some process ∧
    console.terminal.stream = some process.stream
  /-- There is one resolver at work, and it alone is told about changed rows. -/
  resolver : ∃ id resolver, console.session.cycle.resolver = some id ∧
    console.resolvers[id]? = some resolver ∧ resolver.alive = true ∧
    console.linkMatchers = [id]
  held : console.session.cycle.disposables.size = 5
  prompt : console.promptObservers = 1
  modules : console.moduleReporters.length = 1

/-- What there is while the runtime is not connected. -/
structure Disconnected (console : Console) : Prop where
  stream : console.terminal.stream = none
  resolver : console.session.cycle.resolver = none
  unresolved : ∀ resolver ∈ console.resolvers, resolver.alive = false
  matchers : console.linkMatchers = []
  held : console.session.cycle.disposables.size = 0
  prompt : console.promptObservers = 0
  modules : console.moduleReporters = []
  pending : console.client.pending = []

theorem Bound.connected {base console : Console} {keys : CycleKeys} {connection : Connection}
    (fresh : Fresh base) (bound : Bound base keys console)
    (known : console.client.connection = some connection) : Connected console connection where
  stream := by
    obtain ⟨found, stream, foundKnown, origin, attached⟩ := bound.connection
    obtain rfl : found = connection := Option.some.inj (foundKnown.symm.trans known)
    rw [List.getElem?_map, Option.map_eq_some_iff] at origin
    obtain ⟨process, here, rfl⟩ := origin
    exact ⟨process, here, attached⟩
  resolver := by
    have alive : (console.resolvers.map Resolver.alive)[keys.resolver]? = some true :=
      (bound.wiring.living keys.resolver).mpr rfl
    rw [List.getElem?_map, Option.map_eq_some_iff] at alive
    obtain ⟨resolver, here, alive⟩ := alive
    refine ⟨keys.resolver, resolver, by rw [bound.cycle]; rfl, here, alive, ?_⟩
    have listeners : console.terminal.listeners =
        base.terminal.listeners ++ [(keys.lines, .resolver keys.resolver)] := bound.wiring.listeners
    have guests := linkMatchers_guests fresh
    rw [linkMatchers] at guests ⊢
    rw [listeners, List.filterMap_append, guests]
    rfl
  held := by rw [bound.cycle]; rfl
  prompt := by
    have watchers : console.watchers = base.watchers ++ [(keys.prompt, .prompt)] :=
      bound.wiring.watchers
    have guests := promptObservers_guests fresh
    rw [promptObservers] at guests ⊢
    rw [watchers, List.countP_append, guests]
    rfl
  modules := by
    have listeners : console.modules.listeners =
        base.modules.listeners ++ [(keys.modules, .runtime keys.debouncer)] :=
      bound.wiring.moduleListeners
    have guests := moduleReporters_guests fresh
    rw [moduleReporters] at guests ⊢
    rw [listeners, List.filterMap_append, guests]
    rfl

theorem Unbound.disconnected {base console : Console} (fresh : Fresh base)
    (unbound : Unbound base console) (pending : console.client.pending = []) :
    Disconnected console where
  stream := unbound.attached
  resolver := by rw [unbound.cycle]; rfl
  unresolved resolver member := by
    obtain ⟨id, inside, rfl⟩ := List.mem_iff_getElem.mp member
    have idle : (console.resolvers.map Resolver.alive)[id]? ≠ some true := unbound.wiring.living id
    simpa [inside] using idle
  matchers := by
    have listeners : console.terminal.listeners = base.terminal.listeners :=
      unbound.wiring.listeners
    rw [linkMatchers, listeners, ← linkMatchers, linkMatchers_guests fresh]
  held := by rw [unbound.cycle]; rfl
  prompt := by
    have watchers : console.watchers = base.watchers := unbound.wiring.watchers
    rw [promptObservers, watchers, ← promptObservers, promptObservers_guests fresh]
  modules := by
    have listeners : console.modules.listeners = base.modules.listeners :=
      unbound.wiring.moduleListeners
    rw [moduleReporters, listeners, ← moduleReporters, moduleReporters_guests fresh]
  pending := pending

end Console

open Console

/-- What holds after a run of a console whose session has been activated. -/
structure SessionAgreement (start : Console) (events : List Event) : Prop where
  attached : (start.run events).session.state = .attached ↔
    (start.run events).client.isConnected = true
  during : ∀ connection, (start.run events).client.connection = some connection →
    Connected (start.run events) connection
  between : (start.run events).client.isConnected = false → Disconnected (start.run events)
  neverIdleAgain : ∀ earlier later, events = earlier ++ later →
    (start.run earlier).session.state ≠ .idle → (start.run events).session.state ≠ .idle
  /-- Where one more event starts the runtime, the session let itself be started, and the
  runtime was started once, by a session that waits for it. -/
  booted : ∀ event, (start.run (events ++ [event])).boots ≠ (start.run events).boots →
    (start.run events).session.state.canStart = true ∧
      (start.run events).startAsked.session.state = .starting ∧
      start.run (events ++ [event]) = (start.run events).startAsked.bootReported ∧
      (start.run (events ++ [event])).boots = (start.run events).boots + 1
  /-- The screen shows what was said in the course of the run. -/
  display : (start.run events).terminal.display =
    (start.noted screenActs events).foldl ScreenAct.on start.terminal.display
  /-- As many exits were announced as connections ended. -/
  exits : (start.noted screenActs events).count .announcesExit =
    (start.noted endedBy events).length

/-- Session, client, terminal and everybody the session is registered with agree after
every run of a console in which the session has been activated once. -/
theorem session_agreement (base : Console) (events : List Event) (fresh : Fresh base) :
    SessionAgreement base.activateSession events := by
  obtain ⟨settled, ordered⟩ := activateSession_settled fresh
  obtain ⟨reached, reachedOrdered⟩ := settled.run fresh ordered events
  obtain ⟨display, exits⟩ := noted_screenActs fresh settled ordered events
  have place := reached.place
  exact {
    attached := by
      rcases place with unbound | ⟨keys, bound⟩
      · simp [Client.isConnected, unbound.connection, unbound.state]
      · obtain ⟨connection, _, connected, -⟩ := bound.connection
        simp [Client.isConnected, connected, bound.state]
    during := by
      intro connection known
      rcases place with unbound | ⟨keys, bound⟩
      · exact absurd (unbound.connection.symm.trans known) nofun
      · exact bound.connected fresh known
    between := by
      intro without
      have none : (base.activateSession.run events).client.connection = none := by
        simpa [Client.isConnected] using without
      rcases place with unbound | ⟨keys, bound⟩
      · exact unbound.disconnected fresh (reachedOrdered.disconnected none)
      · obtain ⟨connection, _, connected, -⟩ := bound.connection
        exact absurd (none.symm.trans connected) nofun
    neverIdleAgain := by
      rintro earlier later rfl begun
      obtain ⟨midway, midwayOrdered⟩ := settled.run fresh ordered earlier
      rw [run_append]
      exact run_begun fresh midway midwayOrdered begun later
    booted := by
      intro event more
      obtain ⟨starts, followed, cause⟩ :=
        apply_followed fresh reached reachedOrdered.connection event
      rw [run_concat] at more ⊢
      rcases cause with rfl | ⟨rfl, allowed, started⟩
      · exact absurd followed.boots more
      · exact ⟨allowed, congrArg Session.state (startAsked_session _), started, followed.boots⟩
    display := display
    exits := exits }

/-- Nobody follows a console nothing has happened to. -/
theorem bare_fresh (size : Size) : Fresh (Console.bare size) where
  callFree := ⟨rfl, rfl, rfl⟩
  session := rfl
  attached := rfl
  resolvers := rfl
  bootObservers := by simp [Console.bare, unwired, Client.initial]
  detachObservers := by simp [Console.bare, unwired, Client.initial]
  keys := by
    constructor <;>
      simp [wiring, watchers, Console.bare, unwired, Store.ofValue, Terminal.new,
        ModuleIndicator.initial]
  watchers := by simp [watchers, Console.bare, unwired, Store.ofValue]
  listeners := by simp [Console.bare, unwired, Terminal.new]
  moduleListeners := by simp [Console.bare, unwired, ModuleIndicator.initial]
  overrun := rfl

/-- A start that connects at once, a connection in its place, its end, and a start that
fails. -/
theorem session_agreement_restarted :
    Fresh (Console.bare ⟨2, 20⟩) ∧
      SessionAgreement (Console.bare ⟨2, 20⟩).activateSession
        [.equip ⟨.null, .connects .plain⟩, .start, .connect .plain, .endConnection 4,
          .equip ⟨.null, .fails (.invalidInput "none")⟩, .start, .bootFailed (.stream "late")] :=
  ⟨bare_fresh ⟨2, 20⟩, session_agreement _ _ (bare_fresh ⟨2, 20⟩)⟩

end RuntimeConsole
