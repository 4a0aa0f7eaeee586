/-
Module: RuntimeConsole.Proofs.BootAttempts
Purpose: The attempts to start the runtime over every run of a console whose session has been
  activated, which of them a reported failure belongs to, and which of them it ends.
Main exports:
  Console.attempted, Reports, Loyal, FailureReports, failure_reports
-/
import Mathlib.Data.List.Induction
import RuntimeConsole.Proofs.SessionInvariant

namespace RuntimeConsole

/-- An attempt to start the runtime, with the number of the command it launched, if it
launched one. -/
structure Attempt where
  launch : Option Nat
deriving DecidableEq

namespace Console

/-! ### Attempts -/

/-- Whether the session is asked for a start in an event. -/
def asksStart (console : Console) : Event → Bool
  | .start => true
  | .press key => console.asksSession key
  | _ => false

/-- The attempt that begins in an event, if one does: the session is asked for a start and
lets itself be started. -/
def attempted (console : Console) (event : Event) : List Attempt :=
  if console.asksStart event && console.session.state.canStart then
    [⟨if console.launches.length < (console.apply event).launches.length then
        some console.launches.length
      else none⟩]
  else []

/-- Whether a launched command is still waited for. -/
def awaits (console : Console) (id : Nat) : Bool :=
  (console.launches[id]?).elim false Launch.awaited

theorem attempted_of_unasked {console : Console} {event : Event}
    (unasked : console.asksStart event = false) : console.attempted event = [] := by
  simp [attempted, unasked]

theorem attempted_of_refused {console : Console} {event : Event}
    (refused : console.session.state.canStart = false) : console.attempted event = [] := by
  simp [attempted, refused]

theorem attempted_of_asked {console : Console} {event : Event}
    (asked : console.asksStart event = true) (allowed : console.session.state.canStart = true) :
    console.attempted event =
      [⟨if console.launches.length < (console.apply event).launches.length then
          some console.launches.length
        else none⟩] := by
  simp [attempted, asked, allowed]

theorem awaits_iff {console : Console} {id : Nat} :
    console.awaits id = true ↔
      ∃ launch, console.launches[id]? = some launch ∧ launch.awaited = true := by
  unfold awaits
  cases console.launches[id]? <;> simp

theorem awaits_of_launches {before after : Console} (same : after.launches = before.launches)
    (id : Nat) : after.awaits id = before.awaits id := by
  rw [awaits, same, awaits]

/-- A command that is not waited for any more leaves the others alone. -/
theorem awaits_of_closed {before after : Console} {id : Nat} {launch : Launch}
    (closed : after.launches = before.launches.set id { launch with awaited := false })
    (other : Nat) : after.awaits other = true ↔ before.awaits other = true ∧ other ≠ id := by
  simp only [awaits_iff, closed, List.getElem?_set]
  by_cases same : id = other
  · subst same
    by_cases inside : id < before.launches.length <;> simp [inside]
  · simp [same, Ne.symm same]

/-- Where nothing was waited for, only a command that was launched since is. -/
theorem awaits_of_added {before after : Console} {id : Nat} {launch : Launch}
    (added : after.launches = before.launches ++ [launch])
    (unawaited : ∀ other, before.awaits other ≠ true) (waits : after.awaits id = true) :
    id = before.launches.length := by
  obtain ⟨found, known, awaited⟩ := awaits_iff.mp waits
  rw [added] at known
  rcases Nat.lt_or_ge id before.launches.length with inside | outside
  · rw [List.getElem?_append_left inside] at known
    exact absurd (awaits_iff.mpr ⟨found, known, awaited⟩) (unawaited id)
  · have within := (List.getElem?_eq_some_iff.mp known).1
    simp only [List.length_append, List.length_singleton] at within
    omega

/-! ### What a report does -/

theorem bootFailed_launches (console : Console) (failure : Failure) :
    (console.bootFailed failure).launches = console.launches :=
  (console.bootFailed_changes failure).same .launches (by decide)

/-- A session that has heard of a failure waits for the runtime no longer. -/
theorem bootFailed_not_starting (console : Console) (failure : Failure) :
    (console.bootFailed failure).session.state ≠ .starting := by
  by_cases starting : console.session.state = .starting
  · have shown := (console.withSessionState .detached).writeText_changes (failureMessage failure)
    have session : (console.bootFailed failure).session =
        (console.withSessionState .detached).session :=
      bootFailed_of_starting starting failure ▸ shown.same .session (by decide)
    rw [session]
    nofun
  · have same : console.bootFailed failure = console := if_neg starting
    rwa [same]

/-! ### What an event does to attempts -/

/-- What an event comes to for the attempts to start the runtime. -/
inductive AttemptMove (before : Console) (event : Event) (after : Console) : Prop where
  /-- No attempt is concerned. -/
  | aside (session : after.session = before.session) (launches : after.launches = before.launches)
      (none : before.attempted event = [])
  /-- An attempt begins.  If it launches a command, the session waits for it. -/
  | begins (asked : before.asksStart event = true)
      (allowed : before.session.state.canStart = true)
      (launched : after.launches = before.launches ∨
        after.session.state = .starting ∧
          ∃ launch, after.launches = before.launches ++ [launch])
  /-- The embedding program reports a failure. -/
  | told (failure : Failure) (asked : event = .bootFailed failure)
      (reached : after = before.bootFailed failure)
  /-- A launched command is given up, and the session hears of it. -/
  | givenUp (id : Nat) (launch : Launch) (ready : Console) (asked : event = .work (.giveUp id))
      (known : before.launches[id]? = some launch) (awaited : launch.awaited = true)
      (due : launch.due ≤ before.now) (reports : before.host.reportsFailures = true)
      (readied : Changes [.launches, .streams, .trace] before ready)
      (closed : ready.launches = before.launches.set id { launch with awaited := false })
      (reached : after = ready.bootFailed launch.failure)
  /-- A launched command is given up, and the session does not hear of it. -/
  | dropped (id : Nat) (launch : Launch) (asked : event = .work (.giveUp id))
      (session : after.session = before.session)
      (closed : after.launches = before.launches.set id { launch with awaited := false })
  /-- Something connects that was not launched. -/
  | connects (spec : ProcessSpec) (asked : event = .connect spec)
      (state : after.session.state = .attached) (launches : after.launches = before.launches)
  /-- A launched command connects. -/
  | arrives (id : Nat) (launch : Launch) (asked : event = .launched id)
      (state : after.session.state = .attached)
      (closed : after.launches = before.launches.set id { launch with awaited := false })
  /-- A connection ends. -/
  | ends (attached : before.session.state = .attached) (state : after.session.state = .detached)
      (launches : after.launches = before.launches) (unasked : before.asksStart event = false)

section

variable {base before ready after : Console} {event : Event} {aspects : List Aspect}

theorem AttemptMove.of_changes (step : Changes aspects before after)
    (apart : [.session, .launches].all (· ∉ aspects) = true)
    (unasked : before.asksStart event = false) : AttemptMove before event after :=
  .aside (step.kept apart .session (by decide)) (step.kept apart .launches (by decide))
    (attempted_of_unasked unasked)

/-- Something else was done first that does not concern attempts. -/
theorem AttemptMove.of_disconnect (fresh : Fresh base) (settled : Settled base before)
    (readied : Changes [.channels, .trace] before ready)
    (unasked : before.asksStart event = false) : AttemptMove before event ready.disconnect := by
  have session : ready.session = before.session := readied.same .session (by decide)
  have launches : ready.launches = before.launches := readied.same .launches (by decide)
  obtain ⟨steady, unbound | ⟨keys, bound⟩⟩ := settled
  · have connection : ready.client.connection = none :=
      (readied.same .connection (by decide)).trans unbound.connection
    have same : ready.disconnect = ready := by
      rw [disconnect_eq, disconnectWithin, if_neg (by simp [Client.isConnected, connection])]
    rw [same]
    exact .aside session launches (attempted_of_unasked unasked)
  · have ended := disconnectWithin_ended fresh (steady.of_changes readied (by decide))
      (bound.of_changes_apart readied (by decide)) 98
    rw [← disconnect_eq] at ended
    exact .ends bound.state ended.state
      ((ended.changes.same .launches (by decide)).trans launches) unasked

theorem AttemptMove.of_endConnection (fresh : Fresh base) (settled : Settled base before)
    (readied : Changes [.channels, .trace] before ready)
    (unasked : before.asksStart event = false) (id : Nat) :
    AttemptMove before event (ready.endConnection id) := by
  unfold endConnection
  split
  · exact .of_disconnect fresh settled readied unasked
  · exact .of_changes readied (by decide) unasked

theorem connect_launches (fresh : Fresh base) (settled : Settled base before)
    (spec : ProcessSpec) :
    (before.connect spec).1.session.state = .attached ∧
      (before.connect spec).1.launches = before.launches := by
  have began := connectWithin_began fresh settled.steady settled.place spec 97
  obtain ⟨keys, bound⟩ := began.bound
  exact ⟨bound.state, began.changes.same .launches (by decide)⟩

theorem finishWire_attempt (fresh : Fresh base) (settled : Settled base before)
    (readied : Changes [.channels, .trace] before ready)
    (unasked : before.asksStart event = false) (channel : Nat) :
    AttemptMove before event (ready.finishWire channel) := by
  cases served : ready.servedWire? channel with
  | none =>
      have same : ready.finishWire channel = ready := by rw [finishWire, served]
      rw [same]
      exact .of_changes readied (by decide) unasked
  | some wire =>
      obtain ⟨closed, closing, reached⟩ := finishWire_eq served
      rw [reached]
      exact .of_endConnection fresh settled (readied.trans closing) unasked _

theorem readWire_attempt (fresh : Fresh base) (settled : Settled base before) (channel : Nat) :
    AttemptMove before (.work (.read channel)) (before.readWire channel) := by
  unfold readWire
  split
  next => exact .of_changes (.refl [] before) (by decide) rfl
  next wire _ =>
      split
      next bytes rest _ =>
          have put := before.setWire_changes channel rest
          dsimp only
          split
          next frame _ =>
              exact .of_changes (put.andThen (handleFrame_changes _ frame) (List.Subset.refl _))
                (by decide) rfl
          next => exact .of_changes put (by decide) rfl
          next => exact finishWire_attempt fresh settled (put.mono (by decide)) rfl channel
      next => exact finishWire_attempt fresh settled (.refl _ before) rfl channel
      next => exact .of_changes (.refl [] before) (by decide) rfl

theorem launch_cases (console : Console) (command : String) (patience : Nat) :
    (∃ failure, console.launch command patience = (console, .error failure)) ∨
      ∃ after launch, console.launch command patience = (after, .ok ()) ∧
        after.session = console.session ∧ after.launches = console.launches ++ [launch] := by
  unfold launch
  split
  · split
    · exact .inl ⟨_, rfl⟩
    · exact .inr ⟨_, _, rfl, rfl, rfl⟩
  · exact .inl ⟨_, rfl⟩

/-- A start that reaches the booter launches a command, or none. -/
theorem bootReported_launches (fresh : Fresh base) (settled : Settled base before)
    (starting : before.session.state = .starting) :
    before.bootReported.launches = before.launches ∨
      before.bootReported.session.state = .starting ∧
        ∃ launch, before.bootReported.launches = before.launches ++ [launch] := by
  unfold bootReported boot nestingLimit bootWithin
  cases before.client.booter with
  | none => exact .inl (before.bootFailed_launches _)
  | some booter =>
      have told := before.emit_booted_changes booter.label
      have toldSettled := settled.of_changes told (by decide)
      have launches : (before.emit (.booted booter.label)).launches = before.launches := rfl
      have state : (before.emit (.booted booter.label)).session.state = .starting := starting
      dsimp only
      generalize before.emit (.booted booter.label) = reached
        at toldSettled launches state ⊢
      cases booter.outcome with
      | pending => exact .inl launches
      | fails failure => exact .inl ((reached.bootFailed_launches failure).trans launches)
      | connects spec =>
          exact .inl ((connectWithin_began fresh toldSettled.steady toldSettled.place spec
            96).changes.same .launches (by decide) |>.trans launches)
      | launches command patience =>
          dsimp only
          rcases reached.launch_cases command patience with
            ⟨failure, refused⟩ | ⟨after, launch, launched, session, added⟩
          · rw [refused]
            exact .inl ((reached.bootFailed_launches failure).trans launches)
          · rw [launched]
            exact .inr ⟨session ▸ state, launch, launches ▸ added⟩

theorem start_attempt (fresh : Fresh base) (settled : Settled base before)
    (asked : before.asksStart event = true) : AttemptMove before event before.start.1 := by
  by_cases allowed : before.session.state.canStart = true
  · have asking := before.startAsked_changes
    have launches : before.startAsked.launches = before.launches :=
      asking.same .launches (by decide)
    have unbound : Unbound base before := settled.place.resolve_right fun ⟨keys, bound⟩ => by
      rw [bound.state] at allowed
      cases allowed
    have starting : Unbound base (before.withSessionState .starting) :=
      unbound.withSessionState nofun
    have askedSettled : Settled base before.startAsked :=
      ⟨settled.steady.of_changes asking (by decide),
        .inl (starting.of_changes (writeText_changes _ startingMessage) (by decide))⟩
    have booted := bootReported_launches fresh askedSettled
      (congrArg Session.state before.startAsked_session)
    rw [launches] at booted
    rw [start_eq allowed]
    exact .begins asked allowed booted
  · have same : before.start.1 = before := by rw [start, if_neg allowed]
    rw [same]
    exact .aside rfl rfl (attempted_of_refused (Bool.eq_false_iff.mpr allowed))

theorem launchConnects_attempt (fresh : Fresh base) (settled : Settled base before) (id : Nat) :
    AttemptMove before (.launched id) (before.launchConnects id).1 := by
  unfold launchConnects
  split
  next => exact .of_changes (.refl [] before) (by decide) rfl
  next launch _ =>
      split
      next =>
          have closed := before.closeLaunch_changes id launch
          have read := (before.closeLaunch id launch).readStream_changes launch.stream
          have launches : ((before.closeLaunch id launch).readStream launch.stream).1.launches =
              before.launches.set id { launch with awaited := false } :=
            read.same .launches (by decide)
          have readied := closed.andThen read (List.Subset.refl _)
          dsimp only
          generalize (before.closeLaunch id launch).readStream launch.stream = result
            at launches readied ⊢
          obtain ⟨ready, bytes⟩ := result
          obtain ⟨state, same⟩ := connect_launches fresh
            (settled.of_changes readied (by decide))
            ⟨.running launch.stream, some (earlyPieces (bytes.toOption.getD [])), true⟩
          exact .arrives id launch rfl state (same.trans launches)
      next => exact .of_changes (.refl [] before) (by decide) rfl

/-- A launched command that is given up is not waited for any more, and the session hears of
it where the host lets it. -/
theorem giveUpLaunch_eq {id : Nat} {launch : Launch}
    (known : before.launches[id]? = some launch) (awaited : launch.awaited = true)
    (due : launch.due ≤ before.now) :
    ∃ ended, Changes [.launches, .streams] before ended ∧
      ended.launches = before.launches.set id { launch with awaited := false } ∧
      before.giveUpLaunch id =
        if before.host.reportsFailures then
          (ended.emit (.reportedFailure launch.failure)).bootFailed launch.failure
        else ended := by
  have closing := before.closeLaunch_changes id launch
  have killed := (before.closeLaunch id launch).tryOnStream_changes launch.stream
    ProcessStream.kill
  have closed := closing.andThen killed (List.Subset.refl _)
  have host : ((before.closeLaunch id launch).tryOnStream launch.stream
      ProcessStream.kill).host = before.host := closed.same .host (by decide)
  refine ⟨_, closed, killed.same .launches (by decide), ?_⟩
  unfold giveUpLaunch
  rw [known]
  dsimp only
  rw [if_pos (by simp [awaited, due]), host]

theorem giveUpLaunch_attempt (before : Console) (id : Nat) :
    AttemptMove before (.work (.giveUp id)) (before.giveUpLaunch id) := by
  have nothing (idle : before.giveUpLaunch id = before) :
      AttemptMove before (.work (.giveUp id)) (before.giveUpLaunch id) := by
    rw [idle]
    exact .of_changes (.refl [] before) (by decide) rfl
  cases known : before.launches[id]? with
  | none => exact nothing (by rw [giveUpLaunch, known])
  | some launch =>
      by_cases overdue : launch.awaited = true ∧ launch.due ≤ before.now
      · obtain ⟨ended, closed, launches, reached⟩ := giveUpLaunch_eq known overdue.1 overdue.2
        rw [reached]
        split
        next reports =>
            have told := ended.emit_changes (.reportedFailure launch.failure) rfl
            exact .givenUp id launch (ended.emit (.reportedFailure launch.failure)) rfl known
              overdue.1 overdue.2 reports (closed.andThen told (by decide)) launches rfl
        next => exact .dropped id launch rfl (closed.same .session (by decide)) launches
      · refine nothing ?_
        rw [giveUpLaunch, known]
        exact if_neg (by simpa using overdue)

theorem incidental_attempt (before : Console) {event : Event}
    (incidental : event.incidental = true) :
    AttemptMove before event (before.apply event) := by
  have unasked : before.asksStart event = false := by
    cases event <;> first | rfl | cases incidental
  exact .of_changes (before.incidental_changes incidental) (by decide) unasked

/-- Whatever happens comes to one of a few things for the attempts. -/
theorem attemptMove_apply (fresh : Fresh base) (settled : Settled base before) (event : Event) :
    AttemptMove before event (before.apply event) := by
  cases event with
  | start => exact start_attempt fresh settled rfl
  | press key =>
      cases asked : before.asksSession key with
      | true =>
          have reached : before.apply (.press key) = before.start.1 := pressKey_asked asked
          rw [reached]
          exact start_attempt fresh settled asked
      | false => exact .of_changes (pressKey_changes asked) (by decide) asked
  | bootFailed failure => exact .told failure rfl rfl
  | connect spec =>
      obtain ⟨state, launches⟩ := connect_launches fresh settled spec
      exact .connects spec rfl state launches
  | launched id => exact launchConnects_attempt fresh settled id
  | disconnect => exact .of_disconnect fresh settled (.refl _ before) rfl
  | endConnection id => exact .of_endConnection fresh settled (.refl _ before) rfl id
  | resetPending => exact .of_changes before.resetPending_changes (by decide) rfl
  | frame frame => exact .of_changes (before.handleFrame_changes frame) (by decide) rfl
  | call ticket expected name args =>
      exact .of_changes (before.call_changes name args _) (by decide) rfl
  | openLink ticket position =>
      exact .of_changes (before.openLink_changes ticket position) (by decide) rfl
  | write bytes => exact .of_changes (before.write_changes bytes) (by decide) rfl
  | pump => exact .of_changes before.pump_changes (by decide) rfl
  | clear => exact .of_changes before.clear_changes (by decide) rfl
  | resize size => exact .of_changes (before.resize_changes size) (by decide) rfl
  | work step =>
      cases step with
      | task => exact .of_changes before.runOldest_changes (by decide) rfl
      | read channel => exact readWire_attempt fresh settled channel
      | finish channel => exact finishWire_attempt fresh settled (.refl _ before) rfl channel
      | giveUp id => exact giveUpLaunch_attempt before id
      | _ => exact before.incidental_attempt rfl
  | _ => exact before.incidental_attempt rfl

end

end Console

open Console

/-! ### Reports -/

/-- The failure of one of the attempts made so far is reported: the embedding program says so
of any of them, or the command that one of them launched is given up, and the host lets the
session know. -/
inductive Reports (attempts : List Attempt) (console : Console) (attempt : Nat) :
    Event → Failure → Prop where
  | told (made : attempt < attempts.length) (failure : Failure) :
      Reports attempts console attempt (.bootFailed failure) failure
  | givenUp {id : Nat} {launch : Launch}
      (launched : (attempts[attempt]?).bind Attempt.launch = some id)
      (known : console.launches[id]? = some launch) (awaited : launch.awaited = true)
      (due : launch.due ≤ console.now) (reported : console.host.reportsFailures = true) :
      Reports attempts console attempt (.work (.giveUp id)) launch.failure

/-- The command that the attempt the session waits for launched, if it launched one. -/
def awaitedLaunch (attempts : List Attempt) : Option Nat :=
  attempts.getLast?.bind Attempt.launch

/-- The session never goes on without the command it waits for: as long as the command is
waited for, the session waits. -/
def Loyal (start : Console) (events : List Event) : Prop :=
  ∀ earlier event later id, events = earlier ++ event :: later →
    (start.run earlier).session.state = .starting →
    awaitedLaunch (start.noted attempted earlier) = some id →
    (start.run earlier).awaits id = true →
    (start.run (earlier ++ [event])).session.state = .starting ∨
      (start.run (earlier ++ [event])).awaits id = false

section

variable {attempts : List Attempt} {console : Console} {attempt : Nat} {event : Event}
  {failure : Failure}

/-- Whatever attempt it is of, a report comes to the session in the same way. -/
theorem Reports.reached (report : Reports attempts console attempt event failure) :
    ∃ ready, Changes [.launches, .streams, .trace] console ready ∧
      console.apply event = ready.bootFailed failure := by
  cases report with
  | told made failure => exact ⟨console, .refl _ console, rfl⟩
  | @givenUp id launch launched known awaited due reported =>
      obtain ⟨ended, closed, -, reached⟩ := giveUpLaunch_eq known awaited due
      rw [if_pos reported] at reached
      have told := ended.emit_changes (.reportedFailure launch.failure) rfl
      exact ⟨_, closed.andThen told (by decide), reached⟩

/-- A session that waits for the runtime takes every report for that of its attempt. -/
theorem Reports.heard (report : Reports attempts console attempt event failure)
    (starting : console.session.state = .starting) :
    (console.apply event).session.state = .detached ∧
      (console.apply event).terminal.display =
        (ScreenAct.text (failureMessage failure)).on console.terminal.display := by
  obtain ⟨ready, readied, reached⟩ := report.reached
  have session : ready.session = console.session := readied.same .session (by decide)
  have display : ready.terminal.display = console.terminal.display :=
    readied.same .display (by decide)
  have shown := (ready.withSessionState .detached).writeText_changes (failureMessage failure)
  have named : (ready.bootFailed failure).session =
      (ready.withSessionState .detached).session :=
    bootFailed_of_starting (session ▸ starting) failure ▸ shown.same .session (by decide)
  rw [reached, named, bootFailed_of_starting (session ▸ starting), writeText_display, ← display]
  exact ⟨rfl, rfl⟩

/-- A session that does not wait for the runtime takes no notice of a report. -/
theorem Reports.ignored (report : Reports attempts console attempt event failure)
    (other : console.session.state ≠ .starting) :
    (console.apply event).session = console.session ∧
      (console.apply event).terminal.display = console.terminal.display := by
  obtain ⟨ready, readied, reached⟩ := report.reached
  have session : ready.session = console.session := readied.same .session (by decide)
  have same : ready.bootFailed failure = ready := if_neg (session ▸ other)
  rw [reached, same]
  exact ⟨session, readied.same .display (by decide)⟩

end

section

variable {base : Console} {events : List Event}

/-! ### The attempts of a run -/

/-- Every launched command belongs to one attempt, and later ones to later attempts. -/
theorem launches_of_attempts (fresh : Fresh base) (unlaunched : base.launches = [])
    (events : List Event) :
    (base.activateSession.noted attempted events).filterMap Attempt.launch =
      List.range (base.activateSession.run events).launches.length := by
  obtain ⟨begun, begunOrdered⟩ := activateSession_settled fresh
  induction events using List.reverseRecOn with
  | nil =>
      have none : base.activateSession.launches = [] := unlaunched
      simp [noted, none]
  | append_singleton events event inductionHypothesis =>
      obtain ⟨settled, -⟩ := begun.run fresh begunOrdered events
      have move := attemptMove_apply fresh settled event
      rw [noted_concat, run_concat, List.filterMap_append, inductionHypothesis]
      generalize base.activateSession.run events = console at move ⊢
      have added (unasked : console.asksStart event = false)
          (length : (console.apply event).launches.length = console.launches.length) :
          List.range console.launches.length ++
              (console.attempted event).filterMap Attempt.launch =
            List.range (console.apply event).launches.length := by
        rw [attempted_of_unasked unasked, length, List.filterMap_nil, List.append_nil]
      cases move with
      | aside session launches none => rw [none, launches, List.filterMap_nil, List.append_nil]
      | begins asked allowed launched =>
          rw [attempted_of_asked asked allowed]
          rcases launched with same | ⟨-, launch, more⟩
          · simp [same]
          · simp [more, List.range_succ]
      | told failure asked reached =>
          subst asked
          exact added rfl (congrArg List.length (console.bootFailed_launches failure))
      | givenUp id launch ready asked known awaited due reports readied closed reached =>
          subst asked
          exact added rfl (by rw [reached, bootFailed_launches, closed, List.length_set])
      | dropped id launch asked session closed =>
          subst asked
          exact added rfl (by rw [closed, List.length_set])
      | connects spec asked state launches =>
          subst asked
          exact added rfl (by rw [launches])
      | arrives id launch asked state closed =>
          subst asked
          exact added rfl (by rw [closed, List.length_set])
      | ends attached state launches unasked => exact added unasked (by rw [launches])

/-- The last attempt is pending: the session has waited for the runtime ever since it began. -/
def Pending (start : Console) (events : List Event) : Prop :=
  ∃ earlier event later, events = earlier ++ event :: later ∧
    (start.run earlier).attempted event ≠ [] ∧
    start.noted attempted events =
      start.noted attempted earlier ++ (start.run earlier).attempted event ∧
    ∀ past, past <+: later → (start.run (earlier ++ event :: past)).session.state = .starting

/-- An attempt that is pending stays pending while the session waits. -/
theorem Pending.lasts {start : Console} {event : Event} (pending : Pending start events)
    (before : (start.run events).session.state = .starting)
    (after : (start.run (events ++ [event])).session.state = .starting) :
    Pending start (events ++ [event]) := by
  obtain ⟨earlier, first, later, split, made, ledger, waiting⟩ := pending
  have refused : (start.run events).session.state.canStart = false := by
    rw [before]
    rfl
  have whole : earlier ++ first :: (later ++ [event]) = events ++ [event] := by simp [split]
  refine ⟨earlier, first, later ++ [event], whole.symm, made, ?_, fun past inside => ?_⟩
  · rw [noted_concat, ledger, attempted_of_refused refused, List.append_nil]
  · rcases List.prefix_concat_iff.mp inside with rfl | inside
    · rw [whole]
      exact after
    · exact waiting past inside

/-- A session that waits for the runtime has waited since its last attempt began. -/
theorem pending_attempt (fresh : Fresh base) (events : List Event)
    (starting : (base.activateSession.run events).session.state = .starting) :
    Pending base.activateSession events := by
  obtain ⟨begun, begunOrdered⟩ := activateSession_settled fresh
  induction events using List.reverseRecOn with
  | nil =>
      have idle : base.activateSession.session.state = .idle := by
        simp [activateSession, fresh.session, Session.idle]
      rw [run_nil, idle] at starting
      cases starting
  | append_singleton events event inductionHypothesis =>
      obtain ⟨settled, -⟩ := begun.run fresh begunOrdered events
      have move := attemptMove_apply fresh settled event
      have lasting (before : (base.activateSession.run events).session.state = .starting) :=
        (inductionHypothesis before).lasts before starting
      rw [run_concat] at starting
      cases move with
      | aside session launches none => exact lasting (session ▸ starting)
      | begins asked allowed launched =>
          have made : (base.activateSession.run events).attempted event ≠ [] := by
            rw [attempted_of_asked asked allowed]
            exact List.cons_ne_nil _ _
          refine ⟨events, event, [], rfl, made, by rw [noted_concat], fun past inside => ?_⟩
          rw [List.prefix_nil.mp inside, run_concat]
          exact starting
      | told failure asked reached =>
          exact absurd (reached ▸ starting) (bootFailed_not_starting _ failure)
      | givenUp id launch ready asked known awaited due reports readied closed reached =>
          exact absurd (reached ▸ starting) (bootFailed_not_starting ready launch.failure)
      | dropped id launch asked session closed => exact lasting (session ▸ starting)
      | connects spec asked state launches =>
          rw [state] at starting
          cases starting
      | arrives id launch asked state closed =>
          rw [state] at starting
          cases starting
      | ends attached state launches unasked =>
          rw [state] at starting
          cases starting

/-- One attempt at most launched a given command. -/
theorem attempt_of_launch {attempts : List Attempt}
    (distinct : (attempts.filterMap Attempt.launch).Nodup) {first second id : Nat}
    (one : (attempts[first]?).bind Attempt.launch = some id)
    (other : (attempts[second]?).bind Attempt.launch = some id) : first = second := by
  rw [List.Nodup, List.pairwise_filterMap] at distinct
  obtain ⟨oneAttempt, oneThere, oneLaunch⟩ := Option.bind_eq_some_iff.mp one
  obtain ⟨otherAttempt, otherThere, otherLaunch⟩ := Option.bind_eq_some_iff.mp other
  obtain ⟨oneInside, rfl⟩ := List.getElem?_eq_some_iff.mp oneThere
  obtain ⟨otherInside, rfl⟩ := List.getElem?_eq_some_iff.mp otherThere
  have apart := List.pairwise_iff_getElem.mp distinct
  rcases Nat.lt_trichotomy first second with before | same | after
  · exact absurd rfl (apart first second oneInside otherInside before id oneLaunch id otherLaunch)
  · exact same
  · exact absurd rfl (apart second first otherInside oneInside after id otherLaunch id oneLaunch)

/-- Every command that was launched was launched by an attempt. -/
theorem attempt_of_launched (fresh : Fresh base) (unlaunched : base.launches = []) {id : Nat}
    {launch : Launch} (known : (base.activateSession.run events).launches[id]? = some launch) :
    ∃ attempt : Nat, ((base.activateSession.noted attempted events)[attempt]?).bind
      Attempt.launch = some id := by
  have inside := (List.getElem?_eq_some_iff.mp known).1
  have member := List.mem_range.mpr inside
  rw [← launches_of_attempts fresh unlaunched events] at member
  obtain ⟨made, there, launched⟩ := List.mem_filterMap.mp member
  obtain ⟨attempt, within, rfl⟩ := List.mem_iff_getElem.mp there
  exact ⟨attempt, by simp [List.getElem?_eq_getElem within, launched]⟩

/-! ### What ends a wait -/

/-- Only a report takes a session that waits for the runtime back to its rest. -/
theorem report_of_detached (fresh : Fresh base) (unlaunched : base.launches = [])
    (starting : (base.activateSession.run events).session.state = .starting) {event : Event}
    (detached : ((base.activateSession.run events).apply event).session.state = .detached) :
    ∃ attempt failure, Reports (base.activateSession.noted attempted events)
      (base.activateSession.run events) attempt event failure := by
  obtain ⟨begun, begunOrdered⟩ := activateSession_settled fresh
  obtain ⟨settled, -⟩ := begun.run fresh begunOrdered events
  cases attemptMove_apply fresh settled event with
  | aside session launches none =>
      rw [session, starting] at detached
      cases detached
  | begins asked allowed launched =>
      rw [starting] at allowed
      cases allowed
  | told failure asked reached =>
      subst asked
      obtain ⟨earlier, first, later, -, made, ledger, -⟩ := pending_attempt fresh events starting
      refine ⟨0, failure, .told ?_ failure⟩
      rw [ledger, List.length_append]
      exact Nat.lt_add_left _ (List.length_pos_iff.mpr made)
  | givenUp id launch ready asked known awaited due reports readied closed reached =>
      subst asked
      obtain ⟨attempt, launched⟩ := attempt_of_launched fresh unlaunched known
      exact ⟨attempt, launch.failure, .givenUp launched known awaited due reports⟩
  | dropped id launch asked session closed =>
      rw [session, starting] at detached
      cases detached
  | connects spec asked state launches =>
      rw [state] at detached
      cases detached
  | arrives id launch asked state closed =>
      rw [state] at detached
      cases detached
  | ends attached state launches unasked =>
      rw [starting] at attached
      cases attached

/-- A command that is waited for is overtaken when something else connects, or when another
failure is taken for that of its attempt. -/
theorem overtaken_by (fresh : Fresh base)
    (starting : (base.activateSession.run events).session.state = .starting) {event : Event}
    {id : Nat} (finished : ((base.activateSession.run events).apply event).session.state ≠ .starting)
    (still : ((base.activateSession.run events).apply event).awaits id = true) :
    (∃ spec, event = .connect spec) ∨ (∃ failure, event = .bootFailed failure) ∨
      ∃ other, other ≠ id ∧ (event = .launched other ∨ event = .work (.giveUp other)) := by
  obtain ⟨begun, begunOrdered⟩ := activateSession_settled fresh
  obtain ⟨settled, -⟩ := begun.run fresh begunOrdered events
  cases attemptMove_apply fresh settled event with
  | aside session launches none => exact absurd (session ▸ starting) finished
  | begins asked allowed launched =>
      rw [starting] at allowed
      cases allowed
  | told failure asked reached => exact .inr (.inl ⟨failure, asked⟩)
  | givenUp other launch ready asked known awaited due reports readied closed reached =>
      have launches : ((base.activateSession.run events).apply event).launches =
          (base.activateSession.run events).launches.set other { launch with awaited := false } := by
        rw [reached, bootFailed_launches, closed]
      exact .inr (.inr ⟨other, ((awaits_of_closed launches id).mp still).2.symm, .inr asked⟩)
  | dropped other launch asked session closed => exact absurd (session ▸ starting) finished
  | connects spec asked state launches => exact .inl ⟨spec, asked⟩
  | arrives other launch asked state closed =>
      exact .inr (.inr ⟨other, ((awaits_of_closed closed id).mp still).2.symm, .inl asked⟩)
  | ends attached state launches unasked =>
      rw [starting] at attached
      cases attached

/-- Where the session never goes on without the command it waits for, no other command is
waited for. -/
theorem awaited_of_loyal (fresh : Fresh base) (unlaunched : base.launches = [])
    (loyal : Loyal base.activateSession events) {id : Nat}
    (waits : (base.activateSession.run events).awaits id = true) :
    (base.activateSession.run events).session.state = .starting ∧
      awaitedLaunch (base.activateSession.noted attempted events) = some id := by
  obtain ⟨begun, begunOrdered⟩ := activateSession_settled fresh
  induction events using List.reverseRecOn generalizing id with
  | nil =>
      have none : base.activateSession.launches = [] := unlaunched
      simp [awaits, none] at waits
  | append_singleton events event inductionHypothesis =>
      obtain ⟨settled, -⟩ := begun.run fresh begunOrdered events
      have move := attemptMove_apply fresh settled event
      have ledger := launches_of_attempts fresh unlaunched events
      -- What holds of all that is waited for, before and now.
      have before {id : Nat} (waits : (base.activateSession.run events).awaits id = true) :=
        inductionHypothesis (fun earlier first later other split =>
          loyal earlier first (later ++ [event]) other (by simp [split])) waits
      have loyalNow (id : Nat) := loyal events event [] id rfl
      rw [run_concat] at waits loyalNow ⊢
      rw [noted_concat]
      generalize base.activateSession.run events = console
        at move ledger before loyalNow waits ⊢
      generalize base.activateSession.noted attempted events = attempts
        at ledger before loyalNow ⊢
      -- Where the wait is over, the command that was waited for is not waited for any more.
      have released (finished : (console.apply event).session.state ≠ .starting)
          (earlier : console.awaits id = true) : False := by
        obtain ⟨starting, own⟩ := before earlier
        rcases loyalNow id starting own earlier with still | free
        · exact finished still
        · rw [waits] at free
          cases free
      cases move with
      | aside session launches none =>
          rw [awaits_of_launches launches] at waits
          rw [session, none, List.append_nil]
          exact before waits
      | begins asked allowed launched =>
          have unawaited (other : Nat) : console.awaits other ≠ true := fun waited => by
            rw [(before waited).1] at allowed
            cases allowed
          rcases launched with same | ⟨state, launch, more⟩
          · rw [awaits_of_launches same] at waits
            exact absurd waits (unawaited id)
          · refine ⟨state, ?_⟩
            rw [attempted_of_asked asked allowed, awaitedLaunch, List.getLast?_concat,
              awaits_of_added more unawaited waits, more]
            simp
      | told failure asked reached =>
          have launches : (console.apply event).launches = console.launches := by
            rw [reached, bootFailed_launches]
          have finished : (console.apply event).session.state ≠ .starting :=
            reached ▸ console.bootFailed_not_starting failure
          exact (released finished ((awaits_of_launches launches id).symm.trans waits)).elim
      | givenUp other launch ready asked known awaited due reports readied closed reached =>
          have launches : (console.apply event).launches =
              console.launches.set other { launch with awaited := false } := by
            rw [reached, bootFailed_launches, closed]
          obtain ⟨earlier, different⟩ := (awaits_of_closed launches id).mp waits
          have alone := (before (awaits_iff.mpr ⟨launch, known, awaited⟩)).2
          exact absurd (Option.some.inj ((before earlier).2.symm.trans alone)) different
      | dropped other launch asked session closed =>
          obtain ⟨earlier, -⟩ := (awaits_of_closed closed id).mp waits
          have unasked : console.asksStart event = false := by rw [asked]; rfl
          rw [session, attempted_of_unasked unasked, List.append_nil]
          exact before earlier
      | connects spec asked state launches =>
          rw [awaits_of_launches launches] at waits
          exact (released (by rw [state]; nofun) waits).elim
      | arrives other launch asked state closed =>
          obtain ⟨earlier, -⟩ := (awaits_of_closed closed id).mp waits
          exact (released (by rw [state]; nofun) earlier).elim
      | ends attached state launches unasked =>
          rw [awaits_of_launches launches] at waits
          rw [(before waits).1] at attached
          cases attached

end

/-! ### Failures and attempts -/

/-- What holds after a run of a console whose session has been activated. -/
structure FailureReports (start : Console) (events : List Event) : Prop where
  /-- Every command that was launched belongs to one attempt. -/
  launches : (start.noted attempted events).filterMap Attempt.launch =
    List.range (start.run events).launches.length
  /-- A session that waits for the runtime waits for its last attempt, and has waited ever
  since that one began. -/
  pending : (start.run events).session.state = .starting →
    ∃ earlier event later, events = earlier ++ event :: later ∧
      (start.run earlier).attempted event ≠ [] ∧
      start.noted attempted events =
        start.noted attempted earlier ++ (start.run earlier).attempted event ∧
      ∀ past, past <+: later →
        (start.run (earlier ++ event :: past)).session.state = .starting
  /-- While an attempt is pending, the report of any attempt is taken for one of it, also
  that of an earlier attempt. -/
  heard : (start.run events).session.state = .starting → ∀ attempt event failure,
    Reports (start.noted attempted events) (start.run events) attempt event failure →
      (start.run (events ++ [event])).session.state = .detached ∧
        (start.run (events ++ [event])).terminal.display =
          (ScreenAct.text (failureMessage failure)).on (start.run events).terminal.display
  /-- While none is pending, the report of any attempt is ignored. -/
  ignored : (start.run events).session.state ≠ .starting → ∀ attempt event failure,
    Reports (start.noted attempted events) (start.run events) attempt event failure →
      (start.run (events ++ [event])).session = (start.run events).session ∧
        (start.run (events ++ [event])).terminal.display = (start.run events).terminal.display
  /-- Nothing but a report takes a session that waits back to its rest. -/
  cause : (start.run events).session.state = .starting → ∀ event,
    (start.run (events ++ [event])).session.state = .detached → ∃ attempt failure,
      Reports (start.noted attempted events) (start.run events) attempt event failure
  /-- A command the session waits for is overtaken, so that its failure comes late, when
  something else connects or another failure is taken for its own. -/
  overtaken : (start.run events).session.state = .starting → ∀ event id,
    awaitedLaunch (start.noted attempted events) = some id →
      (start.run (events ++ [event])).session.state ≠ .starting →
        (start.run (events ++ [event])).awaits id = true →
          (∃ spec, event = .connect spec) ∨ (∃ failure, event = .bootFailed failure) ∨
            ∃ other, other ≠ id ∧ (event = .launched other ∨ event = .work (.giveUp other))
  /-- Where that never happens, a command that is given up is the one of the pending
  attempt. -/
  own : Loyal start events → ∀ attempt id failure,
    Reports (start.noted attempted events) (start.run events) attempt (.work (.giveUp id))
        failure →
      (start.run events).session.state = .starting ∧
        attempt + 1 = (start.noted attempted events).length

/-- Reports of failed attempts over every run of a console in which the session has been
activated once.  A report says nothing of the attempt it belongs to, so a late one ends
whatever attempt is pending. -/
theorem failure_reports (base : Console) (events : List Event) (fresh : Fresh base)
    (unlaunched : base.launches = []) : FailureReports base.activateSession events where
  launches := launches_of_attempts fresh unlaunched events
  pending := pending_attempt fresh events
  heard starting attempt event failure report := by
    rw [run_concat]
    exact report.heard starting
  ignored other attempt event failure report := by
    rw [run_concat]
    exact report.ignored other
  cause starting event detached := by
    rw [run_concat] at detached
    exact report_of_detached fresh unlaunched starting detached
  overtaken starting event id own finished still := by
    rw [run_concat] at finished still
    exact overtaken_by fresh starting finished still
  own loyal attempt id failure report := by
    have distinct : ((base.activateSession.noted attempted events).filterMap
        Attempt.launch).Nodup := by
      rw [launches_of_attempts fresh unlaunched events]
      exact List.nodup_range
    cases report with
    | givenUp launched known awaited due reported =>
        obtain ⟨starting, last⟩ :=
          awaited_of_loyal fresh unlaunched loyal (awaits_iff.mpr ⟨_, known, awaited⟩)
        rw [awaitedLaunch, List.getLast?_eq_getElem?] at last
        have made : (base.activateSession.noted attempted events).length ≠ 0 := fun none => by
          simp [List.length_eq_zero_iff.mp none] at launched
        have same := attempt_of_launch distinct launched last
        exact ⟨starting, by omega⟩

/-- The runtime is launched, something else connects and goes away again, and the runtime is
launched once more while the first launch is still waited for. -/
def launchOvertaken : List Event :=
  [.equip ⟨.null, .launches "julia" 1000⟩, .start, .connect .plain, .disconnect, .clock 500,
    .start, .clock 1000]

/-- The first launch is given up while the second is pending, and the session takes its failure
for that of the second. -/
theorem failure_reports_overtaken :
    let start := (Console.bare ⟨6, 60⟩).activateSession
    Fresh (Console.bare ⟨6, 60⟩) ∧ (Console.bare ⟨6, 60⟩).launches = [] ∧
      FailureReports start launchOvertaken ∧
      start.noted attempted launchOvertaken = [⟨some 0⟩, ⟨some 1⟩] ∧
      Reports (start.noted attempted launchOvertaken) (start.run launchOvertaken) 0
        (.work (.giveUp 0)) (.spawn "julia" "no connection within 1000ms") ∧
      (start.run launchOvertaken).session.state = .starting ∧
      (start.run (launchOvertaken ++ [.work (.giveUp 0)])).session.state = .detached := by
  have ledger : ((Console.bare ⟨6, 60⟩).activateSession).noted attempted launchOvertaken =
      [⟨some 0⟩, ⟨some 1⟩] := by decide +kernel
  have report : Reports [⟨some 0⟩, ⟨some 1⟩]
      ((Console.bare ⟨6, 60⟩).activateSession.run launchOvertaken) 0 (.work (.giveUp 0))
      (Launch.failure ⟨"julia", 0, 1000, 1000, true⟩) :=
    .givenUp rfl (by decide +kernel) rfl (by decide +kernel) (by decide +kernel)
  have named : Launch.failure ⟨"julia", 0, 1000, 1000, true⟩ =
      .spawn "julia" "no connection within 1000ms" := by decide +kernel
  exact ⟨bare_fresh _, rfl, failure_reports _ _ (bare_fresh _) rfl, ledger,
    ledger ▸ named ▸ report, by decide +kernel, by decide +kernel⟩

end RuntimeConsole
