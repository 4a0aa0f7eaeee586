/-
Module: RuntimeConsole.Proofs.SessionCycle
Purpose: A session between connections and during one, and how a connection that begins
  or ends takes it from the one to the other.
Main exports:
  Console.Fresh, Console.Unbound, Console.Bound, Console.disconnectWithin_ended,
  Console.connectWithin_began
-/
import RuntimeConsole.Proofs.ScreenActs
import RuntimeConsole.Proofs.Wiring

namespace RuntimeConsole

/-! ### Observers that leave connections alone -/

/-- Whether an action neither begins nor ends a connection. -/
def ClientAction.passive : ClientAction → Bool
  | .send _ => true
  | .connect _ | .disconnect | .boot => false

/-- Whether code of the embedding program leaves connections alone when it is told of
one. -/
def BootObserver.passive : BootObserver → Bool
  | .session => false
  | .guest _ _ actions => actions.all ClientAction.passive

/-- Whether code of the embedding program leaves connections alone when it is told that
one has ended. -/
def DetachObserver.passive : DetachObserver → Bool
  | .session => false
  | .guest _ actions => actions.all ClientAction.passive

namespace Console

theorem performWithin_passive_changes (nesting : Nat) (console : Console)
    (actions : List ClientAction) (passive : actions.all ClientAction.passive = true) :
    Changes [.channels, .trace] console (actions.foldl (performWithin nesting) console) := by
  induction actions generalizing console with
  | nil => exact .refl _ console
  | cons action actions inductionHypothesis =>
      rw [List.all_cons, Bool.and_eq_true] at passive
      refine .trans ?_ (inductionHypothesis _ passive.2)
      cases action with
      | send name =>
          rw [performWithin]
          exact console.send_changes name []
      | _ => cases passive.1

theorem tellBoot_passive_changes (nesting : Nat) (console : Console) (process : Nat)
    (observer : BootObserver) (passive : observer.passive = true) :
    Changes [.processes, .channels, .trace] console
      (tellBoot (nesting + 1) console process observer) := by
  cases observer with
  | session => cases passive
  | guest label takesEarly actions =>
      rw [tellBoot]
      cases takesEarly with
      | false =>
          exact (emit_changes _ _ rfl).andThen
            (performWithin_passive_changes nesting _ actions passive) (by decide)
      | true =>
          refine ((console.takeEarly_changes process).mono (by decide)).trans ?_
          exact (emit_changes _ _ rfl).andThen
            (performWithin_passive_changes nesting _ actions passive) (by decide)

theorem tellDetach_passive_changes (nesting : Nat) (console : Console)
    (observer : DetachObserver) (passive : observer.passive = true) :
    Changes [.channels, .trace] console (tellDetach (nesting + 1) console observer) := by
  cases observer with
  | session => cases passive
  | guest label actions =>
      rw [tellDetach]
      exact ((emit_changes _ _ rfl).mono (by decide)).trans
        (performWithin_passive_changes nesting _ actions passive)

/-- An observer that takes what was printed early leaves nothing of it. -/
theorem tellBoot_passive_earlyOf (nesting : Nat) (console : Console) (process : Nat)
    (observer : BootObserver) (passive : observer.passive = true) :
    (tellBoot (nesting + 1) console process observer).earlyOf process =
      if observer.takesEarly then none else console.earlyOf process := by
  cases observer with
  | session => cases passive
  | guest label takesEarly actions =>
      rw [tellBoot]
      cases takesEarly with
      | false =>
          rw [earlyOf_of_changes (performWithin_passive_changes nesting _ actions passive)
            (by decide)]
          rfl
      | true =>
          rw [earlyOf_of_changes (performWithin_passive_changes nesting _ actions passive)
            (by decide)]
          exact console.takeEarly_earlyOf process

theorem tellBoots_passive_earlyOf (nesting process : Nat) (observers : List (Nat × BootObserver))
    (passive : ∀ entry ∈ observers, entry.2.passive = true) (console : Console) :
    (observers.foldl (fun console entry => tellBoot (nesting + 1) console process entry.2)
        console).earlyOf process =
      if observers.any fun entry => entry.2.takesEarly then none else console.earlyOf process := by
  induction observers generalizing console with
  | nil => rfl
  | cons entry observers inductionHypothesis =>
      rw [List.foldl_cons, inductionHypothesis fun other member => passive other (by simp [member]),
        tellBoot_passive_earlyOf nesting console process entry.2 (passive entry (by simp)),
        List.any_cons]
      cases entry.2.takesEarly with
      | false => rfl
      | true => simp

/-! ### The session before, between and during connections -/

/-- A console the session can be activated on: its client has not been connected, nothing
is put off, and whoever follows the client, the settings, the rows and the modules is
code of the embedding program that leaves connections alone. -/
structure Fresh (base : Console) : Prop where
  callFree : base.CallFree
  session : base.session = .idle
  attached : base.terminal.stream = none
  resolvers : base.resolvers = []
  bootObservers : ∀ entry ∈ base.client.bootObservers, entry.2.passive = true
  detachObservers : ∀ entry ∈ base.client.detachObservers, entry.2.passive = true
  keys : base.wiring.InOrder
  watchers : ∀ entry ∈ base.watchers, entry.2 ≠ .prompt
  listeners : ∀ entry ∈ base.terminal.listeners, ∃ label, entry.2 = .guest label
  moduleListeners : ∀ entry ∈ base.modules.listeners, ∃ label, entry.2 = .guest label
  overrun : base.overrun = false

/-- What stays as it was when the session was activated: who is told of connections, and
who is asked to start the runtime. -/
structure Steady (base console : Console) : Prop where
  bootObservers : ∃ id, console.client.bootObservers = base.client.bootObservers ++ [(id, .session)]
  detachObservers : ∃ id,
    console.client.detachObservers = base.client.detachObservers ++ [(id, .session)]
  startHandler : console.terminal.startHandler = some .session
  overrun : console.overrun = false

/-- There is no connection, and the session holds nothing. -/
structure Unbound (base console : Console) : Prop where
  connection : console.client.connection = none
  state : console.session.state ≠ .attached
  cycle : console.session.cycle = .empty
  attached : console.terminal.stream = none
  wiring : Wiring.Idle base.wiring console.wiring

/-- There is a connection, its process is attached to the terminal, and the session is
registered for it under some keys. -/
structure Bound (base : Console) (keys : CycleKeys) (console : Console) : Prop where
  connection : ∃ connection stream, console.client.connection = some connection ∧
    (console.processes.map RemoteProcess.stream)[connection.process]? = some stream ∧
    console.terminal.stream = some stream
  state : console.session.state = .attached
  cycle : console.session.cycle = keys.cycle
  wiring : Wiring.Registered base.wiring keys console.wiring

section

variable {base before after : Console} {keys : CycleKeys} {aspects : List Aspect}

theorem Steady.of_changes (steady : Steady base before) (step : Changes aspects before after)
    (apart : [.observers, .keyboard, .overrun].all (· ∉ aspects) = true) : Steady base after := by
  have observersSame := step.kept apart .observers (by decide)
  have keyboardSame := step.kept apart .keyboard (by decide)
  simp only [look, Prod.mk.injEq] at observersSame keyboardSame
  exact {
    bootObservers := observersSame.1 ▸ steady.bootObservers
    detachObservers := observersSame.2 ▸ steady.detachObservers
    startHandler := keyboardSame.2 ▸ steady.startHandler
    overrun := (step.kept apart .overrun (by decide)).trans steady.overrun }

/-- Where a session is between connections or during one, apart from the streams of
processes. -/
def bindingAspects : List Aspect :=
  [.connection, .session, .attached, .watchers, .listeners, .moduleListeners, .living, .timers]

theorem Unbound.of_changes (unbound : Unbound base before) (step : Changes aspects before after)
    (apart : bindingAspects.all (· ∉ aspects) = true) : Unbound base after := by
  have wiring := wiring_of_changes step (apart_mono apart (by decide))
  have session : after.session = before.session := step.kept apart .session (by decide)
  exact {
    connection := (step.kept apart .connection (by decide)).trans unbound.connection
    state := session ▸ unbound.state
    cycle := session ▸ unbound.cycle
    attached := (step.kept apart .attached (by decide)).trans unbound.attached
    wiring := wiring ▸ unbound.wiring }

/-- Processes may have come in the meantime. -/
theorem Bound.of_changes (bound : Bound base keys before) (step : Changes aspects before after)
    (apart : bindingAspects.all (· ∉ aspects) = true)
    (origins : before.processes.map RemoteProcess.stream <+:
      after.processes.map RemoteProcess.stream) : Bound base keys after := by
  have wiring := wiring_of_changes step (apart_mono apart (by decide))
  have session : after.session = before.session := step.kept apart .session (by decide)
  obtain ⟨connection, stream, connected, origin, shown⟩ := bound.connection
  obtain ⟨inside, here⟩ := List.getElem?_eq_some_iff.mp origin
  have still := (List.prefix_iff_getElem?.mp origins connection.process inside).trans
    (congrArg some here)
  exact {
    connection := ⟨connection, stream,
      (step.kept apart .connection (by decide)).trans connected, still,
      (step.kept apart .attached (by decide)).trans shown⟩
    state := session ▸ bound.state
    cycle := session ▸ bound.cycle
    wiring := wiring ▸ bound.wiring }

theorem Bound.of_changes_apart (bound : Bound base keys before)
    (step : Changes aspects before after)
    (apart : (.origins :: bindingAspects).all (· ∉ aspects) = true) : Bound base keys after := by
  have origins : after.processes.map RemoteProcess.stream =
      before.processes.map RemoteProcess.stream := step.kept apart .origins (by decide)
  exact bound.of_changes step (apart_mono apart (by decide)) (origins ▸ List.prefix_rfl)

end

/-! ### A connection that ends -/

/-- Those who follow the ends of connections are told, the session last. -/
theorem disconnectWithin_eq {base console : Console} (steady : Steady base console)
    (nesting : Nat) (connected : console.client.connection ≠ none) :
    disconnectWithin (nesting + 2) console =
      (base.client.detachObservers.foldl
        (fun console entry => tellDetach (nesting + 1) console entry.2)
        (console.withClient { console.client with connection := none }).resetPending
      ).sessionDetached := by
  obtain ⟨id, observers⟩ := steady.detachObservers
  have isConnected : console.client.isConnected = true := by
    simpa [Client.isConnected, Option.isSome_iff_ne_none] using connected
  have same :
      (console.withClient { console.client with connection := none }).client.detachObservers =
        base.client.detachObservers ++ [(id, .session)] := observers
  rw [disconnectWithin, if_pos isConnected]
  dsimp only
  rw [same, List.foldl_append, List.foldl_cons, List.foldl_nil, tellDetach]

/-- What the session lets go of when a connection ends. -/
def cycleAspects : List Aspect :=
  [.session, .settings, .watchers, .listeners, .resolvers, .living, .moduleListeners, .debouncers]

theorem teardownCycle_changes_of_cycle (console : Console) {keys : CycleKeys}
    (cycle : console.session.cycle = keys.cycle) :
    Changes cycleAspects console console.teardownCycle := by
  rw [teardownCycle, cycle]
  refine .trans ((console.withCycle_changes .empty).mono (by decide)) ?_
  exact dispose_changes_within _ _ (by simp [CycleKeys.cycle, Release.aspects, cycleAspects])

/-- A session that lets go holds nothing and is registered nowhere. -/
theorem teardownCycle_idle {base console : Console} {keys : CycleKeys}
    (ordered : base.wiring.InOrder) (cycle : console.session.cycle = keys.cycle)
    (wiring : Wiring.Registered base.wiring keys console.wiring) :
    console.teardownCycle.session = { console.session with cycle := .empty } ∧
      Wiring.Idle base.wiring console.teardownCycle.wiring := by
  have emptied : (console.withCycle .empty).wiring = console.wiring :=
    wiring_of_changes (console.withCycle_changes .empty) (by decide)
  have disposed := (console.withCycle .empty).dispose_changes console.session.cycle.disposables
  refine ⟨disposed.same .session (by decide), ?_⟩
  rw [teardownCycle, cycle, dispose_wiring, emptied]
  exact wiring.unregister ordered

/-- The aspects a session changes that learns of the end of a connection. -/
def detachedAspects : List Aspect :=
  .attached :: .display :: .scanned :: .tasks :: .trace :: .pending :: .answers :: cycleAspects

/-- The session that learns of the end of a connection holds nothing afterwards. -/
theorem sessionDetached_unbound {base console : Console} {keys : CycleKeys}
    (ordered : base.wiring.InOrder) (disconnected : console.client.connection = none)
    (state : console.session.state = .attached) (cycle : console.session.cycle = keys.cycle)
    (wiring : Wiring.Registered base.wiring keys console.wiring) :
    Unbound base console.sessionDetached ∧ console.sessionDetached.session.state = .detached ∧
      console.sessionDetached.terminal.display =
        ScreenAct.announcesExit.on console.terminal.display ∧
      Changes detachedAspects console console.sessionDetached := by
  rw [sessionDetached, if_pos state]
  have screened : Changes [.attached, .display, .scanned, .resolvers, .tasks, .trace] console
      (console.detach.writeText exitMessage) :=
    console.detach_changes.andThen (writeText_changes _ _) (by decide)
  have announced : (console.detach.writeText exitMessage).terminal.display =
      ScreenAct.announcesExit.on console.terminal.display :=
    console.detach.writeText_display exitMessage
  generalize shownEq : console.detach.writeText exitMessage = shown at screened announced ⊢
  have unattached : shown.terminal.stream = none :=
    shownEq ▸ (console.detach.writeText_changes exitMessage).same .attached (by decide)
  have shownSession : shown.session = console.session := screened.same .session (by decide)
  have shownCycle : shown.session.cycle = keys.cycle := shownSession ▸ cycle
  have shownWiring : Wiring.Registered base.wiring keys shown.wiring :=
    wiring_of_changes screened (by decide) ▸ wiring
  obtain ⟨session, idle⟩ := teardownCycle_idle ordered shownCycle shownWiring
  have torn := shown.teardownCycle_changes_of_cycle shownCycle
  have reset := shown.teardownCycle.resetPending_changes
  have named := shown.teardownCycle.resetPending.withSessionState_changes .detached
  have resetSession : shown.teardownCycle.resetPending.session =
      { shown.session with cycle := .empty } :=
    (reset.same .session (by decide)).trans session
  refine ⟨?_, rfl, ?_, ?_⟩
  · exact {
      connection := (named.same .connection (by decide)).trans ((reset.same .connection
        (by decide)).trans ((torn.same .connection (by decide)).trans
          ((screened.same .connection (by decide)).trans disconnected)))
      state := nofun
      cycle := congrArg Session.cycle resetSession
      attached := (named.same .attached (by decide)).trans ((reset.same .attached
        (by decide)).trans ((torn.same .attached (by decide)).trans unattached))
      wiring := by
        rw [wiring_of_changes named (by decide), wiring_of_changes reset (by decide)]
        exact idle }
  · exact (named.same .display (by decide)).trans ((reset.same .display (by decide)).trans
      ((torn.same .display (by decide)).trans announced))
  · refine .trans (.trans (.trans ?_ (torn.mono (by decide))) (reset.mono (by decide)))
      (named.mono (by decide))
    exact screened.mono (by decide)

/-- The aspects a connection changes that ends. -/
def endedAspects : List Aspect := .connection :: .channels :: detachedAspects

/-- A connection has ended, and the session holds nothing. -/
structure Ended (base before after : Console) : Prop where
  unbound : Unbound base after
  state : after.session.state = .detached
  display : after.terminal.display = ScreenAct.announcesExit.on before.terminal.display
  changes : Changes endedAspects before after

/-- A connection that ends leaves a session that holds nothing. -/
theorem disconnectWithin_ended {base console : Console} {keys : CycleKeys} (fresh : Fresh base)
    (steady : Steady base console) (bound : Bound base keys console) (nesting : Nat) :
    Ended base console (disconnectWithin (nesting + 2) console) := by
  obtain ⟨connection, stream, connected, -⟩ := bound.connection
  rw [disconnectWithin_eq steady nesting (by simp [connected])]
  have closed : Changes [.connection] console
      (console.withClient { console.client with connection := none }) := by
    refine ⟨fun aspect outside => ?_⟩
    cases aspect <;> first | rfl | exact absurd (by decide) outside
  have reset := (console.withClient { console.client with connection := none }).resetPending_changes
  generalize resetEq : (console.withClient { console.client with connection := none }).resetPending
    = waiting at reset ⊢
  have told : Changes [.channels, .trace] waiting (base.client.detachObservers.foldl
      (fun console entry => tellDetach (nesting + 1) console entry.2) waiting) :=
    .foldl_of_mem _ (fun entry member console => tellDetach_passive_changes nesting console entry.2
      (fresh.detachObservers entry member)) _
  generalize base.client.detachObservers.foldl
    (fun console entry => tellDetach (nesting + 1) console entry.2) waiting = reached at told ⊢
  have aside : Changes [.pending, .tasks, .answers, .channels, .trace]
      (console.withClient { console.client with connection := none }) reached :=
    reset.andThen told (by decide)
  have all : Changes [.connection, .pending, .tasks, .answers, .channels, .trace] console reached :=
    closed.andThen aside (by decide)
  have session : reached.session = console.session := all.same .session (by decide)
  obtain ⟨unbound, state, announced, detached⟩ := sessionDetached_unbound fresh.keys
    (aside.same .connection (by decide)) (session ▸ bound.state) (session ▸ bound.cycle)
    (wiring_of_changes all (by decide) ▸ bound.wiring)
  have display : reached.terminal.display = console.terminal.display :=
    all.same .display (by decide)
  exact ⟨unbound, state, announced.trans (by rw [display]),
    all.andThen detached (by decide)⟩

/-! ### A connection that begins -/

/-- Those who follow the beginnings of connections are told, the session last. -/
theorem tellBoots_eq {base console : Console} (steady : Steady base console) (nesting : Nat)
    (process : Nat) :
    console.client.bootObservers.foldl
        (fun console entry => tellBoot nesting console process entry.2) console =
      (base.client.bootObservers.foldl
        (fun console entry => tellBoot nesting console process entry.2) console).sessionBoot
          process := by
  obtain ⟨id, observers⟩ := steady.bootObservers
  rw [observers, List.foldl_append, List.foldl_cons, List.foldl_nil, tellBoot]

/-- The aspects a session changes that begins to hold something while it holds nothing. -/
def openedAspects : List Aspect := .channels :: .trace :: .tasks :: .timers :: cycleAspects

/-- Where the session holds nothing, there is nothing to let go of. -/
theorem beginCycle_eq {console : Console} (cycle : console.session.cycle = .empty) :
    console.beginCycle =
      (console.openCycle.1.withCycle console.openCycle.2).withSessionState .attached := by
  have session : console.openCycle.1.session = console.session :=
    console.openCycle_changes.same .session (by decide)
  rw [beginCycle]
  dsimp only
  rw [session, cycle]
  rfl

/-- A session that begins to hold something while it holds nothing. -/
theorem beginCycle_bound {base console : Console} (cycle : console.session.cycle = .empty)
    (wiring : Wiring.Idle base.wiring console.wiring) :
    console.beginCycle.session.state = .attached ∧
      console.beginCycle.session.cycle = console.wiring.nextKeys.cycle ∧
      Wiring.Registered base.wiring console.wiring.nextKeys console.beginCycle.wiring ∧
      Changes openedAspects console console.beginCycle := by
  obtain ⟨registered, opened⟩ := console.openCycle_wiring
  rw [beginCycle_eq cycle]
  refine ⟨rfl, opened, ?_, ?_⟩
  · rw [wiring_of_changes (withSessionState_changes _ _) (by decide),
      wiring_of_changes (withCycle_changes _ _) (by decide), registered]
    exact wiring.register
  · exact (console.openCycle_changes.mono (by decide)).trans
      ((withCycle_changes _ _).andThen (withSessionState_changes _ _) (by decide))

theorem attachProcess_attached {console : Console} {process stream : Nat}
    (origin : (console.processes.map RemoteProcess.stream)[process]? = some stream) :
    (console.attachProcess process).terminal.stream = some stream := by
  rw [List.getElem?_map, Option.map_eq_some_iff] at origin
  obtain ⟨found, known, rfl⟩ := origin
  unfold attachProcess
  rw [known]
  exact (tryOnStream_changes _ _ _).same .attached (by decide)

/-- A process that is attached is told the size of the screen, and has printed what it had. -/
theorem attachProcess_readable {console : Console} {process stream : Nat}
    (origin : (console.processes.map RemoteProcess.stream)[process]? = some stream)
    {found : ProcessStream} (known : console.stream? stream = some found) :
    ∃ sized, (console.attachProcess process).stream? stream = some sized ∧
      sized.output = found.output ∧ sized.faults = found.faults := by
  rw [List.getElem?_map, Option.map_eq_some_iff] at origin
  obtain ⟨owner, owned, rfl⟩ := origin
  obtain ⟨inside, -⟩ := List.getElem?_eq_some_iff.mp known
  have same : console.streams[owner.stream]? = some found := known
  unfold attachProcess attach tryOnStream onStream stream? ProcessStream.resize
    ProcessStream.unlessRefused
  rw [owned]
  dsimp only
  rw [same]
  dsimp only
  cases found.faults.resize with
  | some reason => exact ⟨found, same, rfl, rfl⟩
  | none => exact ⟨_, List.getElem?_set_self inside, rfl, rfl⟩

/-- What is shown of a process before the session holds anything for it. -/
theorem showProcess_attached {console : Console} {process stream : Nat}
    (state : console.session.state ≠ .attached)
    (origin : (console.processes.map RemoteProcess.stream)[process]? = some stream) :
    (console.showProcess process).terminal.stream = some stream ∧
      (console.showProcess process).terminal.display =
        (((console.earlyOf process).getD []).map ScreenAct.text).foldl ScreenAct.on
          console.terminal.display ∧
      Changes [.attached, .streams, .processes, .display, .scanned, .resolvers, .tasks, .trace]
        console (console.showProcess process) ∧
      ∀ found, console.stream? stream = some found →
        ∃ sized, (console.showProcess process).stream? stream = some sized ∧
          sized.output = found.output ∧ sized.faults = found.faults := by
  have kept : console.letGo = console := if_neg state
  rw [showProcess, kept]
  have attached := attachProcess_attached origin
  have readable (found : ProcessStream) (known : console.stream? stream = some found) :=
    attachProcess_readable origin known
  have shown := console.attachProcess_changes process
  generalize console.attachProcess process = attaching at attached readable shown ⊢
  have replayed := attaching.replayEarly_changes process
  have display := attaching.replayEarly_display process
  have still : attaching.terminal.display = console.terminal.display :=
    shown.same .display (by decide)
  rw [earlyOf_of_changes shown (by decide), still] at display
  refine ⟨(replayed.same .attached (by decide)).trans attached, display,
    shown.andThen replayed (by decide), ?_⟩
  have same : (attaching.replayEarly process).stream? stream = attaching.stream? stream :=
    congrArg (·[stream]?) (replayed.same .streams (by decide))
  rw [same]
  exact readable

theorem prepareProcess_origins (console : Console) (spec : ProcessSpec) :
    ∃ stream, (console.prepareProcess spec).1.processes.map RemoteProcess.stream =
        console.processes.map RemoteProcess.stream ++ [stream] ∧
      (console.prepareProcess spec).2.1 = (console.processes.map RemoteProcess.stream).length ∧
      ∀ running, spec.origin = .running running →
        stream = running ∧ (console.prepareProcess spec).1.streams = console.streams := by
  unfold prepareProcess
  cases spec.origin with
  | fresh faults =>
      exact ⟨console.streams.length, by simp [addStream], by simp [addStream],
        fun running other => nomatch other⟩
  | running stream =>
      exact ⟨stream, by simp, by simp, fun running same => by cases same; exact ⟨rfl, rfl⟩⟩

/-- The console in which the session begins to hold something for a connection that begins:
the last connection has ended, the observers have been told, and the process is shown. -/
def openingFor (observers : List (Nat × BootObserver)) (nesting : Nat) (console : Console)
    (spec : ProcessSpec) : Console :=
  let (ready, process, channel) := console.prepareProcess spec
  let free := if ready.client.isConnected then disconnectWithin nesting ready else ready
  (observers.foldl (fun console entry => tellBoot nesting console process entry.2)
    (free.installConnection process channel).1).showProcess process

/-- The aspects a connection changes that begins, whatever it has to do to begin. -/
def begunAspects : List Aspect :=
  .nextId :: .streams :: .processes :: .origins :: .timers :: endedAspects

/-- There is a connection and its process is shown, but the session holds nothing for it
yet. -/
structure Opening (base before : Console) (spec : ProcessSpec) (ready : Console) : Prop where
  connection : ∃ connection stream, ready.client.connection = some connection ∧
    (ready.processes.map RemoteProcess.stream)[connection.process]? = some stream ∧
    ready.terminal.stream = some stream
  cycle : ready.session.cycle = .empty
  wiring : Wiring.Idle base.wiring ready.wiring
  steady : Steady base ready
  display : ready.terminal.display =
    (before.connectActs spec).foldl ScreenAct.on before.terminal.display
  changes : Changes begunAspects before ready
  /-- A process that has been running before is attached, and has printed what it had. -/
  readable : ∀ stream found, spec.origin = .running stream → before.stream? stream = some found →
    ready.terminal.stream = some stream ∧ ∃ sized, ready.stream? stream = some sized ∧
      sized.output = found.output ∧ sized.faults = found.faults

/-- A connection has begun, and the session is registered for it. -/
structure Began (base before : Console) (spec : ProcessSpec) (after : Console) : Prop where
  bound : ∃ keys, Bound base keys after
  steady : Steady base after
  display : after.terminal.display =
    (before.connectActs spec).foldl ScreenAct.on before.terminal.display
  changes : Changes begunAspects before after

/-- The session is bound once it holds something. -/
theorem Opening.began {base before ready : Console} {spec : ProcessSpec}
    (opening : Opening base before spec ready) :
    Bound base ready.wiring.nextKeys ready.beginCycle ∧
      Began base before spec ready.beginCycle := by
  obtain ⟨state, cycle, registered, begun⟩ := beginCycle_bound opening.cycle opening.wiring
  obtain ⟨connection, stream, connected, origin, attached⟩ := opening.connection
  have bound : Bound base ready.wiring.nextKeys ready.beginCycle := {
    connection := ⟨connection, stream, (begun.same .connection (by decide)).trans connected,
      (congrArg (·[connection.process]?) (begun.same .origins (by decide))).trans origin,
      (begun.same .attached (by decide)).trans attached⟩
    state := state
    cycle := cycle
    wiring := registered }
  exact ⟨bound, {
    bound := ⟨_, bound⟩
    steady := opening.steady.of_changes begun (by decide)
    display := (begun.same .display (by decide)).trans opening.display
    changes := opening.changes.trans (begun.mono (by decide)) }⟩

/-- The session is the one observer that does not take what was printed early. -/
theorem takesEarly_of_steady {base console : Console} (steady : Steady base console) :
    console.client.bootObservers.any (fun entry => entry.2.takesEarly) =
      base.client.bootObservers.any fun entry => entry.2.takesEarly := by
  obtain ⟨id, observers⟩ := steady.bootObservers
  rw [observers, List.any_append]
  simp [BootObserver.takesEarly]

/-- Before a connection begins the last one ends, if there is one. -/
theorem unbound_of_settled {base console : Console} (fresh : Fresh base)
    (steady : Steady base console)
    (settled : Unbound base console ∨ ∃ keys, Bound base keys console) (nesting : Nat)
    {free : Console}
    (freed : free =
      if console.client.isConnected then disconnectWithin (nesting + 2) console else console) :
    Unbound base free ∧
      free.terminal.display =
        console.disconnectActs.foldl ScreenAct.on console.terminal.display ∧
      Changes endedAspects console free := by
  unfold disconnectActs
  rcases settled with unbound | ⟨keys, bound⟩
  · have idle : ¬console.client.isConnected = true := by
      simp [Client.isConnected, unbound.connection]
    rw [if_neg idle] at freed ⊢
    rw [freed]
    exact ⟨unbound, rfl, .refl _ console⟩
  · obtain ⟨connection, _, known, -⟩ := bound.connection
    have connected : console.client.isConnected = true := by simp [Client.isConnected, known]
    rw [if_pos connected] at freed ⊢
    have ended := disconnectWithin_ended fresh steady bound nesting
    rw [← freed] at ended
    refine ⟨ended.unbound, ?_, ended.changes⟩
    rw [ended.display, List.foldl_cons, List.foldl_nil]

/-- A connection has been installed, and all observers but the session have been told of it. -/
structure Introduced (base free : Console) (process channel : Nat) (reached : Console) :
    Prop where
  changes : Changes [.connection, .nextId, .channels, .processes, .trace] free reached
  connection : reached.client.connection = some ⟨free.client.nextId, channel, process⟩
  early : reached.earlyOf process =
    if base.client.bootObservers.any fun entry => entry.2.takesEarly then none
    else free.earlyOf process

theorem introduced {base : Console} (fresh : Fresh base) (free : Console)
    (process channel nesting : Nat) :
    Introduced base free process channel
      (base.client.bootObservers.foldl
        (fun console entry => tellBoot (nesting + 1) console process entry.2)
        (free.installConnection process channel).1) := by
  have installing := free.installConnection_changes process channel
  have connected : (free.installConnection process channel).1.client.connection =
      some ⟨free.client.nextId, channel, process⟩ :=
    (serveChannel_changes _ _ _).same .connection (by decide)
  generalize (free.installConnection process channel).1 = installed at installing connected ⊢
  have told : Changes [.processes, .channels, .trace] installed (base.client.bootObservers.foldl
      (fun console entry => tellBoot (nesting + 1) console process entry.2) installed) :=
    .foldl_of_mem _ (fun entry member console => tellBoot_passive_changes nesting console
      process entry.2 (fresh.bootObservers entry member)) _
  exact {
    changes := installing.andThen told (by decide)
    connection := (told.same .connection (by decide)).trans connected
    early := by
      rw [tellBoots_passive_earlyOf nesting process _ fresh.bootObservers,
        earlyOf_of_changes installing (by decide)] }

/-- A connection that begins finds a session that holds nothing, whatever it held. -/
theorem connectWithin_opening {base console : Console} (fresh : Fresh base)
    (steady : Steady base console)
    (settled : Unbound base console ∨ ∃ keys, Bound base keys console) (spec : ProcessSpec)
    (nesting : Nat) :
    (connectWithin (nesting + 3) console spec).1 =
        (console.openingFor base.client.bootObservers (nesting + 2) spec).beginCycle ∧
      Opening base console spec
        (console.openingFor base.client.bootObservers (nesting + 2) spec) := by
  rw [connectWithin, openingFor]
  have readied := console.prepareProcess_changes spec
  have early := console.prepareProcess_earlyOf spec
  obtain ⟨stream, origins, place, known⟩ := console.prepareProcess_origins spec
  generalize console.prepareProcess spec = prepared at readied early origins place known ⊢
  obtain ⟨ready, process, channel⟩ := prepared
  dsimp only at readied early origins place known ⊢
  have readySteady := steady.of_changes readied (by decide)
  have readySettled : Unbound base ready ∨ ∃ keys, Bound base keys ready :=
    settled.imp (·.of_changes readied (by decide))
      fun ⟨keys, bound⟩ => ⟨keys, bound.of_changes readied (by decide) ⟨[stream], origins.symm⟩⟩
  have sameActs : ready.disconnectActs = console.disconnectActs := by
    have same : ready.client.connection = console.client.connection :=
      readied.same .connection (by decide)
    rw [disconnectActs, disconnectActs, Client.isConnected, Client.isConnected, same]
  have readyDisplay : ready.terminal.display = console.terminal.display :=
    readied.same .display (by decide)
  generalize freed : (if ready.client.isConnected then disconnectWithin (nesting + 2) ready
    else ready) = free
  obtain ⟨unbound, freeDisplay, ended⟩ :=
    unbound_of_settled fresh readySteady readySettled nesting freed.symm
  rw [sameActs, readyDisplay] at freeDisplay
  have freeSteady := readySteady.of_changes ended (by decide)
  have introduction := introduced fresh free process channel (nesting + 1)
  have installing := free.installConnection_changes process channel
  generalize free.installConnection process channel = installation
    at installing introduction ⊢
  obtain ⟨installed, id⟩ := installation
  dsimp only at installing introduction ⊢
  rw [tellBoots_eq (freeSteady.of_changes installing (by decide))]
  generalize base.client.bootObservers.foldl
    (fun console entry => tellBoot (nesting + 2) console process entry.2) installed = reached
    at introduction ⊢
  obtain ⟨aside, reachedConnected, left⟩ := introduction
  have session : reached.session = free.session := aside.same .session (by decide)
  have originsSame : reached.processes.map RemoteProcess.stream =
      console.processes.map RemoteProcess.stream ++ [stream] :=
    (aside.same .origins (by decide)).trans ((ended.same .origins (by decide)).trans origins)
  have origin : (reached.processes.map RemoteProcess.stream)[process]? = some stream := by
    rw [originsSame, place]
    simp
  have unattached : reached.session.state ≠ .attached := session ▸ unbound.state
  obtain ⟨attached, replayed, shown, readable⟩ := showProcess_attached unattached origin
  have shownSession : (reached.showProcess process).session = reached.session :=
    shown.same .session (by decide)
  refine ⟨rfl, ?_⟩
  exact {
    connection := ⟨⟨free.client.nextId, channel, process⟩, stream,
      (shown.same .connection (by decide)).trans reachedConnected,
      (congrArg (·[process]?) (shown.same .origins (by decide))).trans origin, attached⟩
    cycle := by
      rw [shownSession, session]
      exact unbound.cycle
    wiring := by
      rw [wiring_of_changes shown (by decide), wiring_of_changes aside (by decide)]
      exact unbound.wiring
    steady := (freeSteady.of_changes aside (by decide)).of_changes shown (by decide)
    display := by
      have untaken : free.earlyOf process = spec.early :=
        (earlyOf_of_changes ended (by decide)).trans early
      have still : reached.terminal.display = free.terminal.display :=
        aside.same .display (by decide)
      rw [replayed, left, untaken, still, freeDisplay, connectActs, takesEarly_of_steady steady,
        List.foldl_append]
      split <;> rfl
    changes := (readied.mono (by decide)).trans ((ended.mono (by decide)).trans
      (aside.andThen shown (by decide)))
    readable := fun running found origin there => by
      obtain ⟨rfl, streams⟩ := known running origin
      have same : reached.streams = console.streams :=
        (aside.same .streams (by decide)).trans ((ended.same .streams (by decide)).trans streams)
      exact ⟨attached, readable found (by rw [stream?, same]; exact there)⟩ }

/-- A session between connections, or during one, is bound to the one that begins. -/
theorem connectWithin_began {base console : Console} (fresh : Fresh base)
    (steady : Steady base console)
    (settled : Unbound base console ∨ ∃ keys, Bound base keys console) (spec : ProcessSpec)
    (nesting : Nat) :
    Began base console spec (connectWithin (nesting + 3) console spec).1 := by
  obtain ⟨reached, opening⟩ := connectWithin_opening fresh steady settled spec nesting
  rw [reached]
  exact opening.began.2

end Console

end RuntimeConsole
