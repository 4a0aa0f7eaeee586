/-
Module: RuntimeConsole.Proofs.LifecycleCourse
Purpose: What courses of effects on the client come to: the notices follow one another as a
  diary wants it exactly as long as nobody cuts in, and then the session follows the client.
Main exports:
  Console.Observed, Console.Agrees, Console.Told, Course.observed, Course.meets
-/
import RuntimeConsole.Console.Course
import RuntimeConsole.Proofs.SessionFootprint

namespace RuntimeConsole

/-! ### Diaries -/

namespace Diary

variable {boots detaches : List Nat}

theorem read_append (diary : Diary) (first second : List Notice) :
    diary.read boots detaches (first ++ second) =
      (diary.read boots detaches first).bind fun between => between.read boots detaches second := by
  induction first generalizing diary with
  | nil => rfl
  | cons notice first inductionHypothesis =>
      rw [List.cons_append, read, read]
      cases diary.write boots detaches notice with
      | none => rfl
      | some written => exact inductionHypothesis written

end Diary

/-- Whether a notice is that a connection begins or ends. -/
def Notice.turns : Notice → Bool
  | .began _ | .ended _ => true
  | _ => false

/-! ### What the session does in between -/

/-- What the end of subscriptions can change that observe no connections. -/
def spareAspects : List Aspect :=
  [.handlers, .keyboard, .settings, .watchers, .listeners, .resolvers, .living,
    .moduleListeners, .debouncers]

theorem Release.aspects_subset_spare {released : Release}
    (aside : .observers ∉ released.aspects) : released.aspects ⊆ spareAspects := by
  cases released with
  | clientObserver id => exact absurd List.mem_cons_self aside
  | _ => simp [aspects, spareAspects]

namespace Console

/-- What the session holds for the time of a connection observes no connections. -/
def CycleAside (console : Console) : Prop :=
  ∀ released ∈ console.session.cycle.disposables.actions, .observers ∉ released.aspects

/-- The observers are the given ones, and the session leaves them alone. -/
structure Observed (boots : List (Nat × BootObserver)) (detaches : List (Nat × DetachObserver))
    (console : Console) : Prop where
  boots : console.client.bootObservers = boots
  detaches : console.client.detachObservers = detaches
  aside : console.CycleAside

/-- Neither the connection nor the observers nor the session change. -/
structure Undisturbed (before after : Console) : Prop where
  connection : after.client.connection = before.client.connection
  observers : (after.client.bootObservers, after.client.detachObservers) =
    (before.client.bootObservers, before.client.detachObservers)
  session : after.session = before.session

variable {before after console : Console} {boots : List (Nat × BootObserver)}
  {detaches : List (Nat × DetachObserver)}

theorem CycleAside.of_same (aside : before.CycleAside) (same : after.session = before.session) :
    after.CycleAside := by
  rw [CycleAside, same]
  exact aside

theorem CycleAside.withSessionState (aside : console.CycleAside) (state : SessionState) :
    (console.withSessionState state).CycleAside :=
  aside

theorem Undisturbed.of_changes {aspects : List Aspect} (changes : Changes aspects before after)
    (apart : [.connection, .observers, .session].all (· ∉ aspects) = true) :
    Undisturbed before after :=
  ⟨changes.kept apart .connection (by decide), changes.kept apart .observers (by decide),
    changes.kept apart .session (by decide)⟩

theorem Observed.of_same (observed : Observed boots detaches before)
    (observers : (after.client.bootObservers, after.client.detachObservers) =
      (before.client.bootObservers, before.client.detachObservers))
    (aside : after.CycleAside) : Observed boots detaches after where
  boots := (congrArg Prod.fst observers).trans observed.boots
  detaches := (congrArg Prod.snd observers).trans observed.detaches
  aside := aside

theorem Observed.undisturbed (observed : Observed boots detaches before)
    (same : Undisturbed before after) : Observed boots detaches after :=
  observed.of_same same.observers (observed.aside.of_same same.session)

/-- What the session holds is let go of, and the observers of connections stay. -/
theorem dispose_spare {list : Disposables Release}
    (aside : ∀ released ∈ list.actions, .observers ∉ released.aspects) :
    Changes spareAspects console (console.dispose list) :=
  console.dispose_changes_within list fun released member =>
    Release.aspects_subset_spare (aside released member)

theorem teardownCycle_spare (aside : console.CycleAside) :
    Changes (.session :: spareAspects) console console.teardownCycle :=
  (console.withCycle_changes .empty).andThen (dispose_spare aside) (by decide)

/-- Nothing is held after everything has been let go of. -/
theorem teardownCycle_aside (aside : console.CycleAside) : console.teardownCycle.CycleAside := by
  have session : console.teardownCycle.session = (console.withCycle .empty).session :=
    (dispose_spare aside).same .session (by decide)
  rw [CycleAside, session]
  exact fun released member => (List.not_mem_nil member).elim

theorem letGo_spare (aside : console.CycleAside) :
    Changes (.attached :: .session :: spareAspects) console console.letGo ∧
      console.letGo.CycleAside := by
  unfold letGo
  split
  · have detached : console.detach.CycleAside := aside
    exact ⟨console.detach_changes.andThen (teardownCycle_spare detached) (by decide),
      teardownCycle_aside detached⟩
  · exact ⟨.refl _ console, aside⟩

/-- What the session holds for a new connection observes none. -/
theorem beginCycle_spare (aside : console.CycleAside) :
    Changes (.channels :: .trace :: .tasks :: .session :: .timers :: spareAspects) console
        console.beginCycle ∧
      console.beginCycle.CycleAside := by
  have opened := console.openCycle_changes
  have held : console.openCycle.1.session = console.session := opened.same .session (by decide)
  have old : ∀ released ∈ console.openCycle.1.session.cycle.disposables.actions,
      .observers ∉ released.aspects := by
    rw [held]
    exact aside
  have disposed :
      Changes spareAspects (console.openCycle.1.withCycle console.openCycle.2)
        ((console.openCycle.1.withCycle console.openCycle.2).dispose
          console.openCycle.1.session.cycle.disposables) :=
    dispose_spare old
  constructor
  · refine .trans ?_ ((withSessionState_changes _ _).mono (by decide))
    refine .trans ?_ (disposed.mono (by decide))
    refine .trans ?_ ((withCycle_changes _ _).mono (by decide))
    exact opened.mono (by decide)
  · have cycle : console.beginCycle.session.cycle = console.openCycle.2 := by
      change ((console.openCycle.1.withCycle console.openCycle.2).dispose
        console.openCycle.1.session.cycle.disposables).session.cycle = _
      rw [show Console.session _ = _ from disposed.same .session (by decide)]
      rfl
    intro released member
    rw [cycle] at member
    simp only [openCycle, List.mem_cons, List.not_mem_nil, or_false] at member
    rcases member with rfl | rfl | rfl | rfl | rfl <;> simp [Release.aspects]

/-- A session that learns of a connection is attached, and leaves the client alone. -/
theorem sessionBoot_spare (aside : console.CycleAside) (process : Nat) :
    (console.sessionBoot process).client.connection = console.client.connection ∧
      ((console.sessionBoot process).client.bootObservers,
          (console.sessionBoot process).client.detachObservers) =
        (console.client.bootObservers, console.client.detachObservers) ∧
      (console.sessionBoot process).session.state = .attached ∧
      (console.sessionBoot process).CycleAside := by
  obtain ⟨letGo, aside⟩ := letGo_spare aside
  have attached := console.letGo.attachProcess_changes process
  have replayed := (console.letGo.attachProcess process).replayEarly_changes process
  have shown := (attached.andThen replayed (List.Subset.refl _)).mono
    (by decide : _ ⊆ [.attached, .streams, .processes, .display, .scanned, .resolvers, .tasks,
      .trace])
  have aside : (console.showProcess process).CycleAside :=
    aside.of_same (shown.same .session (by decide))
  obtain ⟨begun, aside⟩ := beginCycle_spare aside
  have all := (letGo.andThen shown (List.Subset.refl _)).andThen begun (List.Subset.refl _)
  exact ⟨all.same .connection (by decide), all.same .observers (by decide), rfl, aside⟩

theorem sessionDetached_spare (aside : console.CycleAside) :
    console.sessionDetached.client.connection = console.client.connection ∧
      (console.sessionDetached.client.bootObservers,
          console.sessionDetached.client.detachObservers) =
        (console.client.bootObservers, console.client.detachObservers) ∧
      console.sessionDetached.session.state ≠ .attached ∧
      console.sessionDetached.CycleAside := by
  unfold sessionDetached
  split
  next attached =>
      have written := console.detach_changes.andThen (writeText_changes _ exitMessage)
        (List.Subset.refl _)
      have aside : (console.detach.writeText exitMessage).CycleAside :=
        aside.of_same (written.same .session (by decide))
      have torn := teardownCycle_spare aside
      have reset := ((console.detach.writeText exitMessage).teardownCycle).resetPending_changes
      have all := ((written.andThen torn (List.Subset.refl _)).andThen reset
        (List.Subset.refl _)).andThen (withSessionState_changes _ .detached) (List.Subset.refl _)
      have empty := (teardownCycle_aside aside).of_same (reset.same .session (by decide))
      exact ⟨all.same .connection (by decide), all.same .observers (by decide), nofun,
        empty.withSessionState .detached⟩
  next other => exact ⟨rfl, rfl, other, aside⟩

/-- An observer of beginnings takes note. -/
theorem Observed.hearBoot (observed : Observed boots detaches console) (process : Nat)
    (observer : BootObserver) :
    Observed boots detaches (console.hearBoot process observer) ∧
      (console.hearBoot process observer).connectionId? = console.connectionId? ∧
      ((console.hearBoot process observer).session.state = .attached ↔
        console.session.state = .attached ∨ observer = .session) := by
  have guest {after : Console} {label : Json} {early : Option Bool}
      (same : Undisturbed console after) :
      Observed boots detaches (after.emit (.guestSawBoot label early)) ∧
        (after.emit (.guestSawBoot label early)).connectionId? = console.connectionId? ∧
        ((after.emit (.guestSawBoot label early)).session.state = .attached ↔
          console.session.state = .attached) :=
    ⟨observed.undisturbed ⟨same.connection, same.observers, same.session⟩,
      congrArg (Option.map Connection.id) same.connection,
      iff_of_eq (congrArg (fun session => session.state = .attached) same.session)⟩
  cases observer with
  | session =>
      obtain ⟨connection, observers, attached, aside⟩ := sessionBoot_spare observed.aside process
      exact ⟨observed.of_same observers aside, congrArg (Option.map Connection.id) connection,
        by simp [Console.hearBoot, attached]⟩
  | guest label takesEarly actions =>
      simp only [reduceCtorEq, or_false]
      cases takesEarly with
      | true => exact guest (.of_changes (console.takeEarly_changes process) (by decide))
      | false => exact guest ⟨rfl, rfl, rfl⟩

/-- An observer of ends takes note. -/
theorem Observed.hearDetach (observed : Observed boots detaches console)
    (observer : DetachObserver) :
    Observed boots detaches (console.hearDetach observer) ∧
      (console.hearDetach observer).connectionId? = console.connectionId? ∧
      ((console.hearDetach observer).session.state = .attached ↔
        console.session.state = .attached ∧ observer ≠ .session) := by
  cases observer with
  | session =>
      obtain ⟨connection, observers, detached, aside⟩ := sessionDetached_spare observed.aside
      exact ⟨observed.of_same observers aside, congrArg (Option.map Connection.id) connection,
        by simp [Console.hearDetach, detached]⟩
  | guest label actions =>
      simp only [ne_eq, reduceCtorEq, not_false_eq_true, and_true]
      exact ⟨observed.undisturbed ⟨rfl, rfl, rfl⟩, rfl, Iff.rfl⟩

/-- A start that does not connect at once does not concern the connection. -/
theorem bootWithin_undisturbed (console : Console) :
    Undisturbed console (console.bootWithin 0).1 := by
  unfold bootWithin
  split
  next => exact ⟨rfl, rfl, rfl⟩
  next booter _ =>
      dsimp only
      split
      next => exact ⟨rfl, rfl, rfl⟩
      next => exact ⟨rfl, rfl, rfl⟩
      next command patience _ =>
          have launched := (console.emit_booted_changes booter.label).andThen
            (launch_changes _ command patience) (List.Subset.refl _)
          exact .of_changes launched (by decide)
      next => exact ⟨rfl, rfl, rfl⟩
      next nested => exact absurd nested (Nat.succ_ne_zero _).symm

/-- The end of a connection leaves the observers and the session alone. -/
theorem dropConnection_same (console : Console) :
    console.dropConnection.connectionId? = none ∧
      (console.dropConnection.client.bootObservers,
          console.dropConnection.client.detachObservers) =
        (console.client.bootObservers, console.client.detachObservers) ∧
      console.dropConnection.session = console.session := by
  have dropped := resetPending_changes
    (console.withClient { console.client with connection := none })
  exact ⟨congrArg (Option.map Connection.id) (dropped.same .connection (by decide)),
    dropped.same .observers (by decide), dropped.same .session (by decide)⟩

/-- So does the beginning of another. -/
theorem installConnection_same (console : Console) (process channel : Nat) :
    (console.installConnection process channel).1.connectionId? =
        some (console.installConnection process channel).2 ∧
      ((console.installConnection process channel).1.client.bootObservers,
          (console.installConnection process channel).1.client.detachObservers) =
        (console.client.bootObservers, console.client.detachObservers) ∧
      (console.installConnection process channel).1.session = console.session := by
  have installed := console.installConnection_changes process channel
  have served := serveChannel_changes (console.withClient
    { console.client.withFreshId.1 with
      connection := some ⟨console.client.withFreshId.2, channel, process⟩ }) channel
    console.client.withFreshId.2
  exact ⟨congrArg (Option.map Connection.id) (served.same .connection (by decide)),
    installed.same .observers (by decide), installed.same .session (by decide)⟩

theorem prepareProcess_undisturbed {spec : ProcessSpec} {prepared : Console}
    {process channel : Nat} (prepares : console.prepareProcess spec = (prepared, process, channel)) :
    Undisturbed console prepared := by
  have same := Undisturbed.of_changes (console.prepareProcess_changes spec) (by decide)
  rwa [prepares] at same

theorem Observed.installed {installed : Console} {process channel id : Nat}
    (observed : Observed boots detaches console)
    (installs : console.installConnection process channel = (installed, id)) :
    Observed boots detaches installed ∧ installed.connectionId? = some id := by
  obtain ⟨numbered, observers, session⟩ := console.installConnection_same process channel
  rw [installs] at numbered observers session
  exact ⟨observed.of_same observers (observed.aside.of_same session), numbered⟩

theorem Observed.dropped (observed : Observed boots detaches console) :
    Observed boots detaches console.dropConnection := by
  obtain ⟨-, observers, session⟩ := console.dropConnection_same
  exact observed.of_same observers (observed.aside.of_same session)

end Console

/-! ### Courses -/

section

variable {conduct : List ClientAction → List ClientAction → Prop} {deed : Deed}
  {before after : Console} {log : List Notice} {calm : Bool}
  {boots : List (Nat × BootObserver)} {detaches : List (Nat × DetachObserver)}

/-- The observers stay the same in every course. -/
theorem Course.observed (course : Course conduct deed before log calm after)
    (observed : before.Observed boots detaches) : after.Observed boots detaches := by
  induction course with
  | dropped _ => exact observed.undisturbed ⟨rfl, rfl, rfl⟩
  | send => exact observed.undisturbed (.of_changes (Console.send_changes ..) (by decide))
  | connect prepares _ installs _ endsHypothesis bootsHypothesis =>
      have reached := endsHypothesis
        (observed.undisturbed (Console.prepareProcess_undisturbed prepares))
      exact bootsHypothesis (reached.installed installs).1
  | disconnect _ inductionHypothesis => exact inductionHypothesis observed
  | boot => exact observed.undisturbed (Console.bootWithin_undisturbed _)
  | bootConnects _ _ _ inductionHypothesis =>
      exact inductionHypothesis (observed.undisturbed ⟨rfl, rfl, rfl⟩)
  | endsNone _ => exact observed
  | ends _ _ inductionHypothesis => exact inductionHypothesis observed.dropped
  | bootsNone => exact observed
  | boots _ _ _ actsHypothesis restHypothesis =>
      exact restHypothesis (actsHypothesis (observed.hearBoot _ _).1)
  | detachesNone => exact observed
  | detaches _ _ _ actsHypothesis restHypothesis =>
      exact restHypothesis (actsHypothesis (observed.hearDetach _).1)
  | actsNone => exact observed
  | acts _ _ actHypothesis restHypothesis => exact restHypothesis (actHypothesis observed)

end

/-! ### What courses come to -/

namespace Console

/-- The diary of a console when nothing has to be told any more. -/
def diary (console : Console) : Diary := ⟨console.connectionId?, []⟩

/-- The session is attached exactly as long as the client is connected. -/
def Agrees (console : Console) : Prop :=
  console.session.state = .attached ↔ console.client.isConnected = true

instance (console : Console) : Decidable console.Agrees :=
  inferInstanceAs (Decidable (_ ↔ _))

/-- Of a call into the client, the first notice is that a connection begins or ends, and
without notices nothing has happened to connections. -/
structure Called (before : Console) (log : List Notice) (calm : Bool) (after : Console) :
    Prop where
  opens : ∀ notice ∈ log.head?, notice.turns = true
  quiet : log = [] → calm = true ∧ after.connectionId? = before.connectionId? ∧
    after.session.state = before.session.state

/-- The diary takes notices exactly if they are calm, and then the session follows the
client. -/
structure Told (boots detaches : List Nat) (expected : Diary) (log : List Notice) (calm : Bool)
    (after : Console) : Prop where
  read : expected.read boots detaches log = if calm then some after.diary else none
  agrees : calm = true → after.Agrees

variable {boots detaches : List Nat} {before between after : Console}
  {first second log : List Notice} {firstCalm secondCalm calm : Bool} {expected : Diary}

theorem isConnected_eq (console : Console) :
    console.client.isConnected = console.connectionId?.isSome := by
  rw [connectionId?, Option.isSome_map]
  rfl

/-- Nothing happens to connections. -/
theorem Undisturbed.called (same : Undisturbed before after) : Called before [] true after :=
  ⟨nofun, fun _ => ⟨rfl, congrArg (Option.map Connection.id) same.connection,
    by rw [same.session]⟩⟩

theorem Called.told (called : Called before [] calm after) (agrees : before.Agrees) :
    Told boots detaches before.diary [] calm after := by
  obtain ⟨rfl, connection, session⟩ := called.quiet rfl
  refine ⟨by simp [Diary.read, diary, connection], fun _ => ?_⟩
  rw [Agrees, isConnected_eq, connection, session, ← isConnected_eq]
  exact agrees

theorem Called.append (called : Called before first firstCalm between)
    (next : Called between second secondCalm after)
    (quiet : first = [] → calm = secondCalm) : Called before (first ++ second) calm after where
  opens notice head := by
    cases first with
    | nil => exact next.opens notice head
    | cons _ _ => exact called.opens notice head
  quiet logEq := by
    obtain ⟨rfl, rfl⟩ := List.append_eq_nil_iff.mp logEq
    obtain ⟨-, connection, session⟩ := called.quiet rfl
    obtain ⟨calm, connectionLater, sessionLater⟩ := next.quiet rfl
    exact ⟨(quiet rfl).trans calm, connectionLater.trans connection, sessionLater.trans session⟩

/-- A call in which a connection begins. -/
theorem Called.begins {id : Nat}
    (called : Called before first firstCalm between) :
    Called before (first ++ .began id :: second) calm after where
  opens notice head := by
    cases first with
    | nil =>
        obtain rfl := Option.some.inj head
        rfl
    | cons _ _ => exact called.opens notice head
  quiet none := by simp at none

/-- A call in which a connection ends. -/
theorem Called.ends {id : Nat} : Called before (.ended id :: log) calm after where
  opens notice head := by
    obtain rfl := Option.some.inj head
    rfl
  quiet := nofun

theorem Told.append (told : Told boots detaches expected first firstCalm between)
    (next : between.Agrees → Told boots detaches between.diary second secondCalm after) :
    Told boots detaches expected (first ++ second) (firstCalm && secondCalm) after := by
  cases firstCalm with
  | false => exact ⟨by rw [Diary.read_append, told.read]; rfl, nofun⟩
  | true =>
      have later := next (told.agrees rfl)
      exact ⟨by rw [Diary.read_append, told.read]; simpa using later.read, later.agrees⟩

/-- What begins or ends a connection does not come before what is due. -/
theorem Called.cutsIn (called : Called before log calm after) (some : log ≠ []) {due : List Notice}
    {current : Option Nat} {next : Notice} (waits : next.turns = false) :
    Diary.read boots detaches ⟨current, next :: due⟩ log = none := by
  cases log with
  | nil => exact absurd rfl some
  | cons notice rest =>
      have turns := called.opens notice rfl
      have different : notice ≠ next := fun same => by simp [same, waits] at turns
      simp [Diary.read, Diary.write, different]

/-- A connection begins: exactly if there is none, its observers can be told. -/
theorem Told.begins {id : Nat} (told : Told boots detaches expected first firstCalm between)
    (round : between.client.isConnected = false →
      Told boots detaches ⟨some id, boots.map (.toldBoot id)⟩ second secondCalm after) :
    Told boots detaches expected (first ++ .began id :: second)
      (firstCalm && !between.client.isConnected && secondCalm) after := by
  have wrote : between.diary.read boots detaches (.began id :: second) =
      if between.client.isConnected then none
      else Diary.read boots detaches ⟨some id, boots.map (.toldBoot id)⟩ second := by
    rw [Diary.read]
    unfold Diary.write diary connectionId? Client.isConnected
    cases between.client.connection <;> rfl
  cases firstCalm with
  | false => exact ⟨by rw [Diary.read_append, told.read]; rfl, nofun⟩
  | true =>
      cases connected : between.client.isConnected with
      | true =>
          refine ⟨?_, nofun⟩
          rw [Diary.read_append, told.read, if_pos rfl, Option.bind_some, wrote, connected]
          rfl
      | false =>
          have later := round connected
          refine ⟨?_, later.agrees⟩
          rw [Diary.read_append, told.read, if_pos rfl, Option.bind_some, wrote, connected]
          simpa using later.read

/-- A connection ends, and its observers can be told. -/
theorem Told.ends {connection : Connection}
    (connected : before.client.connection = some connection)
    (round : Told boots detaches ⟨none, detaches.map (.toldDetach connection.id)⟩ log calm after) :
    Told boots detaches before.diary (.ended connection.id :: log) calm after := by
  refine ⟨?_, round.agrees⟩
  rw [Diary.read, ← round.read]
  simp [Diary.write, diary, connectionId?, connected]

/-- The last observer is told and may then do what it likes. -/
theorem Told.last {heard : Console}
    (told : Told boots detaches heard.diary log calm after) (notice : Notice) :
    Told boots detaches ⟨heard.connectionId?, [notice]⟩ (notice :: log) calm after := by
  refine ⟨?_, told.agrees⟩
  rw [Diary.read, ← told.read]
  simp [Diary.write, diary]

/-- An observer is told before others: exactly if it leaves the connection alone, they can be
told. -/
theorem Told.next {heard : Console} {notice next : Notice} {due : List Notice}
    {current : Option Nat} (called : Called heard first firstCalm between)
    (calmly : firstCalm = true → first = []) (waits : next.turns = false)
    (round : first = [] → Told boots detaches ⟨current, next :: due⟩ second secondCalm after) :
    Told boots detaches ⟨current, notice :: next :: due⟩ (notice :: (first ++ second))
      (firstCalm && secondCalm) after := by
  have step : Diary.read boots detaches ⟨current, notice :: next :: due⟩
        (notice :: (first ++ second)) =
      Diary.read boots detaches ⟨current, next :: due⟩ (first ++ second) := by
    rw [Diary.read]
    simp [Diary.write]
  cases firstCalm with
  | true =>
      obtain rfl := calmly rfl
      exact ⟨step.trans (round rfl).read, (round rfl).agrees⟩
  | false =>
      have some : first ≠ [] := fun none => absurd (called.quiet none).1 nofun
      refine ⟨?_, nofun⟩
      rw [step, Diary.read_append, called.cutsIn some waits]
      rfl

end Console

/-- What is known of a course of a deed that meets an agreement between session and client. -/
def Deed.Meets (boots detaches : List Nat) :
    Deed → Console → List Notice → Bool → Console → Prop
  | .act _, before, log, calm, after | .ends, before, log, calm, after
  | .acts true _, before, log, calm, after =>
      before.Called log calm after ∧
        (before.Agrees → Console.Told boots detaches before.diary log calm after)
  | .acts false _, before, log, calm, after =>
      before.Called log calm after ∧ (calm = true → log = [])
  | .boots id _ rest, before, log, calm, after =>
      before.connectionId? = some id →
      before.session.state = .attached ∨ .session ∈ rest.map Prod.snd →
      Console.Told boots detaches ⟨some id, rest.map fun entry => .toldBoot id entry.1⟩ log calm
        after
  | .detaches id rest, before, log, calm, after =>
      before.connectionId? = none →
      before.session.state ≠ .attached ∨ .session ∈ rest.map Prod.snd →
      Console.Told boots detaches ⟨none, rest.map fun entry => .toldDetach id entry.1⟩ log calm
        after

section

variable {conduct : List ClientAction → List ClientAction → Prop} {deed : Deed}
  {before after : Console} {log : List Notice} {calm : Bool}
  {boots : List (Nat × BootObserver)} {detaches : List (Nat × DetachObserver)}

theorem Console.Undisturbed.meets {boots detaches : List Nat} (same : before.Undisturbed after)
    (call : deed.isCall = true) : deed.Meets boots detaches before [] true after :=
  match deed, call with
  | .act _, _ | .ends, _ | .acts true _, _ => ⟨same.called, same.called.told⟩
  | .acts false _, _ => ⟨same.called, fun _ => rfl⟩

/-- An observer is told, and then the others in their turn.  The last to be told may do anything:
nothing is due any more, so it meets an agreement between session and client.  Anybody else must
not touch the connection. -/
theorem Deed.Meets.round {observer : Type} {boots detaches : List Nat} {rest : List observer}
    {told : observer → Notice} {first second : List Notice} {actions : List ClientAction}
    {heard between : Console} {firstCalm secondCalm : Bool} (notice : Notice)
    (acted : Deed.Meets boots detaches (.acts rest.isEmpty actions) heard first firstCalm between)
    (waits : ∀ other, (told other).turns = false)
    (agrees : rest = [] → heard.Agrees)
    (closes : rest = [] → second = [] ∧ secondCalm = true ∧ after = between)
    (others : between.connectionId? = heard.connectionId? →
      between.session.state = heard.session.state →
      Console.Told boots detaches ⟨heard.connectionId?, rest.map told⟩ second secondCalm after) :
    Console.Told boots detaches ⟨heard.connectionId?, notice :: rest.map told⟩
      (notice :: (first ++ second)) (firstCalm && secondCalm) after := by
  cases rest with
  | nil =>
      obtain ⟨rfl, rfl, rfl⟩ := closes rfl
      rw [List.append_nil, Bool.and_true]
      exact (acted.2 (agrees rfl)).last notice
  | cons next rest =>
      refine .next acted.1 acted.2 (waits next) fun none => ?_
      obtain ⟨-, connection, session⟩ := acted.1.quiet none
      exact others connection session

/-- With nobody left to be told, nothing happens. -/
theorem Course.boots_nil {id process : Nat}
    (course : Course conduct (.boots id process []) before log calm after) :
    log = [] ∧ calm = true ∧ after = before := by
  cases course with
  | dropped call => exact absurd call nofun
  | bootsNone => exact ⟨rfl, rfl, rfl⟩

theorem Course.detaches_nil {id : Nat}
    (course : Course conduct (.detaches id []) before log calm after) :
    log = [] ∧ calm = true ∧ after = before := by
  cases course with
  | dropped call => exact absurd call nofun
  | detachesNone => exact ⟨rfl, rfl, rfl⟩

/-- What every course of a deed comes to, where the session is among the observers. -/
theorem Course.meets (course : Course conduct deed before log calm after)
    (bootSession : .session ∈ boots.map Prod.snd)
    (detachSession : .session ∈ detaches.map Prod.snd)
    (observed : before.Observed boots detaches) :
    deed.Meets (boots.map Prod.fst) (detaches.map Prod.fst) before log calm after := by
  induction course with
  | dropped call => exact Console.Undisturbed.meets ⟨rfl, rfl, rfl⟩ call
  | send => exact (Console.Undisturbed.of_changes (Console.send_changes ..) (by decide)).meets rfl
  | connect prepares ending installs _ endsHypothesis bootsHypothesis =>
      have same := Console.prepareProcess_undisturbed prepares
      have preparedObserved := observed.undisturbed same
      obtain ⟨installedObserved, numbered⟩ :=
        (ending.observed preparedObserved).installed installs
      obtain ⟨called, told⟩ := endsHypothesis preparedObserved
      -- The end of the connection before is in the log already when this one is installed,
      -- so all that can go wrong is that an observer of that end has begun another.
      refine ⟨(same.called.append called fun _ => rfl).begins, fun agrees => ?_⟩
      refine ((same.called.told agrees).append told).begins fun _ => ?_
      have round := bootsHypothesis installedObserved
      rw [installedObserved.boots] at round
      rw [List.map_map]
      exact round numbered (.inr bootSession)
  | disconnect _ inductionHypothesis => exact inductionHypothesis observed
  | boot => exact (Console.bootWithin_undisturbed _).meets rfl
  | @bootConnects booter _ console _ _ _ _ _ _ inductionHypothesis =>
      have same : console.Undisturbed (console.emit (.booted booter.label)) := ⟨rfl, rfl, rfl⟩
      obtain ⟨called, told⟩ := inductionHypothesis (observed.undisturbed same)
      exact ⟨same.called.append called fun _ => rfl,
        fun agrees => (same.called.told agrees).append told⟩
  | endsNone _ => exact Console.Undisturbed.meets ⟨rfl, rfl, rfl⟩ rfl
  | @ends connection console _ _ _ connected _ inductionHypothesis =>
      have round := inductionHypothesis observed.dropped
      rw [observed.detaches] at round
      refine ⟨.ends, fun _ => .ends connected ?_⟩
      rw [List.map_map]
      exact round console.dropConnection_same.1 (.inr detachSession)
  | bootsNone =>
      intro connected attached
      simp only [List.map_nil, List.not_mem_nil, or_false] at attached
      have agrees : Console.Agrees _ :=
        iff_of_true attached (by rw [Console.isConnected_eq, connected]; rfl)
      exact ⟨by rw [Diary.read, Console.diary, connected]; rfl, fun _ => agrees⟩
  | @boots id process key observer rest _ console _ _ _ _ _ _ _ acting others actsHypothesis
      restHypothesis =>
      intro connected attached
      obtain ⟨heardObserved, heardConnected, heardAttached⟩ := observed.hearBoot process observer
      have numbered := heardConnected.trans connected
      have attachedOr : (console.hearBoot process observer).session.state = .attached ∨
          .session ∈ rest.map Prod.snd := by
        rw [heardAttached]
        simpa [eq_comm, or_assoc] using attached
      have agrees (none : rest = []) : (console.hearBoot process observer).Agrees := by
        subst none
        exact iff_of_true (attachedOr.resolve_right List.not_mem_nil)
          (by rw [Console.isConnected_eq, numbered]; rfl)
      rw [← numbered]
      refine Deed.Meets.round (.toldBoot id key) (actsHypothesis heardObserved) (fun _ => rfl) agrees
        (fun none => Course.boots_nil (none ▸ others)) fun connection session => ?_
      rw [numbered]
      exact restHypothesis (acting.observed heardObserved) (connection.trans numbered)
        (session ▸ attachedOr)
  | detachesNone =>
      intro disconnected detached
      simp only [List.map_nil, List.not_mem_nil, or_false] at detached
      have agrees : Console.Agrees _ :=
        iff_of_false detached (by rw [Console.isConnected_eq, disconnected]; exact nofun)
      exact ⟨by rw [Diary.read, Console.diary, disconnected]; rfl, fun _ => agrees⟩
  | @detaches id key observer rest _ console _ _ _ _ _ _ _ acting others actsHypothesis
      restHypothesis =>
      intro disconnected detached
      obtain ⟨heardObserved, heardConnected, heardAttached⟩ := observed.hearDetach observer
      have numbered := heardConnected.trans disconnected
      have detachedOr : (console.hearDetach observer).session.state ≠ .attached ∨
          .session ∈ rest.map Prod.snd := by
        rw [ne_eq, heardAttached]
        by_cases here : observer = .session
        · exact .inl fun both => both.2 here
        · rcases detached with detached | member
          · exact .inl fun both => detached both.1
          · exact .inr (by simpa [eq_comm, here] using member)
      have agrees (none : rest = []) : (console.hearDetach observer).Agrees := by
        subst none
        exact iff_of_false (detachedOr.resolve_right List.not_mem_nil)
          (by rw [Console.isConnected_eq, numbered]; exact nofun)
      rw [← numbered]
      refine Deed.Meets.round (.toldDetach id key) (actsHypothesis heardObserved) (fun _ => rfl) agrees
        (fun none => Course.detaches_nil (none ▸ others)) fun connection session => ?_
      rw [numbered]
      exact restHypothesis (acting.observed heardObserved) (connection.trans numbered)
        (session ▸ detachedOr)
  | actsNone => exact Console.Undisturbed.meets ⟨rfl, rfl, rfl⟩ rfl
  | @acts last _ _ _ _ _ _ _ _ _ acting _ actHypothesis restHypothesis =>
      obtain ⟨called, told⟩ := actHypothesis observed
      have others := restHypothesis (acting.observed observed)
      cases last with
      | true =>
          exact ⟨called.append others.1 fun none => by simp [(called.quiet none).1],
            fun agrees => by simpa using (told agrees).append others.2⟩
      | false =>
          refine ⟨called.append others.1 fun none => by simp [none, (called.quiet none).1],
            fun calm => ?_⟩
          simp only [Bool.false_or, Bool.and_eq_true, List.isEmpty_iff] at calm
          simp [calm.1.1, others.2 calm.2]

end

end RuntimeConsole
