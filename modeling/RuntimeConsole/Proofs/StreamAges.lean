/-
Module: RuntimeConsole.Proofs.StreamAges
Purpose: What becomes of streams while other things happen: they are never replaced, what has
  been written to them stays, and a process that has ended does not run again.
Main exports:
  inputOf, Ages, Defers, Spares, spares_abiding
-/
import RuntimeConsole.Proofs.NestedEffects
import RuntimeConsole.Proofs.ShellSteps

namespace RuntimeConsole

/-! ### Streams -/

/-- What has been written to a stream; nothing, if there is none. -/
def inputOf (streams : List ProcessStream) (id : Nat) : List UInt8 :=
  (streams[id]?).elim [] ProcessStream.input

/-- Nothing is written to any stream. -/
def untyped : Nat → List UInt8 := fun _ => []

/-- Streams have got older: something may have been written to each, their faults are as they
were, and a process that had ended has ended. -/
structure Ages (typed : Nat → List UInt8) (before after : List ProcessStream) : Prop where
  input : ∀ id, inputOf after id = inputOf before id ++ typed id
  fate : ∀ (id : Nat) (stream : ProcessStream), before[id]? = some stream →
    ∃ later : ProcessStream, after[id]? = some later ∧ later.faults = stream.faults ∧
      (stream.alive = false → later.alive = false)

namespace Ages

variable {typed more : Nat → List UInt8} {first second third : List ProcessStream}

theorem refl (streams : List ProcessStream) : Ages untyped streams streams where
  input _ := (List.append_nil _).symm
  fate _ stream known := ⟨stream, known, rfl, fun ended => ended⟩

theorem of_eq (same : second = first) : Ages untyped first second :=
  same ▸ refl first

theorem trans (earlier : Ages typed first second) (later : Ages more second third) :
    Ages (fun id => typed id ++ more id) first third where
  input id := by rw [later.input, earlier.input, List.append_assoc]
  fate id stream known := by
    obtain ⟨between, there, faults, ended⟩ := earlier.fate id stream known
    obtain ⟨last, found, lastFaults, lastEnded⟩ := later.fate id between there
    exact ⟨last, found, lastFaults.trans faults, fun finished => lastEnded (ended finished)⟩

/-- Nothing was written before. -/
theorem after_untyped (earlier : Ages untyped first second) (later : Ages typed second third) :
    Ages typed first third := by
  simpa [untyped] using earlier.trans later

/-- There are as many streams as before, or more. -/
theorem length_le (ages : Ages typed first second) : first.length ≤ second.length := by
  rcases Nat.lt_or_ge second.length first.length with shorter | enough
  · obtain ⟨_, found, -⟩ := ages.fate second.length _ (List.getElem?_eq_getElem shorter)
    exact absurd (List.getElem?_eq_some_iff.mp found).1 (Nat.lt_irrefl _)
  · exact enough

/-- Streams come behind all others, and nothing has been written to them. -/
theorem append (streams : List ProcessStream) {extra : List ProcessStream}
    (untouched : ∀ stream ∈ extra, stream.input = []) :
    Ages untyped streams (streams ++ extra) where
  input id := by
    rw [inputOf, inputOf, untyped, List.append_nil]
    rcases Nat.lt_or_ge id streams.length with inside | outside
    · rw [List.getElem?_append_left inside]
    · rw [List.getElem?_append_right outside, List.getElem?_eq_none outside]
      cases found : extra[id - streams.length]? with
      | none => rfl
      | some stream => exact untouched stream (List.mem_of_getElem? found)
  fate id stream known :=
    ⟨stream, by rw [List.getElem?_append_left (List.getElem?_eq_some_iff.mp known).1, known], rfl,
      fun ended => ended⟩

/-- Something is done to one stream. -/
theorem modify (streams : List ProcessStream) (id : Nat) {change : ProcessStream → ProcessStream}
    {bytes : List UInt8} (absent : streams[id]? = none → bytes = [])
    (each : ∀ stream, streams[id]? = some stream → (change stream).faults = stream.faults ∧
      (stream.alive = false → (change stream).alive = false) ∧
      (change stream).input = stream.input ++ bytes) :
    Ages (fun other => if other = id then bytes else []) streams (streams.modify id change) where
  input other := by
    rw [inputOf, inputOf, List.getElem?_modify]
    by_cases own : id = other
    · subst own
      rw [if_pos rfl]
      cases known : streams[id]? with
      | none => simp [absent known]
      | some stream => simpa using (each stream known).2.2
    · cases streams[other]? <;> simp [own, Ne.symm own]
  fate other stream known := by
    by_cases own : id = other
    · subst own
      obtain ⟨faults, ended, -⟩ := each stream known
      exact ⟨change stream, by simp [known], faults, ended⟩
    · exact ⟨stream, by simp [known, own], rfl, fun ended => ended⟩

/-- Something is done to one stream by which nothing is written to it. -/
theorem modify_untyped (streams : List ProcessStream) (id : Nat)
    {change : ProcessStream → ProcessStream}
    (each : ∀ stream, (change stream).faults = stream.faults ∧
      (stream.alive = false → (change stream).alive = false) ∧
      (change stream).input = stream.input) :
    Ages untyped streams (streams.modify id change) := by
  have aged : Ages (fun other => if other = id then ([] : List UInt8) else []) streams
      (streams.modify id change) :=
    modify streams id (fun _ => rfl) fun stream _ => by simpa using each stream
  have silent : (fun other => if other = id then ([] : List UInt8) else []) = untyped := by
    funext other
    exact ite_self _
  exact silent ▸ aged

end Ages

namespace ProcessStream

/-- Whether an operation leaves what has been written alone, and does not run a process again. -/
def Harmless (operation : ProcessStream → Except Failure ProcessStream) : Prop :=
  ∀ stream changed, operation stream = .ok changed → changed.faults = stream.faults ∧
    (stream.alive = false → changed.alive = false) ∧ changed.input = stream.input

theorem unlessRefused_ok {α : Type} {reason : Option String} {outcome : Except Failure α}
    {value : α} (succeeds : unlessRefused reason outcome = .ok value) : outcome = .ok value := by
  cases reason with
  | none => exact succeeds
  | some reason => cases succeeds

theorem kill_harmless : Harmless kill := by
  intro stream changed succeeds
  obtain rfl := Except.ok.inj (unlessRefused_ok succeeds)
  exact ⟨rfl, fun _ => rfl, rfl⟩

theorem resize_harmless (size : Size) : Harmless (·.resize size) := by
  intro stream changed succeeds
  obtain rfl := Except.ok.inj (unlessRefused_ok succeeds)
  exact ⟨rfl, fun ended => ended, rfl⟩

theorem print_harmless (bytes : List UInt8) : Harmless fun stream => .ok (stream.print bytes) := by
  intro stream changed succeeds
  obtain rfl := Except.ok.inj succeeds
  exact ⟨rfl, fun ended => ended, rfl⟩

theorem die_harmless : Harmless fun stream => .ok stream.die := by
  intro stream changed succeeds
  obtain rfl := Except.ok.inj succeeds
  exact ⟨rfl, fun _ => rfl, rfl⟩

theorem read_harmless : Harmless fun stream => stream.read.map Prod.snd := by
  intro stream changed succeeds
  dsimp only [read, unlessRefused] at succeeds
  cases refused : stream.faults.read <;> rw [refused] at succeeds
  · obtain rfl := Except.ok.inj succeeds
    exact ⟨rfl, fun ended => ended, rfl⟩
  · cases succeeds

end ProcessStream

namespace Console

open ProcessStream

theorem tryOnStream_ages (console : Console) (id : Nat)
    {operation : ProcessStream → Except Failure ProcessStream} (harmless : Harmless operation) :
    Ages untyped console.streams (console.tryOnStream id operation).streams := by
  rw [tryOnStream_eq]
  refine .modify_untyped _ id fun stream => ?_
  unfold ProcessStream.after
  cases outcome : operation stream with
  | ok changed => exact harmless stream changed outcome
  | error failure => exact ⟨rfl, fun ended => ended, rfl⟩

/-- Reading takes what was printed. -/
theorem readStream_eq (console : Console) (id : Nat) :
    (console.readStream id).1 = console.tryOnStream id fun stream => stream.read.map Prod.snd := by
  unfold readStream tryOnStream onStream
  cases console.stream? id with
  | none => rfl
  | some stream =>
      dsimp only
      cases stream.read <;> rfl

theorem readStream_ages (console : Console) (id : Nat) :
    Ages untyped console.streams (console.readStream id).1.streams :=
  console.readStream_eq id ▸ console.tryOnStream_ages id read_harmless

theorem ages_of_changes {aspects : List Aspect} {before after : Console}
    (step : Changes aspects before after) (apart : Aspect.streams ∉ aspects) :
    Ages untyped before.streams after.streams :=
  .of_eq (step.same .streams apart)

/-! ### Tasks -/

/-- Everything that is put off was put off before, or has nothing to do with auxiliary
terminals. -/
def Defers (before after : Console) : Prop :=
  ∀ task ∈ after.tasks, task ∈ before.tasks ∨ task.errand? = none

namespace Defers

variable {first second third : Console}

theorem of_tasks (same : second.tasks = first.tasks) : Defers first second :=
  fun _ member => .inl (same ▸ member)

theorem of_changes {aspects : List Aspect} (step : Changes aspects first second)
    (apart : Aspect.tasks ∉ aspects) : Defers first second :=
  of_tasks (step.same .tasks apart)

theorem trans (earlier : Defers first second) (later : Defers second third) :
    Defers first third :=
  fun task member => (later task member).elim (earlier task) .inr

theorem spawn (console : Console) {task : Task} (other : task.errand? = none) :
    Defers console (console.spawn task) := by
  intro found member
  rcases List.mem_append.mp member with old | new
  · exact .inl old
  · exact .inr (List.mem_singleton.mp new ▸ other)

theorem foldl {Item : Type} {step : Console → Item → Console}
    (each : ∀ console item, Defers console (step console item)) (items : List Item)
    (console : Console) : Defers console (items.foldl step console) := by
  induction items generalizing console with
  | nil => exact of_tasks rfl
  | cons item items inductionHypothesis => exact (each console item).trans (inductionHypothesis _)

end Defers

theorem listenerSeesLine_defers (console : Console) (change : LineChange)
    (listener : LineListener) : Defers console (console.listenerSeesLine change listener) := by
  cases listener with
  | guest label => exact .of_tasks rfl
  | resolver id =>
      unfold listenerSeesLine resolverSeesLine
      dsimp only
      split
      next => exact .of_tasks rfl
      next resolver _ =>
          have heard : Defers console
              (console.setResolver id (resolver.lineChanged change.row change.text).1) :=
            .of_tasks rfl
          split
          · exact heard.trans (.foldl (fun console link => .spawn console rfl) _ _)
          · exact heard

theorem notify_defers (console : Console) (changes : List LineChange) :
    Defers console (console.notify changes) :=
  .foldl (fun console change =>
    .foldl (fun console (entry : Nat × LineListener) =>
      console.listenerSeesLine_defers change entry.2) _ console) _ _

theorem withTerminal_defers (console : Console) (changed : Terminal × List LineChange) :
    Defers console (console.withTerminal changed) :=
  (Defers.of_tasks rfl).trans (notify_defers _ _)

theorem writeText_defers (console : Console) (text : String) :
    Defers console (console.writeText text) :=
  console.withTerminal_defers _

theorem addLineListener_defers (console : Console) (listener : LineListener) :
    Defers console (console.addLineListener listener).1 :=
  (Defers.of_tasks rfl).trans
    (.foldl (fun console change => console.listenerSeesLine_defers change listener) _ _)

theorem resetPending_defers (console : Console) : Defers console console.resetPending :=
  (Defers.of_tasks rfl).trans (.foldl (fun console _ => .spawn console rfl) _ _)

theorem complete_defers (console : Console) (id : Nat)
    (answer : PendingCall → Except Failure Json) : Defers console (console.complete id answer) := by
  unfold complete
  split
  · exact .of_tasks rfl
  · exact (Defers.of_tasks rfl).trans (.spawn _ rfl)

/-! ### What connections spare -/

/-- What can be different once a connection has begun or ended: neither who is served nor who
follows connections, nor anything about keys, auxiliary terminals and the world around. -/
def sparedAspects : List Aspect :=
  [.connection, .pending, .nextId, .booter, .channels, .processes, .origins, .streams, .launches,
    .display, .scanned, .selection, .attached, .listeners, .settings, .watchers, .module,
    .moduleListeners, .session, .resolvers, .living, .debouncers, .timers, .tasks, .answers, .now,
    .trace, .boots, .overrun]

/-- Streams have got older, no operation on auxiliary terminals has been put off, and the
settings and those who follow them are the same, apart from followers of the prompt. -/
structure Spares (typed : Nat → List UInt8) (before after : Console) : Prop where
  footprint : Changes sparedAspects before after
  ages : Ages typed before.streams after.streams
  defers : Defers before after
  held : after.session.subscriptions = before.session.subscriptions
  current : after.settings.current = before.settings.current
  observers : ∀ observer ∈ after.settings.observers,
    observer ∈ before.settings.observers ∨ observer.listener = .prompt

/-- Whether the session holds nothing for a connection but followers of settings, rows and
modules. -/
def HoldsFollowers (console : Console) : Prop :=
  ∀ released ∈ console.session.cycle.disposables.actions, released.aspects ⊆ cycleAspects

namespace Spares

variable {typed : Nat → List UInt8} {first second third : Console} {aspects : List Aspect}

/-- Streams may have been used and work put off. -/
theorem of_parts (step : Changes aspects first second) (within : aspects ⊆ sparedAspects)
    (apart : [.session, .settings].all (· ∉ aspects) = true)
    (ages : Ages typed first.streams second.streams) (defers : Defers first second) :
    Spares typed first second := by
  have session : second.session = first.session := step.kept apart .session (by decide)
  have settings : second.settings = first.settings := step.kept apart .settings (by decide)
  exact {
    footprint := step.mono within
    ages := ages
    defers := defers
    held := congrArg Session.subscriptions session
    current := congrArg Store.current settings
    observers := fun observer member => .inl (settings ▸ member) }

theorem of_changes (step : Changes aspects first second) (within : aspects ⊆ sparedAspects)
    (apart : [.session, .settings, .streams, .tasks].all (· ∉ aspects) = true) :
    Spares untyped first second :=
  of_parts step within (apart_mono apart (by decide))
    (.of_eq (step.kept apart .streams (by decide)))
    (.of_tasks (step.kept apart .tasks (by decide)))

theorem refl (console : Console) : Spares untyped console console :=
  of_changes (.refl [] console) (by decide) (by decide)

/-- Nothing is written to streams before. -/
theorem trans (earlier : Spares untyped first second) (later : Spares typed second third) :
    Spares typed first third where
  footprint := earlier.footprint.trans later.footprint
  ages := earlier.ages.after_untyped later.ages
  defers := earlier.defers.trans later.defers
  held := later.held.trans earlier.held
  current := later.current.trans earlier.current
  observers observer member :=
    (later.observers observer member).elim (earlier.observers observer) .inr

end Spares

theorem HoldsFollowers.of_session {before after : Console} (followers : before.HoldsFollowers)
    (same : after.session.cycle = before.session.cycle) : after.HoldsFollowers := by
  unfold HoldsFollowers
  rw [same]
  exact followers

theorem holdsFollowers_of_empty {console : Console} (empty : console.session.cycle = .empty) :
    console.HoldsFollowers := by
  rw [HoldsFollowers, empty]
  exact fun released member => (List.not_mem_nil member).elim

theorem holdsFollowers_of_keys {console : Console} {keys : CycleKeys}
    (cycle : console.session.cycle = keys.cycle) : console.HoldsFollowers := by
  rw [HoldsFollowers, cycle]
  simp [CycleKeys.cycle, Release.aspects, cycleAspects]

/-- Releases take observers of the settings away and leave the settings as they are. -/
theorem dispose_settings (console : Console) (list : Disposables Release) :
    (console.dispose list).settings.current = console.settings.current ∧
      (console.dispose list).settings.observers ⊆ console.settings.observers := by
  unfold dispose
  induction list.releaseOrder generalizing console with
  | nil => exact ⟨rfl, List.Subset.refl _⟩
  | cons released rest inductionHypothesis =>
      have kept : (console.release released).settings.current = console.settings.current ∧
          (console.release released).settings.observers ⊆ console.settings.observers := by
        rcases console.release_settings released with same | ⟨key, same⟩
        · exact ⟨congrArg Store.current same, by rw [same]; exact List.Subset.refl _⟩
        · rw [same]
          exact ⟨rfl, fun _ member => (List.mem_filter.mp member).1⟩
      obtain ⟨current, observers⟩ := inductionHypothesis (console.release released)
      exact ⟨current.trans kept.1, List.Subset.trans observers kept.2⟩

/-- Followers of settings, rows and modules are let go of. -/
theorem dispose_spares {console : Console} {list : Disposables Release}
    (followers : ∀ released ∈ list.actions, released.aspects ⊆ cycleAspects) :
    Spares untyped console (console.dispose list) := by
  have step := console.dispose_changes_within list followers
  have session : (console.dispose list).session = console.session :=
    (console.dispose_changes list).same .session (by decide)
  obtain ⟨current, observers⟩ := console.dispose_settings list
  exact {
    footprint := step.mono (by decide)
    ages := .of_eq (step.same .streams (by decide))
    defers := .of_changes step (by decide)
    held := congrArg Session.subscriptions session
    current := current
    observers := fun observer member => .inl (observers member) }

theorem withCycle_spares (console : Console) (cycle : Cycle) :
    Spares untyped console (console.withCycle cycle) where
  footprint := (console.withCycle_changes cycle).mono (by decide)
  ages := .refl _
  defers := .of_tasks rfl
  held := rfl
  current := rfl
  observers _ member := .inl member

theorem withSessionState_spares (console : Console) (state : SessionState) :
    Spares untyped console (console.withSessionState state) where
  footprint := (console.withSessionState_changes state).mono (by decide)
  ages := .refl _
  defers := .of_tasks rfl
  held := rfl
  current := rfl
  observers _ member := .inl member

theorem writeText_spares (console : Console) (text : String) :
    Spares untyped console (console.writeText text) :=
  have step := console.writeText_changes text
  .of_parts step (by decide) (by decide) (ages_of_changes step (by decide))
    (console.writeText_defers text)

theorem resetPending_spares (console : Console) : Spares untyped console console.resetPending :=
  have step := console.resetPending_changes
  .of_parts step (by decide) (by decide) (ages_of_changes step (by decide))
    console.resetPending_defers

/-- A session that lets go of its followers holds none. -/
theorem teardownCycle_spares {console : Console} (followers : console.HoldsFollowers) :
    Spares untyped console console.teardownCycle ∧ console.teardownCycle.HoldsFollowers := by
  have session : console.teardownCycle.session = (console.withCycle .empty).session :=
    (dispose_changes _ _).same .session (by decide)
  exact ⟨(console.withCycle_spares .empty).trans (dispose_spares followers),
    holdsFollowers_of_empty (congrArg Session.cycle session)⟩

theorem observePrompt_spares (console : Console) :
    Spares untyped console console.observePrompt.1 := by
  have step := console.observePrompt_changes
  have settings : console.observePrompt.1.settings =
      (console.settings.observe (fun settings => .str settings.prompt) .prompt).1 := rfl
  exact {
    footprint := step.mono (by decide)
    ages := .of_eq (step.same .streams (by decide))
    defers := .of_changes step (by decide)
    held := congrArg Session.subscriptions (step.same .session (by decide))
    current := rfl
    observers := fun observer member => by
      rw [settings] at member
      rcases List.mem_append.mp member with old | new
      · exact .inl old
      · exact .inr (List.mem_singleton.mp new ▸ rfl) }

theorem addLineListener_spares (console : Console) (listener : LineListener) :
    Spares untyped console (console.addLineListener listener).1 :=
  have step := console.addLineListener_changes listener
  .of_parts step (by decide) (by decide) (ages_of_changes step (by decide))
    (console.addLineListener_defers listener)

theorem openCycle_spares (console : Console) : Spares untyped console console.openCycle.1 := by
  unfold openCycle
  dsimp only
  generalize followed : console.observePrompt = following
  have prompt : Spares untyped console following.1 := followed ▸ console.observePrompt_spares
  have resolver := following.1.addResolver_changes
  generalize following.1.addResolver = matching at resolver ⊢
  have heard := matching.1.addLineListener_spares (.resolver matching.2)
  generalize matching.1.addLineListener (.resolver matching.2) = hearing at heard ⊢
  have timer := hearing.1.addDebouncer_changes hearing.1.host.moduleDebounce
  generalize hearing.1.addDebouncer hearing.1.host.moduleDebounce = delaying at timer ⊢
  exact prompt.trans ((Spares.of_changes resolver (by decide) (by decide)).trans
    (heard.trans ((Spares.of_changes timer (by decide) (by decide)).trans
      (.of_changes (listenModules_changes _ _) (by decide) (by decide)))))

theorem beginCycle_spares {console : Console} (followers : console.HoldsFollowers) :
    Spares untyped console console.beginCycle ∧ console.beginCycle.HoldsFollowers := by
  have session : console.openCycle.1.session = console.session :=
    console.openCycle_changes.same .session (by decide)
  have disposed := (console.openCycle.1.withCycle console.openCycle.2).dispose_changes
    console.openCycle.1.session.cycle.disposables
  have held : console.beginCycle.session.cycle = console.wiring.nextKeys.cycle :=
    (congrArg Session.cycle (disposed.same .session (by decide))).trans
      console.openCycle_wiring.2
  refine ⟨?_, holdsFollowers_of_keys held⟩
  have opened := console.openCycle_spares
  have kept := console.openCycle.1.withCycle_spares console.openCycle.2
  have freed : Spares untyped (console.openCycle.1.withCycle console.openCycle.2)
      ((console.openCycle.1.withCycle console.openCycle.2).dispose
        console.openCycle.1.session.cycle.disposables) :=
    dispose_spares (session ▸ followers)
  exact opened.trans (kept.trans (freed.trans (withSessionState_spares _ _)))

theorem attachProcess_spares (console : Console) (process : Nat) :
    Spares untyped console (console.attachProcess process) := by
  have step := console.attachProcess_changes process
  refine .of_parts step (by decide) (by decide) ?_ (.of_changes step (by decide))
  unfold attachProcess
  split
  next found _ =>
      exact tryOnStream_ages
        { console with terminal := { console.terminal with stream := some found.stream } }
        found.stream (resize_harmless _)
  next => exact .refl _

theorem replayEarly_spares (console : Console) (process : Nat) :
    Spares untyped console (console.replayEarly process) := by
  have written (texts : List String) (console : Console) :
      Spares untyped console (texts.foldl writeText console) := by
    induction texts generalizing console with
    | nil => exact .refl console
    | cons text texts inductionHypothesis =>
        exact (console.writeText_spares text).trans (inductionHypothesis _)
  exact (Spares.of_changes (console.takeEarly_changes process) (by decide) (by decide)).trans
    (written _ _)

/-- What connections that begin and end spare, as long as the session holds followers only. -/
def SparesFollowed (before after : Console) : Prop :=
  before.HoldsFollowers → Spares untyped before after ∧ after.HoldsFollowers

theorem SparesFollowed.of_spares {before after : Console} (spares : Spares untyped before after)
    (same : after.session.cycle = before.session.cycle) : SparesFollowed before after :=
  fun followers => ⟨spares, followers.of_session same⟩

theorem SparesFollowed.trans {first second third : Console}
    (earlier : SparesFollowed first second) (later : SparesFollowed second third) :
    SparesFollowed first third := fun followers =>
  have one := earlier followers
  have two := later one.2
  ⟨one.1.trans two.1, two.2⟩

theorem withSessionState_followed (console : Console) (state : SessionState) :
    SparesFollowed console (console.withSessionState state) :=
  .of_spares (console.withSessionState_spares state) rfl

theorem writeText_followed (console : Console) (text : String) :
    SparesFollowed console (console.writeText text) :=
  .of_spares (console.writeText_spares text)
    (congrArg Session.cycle ((console.writeText_changes text).same .session (by decide)))

theorem resetPending_followed (console : Console) :
    SparesFollowed console console.resetPending :=
  .of_spares console.resetPending_spares
    (congrArg Session.cycle (console.resetPending_changes.same .session (by decide)))

theorem sessionBoot_spares (console : Console) (process : Nat) :
    SparesFollowed console (console.sessionBoot process) := by
  have freed : SparesFollowed console console.letGo := by
    unfold letGo
    split
    · refine SparesFollowed.trans (.of_spares (.of_changes console.detach_changes (by decide)
        (by decide)) rfl) fun followers => teardownCycle_spares followers
    · exact .of_spares (.refl console) rfl
  have attached : SparesFollowed console.letGo (console.letGo.attachProcess process) :=
    .of_spares (attachProcess_spares _ _)
      (congrArg Session.cycle ((attachProcess_changes _ _).same .session (by decide)))
  have replayed : SparesFollowed (console.letGo.attachProcess process)
      (console.showProcess process) :=
    .of_spares (replayEarly_spares _ _)
      (congrArg Session.cycle ((replayEarly_changes _ _).same .session (by decide)))
  exact freed.trans (attached.trans (replayed.trans fun followers => beginCycle_spares followers))

theorem sessionDetached_spares (console : Console) :
    SparesFollowed console console.sessionDetached := by
  unfold sessionDetached
  split
  · have freed : SparesFollowed console console.detach :=
      .of_spares (.of_changes console.detach_changes (by decide) (by decide)) rfl
    have shown := freed.trans (console.detach.writeText_followed exitMessage)
    have ended : SparesFollowed (console.detach.writeText exitMessage)
        (console.detach.writeText exitMessage).teardownCycle :=
      fun followers => teardownCycle_spares followers
    generalize (console.detach.writeText exitMessage).teardownCycle = parted at ended ⊢
    have reset : SparesFollowed parted parted.resetPending := resetPending_followed parted
    exact shown.trans (ended.trans (reset.trans (withSessionState_followed _ _)))
  · exact .of_spares (.refl console) rfl

theorem bootFailed_spares (console : Console) (failure : Failure) :
    SparesFollowed console (console.bootFailed failure) := by
  unfold bootFailed
  split
  · exact (withSessionState_followed console .detached).trans (writeText_followed _ _)
  · exact .of_spares (.refl console) rfl

theorem prepareProcess_ages (console : Console) (spec : ProcessSpec) :
    Ages untyped console.streams (console.prepareProcess spec).1.streams := by
  unfold prepareProcess
  cases spec.origin with
  | fresh faults => exact .append _ (by simp [ProcessStream.fresh])
  | running stream => exact .refl _

theorem launch_ages (console : Console) (command : String) (patience : Nat) :
    Ages untyped console.streams (console.launch command patience).1.streams := by
  unfold launch
  split
  · split
    · exact .refl _
    · exact .append _ (by simp [ProcessStream.fresh])
  · exact .refl _

/-- Whatever observers do with the client spares the same. -/
theorem spares_abiding : Abiding SparesFollowed where
  trans := .trans
  quiet step := .of_spares (.of_changes step (by decide) (by decide))
    (congrArg Session.cycle (step.same .session (by decide)))
  resets := resetPending_followed
  prepares console spec := by
    have step := console.prepareProcess_changes spec
    exact .of_spares (.of_parts step (by decide) (by decide) (console.prepareProcess_ages spec)
      (.of_changes step (by decide))) (congrArg Session.cycle (step.same .session (by decide)))
  launches console command patience := by
    have step := console.launch_changes command patience
    exact .of_spares (.of_parts step (by decide) (by decide)
      (console.launch_ages command patience) (.of_changes step (by decide)))
      (congrArg Session.cycle (step.same .session (by decide)))
  boots := sessionBoot_spares
  detaches := sessionDetached_spares
  asks console :=
    (withSessionState_followed console .starting).trans (writeText_followed _ _)
  fails := bootFailed_spares

end Console

end RuntimeConsole
