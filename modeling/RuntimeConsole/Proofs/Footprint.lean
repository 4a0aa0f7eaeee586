/-
Module: RuntimeConsole.Proofs.Footprint
Purpose: The aspects of a console, and which of them an operation can change: one
  lemma for each operation of the terminal, of the client and of the settings.
Main exports:
  Aspect, Console.look, Changes
-/
import RuntimeConsole.Console.Event

namespace RuntimeConsole

/-! ### Aspects -/

/-- Something that can be seen of a console.  Some aspects are parts of others, as
the answers are a part of the tasks, because many operations change the whole and
leave the part alone. -/
inductive Aspect where
  | connection
  | pending
  | nextId
  | handlers
  /-- Who is told about connections. -/
  | observers
  | booter
  | channels
  | processes
  /-- The streams of the processes. -/
  | origins
  | streams
  | launches
  | display
  | scanned
  | selection
  /-- The stream attached to the terminal. -/
  | attached
  /-- Who is told about changed rows, and the key of the next one. -/
  | listeners
  /-- What decides about keys: the filter and the start handler. -/
  | keyboard
  | settings
  /-- Who is told about settings, and the key of the next one. -/
  | watchers
  | allowLists
  | module
  /-- Who is told about modules, and the key of the next one. -/
  | moduleListeners
  | session
  | resolvers
  /-- Which resolvers are still at work. -/
  | living
  | debouncers
  /-- The number of debouncers. -/
  | timers
  /-- The auxiliary terminals, and what is needed to open them. -/
  | shells
  | subscriptions
  | host
  | tasks
  /-- The answers that wait to be passed on. -/
  | answers
  | now
  | trace
  /-- How often the runtime was started. -/
  | boots
  | overrun
deriving DecidableEq

/-- Whether an effect is that the runtime was started. -/
def Effect.isBoot : Effect → Bool
  | .booted _ => true
  | _ => false

/-- The answer a task passes on, with its call. -/
def Task.answer? : Task → Option (PendingCall × Except Failure Json)
  | .validate .. => none
  | .resume call answer => some (call, answer)
  | .chosen .. => none

/-- The answers that have been given and wait to be passed on, oldest first. -/
def Console.answers (console : Console) : List (PendingCall × Except Failure Json) :=
  console.tasks.filterMap Task.answer?

/-- How often the runtime was started. -/
def Console.boots (console : Console) : Nat :=
  console.trace.countP Effect.isBoot

/-- The type of what is seen in an aspect. -/
abbrev Aspect.View : Aspect → Type
  | .connection => Option Connection
  | .pending => List PendingCall
  | .nextId => Nat
  | .handlers => List (String × Nat × Handler)
  | .observers => List (Nat × BootObserver) × List (Nat × DetachObserver)
  | .booter => Option Booter
  | .channels => List Channel
  | .processes => List RemoteProcess
  | .origins => List Nat
  | .streams => List ProcessStream
  | .launches => List Launch
  | .display => Display
  | .scanned => List (List Char)
  | .selection => Option (Position × Position)
  | .attached => Option Nat
  | .listeners => List (Nat × LineListener) × Nat
  | .keyboard => Option KeyFilter × Option StartHandler
  | .settings => Store Settings Json SettingsListener
  | .watchers => List (Nat × SettingsListener) × Nat
  | .allowLists => AllowLists
  | .module => String
  | .moduleListeners => List (Nat × ModuleListener) × Nat
  | .session => Session
  | .resolvers => List Resolver
  | .living => List Bool
  | .debouncers => List (Debouncer DebouncedAction)
  | .timers => Nat
  | .shells => Registry × Nat × List Errand × Nat
  | .subscriptions => Disposables Release
  | .host => Host
  | .tasks => List Task
  | .answers => List (PendingCall × Except Failure Json)
  | .now => Nat
  | .trace => List Effect
  | .boots => Nat
  | .overrun => Bool

namespace Console

/-- Who is told about settings, with the key each is removed by. -/
def watchers (console : Console) : List (Nat × SettingsListener) :=
  console.settings.observers.map fun observer => (observer.key, observer.listener)

/-- What is seen of a console in an aspect. -/
def look (console : Console) : (aspect : Aspect) → aspect.View
  | .connection => console.client.connection
  | .pending => console.client.pending
  | .nextId => console.client.nextId
  | .handlers => console.client.handlers
  | .observers => (console.client.bootObservers, console.client.detachObservers)
  | .booter => console.client.booter
  | .channels => console.channels
  | .processes => console.processes
  | .origins => console.processes.map RemoteProcess.stream
  | .streams => console.streams
  | .launches => console.launches
  | .display => console.terminal.display
  | .scanned => console.terminal.scanned
  | .selection => console.terminal.selection
  | .attached => console.terminal.stream
  | .listeners => (console.terminal.listeners, console.terminal.nextListener)
  | .keyboard => (console.terminal.keyFilter, console.terminal.startHandler)
  | .settings => console.settings
  | .watchers => (console.watchers, console.settings.nextKey)
  | .allowLists => console.allowLists
  | .module => console.modules.current
  | .moduleListeners => (console.modules.listeners, console.modules.nextKey)
  | .session => console.session
  | .resolvers => console.resolvers
  | .living => console.resolvers.map Resolver.alive
  | .debouncers => console.debouncers
  | .timers => console.debouncers.length
  | .shells => (console.registry, console.asked, console.errands, console.drawn)
  | .subscriptions => console.subscriptions
  | .host => console.host
  | .tasks => console.tasks
  | .answers => console.answers
  | .now => console.now
  | .trace => console.trace
  | .boots => console.boots
  | .overrun => console.overrun

end Console

/-! ### Footprints -/

/-- A console differs from another at most in some aspects. -/
structure Changes (aspects : List Aspect) (before after : Console) : Prop where
  same : ∀ aspect, aspect ∉ aspects → after.look aspect = before.look aspect

namespace Changes

variable {aspects wider : List Aspect} {first second third : Console}

theorem refl (aspects : List Aspect) (console : Console) : Changes aspects console console :=
  ⟨fun _ _ => rfl⟩

theorem trans (firstStep : Changes aspects first second)
    (secondStep : Changes aspects second third) : Changes aspects first third :=
  ⟨fun aspect outside => (secondStep.same aspect outside).trans (firstStep.same aspect outside)⟩

theorem mono (step : Changes aspects first second) (within : aspects ⊆ wider) :
    Changes wider first second :=
  ⟨fun aspect outside => step.same aspect fun inside => outside (within inside)⟩

/-- Two steps with footprints of their own. -/
theorem andThen {others : List Aspect} (firstStep : Changes aspects first second)
    (secondStep : Changes others second third) (within : aspects ++ others ⊆ wider) :
    Changes wider first third :=
  have both := List.append_subset.mp within
  (firstStep.mono both.1).trans (secondStep.mono both.2)

/-- Aspects none of which a step changes are left alone. -/
theorem kept {others : List Aspect} (step : Changes aspects first second)
    (apart : others.all (· ∉ aspects) = true) (aspect : Aspect) (among : aspect ∈ others) :
    second.look aspect = first.look aspect :=
  step.same aspect (of_decide_eq_true (List.all_eq_true.mp apart aspect among))

/-- An aspect that is the same after all does not count. -/
theorem narrow (aspect : Aspect) (step : Changes (aspect :: aspects) first second)
    (same : second.look aspect = first.look aspect) : Changes aspects first second := by
  refine ⟨fun other outside => ?_⟩
  rcases decEq other aspect with different | rfl
  · exact step.same other (by simp [different, outside])
  · exact same

/-- What holds of the step of every item holds of all of them together. -/
theorem foldl_of_mem {Item : Type} {step : Console → Item → Console} (items : List Item)
    (each : ∀ item ∈ items, ∀ console, Changes aspects console (step console item))
    (console : Console) : Changes aspects console (items.foldl step console) := by
  induction items generalizing console with
  | nil => exact refl aspects console
  | cons item items inductionHypothesis =>
      exact (each item (by simp) console).trans
        (inductionHypothesis (fun other member => each other (by simp [member])) _)

theorem foldl {Item : Type} {step : Console → Item → Console}
    (each : ∀ console item, Changes aspects console (step console item))
    (items : List Item) (console : Console) :
    Changes aspects console (items.foldl step console) :=
  foldl_of_mem items (fun item _ console => each console item) console

end Changes

theorem apart_mono {aspects others fewer : List Aspect}
    (apart : others.all (· ∉ aspects) = true) (within : fewer ⊆ others) :
    fewer.all (· ∉ aspects) = true :=
  List.all_eq_true.mpr fun aspect among => List.all_eq_true.mp apart aspect (within among)

theorem Resolver.lineChanged_alive (resolver : Resolver) (row : UInt16) (text : List Char) :
    (resolver.lineChanged row text).1.alive = resolver.alive := by
  unfold Resolver.lineChanged
  split <;> rfl

theorem Resolver.accept_alive (resolver : Resolver) (row : UInt16) (generation : Nat)
    (link : LinkMatch) : (resolver.accept row generation link).alive = resolver.alive := by
  unfold Resolver.accept
  split
  · split <;> rfl
  · rfl

namespace Console

/-! ### Effects, tasks and streams -/

theorem emit_changes (console : Console) (effect : Effect) (noBoot : effect.isBoot = false) :
    Changes [.trace] console (console.emit effect) := by
  refine .narrow .boots ?_ (by simp [look, boots, emit, noBoot])
  refine ⟨fun aspect outside => ?_⟩
  cases aspect <;> first | rfl | exact absurd (by decide) outside

/-- That the runtime is started is counted. -/
theorem emit_booted_changes (console : Console) (booter : Json) :
    Changes [.trace, .boots] console (console.emit (.booted booter)) := by
  refine ⟨fun aspect outside => ?_⟩
  cases aspect <;> first | rfl | exact absurd (by decide) outside

theorem finish_changes (console : Console) (ticket : Nat) (outcome : Outcome) :
    Changes [.trace] console (console.finish ticket outcome) :=
  console.emit_changes _ rfl

theorem spawn_changes (console : Console) (task : Task) (noAnswer : task.answer? = none) :
    Changes [.tasks] console (console.spawn task) := by
  refine .narrow .answers ?_ (by simp [look, answers, spawn, noAnswer])
  refine ⟨fun aspect outside => ?_⟩
  cases aspect <;> first | rfl | exact absurd (by decide) outside

theorem addStream_changes (console : Console) (faults : StreamFaults) :
    Changes [.streams] console (console.addStream faults).1 := by
  refine ⟨fun aspect outside => ?_⟩
  cases aspect <;> first | rfl | exact absurd (by decide) outside

theorem setStream_changes (console : Console) (id : Nat) (stream : ProcessStream) :
    Changes [.streams] console (console.setStream id stream) := by
  refine ⟨fun aspect outside => ?_⟩
  cases aspect <;> first | rfl | exact absurd (by decide) outside

theorem onStream_changes (console : Console) (id : Nat)
    (operation : ProcessStream → Except Failure ProcessStream) :
    Changes [.streams] console (console.onStream id operation).1 := by
  unfold onStream
  split
  · exact .refl _ console
  · split
    · exact console.setStream_changes id _
    · exact .refl _ console

theorem tryOnStream_changes (console : Console) (id : Nat)
    (operation : ProcessStream → Except Failure ProcessStream) :
    Changes [.streams] console (console.tryOnStream id operation) :=
  console.onStream_changes id operation

/-! ### The terminal -/

theorem setResolver_changes (console : Console) (id : Nat) (resolver : Resolver) :
    Changes [.living, .resolvers] console (console.setResolver id resolver) := by
  refine ⟨fun aspect outside => ?_⟩
  cases aspect <;> first | rfl | exact absurd (by decide) outside

/-- A resolver that works as long as the one in whose place it comes does not show
in which resolvers are at work. -/
theorem setResolver_changes_of_alive (console : Console) {id : Nat} {known : Resolver}
    (resolver : Resolver) (found : console.resolvers[id]? = some known)
    (same : resolver.alive = known.alive) :
    Changes [.resolvers] console (console.setResolver id resolver) := by
  refine .narrow .living (console.setResolver_changes id resolver) ?_
  obtain ⟨inside, rfl⟩ := List.getElem?_eq_some_iff.mp found
  change (console.resolvers.set id resolver).map Resolver.alive =
    console.resolvers.map Resolver.alive
  rw [List.map_set, same, ← List.getElem_map Resolver.alive, List.set_getElem_self]
  simpa using inside

theorem resolverSeesLine_changes (console : Console) (id : Nat) (change : LineChange) :
    Changes [.resolvers, .tasks] console (console.resolverSeesLine id change) := by
  unfold resolverSeesLine
  split
  next => exact .refl _ console
  next resolver found =>
      have told : Changes [.resolvers, .tasks] console
          (console.setResolver id (resolver.lineChanged change.row change.text).1) :=
        (console.setResolver_changes_of_alive _ found (resolver.lineChanged_alive ..)).mono
          (by decide)
      dsimp only
      split
      · refine told.trans (.foldl ?_ _ _)
        exact fun console link => (console.spawn_changes _ rfl).mono (by decide)
      · exact told

theorem listenerSeesLine_changes (console : Console) (change : LineChange)
    (listener : LineListener) :
    Changes [.resolvers, .tasks, .trace] console (console.listenerSeesLine change listener) := by
  cases listener with
  | resolver id => exact (console.resolverSeesLine_changes id change).mono (by decide)
  | guest label => exact (console.emit_changes _ rfl).mono (by decide)

theorem notify_changes (console : Console) (changes : List LineChange) :
    Changes [.resolvers, .tasks, .trace] console (console.notify changes) := by
  refine .foldl ?_ changes console
  intro console change
  refine .foldl ?_ console.terminal.listeners console
  exact fun console entry => console.listenerSeesLine_changes change entry.2

theorem write_changes (console : Console) (bytes : List UInt8) :
    Changes [.display, .scanned, .resolvers, .tasks, .trace] console (console.write bytes) := by
  refine .trans ?_ ((notify_changes _ _).mono (by decide))
  refine ⟨fun aspect outside => ?_⟩
  cases aspect <;> first | rfl | exact absurd (by decide) outside

theorem writeText_changes (console : Console) (text : String) :
    Changes [.display, .scanned, .resolvers, .tasks, .trace] console (console.writeText text) :=
  console.write_changes _

theorem reshape_changes (console : Console) (change : Grid → Grid) :
    Changes [.display, .scanned, .selection, .resolvers, .tasks, .trace] console
      (console.withTerminal (console.terminal.reshape change)) := by
  refine .trans ?_ ((notify_changes _ _).mono (by decide))
  refine ⟨fun aspect outside => ?_⟩
  cases aspect <;> first | rfl | exact absurd (by decide) outside

theorem clear_changes (console : Console) :
    Changes [.display, .scanned, .selection, .resolvers, .tasks, .trace] console
      console.clear :=
  console.reshape_changes Grid.clear

theorem resize_changes (console : Console) (size : Size) :
    Changes [.display, .scanned, .selection, .resolvers, .tasks, .trace, .streams] console
      (console.resize size).1 := by
  have reshaped := (console.reshape_changes fun grid => grid.resize size).mono
    (by decide : _ ⊆ [.display, .scanned, .selection, .resolvers, .tasks, .trace, .streams])
  unfold resize
  dsimp only
  split
  · exact reshaped.trans ((onStream_changes _ _ _).mono (by decide))
  · exact reshaped

theorem attach_changes (console : Console) (stream : Nat) :
    Changes [.attached, .streams] console (console.attach stream) := by
  refine .trans ?_ ((tryOnStream_changes _ _ _).mono (by decide))
  refine ⟨fun aspect outside => ?_⟩
  cases aspect <;> first | rfl | exact absurd (by decide) outside

theorem detach_changes (console : Console) : Changes [.attached] console console.detach := by
  refine ⟨fun aspect outside => ?_⟩
  cases aspect <;> first | rfl | exact absurd (by decide) outside

theorem sendInput_changes (console : Console) (bytes : List UInt8) :
    Changes [.streams] console (console.sendInput bytes).1 := by
  unfold sendInput
  split
  · exact console.onStream_changes _ _
  · exact .refl _ console

theorem readStream_changes (console : Console) (id : Nat) :
    Changes [.streams] console (console.readStream id).1 := by
  unfold readStream
  split
  · exact .refl _ console
  · split
    · exact console.setStream_changes id _
    · exact .refl _ console

theorem pump_changes (console : Console) :
    Changes [.display, .scanned, .resolvers, .tasks, .trace, .streams] console
      console.pump.1 := by
  unfold pump
  split
  next => exact .refl _ console
  next id _ =>
      have read := (console.readStream_changes id).mono
        (by decide : _ ⊆ [.display, .scanned, .resolvers, .tasks, .trace, .streams])
      split
      next reached bytes result =>
          rw [result] at read
          dsimp only
          split
          · exact read
          · exact read.trans ((reached.write_changes bytes).mono (by decide))
      next reached failure result =>
          rw [result] at read
          exact read

theorem addLineListener_changes (console : Console) (listener : LineListener) :
    Changes [.listeners, .resolvers, .tasks, .trace] console
      (console.addLineListener listener).1 := by
  refine .trans ?_ (.foldl ?_ _ _)
  · refine ⟨fun aspect outside => ?_⟩
    cases aspect <;> first | rfl | exact absurd (by decide) outside
  · exact fun console change => (console.listenerSeesLine_changes change listener).mono (by decide)

/-! ### Messages -/

theorem sendOver_changes (console : Console) (channel : Nat) (frame : Frame) :
    Changes [.channels, .trace] console (console.sendOver channel frame).1 := by
  unfold sendOver
  split
  · exact (console.emit_changes (.sent ..) rfl).mono (by decide)
  · split
    · refine ⟨fun aspect outside => ?_⟩
      cases aspect <;> first | rfl | exact absurd (by decide) outside
    · exact .refl _ console
  · exact .refl _ console

theorem sendFrame_changes (console : Console) (frame : Frame) :
    Changes [.channels, .trace] console (console.sendFrame frame) := by
  unfold sendFrame
  split
  · exact console.sendOver_changes _ _
  · exact .refl _ console

theorem send_changes (console : Console) (name : String) (args : List Json) :
    Changes [.channels, .trace] console (console.send name args) :=
  console.sendFrame_changes _

theorem openLinkFile_changes (console : Console) (ticket resolver : Nat) (link : LinkMatch)
    (path : String) :
    Changes [.trace] console (console.openLinkFile ticket resolver link path) := by
  unfold openLinkFile
  split
  · refine (console.emit_changes (.openFile path link.openLine true) rfl).trans ?_
    dsimp only
    split <;> exact finish_changes ..
  · exact console.finish_changes _ _

theorem deliver_changes (console : Console) (answer : Except Failure Json) (waiter : Waiter) :
    Changes [.resolvers, .trace] console (console.deliver answer waiter) := by
  cases waiter with
  | validation resolver row generation link =>
      unfold deliver
      dsimp only
      split
      next found known =>
          exact (console.setResolver_changes_of_alive _ known (found.accept_alive ..)).mono
            (by decide)
      next => exact .refl _ console
  | opening ticket resolver link =>
      unfold deliver
      dsimp only
      split
      · exact (console.openLinkFile_changes ..).mono (by decide)
      · exact (console.finish_changes ..).mono (by decide)
      · exact (console.finish_changes ..).mono (by decide)
  | guest ticket expected =>
      unfold deliver
      dsimp only
      split <;> exact (console.finish_changes ..).mono (by decide)

/-- A caller whose call failed is told, and nothing comes of it. -/
theorem deliver_error_changes (console : Console) (failure : Failure) (waiter : Waiter) :
    Changes [.trace] console (console.deliver (.error failure) waiter) := by
  cases waiter with
  | validation resolver row generation link => exact .refl _ console
  | opening ticket resolver link => exact console.finish_changes _ _
  | guest ticket expected => exact console.finish_changes _ _

/-- A call leaves nothing but its entry in the table, or the failure of its caller. -/
theorem call_changes (console : Console) (name : String) (args : List Json) (waiter : Waiter) :
    Changes [.nextId, .pending, .channels, .trace] console
      (console.call name args waiter) := by
  unfold call
  split
  · exact (console.deliver_error_changes _ _).mono (by decide)
  next connection _ =>
      have numbered : Changes [.nextId, .pending, .channels, .trace] console
          (console.withClient console.client.withFreshId.1) := by
        refine ⟨fun aspect outside => ?_⟩
        cases aspect <;> first | rfl | exact absurd (by decide) outside
      have sent := (sendOver_changes (console.withClient console.client.withFreshId.1)
        connection.channel (.call console.client.withFreshId.2 name args)).mono
        (by decide : _ ⊆ [.nextId, .pending, .channels, .trace])
      dsimp only
      split
      next reached accepted =>
          rw [accepted] at sent
          refine (numbered.trans sent).trans ?_
          refine ⟨fun aspect outside => ?_⟩
          cases aspect <;> first | rfl | exact absurd (by decide) outside
      next reached refused =>
          rw [refused] at sent
          exact (numbered.trans sent).trans ((reached.deliver_error_changes _ _).mono (by decide))

theorem failCall_changes (console : Console) (pending : PendingCall) :
    Changes [.tasks, .answers] console (console.failCall pending) := by
  refine ⟨fun aspect outside => ?_⟩
  cases aspect <;> first | rfl | exact absurd (by decide) outside

theorem resetPending_changes (console : Console) :
    Changes [.pending, .tasks, .answers] console console.resetPending := by
  refine .trans ?_ (.foldl ?_ _ _)
  · refine ⟨fun aspect outside => ?_⟩
    cases aspect <;> first | rfl | exact absurd (by decide) outside
  · exact fun console pending => (console.failCall_changes pending).mono (by decide)

theorem complete_changes (console : Console) (id : Nat)
    (answer : PendingCall → Except Failure Json) :
    Changes [.pending, .tasks, .answers] console (console.complete id answer) := by
  unfold complete
  split
  · exact .refl _ console
  · refine ⟨fun aspect outside => ?_⟩
    cases aspect <;> first | rfl | exact absurd (by decide) outside

/-- Only two of the things the runtime can ask for concern the screen. -/
theorem handle_cases (console : Console) (args : List Json) (handler : Handler) :
    handler = .clearTerminal ∧ (console.handle args handler).1 = console.clear ∨
      handler = .reportCursor ∧ (console.handle args handler).1 = console.writeText cursorReset ∨
      handler ≠ .clearTerminal ∧ handler ≠ .reportCursor ∧
        Changes [.trace, .channels] console (console.handle args handler).1 := by
  cases handler with
  | clearTerminal => exact .inl ⟨rfl, rfl⟩
  | reportCursor =>
      refine .inr (.inl ⟨rfl, ?_⟩)
      rw [handle]
  | refreshWorkspace =>
      exact .inr (.inr ⟨nofun, nofun, (console.emit_changes _ rfl).mono (by decide)⟩)
  | clearLint =>
      exact .inr (.inr ⟨nofun, nofun, (console.emit_changes _ rfl).mono (by decide)⟩)
  | showLint =>
      refine .inr (.inr ⟨nofun, nofun, ?_⟩)
      unfold handle showLint
      dsimp only
      split
      · exact (console.emit_changes _ rfl).mono (by decide)
      · exact .refl _ console
  | guest label sends reply =>
      refine .inr (.inr ⟨nofun, nofun, ?_⟩)
      unfold handle
      refine ((console.emit_changes (.guestHandled label args) rfl).mono (by decide)).trans ?_
      cases sends with
      | none => exact .refl _ _
      | some name => exact (send_changes _ name []).mono (by decide)

theorem handle_changes (console : Console) (args : List Json) (handler : Handler) :
    Changes [.display, .scanned, .selection, .resolvers, .tasks, .trace, .channels] console
      (console.handle args handler).1 := by
  rcases console.handle_cases args handler with ⟨-, same⟩ | ⟨-, same⟩ | ⟨-, -, quiet⟩
  · rw [same]
    exact console.clear_changes.mono (by decide)
  · rw [same]
    exact (console.writeText_changes cursorReset).mono (by decide)
  · exact quiet.mono (by decide)

theorem dispatch_changes (console : Console) (name : String) (args : List Json) :
    Changes [.display, .scanned, .selection, .resolvers, .tasks, .trace, .channels] console
      (console.dispatch name args).1 := by
  unfold dispatch
  split
  · exact console.handle_changes args _
  · exact .refl _ console

/-- A request of the runtime may change the screen; an answer concerns the calls only. -/
theorem handleFrame_changes (console : Console) (frame : Frame) :
    Changes [.display, .scanned, .selection, .resolvers, .tasks, .trace, .channels, .pending,
      .answers] console (console.handleFrame frame) := by
  cases frame with
  | message name args => exact (console.dispatch_changes name args).mono (by decide)
  | call id name args =>
      exact (console.dispatch_changes name args).andThen (sendFrame_changes _ _) (by decide)
  | response id result => exact (console.complete_changes id _).mono (by decide)
  | error id message => exact (console.complete_changes id _).mono (by decide)

theorem activateLink_changes (console : Console) (ticket resolver : Nat) (link : LinkMatch) :
    Changes [.nextId, .pending, .channels, .trace] console
      (console.activateLink ticket resolver link) := by
  unfold activateLink
  split
  · exact console.call_changes ..
  · exact (console.finish_changes ..).mono (by decide)

theorem activateAt_changes (console : Console) (ticket resolver : Nat) (position : Position) :
    Changes [.nextId, .pending, .channels, .trace] console
      (console.activateAt ticket resolver position) := by
  unfold activateAt
  split
  · exact console.activateLink_changes ..
  · exact (console.finish_changes ..).mono (by decide)

theorem openLink_changes (console : Console) (ticket : Nat) (position : Position) :
    Changes [.nextId, .pending, .channels, .trace] console
      (console.openLink ticket position) := by
  unfold openLink
  split
  · exact console.activateAt_changes ..
  · exact (console.finish_changes ..).mono (by decide)

theorem addResolver_changes (console : Console) :
    Changes [.resolvers, .living] console console.addResolver.1 := by
  refine ⟨fun aspect outside => ?_⟩
  cases aspect <;> first | rfl | exact absurd (by decide) outside

end Console

end RuntimeConsole
