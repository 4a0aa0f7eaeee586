/-
Module: RuntimeConsole.Proofs.Deactivation
Purpose: What is left of an activated console once it has been taken down, and what it does from
  then on, over every run before and after.
Main exports:
  Console.Owned.retired, Deactivation, console_deactivation
-/
import RuntimeConsole.Proofs.Retirement
import RuntimeConsole.Proofs.ShellsAfterDeactivation

namespace RuntimeConsole

/-- Whether a frame is one by which a console tells the prompt or a module or asks about a
path. -/
def Frame.isReport : Frame → Bool
  | .message name _ => name == "changeprompt" || name == "changemodule"
  | .call _ name _ => name == "validatepath"
  | .response .. | .error .. => false

namespace Console

section

variable {console : Console}

theorem dispose_session (console : Console) (list : Disposables Release) :
    (console.dispose list).session = console.session :=
  (console.dispose_changes list).same .session (by decide)

theorem teardownCycle_session (console : Console) :
    console.teardownCycle.session = { console.session with cycle := .empty } :=
  dispose_session (console.withCycle .empty) _

/-- What is registered once the connection has been let go of is not held for it. -/
theorem registered_teardownCycle {released : Release}
    (left : console.teardownCycle.Registered released) :
    console.Registered released ∧ released ∉ console.session.cycle.disposables.actions := by
  have still := registered_dispose left
  exact still

/-- What is registered once the session has let go of everything is held by it neither for the
connection nor as long as it is active. -/
theorem registered_deactivateSession {released : Release}
    (left : console.deactivateSession.Registered released) :
    console.Registered released ∧ released ∉ console.session.cycle.disposables.actions ∧
      released ∉ console.session.subscriptions.actions := by
  have subscriptions : console.teardownCycle.session.subscriptions =
      console.session.subscriptions := by
    rw [teardownCycle_session]
  obtain ⟨still, notHeld⟩ := registered_dispose left
  obtain ⟨once, notInCycle⟩ := registered_teardownCycle still
  exact ⟨once, notInCycle, subscriptions ▸ notHeld⟩

/-- Nothing is registered once everything has been let go of, if everything was owned. -/
theorem Owned.letGoAll (owned : console.Owned) (released : Release) :
    ¬ console.letGoAll.Registered released := by
  intro left
  obtain ⟨still, notInCycle, notHeld⟩ := registered_deactivateSession left
  rw [dispose_session] at notInCycle notHeld
  obtain ⟨once, notKept⟩ := registered_dispose still
  rcases owned released once with kept | inCycle | held
  · exact notKept kept
  · exact notInCycle inCycle
  · exact notHeld held

theorem letGoAll_session (console : Console) :
    console.letGoAll.session.cycle = .empty ∧ console.letGoAll.session.subscriptions = .empty := by
  unfold Console.letGoAll deactivateSession
  rw [dispose_session, teardownCycle_session]
  exact ⟨rfl, rfl⟩

theorem letGoAll_subscriptions (console : Console) :
    console.letGoAll.subscriptions = .empty := by
  have freed := dispose_changes { console with subscriptions := .empty } console.subscriptions
  exact ((deactivateSession_changes _).same .subscriptions (by decide)).trans
    (freed.same .subscriptions (by decide))

/-- A console that owns all it is registered for and has nothing to do is registered nowhere once
it has been taken down. -/
theorem Owned.retired (owned : console.Owned) (idle : console.tasks = []) :
    console.deactivate.1.Retired := by
  have down := console.deactivate_takenDown
  have shut : Changes [.shells, .streams] console.letGoAll console.deactivate.1 := by
    rw [deactivate_eq, shutdownShells_eq]
    refine ⟨fun aspect outside => ?_⟩
    cases aspect <;> first | rfl | exact absurd (by decide) outside
  have session : console.deactivate.1.session = console.letGoAll.session :=
    shut.same .session (by decide)
  exact {
    unregistered := fun released registered => by
      have outside : released.place ∉ [.shells, .streams] := by
        cases released <;> simp [Release.place]
      exact owned.letGoAll released ((registered_of_changes shut outside).mp registered)
    cycle := session ▸ console.letGoAll_session.1
    held := session ▸ console.letGoAll_session.2
    subscriptions :=
      (shut.same .subscriptions (by decide)).trans console.letGoAll_subscriptions
    registry := down.registry
    tasks := fun task member => by
      rw [down.tasks, idle] at member
      exact absurd member List.not_mem_nil }

/-- Nothing comes of taking a console down that is registered nowhere. -/
theorem Retired.deactivate (retired : console.Retired) : console.deactivate = (console, []) := by
  have same : ({ console with subscriptions := .empty } : Console) = console := by
    rw [← retired.subscriptions]
  have nothing (console : Console) : console.dispose .empty = console := rfl
  have torn : console.teardownCycle = console := by
    have cycle : console.withCycle .empty = console := by
      rw [withCycle, ← retired.cycle]
    rw [teardownCycle, cycle, retired.cycle]
    exact nothing console
  have session : ({ console with session := { console.session with subscriptions := .empty } } :
      Console) = console := by
    rw [← retired.held]
  have unchanged : console.letGoAll = console := by
    unfold Console.letGoAll deactivateSession
    rw [same, retired.subscriptions, nothing, torn]
    dsimp only
    rw [session, retired.held, nothing]
  rw [deactivate_eq, unchanged, shutdownShells_eq, retired.registry]
  have none : Registry.empty.persist = [] := List.mergeSort_nil
  have empty : ({ console with registry := .empty } : Console) = console := by
    rw [← retired.registry]
  rw [none]
  exact congrArg (·, []) empty

/-! ### Rest -/

/-- A console with nothing to do has put nothing off, and every frame that was accepted has been
written where it still can be. -/
theorem idle_of_quiet (quiet : console.quiet = true) :
    console.tasks = [] ∧
      ∀ channel wire, console.servedWire? channel = some wire → wire.outbound = [] := by
  unfold Console.quiet nextStep? at quiet
  simp only [Option.isNone_iff_eq_none, Option.orElse_eq_orElse, Option.orElse_eq_or,
    Option.or_eq_none_iff, List.findSome?_eq_none_iff, List.mem_range] at quiet
  obtain ⟨channels, tasks, -⟩ := quiet
  refine ⟨by simpa using tasks, fun channel wire served => ?_⟩
  obtain ⟨known, -⟩ := servedWire?_eq served
  have written := channels channel (List.getElem?_eq_some_iff.mp known).1
  rw [channelStep?, served] at written
  cases waits : wire.nextLine.1 <;> simp only [waits] at written
  · cases written
  · cases written
  · split at written
    · cases written
    next empty => simpa using empty

end

end Console

open Console

/-- What has become of a console that was taken down while it had nothing to do, and in whose
course the shells of some streams had been started. -/
structure Deactivation (shells : List Nat) (before : Console) : Prop where
  /-- The client tells nobody about connections any more. -/
  observers : before.deactivate.1.client.bootObservers = [] ∧
    before.deactivate.1.client.detachObservers = []
  /-- Requests are handled by code of the embedding program only. -/
  handlers : ∀ entry ∈ before.deactivate.1.client.handlers, entry.2.2.isGuest = true
  settings : before.deactivate.1.settings.observers = []
  modules : before.deactivate.1.modules.listeners = []
  /-- No resolver hears of changed rows. -/
  rows : before.deactivate.1.terminal.listeners = []
  startHandler : before.deactivate.1.terminal.startHandler = none
  resolvers : ∀ resolver ∈ before.deactivate.1.resolvers, resolver.alive = false
  /-- No report of a module is put off. -/
  reports : ∀ id, before.deactivate.1.reportAt? id = none
  /-- The lists of releases have been used up. -/
  lists : before.deactivate.1.subscriptions = .empty ∧
    before.deactivate.1.session.subscriptions = .empty ∧
    before.deactivate.1.session.cycle = .empty
  registry : before.deactivate.1.registry = .empty
  /-- The shell of every terminal there was is killed, and no other stream is touched. -/
  killed : before.deactivate.1.streams =
    killAll (before.registry.terminals.map AuxiliaryTerminal.shell) before.streams
  /-- So every shell that was ever started is over, unless it refuses to end. -/
  finished : ∀ shell ∈ shells, ∀ stream, before.deactivate.1.stream? shell = some stream → stream.Over
  /-- The result are the terminals there were, by identity. -/
  listed : before.deactivate.2.Perm (before.registry.terminals.map AuxiliaryTerminal.persisted) ∧
    before.deactivate.2.Pairwise fun first second => first.id.text < second.id.text
  /-- Nothing that was said before is still to leave. -/
  written : ∀ channel wire, before.deactivate.1.servedWire? channel = some wire →
    wire.outbound = []
  /-- Whatever happens later, all that is said are replies to the runtime, what handlers of the
  embedding program send and what the embedding program asks for. -/
  answers : ∀ later channel frame, frame ∈ before.deactivate.1.noted (saidBy channel) later →
    before.deactivate.1.answersWith frame ∨ ∃ event ∈ later, event.asksFor frame
  /-- So the runtime is told no prompt and no module, and is asked about no path, unless code of
  the embedding program does it. -/
  silent : ∀ later channel frame, frame ∈ before.deactivate.1.noted (saidBy channel) later →
    frame.isReport = true →
      (∃ entry ∈ before.deactivate.1.client.handlers, frame ∈ handlerSays entry.2.2) ∨
        ∃ event ∈ later, event.asksFor frame
  /-- And nothing comes of taking the console down once more. -/
  again : ∀ later, (before.deactivate.1.run later).deactivate = (before.deactivate.1.run later, [])

/-- A reply tells nothing. -/
theorem replyFrame_isReport (id : Nat) (result : Except Failure Json) :
    (replyFrame id result).isReport = false := by
  cases result <;> rfl

/-- At every moment at which an activated console has nothing to do, taking it down releases
everything it has been registered for in its course, and silences it for good. -/
theorem console_deactivation (parts : ConsoleParts) (start : Console)
    (events : List ConsoleEvent) (activated : activate? parts = some start)
    (quiet : (start.undergoAll events).quiet = true) :
    Deactivation (List.range start.streams.length ++ start.recorded shellsStarted events)
      (start.undergoAll events) := by
  have housed := (upkept_reachable activated events).housed
  have owned := owned_reachable activated events
  generalize start.undergoAll events = before at quiet housed owned ⊢
  obtain ⟨idle, written⟩ := idle_of_quiet quiet
  have retired := owned.retired idle
  have down := before.deactivate_takenDown
  have channels : before.deactivate.1.channels = before.channels := by
    rw [deactivate_eq, shutdownShells_eq]
    exact before.letGoAll_changes.same .channels (by decide)
  exact {
    observers := retired.unobserved
    handlers := fun entry member => retired.guests member
    settings := retired.unwatched
    modules := retired.unlistened
    rows := retired.unheard
    startHandler := retired.unasked
    resolvers := fun resolver member => retired.dead member
    reports := retired.unreported
    lists := ⟨retired.subscriptions, retired.held, retired.cycle⟩
    registry := retired.registry
    killed := down.streams
    finished := fun shell member stream found =>
      down.over_of_ended (fun unregistered earlier known =>
        housed.ended shell member unregistered earlier known) found
    listed := ⟨Registry.persist_perm _, Registry.persist_sorted housed.ids⟩
    written := fun channel wire served => by
      refine written channel wire ?_
      rwa [servedWire?, channels] at served
    answers := fun later channel frame said => retired.noted later said
    silent := fun later channel frame said reports => by
      rcases retired.noted later said with (⟨id, result, rfl⟩ | sent) | asked
      · rw [replyFrame_isReport] at reports
        cases reports
      · exact .inl sent
      · exact .inr asked
    again := fun later => (retired.run later).deactivate }

/-- A console that shows lint messages, for a user who chooses a directory at once. -/
def decidedParts : ConsoleParts :=
  ⟨.standard "sh", { Host.permissive with reply := fun _ => .chooses "/tmp" }, none, true, []⟩

/-- A runtime is connected and a report of a module is put off, the embedding program handles
requests, and two auxiliary terminals are open when the console is taken down. -/
theorem console_deactivation_connected :
    let start := wired decidedParts
    let events := [ConsoleEvent.event (.connect ⟨.fresh .none, none, true⟩),
      .event (.work (.write 0)), .event (.enterModule "Main"),
      .serves "note" (.int 1) (some "seen") fun _ => .ok .null, .execute 1 .newTerminal,
      .execute 2 .newTerminal]
    activate? decidedParts = some start ∧ (start.undergoAll events).quiet = true ∧
      Deactivation (List.range start.streams.length ++ start.recorded shellsStarted events)
        (start.undergoAll events) ∧
      start.recorded shellsStarted events = [1, 2] ∧
      (start.undergoAll events).deactivate.1.streams.map ProcessStream.alive =
        [true, false, false] ∧
      (start.undergoAll events).deactivate.1.client.handlers.map Prod.fst = ["note"] := by
  intro start events
  have activated : activate? decidedParts = some start := rfl
  have quiet : (start.undergoAll events).quiet = true := by decide +kernel
  exact ⟨activated, quiet, console_deactivation decidedParts start events activated quiet,
    by decide +kernel, by decide +kernel, by decide +kernel⟩

end RuntimeConsole
