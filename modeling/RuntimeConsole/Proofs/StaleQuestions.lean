/-
Module: RuntimeConsole.Proofs.StaleQuestions
Purpose: Which link resolvers ask which runtime: as long as a connection lasts only its own
  resolver comes up with questions, but those that waited when it began are put to the new
  runtime, although whoever came up with them has been shut down.
Main exports:
  Console.posed, Console.staleQuestions, Console.staleCarriedOut, ConnectionQuestions,
  connection_questions
-/
import RuntimeConsole.Proofs.CycleSpeech
import RuntimeConsole.Proofs.QuestionQueue

namespace RuntimeConsole

/-- Whether a frame asks the runtime about a path. -/
def Frame.asksPath : Frame → Bool
  | .call _ name _ => name == "validatepath"
  | .message .. | .response .. | .error .. => false

namespace Console

/-- The questions of resolvers that are put to the runtime over a channel in an event: who
asks, and the call. -/
def posed (channel : Nat) (console : Console) : Event → List (Nat × Frame)
  | .work .task =>
      match console.tasks with
      | .validate resolver _ _ link :: _ =>
          if console.hears channel then
            [(resolver, .call console.client.nextId "validatepath" [.str link.text])]
          else []
      | _ => []
  | _ => []

/-- Whether a resolver asks in a task that is not the one at work. -/
def isStale (console : Console) (task : Task) : Bool :=
  task.asker?.any fun asker => console.session.cycle.resolver != some asker

/-- The questions that wait to be put to the runtime although whoever came up with them is not
at work any more. -/
def staleQuestions (console : Console) : List Task :=
  console.tasks.filter console.isStale

/-- Those of them that are carried out in an event. -/
def staleCarriedOut (console : Console) (event : Event) : List Task :=
  (console.carriedOut event).filter console.isStale

/-! ### What is asked -/

theorem Frame.asksPath_of_isIdle {frame : Frame} (idle : frame.isIdle = true) :
    frame.asksPath = false := by
  cases frame with
  | call id name args => cases idle
  | _ => rfl

section

variable {console : Console} {channel : Nat} {event : Event}

theorem filter_asksPath_eq_nil {frames : List Frame}
    (none : ∀ frame ∈ frames, frame.asksPath = false) : frames.filter Frame.asksPath = [] :=
  List.filter_eq_nil_iff.mpr fun frame member => by simp [none frame member]

theorem posed_eq_nil (quiet : event.calls = false) : console.posed channel event = [] := by
  cases event with
  | work step =>
      cases step with
      | task => cases quiet
      | _ => rfl
  | _ => rfl

theorem openLink_speech (console : Console) (ticket : Nat) (position : Position) :
    ∃ frames, (∀ frame ∈ frames, frame.asksPath = false) ∧
      Says frames console (console.openLink ticket position) := by
  have finished : ∃ frames, (∀ frame ∈ frames, frame.asksPath = false) ∧
      Says frames console (console.finish ticket (.linkOpened false)) :=
    ⟨[], by simp, console.finish_speech _ _⟩
  unfold openLink
  split
  · unfold activateAt
    split
    · unfold activateLink
      split
      · exact ⟨_, by simp [Frame.asksPath], console.call_speech _ _ _⟩
      · exact finished
    · exact finished
  · exact finished

theorem runOldest_speech (console : Console) :
    Says (console.tasks.head?.elim [] console.taskSays) console console.runOldest := by
  unfold runOldest
  split
  next none =>
      rw [none]
      exact .refl console
  next task rest waiting =>
      have taken : Says [] console { console with tasks := rest } := .of_same rfl rfl rfl
      have said := taken.trans (runTask_speech _ task)
      rw [waiting]
      cases task <;> exact said

/-- The runtime is asked about a path where a resolver asks in the task that is carried
out. -/
theorem filter_saidBy_task (console : Console) (channel : Nat) :
    (console.saidBy channel (.work .task)).filter Frame.asksPath =
      (console.posed channel (.work .task)).map Prod.snd := by
  have said : (console.apply (.work .task)).said channel = _ :=
    console.runOldest_speech.said channel
  rw [saidBy_of_append (by simp) said]
  unfold posed
  cases console.tasks with
  | nil => simp
  | cons task rest =>
      cases task with
      | validate resolver row generation link =>
          cases console.hears channel <;> simp [taskSays, Frame.asksPath]
      | resume call answer => simp [taskSays]
      | chosen errand choice => simp [taskSays]

/-- Where the embedding program does not ask, nobody but a resolver does. -/
theorem filter_saidBy {base : Console} (fresh : Fresh base) (settled : Settled base console)
    (served : console.Served) (channel : Nat)
    (own : ∀ ticket expected name args, event ≠ .call ticket expected name args) :
    (console.saidBy channel event).filter Frame.asksPath =
      (console.posed channel event).map Prod.snd := by
  by_cases calls : event.calls = true
  · cases event with
    | call ticket expected name args => exact absurd rfl (own ticket expected name args)
    | openLink ticket position =>
        obtain ⟨frames, none, speech⟩ := console.openLink_speech ticket position
        have said : Says frames console (console.apply (.openLink ticket position)) := speech
        exact filter_saidBy_of_speech _ said (filter_asksPath_eq_nil none)
    | work step =>
        cases step with
        | task => exact console.filter_saidBy_task channel
        | _ => cases calls
    | _ => cases calls
  rw [Bool.not_eq_true] at calls
  rw [posed_eq_nil calls, List.map_nil]
  have told {frames : List Frame} (speech : Says frames console (console.apply event))
      (none : ∀ frame ∈ frames, frame.asksPath = false) :
      (console.saidBy channel event).filter Frame.asksPath = [] :=
    filter_saidBy_of_speech _ speech (filter_asksPath_eq_nil none)
  cases cycleMove_apply fresh settled event with
  | talks frames speech _ idle _ _ =>
      exact told speech fun frame member => Frame.asksPath_of_isIdle (idle calls frame member)
  | ebbs ebb _ => rw [saidBy_of_sublist (ebb.said channel), List.filter_nil]
  | sends name args asked => rw [asked]; rfl
  | configures settings asked =>
      subst asked
      refine told (console.updateSettings_speech settings) fun frame member => ?_
      obtain ⟨prompt, rfl⟩ := console.updateSays_prompt settings frame member
      rfl
  | reports name asked =>
      subst asked
      obtain ⟨frames, notices, speech⟩ := console.reportModule_speech name
      refine told speech fun frame member => ?_
      obtain ⟨name, cols, rfl⟩ := notices frame member
      rfl
  | fires debouncer asked =>
      subst asked
      obtain ⟨frames, notices, speech⟩ := console.fireDebouncer_speech debouncer
      refine told speech fun frame member => ?_
      obtain ⟨name, cols, rfl⟩ := notices frame member
      rfl
  | ticks time asked =>
      subst asked
      exact told (.of_same rfl rfl rfl) (by simp)
  | begins prepared free ready _ _ _ welcome _ reached =>
      obtain ⟨frames, idle, said⟩ := welcome.saidBy served reached
      rw [said]
      split
      · refine filter_asksPath_eq_nil fun frame member => ?_
        rcases List.mem_append.mp member with member | member
        · exact Frame.asksPath_of_isIdle (idle frame member)
        · rw [List.mem_singleton.mp member]
          rfl
      · rfl
  | ends ready parting keys ebb _ farewell =>
      have fewer := ebb.said channel
      rw [← farewell.said channel] at fewer
      rw [saidBy_of_sublist fewer, List.filter_nil]

/-- A question that is carried out is put to whatever runtime there is. -/
theorem saidBy_of_validate {asker : Nat} {row : UInt16} {generation : Nat} {link : LinkMatch}
    {rest : List Task} (waiting : console.tasks = .validate asker row generation link :: rest)
    (hears : console.hears channel = true) :
    console.saidBy channel (.work .task) =
      [.call console.client.nextId "validatepath" [.str link.text]] := by
  have said : (console.apply (.work .task)).said channel = _ :=
    console.runOldest_speech.said channel
  rw [saidBy_of_append (by simp) said, waiting, hears]
  rfl

/-- Where nothing stale waits, the resolver at work asks. -/
theorem posed_own {id : Nat} (current : console.session.cycle.resolver = some id)
    (none : console.staleQuestions = []) :
    ∀ question ∈ console.posed channel event, question.1 = id := by
  intro question member
  unfold posed at member
  split at member
  next =>
      split at member
      next asker row generation link rest waiting =>
          have timely := List.filter_eq_nil_iff.mp none
            (.validate asker row generation link) (by simp [waiting])
          obtain rfl : id = asker := by simpa [isStale, Task.asker?, current] using timely
          split at member
          · rw [List.mem_singleton.mp member]
          · cases member
      next => cases member
  next => cases member

/-! ### While a connection lasts -/

/-- No resolver is at work but the one of the connection. -/
theorem Bound.alive_iff {base : Console} {keys : CycleKeys} (bound : Bound base keys console)
    {other : Nat} {found : Resolver} (known : console.resolvers[other]? = some found) :
    found.alive = true ↔ other = keys.resolver := by
  have living : console.wiring.living[other]? = some found.alive := by
    simp [Console.wiring, known]
  rw [← bound.wiring.living other, living, Option.some.injEq]

end

/-- What is stale among the tasks that wait depends on the resolver at work. -/
theorem isStale_of_resolver {before after : Console}
    (same : after.session.cycle.resolver = before.session.cycle.resolver) :
    after.isStale = before.isStale := by
  funext task
  rw [isStale, same, isStale]

/-- Where no resolver but the one at work comes up with questions, stale ones are only carried
out. -/
theorem staleQuestions_of_queues {before after : Console} {event : Event} {id : Nat}
    (queues : Queues id (before.carriedOut event) before after)
    (current : before.session.cycle.resolver = some id)
    (same : after.session.cycle.resolver = before.session.cycle.resolver) :
    before.staleQuestions = before.staleCarriedOut event ++ after.staleQuestions := by
  obtain ⟨left, more, taken, put, own⟩ := queues
  have none : more.filter before.isStale = [] := by
    refine List.filter_eq_nil_iff.mpr fun task member => ?_
    rw [isStale, current]
    cases asker : task.asker? with
    | none => simp
    | some other => simp [own task member other asker]
  calc before.staleQuestions
      = (before.carriedOut event ++ left).filter before.isStale := by
        rw [Console.staleQuestions, ← taken]
    _ = before.staleCarriedOut event ++ left.filter before.isStale := by
        rw [List.filter_append, staleCarriedOut]
    _ = before.staleCarriedOut event ++ after.staleQuestions := by
        rw [Console.staleQuestions, put, List.filter_append, isStale_of_resolver same, none,
          List.append_nil]

section

variable {base console : Console} {connection : Connection} {event : Event}

/-- A connection that is there later was not lost meanwhile. -/
theorem connected_of_again (served : console.Served)
    (connected : console.client.connection = some connection) (events : List Event)
    (again : ((console.apply event).run events).client.connection = some connection) :
    (console.apply event).client.connection = some connection :=
  Classical.byContradiction fun lost =>
    ((Past.of_lost served connected lost).run events).apart connection again rfl

/-- As long as a connection lasts its resolver stays at work, and stale questions are only
carried out. -/
theorem staleQuestions_run (fresh : Fresh base) (settled : Settled base console)
    (ordered : console.CallsInOrder) (served : console.Served)
    (connected : console.client.connection = some connection) (events : List Event)
    (again : (console.run events).client.connection = some connection) :
    (console.run events).session.cycle.resolver = console.session.cycle.resolver ∧
      console.staleQuestions =
        console.noted staleCarriedOut events ++ (console.run events).staleQuestions := by
  induction events generalizing console with
  | nil => exact ⟨rfl, rfl⟩
  | cons event events inductionHypothesis =>
      have still := connected_of_again served connected events again
      obtain ⟨after, afterOrdered⟩ := settled.step fresh ordered event
      obtain ⟨resolver, stale⟩ := inductionHypothesis after afterOrdered
        ((console.apply_onward event).served served) still again
      cases taskMove_apply fresh settled ordered event with
      | idle unbound => exact absurd (unbound.connection.symm.trans still) nofun
      | begins _ _ renewed _ => exact absurd (still.trans connected.symm) renewed
      | lasts keys held kept _ queues =>
          have same : (console.apply event).session.cycle.resolver =
              console.session.cycle.resolver := by
            rw [kept.cycle, held.cycle]
          refine ⟨resolver.trans same, ?_⟩
          rw [staleQuestions_of_queues queues (congrArg Cycle.resolver held.cycle) same, stale,
            noted, List.append_assoc]
          rfl

theorem Settled.resolver_lt (settled : Settled base console) {id : Nat}
    (current : console.session.cycle.resolver = some id) : id < console.resolvers.length := by
  rcases settled.place with unbound | ⟨keys, bound⟩
  · rw [unbound.cycle] at current
    cases current
  · rw [bound.cycle] at current
    obtain rfl : keys.resolver = id := Option.some.inj current
    obtain ⟨resolver, known, -⟩ := bound.resolver
    exact (List.getElem?_eq_some_iff.mp known).1

/-- A resolver that is there already when a connection begins is never the one of that
connection. -/
theorem resolver_once (fresh : Fresh base) (settled : Settled base console)
    (ordered : console.CallsInOrder) {id : Nat} (there : id < console.resolvers.length)
    (events : List Event) (current : (console.run events).session.cycle.resolver = some id) :
    console.session.cycle.resolver = some id ∧
      (console.run events).client.connection = console.client.connection := by
  induction events generalizing console with
  | nil => exact ⟨current, rfl⟩
  | cons event events inductionHypothesis =>
      obtain ⟨after, afterOrdered⟩ := settled.step fresh ordered event
      have stays := Nat.lt_of_lt_of_le there (console.apply_advances event).resolvers
      obtain ⟨reached, connection⟩ := inductionHypothesis after afterOrdered stays current
      cases taskMove_apply fresh settled ordered event with
      | idle unbound =>
          rw [unbound.cycle] at reached
          cases reached
      | begins keys kept _ new =>
          rw [kept.cycle] at reached
          obtain rfl : keys.resolver = id := Option.some.inj reached
          exact absurd there (Nat.not_lt.mpr new)
      | lasts keys held kept same _ =>
          rw [kept.cycle, ← held.cycle] at reached
          exact ⟨reached, connection.trans same⟩

end

end Console

open Console

/-- The questions that are put to the runtime of a connection, from a moment `first` at which
the connection is there to one at which it still is.  `id` is its resolver. -/
structure ConnectionQuestions (first : Console) (later : List Event) (id : Nat) : Prop where
  /-- The connection has one resolver as long as it lasts, and no other is at work. -/
  resolver : first.session.cycle.resolver = some id ∧
    (first.run later).session.cycle.resolver = some id
  alone : ∀ other found, (first.run later).resolvers[other]? = some found →
    (found.alive = true ↔ other = id)
  /-- Unless the embedding program asks by itself, the runtime is asked about a path exactly
  where a resolver asks in the task that is carried out. -/
  posed : ∀ channel event, (∀ ticket expected name args, event ≠ .call ticket expected name args) →
    ((first.run later).saidBy channel event).filter Frame.asksPath =
      ((first.run later).posed channel event).map Prod.snd
  /-- Only the resolver of the connection asks for what the user opens. -/
  opened : ∀ ticket position,
    (first.run later).openLink ticket position = (first.run later).activateAt ticket id position
  /-- No other resolver comes up with questions: those that waited are carried out one after
  the other, and none comes in their place. -/
  waited : first.staleQuestions =
    first.noted staleCarriedOut later ++ (first.run later).staleQuestions
  /-- So if none waited when the connection began, nobody but its resolver asks. -/
  own : first.staleQuestions = [] → ∀ channel event,
    ∀ question ∈ (first.run later).posed channel event, question.1 = id
  /-- One that waited is put to the runtime of this connection, although whoever came up with
  it has been shut down. -/
  mistaken : ∀ channel asker row generation link rest,
    (first.run later).tasks = .validate asker row generation link :: rest → asker ≠ id →
    (first.run later).hears channel = true →
      ((first.run later).resolvers[asker]?).elim false Resolver.alive = false ∧
        (first.run later).saidBy channel (.work .task) =
          [.call (first.run later).client.nextId "validatepath" [.str link.text]]

/-- The runtime of a connection is asked by the resolver of that connection, which was at work
during no other, and by those whose questions waited when it began, though they have been shut
down. -/
theorem connection_questions (base : Console) (earlier later : List Event) (fresh : Fresh base)
    (connection : Connection)
    (connected : (base.activateSession.run earlier).client.connection = some connection)
    (lasting : (base.activateSession.run (earlier ++ later)).client.connection =
      some connection) :
    ∃ id, ConnectionQuestions (base.activateSession.run earlier) later id ∧
      ∀ past rest, earlier = past ++ rest →
        (base.activateSession.run past).session.cycle.resolver = some id →
        (base.activateSession.run past).client.connection = some connection := by
  obtain ⟨begun, begunOrdered⟩ := activateSession_settled fresh
  have disconnected : base.activateSession.client.connection = none := fresh.callFree.connection
  obtain ⟨settled, ordered⟩ := begun.run fresh begunOrdered earlier
  have served := (Served.of_disconnected disconnected).run earlier
  rw [run_append] at lasting
  obtain ⟨reached, -⟩ := settled.run fresh ordered later
  have servedThen := served.run later
  obtain ⟨keys, bound⟩ := reached.place.resolve_left fun unbound =>
    absurd (unbound.connection.symm.trans lasting) nofun
  have current : _ = some keys.resolver := congrArg Cycle.resolver bound.cycle
  obtain ⟨resolver, waited⟩ :=
    staleQuestions_run fresh settled ordered served connected later lasting
  refine ⟨keys.resolver, ?_, ?_⟩
  · exact {
      resolver := ⟨resolver.symm.trans current, current⟩
      alone := fun other found known => bound.alive_iff known
      posed := fun channel event own => filter_saidBy fresh reached servedThen channel own
      opened := fun ticket position => by rw [openLink, current]
      waited := waited
      own := fun none channel event => by
        rw [none] at waited
        exact posed_own current (List.append_eq_nil_iff.mp waited.symm).2
      mistaken := fun channel asker row generation link rest waiting other hears => by
        refine ⟨?_, saidBy_of_validate waiting hears⟩
        cases known : ((base.activateSession.run earlier).run later).resolvers[asker]? with
        | none => rfl
        | some found =>
            rw [Option.elim_some, ← Bool.not_eq_true, bound.alive_iff known]
            exact other }
  · rintro past rest rfl currentThen
    have first := resolver.symm.trans current
    rw [run_append] at first connected
    obtain ⟨settledThen, orderedThen⟩ := begun.run fresh begunOrdered past
    obtain ⟨-, same⟩ := resolver_once fresh settledThen orderedThen
      (settledThen.resolver_lt currentThen) rest first
    exact same.symm.trans connected

/-- A runtime whose screen shows a candidate gives way to another. -/
def questionLeft : List Event :=
  [.connect .plain, .write (Text.encode "\r\n\r\n/a/b.jl".toList), .work .task, .connect .plain]

/-- The message that a runtime has exited moves a candidate, and its resolver asks about it
while it is shown.  The question is put to the runtime that is connected by then. -/
theorem connection_questions_left :
    let start := (Console.bare ⟨3, 60⟩).activateSession
    Fresh (Console.bare ⟨3, 60⟩) ∧
      (∃ id, ConnectionQuestions (start.run questionLeft) [.work .task] id ∧
        ∀ past rest, questionLeft = past ++ rest →
          (start.run past).session.cycle.resolver = some id →
          (start.run past).client.connection = some ⟨5, 1, 1⟩) ∧
      ((start.run questionLeft).run [.work .task]).resolvers.map Resolver.alive = [false, true] ∧
      ((start.run questionLeft).run [.work .task]).posed 1 (.work .task) =
        [(0, .call 6 "validatepath" [.str "/a/b.jl"])] :=
  ⟨bare_fresh _, connection_questions (Console.bare ⟨3, 60⟩) questionLeft [.work .task]
      (bare_fresh _) ⟨5, 1, 1⟩ (by decide +kernel) (by decide +kernel),
    by decide +kernel, by decide +kernel⟩

end RuntimeConsole
