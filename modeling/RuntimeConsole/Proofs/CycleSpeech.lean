/-
Module: RuntimeConsole.Proofs.CycleSpeech
Purpose: What is said, and what is let go of and set up, when a connection ends or begins on a
  console whose session has been activated.
Main exports:
  Console.Farewell, Console.Welcome, Console.CycleMove, Console.cycleMove_apply
-/
import RuntimeConsole.Proofs.ChannelSuccession
import RuntimeConsole.Proofs.LinkCycle

namespace RuntimeConsole

namespace Console

/-! ### Observers that leave connections alone -/

theorem performWithin_passive_speech (nesting : Nat) (actions : List ClientAction)
    (passive : actions.all ClientAction.passive = true) (console : Console) :
    ∃ frames, (∀ frame ∈ frames, frame.isIdle = true) ∧
      Says frames console (actions.foldl (performWithin nesting) console) := by
  induction actions generalizing console with
  | nil => exact ⟨[], by simp, .refl console⟩
  | cons action actions inductionHypothesis =>
      rw [List.all_cons, Bool.and_eq_true] at passive
      obtain ⟨frames, idle, speech⟩ :=
        inductionHypothesis passive.2 (performWithin nesting console action)
      cases action with
      | send name =>
          rw [performWithin] at speech
          refine ⟨.message name [] :: frames, ?_, ?_⟩
          · exact List.forall_mem_cons.mpr ⟨rfl, idle⟩
          · rw [List.foldl_cons, performWithin]
            exact (console.send_speech name []).trans speech
      | _ => cases passive.1

theorem tellBoot_passive_speech (nesting : Nat) (console : Console) (process : Nat)
    (observer : BootObserver) (passive : observer.passive = true) :
    ∃ frames, (∀ frame ∈ frames, frame.isIdle = true) ∧
      Says frames console (tellBoot (nesting + 1) console process observer) := by
  cases observer with
  | session => cases passive
  | guest label takesEarly actions =>
      have taken : Says [] console (if takesEarly then
          ((console.takeEarly process).1, some (console.takeEarly process).2.isSome)
          else (console, none)).1 := by
        split
        · exact .of_changes (console.takeEarly_changes process) (by decide)
        · exact .refl console
      rw [tellBoot]
      dsimp only
      obtain ⟨frames, idle, speech⟩ := performWithin_passive_speech nesting actions passive
        ((if takesEarly then
          ((console.takeEarly process).1, some (console.takeEarly process).2.isSome)
          else (console, none)).1.emit (.guestSawBoot label (if takesEarly then
          ((console.takeEarly process).1, some (console.takeEarly process).2.isSome)
          else (console, none)).2))
      exact ⟨frames, idle, (taken.mute_trans (emit_speech _ fun _ => rfl)).trans speech⟩

theorem tellDetach_passive_speech (nesting : Nat) (console : Console) (observer : DetachObserver)
    (passive : observer.passive = true) :
    ∃ frames, (∀ frame ∈ frames, frame.isIdle = true) ∧
      Says frames console (tellDetach (nesting + 1) console observer) := by
  cases observer with
  | session => cases passive
  | guest label actions =>
      rw [tellDetach]
      obtain ⟨frames, idle, speech⟩ := performWithin_passive_speech nesting actions passive
        (console.emit (.guestSawDetach label console.client.isConnected
          console.client.pending.length))
      exact ⟨frames, idle, (console.emit_speech fun _ => rfl).trans speech⟩

/-- Several observers tell nothing if none of them does. -/
theorem foldl_idle_speech {Item : Type} {step : Console → Item → Console} (items : List Item)
    (each : ∀ item ∈ items, ∀ console, ∃ frames, (∀ frame ∈ frames, frame.isIdle = true) ∧
      Says frames console (step console item)) (console : Console) :
    ∃ frames, (∀ frame ∈ frames, frame.isIdle = true) ∧
      Says frames console (items.foldl step console) := by
  induction items generalizing console with
  | nil => exact ⟨[], by simp, .refl console⟩
  | cons item items inductionHypothesis =>
      obtain ⟨first, idle, speech⟩ := each item (by simp) console
      obtain ⟨rest, idleToo, more⟩ :=
        inductionHypothesis (fun other member => each other (by simp [member])) (step console item)
      refine ⟨first ++ rest, fun frame member => ?_, speech.trans more⟩
      exact (List.mem_append.mp member).elim (idle frame) (idleToo frame)

/-! ### A connection that ends -/

/-- What is changed before the session lets go of a connection that ends. -/
def partingAspects : List Aspect :=
  [.connection, .pending, .tasks, .answers, .channels, .trace, .attached, .display, .scanned,
    .resolvers]

/-- A connection ends: the console in which the session still holds something, the same
without it, and what there is at last.  Nothing is said to anybody. -/
structure Farewell (keys : CycleKeys) (before parting after : Console) : Prop where
  ahead : Changes partingAspects before parting
  cycle : parting.session.cycle = keys.cycle
  behind : Changes [.pending, .tasks, .answers, .session] parting.teardownCycle after
  released : after.session.cycle = .empty
  disconnected : after.client.connection = none
  service : ∀ channel, after.serviceAt channel = before.serviceAt channel
  said : ∀ channel, after.said channel = before.said channel

/-- A session that is attached lets go of what it holds for the connection. -/
theorem sessionDetached_eq {console : Console} (attached : console.session.state = .attached) :
    ∃ parting, Changes [.attached, .display, .scanned, .resolvers, .tasks, .trace] console parting ∧
      Changes [.pending, .tasks, .answers, .session] parting.teardownCycle
        console.sessionDetached := by
  have unfolded : console.sessionDetached = (console.detach.writeText
      exitMessage).teardownCycle.resetPending.withSessionState .detached := by
    rw [sessionDetached, if_pos attached]
  refine ⟨console.detach.writeText exitMessage,
    console.detach_changes.andThen (writeText_changes _ _) (by decide), ?_⟩
  rw [unfolded]
  exact ((resetPending_changes _).mono (by decide)).trans
    ((withSessionState_changes _ _).mono (by decide))

theorem disconnectWithin_farewell {base console : Console} {keys : CycleKeys} (fresh : Fresh base)
    (steady : Steady base console) (bound : Bound base keys console) (nesting : Nat) :
    ∃ parting, Farewell keys console parting (disconnectWithin (nesting + 2) console) := by
  have ended := disconnectWithin_ended fresh steady bound nesting
  obtain ⟨connection, stream, connected, -⟩ := bound.connection
  rw [disconnectWithin_eq steady nesting (by simp [connected])] at ended ⊢
  have closed : Changes [.connection] console
      (console.withClient { console.client with connection := none }) := by
    refine ⟨fun aspect outside => ?_⟩
    cases aspect <;> first | rfl | exact absurd (by decide) outside
  have alone : (console.withClient { console.client with connection := none }).client.connection =
      none := rfl
  have channels (channel : Nat) :
      (console.withClient { console.client with connection := none }).serviceAt channel =
        console.serviceAt channel := rfl
  have words (channel : Nat) :
      (console.withClient { console.client with connection := none }).said channel =
        console.said channel := rfl
  generalize console.withClient { console.client with connection := none } = without
    at ended closed alone channels words ⊢
  have reset := without.resetPending_changes
  have silent : Says [] without without.resetPending := .of_changes reset (by decide)
  generalize without.resetPending = waiting at ended reset silent ⊢
  have told : Changes [.channels, .trace] waiting (base.client.detachObservers.foldl
      (fun console entry => tellDetach (nesting + 1) console entry.2) waiting) :=
    .foldl_of_mem _ (fun entry member console => tellDetach_passive_changes nesting console entry.2
      (fresh.detachObservers entry member)) _
  obtain ⟨frames, -, speech⟩ := foldl_idle_speech base.client.detachObservers
    (fun entry member console => tellDetach_passive_speech nesting console entry.2
      (fresh.detachObservers entry member)) waiting
  generalize base.client.detachObservers.foldl
    (fun console entry => tellDetach (nesting + 1) console entry.2) waiting = reached
    at ended told speech ⊢
  have all : Changes [.connection, .pending, .tasks, .answers, .channels, .trace] console reached :=
    (closed.mono (by decide)).trans ((reset.mono (by decide)).trans (told.mono (by decide)))
  have session : reached.session = console.session := all.same .session (by decide)
  -- The observers speak to nobody, as the connection is not there any more.
  have unheard := silent.mute_trans (speech.unheard (silent.connection.trans alone))
  have silence := unheard.mute_trans reached.sessionDetached_speech
  obtain ⟨parting, shown, behind⟩ := sessionDetached_eq (session ▸ bound.state)
  have partingSession : parting.session = reached.session := shown.same .session (by decide)
  refine ⟨parting, ?_⟩
  exact {
    ahead := (all.mono (by decide)).trans (shown.mono (by decide))
    cycle := by
      rw [partingSession, session]
      exact bound.cycle
    behind := behind
    released := ended.unbound.cycle
    disconnected := ended.unbound.connection
    service := fun channel => (silence.service channel).trans (channels channel)
    said := fun channel => by rw [silence.said, words]; simp }

/-- What is changed when a connection ends. -/
theorem Farewell.changes {keys : CycleKeys} {before parting after : Console}
    (farewell : Farewell keys before parting after) :
    Changes (partingAspects ++ [.session, .settings, .watchers, .listeners, .living,
      .moduleListeners, .debouncers]) before after := by
  refine (farewell.ahead.mono (by decide)).trans (.trans ?_ (farewell.behind.mono (by decide)))
  exact (parting.teardownCycle_changes_of_cycle farewell.cycle).mono (by decide)

/-! ### A connection that begins -/

/-- What is changed between the end of the last connection and what the session sets up for
the new one. -/
def greetingAspects : List Aspect :=
  [.connection, .nextId, .channels, .processes, .trace, .attached, .streams, .display, .scanned,
    .resolvers, .tasks]

/-- A connection begins: the last one has ended in `free`, in `ready` the observers have been
told of the new one and its process is shown, and the session sets up what it holds for it.
Before it tells the prompt nobody tells or asks anything. -/
structure Welcome (before free ready : Console) : Prop where
  greeting : Changes greetingAspects free ready
  cycle : ready.session.cycle = .empty
  connection : ∃ id process,
    ready.client.connection = some ⟨id, before.channels.length, process⟩
  hears : ready.hears before.channels.length = true
  service : ∀ channel < before.channels.length, ready.serviceAt channel = before.serviceAt channel
  said : ∃ frames, (∀ frame ∈ frames, frame.isIdle = true) ∧ ∀ channel,
    ready.said channel =
      before.said channel ++ if channel = before.channels.length then frames else []

/-- A process that is prepared for a connection. -/
theorem prepareProcess_service (console : Console) (spec : ProcessSpec) (channel : Nat) :
    (channel < console.channels.length →
        (console.prepareProcess spec).1.serviceAt channel = console.serviceAt channel) ∧
      (console.prepareProcess spec).1.said channel = console.said channel ∧
      (console.prepareProcess spec).1.channelAccepts console.channels.length = true := by
  obtain ⟨added, channels, queue, accepts⟩ : ∃ added : Channel,
      (console.prepareProcess spec).1.channels = console.channels ++ [added] ∧
        added.queue = [] ∧ added.accepts = true := by
    unfold prepareProcess
    cases spec.origin <;> cases spec.wired <;> exact ⟨_, rfl, rfl, rfl⟩
  have trace : (console.prepareProcess spec).1.trace = console.trace :=
    (console.prepareProcess_changes spec).same .trace (by decide)
  refine ⟨fun below => ?_, ?_, ?_⟩
  · rw [serviceAt, channels, List.getElem?_append_left below, serviceAt]
  · rw [said, trace, channels, said]
    congr 1
    rcases Nat.lt_trichotomy channel console.channels.length with below | rfl | beyond
    · rw [List.getElem?_append_left below]
    · simp [queue]
    · rw [List.getElem?_eq_none (by simp; omega), List.getElem?_eq_none (by omega)]
  · rw [channelAccepts, channels]
    simp [accepts]

/-- Before a connection begins the last one ends, if there is one. -/
theorem freed_of_settled {base ready : Console} (fresh : Fresh base) (settled : Settled base ready)
    (nesting : Nat) {free : Console}
    (freed : free =
      if ready.client.isConnected then disconnectWithin (nesting + 2) ready else ready) :
    free.session.state ≠ .attached ∧ (∀ channel, free.serviceAt channel = ready.serviceAt channel) ∧
      (∀ channel, free.said channel = ready.said channel) ∧
      (Unbound base ready ∧ free = ready ∨
        ∃ keys parting, Bound base keys ready ∧ Farewell keys ready parting free) := by
  obtain ⟨steady, place⟩ := settled
  obtain ⟨unbound, -, -⟩ := unbound_of_settled fresh steady place nesting freed
  refine ⟨unbound.state, ?_⟩
  rcases place with unbound | ⟨keys, bound⟩
  · rw [if_neg (by simp [Client.isConnected, unbound.connection])] at freed
    subst freed
    exact ⟨fun _ => rfl, fun _ => rfl, .inl ⟨unbound, rfl⟩⟩
  · obtain ⟨connection, _, connected, -⟩ := bound.connection
    obtain ⟨parting, farewell⟩ := disconnectWithin_farewell fresh steady bound nesting
    rw [if_pos (by simp [Client.isConnected, connected])] at freed
    subst freed
    exact ⟨farewell.service, farewell.said, .inr ⟨keys, parting, bound, farewell⟩⟩

/-- A process is shown by a session that holds nothing. -/
theorem showProcess_changes {console : Console} (state : console.session.state ≠ .attached)
    (process : Nat) :
    Changes [.attached, .streams, .processes, .display, .scanned, .resolvers, .tasks, .trace]
      console (console.showProcess process) := by
  have kept : console.letGo = console := if_neg state
  rw [showProcess, kept]
  exact (console.attachProcess_changes process).andThen (replayEarly_changes _ process) (by decide)

/-- A connection is put in, the observers are told of it and its process is shown. -/
structure Greeted (channel process : Nat) (free opened : Console) : Prop where
  changes : Changes greetingAspects free opened
  connection : opened.client.connection = some ⟨free.client.nextId, channel, process⟩
  hears : opened.hears channel = true
  service : ∀ other, other ≠ channel → opened.serviceAt other = free.serviceAt other
  said : ∃ frames, (∀ frame ∈ frames, frame.isIdle = true) ∧ ∀ other,
    opened.said other = free.said other ++ if other = channel then frames else []

theorem greeted_of_free {base free : Console} (fresh : Fresh base)
    (state : free.session.state ≠ .attached) {channel : Nat}
    (accepts : free.channelAccepts channel = true) (process nesting : Nat) :
    Greeted channel process free ((base.client.bootObservers.foldl
      (fun console entry => tellBoot (nesting + 1) console process entry.2)
      (free.installConnection process channel).1).showProcess process) := by
  have there : channel < free.channels.length := by
    rcases Nat.lt_or_ge channel free.channels.length with inside | outside
    · exact inside
    · simp [channelAccepts, List.getElem?_eq_none outside] at accepts
  have installing := free.installConnection_changes process channel
  have service (other : Nat) (different : other ≠ channel) :=
    free.installConnection_service process channel other different
  have said := free.installConnection_said process channel
  have connected := free.installConnection_connection process channel
  obtain ⟨_, own, -⟩ := free.installConnection_own process channel there
  generalize (free.installConnection process channel).1 = installed
    at installing service said connected own ⊢
  have hears : installed.hears channel = true := by
    refine hears_iff.mpr ⟨_, connected, rfl, ?_⟩
    rw [channelAccepts_eq, own]
    exact accepts
  have told : Changes [.processes, .channels, .trace] installed (base.client.bootObservers.foldl
      (fun console entry => tellBoot (nesting + 1) console process entry.2) installed) :=
    .foldl_of_mem _ (fun entry member console => tellBoot_passive_changes nesting console process
      entry.2 (fresh.bootObservers entry member)) _
  obtain ⟨frames, idle, speech⟩ := foldl_idle_speech base.client.bootObservers
    (fun entry member console => tellBoot_passive_speech nesting console process entry.2
      (fresh.bootObservers entry member)) installed
  generalize base.client.bootObservers.foldl
    (fun console entry => tellBoot (nesting + 1) console process entry.2) installed = greeted
    at told speech ⊢
  have aside : Changes [.connection, .nextId, .channels, .processes, .trace] free greeted :=
    installing.andThen told (by decide)
  have session : greeted.session = free.session := aside.same .session (by decide)
  have all := speech.then_mute (greeted.showProcess_speech process)
  exact {
    changes := aside.andThen (showProcess_changes (session ▸ state) process) (by decide)
    connection := all.connection.trans connected
    hears := (all.hears _).trans hears
    service := fun other different => (all.service other).trans (service other different)
    said := by
      refine ⟨frames, idle, fun other => ?_⟩
      rw [all.said, said]
      by_cases same : other = channel
      · rw [same, hears]
        simp
      · have deaf : ¬installed.hears other = true := fun hearing => same (eq_of_hears hearing hears)
        simp [same, deaf] }

/-- A connection that begins on a settled console: the process is prepared, the last
connection ends, if there is one, and the new one is welcomed. -/
theorem connectWithin_welcome {base console : Console} (fresh : Fresh base)
    (settled : Settled base console) (spec : ProcessSpec) (nesting : Nat) :
    ∃ prepared free ready,
      Changes [.streams, .processes, .origins, .channels] console prepared ∧
      (Unbound base prepared ∧ free = prepared ∨
        ∃ keys parting, Bound base keys prepared ∧ Farewell keys prepared parting free) ∧
      Welcome console free ready ∧ Opening base console spec ready ∧
      (connectWithin (nesting + 3) console spec).1 = ready.beginCycle := by
  obtain ⟨reached, opening⟩ :=
    connectWithin_opening fresh settled.steady settled.place spec nesting
  generalize openedEq : console.openingFor base.client.bootObservers (nesting + 2) spec = opened
    at reached opening
  unfold openingFor at openedEq
  have readied := console.prepareProcess_changes spec
  obtain ⟨stream, origins, -⟩ := console.prepareProcess_origins spec
  have prepared := console.prepareProcess_service spec
  obtain ⟨-, number, -⟩ := console.prepareProcess_onward spec (Nat.le_refl _)
  generalize console.prepareProcess spec = preparing at openedEq readied origins prepared number
  obtain ⟨ready, process, channel⟩ := preparing
  dsimp only at openedEq readied origins prepared number
  subst number
  have readySettled : Settled base ready :=
    ⟨settled.steady.of_changes readied (by decide), settled.place.imp
      (·.of_changes readied (by decide)) fun ⟨keys, bound⟩ =>
        ⟨keys, bound.of_changes readied (by decide) ⟨[stream], origins.symm⟩⟩⟩
  generalize freed : (if ready.client.isConnected then disconnectWithin (nesting + 2) ready
    else ready) = free at openedEq
  obtain ⟨state, service, said, how⟩ := freed_of_settled fresh readySettled nesting freed.symm
  have accepts : free.channelAccepts console.channels.length = true := by
    rw [channelAccepts_eq, service, ← channelAccepts_eq]
    exact (prepared 0).2.2
  have greeted := greeted_of_free fresh state accepts process (nesting + 1)
  rw [openedEq] at greeted
  refine ⟨ready, free, opened, readied, how, ?_, opening, reached⟩
  exact {
    greeting := greeted.changes
    cycle := opening.cycle
    connection := ⟨_, _, greeted.connection⟩
    hears := greeted.hears
    service := fun channel below => by
      rw [greeted.service channel (Nat.ne_of_lt below), service]
      exact (prepared channel).1 below
    said := by
      obtain ⟨frames, idle, words⟩ := greeted.said
      refine ⟨frames, idle, fun channel => ?_⟩
      rw [words, said, (prepared channel).2.1] }

section

variable {before free ready : Console} {event : Event}

/-- The runtime that connects is told the prompt last. -/
theorem Welcome.said_beginCycle (welcome : Welcome before free ready) :
    ∃ frames, (∀ frame ∈ frames, frame.isIdle = true) ∧ ∀ channel,
      ready.beginCycle.said channel = before.said channel ++
        if channel = before.channels.length then
          frames ++ [promptNotice ready.settings.current.prompt]
        else [] := by
  obtain ⟨frames, idle, said⟩ := welcome.said
  refine ⟨frames, idle, fun channel => ?_⟩
  rw [ready.beginCycle_speech.said, said, List.append_assoc]
  by_cases here : channel = before.channels.length
  · simp [here, welcome.hears]
  · have deaf : ¬ready.hears channel = true := fun heard => here (eq_of_hears heard welcome.hears)
    simp [here, deaf]

/-- The new connection is on the last channel, and the last connection, if there is one, is
another. -/
theorem Welcome.begun (welcome : Welcome before free ready) (served : before.Served) :
    ∃ connection, ready.beginCycle.client.connection = some connection ∧
      connection.channel = before.channels.length ∧ some connection ≠ before.client.connection := by
  obtain ⟨id, process, connected⟩ := welcome.connection
  refine ⟨_, ready.beginCycle_speech.connection.trans connected, rfl, fun same => ?_⟩
  exact absurd (served.lt same.symm) (Nat.lt_irrefl _)

theorem Welcome.hears_beginCycle (welcome : Welcome before free ready) (channel : Nat) :
    ready.beginCycle.hears channel = true ↔ channel = before.channels.length := by
  rw [ready.beginCycle_speech.hears]
  exact ⟨fun heard => eq_of_hears heard welcome.hears, fun same => same ▸ welcome.hears⟩

theorem Served.deaf (served : before.Served) : before.hears before.channels.length = false := by
  rw [← Bool.not_eq_true]
  intro heard
  obtain ⟨connection, connected, place, -⟩ := hears_iff.mp heard
  exact absurd (served.lt connected) (Nat.not_lt.mpr (Nat.le_of_eq place.symm))

/-- Where the connection becomes another, the embedding program did not send anything. -/
theorem ne_send_of_renewed
    (renewed : (before.apply event).client.connection ≠ before.client.connection)
    (name : String) (args : List Json) : event ≠ .send name args := by
  rintro rfl
  exact renewed ((before.send_changes name args).same .connection (by decide))

/-- The connection becomes another in the event in which one begins. -/
theorem Welcome.renewed (welcome : Welcome before free ready) (served : before.Served)
    (reached : before.apply event = ready.beginCycle) :
    (before.apply event).client.connection ≠ before.client.connection := by
  obtain ⟨connection, connected, -, other⟩ := welcome.begun served
  rw [reached, connected]
  exact other

/-- In that event only the runtime that connects is told anything, the prompt last. -/
theorem Welcome.saidBy (welcome : Welcome before free ready) (served : before.Served)
    (reached : before.apply event = ready.beginCycle) :
    ∃ frames, (∀ frame ∈ frames, frame.isIdle = true) ∧ ∀ channel,
      before.saidBy channel event = if channel = before.channels.length then
        frames ++ [promptNotice ready.settings.current.prompt] else [] := by
  obtain ⟨frames, idle, said⟩ := welcome.said_beginCycle
  exact ⟨frames, idle, fun channel =>
    saidBy_of_append (ne_send_of_renewed (welcome.renewed served reached))
      (reached ▸ said channel)⟩

end

/-- Something else was done first that nobody heard. -/
theorem Welcome.preceded {before between free ready : Console} (silence : Says [] before between)
    (channels : between.channels.length = before.channels.length)
    (welcome : Welcome between free ready) : Welcome before free ready where
  greeting := welcome.greeting
  cycle := welcome.cycle
  connection := channels ▸ welcome.connection
  hears := channels ▸ welcome.hears
  service channel below :=
    (welcome.service channel (channels ▸ below)).trans (silence.service channel)
  said := by
    obtain ⟨frames, idle, said⟩ := welcome.said
    refine ⟨frames, idle, fun channel => ?_⟩
    rw [said, silence.said, channels]
    simp

/-! ### Events on a settled console -/

/-- What an event can change while the session lets go of nothing and sets up nothing. -/
def calmAspects : List Aspect := .session :: .boots :: talkAspects

/-- What can be changed before a process that is going to be connected is prepared, and while
it is. -/
def aheadAspects : List Aspect :=
  [.streams, .processes, .origins, .channels, .launches, .session, .display, .scanned, .resolvers,
    .tasks, .trace, .boots]

/-- What an event comes to on a console whose session has been activated. -/
inductive CycleMove (base before : Console) (event : Event) (after : Console) : Prop where
  /-- Something may be said, but nothing of the prompt nor of modules. -/
  | talks (frames : List Frame) (speech : Says frames before after)
      (small : ∀ frame ∈ frames, frame.isSmall = true)
      (idle : event.calls = false → ∀ frame ∈ frames, frame.isIdle = true)
      (cycle : after.session.cycle = before.session.cycle)
      (step : Changes calmAspects before after)
  /-- A channel closes, or frames leave over it. -/
  | ebbs (ebb : Ebbs before after)
      (lasts : before.Served → ∀ channel, before.hears channel = true →
        after.hears channel = true ∨ event = .stopTaking channel)
  | sends (name : String) (args : List Json) (asked : event = .send name args)
  | configures (settings : Settings) (asked : event = .configure settings)
  | reports (name : String) (asked : event = .enterModule name)
  | fires (debouncer : Nat) (asked : event = .work (.fire debouncer))
  | ticks (time : Nat) (asked : event = .clock time)
  /-- A connection begins, after the last one ended if there was one. -/
  | begins (prepared free ready : Console) (ahead : Changes aheadAspects before prepared)
      (cycle : prepared.session.cycle = before.session.cycle)
      (freed : Unbound base prepared ∧ free = prepared ∨
        ∃ keys parting, Bound base keys prepared ∧ Farewell keys prepared parting free)
      (welcome : Welcome before free ready) (wiring : Wiring.Idle base.wiring ready.wiring)
      (reached : after = ready.beginCycle)
  /-- A connection ends. -/
  | ends (ready parting : Console) (keys : CycleKeys) (ebb : Ebbs before ready)
      (bound : Bound base keys before) (farewell : Farewell keys ready parting after)

theorem bootFailed_cycle (console : Console) (failure : Failure) :
    (console.bootFailed failure).session.cycle = console.session.cycle := by
  unfold bootFailed
  split
  · have shown : ((console.withSessionState .detached).writeText
        (failureMessage failure)).session = (console.withSessionState .detached).session :=
      (writeText_changes _ _).same .session (by decide)
    rw [shown]
    rfl
  · rfl

/-- A start that reaches the booter says nothing, unless a connection begins at once. -/
theorem bootReported_course (console : Console) :
    Says [] console console.bootReported ∧ Changes calmAspects console console.bootReported ∧
        console.bootReported.session.cycle = console.session.cycle ∨
      ∃ booter spec, console.bootReported =
        (connectWithin (96 + 3) (console.emit (.booted booter)) spec).1 := by
  have failed (console : Console) (failure : Failure) :
      Says [] console (console.bootFailed failure) ∧
        Changes calmAspects console (console.bootFailed failure) ∧
        (console.bootFailed failure).session.cycle = console.session.cycle :=
    ⟨console.bootFailed_speech failure, (console.bootFailed_changes failure).mono (by decide),
      console.bootFailed_cycle failure⟩
  unfold bootReported boot nestingLimit bootWithin
  cases console.client.booter with
  | none => exact .inl (failed console _)
  | some booter =>
      have told := (console.emit_booted_changes booter.label).mono (by decide : _ ⊆ calmAspects)
      have silence : Says [] console (console.emit (.booted booter.label)) :=
        console.emit_speech fun _ => rfl
      have session : (console.emit (.booted booter.label)).session = console.session := rfl
      dsimp only
      cases booter.outcome with
      | connects spec => exact .inr ⟨booter.label, spec, rfl⟩
      | pending => exact .inl ⟨silence, told, rfl⟩
      | fails failure =>
          obtain ⟨mute, changed, cycle⟩ := failed (console.emit (.booted booter.label)) failure
          exact .inl ⟨silence.mute_trans mute, told.trans changed, cycle⟩
      | launches command patience =>
          have launched := launch_changes (console.emit (.booted booter.label)) command patience
          dsimp only
          generalize console.emit (.booted booter.label) = reached
            at told silence session launched ⊢
          generalize reached.launch command patience = result at launched ⊢
          obtain ⟨after, answer⟩ := result
          dsimp only at launched ⊢
          have quiet := silence.then_changes launched (by decide)
          have changed := told.trans (launched.mono (by decide))
          have same : after.session = console.session :=
            (launched.same .session (by decide)).trans session
          cases answer with
          | ok _ => exact .inl ⟨quiet, changed, congrArg Session.cycle same⟩
          | error failure =>
              obtain ⟨mute, more, cycle⟩ := failed after failure
              exact .inl ⟨quiet.mute_trans mute, changed.trans more,
                cycle.trans (congrArg Session.cycle same)⟩

section

variable {base before between after : Console} {event : Event}

theorem CycleMove.mute (silence : Says [] before after) (step : Changes calmAspects before after)
    (cycle : after.session.cycle = before.session.cycle) : CycleMove base before event after :=
  .talks [] silence (fun _ member => absurd member List.not_mem_nil)
    (fun _ _ member => absurd member List.not_mem_nil) cycle step

/-- A connection that begins, after something else was done that nobody heard. -/
theorem CycleMove.of_connectWithin (fresh : Fresh base) (settled : Settled base between)
    (silence : Says [] before between) (step : Changes aheadAspects before between)
    (channels : between.channels.length = before.channels.length)
    (cycle : between.session.cycle = before.session.cycle) (spec : ProcessSpec) (nesting : Nat) :
    CycleMove base before event (connectWithin (nesting + 3) between spec).1 := by
  obtain ⟨prepared, free, ready, readied, freed, welcome, opening, reached⟩ :=
    connectWithin_welcome fresh settled spec nesting
  refine .begins prepared free ready (step.trans (readied.mono (by decide))) ?_ freed
    (welcome.preceded silence channels) opening.wiring reached
  rw [show prepared.session = between.session from readied.same .session (by decide), cycle]

/-- A start of the runtime between connections. -/
theorem CycleMove.of_start (fresh : Fresh base) (steady : Steady base before)
    (unbound : Unbound base before) : CycleMove base before event before.start.1 := by
  by_cases allowed : before.session.state.canStart = true
  · have asked := before.startAsked_changes
    have silence : Says [] before before.startAsked := before.startAsked_speech
    have cycle : before.startAsked.session.cycle = before.session.cycle := by
      rw [startAsked_session]
    have starting : Unbound base (before.withSessionState .starting) :=
      unbound.withSessionState nofun
    have askedUnbound : Unbound base before.startAsked :=
      starting.of_changes (writeText_changes _ startingMessage) (by decide)
    have channels : before.startAsked.channels = before.channels := asked.same .channels (by decide)
    rw [start_eq allowed]
    generalize before.startAsked = asking at asked silence cycle askedUnbound channels ⊢
    rcases asking.bootReported_course with ⟨mute, step, same⟩ | ⟨booter, spec, reached⟩
    · exact .mute (silence.mute_trans mute) ((asked.mono (by decide)).trans step)
        (same.trans cycle)
    · have told := asking.emit_booted_changes booter
      rw [reached]
      refine .of_connectWithin fresh
        ⟨(steady.of_changes asked (by decide)).of_changes told (by decide),
          .inl (askedUnbound.of_changes told (by decide))⟩
        (silence.mute_trans (emit_speech _ fun _ => rfl))
        ((asked.mono (by decide)).trans (told.mono (by decide))) ?_ cycle spec 96
      exact congrArg List.length channels
  · have same : before.start.1 = before := by rw [start, if_neg allowed]
    rw [same]
    exact .mute (.refl before) (.refl _ before) rfl

/-- Whatever happens to a settled console comes to one of a few things. -/
theorem cycleMove_apply {console : Console} (fresh : Fresh base) (settled : Settled base console)
    (event : Event) : CycleMove base console event (console.apply event) := by
  cases console.speechMove_apply event with
  | talks frames speech small idle step =>
      refine .talks frames speech small idle ?_ (step.mono (by decide))
      rw [show (console.apply event).session = console.session from step.same .session (by decide)]
  | ebbs ebb lasts => exact .ebbs ebb lasts
  | sends name args asked => exact .sends name args asked
  | configures settings asked => exact .configures settings asked
  | reports name asked => exact .reports name asked
  | fires debouncer asked => exact .fires debouncer asked
  | ticks time asked => exact .ticks time asked
  | starts reached =>
      rw [reached]
      rcases settled.place with unbound | ⟨keys, bound⟩
      · exact .of_start fresh settled.steady unbound
      · rw [bound.still.1]
        exact .mute (.refl console) (.refl _ console) rfl
  | fails ready failure silence readied reached =>
      have session : ready.session = console.session := readied.same .session (by decide)
      rw [reached]
      refine .mute (silence.mute_trans (ready.bootFailed_speech failure)) ?_ ?_
      · exact (readied.mono (by decide)).trans ((ready.bootFailed_changes failure).mono (by decide))
      · rw [bootFailed_cycle, session]
  | connects ready spec readied reached =>
      have session : ready.session = console.session := readied.same .session (by decide)
      have channels : ready.channels = console.channels := readied.same .channels (by decide)
      rw [reached]
      exact .of_connectWithin fresh (settled.of_changes readied (by decide))
        (.of_changes readied (by decide)) (readied.mono (by decide))
        (congrArg List.length channels) (by rw [session]) spec 97
  | ends ready readied reached =>
      have readySettled := settled.of_changes readied.step (by decide)
      rw [reached, disconnect_eq]
      rcases settled.place with unbound | ⟨keys, bound⟩
      · have connection : ready.client.connection = none :=
          (readied.step.same .connection (by decide)).trans unbound.connection
        rw [disconnectWithin, if_neg (by simp [Client.isConnected, connection])]
        refine .ebbs readied fun _ channel hearing => ?_
        rw [hears_of_disconnected unbound.connection] at hearing
        cases hearing
      · obtain ⟨parting, farewell⟩ := disconnectWithin_farewell fresh readySettled.steady
          (bound.of_changes_apart readied.step (by decide)) 98
        exact .ends ready parting keys readied bound farewell

end

end Console

end RuntimeConsole
