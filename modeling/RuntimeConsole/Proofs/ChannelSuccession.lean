/-
Module: RuntimeConsole.Proofs.ChannelSuccession
Purpose: Connections follow each other on channels of their own, whatever the observers of
  connections do with the client: what has been superseded never serves again.
Main exports:
  Onward, Console.apply_onward, Console.Past
-/
import RuntimeConsole.Proofs.SpeechMove

namespace RuntimeConsole

open Console

/-- The channels below a limit only close, and nothing is said over those that do not hear
what is said.  The connection is the old one, or one on a channel that is not below the
limit. -/
structure Onward (limit : Nat) (before after : Console) : Prop where
  channels : before.channels.length ≤ after.channels.length
  number : ∀ channel < limit,
    (after.serviceAt channel).map Prod.fst = (before.serviceAt channel).map Prod.fst
  accepts : ∀ channel < limit, after.channelAccepts channel = true →
    before.channelAccepts channel = true
  connection : after.client.connection = before.client.connection ∨
    ∀ connection, after.client.connection = some connection → limit ≤ connection.channel
  said : ∀ channel < limit, before.hears channel = false →
    (after.said channel).Sublist (before.said channel)
  served : before.Served → after.Served

namespace Onward

variable {limit : Nat} {first second third : Console} {frames : List Frame}

/-- A channel below the limit that does not hear what is said never will. -/
theorem deaf (step : Onward limit first second) {channel : Nat} (below : channel < limit)
    (deaf : first.hears channel = false) : second.hears channel = false := by
  rw [← Bool.not_eq_true] at deaf ⊢
  intro hearing
  obtain ⟨connection, connected, rfl, accepts⟩ := hears_iff.mp hearing
  rcases step.connection with same | beyond
  · exact deaf (hears_iff.mpr ⟨connection, same.symm.trans connected, rfl,
      step.accepts _ below accepts⟩)
  · exact absurd below (Nat.not_lt.mpr (beyond connection connected))

theorem refl (limit : Nat) (console : Console) : Onward limit console console :=
  ⟨Nat.le_refl _, fun _ _ => rfl, fun _ _ => id, .inl rfl, fun _ _ _ => .refl _, id⟩

theorem trans (step : Onward limit first second) (next : Onward limit second third) :
    Onward limit first third where
  channels := Nat.le_trans step.channels next.channels
  number channel below := (next.number channel below).trans (step.number channel below)
  accepts channel below accepts :=
    step.accepts channel below (next.accepts channel below accepts)
  connection := by
    rcases next.connection with kept | beyond
    · exact step.connection.imp kept.trans fun beyond connection connected =>
        beyond connection (kept.symm.trans connected)
    · exact .inr beyond
  said channel below deaf :=
    (next.said channel below (step.deaf below deaf)).trans (step.said channel below deaf)
  served served := next.served (step.served served)

theorem served_of_number (connection : second.client.connection = first.client.connection)
    (number : ∀ channel, (second.serviceAt channel).map Prod.fst =
      (first.serviceAt channel).map Prod.fst) (served : first.Served) : second.Served := by
  intro current connected
  obtain ⟨known, accepts, service, own⟩ := served current (connection ▸ connected)
  have same := number current.channel
  rw [service, Option.map_some, Option.map_eq_some_iff] at same
  obtain ⟨⟨number, accepts⟩, there, rfl⟩ := same
  exact ⟨number, accepts, there, own⟩

theorem length_of_service (service : ∀ channel, (second.serviceAt channel).map Prod.fst =
      (first.serviceAt channel).map Prod.fst) :
    first.channels.length ≤ second.channels.length := by
  rcases Nat.lt_or_ge second.channels.length first.channels.length with shorter | enough
  · have there := service second.channels.length
    rw [serviceAt, serviceAt, List.getElem?_eq_none (Nat.le_refl _),
      List.getElem?_eq_getElem shorter] at there
    cases there
  · exact enough

/-- Whatever is said is said over the channel that hears it. -/
theorem of_speech (speech : Says frames first second) : Onward limit first second where
  channels := length_of_service fun channel => by rw [speech.service]
  number channel _ := by rw [speech.service]
  accepts channel _ accepts := speech.accepts channel ▸ accepts
  connection := .inl speech.connection
  said channel _ deaf := by rw [speech.said, deaf]; simp
  served served :=
    served_of_number speech.connection (fun channel => by rw [speech.service]) served

theorem of_ebbs (ebb : Ebbs first second) : Onward limit first second where
  channels := length_of_service ebb.number
  number channel _ := ebb.number channel
  accepts channel _ := ebb.accepts channel
  connection := .inl (ebb.step.same .connection (by decide))
  said channel _ _ := ebb.said channel
  served served := served_of_number (ebb.step.same .connection (by decide)) ebb.number served

theorem of_changes {aspects : List Aspect} (step : Changes aspects first second)
    (apart : [.connection, .channels, .trace].all (· ∉ aspects) = true) :
    Onward limit first second :=
  of_speech (.of_changes step apart)

/-- The connection is given up. -/
theorem of_disconnected (disconnected : second.client.connection = none)
    (channels : second.channels = first.channels) (trace : second.trace = first.trace) :
    Onward limit first second where
  channels := Nat.le_of_eq (congrArg List.length channels.symm)
  number channel _ := by rw [serviceAt, serviceAt, channels]
  accepts channel _ := by rw [channelAccepts, channelAccepts, channels]; exact id
  connection := .inr fun connection connected => by
    rw [disconnected] at connected
    cases connected
  said channel _ _ := by
    have same : second.said channel = first.said channel := by
      rw [Console.said, Console.said, channels, trace]
    exact same ▸ .refl _
  served _ := .of_disconnected disconnected

/-- What holds of every step holds of any number of them. -/
theorem foldl {Item : Type} {step : Console → Item → Console}
    (each : ∀ console item, limit ≤ console.channels.length →
      Onward limit console (step console item))
    (items : List Item) (console : Console) (inside : limit ≤ console.channels.length) :
    Onward limit console (items.foldl step console) := by
  induction items generalizing console with
  | nil => exact refl limit console
  | cons item items inductionHypothesis =>
      have told := each console item inside
      exact told.trans (inductionHypothesis _ (Nat.le_trans inside told.channels))

end Onward

namespace Console

/-! ### Connections that begin and end -/

/-- A process that is prepared has a channel of its own, behind all others. -/
theorem prepareProcess_onward (console : Console) (spec : ProcessSpec) {limit : Nat}
    (inside : limit ≤ console.channels.length) :
    Onward limit console (console.prepareProcess spec).1 ∧
      (console.prepareProcess spec).2.2 = console.channels.length ∧
      (console.prepareProcess spec).1.channels.length = console.channels.length + 1 := by
  have changed := console.prepareProcess_changes spec
  have connection : (console.prepareProcess spec).1.client.connection =
      console.client.connection := changed.same .connection (by decide)
  have trace : (console.prepareProcess spec).1.trace = console.trace :=
    changed.same .trace (by decide)
  obtain ⟨added, channels, number⟩ : ∃ added,
      (console.prepareProcess spec).1.channels = console.channels ++ [added] ∧
        (console.prepareProcess spec).2.2 = console.channels.length := by
    unfold prepareProcess
    cases spec.origin with
    | fresh faults => exact ⟨_, rfl, rfl⟩
    | running stream => exact ⟨_, rfl, rfl⟩
  generalize (console.prepareProcess spec).1 = ready at connection trace channels ⊢
  have there (channel : Nat) (below : channel < console.channels.length) :
      ready.channels[channel]? = console.channels[channel]? := by
    rw [channels, List.getElem?_append_left below]
  have service (channel : Nat) (below : channel < console.channels.length) :
      ready.serviceAt channel = console.serviceAt channel := by
    rw [serviceAt, there channel below, serviceAt]
  refine ⟨?_, number, by simp [channels]⟩
  exact {
    channels := by simp [channels]
    number := fun channel below => by rw [service channel (Nat.lt_of_lt_of_le below inside)]
    accepts := fun channel below => by
      rw [channelAccepts_eq, service channel (Nat.lt_of_lt_of_le below inside),
        channelAccepts_eq]
      exact id
    connection := .inl connection
    said := fun channel below _ => by
      have same : ready.said channel = console.said channel := by
        rw [said, trace, there channel (Nat.lt_of_lt_of_le below inside), said]
      exact same ▸ .refl _
    served := fun served current connected => by
      obtain ⟨known, accepts, serves, own⟩ := served current (connection ▸ connected)
      refine ⟨known, accepts, ?_, own⟩
      rw [service, serves]
      rcases Nat.lt_or_ge current.channel console.channels.length with below | beyond
      · exact below
      · rw [serviceAt, List.getElem?_eq_none beyond] at serves
        cases serves }

/-- A channel that begins to serve a connection is the only one to do something else. -/
theorem installConnection_service (console : Console) (process channel other : Nat)
    (different : other ≠ channel) :
    (console.installConnection process channel).1.serviceAt other = console.serviceAt other := by
  unfold installConnection serveChannel
  dsimp only
  split
  · simp [serviceAt, withClient, different.symm]
  · rfl

theorem installConnection_said (console : Console) (process channel other : Nat) :
    (console.installConnection process channel).1.said other = console.said other := by
  unfold installConnection serveChannel
  dsimp only
  split
  next wire known =>
      have there : console.channels[channel]? = some (.wire wire) := known
      obtain ⟨inside, -⟩ := List.getElem?_eq_some_iff.mp there
      by_cases same : channel = other
      · subst same
        rw [said_eq there]
        simp [said, withClient, inside, Channel.queue]
      · simp [said, withClient, same]
  next => rfl

theorem installConnection_connection (console : Console) (process channel : Nat) :
    (console.installConnection process channel).1.client.connection =
      some ⟨console.client.nextId, channel, process⟩ :=
  (serveChannel_changes _ _ _).same .connection (by decide)

theorem installConnection_own (console : Console) (process channel : Nat)
    (there : channel < console.channels.length) :
    ∃ number, (console.installConnection process channel).1.serviceAt channel =
        some (number, console.channelAccepts channel) ∧
      ∀ id, number = some id → id = console.client.nextId := by
  unfold installConnection serveChannel channelAccepts
  dsimp only [withClient]
  cases known : console.channels[channel]? with
  | none => exact absurd there (by simpa using known)
  | some found =>
      cases found with
      | direct taken =>
          refine ⟨none, ?_, nofun⟩
          simp [serviceAt, known, Channel.service, Channel.accepts]
      | wire served =>
          refine ⟨some console.client.nextId, ?_, fun id given => (Option.some.inj given).symm⟩
          simp [serviceAt, there, Channel.service, Channel.accepts, Client.withFreshId]

theorem installConnection_onward (console : Console) (process channel : Nat) {limit : Nat}
    (behind : limit ≤ channel) (there : channel < console.channels.length) :
    Onward limit console (console.installConnection process channel).1 where
  channels := by
    unfold installConnection serveChannel
    dsimp only
    split
    · simp [withClient]
    · exact Nat.le_refl _
  number other below := by
    rw [installConnection_service console process channel other (by omega)]
  accepts other below := by
    rw [channelAccepts_eq, installConnection_service console process channel other (by omega),
      channelAccepts_eq]
    exact id
  connection := .inr fun connection connected => by
    rw [installConnection_connection, Option.some.injEq] at connected
    rw [← connected]
    exact behind
  said other _ _ := console.installConnection_said process channel other ▸ .refl _
  served _ connection connected := by
    rw [installConnection_connection, Option.some.injEq] at connected
    obtain ⟨number, service, own⟩ := console.installConnection_own process channel there
    rw [← connected]
    exact ⟨number, _, service, own⟩

theorem sessionBoot_onward (console : Console) (process : Nat) {limit : Nat} :
    Onward limit console (console.sessionBoot process) :=
  .of_speech ((console.showProcess_speech process).trans (beginCycle_speech _))

mutual

theorem connectWithin_onward (nesting : Nat) (console : Console) (spec : ProcessSpec)
    {limit : Nat} (inside : limit ≤ console.channels.length) :
    Onward limit console (connectWithin nesting console spec).1 := by
  cases nesting with
  | zero => exact .of_changes console.giveUpNesting_changes (by decide)
  | succ nesting =>
      rw [connectWithin]
      obtain ⟨readied, channel, length⟩ := console.prepareProcess_onward spec inside
      generalize console.prepareProcess spec = prepared at readied channel length ⊢
      obtain ⟨ready, process, place⟩ := prepared
      dsimp only at readied channel length ⊢
      have freed : Onward limit ready
          (if ready.client.isConnected then disconnectWithin nesting ready else ready) := by
        split
        · exact disconnectWithin_onward nesting ready (Nat.le_trans inside readied.channels)
        · exact .refl limit ready
      have longer := freed.channels
      generalize (if ready.client.isConnected then disconnectWithin nesting ready else ready) = free
        at freed longer ⊢
      have installed : Onward limit free (free.installConnection process place).1 :=
        free.installConnection_onward process place (by omega) (by omega)
      refine readied.trans (freed.trans (installed.trans ?_))
      exact .foldl (fun console (entry : Nat × BootObserver) =>
        tellBoot_onward nesting console _ entry.2) _ _
          (Nat.le_trans (by omega) installed.channels)
  termination_by nesting

theorem disconnectWithin_onward (nesting : Nat) (console : Console) {limit : Nat}
    (inside : limit ≤ console.channels.length) :
    Onward limit console (disconnectWithin nesting console) := by
  cases nesting with
  | zero =>
      rw [disconnectWithin]
      exact .of_changes console.giveUpNesting_changes (by decide)
  | succ nesting =>
      rw [disconnectWithin]
      split
      · have given : Onward limit console
            (console.withClient { console.client with connection := none }) :=
          .of_disconnected rfl rfl rfl
        have ended := given.trans (.of_changes (resetPending_changes _) (by decide))
        exact ended.trans (.foldl (fun console (entry : Nat × DetachObserver) =>
          tellDetach_onward nesting console entry.2) _ _ (Nat.le_trans inside ended.channels))
      · exact .refl limit console
  termination_by nesting

theorem tellBoot_onward (nesting : Nat) (console : Console) (process : Nat)
    (observer : BootObserver) {limit : Nat} (inside : limit ≤ console.channels.length) :
    Onward limit console (tellBoot nesting console process observer) := by
  cases observer with
  | session =>
      rw [tellBoot]
      exact console.sessionBoot_onward process
  | guest label takesEarly actions =>
      have taken : Onward limit console (if takesEarly then
          ((console.takeEarly process).1, some (console.takeEarly process).2.isSome)
          else (console, none)).1 := by
        split
        · exact .of_changes (console.takeEarly_changes process) (by decide)
        · exact .refl limit console
      have seen (early : Option Bool) (console : Console) :
          Onward limit console (console.emit (.guestSawBoot label early)) :=
        .of_speech (console.emit_speech fun _ => rfl)
      cases nesting with
      | zero =>
          rw [tellBoot]
          dsimp only
          exact taken.trans ((seen _ _).trans (.of_changes (giveUpNesting_changes _) (by decide)))
      | succ nesting =>
          rw [tellBoot]
          dsimp only
          have told := taken.trans (seen (if takesEarly then
            ((console.takeEarly process).1, some (console.takeEarly process).2.isSome)
            else (console, none)).2 _)
          refine told.trans (.foldl (fun console action => ?_) actions _
            (Nat.le_trans inside told.channels))
          exact performWithin_onward nesting console action
  termination_by nesting

theorem tellDetach_onward (nesting : Nat) (console : Console) (observer : DetachObserver)
    {limit : Nat} (inside : limit ≤ console.channels.length) :
    Onward limit console (tellDetach nesting console observer) := by
  cases observer with
  | session =>
      rw [tellDetach]
      exact .of_speech console.sessionDetached_speech
  | guest label actions =>
      have told : Onward limit console (console.emit (.guestSawDetach label
          console.client.isConnected console.client.pending.length)) :=
        .of_speech (console.emit_speech fun _ => rfl)
      cases nesting with
      | zero =>
          rw [tellDetach]
          exact told.trans (.of_changes (giveUpNesting_changes _) (by decide))
      | succ nesting =>
          rw [tellDetach]
          refine told.trans (.foldl (fun console action => ?_) actions _
            (Nat.le_trans inside told.channels))
          exact performWithin_onward nesting console action
  termination_by nesting

theorem performWithin_onward (nesting : Nat) (console : Console) (action : ClientAction)
    {limit : Nat} (inside : limit ≤ console.channels.length) :
    Onward limit console (performWithin nesting console action) := by
  cases action with
  | send name =>
      rw [performWithin]
      exact .of_speech (console.send_speech name [])
  | connect spec =>
      cases nesting with
      | zero => exact .of_changes console.giveUpNesting_changes (by decide)
      | succ nesting => exact connectWithin_onward nesting console spec inside
  | disconnect =>
      cases nesting with
      | zero => exact .of_changes console.giveUpNesting_changes (by decide)
      | succ nesting => exact disconnectWithin_onward nesting console inside
  | boot =>
      cases nesting with
      | zero => exact .of_changes console.giveUpNesting_changes (by decide)
      | succ nesting => exact bootWithin_onward nesting console inside
  termination_by nesting

theorem bootWithin_onward (nesting : Nat) (console : Console) {limit : Nat}
    (inside : limit ≤ console.channels.length) :
    Onward limit console (bootWithin nesting console).1 := by
  rw [bootWithin]
  split
  next => exact .refl limit console
  next booter _ =>
      have started : Onward limit console (console.emit (.booted booter.label)) :=
        .of_speech (console.emit_speech fun _ => rfl)
      refine started.trans ?_
      split
      next => exact .refl limit _
      next => exact .refl limit _
      next => exact .of_changes (launch_changes _ _ _) (by decide)
      next => exact .of_changes (giveUpNesting_changes _) (by decide)
      next spec nesting _ =>
          exact connectWithin_onward nesting _ spec (Nat.le_trans inside started.channels)
  termination_by nesting

end

theorem start_onward (console : Console) {limit : Nat} (inside : limit ≤ console.channels.length) :
    Onward limit console console.start.1 := by
  unfold start
  split
  · have asked : Onward limit console
        ((console.withSessionState .starting).writeText startingMessage) :=
      .of_speech console.startAsked_speech
    have booted := bootWithin_onward nestingLimit _ (Nat.le_trans inside asked.channels)
    rw [← boot] at booted
    split
    next reached result =>
        rw [result] at booted
        exact asked.trans booted
    next reached failure result =>
        rw [result] at booted
        exact (asked.trans booted).trans (.of_speech (reached.bootFailed_speech failure))
  · exact .refl limit console

/-! ### Events and runs -/

/-- Whatever is said where a module is reported is about a module. -/
theorem debounce_speech (console : Console) (id : Nat) (action : DebouncedAction) :
    ∃ frames, (∀ frame ∈ frames, ∃ name cols, frame = moduleNotice name cols) ∧
      Says frames console (console.debounce id action) := by
  unfold debounce
  split
  next => exact ⟨[], by simp, .refl console⟩
  next debouncer _ =>
      have replaced : Says [] console { console with
          debouncers := console.debouncers.set id (debouncer.call console.now action).1 } :=
        .of_same rfl rfl rfl
      dsimp only
      split
      · exact ⟨_, actionSays_module _ _, replaced.trans (runDebounced_speech _ _)⟩
      · exact ⟨_, by simp, replaced⟩

theorem reportModule_speech (console : Console) (name : String) :
    ∃ frames, (∀ frame ∈ frames, ∃ name cols, frame = moduleNotice name cols) ∧
      Says frames console (console.reportModule name) := by
  have told : ∀ (listeners : List ModuleListener) (console : Console), ∃ frames,
      (∀ frame ∈ frames, ∃ name cols, frame = moduleNotice name cols) ∧
      Says frames console (listeners.foldl
        (fun console listener => console.moduleListenerSees name listener) console) := by
    intro listeners
    induction listeners with
    | nil => exact fun console => ⟨[], by simp, .refl console⟩
    | cons listener listeners inductionHypothesis =>
        intro console
        obtain ⟨first, own, heard⟩ : ∃ frames,
            (∀ frame ∈ frames, ∃ name cols, frame = moduleNotice name cols) ∧
            Says frames console (console.moduleListenerSees name listener) := by
          cases listener with
          | runtime debouncer => exact console.debounce_speech debouncer _
          | guest label => exact ⟨[], by simp, console.emit_speech fun _ => rfl⟩
        obtain ⟨rest, ownToo, more⟩ :=
          inductionHypothesis (console.moduleListenerSees name listener)
        exact ⟨first ++ rest,
          fun frame member => (List.mem_append.mp member).elim (own frame) (ownToo frame),
          heard.trans more⟩
  have noted : Says [] console { console with modules := (console.modules.report name).1 } :=
    .of_same rfl rfl rfl
  obtain ⟨frames, own, heard⟩ := told (console.modules.report name).2
    { console with modules := (console.modules.report name).1 }
  exact ⟨_, own, noted.trans heard⟩

theorem fireDebouncer_speech (console : Console) (id : Nat) :
    ∃ frames, (∀ frame ∈ frames, ∃ name cols, frame = moduleNotice name cols) ∧
      Says frames console (console.fireDebouncer id) := by
  unfold fireDebouncer
  split
  · split
    · exact ⟨_, actionSays_module _ _, .after_changes (console.cancelDebounced_changes id)
        (runDebounced_speech _ _) (by decide)⟩
    · exact ⟨[], by simp, .refl console⟩
  · exact ⟨[], by simp, .refl console⟩

/-- Every event leaves superseded channels behind. -/
theorem apply_onward (console : Console) (event : Event) :
    Onward console.channels.length console (console.apply event) := by
  cases console.speechMove_apply event with
  | talks frames speech _ _ _ => exact .of_speech speech
  | ebbs ebb _ => exact .of_ebbs ebb
  | sends name args asked =>
      rw [asked]
      exact .of_speech (console.send_speech name args)
  | configures settings asked =>
      rw [asked]
      exact .of_speech (console.updateSettings_speech settings)
  | reports name asked =>
      obtain ⟨frames, -, speech⟩ := console.reportModule_speech name
      rw [asked]
      exact .of_speech speech
  | fires debouncer asked =>
      obtain ⟨frames, -, speech⟩ := console.fireDebouncer_speech debouncer
      rw [asked]
      exact .of_speech speech
  | ticks time asked =>
      rw [asked]
      exact .of_speech (.of_same rfl rfl rfl)
  | starts reached =>
      rw [reached]
      exact console.start_onward (Nat.le_refl _)
  | fails ready failure silence _ reached =>
      rw [reached]
      exact .trans (.of_speech silence) (.of_speech (ready.bootFailed_speech failure))
  | connects ready spec readied reached =>
      have aside : Onward console.channels.length console ready :=
        .of_changes readied (by decide)
      rw [reached]
      exact aside.trans (connectWithin_onward _ ready spec aside.channels)
  | ends ready readied reached =>
      have aside : Onward console.channels.length console ready := .of_ebbs readied
      rw [reached]
      exact aside.trans (disconnectWithin_onward _ ready aside.channels)

/-- A channel is there, and the connection, if there is one, is on another. -/
structure Past (channel : Nat) (console : Console) : Prop where
  there : channel < console.channels.length
  apart : ∀ connection, console.client.connection = some connection →
    connection.channel ≠ channel

theorem Past.deaf {console : Console} {channel : Nat} (past : Past channel console) :
    console.hears channel = false := by
  rw [← Bool.not_eq_true]
  intro hearing
  obtain ⟨connection, connected, same, -⟩ := hears_iff.mp hearing
  exact past.apart connection connected same

/-- What is past stays past. -/
theorem Past.step {console : Console} {channel : Nat} (past : Past channel console)
    (event : Event) : Past channel (console.apply event) := by
  have onward := console.apply_onward event
  refine ⟨Nat.lt_of_lt_of_le past.there onward.channels, fun connection connected => ?_⟩
  rcases onward.connection with same | beyond
  · exact past.apart connection (same.symm.trans connected)
  · exact Nat.ne_of_gt (Nat.lt_of_lt_of_le past.there (beyond connection connected))

theorem Past.run {console : Console} {channel : Nat} (past : Past channel console)
    (events : List Event) : Past channel (console.run events) := by
  induction events generalizing console with
  | nil => exact past
  | cons event events inductionHypothesis => exact inductionHypothesis (past.step event)

theorem Served.lt {console : Console} (served : console.Served) {connection : Connection}
    (connected : console.client.connection = some connection) :
    connection.channel < console.channels.length := by
  obtain ⟨number, accepts, service, -⟩ := served connection connected
  rw [serviceAt, Option.map_eq_some_iff] at service
  obtain ⟨found, there, -⟩ := service
  exact (List.getElem?_eq_some_iff.mp there).1

theorem Served.run {console : Console} (served : console.Served) (events : List Event) :
    (console.run events).Served := by
  induction events generalizing console with
  | nil => exact served
  | cons event events inductionHypothesis =>
      exact inductionHypothesis ((console.apply_onward event).served served)

/-- The channel of a connection that is not there any more is past. -/
theorem Past.of_lost {console : Console} (served : console.Served) {connection : Connection}
    (connected : console.client.connection = some connection) {event : Event}
    (lost : (console.apply event).client.connection ≠ some connection) :
    Past connection.channel (console.apply event) := by
  have onward := console.apply_onward event
  have there := served.lt connected
  refine ⟨Nat.lt_of_lt_of_le there onward.channels, fun current found => ?_⟩
  rcases onward.connection with same | beyond
  · exact absurd (same.trans connected) lost
  · exact Nat.ne_of_gt (Nat.lt_of_lt_of_le there (beyond current found))

/-- A connection is there until it is lost, and once it is lost its channel is past. -/
theorem Past.of_lost_run {console : Console} (served : console.Served) {connection : Connection}
    (connected : console.client.connection = some connection) (events : List Event)
    (lost : (console.run events).client.connection ≠ some connection) :
    Past connection.channel (console.run events) := by
  induction events generalizing console with
  | nil => exact absurd connected lost
  | cons event events inductionHypothesis =>
      by_cases still : (console.apply event).client.connection = some connection
      · exact inductionHypothesis ((console.apply_onward event).served served) still lost
      · exact (Past.of_lost served connected still).run events

end Console

end RuntimeConsole
