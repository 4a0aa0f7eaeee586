/-
Module: RuntimeConsole.Proofs.PromptNotices
Purpose: The runtime is told the prompt when it connects and whenever the prompt changes
  afterwards, over every run of a console whose session has been activated.
Main exports:
  Console.Attuned, Console.PromptStep, PromptNotices, prompt_notices
-/
import Mathlib.Data.List.Destutter
import RuntimeConsole.Proofs.CycleSpeech
import RuntimeConsole.Proofs.LinkHistory
import RuntimeConsole.Proofs.SupersededStreams

namespace RuntimeConsole

/-! ### Sequences without repetitions -/

section

variable {Item : Type} [DecidableEq Item]

theorem destutter'_concat (first last : Item) (items : List Item) :
    (items ++ [last]).destutter' (· ≠ ·) first =
      items.destutter' (· ≠ ·) first ++
        if (items.getLast?).getD first = last then [] else [last] := by
  induction items generalizing first with
  | nil => by_cases same : first = last <;> simp [same]
  | cons item items inductionHypothesis =>
      have end_ (other : Item) :
          ((item :: items).getLast?).getD other = items.getLast?.getD item := by
        rw [List.getLast?_cons, Option.getD_some]
      rw [List.cons_append, end_]
      by_cases same : first = item
      · subst same
        rw [List.destutter'_cons_neg _ (by simp), List.destutter'_cons_neg _ (by simp),
          inductionHypothesis]
      · rw [List.destutter'_cons_pos _ same, List.destutter'_cons_pos _ same,
          inductionHypothesis, List.cons_append]

/-- A last item shows where it differs from the one before it. -/
theorem destutter_concat (items : List Item) (last : Item) :
    (items ++ [last]).destutter (· ≠ ·) =
      items.destutter (· ≠ ·) ++ if items.getLast? = some last then [] else [last] := by
  cases items with
  | nil => rfl
  | cons first items =>
      rw [List.cons_append, List.destutter_cons', List.destutter_cons', destutter'_concat,
        List.getLast?_cons]
      simp only [Option.some.injEq]

/-- Leaving out repetitions leaves the last item. -/
theorem getLast?_destutter (items : List Item) :
    (items.destutter (· ≠ ·)).getLast? = items.getLast? := by
  induction items using List.reverseRecOn with
  | nil => rfl
  | append_singleton items last inductionHypothesis =>
      rw [destutter_concat, List.getLast?_concat]
      split
      next same => rw [List.append_nil, inductionHypothesis, same]
      next => exact List.getLast?_concat ..

end

namespace Console

/-! ### Observers of the prompt -/

/-- Observers of the prompt look at the prompt, and were told the one there is. -/
def Attuned (settings : Store Settings Json SettingsListener) : Prop :=
  ∀ observer ∈ settings.observers, observer.listener = .prompt →
    (∀ value : Settings, observer.select value = .str value.prompt) ∧
      observer.last = .str settings.current.prompt

section

variable {settings : Store Settings Json SettingsListener}

theorem Attuned.release (attuned : Attuned settings) (key : Nat) :
    Attuned (settings.release key) :=
  fun observer member listening =>
    attuned observer (List.mem_filter.mp member).1 listening

theorem Attuned.observe (attuned : Attuned settings) :
    Attuned (settings.observe (fun value => .str value.prompt) .prompt).1 := by
  intro observer member listening
  rcases List.mem_append.mp member with member | member
  · exact attuned observer member listening
  · rw [List.mem_singleton.mp member]
    exact ⟨fun _ => rfl, rfl⟩

theorem Attuned.update (attuned : Attuned settings) (value : Settings) :
    Attuned (settings.update value).1 := by
  intro observer member listening
  obtain ⟨before, there, rfl⟩ := List.mem_map.mp member
  rw [Observer.see_eq] at listening ⊢
  obtain ⟨select, -⟩ := attuned before there listening
  exact ⟨select, select value⟩

/-- Each observer of the prompt is told of another prompt. -/
theorem notices_of_attuned (attuned : Attuned settings) (value : Settings) :
    (settings.update value).2.flatMap noticeSays =
      List.replicate (if value.prompt = settings.current.prompt then 0
        else settings.observers.countP fun observer => observer.listener == .prompt)
        (promptNotice value.prompt) := by
  change (settings.observers.filterMap (Store.notice? value)).flatMap noticeSays = _
  unfold Attuned at attuned
  generalize settings.observers = observers at attuned ⊢
  induction observers with
  | nil => simp
  | cons observer observers inductionHypothesis =>
      have rest := inductionHypothesis fun other member => attuned other (by simp [member])
      have first : (Store.notice? value observer).toList.flatMap noticeSays =
          List.replicate (if value.prompt = settings.current.prompt then 0
            else if observer.listener == .prompt then 1 else 0) (promptNotice value.prompt) := by
        rw [Store.notice?_eq]
        cases listener : observer.listener with
        | prompt =>
            obtain ⟨select, last⟩ := attuned observer (by simp) listener
            rw [select, last]
            by_cases same : value.prompt = settings.current.prompt <;> simp [same, noticeSays]
        | keystrokes kind => split <;> simp [noticeSays]
        | guest label => split <;> simp [noticeSays]
      have split : (List.filterMap (Store.notice? value) (observer :: observers)).flatMap
          noticeSays = (Store.notice? value observer).toList.flatMap noticeSays ++
            (List.filterMap (Store.notice? value) observers).flatMap noticeSays := by
        cases told : Store.notice? value observer <;> simp [told]
      rw [split, first, rest, List.replicate_append_replicate, List.countP_cons]
      congr 1
      split <;> simp [Nat.add_comm]

end

/-! ### The settings while connections begin and end -/

theorem dispose_attuned (console : Console) (list : Disposables Release)
    (attuned : Attuned console.settings) : Attuned (console.dispose list).settings := by
  unfold dispose
  induction list.releaseOrder generalizing console with
  | nil => exact attuned
  | cons released rest inductionHypothesis =>
      refine inductionHypothesis (console.release released) ?_
      rcases console.release_settings released with same | ⟨key, same⟩
      · exact same ▸ attuned
      · exact same ▸ attuned.release key

theorem Farewell.attuned {keys : CycleKeys} {before parting after : Console}
    (farewell : Farewell keys before parting after) (attuned : Attuned before.settings) :
    Attuned after.settings := by
  have ahead : parting.settings = before.settings := farewell.ahead.same .settings (by decide)
  have behind : after.settings = parting.teardownCycle.settings :=
    farewell.behind.same .settings (by decide)
  have emptied : (parting.withCycle .empty).settings = parting.settings := rfl
  rw [behind]
  exact dispose_attuned _ _ (by rwa [emptied, ahead])

/-- The session becomes an observer of the prompt when it sets up what it holds. -/
theorem beginCycle_settings {ready : Console} (cycle : ready.session.cycle = .empty) :
    ready.beginCycle.settings =
      (ready.settings.observe (fun value => .str value.prompt) .prompt).1 := by
  have rest : Changes [.resolvers, .living, .listeners, .tasks, .trace, .debouncers, .timers,
      .moduleListeners, .session] ready.observePrompt.1 ready.beginCycle := by
    rw [beginCycle_eq cycle, openCycle]
    dsimp only
    refine .trans ?_ ((withSessionState_changes _ _).mono (by decide))
    refine .trans ?_ ((withCycle_changes _ _).mono (by decide))
    refine .trans ?_ ((listenModules_changes _ _).mono (by decide))
    refine .trans ?_ ((addDebouncer_changes _ _).mono (by decide))
    refine .trans ?_ ((addLineListener_changes _ _).mono (by decide))
    exact (addResolver_changes _).mono (by decide)
  exact rest.same .settings (by decide)

/-! ### One event -/

/-- The prompt that is in force. -/
def prompt (console : Console) : String := console.settings.current.prompt

/-- The notices of the prompt among frames. -/
def promptNotices (frames : List Frame) : List Frame :=
  frames.filter (Frame.isNotice "changeprompt")

theorem promptNotices_of_small {frames : List Frame}
    (small : ∀ frame ∈ frames, frame.isSmall = true) : promptNotices frames = [] := by
  refine List.filter_eq_nil_iff.mpr fun frame member => ?_
  have := small frame member
  simp only [Frame.isSmall, Bool.and_eq_true, Bool.not_eq_true'] at this
  simp [this.1]

theorem promptNotices_of_module {frames : List Frame}
    (own : ∀ frame ∈ frames, ∃ name cols, frame = moduleNotice name cols) :
    promptNotices frames = [] := by
  refine List.filter_eq_nil_iff.mpr fun frame member => ?_
  obtain ⟨name, cols, rfl⟩ := own frame member
  simp [moduleNotice, Frame.isNotice]

/-- What an event does to whom is told the prompt. -/
structure PromptStep (before : Console) (event : Event) (after : Console) : Prop where
  attuned : Attuned after.settings
  /-- A channel hears what it heard before, or is a new one. -/
  hearing : ∀ channel, after.hears channel = true →
    before.hears channel = true ∨ before.channels.length ≤ channel
  /-- A channel hears as long as its connection lasts and frames are taken from it. -/
  lasting : ∀ channel, before.hears channel = true → after.hears channel = true ∨
    event = .stopTaking channel ∨ after.client.connection ≠ before.client.connection
  /-- A connection that begins is heard. -/
  begins : ∀ connection, after.client.connection = some connection →
    before.client.connection = some connection ∨ after.hears connection.channel = true
  told : ∀ channel, promptNotices (before.saidBy channel event) =
    if after.hears channel = true ∧
        ¬(before.hears channel = true ∧ after.prompt = before.prompt) then
      [promptNotice after.prompt]
    else []

section

variable {base console : Console} {event : Event}

/-- Where the prompt stays what it is and nobody begins to hear, nobody is told. -/
theorem PromptStep.quiet (attuned : Attuned console.settings)
    (settings : (console.apply event).settings = console.settings)
    (connection : (console.apply event).client.connection = console.client.connection)
    (hearing : ∀ channel, (console.apply event).hears channel = true →
      console.hears channel = true)
    (lasting : ∀ channel, console.hears channel = true →
      (console.apply event).hears channel = true ∨ event = .stopTaking channel)
    (told : ∀ channel, promptNotices (console.saidBy channel event) = []) :
    PromptStep console event (console.apply event) where
  attuned := settings ▸ attuned
  hearing channel heard := .inl (hearing channel heard)
  lasting channel heard := (lasting channel heard).imp_right .inl
  begins found connected := .inl (connection.symm.trans connected)
  told channel := by
    rw [told, if_neg]
    rintro ⟨heard, another⟩
    exact another ⟨hearing channel heard, by rw [prompt, settings, prompt]⟩

/-- Where something is said that is not about the prompt. -/
theorem PromptStep.of_speech (attuned : Attuned console.settings) {frames : List Frame}
    (speech : Says frames console (console.apply event))
    (settings : (console.apply event).settings = console.settings)
    (others : promptNotices frames = []) : PromptStep console event (console.apply event) :=
  .quiet attuned settings speech.connection (fun channel heard => speech.hears channel ▸ heard)
    (fun channel heard => .inl ((speech.hears channel).trans heard))
    fun _ => filter_saidBy_of_speech _ speech others

theorem promptObservers_eq (console : Console) :
    (console.settings.observers.countP fun observer => observer.listener == .prompt) =
      console.promptObservers := by
  rw [promptObservers, watchers, List.countP_map]
  rfl

/-- The settings are replaced. -/
theorem PromptStep.of_configure (fresh : Fresh base) (settled : Settled base console)
    (attuned : Attuned console.settings) (value : Settings) :
    PromptStep console (.configure value) (console.apply (.configure value)) := by
  have speech : Says (console.updateSays value) console (console.apply (.configure value)) :=
    console.updateSettings_speech value
  have reached :
      (console.apply (.configure value)).settings = (console.settings.update value).1 :=
    console.updateSettings_store value
  have after : (console.apply (.configure value)).prompt = value.prompt := by
    rw [prompt, reached]
    rfl
  refine ⟨reached ▸ attuned.update value, fun channel heard => .inl (speech.hears channel ▸ heard),
    fun channel heard => .inl ((speech.hears channel).trans heard),
    fun found connected => .inl (speech.connection.symm.trans connected), fun channel => ?_⟩
  have heardToo : (console.apply (.configure value)).hears channel = console.hears channel :=
    speech.hears channel
  rw [saidBy_of_append (fun _ _ same => Event.noConfusion same) (speech.said channel), heardToo,
    after]
  cases heard : console.hears channel with
  | false => simp [promptNotices]
  | true =>
      obtain ⟨connection, connected, -, -⟩ := hears_iff.mp heard
      rcases settled.place with unbound | ⟨keys, bound⟩
      · exact absurd (unbound.connection.symm.trans connected) nofun
      · have one := (bound.connected fresh connected).prompt
        rw [updateSays, notices_of_attuned attuned value, promptObservers_eq, one]
        by_cases same : value.prompt = console.settings.current.prompt
        · simp [same, prompt, promptNotices]
        · simp [same, prompt, promptNotices, promptNotice, Frame.isNotice]

/-- A connection begins, and its runtime is told the prompt. -/
theorem PromptStep.of_begins (served : console.Served) {free ready : Console}
    (attuned : Attuned free.settings)
    (welcome : Welcome console free ready) (reached : console.apply event = ready.beginCycle) :
    PromptStep console event (console.apply event) := by
  have same : ready.settings = free.settings := welcome.greeting.same .settings (by decide)
  have opened := beginCycle_settings welcome.cycle
  obtain ⟨frames, idle, said⟩ := welcome.saidBy served reached
  have small : ∀ frame ∈ frames, frame.isSmall = true :=
    fun frame member => Frame.isSmall_of_isIdle (idle frame member)
  obtain ⟨connection, connected, place, renewed⟩ := welcome.begun served
  have prompt : (console.apply event).prompt = ready.settings.current.prompt := by
    rw [Console.prompt, reached, opened]
    rfl
  have hears (channel : Nat) : (console.apply event).hears channel = true ↔
      channel = console.channels.length := by
    rw [reached]
    exact welcome.hears_beginCycle channel
  refine ⟨?_, fun channel heard => ?_, fun channel heard => ?_, fun found known => ?_,
    fun channel => ?_⟩
  · rw [reached, opened, same]
    exact attuned.observe
  · exact .inr (Nat.le_of_eq ((hears channel).mp heard).symm)
  · rw [reached, connected]
    exact .inr (.inr renewed)
  · rw [reached, connected, Option.some.injEq] at known
    exact .inr ((hears _).mpr (known ▸ place))
  · rw [said, prompt]
    have deaf : console.hears console.channels.length = false := served.deaf
    by_cases here : channel = console.channels.length
    · subst here
      rw [if_pos rfl, if_pos ⟨(hears _).mpr rfl, fun heard => by simp [deaf] at heard⟩,
        promptNotices, List.filter_append, ← promptNotices, promptNotices_of_small small]
      rfl
    · rw [if_neg here, if_neg fun told => here ((hears channel).mp told.1)]
      rfl

/-- Every event tells the runtime the prompt if it is another, or the runtime a new one. -/
theorem promptStep_apply (fresh : Fresh base) (settled : Settled base console)
    (served : console.Served) (attuned : Attuned console.settings) (event : Event) :
    PromptStep console event (console.apply event) := by
  cases cycleMove_apply fresh settled event with
  | talks frames speech small _ _ step =>
      exact .of_speech attuned speech (step.same .settings (by decide))
        (promptNotices_of_small small)
  | ebbs ebb lasts =>
      refine .quiet attuned (ebb.step.same .settings (by decide))
        (ebb.step.same .connection (by decide)) (fun channel heard => ?_) (lasts served)
        fun channel => by rw [saidBy_of_sublist (ebb.said channel)]; rfl
      obtain ⟨connection, connected, place, accepts⟩ := hears_iff.mp heard
      exact hears_iff.mpr ⟨connection,
        (ebb.step.same .connection (by decide)).symm.trans connected, place,
        ebb.accepts channel accepts⟩
  | sends name args asked =>
      subst asked
      have speech : Says _ console (console.apply (.send name args)) :=
        console.send_speech name args
      exact .quiet attuned ((console.send_changes name args).same .settings (by decide))
        speech.connection (fun channel heard => speech.hears channel ▸ heard)
        (fun channel heard => .inl ((speech.hears channel).trans heard)) fun _ => rfl
  | configures value asked =>
      subst asked
      exact .of_configure fresh settled attuned value
  | reports name asked =>
      subst asked
      obtain ⟨frames, own, speech⟩ := console.reportModule_speech name
      exact .of_speech attuned speech
        ((console.reportModule_changes name).same .settings (by decide))
        (promptNotices_of_module own)
  | fires debouncer asked =>
      subst asked
      obtain ⟨frames, own, speech⟩ := console.fireDebouncer_speech debouncer
      exact .of_speech attuned speech
        ((console.fireDebouncer_changes debouncer).same .settings (by decide))
        (promptNotices_of_module own)
  | ticks time asked =>
      subst asked
      have silence : Says [] console (console.apply (.clock time)) := .of_same rfl rfl rfl
      exact .of_speech attuned silence rfl rfl
  | begins prepared free ready ahead _ freed welcome _ reached =>
      have settings : prepared.settings = console.settings := ahead.same .settings (by decide)
      refine .of_begins served ?_ welcome reached
      rcases freed with ⟨-, rfl⟩ | ⟨keys, parting, -, farewell⟩
      · exact settings ▸ attuned
      · exact farewell.attuned (settings ▸ attuned)
  | ends ready parting keys ebb bound farewell =>
      have settings : ready.settings = console.settings := ebb.step.same .settings (by decide)
      have fewer (channel : Nat) :
          ((console.apply event).said channel).Sublist (console.said channel) := by
        rw [farewell.said]
        exact ebb.said channel
      refine ⟨farewell.attuned (settings ▸ attuned), fun channel heard => ?_,
        fun channel heard => ?_, fun found current => ?_,
        fun channel => ?_⟩
      · rw [hears_of_disconnected farewell.disconnected] at heard
        cases heard
      · obtain ⟨last, held, -, -⟩ := hears_iff.mp heard
        exact .inr (.inr fun same => absurd
          (farewell.disconnected.symm.trans (same.trans held)) nofun)
      · rw [farewell.disconnected] at current
        cases current
      · rw [saidBy_of_sublist (fewer channel), hears_of_disconnected farewell.disconnected]
        simp [promptNotices]

end

/-! ### Runs -/

/-- The prompts there were while a channel heard what is said, moment by moment. -/
def promptsHeard (channel : Nat) (start : Console) (events : List Event) : List String :=
  ((start.moments events).filter (·.hears channel)).map prompt

theorem promptsHeard_concat (channel : Nat) (start : Console) (events : List Event)
    (event : Event) :
    promptsHeard channel start (events ++ [event]) = promptsHeard channel start events ++
      if ((start.run events).apply event).hears channel = true then
        [((start.run events).apply event).prompt]
      else [] := by
  rw [promptsHeard, moments_concat, List.filter_append, List.map_append, List.filter_singleton,
    promptsHeard]
  cases ((start.run events).apply event).hears channel <;> rfl

/-- What there is after a run of which the runtimes heard the prompts. -/
structure Prompted (base start : Console) (events : List Event) : Prop where
  settled : Settled base (start.run events)
  ordered : (start.run events).CallsInOrder
  served : (start.run events).Served
  attuned : Attuned (start.run events).settings
  /-- Channels that are still to come have not heard anything. -/
  behind : ∀ moment ∈ start.moments events, ∀ channel, moment.hears channel = true →
    channel < (start.run events).channels.length
  notices : ∀ channel, promptNotices (start.noted (saidBy channel) events) =
    ((promptsHeard channel start events).destutter (· ≠ ·)).map promptNotice

section

variable {base start : Console} {events : List Event}

/-- The last prompt a channel heard is the one that is in force if it still hears, and a
channel that begins to hear has heard none. -/
theorem Prompted.last_heard (prompted : Prompted base start events) {event : Event}
    (step : PromptStep (start.run events) event ((start.run events).apply event)) {channel : Nat}
    (heard : ((start.run events).apply event).hears channel = true) :
    (promptsHeard channel start events).getLast? = some ((start.run events).apply event).prompt ↔
      (start.run events).hears channel = true ∧
        ((start.run events).apply event).prompt = (start.run events).prompt := by
  cases before : (start.run events).hears channel with
  | true =>
      obtain ⟨earlier, moments⟩ := start.moments_eq events
      rw [promptsHeard, moments, List.filter_append, List.filter_singleton, before]
      simp [eq_comm]
  | false =>
      have beyond := (step.hearing channel heard).resolve_left (by simp [before])
      have unheard : promptsHeard channel start events = [] := by
        rw [promptsHeard, List.map_eq_nil_iff, List.filter_eq_nil_iff]
        exact fun moment member hears => absurd (prompted.behind moment member channel hears)
          (Nat.not_lt.mpr beyond)
      simp [unheard]

theorem Prompted.step (fresh : Fresh base) (prompted : Prompted base start events)
    (event : Event) : Prompted base start (events ++ [event]) := by
  have step := promptStep_apply fresh prompted.settled prompted.served prompted.attuned event
  obtain ⟨settled, ordered⟩ := prompted.settled.step fresh prompted.ordered event
  have onward := (start.run events).apply_onward event
  have served := onward.served prompted.served
  refine ⟨?_, ?_, ?_, ?_, ?_, fun channel => ?_⟩
  · rwa [run_concat]
  · rwa [run_concat]
  · rwa [run_concat]
  · rw [run_concat]
    exact step.attuned
  · rw [run_concat, moments_concat]
    intro moment member channel hears
    rcases List.mem_append.mp member with earlier | now
    · exact Nat.lt_of_lt_of_le (prompted.behind moment earlier channel hears) onward.channels
    · rw [List.mem_singleton.mp now] at hears
      obtain ⟨connection, connected, rfl, -⟩ := hears_iff.mp hears
      exact served.lt connected
  · have last (heard : ((start.run events).apply event).hears channel = true) :=
      prompted.last_heard step heard
    rw [noted_concat, promptNotices, List.filter_append, ← promptNotices, ← promptNotices,
      prompted.notices, step.told, promptsHeard_concat]
    by_cases heard : ((start.run events).apply event).hears channel = true
    · rw [if_pos heard, destutter_concat, List.map_append]
      congr 1
      by_cases same : (start.run events).hears channel = true ∧
          ((start.run events).apply event).prompt = (start.run events).prompt
      · rw [if_neg (fun told => told.2 same), if_pos ((last heard).mpr same)]
        rfl
      · rw [if_pos ⟨heard, same⟩, if_neg (mt (last heard).mp same)]
        rfl
    · rw [if_neg heard, if_neg (fun told => heard told.1), List.append_nil, List.append_nil]

theorem Prompted.run (fresh : Fresh base) (events : List Event) :
    Prompted base base.activateSession events := by
  induction events using List.reverseRecOn with
  | nil =>
      obtain ⟨settled, ordered⟩ := activateSession_settled fresh
      have disconnected : base.activateSession.client.connection = none := fresh.callFree.connection
      refine ⟨settled, ordered, .of_disconnected disconnected, fun observer member listening => ?_,
        fun moment member channel hears => ?_, fun channel => ?_⟩
      · have there : (observer.key, observer.listener) ∈ base.watchers :=
          List.mem_map.mpr ⟨observer, member, rfl⟩
        exact absurd listening (fresh.watchers _ there)
      · rw [moments, noted, List.mem_singleton] at member
        rw [member, hears_of_disconnected disconnected] at hears
        cases hears
      · have unheard : promptsHeard channel base.activateSession [] = [] := by
          simp [promptsHeard, moments, noted, hears_of_disconnected disconnected]
        rw [unheard]
        rfl
  | append_singleton events event inductionHypothesis => exact inductionHypothesis.step fresh event

end

end Console

open Console

/-- Who has been told the prompt in a run. -/
structure PromptNotices (start : Console) (events : List Event) : Prop where
  /-- Over each channel the console tells of its own accord the prompt there is when the
  channel begins to hear, and every prompt that is another than the one before it, in order,
  until the channel hears no more; each of them once. -/
  notices : ∀ channel, promptNotices (start.noted (saidBy channel) events) =
    ((promptsHeard channel start events).destutter (· ≠ ·)).map promptNotice
  /-- An attached runtime that takes its frames has been told the prompt last that is in
  force. -/
  current : (start.run events).session.state = .attached →
    ∃ connection, (start.run events).client.connection = some connection ∧
      ((start.run events).channelAccepts connection.channel = true →
        (promptNotices (start.noted (saidBy connection.channel) events)).getLast? =
          some (promptNotice (start.run events).prompt))
  /-- A connection that begins is heard. -/
  begins : ∀ event connection,
    ((start.run events).apply event).client.connection = some connection →
      (start.run events).client.connection = some connection ∨
        ((start.run events).apply event).hears connection.channel = true
  /-- It is heard as long as it lasts, unless the frames are not taken any more. -/
  lasts : ∀ event channel, (start.run events).hears channel = true →
    ((start.run events).apply event).hears channel = true ∨ event = .stopTaking channel ∨
      ((start.run events).apply event).client.connection ≠ (start.run events).client.connection
  /-- No other connection is heard over the channel of one. -/
  apart : ∀ earlier later, events = earlier ++ later → ∀ first second,
    (start.run earlier).client.connection = some first →
    (start.run events).client.connection = some second →
      first.channel = second.channel → first = second
  /-- Whoever observes the prompt is the session, which will let go of the observer when the
  connection there is ends. -/
  observers : ∀ key, (key, SettingsListener.prompt) ∈ (start.run events).watchers ↔
    Release.settingsObserver key ∈ (start.run events).session.cycle.disposables.actions

/-- The runtime is told the prompt when it connects, and whenever the prompt changes
afterwards, for as long as the connection lasts.  The embedding program leaves connections
alone while it is told of one, and may do anything at any other time. -/
theorem prompt_notices (base : Console) (events : List Event) (fresh : Fresh base) :
    PromptNotices base.activateSession events := by
  have prompted := Prompted.run fresh events
  have step := promptStep_apply fresh prompted.settled prompted.served prompted.attuned
  exact {
    notices := prompted.notices
    current := fun attached => by
      rcases prompted.settled.place with unbound | ⟨keys, bound⟩
      · exact absurd attached unbound.state
      · obtain ⟨connection, -, connected, -⟩ := bound.connection
        refine ⟨connection, connected, fun accepts => ?_⟩
        have hears := hears_iff.mpr ⟨connection, connected, rfl, accepts⟩
        obtain ⟨earlier, moments⟩ := base.activateSession.moments_eq events
        rw [prompted.notices, List.getLast?_map, getLast?_destutter, promptsHeard, moments,
          List.filter_append, List.filter_singleton, hears]
        simp
    begins := fun event => (step event).begins
    lasts := fun event => (step event).lasting
    apart := fun earlier later split first second connected current same => by
      subst split
      rw [run_append] at current
      by_contra different
      have served := (Prompted.run fresh earlier).served
      have past := Past.of_lost_run served connected later fun still =>
        different (Option.some.inj (still.symm.trans current))
      exact past.apart second current same.symm
    observers := fun key => by
      have none (key : Nat) : (key, SettingsListener.prompt) ∉ base.wiring.watchers :=
        fun member => fresh.watchers _ member rfl
      change (key, _) ∈ (base.activateSession.run events).wiring.watchers ↔ _
      rcases prompted.settled.place with unbound | ⟨keys, bound⟩
      · rw [unbound.wiring.watchers, unbound.cycle]
        exact iff_of_false (none key) List.not_mem_nil
      · rw [bound.wiring.watchers, bound.cycle]
        simp [none, CycleKeys.cycle] }

/-- The prompt changes before and during the connections of two runtimes, of which the second
takes the place of the first, and after both. -/
def promptChanges : List Event :=
  let settings := (Console.bare ⟨2, 20⟩).settings.current
  [.configure { settings with prompt := "a>" }, .connect .plain,
    .configure { settings with prompt := "b>" }, .configure { settings with prompt := "b>" },
    .connect .plain, .configure { settings with prompt := "c>" }, .disconnect,
    .configure { settings with prompt := "d>" }]

theorem prompt_notices_replaced :
    Fresh (Console.bare ⟨2, 20⟩) ∧
      PromptNotices (Console.bare ⟨2, 20⟩).activateSession promptChanges ∧
      promptNotices ((Console.bare ⟨2, 20⟩).activateSession.noted (saidBy 0) promptChanges) =
        [promptNotice "a>", promptNotice "b>"] ∧
      promptNotices ((Console.bare ⟨2, 20⟩).activateSession.noted (saidBy 1) promptChanges) =
        [promptNotice "b>", promptNotice "c>"] :=
  ⟨bare_fresh _, prompt_notices _ _ (bare_fresh _), by decide +kernel, by decide +kernel⟩

end RuntimeConsole
