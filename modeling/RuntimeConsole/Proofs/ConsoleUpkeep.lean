/-
Module: RuntimeConsole.Proofs.ConsoleUpkeep
Purpose: What holds of an activated console at every moment: the session agrees with the client,
  those who were registered at its activation still are, the allow-lists are those of the settings
  in force, and the auxiliary terminals are in order.
Main exports:
  Console.ListsAttuned, Console.Upkept, Console.Upkept.step, Console.upkept_reachable
-/
import RuntimeConsole.Proofs.ActivatedConsole
import RuntimeConsole.Proofs.ConsoleMove

namespace RuntimeConsole

/-- The strings of a sequence of strings are those it was made of. -/
theorem Json.strings_stringsToJson (strings : List String) :
    (stringsToJson strings).strings = strings := by
  rw [stringsToJson, Json.strings, List.filterMap_map]
  exact List.filterMap_some

theorem stringsToJson_injective {first second : List String}
    (same : stringsToJson first = stringsToJson second) : first = second := by
  rw [← Json.strings_stringsToJson first, same, Json.strings_stringsToJson]

theorem AllowLists.get_replace (lists : AllowLists) (kind other : TerminalClass)
    (list : AllowList) :
    (lists.replace kind list).get other = if kind = other then list else lists.get other := by
  cases kind <;> cases other <;> rfl

namespace Console

variable {base before after console : Console}

/-! ### Allow-lists -/

/-- The allow-lists are those of the settings in force, and whoever keeps them up to date has
been told so. -/
structure ListsAttuned (console : Console) : Prop where
  lists : ∀ kind,
    console.allowLists.get kind = .ofList (console.settings.current.keystrokes kind)
  told : ∀ observer ∈ console.settings.observers, ∀ kind, observer.listener = .keystrokes kind →
    observer.select = (fun settings => stringsToJson (settings.keystrokes kind)) ∧
      observer.last = stringsToJson (console.settings.current.keystrokes kind)

theorem ListsAttuned.of_settings (attuned : before.ListsAttuned) (settings : after.settings = before.settings)
    (lists : after.allowLists = before.allowLists) : after.ListsAttuned where
  lists := by
    rw [settings, lists]
    exact attuned.lists
  told := by
    rw [settings]
    exact attuned.told

theorem ListsAttuned.of_spares {typed : Nat → List UInt8} (attuned : before.ListsAttuned)
    (spares : Spares typed before after) : after.ListsAttuned where
  lists kind := by
    have lists : after.allowLists = before.allowLists :=
      spares.footprint.same .allowLists (by decide)
    rw [lists, spares.current]
    exact attuned.lists kind
  told observer member kind listens := by
    rw [spares.current]
    rcases spares.observers observer member with old | prompt
    · exact attuned.told observer old kind listens
    · rw [prompt] at listens
      cases listens

/-- Nobody else touches the allow-list of a kind. -/
theorem settingsListenerSees_lists (console : Console) (part : Json) {kind : TerminalClass}
    {listener : SettingsListener} (other : listener ≠ .keystrokes kind) :
    (console.settingsListenerSees part listener).allowLists.get kind =
      console.allowLists.get kind := by
  cases listener with
  | prompt =>
      cases part with
      | str prompt =>
          exact congrArg (fun lists : AllowLists => lists.get kind)
            ((console.send_changes _ _).same .allowLists (by decide))
      | _ => rfl
  | keystrokes kept =>
      change (console.allowLists.replace kept _).get kind = _
      rw [AllowLists.get_replace, if_neg fun same => other (congrArg _ same)]
  | guest label => rfl

/-- Those who are told about settings replace the allow-list of a kind, if one of them keeps
it. -/
theorem foldl_lists (kind : TerminalClass) {list : AllowList}
    {notices : List (SettingsListener × Json)}
    (told : ∀ notice ∈ notices, notice.1 = .keystrokes kind →
      AllowList.ofList notice.2.strings = list) (console : Console)
    (start : console.allowLists.get kind = list ∨
      ∃ notice ∈ notices, notice.1 = .keystrokes kind) :
    (notices.foldl (fun console notice => console.settingsListenerSees notice.2 notice.1)
      console).allowLists.get kind = list := by
  induction notices generalizing console with
  | nil =>
      rcases start with same | ⟨notice, member, -⟩
      · exact same
      · exact absurd member List.not_mem_nil
  | cons notice notices inductionHypothesis =>
      rw [List.foldl_cons]
      refine inductionHypothesis (fun other member => told other (by simp [member])) _ ?_
      by_cases keeps : notice.1 = .keystrokes kind
      · left
        rw [keeps]
        change (console.allowLists.replace kind _).get kind = list
        rw [AllowLists.get_replace, if_pos rfl]
        exact told notice (by simp) keeps
      · have same := console.settingsListenerSees_lists notice.2 keeps
        rcases start with already | ⟨later, member, listens⟩
        · exact .inl (same.trans already)
        · refine .inr ⟨later, (List.mem_cons.mp member).resolve_left ?_, listens⟩
          rintro rfl
          exact keeps listens

/-- Whoever keeps an allow-list up to date puts there what the settings say, and has been told
what they say now. -/
def KeystrokesTold (settings : Store Settings Json SettingsListener) : Prop :=
  ∀ observer ∈ settings.observers, ∀ kind, observer.listener = .keystrokes kind →
    observer.select = (fun settings => stringsToJson (settings.keystrokes kind)) ∧
      observer.last = stringsToJson (settings.current.keystrokes kind)

theorem KeystrokesTold.update {store : Store Settings Json SettingsListener}
    (told : KeystrokesTold store) (settings : Settings) :
    KeystrokesTold (store.update settings).1 := by
  intro observer member kind listens
  obtain ⟨old, known, rfl⟩ := List.mem_map.mp member
  rw [Observer.see_eq] at listens ⊢
  have select := (told old known kind listens).1
  exact ⟨select, congrFun select settings⟩

/-- An allow-list that somebody keeps up to date is replaced with the settings. -/
theorem updateSettings_list {kind : TerminalClass} (told : KeystrokesTold console.settings)
    (kept : ∃ observer ∈ console.settings.observers, observer.listener = .keystrokes kind)
    (list : console.allowLists.get kind = .ofList (console.settings.current.keystrokes kind))
    (settings : Settings) :
    (console.updateSettings settings).allowLists.get kind =
      .ofList (settings.keystrokes kind) := by
  refine foldl_lists kind (fun notice member listens => ?_) _ ?_
  · obtain ⟨observer, known, noticed⟩ := List.mem_filterMap.mp member
    rw [Store.notice?_eq] at noticed
    split at noticed
    next => cases noticed
    next =>
        obtain rfl := Option.some.inj noticed
        rw [(told observer known kind listens).1, Json.strings_stringsToJson]
  · obtain ⟨observer, known, listens⟩ := kept
    obtain ⟨select, last⟩ := told observer known kind listens
    by_cases same : observer.select settings = observer.last
    · left
      rw [select, last] at same
      exact list.trans (congrArg AllowList.ofList (stringsToJson_injective same).symm)
    · refine .inr ⟨(observer.listener, observer.select settings),
        List.mem_filterMap.mpr ⟨observer, known, ?_⟩, listens⟩
      rw [Store.notice?_eq, if_neg same]

/-- The settings are replaced, and the allow-lists with them. -/
theorem ListsAttuned.updateSettings (attuned : console.ListsAttuned)
    (kept : ∀ kind, ∃ observer ∈ console.settings.observers, observer.listener = .keystrokes kind)
    (settings : Settings) :
    (console.updateSettings settings).ListsAttuned ∧
      (console.updateSettings settings).settings.current = settings := by
  have store := console.updateSettings_store settings
  have told : KeystrokesTold console.settings := attuned.told
  refine ⟨⟨fun kind => ?_, ?_⟩, by rw [store]; rfl⟩
  · rw [store]
    exact updateSettings_list told (kept kind) (attuned.lists kind) settings
  · rw [store]
    exact told.update settings

/-! ### Registrations -/

/-- Who was registered when the session was activated and is to stay until it is
deactivated. -/
structure Enrolled (base console : Console) : Prop where
  observers : console.look .observers = base.look .observers
  keyboard : console.look .keyboard = base.look .keyboard
  subscriptions : console.subscriptions = base.subscriptions
  held : console.session.subscriptions = base.session.subscriptions

theorem Enrolled.of_changes {aspects : List Aspect} (enrolled : Enrolled base before)
    (step : Changes aspects before after)
    (apart : [.observers, .keyboard, .subscriptions].all (· ∉ aspects) = true)
    (held : after.session.subscriptions = before.session.subscriptions) :
    Enrolled base after where
  observers := (step.kept apart .observers (by decide)).trans enrolled.observers
  keyboard := (step.kept apart .keyboard (by decide)).trans enrolled.keyboard
  subscriptions := (step.kept apart .subscriptions (by decide)).trans enrolled.subscriptions
  held := held.trans enrolled.held

theorem Enrolled.of_session {aspects : List Aspect} (enrolled : Enrolled base before)
    (step : Changes aspects before after)
    (apart : [.observers, .keyboard, .subscriptions, .session].all (· ∉ aspects) = true) :
    Enrolled base after :=
  enrolled.of_changes step (apart_mono apart (by decide))
    (congrArg Session.subscriptions (step.kept apart .session (by decide)))

/-! ### Numbers -/

theorem CallStep.numbered {event : Event} (step : CallStep before event after)
    (numbered : before.ConnectionNumbered) : after.ConnectionNumbered := by
  have still (connection : after.client.connection = before.client.connection) :
      after.ConnectionNumbered := fun found known =>
    Nat.lt_of_lt_of_le (numbered found (connection ▸ known)) step.nextId
  cases step with
  | kept _ _ kept _ => exact still kept.connection
  | placed call _ placed => exact still placed.connection
  | answered _ _ _ _ _ _ same => exact still same
  | reset _ same => exact still same
  | cut _ cut => exact cut.numbered numbered
  | passedOn _ _ _ _ _ same => exact still same

/-- Work that is done gives numbers away and takes none back. -/
theorem runTask_nextId (console : Console) (task : Task) :
    console.client.nextId ≤ (console.runTask task).client.nextId := by
  have same {aspects : List Aspect} {after : Console} (step : Changes aspects console after)
      (apart : Aspect.nextId ∉ aspects) : console.client.nextId ≤ after.client.nextId :=
    Nat.le_of_eq (step.same .nextId apart).symm
  cases task with
  | validate resolver row generation link =>
      rcases console.call_keptOrPlaced "validatepath" [.str link.text]
        (.validation resolver row generation link) with kept | placed
      · exact kept.nextId
      · exact placed.nextId ▸ Nat.le_succ _
  | resume call answer => exact same (console.deliver_changes answer call.waiter) (by decide)
  | chosen errand choice => exact same (console.resumeErrand_changes choice errand) (by decide)

/-! ### Events that concern neither the runtime nor the settings -/

/-- What can be changed by something that happens besides events of the runtime. -/
def besideAspects : List Aspect :=
  [.nextId, .handlers, .pending, .channels, .answers, .display, .scanned, .selection, .resolvers,
    .streams, .shells, .host, .tasks, .trace]

theorem resumeTask_changes (console : Console) (place : Nat) :
    Changes besideAspects console (console.resumeTask place) := by
  unfold resumeTask
  split
  next => exact .refl _ console
  next task _ =>
      have taken : Changes besideAspects console
          { console with tasks := console.tasks.eraseIdx place } := by
        refine ⟨fun aspect outside => ?_⟩
        cases aspect <;> first | rfl | exact absurd (by decide) outside
      exact taken.trans ((runTask_changes _ task).mono (by decide))

/-- What happens besides events of the runtime leaves the session alone. -/
theorem undergo_beside {shells : List Nat} (housed : Housed shells console) {event : ConsoleEvent}
    (beside : ∀ own, event ≠ .event own) :
    Changes besideAspects console (console.undergo event) ∧
      console.client.nextId ≤ (console.undergo event).client.nextId := by
  have same {aspects : List Aspect} {after : Console} (step : Changes aspects console after)
      (within : aspects ⊆ besideAspects) (apart : Aspect.nextId ∉ aspects) :
      Changes besideAspects console after ∧
        console.client.nextId ≤ after.client.nextId :=
    ⟨step.mono within, Nat.le_of_eq (step.same .nextId apart).symm⟩
  cases event with
  | event own => exact absurd rfl (beside own)
  | shell event =>
      cases event with
      | opens ticket byCommand =>
          exact same (console.newTerminal_changes ticket byCommand) (by decide) (by decide)
      | restores ticket items =>
          exact same (console.restoreFrom_changes ticket 0 items) (by decide) (by decide)
      | answers question choice =>
          exact same (console.answerQuestion_changes question choice) (by decide) (by decide)
      | resumes place =>
          refine ⟨console.resumeTask_changes place, ?_⟩
          change _ ≤ (console.resumeTask place).client.nextId
          unfold resumeTask
          split
          next => exact Nat.le_refl _
          next task _ =>
              exact runTask_nextId { console with tasks := console.tasks.eraseIdx place } task
      | closes id => exact same (console.closeTerminal_changes id) (by decide) (by decide)
      | turns refusal faults =>
          have turned : Changes [.host] console (console.undergo (.shell (.turns refusal faults))) := by
            refine ⟨fun aspect outside => ?_⟩
            cases aspect <;> first | rfl | exact absurd (by decide) outside
          exact same turned (by decide) (by decide)
  | execute ticket command =>
      cases command with
      | openConsole =>
          have shown : Changes tendedAspects console (console.setOpen true) := by
            refine ⟨fun aspect outside => ?_⟩
            cases aspect <;> rfl
          exact same (shown.trans ((finish_changes _ ticket _).mono (by decide))) (by decide)
            (by decide)
      | clearConsole =>
          have cleared : Changes tendedAspects console console.clear :=
            console.clear_changes.mono (by decide)
          exact same (cleared.trans ((finish_changes _ ticket _).mono (by decide))) (by decide)
            (by decide)
      | copyOrInterrupt => exact same (console.finish_changes ticket _) (by decide) (by decide)
      | newTerminal =>
          exact same (console.newTerminal_changes ticket true) (by decide) (by decide)
  | pressIn id key => exact same (pressIn_changes housed id key) (by decide) (by decide)
  | pumpAll =>
      have pumped : Changes tendedAspects console console.pump.1 :=
        console.pump_changes.mono (by decide)
      have drawn := console.pump.1.pumpShells_pumped.footprint
      exact same (pumped.trans (drawn.mono (by decide))) (by decide) (by decide)
  | serves name label sends reply =>
      exact ⟨(console.handleRequests_changes name _).mono (by decide), Nat.le_succ _⟩

/-! ### Upkeep -/

/-- What holds of a console at every moment after it was activated as the parts say: its session
agrees with the client, those who were enrolled still are, its allow-lists are attuned to the
settings, and its auxiliary terminals are in order. -/
structure Upkept (parts : ConsoleParts) (shells : List Nat) (console : Console) : Prop where
  settled : Settled (furnished parts) console
  numbered : console.ConnectionNumbered
  enrolled : Enrolled (wired parts) console
  attuned : console.ListsAttuned
  housed : Housed shells console

theorem Settled.holdsFollowers (settled : Settled base console) : console.HoldsFollowers := by
  rcases settled.place with unbound | ⟨keys, bound⟩
  · exact holdsFollowers_of_empty unbound.cycle
  · exact holdsFollowers_of_keys bound.cycle

/-- Those who followed the settings before the session was activated still do. -/
theorem Settled.watches (settled : Settled base console) {entry : Nat × SettingsListener}
    (member : entry ∈ base.watchers) : entry ∈ console.watchers := by
  rcases settled.place with unbound | ⟨keys, bound⟩
  · have watchers : console.watchers = base.watchers := unbound.wiring.watchers
    exact watchers ▸ member
  · have watchers : console.watchers = base.watchers ++ [(keys.prompt, .prompt)] :=
      bound.wiring.watchers
    rw [watchers]
    exact List.mem_append_left _ member

section

variable {parts : ConsoleParts} {shells : List Nat}

/-- Somebody keeps each allow-list up to date. -/
theorem Upkept.follows (upkept : Upkept parts shells console) (kind : TerminalClass) :
    ∃ observer ∈ console.settings.observers, observer.listener = .keystrokes kind := by
  obtain ⟨entry, known, listens⟩ : ∃ entry ∈ (furnished parts).watchers,
      entry.2 = .keystrokes kind := by
    rw [(furnished_watchers parts).1]
    cases kind <;> simp
  obtain ⟨observer, member, rfl⟩ := List.mem_map.mp (upkept.settled.watches known)
  exact ⟨observer, member, listens⟩

theorem Settled.numbered_step (fresh : Fresh base) (settled : Settled base console)
    (numbered : console.ConnectionNumbered) (event : Event) :
    Settled base (console.apply event) ∧ (console.apply event).ConnectionNumbered := by
  obtain ⟨_, followed, -⟩ := apply_followed fresh settled numbered event
  have ran := followed.settled.steady.overrun
  exact ⟨followed.settled, (console.callStep_apply event ran).numbered numbered⟩

theorem Upkept.settled_step (upkept : Upkept parts shells console) (event : ConsoleEvent) :
    Settled (furnished parts) (console.undergo event) ∧
      (console.undergo event).ConnectionNumbered := by
  by_cases own : ∃ event', event = .event event'
  · obtain ⟨event, rfl⟩ := own
    exact upkept.settled.numbered_step (furnished_fresh parts) upkept.numbered event
  · obtain ⟨step, grown⟩ := undergo_beside upkept.housed fun event' same => own ⟨event', same⟩
    refine ⟨upkept.settled.of_changes step (by decide), fun connection known => ?_⟩
    have connected : (console.undergo event).client.connection = console.client.connection :=
      step.same .connection (by decide)
    exact Nat.lt_of_lt_of_le (upkept.numbered connection (connected ▸ known)) grown

theorem Upkept.step (upkept : Upkept parts shells console) (event : ConsoleEvent) :
    Upkept parts (shells ++ console.shellsStarted event) (console.undergo event) := by
  have followers := upkept.settled.holdsFollowers
  obtain ⟨settled, numbered⟩ := upkept.settled_step event
  have housed := upkept.housed.step followers event
  refine ⟨settled, numbered, ?_, ?_, housed⟩
  · cases consoleMove_undergo followers upkept.housed event with
    | spares spares _ => exact upkept.enrolled.of_changes spares.footprint (by decide) spares.held
    | proceeds ready taken _ _ step _ _ =>
        exact (upkept.enrolled.of_changes taken.footprint (by decide) taken.held).of_session step
          (by decide)
    | configures settings asked =>
        subst asked
        exact upkept.enrolled.of_session (console.updateSettings_changes settings) (by decide)
    | tends step _ _ _ _ => exact upkept.enrolled.of_session step (by decide)
    | serves name label sends reply asked =>
        subst asked
        exact upkept.enrolled.of_session (console.handleRequests_changes name _) (by decide)
  · cases consoleMove_undergo followers upkept.housed event with
    | spares spares _ => exact upkept.attuned.of_spares spares
    | proceeds ready taken _ _ step _ _ =>
        exact (upkept.attuned.of_spares taken).of_settings (step.same .settings (by decide))
          (step.same .allowLists (by decide))
    | configures settings asked =>
        subst asked
        exact (upkept.attuned.updateSettings upkept.follows settings).1
    | tends step _ _ _ _ =>
        exact upkept.attuned.of_settings (step.same .settings (by decide))
          (step.same .allowLists (by decide))
    | serves name label sends reply asked =>
        subst asked
        have step := console.handleRequests_changes name (.guest label sends reply)
        exact upkept.attuned.of_settings (step.same .settings (by decide))
          (step.same .allowLists (by decide))

theorem Upkept.run (upkept : Upkept parts shells console) (events : List ConsoleEvent) :
    Upkept parts (shells ++ console.recorded shellsStarted events)
      (console.undergoAll events) := by
  induction events using List.reverseRecOn with
  | nil => simpa [recorded, undergoAll] using upkept
  | append_singleton events event inductionHypothesis =>
      rw [undergoAll_concat, recorded_concat, ← List.append_assoc]
      exact inductionHypothesis.step event

end

/-! ### Activation -/

theorem wired_attuned (parts : ConsoleParts) : (wired parts).ListsAttuned := by
  have settings : (wired parts).settings = (unserved parts).settings :=
    furnished_look parts .settings (by decide)
  have lists : (wired parts).allowLists = (unserved parts).allowLists :=
    furnished_look parts .allowLists (by decide)
  refine ListsAttuned.of_settings ⟨fun kind => ?_, fun observer member kind listens => ?_⟩ settings lists
  · have strings (keystrokes : List String) :
        AllowList.ofList (stringsToJson keystrokes).strings = .ofList keystrokes := by
      rw [Json.strings_stringsToJson]
    cases kind
    · exact strings parts.settings.replKeystrokes
    · exact strings parts.settings.auxiliaryKeystrokes
  · have observers : (unserved parts).settings.observers =
        [⟨0, fun settings => stringsToJson (settings.keystrokes .repl),
            stringsToJson parts.settings.replKeystrokes, .keystrokes .repl⟩,
          ⟨1, fun settings => stringsToJson (settings.keystrokes .auxiliary),
            stringsToJson parts.settings.auxiliaryKeystrokes, .keystrokes .auxiliary⟩] := rfl
    rw [observers, List.mem_pair] at member
    rcases member with rfl | rfl
    · obtain rfl : TerminalClass.repl = kind := SettingsListener.keystrokes.inj listens
      exact ⟨rfl, rfl⟩
    · obtain rfl : TerminalClass.auxiliary = kind := SettingsListener.keystrokes.inj listens
      exact ⟨rfl, rfl⟩

/-- Before terminals of an earlier time are restored everything is as it should be. -/
theorem wired_upkept (parts : ConsoleParts) : Upkept parts [] (wired parts) := by
  obtain ⟨settled, ordered⟩ := activateSession_settled (furnished_fresh parts)
  have noShells := wired_noShells parts
  have empty (aux : AuxiliaryTerminal) : aux ∉ (wired parts).registry.terminals := by
    rw [noShells.registry]
    exact List.not_mem_nil
  exact {
    settled := settled
    numbered := ordered.connection
    enrolled := ⟨rfl, rfl, rfl, rfl⟩
    attuned := wired_attuned parts
    housed := {
      ids := by
        rw [noShells.registry]
        exact .nil
      lodged := fun aux member => absurd member (empty aux)
      started := fun shell member => (List.not_mem_nil member).elim
      ended := fun shell member => (List.not_mem_nil member).elim
      attended := by
        rw [Attended, noShells.waiting]
        exact fun errand member => (List.not_mem_nil member).elim } }

/-- The terminals of an earlier time are restored like any others. -/
theorem activate?_undergoAll {parts : ConsoleParts} {start : Console}
    (activated : activate? parts = some start) :
    start = (wired parts).undergoAll ((openingEvents parts).map .shell) := by
  rw [activate?_eq activated, runShells, undergoAll, List.foldl_map]
  rfl

/-- The streams there are when a console has been activated are those of shells. -/
theorem activated_upkept {parts : ConsoleParts} {start : Console}
    (activated : activate? parts = some start) :
    Upkept parts (List.range start.streams.length) start := by
  have run := (wired_upkept parts).run ((openingEvents parts).map .shell)
  rw [← activate?_undergoAll activated, List.nil_append] at run
  have started : (wired parts).recorded shellsStarted ((openingEvents parts).map .shell) =
      List.range start.streams.length := by
    have reached := activate?_undergoAll activated
    unfold openingEvents at reached ⊢
    split at reached
    next none =>
        rw [if_pos none, reached]
        change [] = List.range (wired parts).streams.length
        rw [wired_streams]
        rfl
    next some =>
        rw [if_neg some, reached, List.range_eq_range']
        change List.range' (wired parts).streams.length
          (_ - (wired parts).streams.length) ++ [] = _
        rw [wired_streams, List.append_nil]
        rfl
  exact started ▸ run

/-- Whatever happens to an activated console, everything stays as it should be. -/
theorem upkept_reachable {parts : ConsoleParts} {start : Console}
    (activated : activate? parts = some start) (events : List ConsoleEvent) :
    Upkept parts (List.range start.streams.length ++ start.recorded shellsStarted events)
      (start.undergoAll events) :=
  (activated_upkept activated).run events

end Console

end RuntimeConsole
