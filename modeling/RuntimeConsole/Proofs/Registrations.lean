/-
Module: RuntimeConsole.Proofs.Registrations
Purpose: Everything an activated console is registered for is owned by one of its lists of
  releases, whatever has happened to it, and a list that is disposed of leaves nothing it owns.
Main exports:
  Console.Registered, Console.registered_dispose, Console.Owned, Console.owned_reachable
-/
import RuntimeConsole.Proofs.ConsoleUpkeep
import RuntimeConsole.Proofs.ReportCourse

namespace RuntimeConsole

/-- Whether requests are handled by code of the embedding program. -/
def Handler.isGuest : Handler → Bool
  | .guest .. => true
  | _ => false

/-- Where it shows what a release has ended. -/
def Release.place : Release → Aspect
  | .clientObserver _ => .observers
  | .handler _ _ => .handlers
  | .startHandler => .keyboard
  | .settingsObserver _ => .watchers
  | .lineListener _ => .listeners
  | .resolver _ => .living
  | .moduleListener _ => .moduleListeners
  | .debouncer _ => .debouncers

namespace Console

/-- Whether a console is registered for something that a release would end.  Handlers of the
embedding program are no registrations of the console. -/
def Registered (console : Console) : Release → Prop
  | .clientObserver id =>
      id ∈ console.client.bootObservers.map Prod.fst ++ console.client.detachObservers.map Prod.fst
  | .handler name id =>
      ∃ handler, (name, id, handler) ∈ console.client.handlers ∧ handler.isGuest = false
  | .startHandler => console.terminal.startHandler ≠ none
  | .settingsObserver key => key ∈ console.watchers.map Prod.fst
  | .lineListener key => key ∈ console.terminal.listeners.map Prod.fst
  | .resolver id => (console.resolvers.map Resolver.alive)[id]? = some true
  | .moduleListener key => key ∈ console.modules.listeners.map Prod.fst
  | .debouncer id => console.reportAt? id ≠ none

section

variable {before after console : Console} {aspects : List Aspect} {released other : Release}

theorem registered_of_changes (step : Changes aspects before after)
    (apart : released.place ∉ aspects) : after.Registered released ↔ before.Registered released := by
  have same := step.same _ apart
  cases released <;> simp only [Release.place, look, Prod.mk.injEq] at same
  case clientObserver => rw [Registered, Registered, same.1, same.2]
  case handler => rw [Registered, Registered, same]
  case startHandler => rw [Registered, Registered, same.2]
  case settingsObserver => rw [Registered, Registered, same.1]
  case lineListener => rw [Registered, Registered, same.1]
  case resolver => rw [Registered, Registered, same]
  case moduleListener => rw [Registered, Registered, same.1]
  case debouncer => rw [Registered, Registered, reportAt?_of_debouncers same]

/-! ### Releases -/

theorem mem_keys_of_filter {Item : Type} {entries : List (Nat × Item)} {key other : Nat}
    (left : other ∈ (entries.filter fun entry => entry.1 != key).map Prod.fst) :
    other ∈ entries.map Prod.fst ∧ other ≠ key := by
  obtain ⟨entry, member, rfl⟩ := List.mem_map.mp left
  obtain ⟨known, different⟩ := List.mem_filter.mp member
  exact ⟨List.mem_map_of_mem known, by simpa using different⟩

/-- What is registered after a release was registered before, and is something else. -/
theorem registered_release (left : (console.release released).Registered other) :
    console.Registered other ∧ other ≠ released := by
  by_cases apart : other.place ∉ released.aspects
  · refine ⟨(registered_of_changes (console.release_changes released) apart).mp left, ?_⟩
    rintro rfl
    cases other <;> simp [Release.place, Release.aspects] at apart
  -- What shows in the same place is of the same kind.
  have elsewhere {Whatever : Prop} (none : other.place ∉ released.aspects) : Whatever :=
    absurd none apart
  cases released with
  | clientObserver id =>
      cases other with
      | clientObserver otherId =>
          rcases List.mem_append.mp left with boot | detach
          · obtain ⟨known, different⟩ := mem_keys_of_filter boot
            exact ⟨List.mem_append_left _ known, by simpa using different⟩
          · obtain ⟨known, different⟩ := mem_keys_of_filter detach
            exact ⟨List.mem_append_right _ known, by simpa using different⟩
      | _ => exact elsewhere (by simp [Release.place, Release.aspects])
  | handler name id =>
      cases other with
      | handler otherName otherId =>
          obtain ⟨handler, member, own⟩ := left
          obtain ⟨known, different⟩ := List.mem_filter.mp member
          refine ⟨⟨handler, known, own⟩, ?_⟩
          rintro ⟨⟩
          simp at different
      | _ => exact elsewhere (by simp [Release.place, Release.aspects])
  | startHandler =>
      cases other with
      | startHandler => exact absurd rfl left
      | _ => exact elsewhere (by simp [Release.place, Release.aspects])
  | settingsObserver key =>
      cases other with
      | settingsObserver otherKey =>
          have watchers : (console.release (.settingsObserver key)).watchers =
              console.watchers.filter fun entry => entry.1 != key :=
            congrArg Wiring.watchers (console.release_settingsObserver_wiring key)
          rw [Registered, watchers] at left
          obtain ⟨known, different⟩ := mem_keys_of_filter left
          exact ⟨known, by simpa using different⟩
      | _ => exact elsewhere (by simp [Release.place, Release.aspects])
  | lineListener key =>
      cases other with
      | lineListener otherKey =>
          obtain ⟨known, different⟩ := mem_keys_of_filter left
          exact ⟨known, by simpa using different⟩
      | _ => exact elsewhere (by simp [Release.place, Release.aspects])
  | resolver id =>
      cases other with
      | resolver otherId =>
          have living : (console.release (.resolver id)).resolvers.map Resolver.alive =
              (console.resolvers.map Resolver.alive).set id false :=
            congrArg Wiring.living (console.release_resolver_wiring id)
          rw [Registered, living, List.getElem?_set] at left
          split at left
          · split at left <;> simp at left
          next different => exact ⟨left, by simpa using Ne.symm different⟩
      | _ => exact elsewhere (by simp [Release.place, Release.aspects])
  | moduleListener key =>
      cases other with
      | moduleListener otherKey =>
          obtain ⟨known, different⟩ := mem_keys_of_filter left
          exact ⟨known, by simpa using different⟩
      | _ => exact elsewhere (by simp [Release.place, Release.aspects])
  | debouncer id =>
      cases other with
      | debouncer otherId =>
          change (console.cancelDebounced id).reportAt? otherId ≠ none at left
          rw [cancelDebounced_reportAt?] at left
          split at left
          · exact absurd rfl left
          next different => exact ⟨left, by simpa using different⟩
      | _ => exact elsewhere (by simp [Release.place, Release.aspects])

/-- A list that is disposed of leaves nothing it owns, and adds nothing. -/
theorem registered_dispose {list : Disposables Release}
    (left : (console.dispose list).Registered other) :
    console.Registered other ∧ other ∉ list.actions := by
  have ordered : other ∉ list.actions ↔ other ∉ list.releaseOrder := by
    rw [Disposables.releaseOrder, List.mem_reverse]
  rw [ordered]
  unfold dispose at left
  generalize list.releaseOrder = actions at left ⊢
  induction actions generalizing console with
  | nil => exact ⟨left, List.not_mem_nil⟩
  | cons released rest inductionHypothesis =>
      obtain ⟨still, elsewhere⟩ := inductionHypothesis left
      obtain ⟨known, different⟩ := registered_release still
      exact ⟨known, by simp [different, elsewhere]⟩

end

/-! ### Handlers -/

/-- Every handler is the embedding program's, or one of the console's lists holds its release. -/
def HandlersOwned (console : Console) : Prop :=
  ∀ entry ∈ console.client.handlers, entry.2.2.isGuest = true ∨
    .handler entry.1 entry.2.1 ∈ console.subscriptions.actions

theorem mem_of_setHandler {name : String} {new : Nat × Handler}
    {entries : List (String × Nat × Handler)} {entry : String × Nat × Handler}
    (member : entry ∈ Client.setHandler name new entries) :
    entry = (name, new) ∨ entry ∈ entries := by
  induction entries with
  | nil => exact .inl (List.mem_singleton.mp member)
  | cons first rest inductionHypothesis =>
      rw [Client.setHandler] at member
      split at member
      · rcases List.mem_cons.mp member with same | old
        · exact .inl same
        · exact .inr (List.mem_cons_of_mem _ old)
      · rcases List.mem_cons.mp member with same | later
        · exact .inr (same ▸ List.mem_cons_self)
        · exact (inductionHypothesis later).imp_right (List.mem_cons_of_mem _)

section

variable {before after console : Console} {aspects : List Aspect}

theorem HandlersOwned.of_same (owned : before.HandlersOwned)
    (handlers : after.client.handlers = before.client.handlers)
    (subscriptions : after.subscriptions = before.subscriptions) : after.HandlersOwned := by
  rw [HandlersOwned, handlers, subscriptions]
  exact owned

/-- The release of a handler of the console's own is kept. -/
theorem HandlersOwned.serve (owned : console.HandlersOwned) (name : String) (handler : Handler) :
    (console.serve name handler).HandlersOwned := by
  intro entry member
  change _ ∨ _ ∈ console.subscriptions.actions ++ [.handler name console.client.nextId]
  rcases mem_of_setHandler member with rfl | old
  · exact .inr (by simp)
  · exact (owned entry old).imp_right (List.mem_append_left _)

theorem HandlersOwned.serveAll (owned : console.HandlersOwned) (handlers : List (String × Handler)) :
    (console.serveAll handlers).HandlersOwned := by
  unfold Console.serveAll
  induction handlers generalizing console with
  | nil => exact owned
  | cons entry handlers inductionHypothesis =>
      exact inductionHypothesis (owned.serve entry.1 entry.2)

/-- A handler of the embedding program may come in the place of any other. -/
theorem HandlersOwned.handleRequests (owned : console.HandlersOwned) (name : String) {handler : Handler}
    (guest : handler.isGuest = true) : (console.handleRequests name handler).1.HandlersOwned := by
  intro entry member
  rcases mem_of_setHandler member with rfl | old
  · exact .inl guest
  · exact owned entry old

end

theorem wired_handlersOwned (parts : ConsoleParts) : (wired parts).HandlersOwned := by
  have unserved : (unserved parts).HandlersOwned := fun entry member => (List.not_mem_nil member).elim
  have furnished : (furnished parts).HandlersOwned := by
    rw [furnished_eq]
    exact unserved.serveAll _
  exact furnished.of_same rfl rfl

/-! ### Reports that are put off -/

section

variable {base console : Console} {event : Event}

/-- A debouncer puts nothing off but in its own place. -/
theorem debounce_reportAt? (console : Console) {id other : Nat} (different : other ≠ id)
    (action : DebouncedAction) :
    (console.debounce id action).reportAt? other = console.reportAt? other := by
  unfold debounce
  split
  next => rfl
  next debouncer _ =>
      have put (debouncer : Debouncer DebouncedAction) :
          ({ console with debouncers := console.debouncers.set id debouncer }).reportAt? other =
            console.reportAt? other := by
        rw [reportAt?, List.getElem?_set_ne different.symm, reportAt?]
      generalize debouncer.call console.now action = called
      obtain ⟨asked, immediate⟩ := called
      cases immediate with
      | none => exact put asked
      | some action =>
          refine .trans (reportAt?_of_debouncers ?_ other) (put asked)
          exact (runDebounced_changes _ action).same .debouncers (by decide)

/-- A report that waits in a debouncer nobody uses stays as it is when another comes. -/
theorem reportModule_reportAt? (name : String) {id : Nat}
    (unused : ∀ entry ∈ console.modules.listeners, entry.2 ≠ .runtime id) :
    (console.reportModule name).reportAt? id = console.reportAt? id := by
  have folded : ∀ (entries : List (Nat × ModuleListener)) (reached : Console),
      (∀ entry ∈ entries, entry.2 ≠ .runtime id) →
        ((entries.map Prod.snd).foldl (fun console listener =>
          console.moduleListenerSees name listener) reached).reportAt? id =
          reached.reportAt? id := by
    intro entries
    induction entries with
    | nil => exact fun _ _ => rfl
    | cons entry entries inductionHypothesis =>
        intro reached others
        rw [List.map_cons, List.foldl_cons,
          inductionHypothesis _ fun other member => others other (by simp [member])]
        have other := others entry (by simp)
        obtain ⟨key, listener⟩ := entry
        cases listener with
        | guest label => rfl
        | runtime own =>
            refine debounce_reportAt? reached (fun same => other ?_) .reportModule
            rw [same]
  rw [reportModule_eq]
  exact folded _ _ unused

/-- Who passes reports on does so through the debouncer the session holds. -/
theorem Settled.timer_of_runtime (fresh : Fresh base) (settled : Settled base console)
    {entry : Nat × ModuleListener} (member : entry ∈ console.modules.listeners) {id : Nat}
    (passes : entry.2 = .runtime id) : console.session.cycle.timer? = some id := by
  have guest (known : entry ∈ base.modules.listeners) : False := by
    obtain ⟨label, same⟩ := fresh.moduleListeners entry known
    rw [passes] at same
    cases same
  rcases settled.place with unbound | ⟨keys, bound⟩
  · have listeners : console.modules.listeners = base.modules.listeners :=
      unbound.wiring.moduleListeners
    exact (guest (listeners ▸ member)).elim
  · have listeners : console.modules.listeners =
        base.modules.listeners ++ [(keys.modules, .runtime keys.debouncer)] :=
      bound.wiring.moduleListeners
    rw [listeners] at member
    rcases List.mem_append.mp member with old | new
    · exact (guest old).elim
    · rw [List.mem_singleton.mp new] at passes
      obtain rfl := ModuleListener.runtime.inj passes
      rw [bound.cycle, CycleKeys.timer?]

/-- Whatever happens to a settled console, reports wait in no debouncer but the one the session
holds, whether there is a clock or not. -/
theorem Punctual.step (fresh : Fresh base) (settled : Settled base console)
    (punctual : console.Punctual) (event : Event) : (console.apply event).Punctual := by
  cases cycleMove_apply fresh settled event with
  | talks frames _ _ _ cycle step => exact punctual.of_same (step.same .debouncers (by decide)) cycle
  | ebbs ebb _ =>
      exact punctual.of_same (ebb.step.same .debouncers (by decide))
        (congrArg Session.cycle (ebb.step.same .session (by decide)))
  | sends name args asked =>
      subst asked
      have step := console.send_changes name args
      exact punctual.of_same (step.same .debouncers (by decide))
        (congrArg Session.cycle (step.same .session (by decide)))
  | configures settings asked =>
      subst asked
      have step := console.updateSettings_changes settings
      exact punctual.of_same (step.same .debouncers (by decide))
        (congrArg Session.cycle (step.same .session (by decide)))
  | reports name asked =>
      subst asked
      have session : (console.reportModule name).session = console.session :=
        (console.reportModule_changes name).same .session (by decide)
      intro id due waits
      change (console.reportModule name).session.cycle.timer? = some id
      rw [session]
      by_cases used : ∃ entry ∈ console.modules.listeners, entry.2 = .runtime id
      · obtain ⟨entry, member, passes⟩ := used
        exact settled.timer_of_runtime fresh member passes
      · have unused : ∀ entry ∈ console.modules.listeners, entry.2 ≠ .runtime id :=
          fun entry member passes => used ⟨entry, member, passes⟩
        exact punctual id due ((reportModule_reportAt? name unused).symm.trans waits)
  | fires debouncer asked =>
      subst asked
      change (console.fireDebouncer debouncer).Punctual
      have session : (console.fireDebouncer debouncer).session =
          (console.cancelDebounced debouncer).session :=
        ((console.fireDebouncer_changes debouncer).same .session (by decide)).trans
          ((console.cancelDebounced_changes debouncer).same .session (by decide)).symm
      cases waits : (console.debouncers[debouncer]?).bind Debouncer.waiting with
      | none =>
          rw [fireDebouncer, waits]
          exact punctual
      | some entry =>
          by_cases late : entry.1 ≤ console.now
          · exact (punctual.cancelDebounced debouncer).of_same
              (fireDebouncer_of_late waits late).2 (congrArg Session.cycle session)
          · have same : console.fireDebouncer debouncer = console := by
              rw [fireDebouncer, waits]
              exact if_neg late
            rw [same]
            exact punctual
  | ticks time asked =>
      subst asked
      exact punctual.of_same rfl rfl
  | begins prepared free ready ahead cycle freed welcome _ reached =>
      have free := reportAt?_of_freed
        (punctual.of_same (ahead.same .debouncers (by decide)) cycle) freed
      have waiting (id : Nat) : ready.reportAt? id = none :=
        (reportAt?_of_debouncers (welcome.greeting.same .debouncers (by decide)) id).trans (free id)
      rw [reached]
      exact punctual_of_none (beginCycle_reportAt? welcome.cycle waiting)
  | ends ready parting keys ebb bound farewell =>
      have cycle : ready.session.cycle = console.session.cycle :=
        congrArg Session.cycle (ebb.step.same .session (by decide))
      exact punctual_of_none (farewell.reportAt?
        (punctual.of_same (ebb.step.same .debouncers (by decide)) cycle) (cycle.trans bound.cycle))

end

/-! ### Everything is owned -/

/-- Whatever the console is registered for, one of the lists that end with it holds the
release. -/
def Owned (console : Console) : Prop :=
  ∀ released, console.Registered released →
    released ∈ console.subscriptions.actions ∨
      released ∈ console.session.cycle.disposables.actions ∨
      released ∈ console.session.subscriptions.actions

theorem serveAll_subscriptions (console : Console) (handlers : List (String × Handler)) :
    console.subscriptions.actions ⊆ (console.serveAll handlers).subscriptions.actions := by
  unfold serveAll
  induction handlers generalizing console with
  | nil => exact List.Subset.refl _
  | cons entry handlers inductionHypothesis =>
      exact List.Subset.trans (List.subset_append_left _ _)
        (inductionHypothesis (console.serve entry.1 entry.2))

/-- The console itself holds those who keep the allow-lists up to date. -/
theorem wired_watchers_owned (parts : ConsoleParts) :
    ∀ entry ∈ (furnished parts).watchers,
      .settingsObserver entry.1 ∈ (wired parts).subscriptions.actions := by
  have kept : (unserved parts).subscriptions.actions ⊆ (wired parts).subscriptions.actions := by
    rw [wired_eq, furnished_eq]
    exact serveAll_subscriptions _ _
  rw [(furnished_watchers parts).1]
  intro entry member
  rcases List.mem_pair.mp member with rfl | rfl
  · exact kept (List.mem_cons_self)
  · exact kept (List.mem_cons_of_mem _ List.mem_cons_self)

section

variable {parts : ConsoleParts} {shells : List Nat} {console : Console}

/-- Handlers change with a registration only. -/
theorem Upkept.handlers_step (upkept : Upkept parts shells console) {event : ConsoleEvent}
    (noRegistration : ∀ name label sends reply, event ≠ .serves name label sends reply) :
    (console.undergo event).client.handlers = console.client.handlers := by
  cases consoleMove_undergo upkept.settled.holdsFollowers upkept.housed event with
  | spares spares _ => exact spares.footprint.same .handlers (by decide)
  | proceeds ready taken _ _ step _ _ =>
      exact (step.same .handlers (by decide)).trans (taken.footprint.same .handlers (by decide))
  | configures settings asked =>
      subst asked
      exact (console.updateSettings_changes settings).same .handlers (by decide)
  | tends step _ _ _ _ => exact step.same .handlers (by decide)
  | serves name label sends reply asked => exact absurd asked (noRegistration name label sends reply)

theorem Upkept.handlersOwned_step (upkept : Upkept parts shells console)
    (owned : console.HandlersOwned) (event : ConsoleEvent) :
    (console.undergo event).HandlersOwned := by
  have subscriptions : (console.undergo event).subscriptions = console.subscriptions :=
    (upkept.step event).enrolled.subscriptions.trans upkept.enrolled.subscriptions.symm
  by_cases registration : ∃ name label sends reply, event = .serves name label sends reply
  · obtain ⟨name, label, sends, reply, rfl⟩ := registration
    exact owned.handleRequests name rfl
  · refine owned.of_same (upkept.handlers_step fun name label sends reply same => ?_) subscriptions
    exact registration ⟨name, label, sends, reply, same⟩

theorem Upkept.punctual_step (upkept : Upkept parts shells console) (punctual : console.Punctual)
    (event : ConsoleEvent) : (console.undergo event).Punctual := by
  by_cases own : ∃ event', event = .event event'
  · obtain ⟨event, rfl⟩ := own
    exact punctual.step (furnished_fresh parts) upkept.settled event
  · obtain ⟨step, -⟩ := undergo_beside upkept.housed fun event' same => own ⟨event', same⟩
    exact punctual.of_same (step.same .debouncers (by decide))
      (congrArg Session.cycle (step.same .session (by decide)))

theorem Upkept.owned_run (upkept : Upkept parts shells console) (handlers : console.HandlersOwned)
    (punctual : console.Punctual) (events : List ConsoleEvent) :
    (console.undergoAll events).HandlersOwned ∧ (console.undergoAll events).Punctual := by
  induction events using List.reverseRecOn with
  | nil => exact ⟨handlers, punctual⟩
  | append_singleton events event inductionHypothesis =>
      have reached := upkept.run events
      rw [undergoAll_concat]
      exact ⟨reached.handlersOwned_step inductionHypothesis.1 event,
        reached.punctual_step inductionHypothesis.2 event⟩

/-- Those who are registered somewhere were before the session was activated, or the session
holds them for the time of the connection. -/
theorem Settled.held_of_registered {base : Console} (settled : Settled base console)
    {released : Release}
    (place : released.place ∈ [.watchers, .listeners, .living, .moduleListeners])
    (registered : console.Registered released) :
    base.Registered released ∨ released ∈ console.session.cycle.disposables.actions := by
  rcases settled.place with unbound | ⟨keys, bound⟩
  · cases released with
    | settingsObserver key =>
        have watchers : console.watchers = base.watchers := unbound.wiring.watchers
        exact .inl (by rwa [Registered, watchers] at registered)
    | lineListener key =>
        have listeners : console.terminal.listeners = base.terminal.listeners :=
          unbound.wiring.listeners
        exact .inl (by rwa [Registered, listeners] at registered)
    | resolver id => exact absurd registered (unbound.wiring.living id)
    | moduleListener key =>
        have listeners : console.modules.listeners = base.modules.listeners :=
          unbound.wiring.moduleListeners
        exact .inl (by rwa [Registered, listeners] at registered)
    | _ => simp [Release.place] at place
  · rw [bound.cycle]
    have concat {Item : Type} {entries earlier : List (Nat × Item)} {own : Nat} {item : Item}
        (same : entries = earlier ++ [(own, item)]) {key : Nat}
        (member : key ∈ entries.map Prod.fst) : key ∈ earlier.map Prod.fst ∨ key = own := by
      simpa [same] using member
    cases released with
    | settingsObserver key =>
        refine (concat bound.wiring.watchers registered).imp_right fun own => ?_
        simp [own, CycleKeys.cycle]
    | lineListener key =>
        refine (concat bound.wiring.listeners registered).imp_right fun own => ?_
        simp [own, CycleKeys.cycle]
    | resolver id =>
        right
        simp [(bound.wiring.living id).mp registered, CycleKeys.cycle]
    | moduleListener key =>
        refine (concat bound.wiring.moduleListeners registered).imp_right fun own => ?_
        simp [own, CycleKeys.cycle]
    | _ => simp [Release.place] at place

theorem mem_of_timer? {cycle : Cycle} {id : Nat} (timer : cycle.timer? = some id) :
    .debouncer id ∈ cycle.disposables.actions := by
  obtain ⟨action, member, found⟩ := List.exists_of_findSome?_eq_some timer
  split at found
  next own => exact Option.some.inj found ▸ member
  next => cases found

/-- What the session is registered for during a connection is held by its cycle, and everything
else by the console and the session themselves. -/
theorem Upkept.owned (upkept : Upkept parts shells console) (handlers : console.HandlersOwned)
    (punctual : console.Punctual) : console.Owned := by
  have held : console.session.subscriptions.actions =
      [.clientObserver (furnished parts).client.nextId,
        .clientObserver ((furnished parts).client.nextId + 1), .startHandler] := by
    rw [upkept.enrolled.held, wired_eq, activateSession]
    change (furnished parts).session.subscriptions.actions ++ _ = _
    rw [(furnished_fresh parts).session]
    rfl
  have settled := upkept.settled
  intro released registered
  cases released with
  | clientObserver id =>
      have observers := upkept.enrolled.observers
      obtain ⟨noBoot, noDetach⟩ := furnished_observers parts
      simp only [look, wired_eq, activateSession, Client.onBoot, Client.onDetached,
        Client.withFreshId, noBoot, noDetach, Prod.mk.injEq, List.nil_append] at observers
      rw [Registered, observers.1, observers.2] at registered
      right; right
      simpa [held] using registered
  | handler name id =>
      obtain ⟨handler, member, own⟩ := registered
      rcases handlers _ member with guest | kept
      · rw [own] at guest
        cases guest
      · exact .inl kept
  | startHandler => exact .inr (.inr (by simp [held]))
  | settingsObserver key =>
      rcases settled.held_of_registered (by simp [Release.place]) registered with first | cycle
      · obtain ⟨entry, member, rfl⟩ := List.mem_map.mp first
        left
        rw [upkept.enrolled.subscriptions]
        exact wired_watchers_owned parts entry member
      · exact .inr (.inl cycle)
  | lineListener key =>
      rcases settled.held_of_registered (by simp [Release.place]) registered with first | cycle
      · simp [Registered, furnished_listeners parts] at first
      · exact .inr (.inl cycle)
  | resolver id =>
      rcases settled.held_of_registered (by simp [Release.place]) registered with first | cycle
      · simp [Registered, (furnished_fresh parts).resolvers] at first
      · exact .inr (.inl cycle)
  | moduleListener key =>
      rcases settled.held_of_registered (by simp [Release.place]) registered with first | cycle
      · simp [Registered, furnished_moduleListeners parts] at first
      · exact .inr (.inl cycle)
  | debouncer id =>
      obtain ⟨due, waits⟩ := Option.ne_none_iff_exists'.mp registered
      exact .inr (.inl (mem_of_timer? (punctual id due waits)))

/-- Nothing is registered by a console in whatever state that the lists which end with it do not
hold. -/
theorem owned_reachable {start : Console} (activated : activate? parts = some start)
    (events : List ConsoleEvent) : (start.undergoAll events).Owned := by
  have punctual : (wired parts).Punctual := by
    have debouncers : (wired parts).debouncers = [] := furnished_look parts .debouncers (by decide)
    refine punctual_of_none fun id => ?_
    rw [reportAt?, debouncers]
    rfl
  have opened := (wired_upkept parts).owned_run (wired_handlersOwned parts) punctual
    ((openingEvents parts).map .shell)
  rw [← activate?_undergoAll activated] at opened
  obtain ⟨handlers, punctual⟩ := (activated_upkept activated).owned_run opened.1 opened.2 events
  exact (upkept_reachable activated events).owned handlers punctual

end

end Console

end RuntimeConsole
