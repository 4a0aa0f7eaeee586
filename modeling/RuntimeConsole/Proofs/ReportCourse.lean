/-
Module: RuntimeConsole.Proofs.ReportCourse
Purpose: What becomes of a report of a module that the session has put off, event by event: it
  waits, it is passed on, another comes in its place, or it is dropped with its connection.
Main exports:
  Console.reportDue?, Console.modulesTold, Console.OneTimer, Console.ReportCourse,
  Console.reportCourse_apply
-/
import RuntimeConsole.Proofs.CycleSpeech

namespace RuntimeConsole

/-- The debouncer through which the session passes on modules for the time of a
connection. -/
def Cycle.timer? (cycle : Cycle) : Option Nat :=
  cycle.disposables.actions.findSome? fun action =>
    match action with
    | .debouncer id => some id
    | _ => none

namespace Console

/-- When a debouncer is going to report the module, if it is. -/
def reportAt? (console : Console) (id : Nat) : Option Nat :=
  match (console.debouncers[id]?).bind Debouncer.waiting with
  | some (due, .reportModule) => some due
  | _ => none

/-- When the session is going to report the module, if it is. -/
def reportDue? (console : Console) : Option Nat :=
  console.session.cycle.timer?.bind console.reportAt?

/-- The notices of modules which the console sends over a channel in an event of its own
accord, with the time at which it sends them. -/
def modulesTold (channel : Nat) (console : Console) (event : Event) : List (Nat × Frame) :=
  ((console.saidBy channel event).filter (Frame.isNotice "changemodule")).map (console.now, ·)

/-- Nobody is told a module in an event. -/
def Untold (console : Console) (event : Event) : Prop :=
  ∀ channel, console.modulesTold channel event = []

/-- Reports wait in no debouncer but the one the session holds for them. -/
def Punctual (console : Console) : Prop :=
  ∀ id due, console.reportAt? id = some due → console.session.cycle.timer? = some id

/-- Reports wait in the debouncer the session holds for them and in no other, as long as the
connection lasts. -/
structure OneTimer (base console : Console) : Prop where
  own : ∀ id, console.session.cycle.timer? = some id →
    ∃ waiting, console.debouncers[id]? = some ⟨base.host.moduleDebounce, true, waiting⟩
  others : console.Punctual

/-- What an event comes to for the report that has been put off. -/
inductive ReportCourse (base before : Console) (event : Event) (after : Console) : Prop
  /-- There is none. -/
  | rests (untold : before.Untold event) (idle : before.reportDue? = none)
      (still : after.reportDue? = none)
  /-- It waits. -/
  | waits (untold : before.Untold event) (due : Nat) (waiting : before.reportDue? = some due)
      (still : after.reportDue? = some due)
      (connection : after.client.connection = before.client.connection)
      (module : after.modules.current = before.modules.current)
  /-- One is put off, in the place of the last one. -/
  | asks (name : String) (asked : event = .enterModule name)
  /-- It is passed on, as it is due. -/
  | fires (id : Nat) (asked : event = .work (.fire id)) (due : Nat)
      (waiting : before.reportDue? = some due) (late : due ≤ before.now)
      (still : after.reportDue? = none)
      (speech : Says [moduleNotice before.modules.current before.terminal.cols.toNat] before after)
  /-- It is dropped, as its connection is lost. -/
  | ends (untold : before.Untold event) (due : Nat) (waiting : before.reportDue? = some due)
      (still : after.reportDue? = none)
      (lost : after.client.connection ≠ before.client.connection)

/-! ### Debouncers -/

theorem reportAt?_of_debouncers {before after : Console}
    (same : after.debouncers = before.debouncers) (id : Nat) :
    after.reportAt? id = before.reportAt? id := by
  rw [reportAt?, same, reportAt?]

theorem cancelDebounced_reportAt? (console : Console) (id other : Nat) :
    (console.cancelDebounced id).reportAt? other =
      if other = id then none else console.reportAt? other := by
  cases known : console.debouncers[id]? with
  | none =>
      rw [cancelDebounced, known]
      by_cases same : other = id
      · rw [if_pos same, reportAt?, same, known]
        rfl
      · rw [if_neg same]
  | some debouncer =>
      obtain ⟨inside, -⟩ := List.getElem?_eq_some_iff.mp known
      rw [cancelDebounced, known]
      by_cases same : other = id
      · simp [reportAt?, same, inside, Debouncer.cancel]
      · have apart : id ≠ other := fun equal => same equal.symm
        simp [reportAt?, same, apart]

/-- Of what the session holds only the debouncer has to do with debouncers. -/
theorem dispose_debouncers (console : Console) (keys : CycleKeys) :
    (console.dispose keys.cycle.disposables).debouncers =
      (console.cancelDebounced keys.debouncer).debouncers := by
  have resolver (console : Console) (id : Nat) :
      (console.release (.resolver id)).debouncers = console.debouncers :=
    (console.release_changes (.resolver id)).same .debouncers (by simp [Release.aspects])
  have settings (console : Console) (key : Nat) :
      (console.release (.settingsObserver key)).debouncers = console.debouncers := rfl
  have lines (console : Console) (key : Nat) :
      (console.release (.lineListener key)).debouncers = console.debouncers := rfl
  have modules (console : Console) (key : Nat) :
      (console.release (.moduleListener key)).debouncers = console.debouncers := rfl
  simp only [dispose, Disposables.releaseOrder, CycleKeys.cycle, List.reverse_cons,
    List.reverse_nil, List.nil_append, List.cons_append, List.foldl_cons, List.foldl_nil,
    settings, lines, resolver, modules]
  rfl

theorem CycleKeys.timer? (keys : CycleKeys) : keys.cycle.timer? = some keys.debouncer := rfl

theorem reportDue?_of_timer {console : Console} {id : Nat}
    (timer : console.session.cycle.timer? = some id) :
    console.reportDue? = console.reportAt? id := by
  rw [reportDue?, timer, Option.bind_some]

section

variable {base before between after console : Console} {event : Event} {keys : CycleKeys}

theorem Punctual.of_same (punctual : before.Punctual)
    (debouncers : after.debouncers = before.debouncers)
    (cycle : after.session.cycle = before.session.cycle) : after.Punctual := by
  intro id due waits
  rw [cycle]
  exact punctual id due (reportAt?_of_debouncers debouncers id ▸ waits)

/-- Where no report waits, none waits in the wrong place. -/
theorem punctual_of_none (nothing : ∀ id, console.reportAt? id = none) : console.Punctual := by
  intro id due waits
  rw [nothing] at waits
  cases waits

theorem Punctual.cancelDebounced (punctual : console.Punctual) (id : Nat) :
    (console.cancelDebounced id).Punctual := by
  have session : (console.cancelDebounced id).session = console.session :=
    (console.cancelDebounced_changes id).same .session (by decide)
  intro other due waits
  rw [cancelDebounced_reportAt?] at waits
  rw [session]
  split at waits
  · cases waits
  · exact punctual other due waits

/-- A session that holds nothing has put off no report. -/
theorem Punctual.reportAt?_of_empty (punctual : console.Punctual)
    (empty : console.session.cycle = .empty) (id : Nat) : console.reportAt? id = none := by
  rw [Option.eq_none_iff_forall_ne_some]
  intro due waits
  have held := punctual id due waits
  rw [empty] at held
  cases held

theorem OneTimer.of_same (timer : OneTimer base before)
    (debouncers : after.debouncers = before.debouncers)
    (cycle : after.session.cycle = before.session.cycle) : OneTimer base after where
  own id held := by
    rw [debouncers]
    exact timer.own id (cycle ▸ held)
  others := timer.others.of_same debouncers cycle

/-- Between connections no report waits. -/
theorem OneTimer.of_empty (empty : console.session.cycle = .empty)
    (nothing : ∀ id, console.reportAt? id = none) : OneTimer base console where
  own id held := by
    rw [empty] at held
    cases held
  others := punctual_of_none nothing

/-- A debouncer that drops what it put off is there as before. -/
theorem OneTimer.cancelDebounced (timer : OneTimer base console) (id : Nat) :
    OneTimer base (console.cancelDebounced id) := by
  have session : (console.cancelDebounced id).session = console.session :=
    (console.cancelDebounced_changes id).same .session (by decide)
  refine ⟨fun other held => ?_, timer.others.cancelDebounced id⟩
  obtain ⟨waiting, known⟩ := timer.own other (session ▸ held)
  unfold Console.cancelDebounced
  split
  next => exact ⟨waiting, known⟩
  next found there =>
      obtain ⟨inside, -⟩ := List.getElem?_eq_some_iff.mp there
      by_cases same : id = other
      · subst same
        obtain rfl := Option.some.inj (there.symm.trans known)
        exact ⟨none, by simp [inside, Debouncer.cancel]⟩
      · exact ⟨waiting, by simpa [same] using known⟩

/-- A connection that ends takes the report with it that was put off. -/
theorem Farewell.reportAt? {parting : Console} (punctual : before.Punctual)
    (cycle : before.session.cycle = keys.cycle) (farewell : Farewell keys before parting after)
    (id : Nat) : after.reportAt? id = none := by
  have ahead : parting.debouncers = before.debouncers :=
    farewell.ahead.same .debouncers (by decide)
  have behind : after.debouncers = parting.teardownCycle.debouncers :=
    farewell.behind.same .debouncers (by decide)
  have emptied : (parting.withCycle .empty).debouncers = parting.debouncers := rfl
  have released : after.reportAt? id =
      ((parting.withCycle .empty).cancelDebounced keys.debouncer).reportAt? id := by
    rw [reportAt?_of_debouncers behind, teardownCycle, farewell.cycle]
    exact reportAt?_of_debouncers (dispose_debouncers _ _) id
  rw [released, cancelDebounced_reportAt?]
  split
  · rfl
  next other =>
      rw [reportAt?_of_debouncers emptied, reportAt?_of_debouncers ahead,
        Option.eq_none_iff_forall_ne_some]
      intro due waits
      have held := punctual id due waits
      rw [cycle, CycleKeys.timer?, Option.some.injEq] at held
      exact other held.symm

/-! ### What is said -/

theorem untold_of_speech {frames : List Frame} (speech : Says frames console (console.apply event))
    (none : frames.filter (Frame.isNotice "changemodule") = []) : console.Untold event := by
  intro channel
  rw [modulesTold, filter_saidBy_of_speech _ speech none]
  rfl

theorem untold_of_sublist
    (fewer : ∀ channel, ((console.apply event).said channel).Sublist (console.said channel)) :
    console.Untold event := by
  intro channel
  rw [modulesTold, saidBy_of_sublist (fewer channel)]
  rfl

theorem filter_of_small {frames : List Frame} (small : ∀ frame ∈ frames, frame.isSmall = true) :
    frames.filter (Frame.isNotice "changemodule") = [] := by
  refine List.filter_eq_nil_iff.mpr fun frame member => ?_
  have := small frame member
  simp only [Frame.isSmall, Bool.and_eq_true, Bool.not_eq_true'] at this
  simp [this.2]

/-! ### One event -/

/-- Where no debouncer is touched, a report waits if there is one. -/
theorem OneTimer.course_of_same (timer : OneTimer base before) (untold : before.Untold event)
    (debouncers : after.debouncers = before.debouncers)
    (cycle : after.session.cycle = before.session.cycle)
    (connection : after.client.connection = before.client.connection)
    (module : after.modules.current = before.modules.current) :
    OneTimer base after ∧ ReportCourse base before event after := by
  have reportAt := reportAt?_of_debouncers debouncers
  have same : after.reportDue? = before.reportDue? := by
    rw [reportDue?, cycle, reportDue?]
    exact congrArg _ (funext reportAt)
  refine ⟨timer.of_same debouncers cycle, ?_⟩
  cases waiting : before.reportDue? with
  | none => exact .rests untold waiting (same.trans waiting)
  | some due => exact .waits untold due waiting (same.trans waiting) connection module

/-- Debouncers that wait for nothing else. -/
theorem debounce_timed {id delay : Nat} {waiting : Option (Nat × DebouncedAction)}
    (known : console.debouncers[id]? = some ⟨delay, true, waiting⟩) (action : DebouncedAction) :
    console.debounce id action = { console with
      debouncers := console.debouncers.set id
        ⟨delay, true, some (console.now + delay, action)⟩ } := by
  rw [debounce, known]
  rfl

/-- Code of the embedding program that listens to modules says nothing. -/
theorem foldl_guests (name : String) (entries : List (Nat × ModuleListener))
    (guests : ∀ entry ∈ entries, ∃ label, entry.2 = .guest label) (console : Console) :
    Says [] console ((entries.map Prod.snd).foldl
        (fun console listener => console.moduleListenerSees name listener) console) ∧
      Changes [.trace] console ((entries.map Prod.snd).foldl
        (fun console listener => console.moduleListenerSees name listener) console) := by
  induction entries generalizing console with
  | nil => exact ⟨.refl console, .refl _ console⟩
  | cons entry entries inductionHypothesis =>
      obtain ⟨label, guest⟩ := guests entry (by simp)
      obtain ⟨silence, step⟩ := inductionHypothesis
        (fun other member => guests other (by simp [member]))
        (console.emit (.guestSawModule label name console.modules.current))
      rw [List.map_cons, List.foldl_cons, guest]
      exact ⟨(console.emit_speech fun _ => rfl).mute_trans silence,
        (console.emit_changes _ rfl).trans step⟩

theorem reportModule_eq (console : Console) (name : String) :
    console.reportModule name = (console.modules.listeners.map Prod.snd).foldl
      (fun console listener => console.moduleListenerSees name listener)
      { console with modules := (console.modules.report name).1 } := rfl

/-- What a report comes to while the session passes reports on to a debouncer. -/
theorem reportModule_of_bound (fresh : Fresh base) (bound : Bound base keys console)
    (timer : OneTimer base console) (name : String) :
    Says [] console (console.reportModule name) ∧
      (console.reportModule name).modules.current = name ∧
      keys.debouncer < console.debouncers.length ∧
      (console.reportModule name).debouncers = console.debouncers.set keys.debouncer
        ⟨base.host.moduleDebounce, true,
          some (console.now + base.host.moduleDebounce, .reportModule)⟩ := by
  have noted : Says [] console { console with modules := (console.modules.report name).1 } :=
    .of_same rfl rfl rfl
  obtain ⟨silence, step⟩ := foldl_guests name base.modules.listeners fresh.moduleListeners
    { console with modules := (console.modules.report name).1 }
  have heard := noted.mute_trans silence
  have listeners : console.modules.listeners =
      base.modules.listeners ++ [(keys.modules, .runtime keys.debouncer)] :=
    bound.wiring.moduleListeners
  obtain ⟨waiting, known⟩ := timer.own keys.debouncer (congrArg Cycle.timer? bound.cycle)
  generalize toldEq : (base.modules.listeners.map Prod.snd).foldl
    (fun console listener => console.moduleListenerSees name listener)
    { console with modules := (console.modules.report name).1 } = told at heard step
  have debouncers : told.debouncers = console.debouncers := step.same .debouncers (by decide)
  have now : told.now = console.now := step.same .now (by decide)
  have reached : console.reportModule name = { told with
      debouncers := console.debouncers.set keys.debouncer ⟨base.host.moduleDebounce, true,
        some (console.now + base.host.moduleDebounce, .reportModule)⟩ } := by
    rw [reportModule_eq, listeners, List.map_append, List.foldl_append, toldEq]
    change told.debounce keys.debouncer .reportModule = _
    rw [debounce_timed (debouncers ▸ known), debouncers, now]
  obtain ⟨inside, -⟩ := List.getElem?_eq_some_iff.mp known
  have module : told.modules.current = name := step.same .module (by decide)
  rw [reached]
  exact ⟨heard.mute_trans (.of_same rfl rfl rfl), module, inside, rfl⟩

/-- Without a connection nobody passes a report on. -/
theorem reportModule_of_unbound (fresh : Fresh base) (unbound : Unbound base console)
    (name : String) :
    Says [] console (console.reportModule name) ∧
      (console.reportModule name).modules.current = name ∧
      (console.reportModule name).debouncers = console.debouncers := by
  have noted : Says [] console { console with modules := (console.modules.report name).1 } :=
    .of_same rfl rfl rfl
  obtain ⟨silence, step⟩ := foldl_guests name base.modules.listeners fresh.moduleListeners
    { console with modules := (console.modules.report name).1 }
  have listeners : console.modules.listeners = base.modules.listeners :=
    unbound.wiring.moduleListeners
  rw [reportModule_eq, listeners]
  exact ⟨noted.mute_trans silence, step.same .module (by decide), step.same .debouncers (by decide)⟩

/-- A report is put off while there is a connection, and left alone otherwise. -/
theorem reportModule_course (fresh : Fresh base) (settled : Settled base console)
    (timer : OneTimer base console) (name : String) :
    OneTimer base (console.reportModule name) ∧ Says [] console (console.reportModule name) ∧
      (console.reportModule name).modules.current = name ∧
      (console.client.connection = none → (console.reportModule name).reportDue? = none) ∧
      (console.client.connection ≠ none → (console.reportModule name).reportDue? =
        some (console.now + base.host.moduleDebounce)) := by
  have session : (console.reportModule name).session = console.session :=
    (console.reportModule_changes name).same .session (by decide)
  have cycle := congrArg Session.cycle session
  rcases settled.place with unbound | ⟨keys, bound⟩
  · obtain ⟨heard, module, debouncers⟩ := reportModule_of_unbound fresh unbound name
    refine ⟨timer.of_same debouncers cycle, heard, module, fun _ => ?_,
      fun connected => absurd unbound.connection connected⟩
    rw [reportDue?, cycle, unbound.cycle]
    rfl
  · obtain ⟨heard, module, inside, debouncers⟩ := reportModule_of_bound fresh bound timer name
    obtain ⟨connection, -, connected, -⟩ := bound.connection
    have held : (console.reportModule name).session.cycle.timer? = some keys.debouncer := by
      rw [cycle, bound.cycle]
      rfl
    refine ⟨⟨fun id other => ?_, fun id due waits => ?_⟩, heard, module, fun without => ?_,
      fun _ => ?_⟩
    · rw [held, Option.some.injEq] at other
      subst other
      rw [debouncers]
      exact ⟨_, List.getElem?_set_self inside⟩
    · by_cases same : keys.debouncer = id
      · rw [held, same]
      · rw [cycle]
        refine timer.others id due ?_
        rw [Console.reportAt?, debouncers] at waits
        rwa [List.getElem?_set_ne same, ← Console.reportAt?] at waits
    · rw [connected] at without
      cases without
    · rw [reportDue?_of_timer held, Console.reportAt?, debouncers]
      simp [inside]

/-- What a debouncer does when it is due. -/
theorem fireDebouncer_of_late {id due : Nat} {action : DebouncedAction}
    (waits : (console.debouncers[id]?).bind Debouncer.waiting = some (due, action))
    (late : due ≤ console.now) :
    Says (console.actionSays action) console (console.fireDebouncer id) ∧
      (console.fireDebouncer id).debouncers = (console.cancelDebounced id).debouncers := by
  have cancelled := console.cancelDebounced_changes id
  have cols : (console.cancelDebounced id).terminal.cols = console.terminal.cols :=
    congrArg (fun display : Display => display.grid.size.cols) (cancelled.same .display (by decide))
  have current : (console.cancelDebounced id).modules.current = console.modules.current :=
    cancelled.same .module (by decide)
  have same : (console.cancelDebounced id).actionSays action = console.actionSays action := by
    cases action with
    | guest value => rfl
    | reportModule => rw [actionSays, current, cols, actionSays]
  have said := (console.cancelDebounced id).runDebounced_speech action
  have reached : console.fireDebouncer id = (console.cancelDebounced id).runDebounced action := by
    rw [fireDebouncer, waits]
    exact if_pos late
  rw [reached]
  exact ⟨same ▸ .after_changes cancelled said (by decide),
    (runDebounced_changes _ action).same .debouncers (by decide)⟩

/-- A debouncer does what it put off, if it is due. -/
theorem fireDebouncer_course (timer : OneTimer base console) (id : Nat) :
    OneTimer base (console.apply (.work (.fire id))) ∧
      ReportCourse base console (.work (.fire id)) (console.apply (.work (.fire id))) := by
  have step := console.fireDebouncer_changes id
  have session : (console.fireDebouncer id).session = console.session :=
    step.same .session (by decide)
  have idle (same : console.fireDebouncer id = console) :
      OneTimer base (console.apply (.work (.fire id))) ∧
        ReportCourse base console (.work (.fire id)) (console.apply (.work (.fire id))) := by
    have reached : console.apply (.work (.fire id)) = console := same
    have silence : Says [] console (console.apply (.work (.fire id))) := by
      rw [reached]
      exact .refl console
    exact timer.course_of_same (untold_of_speech silence rfl) (by rw [reached]) (by rw [reached])
      (by rw [reached]) (by rw [reached])
  cases waits : (console.debouncers[id]?).bind Debouncer.waiting with
  | none => exact idle (by rw [fireDebouncer, waits])
  | some entry =>
      obtain ⟨due, action⟩ := entry
      by_cases late : due ≤ console.now
      · obtain ⟨speech, debouncers⟩ := fireDebouncer_of_late waits late
        have cancelled : (console.cancelDebounced id).session = console.session :=
          (console.cancelDebounced_changes id).same .session (by decide)
        have reportAt (other : Nat) : (console.fireDebouncer id).reportAt? other =
            if other = id then none else console.reportAt? other := by
          rw [reportAt?_of_debouncers debouncers, cancelDebounced_reportAt?]
        refine ⟨(timer.cancelDebounced id).of_same debouncers (by
          rw [cancelled]; exact congrArg Session.cycle session), ?_⟩
        cases action with
        | reportModule =>
            have here : console.reportAt? id = some due := by rw [Console.reportAt?, waits]
            have held := timer.others id due here
            refine .fires id rfl due ((reportDue?_of_timer held).trans here) late ?_ speech
            change (console.fireDebouncer id).reportDue? = none
            rw [reportDue?_of_timer (session ▸ held), reportAt, if_pos rfl]
        | guest value =>
            have same : (console.fireDebouncer id).reportDue? = console.reportDue? := by
              have nothing : console.reportAt? id = none := by rw [Console.reportAt?, waits]
              rw [reportDue?, session, reportDue?]
              refine congrArg _ (funext fun other => ?_)
              rw [reportAt]
              split
              next equal => rw [equal, nothing]
              next => rfl
            have untold : console.Untold (.work (.fire id)) := untold_of_speech speech rfl
            cases waiting : console.reportDue? with
            | none => exact .rests untold waiting (same.trans waiting)
            | some waitsUntil =>
                exact .waits untold waitsUntil waiting (same.trans waiting)
                  (step.same .connection (by decide)) (step.same .module (by decide))
      · exact idle (by rw [fireDebouncer, waits]; exact if_neg late)

/-- A session that begins to hold something has a debouncer more. -/
theorem beginCycle_debouncers {ready : Console} (cycle : ready.session.cycle = .empty) :
    ready.beginCycle.debouncers =
      ready.debouncers ++ [⟨ready.host.moduleDebounce, ready.host.concurrent, none⟩] := by
  have prompted := ready.observePrompt_changes
  have resolved := addResolver_changes ready.observePrompt.1
  have listening := addLineListener_changes ready.observePrompt.1.addResolver.1
    (.resolver ready.observePrompt.1.addResolver.2)
  rw [beginCycle_eq cycle, openCycle]
  dsimp only
  generalize ready.observePrompt.1 = first at prompted resolved listening ⊢
  generalize (first.addResolver.1.addLineListener (.resolver first.addResolver.2)).1 = reached
    at listening ⊢
  have debouncers : reached.debouncers = ready.debouncers :=
    ((listening.same .debouncers (by decide)).trans (resolved.same .debouncers (by decide))).trans
      (prompted.same .debouncers (by decide))
  have host : reached.host = ready.host :=
    ((listening.same .host (by decide)).trans (resolved.same .host (by decide))).trans
      (prompted.same .host (by decide))
  change reached.debouncers ++ [Debouncer.idle reached.host.moduleDebounce
    reached.host.concurrent] = _
  rw [debouncers, host, Debouncer.idle]

/-- Nothing waits in a debouncer that is new. -/
theorem beginCycle_reportAt? {ready : Console} (cycle : ready.session.cycle = .empty)
    (free : ∀ id, ready.reportAt? id = none) (id : Nat) :
    ready.beginCycle.reportAt? id = none := by
  rw [Console.reportAt?, beginCycle_debouncers cycle]
  rcases Nat.lt_trichotomy id ready.debouncers.length with inside | rfl | outside
  · rw [List.getElem?_append_left inside, ← Console.reportAt?]
    exact free id
  · simp
  · rw [List.getElem?_eq_none (by simp; omega)]
    rfl

/-- A connection begins, and with it a debouncer for its reports. -/
theorem beginCycle_timer {ready : Console} (cycle : ready.session.cycle = .empty)
    (host : ready.host = base.host) (concurrent : base.host.concurrent = true)
    (free : ∀ id, ready.reportAt? id = none) :
    OneTimer base ready.beginCycle ∧ ready.beginCycle.reportDue? = none := by
  have debouncers := beginCycle_debouncers cycle
  rw [host, concurrent] at debouncers
  have timer : ready.beginCycle.session.cycle.timer? = some ready.debouncers.length := by
    rw [beginCycle_eq cycle]
    change ready.openCycle.2.timer? = _
    rw [ready.openCycle_wiring.2]
    rfl
  have reportAt := beginCycle_reportAt? cycle free
  refine ⟨⟨fun id held => ?_, punctual_of_none reportAt⟩, ?_⟩
  · rw [timer, Option.some.injEq] at held
    exact ⟨none, by rw [debouncers, ← held]; simp⟩
  · rw [reportDue?_of_timer timer, reportAt]

/-- No report waits before the session begins to hold something. -/
theorem reportAt?_of_freed {prepared free : Console} (punctual : prepared.Punctual)
    (freed : Unbound base prepared ∧ free = prepared ∨
      ∃ keys parting, Bound base keys prepared ∧ Farewell keys prepared parting free) (id : Nat) :
    free.reportAt? id = none := by
  rcases freed with ⟨unbound, rfl⟩ | ⟨keys, parting, bound, farewell⟩
  · exact punctual.reportAt?_of_empty unbound.cycle id
  · exact farewell.reportAt? punctual bound.cycle id

/-- A report that was put off for a connection is dropped when another begins. -/
theorem course_of_begins {prepared free ready : Console} (concurrent : base.host.concurrent = true)
    (served : console.Served) (host : console.host = base.host) (timer : OneTimer base console)
    (ahead : Changes aheadAspects console prepared)
    (cycle : prepared.session.cycle = console.session.cycle)
    (freed : Unbound base prepared ∧ free = prepared ∨
      ∃ keys parting, Bound base keys prepared ∧ Farewell keys prepared parting free)
    (welcome : Welcome console free ready) (reached : console.apply event = ready.beginCycle) :
    OneTimer base (console.apply event) ∧
      ReportCourse base console event (console.apply event) := by
  have preparedTimer : OneTimer base prepared :=
    timer.of_same (ahead.same .debouncers (by decide)) cycle
  have preparedHost : prepared.host = base.host := (ahead.same .host (by decide)).trans host
  have nothing := reportAt?_of_freed preparedTimer.others freed
  have freeHost : free.host = base.host := by
    rcases freed with ⟨-, rfl⟩ | ⟨keys, parting, -, farewell⟩
    · exact preparedHost
    · exact (farewell.changes.same .host (by decide)).trans preparedHost
  have readyNothing (id : Nat) : ready.reportAt? id = none :=
    (reportAt?_of_debouncers (welcome.greeting.same .debouncers (by decide)) id).trans (nothing id)
  obtain ⟨began, still⟩ := beginCycle_timer welcome.cycle
    ((welcome.greeting.same .host (by decide)).trans freeHost) concurrent readyNothing
  rw [← reached] at began still
  obtain ⟨frames, idle, said⟩ := welcome.saidBy served reached
  have small : ∀ frame ∈ frames, frame.isSmall = true :=
    fun frame member => Frame.isSmall_of_isIdle (idle frame member)
  have untold : console.Untold event := by
    intro channel
    rw [modulesTold, said]
    split
    · rw [List.filter_append, filter_of_small small]
      rfl
    · rfl
  refine ⟨began, ?_⟩
  cases waiting : console.reportDue? with
  | none => exact .rests untold waiting still
  | some due => exact .ends untold due waiting still (welcome.renewed served reached)

/-- A report that was put off for a connection is dropped when the connection ends. -/
theorem course_of_ends {ready parting : Console} (timer : OneTimer base console)
    (ebb : Ebbs console ready) (bound : Bound base keys console)
    (farewell : Farewell keys ready parting (console.apply event)) :
    OneTimer base (console.apply event) ∧
      ReportCourse base console event (console.apply event) := by
  have session : ready.session = console.session := ebb.step.same .session (by decide)
  have cycle := congrArg Session.cycle session
  have readyTimer : OneTimer base ready :=
    timer.of_same (ebb.step.same .debouncers (by decide)) cycle
  have nothing := farewell.reportAt? readyTimer.others (cycle.trans bound.cycle)
  have still : (console.apply event).reportDue? = none := by
    rw [reportDue?, farewell.released]
    rfl
  have untold : console.Untold event := untold_of_sublist fun channel => by
    rw [farewell.said]
    exact ebb.said channel
  obtain ⟨connection, -, connected, -⟩ := bound.connection
  refine ⟨.of_empty farewell.released nothing, ?_⟩
  cases waiting : console.reportDue? with
  | none => exact .rests untold waiting still
  | some due =>
      refine .ends untold due waiting still ?_
      rw [farewell.disconnected, connected]
      intro same
      cases same

/-- The report that is put off goes its course in every event. -/
theorem reportCourse_apply (fresh : Fresh base) (concurrent : base.host.concurrent = true)
    (settled : Settled base console) (served : console.Served) (host : console.host = base.host)
    (timer : OneTimer base console) (event : Event) :
    OneTimer base (console.apply event) ∧
      ReportCourse base console event (console.apply event) := by
  cases cycleMove_apply fresh settled event with
  | talks frames speech small _ cycle step =>
      exact timer.course_of_same (untold_of_speech speech (filter_of_small small))
        (step.same .debouncers (by decide)) cycle speech.connection (step.same .module (by decide))
  | ebbs ebb _ =>
      refine timer.course_of_same (untold_of_sublist ebb.said)
        (ebb.step.same .debouncers (by decide)) ?_ (ebb.step.same .connection (by decide))
        (ebb.step.same .module (by decide))
      exact congrArg Session.cycle (ebb.step.same .session (by decide))
  | sends name args asked =>
      subst asked
      have step := console.send_changes name args
      refine timer.course_of_same (fun channel => rfl) (step.same .debouncers (by decide)) ?_
        (step.same .connection (by decide)) (step.same .module (by decide))
      exact congrArg Session.cycle (step.same .session (by decide))
  | configures value asked =>
      subst asked
      have step := console.updateSettings_changes value
      have none : (console.updateSays value).filter (Frame.isNotice "changemodule") = [] := by
        refine List.filter_eq_nil_iff.mpr fun frame member => ?_
        obtain ⟨prompt, rfl⟩ := console.updateSays_prompt value frame member
        simp [promptNotice, Frame.isNotice]
      refine timer.course_of_same (untold_of_speech (console.updateSettings_speech value) none)
        (step.same .debouncers (by decide)) ?_ (step.same .connection (by decide))
        (step.same .module (by decide))
      exact congrArg Session.cycle (step.same .session (by decide))
  | reports name asked =>
      subst asked
      exact ⟨(reportModule_course fresh settled timer name).1, .asks name rfl⟩
  | fires debouncer asked =>
      subst asked
      exact fireDebouncer_course timer debouncer
  | ticks time asked =>
      subst asked
      have silence : Says [] console (console.apply (.clock time)) := .of_same rfl rfl rfl
      exact timer.course_of_same (untold_of_speech silence rfl) rfl rfl rfl rfl
  | begins prepared free ready ahead cycle freed welcome _ reached =>
      exact course_of_begins concurrent served host timer ahead cycle freed welcome reached
  | ends ready parting keys ebb bound farewell => exact course_of_ends timer ebb bound farewell

end

end Console

end RuntimeConsole
