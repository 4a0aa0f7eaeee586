/-
Module: RuntimeConsole.Proofs.ModuleReports
Purpose: When the runtime is told a module: a delay after the last report of a burst, unless
  its connection is lost before, over every run in which what is due is done in time.
Main exports:
  Console.runsInTime, Console.ToldAt, ReportOutcome, ModuleReports, module_reports
-/
import RuntimeConsole.Proofs.ReportCourse

namespace RuntimeConsole

namespace Console

/-! ### Runs in time -/

/-- The times at which what debouncers put off is due. -/
def deadlines (console : Console) : List Nat :=
  console.debouncers.filterMap fun debouncer => debouncer.waiting.map Prod.fst

/-- Whether nothing that debouncers put off is due. -/
def rested (console : Console) : Bool := console.deadlines.all fun due => console.now < due

/-- Whether an event happens in time.  Whatever is due is done before anything else happens but
that frames leave, and the clock stops wherever something becomes due. -/
def inTime (console : Console) : Event → Bool
  | .clock time =>
      console.rested && decide (console.now ≤ time) && console.deadlines.all (time ≤ ·)
  | .work (.fire _) | .work (.write _) => true
  | _ => console.rested

/-- Whether all events of a run happen in time. -/
def runsInTime (console : Console) : List Event → Bool
  | [] => true
  | event :: events => console.inTime event && runsInTime (console.apply event) events

theorem runsInTime_append (console : Console) (first second : List Event) :
    console.runsInTime (first ++ second) =
      (console.runsInTime first && (console.run first).runsInTime second) := by
  induction first generalizing console with
  | nil => rfl
  | cons event first inductionHypothesis =>
      rw [List.cons_append, runsInTime, runsInTime, inductionHypothesis, Bool.and_assoc]
      rfl

section

variable {base console : Console} {event : Event} {due : Nat}

theorem mem_deadlines_of_reportDue? (waiting : console.reportDue? = some due) :
    due ∈ console.deadlines := by
  rw [reportDue?, Option.bind_eq_some_iff] at waiting
  obtain ⟨id, -, here⟩ := waiting
  unfold reportAt? at here
  split at here
  next at_ found =>
      obtain ⟨debouncer, known, waits⟩ := Option.bind_eq_some_iff.mp found
      obtain rfl := Option.some.inj here
      exact List.mem_filterMap.mpr ⟨debouncer, List.mem_of_getElem? known, by rw [waits]; rfl⟩
  next => cases here

theorem lt_of_rested (rested : console.rested = true) (waiting : console.reportDue? = some due) :
    console.now < due := by
  simpa using List.all_eq_true.mp rested due (mem_deadlines_of_reportDue? waiting)

/-- Only the clock moves time. -/
theorem now_apply (fresh : Fresh base) (settled : Settled base console) (event : Event) :
    (∃ time, event = .clock time) ∨ (console.apply event).now = console.now := by
  cases cycleMove_apply fresh settled event with
  | talks frames _ _ _ _ step => exact .inr (step.same .now (by decide))
  | ebbs ebb _ => exact .inr (ebb.step.same .now (by decide))
  | sends name args asked =>
      subst asked
      exact .inr ((console.send_changes name args).same .now (by decide))
  | configures value asked =>
      subst asked
      exact .inr ((console.updateSettings_changes value).same .now (by decide))
  | reports name asked =>
      subst asked
      exact .inr ((console.reportModule_changes name).same .now (by decide))
  | fires debouncer asked =>
      subst asked
      exact .inr ((console.fireDebouncer_changes debouncer).same .now (by decide))
  | ticks time asked => exact .inl ⟨time, asked⟩
  | begins prepared free ready ahead _ freed welcome _ reached =>
      have freeNow : free.now = prepared.now := by
        rcases freed with ⟨-, rfl⟩ | ⟨keys, parting, -, farewell⟩
        · rfl
        · exact farewell.changes.same .now (by decide)
      have begun : ready.beginCycle.now = ready.now :=
        ready.beginCycle_changes.same .now (by decide)
      rw [reached, begun]
      exact .inr (((welcome.greeting.same .now (by decide)).trans freeNow).trans
        (ahead.same .now (by decide)))
  | ends ready parting keys ebb _ farewell =>
      exact .inr ((farewell.changes.same .now (by decide)).trans (ebb.step.same .now (by decide)))

/-- What is kept from event to event where reports may be put off. -/
structure Reporting (base console : Console) : Prop where
  settled : Settled base console
  ordered : console.CallsInOrder
  served : console.Served
  host : console.host = base.host
  timer : OneTimer base console

theorem Reporting.step (fresh : Fresh base) (concurrent : base.host.concurrent = true)
    (reporting : Reporting base console) (event : Event) :
    Reporting base (console.apply event) := by
  obtain ⟨settled, ordered⟩ := reporting.settled.step fresh reporting.ordered event
  exact {
    settled := settled
    ordered := ordered
    served := (console.apply_onward event).served reporting.served
    host := (console.apply_advances event).host.trans reporting.host
    timer := (reportCourse_apply fresh concurrent reporting.settled reporting.served
      reporting.host reporting.timer event).1 }

theorem Reporting.run (fresh : Fresh base) (concurrent : base.host.concurrent = true)
    (reporting : Reporting base console) (events : List Event) :
    Reporting base (console.run events) := by
  induction events generalizing console with
  | nil => exact reporting
  | cons event events inductionHypothesis =>
      exact inductionHypothesis (reporting.step fresh concurrent event)

theorem Reporting.course (fresh : Fresh base) (concurrent : base.host.concurrent = true)
    (reporting : Reporting base console) (event : Event) :
    ReportCourse base console event (console.apply event) :=
  (reportCourse_apply fresh concurrent reporting.settled reporting.served reporting.host
    reporting.timer event).2

/-- In a run in time the clock does not go back. -/
theorem Reporting.now_le_run (fresh : Fresh base) (concurrent : base.host.concurrent = true)
    (reporting : Reporting base console) {events : List Event}
    (timely : console.runsInTime events = true) : console.now ≤ (console.run events).now := by
  induction events generalizing console with
  | nil => exact Nat.le_refl _
  | cons event events inductionHypothesis =>
      rw [runsInTime, Bool.and_eq_true] at timely
      refine Nat.le_trans ?_ (inductionHypothesis (reporting.step fresh concurrent event) timely.2)
      rcases now_apply fresh reporting.settled event with ⟨time, rfl⟩ | same
      · have ahead := timely.1
        simp only [inTime, Bool.and_eq_true, decide_eq_true_eq] at ahead
        exact ahead.1.2
      · exact Nat.le_of_eq same.symm

/-! ### The fate of a report -/

/-- Whether an event is a report of a module. -/
def reportsModule : Event → Bool
  | .enterModule _ => true
  | _ => false

/-- Nobody is told a module in a run. -/
def Hushed (console : Console) (events : List Event) : Prop :=
  ∀ channel, console.noted (modulesTold channel) events = []

theorem Hushed.cons {events : List Event} (untold : console.Untold event)
    (silent : (console.apply event).Hushed events) : console.Hushed (event :: events) := by
  intro channel
  rw [noted, untold channel, silent channel]
  rfl

theorem Hushed.append {first second : List Event} (silent : console.Hushed first)
    (silentToo : (console.run first).Hushed second) : console.Hushed (first ++ second) := by
  intro channel
  rw [noted_append, silent channel, silentToo channel]
  rfl

/-- Without reports nobody is told a module, if none has been put off. -/
theorem Reporting.silent (fresh : Fresh base) (concurrent : base.host.concurrent = true)
    (reporting : Reporting base console) (idle : console.reportDue? = none) {events : List Event}
    (quiet : ∀ event ∈ events, reportsModule event = false) : console.Hushed events := by
  induction events generalizing console with
  | nil => exact fun _ => rfl
  | cons event events inductionHypothesis =>
      have next := reporting.step fresh concurrent event
      have restQuiet : ∀ other ∈ events, reportsModule other = false := fun other member =>
        quiet other (by simp [member])
      cases reporting.course fresh concurrent event with
      | rests untold _ still => exact .cons untold (inductionHypothesis next still restQuiet)
      | asks name asked =>
          have := quiet event (by simp)
          rw [asked] at this
          cases this
      | waits _ due waiting => exact absurd (idle.symm.trans waiting) nofun
      | fires _ _ due waiting => exact absurd (idle.symm.trans waiting) nofun
      | ends _ due waiting => exact absurd (idle.symm.trans waiting) nofun

/-- One module is told in a run: at a given time, to the runtime that is connected then, with
the width the terminal has then. -/
def ToldAt (due : Nat) (connection : Connection) (name : String) (console : Console)
    (events : List Event) : Prop :=
  ∃ earlier later, events = earlier ++ later ∧ (console.run earlier).now = due ∧
    (console.run earlier).client.connection = some connection ∧
    (console.run earlier).modules.current = name ∧
    ∀ channel, console.noted (modulesTold channel) events =
      if (console.run earlier).hears channel = true then
        [(due, moduleNotice name (console.run earlier).terminal.cols.toNat)]
      else []

/-- Something happens first in which nobody is told a module. -/
theorem ToldAt.preceded {connection : Connection} {name : String} {first events : List Event}
    (silent : console.Hushed first) (told : ToldAt due connection name (console.run first) events) :
    ToldAt due connection name console (first ++ events) := by
  obtain ⟨earlier, later, rfl, now, connected, module, notices⟩ := told
  refine ⟨first ++ earlier, later, (List.append_assoc ..).symm, ?_, ?_, ?_, fun channel => ?_⟩
  · rw [run_append, now]
  · rw [run_append, connected]
  · rw [run_append, module]
  · rw [noted_append, silent channel, List.nil_append, notices channel, run_append]

/-- What becomes of a report that has been put off, while no other comes in its place. -/
inductive ReportFate (due : Nat) (connection : Connection) (console : Console)
    (events : List Event) : Prop
  | passedOn (told : ToldAt due connection console.modules.current console events)
  | waits (silent : console.Hushed events) (still : (console.run events).reportDue? = some due)
  /-- The connection is lost before the report is due. -/
  | dropped (silent : console.Hushed events) (earlier : List Event) (event : Event)
      (later : List Event) (split : events = earlier ++ event :: later)
      (early : (console.run earlier).now < due)
      (connected : (console.run earlier).client.connection = some connection)
      (lost : ((console.run earlier).apply event).client.connection ≠ some connection)

/-- A report waits in an event. -/
theorem ReportFate.cons {connection : Connection} {events : List Event}
    (untold : console.Untold event)
    (module : (console.apply event).modules.current = console.modules.current)
    (fate : ReportFate due connection (console.apply event) events) :
    ReportFate due connection console (event :: events) := by
  have first : console.Hushed [event] := .cons untold fun _ => rfl
  cases fate with
  | passedOn told => exact .passedOn (.preceded first (module ▸ told))
  | waits silent still => exact .waits (.cons untold silent) still
  | dropped silent earlier last later split early connected lost =>
      exact .dropped (.cons untold silent) (event :: earlier) last later (by rw [split]; rfl)
        early connected lost

/-- An event that costs the connection happens when nothing is due. -/
theorem rested_of_lost (timely : console.inTime event = true)
    (lost : (console.apply event).client.connection ≠ console.client.connection) :
    console.rested = true := by
  unfold inTime at timely
  split at timely
  next time => exact absurd rfl lost
  next id =>
      exact absurd ((console.fireDebouncer_changes id).same .connection (by decide)) lost
  next channel =>
      exact absurd ((console.writeWire_ebbs channel).1.step.same .connection (by decide)) lost
  next => exact timely

/-- A report that has been put off is passed on when it is due, it waits, or it is dropped with
its connection before. -/
theorem Reporting.fate (fresh : Fresh base) (concurrent : base.host.concurrent = true)
    (reporting : Reporting base console) {connection : Connection}
    (connected : console.client.connection = some connection)
    (waiting : console.reportDue? = some due) (ahead : console.now ≤ due) {events : List Event}
    (quiet : ∀ event ∈ events, reportsModule event = false)
    (timely : console.runsInTime events = true) : ReportFate due connection console events := by
  induction events generalizing console with
  | nil => exact .waits (fun _ => rfl) waiting
  | cons event events inductionHypothesis =>
      rw [runsInTime, Bool.and_eq_true] at timely
      have next := reporting.step fresh concurrent event
      have restQuiet : ∀ other ∈ events, reportsModule other = false := fun other member =>
        quiet other (by simp [member])
      cases reporting.course fresh concurrent event with
      | rests _ idle => exact absurd (idle.symm.trans waiting) nofun
      | asks name asked =>
          have := quiet event (by simp)
          rw [asked] at this
          cases this
      | waits untold time found still same module =>
          obtain rfl := Option.some.inj (waiting.symm.trans found)
          refine .cons untold module (inductionHypothesis next (same.trans connected) still ?_
            restQuiet timely.2)
          rcases now_apply fresh reporting.settled event with ⟨time, rfl⟩ | sameTime
          · have stops := timely.1
            simp only [inTime, Bool.and_eq_true, List.all_eq_true, decide_eq_true_eq] at stops
            exact stops.2 due (mem_deadlines_of_reportDue? waiting)
          · exact sameTime.symm ▸ ahead
      | fires id asked time found late still speech =>
          obtain rfl := Option.some.inj (waiting.symm.trans found)
          subst asked
          have silent := next.silent fresh concurrent still restQuiet
          refine .passedOn ⟨[], _, rfl, Nat.le_antisymm ahead late, connected, rfl,
            fun channel => ?_⟩
          rw [noted, silent channel, List.append_nil, modulesTold,
            saidBy_of_append (fun _ _ same => Event.noConfusion same) (speech.said channel),
            Nat.le_antisymm ahead late]
          change _ = if console.hears channel = true then _ else _
          split <;> rfl
      | ends untold time found still lost =>
          obtain rfl := Option.some.inj (waiting.symm.trans found)
          have silent := next.silent fresh concurrent still restQuiet
          have early := lt_of_rested (rested_of_lost timely.1 lost) waiting
          exact .dropped (.cons untold silent) [] event events rfl early connected
            (connected ▸ lost)

/-- A connection lasts until a time in the course of some events. -/
def LastsUntil (time : Nat) (connection : Connection) (console : Console)
    (events : List Event) : Prop :=
  ∃ earlier later, events = earlier ++ later ∧
    (console.run earlier).client.connection = some connection ∧ time ≤ (console.run earlier).now

theorem Reporting.told_of_lasts (fresh : Fresh base) (concurrent : base.host.concurrent = true)
    (reporting : Reporting base console) {connection : Connection} {events : List Event}
    (fate : ReportFate due connection console events)
    (timely : console.runsInTime events = true) (rested : (console.run events).rested = true)
    (lasts : LastsUntil due connection console events) :
    ToldAt due connection console.modules.current console events := by
  obtain ⟨first, second, whole, connected, reached⟩ := lasts
  cases fate with
  | passedOn told => exact told
  | waits _ still =>
      have early := lt_of_rested rested still
      rw [whole, runsInTime_append, Bool.and_eq_true] at timely
      have later := (reporting.run fresh concurrent first).now_le_run fresh concurrent timely.2
      rw [whole, run_append] at early
      omega
  | dropped _ earlier event later split early known lost =>
      rcases List.append_eq_append_iff.mp (split.symm.trans whole) with
        ⟨more, firstEq, rest⟩ | ⟨more, earlierEq, -⟩
      · cases more with
        | nil =>
            rw [firstEq, List.append_nil] at reached
            omega
        | cons _ more =>
            -- The connection was lost before, and does not come back.
            obtain ⟨rfl, rfl⟩ := List.cons.inj rest
            have gone := (Past.of_lost (reporting.run fresh concurrent earlier).served known
              lost).run more
            rw [firstEq, run_append, run_cons] at connected
            exact absurd rfl (gone.apart connection connected)
      · rw [split, earlierEq, List.append_assoc, runsInTime_append, runsInTime_append,
          Bool.and_eq_true, Bool.and_eq_true] at timely
        have later := (reporting.run fresh concurrent first).now_le_run fresh concurrent timely.2.1
        rw [earlierEq, run_append] at early
        omega

theorem ReportFate.hushed_of_not_lasts {connection : Connection} {events : List Event}
    (fate : ReportFate due connection console events)
    (lost : ¬LastsUntil due connection console events) : console.Hushed events := by
  cases fate with
  | passedOn told =>
      obtain ⟨earlier, later, split, now, connected, -⟩ := told
      exact absurd ⟨earlier, later, split, connected, Nat.le_of_eq now.symm⟩ lost
  | waits silent _ => exact silent
  | dropped silent => exact silent

end

end Console

open Console

/-- What comes of a report of a module and of what happens until the next one. -/
structure ReportOutcome (delay : Nat) (before : Console) (name : String) (later : List Event) :
    Prop where
  /-- A report to an attached runtime is passed on to this runtime after the delay, if the
  connection lasts so long, and not at all otherwise. -/
  attached : before.session.state = .attached →
    ∃ connection, before.client.connection = some connection ∧
      (LastsUntil (before.now + delay) connection (before.apply (.enterModule name)) later →
        ToldAt (before.now + delay) connection name before (.enterModule name :: later)) ∧
      (¬LastsUntil (before.now + delay) connection (before.apply (.enterModule name)) later →
        before.Hushed (.enterModule name :: later))
  detached : before.session.state ≠ .attached → before.Hushed (.enterModule name :: later)

/-- Reports, each with what happens until the next one. -/
def burst (reports : List (String × List Event)) : List Event :=
  reports.flatMap fun report => .enterModule report.1 :: report.2

/-- Every report is followed by the next one in less than a delay. -/
def Hasty (delay : Nat) (console : Console) : List (String × List Event) → Prop
  | [] => True
  | (name, gap) :: reports =>
      (∀ event ∈ gap, reportsModule event = false) ∧
        (console.run (.enterModule name :: gap)).now < console.now + delay ∧
        Hasty delay (console.run (.enterModule name :: gap)) reports

/-- When the runtime is told modules in a run, where a stretch of the run lasts until its end
or the next report. -/
structure ModuleReports (delay : Nat) (start : Console) (events : List Event) : Prop where
  /-- Nobody is told anything before the first report. -/
  unasked : ∀ earlier later, events = earlier ++ later →
    (∀ event ∈ earlier, reportsModule event = false) → start.Hushed earlier
  reported : ∀ earlier name later rest, events = earlier ++ .enterModule name :: (later ++ rest) →
    (∀ event ∈ later, reportsModule event = false) →
    (rest = [] ∨ ∃ other more, rest = .enterModule other :: more) →
      ReportOutcome delay (start.run earlier) name later
  /-- A burst of reports is passed on once, after the last of them. -/
  bursts : ∀ earlier reports name later rest connection,
    events = earlier ++ (burst reports ++ .enterModule name :: (later ++ rest)) →
    Hasty delay (start.run earlier) reports →
    (∀ event ∈ later, reportsModule event = false) →
    (rest = [] ∨ ∃ other more, rest = .enterModule other :: more) →
    let last := (start.run earlier).run (burst reports)
    last.client.connection = some connection →
    LastsUntil (last.now + delay) connection (last.apply (.enterModule name)) later →
      ToldAt (last.now + delay) connection name (start.run earlier)
        (burst reports ++ .enterModule name :: later)

section

variable {base console : Console}

/-- A report and what happens until something else is asked for. -/
theorem Console.Reporting.outcome (fresh : Fresh base) (concurrent : base.host.concurrent = true)
    (reporting : Reporting base console) (name : String) {later : List Event}
    (quiet : ∀ event ∈ later, reportsModule event = false)
    (timely : console.runsInTime (.enterModule name :: later) = true)
    (rested : (console.run (.enterModule name :: later)).rested = true) :
    ReportOutcome base.host.moduleDebounce console name later := by
  rw [runsInTime, Bool.and_eq_true] at timely
  obtain ⟨-, speech, module, without, within⟩ :=
    reportModule_course fresh reporting.settled reporting.timer name
  have next := reporting.step fresh concurrent (.enterModule name)
  have untold : console.Untold (.enterModule name) := untold_of_speech speech rfl
  have first : console.Hushed [.enterModule name] := .cons untold fun _ => rfl
  have now : (console.reportModule name).now = console.now :=
    (console.reportModule_changes name).same .now (by decide)
  have kept : (console.reportModule name).client.connection = console.client.connection :=
    (console.reportModule_changes name).same .connection (by decide)
  rcases reporting.settled.place with unbound | ⟨keys, bound⟩
  · have silent := next.silent fresh concurrent (without unbound.connection) quiet
    exact ⟨fun attached => absurd attached unbound.state, fun _ => .cons untold silent⟩
  · obtain ⟨connection, -, connected, -⟩ := bound.connection
    have fate := next.fate fresh concurrent (kept.trans connected)
      (within (connected ▸ nofun)) (now.symm ▸ Nat.le_add_right _ _) quiet timely.2
    refine ⟨fun _ => ⟨connection, connected, fun lasts => ?_, fun lost => ?_⟩,
      fun detached => absurd bound.state detached⟩
    · have told := next.told_of_lasts fresh concurrent fate timely.2 rested lasts
      rw [show (console.apply (.enterModule name)).modules.current = name from module] at told
      exact .preceded first told
    · exact .cons untold (fate.hushed_of_not_lasts lost)

/-- A report that is followed by another in less than the delay is not passed on. -/
theorem Console.Reporting.burst_hushed (fresh : Fresh base)
    (concurrent : base.host.concurrent = true) (reporting : Reporting base console)
    {reports : List (String × List Event)} {name : String} {rest : List Event}
    (hasty : Hasty base.host.moduleDebounce console reports)
    (timely : console.runsInTime (burst reports ++ .enterModule name :: rest) = true) :
    console.Hushed (burst reports) := by
  induction reports generalizing console with
  | nil => exact fun _ => rfl
  | cons report reports inductionHypothesis =>
      obtain ⟨other, gap⟩ := report
      obtain ⟨quiet, soon, hasty⟩ := hasty
      have split : burst ((other, gap) :: reports) =
          (.enterModule other :: gap) ++ burst reports := rfl
      rw [split, List.append_assoc, runsInTime_append, Bool.and_eq_true] at timely
      obtain ⟨timelyFirst, timelyRest⟩ := timely
      have next := reporting.run fresh concurrent (.enterModule other :: gap)
      -- Another report comes next, so nothing is due by then.
      have rested : (console.run (.enterModule other :: gap)).rested = true := by
        cases reports with
        | nil => exact (Bool.and_eq_true _ _ ▸ timelyRest).1
        | cons report reports => exact (Bool.and_eq_true _ _ ▸ timelyRest).1
      have outcome := reporting.outcome fresh concurrent other quiet timelyFirst rested
      have silent : console.Hushed (.enterModule other :: gap) := by
        by_cases attached : console.session.state = .attached
        · obtain ⟨connection, -, -, lost⟩ := outcome.attached attached
          refine lost fun ⟨first, second, gapEq, _, reached⟩ => ?_
          have start := reporting.step fresh concurrent (.enterModule other)
          rw [runsInTime, gapEq, runsInTime_append, Bool.and_eq_true, Bool.and_eq_true]
            at timelyFirst
          have later := (start.run fresh concurrent first).now_le_run fresh concurrent
            timelyFirst.2.2
          rw [run_cons, gapEq, run_append] at soon
          omega
        · exact outcome.detached attached
      rw [split]
      exact silent.append (inductionHypothesis next hasty timelyRest)

end

/-- Modules are reported to the runtime with a delay, and only the last of a burst of reports.
The embedding program leaves connections alone while it is told of one, and has put off no
report itself. -/
theorem module_reports (base : Console) (events : List Event) (fresh : Fresh base)
    (concurrent : base.host.concurrent = true) (unasked : ∀ id, base.reportAt? id = none)
    (timely : base.activateSession.runsInTime events = true)
    (rested : (base.activateSession.run events).rested = true) :
    ModuleReports base.host.moduleDebounce base.activateSession events := by
  obtain ⟨settled, ordered⟩ := activateSession_settled fresh
  have idle : base.activateSession.session.cycle = .empty := by
    simp [activateSession, fresh.session, Session.idle]
  have reporting : Reporting base base.activateSession := {
    settled := settled
    ordered := ordered
    served := .of_disconnected fresh.callFree.connection
    host := rfl
    timer := {
      own := fun id held => by
        rw [idle] at held
        cases held
      others := fun id due waits => by
        have none : base.activateSession.reportAt? id = none := unasked id
        rw [none] at waits
        cases waits } }
  have nothing : base.activateSession.reportDue? = none := by
    rw [reportDue?, idle]
    rfl
  -- A stretch ends when nothing is due.
  have ending (first rest : List Event) (split : events = first ++ rest)
      (ends : rest = [] ∨ ∃ other more, rest = .enterModule other :: more) :
      base.activateSession.runsInTime first = true ∧
        (base.activateSession.run first).rested = true := by
    rw [split, runsInTime_append, Bool.and_eq_true] at timely
    refine ⟨timely.1, ?_⟩
    rcases ends with rfl | ⟨other, more, rfl⟩
    · rwa [split, List.append_nil] at rested
    · exact (Bool.and_eq_true _ _ ▸ timely.2).1
  have outcome (earlier : List Event) (name : String) (later rest : List Event)
      (split : events = earlier ++ .enterModule name :: (later ++ rest))
      (quiet : ∀ event ∈ later, reportsModule event = false)
      (ends : rest = [] ∨ ∃ other more, rest = .enterModule other :: more) :
      ReportOutcome base.host.moduleDebounce (base.activateSession.run earlier) name later := by
    obtain ⟨timelyFirst, restedFirst⟩ :=
      ending (earlier ++ .enterModule name :: later) rest (by simp [split]) ends
    rw [runsInTime_append, Bool.and_eq_true] at timelyFirst
    rw [run_append] at restedFirst
    exact (reporting.run fresh concurrent earlier).outcome fresh concurrent name quiet
      timelyFirst.2 restedFirst
  exact {
    unasked := fun earlier later split quiet => reporting.silent fresh concurrent nothing quiet
    reported := outcome
    bursts := by
      intro earlier reports name later rest connection split hasty quiet ends last connected lasts
      have lastEq : base.activateSession.run (earlier ++ burst reports) = last := run_append ..
      have whole : events = (earlier ++ burst reports) ++ .enterModule name :: (later ++ rest) := by
        rw [split, List.append_assoc]
      have lastOutcome := outcome (earlier ++ burst reports) name later rest whole quiet ends
      rw [lastEq] at lastOutcome
      have held := (reporting.run fresh concurrent (earlier ++ burst reports)).settled.place
      rw [lastEq] at held
      have attached : last.session.state = .attached := by
        rcases held with unbound | ⟨keys, bound⟩
        · rw [unbound.connection] at connected
          cases connected
        · exact bound.state
      obtain ⟨found, known, told, -⟩ := lastOutcome.attached attached
      obtain rfl := Option.some.inj (known.symm.trans connected)
      rw [split, runsInTime_append, Bool.and_eq_true] at timely
      have silent := (reporting.run fresh concurrent earlier).burst_hushed fresh concurrent hasty
        timely.2
      exact .preceded silent (told lasts) }

/-- Two reports come in a burst, between which the terminal becomes wider; one is made shortly
before the connection ends, and one between connections. -/
def scatteredReports : List Event :=
  [.connect .plain, .enterModule "A", .clock 150, .enterModule "B", .resize ⟨2, 30⟩, .clock 350,
    .work (.fire 0), .enterModule "C", .disconnect, .clock 700, .enterModule "D",
    .connect .plain, .clock 1000]

theorem module_reports_scattered :
    (∀ id, (Console.bare ⟨2, 20⟩).reportAt? id = none) ∧
      (Console.bare ⟨2, 20⟩).activateSession.runsInTime scatteredReports = true ∧
      ((Console.bare ⟨2, 20⟩).activateSession.run scatteredReports).rested = true ∧
      ModuleReports 200 (Console.bare ⟨2, 20⟩).activateSession scatteredReports ∧
      (Console.bare ⟨2, 20⟩).activateSession.noted (modulesTold 0) scatteredReports =
        [(350, moduleNotice "B" 30)] ∧
      (Console.bare ⟨2, 20⟩).activateSession.noted (modulesTold 1) scatteredReports = [] := by
  have unasked (id : Nat) : (Console.bare ⟨2, 20⟩).reportAt? id = none := rfl
  have timely : (Console.bare ⟨2, 20⟩).activateSession.runsInTime scatteredReports = true := by
    decide +kernel
  have rested : ((Console.bare ⟨2, 20⟩).activateSession.run scatteredReports).rested = true := by
    decide +kernel
  exact ⟨unasked, timely, rested, module_reports _ _ (bare_fresh _) rfl unasked timely rested,
    by decide +kernel, by decide +kernel⟩

end RuntimeConsole
