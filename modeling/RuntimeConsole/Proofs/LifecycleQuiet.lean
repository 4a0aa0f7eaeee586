/-
Module: RuntimeConsole.Proofs.LifecycleQuiet
Purpose: Where observers leave connections alone, every one of them is told exactly once of a
  connection that begins or ends, in the order of registration, and of nothing else.
Main exports:
  Console.Spared, Course.quiet_connect, Course.quiet_disconnect, Console.connect_told,
  Console.disconnect_told
-/
import RuntimeConsole.Proofs.LifecycleSerial
import RuntimeConsole.Proofs.SessionCycle

namespace RuntimeConsole

namespace Console

/-! ### What leaves the client alone -/

/-- Neither the connection nor the observers change, no number is given away, and nothing is
nested too deeply. -/
structure Spared (before after : Console) : Prop where
  connection : after.connectionId? = before.connectionId?
  observers : (after.client.bootObservers, after.client.detachObservers) =
    (before.client.bootObservers, before.client.detachObservers)
  nextId : after.client.nextId = before.client.nextId
  overrun : after.overrun = before.overrun
  aside : after.CycleAside

namespace Spared

variable {first second third : Console}

theorem refl (aside : first.CycleAside) : Spared first first :=
  ⟨rfl, rfl, rfl, rfl, aside⟩

theorem trans (front : Spared first second) (back : Spared second third) : Spared first third where
  connection := back.connection.trans front.connection
  observers := back.observers.trans front.observers
  nextId := back.nextId.trans front.nextId
  overrun := back.overrun.trans front.overrun
  aside := back.aside

theorem of_changes {aspects : List Aspect} (step : Changes aspects first second)
    (apart : [.connection, .observers, .nextId, .overrun, .session].all (· ∉ aspects) = true)
    (aside : first.CycleAside) : Spared first second where
  connection := congrArg (Option.map Connection.id) (step.kept apart .connection (by decide))
  observers := step.kept apart .observers (by decide)
  nextId := step.kept apart .nextId (by decide)
  overrun := step.kept apart .overrun (by decide)
  aside := aside.of_same (step.kept apart .session (by decide))

end Spared

variable {console : Console}

theorem hearBoot_nextId (console : Console) (process : Nat) (observer : BootObserver) :
    (console.hearBoot process observer).client.nextId = console.client.nextId := by
  cases observer with
  | session => exact (console.sessionBoot_changes process).same .nextId (by decide)
  | guest label takesEarly actions =>
      cases takesEarly with
      | true => exact (console.takeEarly_changes process).same .nextId (by decide)
      | false => rfl

theorem hearDetach_nextId (console : Console) (observer : DetachObserver) :
    (console.hearDetach observer).client.nextId = console.client.nextId := by
  cases observer with
  | guest label actions => rfl
  | session =>
      change console.sessionDetached.client.nextId = _
      unfold sessionDetached
      split
      next =>
          have written := console.detach_changes.andThen (writeText_changes _ exitMessage)
            (List.Subset.refl _)
          have torn := written.andThen (teardownCycle_changes _) (List.Subset.refl _)
          have reset := torn.andThen (resetPending_changes _) (List.Subset.refl _)
          have all := reset.andThen (withSessionState_changes _ .detached) (List.Subset.refl _)
          exact all.same .nextId (by decide)
      next => rfl

theorem hearBoot_spared (aside : console.CycleAside) (process : Nat) (observer : BootObserver) :
    Spared console (console.hearBoot process observer) := by
  have before : console.Observed console.client.bootObservers console.client.detachObservers :=
    ⟨rfl, rfl, aside⟩
  obtain ⟨observed, connection, -⟩ := before.hearBoot process observer
  exact ⟨connection, Prod.ext observed.boots observed.detaches,
    console.hearBoot_nextId process observer, console.hearBoot_overrun process observer,
    observed.aside⟩

theorem hearDetach_spared (aside : console.CycleAside) (observer : DetachObserver) :
    Spared console (console.hearDetach observer) := by
  have before : console.Observed console.client.bootObservers console.client.detachObservers :=
    ⟨rfl, rfl, aside⟩
  obtain ⟨observed, connection, -⟩ := before.hearDetach observer
  exact ⟨connection, Prod.ext observed.boots observed.detaches,
    console.hearDetach_nextId observer, console.hearDetach_overrun observer, observed.aside⟩

/-- The console without its connection. -/
def parted (console : Console) : Console :=
  console.withClient { console.client with connection := none }

/-- The console with a connection under the next number. -/
def joined (console : Console) : Console :=
  console.withClient
    { console.client with
      connection := some ⟨console.client.nextId, 0, 0⟩, nextId := console.client.nextId + 1 }

/-- What has to be told before the connection there is has ended. -/
def partings (console : Console) : List Notice :=
  match console.connectionId? with
  | none => []
  | some id =>
      .ended id :: console.client.detachObservers.map fun entry => .toldDetach id entry.1

/-- What has to be told when a connection begins under the next number. -/
def greetings (console : Console) : List Notice :=
  .began console.client.nextId ::
    console.client.bootObservers.map fun entry => .toldBoot console.client.nextId entry.1

theorem dropConnection_spared (aside : console.CycleAside) :
    Spared console.parted console.dropConnection :=
  .of_changes console.parted.resetPending_changes (by decide) aside

/-- A connection is installed under the next number. -/
theorem installConnection_spared (aside : console.CycleAside) (process channel : Nat) :
    Spared console.joined (console.installConnection process channel).1 := by
  obtain ⟨connection, observers, session⟩ := console.installConnection_same process channel
  have served := serveChannel_changes (console.withClient
    { console.client.withFreshId.1 with
      connection := some ⟨console.client.withFreshId.2, channel, process⟩ }) channel
    console.client.withFreshId.2
  exact ⟨connection, observers, served.same .nextId (by decide), served.same .overrun (by decide),
    aside.of_same session⟩

/-- The observers of a console leave connections alone. -/
structure Quiet (console : Console) : Prop where
  boots : ∀ entry ∈ console.client.bootObservers,
    entry.2.actions.all ClientAction.passive = true
  detaches : ∀ entry ∈ console.client.detachObservers,
    entry.2.actions.all ClientAction.passive = true

theorem Quiet.of_same {before after : Console} (quiet : before.Quiet)
    (observers : (after.client.bootObservers, after.client.detachObservers) =
      (before.client.bootObservers, before.client.detachObservers)) : after.Quiet where
  boots := by
    rw [show after.client.bootObservers = _ from congrArg Prod.fst observers]
    exact quiet.boots
  detaches := by
    rw [show after.client.detachObservers = _ from congrArg Prod.snd observers]
    exact quiet.detaches

end Console

open Console

section

variable {before after : Console} {log : List Notice} {calm : Bool}

/-! ### Rounds -/

/-- Of actions that leave connections alone nobody is told. -/
theorem Course.quiet_acts {last : Bool} {actions : List ClientAction}
    (course : Course AsRegistered (.acts last actions) before log calm after)
    (passive : actions.all ClientAction.passive = true) (aside : before.CycleAside)
    (ran : after.overrun = false) : log = [] ∧ Spared before after := by
  induction actions generalizing before log calm with
  | nil =>
      cases course with
      | dropped _ => cases ran
      | actsNone => exact ⟨rfl, .refl aside⟩
  | cons action actions inductionHypothesis =>
      rw [List.all_cons, Bool.and_eq_true] at passive
      cases course with
      | dropped _ => cases ran
      | acts acting others =>
          cases acting with
          | dropped _ => cases others.ran ran
          | @send name =>
              have sent := Spared.of_changes (before.send_changes name []) (by decide) aside
              obtain ⟨rfl, spared⟩ := inductionHypothesis others passive.2 sent.aside
              exact ⟨rfl, sent.trans spared⟩
          | connect => cases passive.1
          | disconnect => cases passive.1
          | boot => cases passive.1
          | bootConnects => cases passive.1

/-- The observers of a beginning are told once each, in their order. -/
theorem Course.quiet_boots {id process : Nat} {observers : List (Nat × BootObserver)}
    (course : Course AsRegistered (.boots id process observers) before log calm after)
    (passive : ∀ entry ∈ observers, entry.2.actions.all ClientAction.passive = true)
    (aside : before.CycleAside) (ran : after.overrun = false) :
    log = observers.map (fun entry => .toldBoot id entry.1) ∧ Spared before after := by
  induction observers generalizing before log calm with
  | nil =>
      cases course with
      | dropped call => cases call
      | bootsNone => exact ⟨rfl, .refl aside⟩
  | cons entry observers inductionHypothesis =>
      cases course with
      | dropped call => cases call
      | @boots _ _ key observer _ actions _ between _ first second firstCalm secondCalm registered
          acting others =>
          obtain rfl := registered
          have heard := hearBoot_spared aside process observer
          obtain ⟨rfl, acted⟩ := acting.quiet_acts (passive _ List.mem_cons_self) heard.aside
            (others.ran ran)
          obtain ⟨rfl, told⟩ := inductionHypothesis others
            (fun other member => passive other (List.mem_cons_of_mem _ member)) acted.aside
          exact ⟨rfl, (heard.trans acted).trans told⟩

/-- The observers of an end are told once each, in their order. -/
theorem Course.quiet_detaches {id : Nat} {observers : List (Nat × DetachObserver)}
    (course : Course AsRegistered (.detaches id observers) before log calm after)
    (passive : ∀ entry ∈ observers, entry.2.actions.all ClientAction.passive = true)
    (aside : before.CycleAside) (ran : after.overrun = false) :
    log = observers.map (fun entry => .toldDetach id entry.1) ∧ Spared before after := by
  induction observers generalizing before log calm with
  | nil =>
      cases course with
      | dropped call => cases call
      | detachesNone => exact ⟨rfl, .refl aside⟩
  | cons entry observers inductionHypothesis =>
      cases course with
      | dropped call => cases call
      | @detaches _ key observer _ actions _ between _ first second firstCalm secondCalm registered
          acting others =>
          obtain rfl := registered
          have heard := hearDetach_spared aside observer
          obtain ⟨rfl, acted⟩ := acting.quiet_acts (passive _ List.mem_cons_self) heard.aside
            (others.ran ran)
          obtain ⟨rfl, told⟩ := inductionHypothesis others
            (fun other member => passive other (List.mem_cons_of_mem _ member)) acted.aside
          exact ⟨rfl, (heard.trans acted).trans told⟩

/-! ### Calls -/

/-- The connection there is ends, and its observers are told. -/
theorem Course.quiet_ends (course : Course AsRegistered .ends before log calm after)
    (quiet : before.Quiet) (aside : before.CycleAside) (ran : after.overrun = false) :
    log = before.partings ∧ Spared before.parted after := by
  cases course with
  | dropped _ => cases ran
  | endsNone disconnected =>
      have none : before.connectionId? = Option.none := congrArg (Option.map _) disconnected
      exact ⟨by rw [partings, none], none, rfl, rfl, rfl, aside⟩
  | @ends connection _ _ _ _ connected telling =>
      have some : before.connectionId? = Option.some connection.id :=
        congrArg (Option.map _) connected
      have dropped := dropConnection_spared aside
      obtain ⟨rfl, told⟩ := telling.quiet_detaches quiet.detaches dropped.aside ran
      exact ⟨by rw [partings, some], dropped.trans told⟩

theorem Course.quiet_disconnect
    (course : Course AsRegistered (.act .disconnect) before log calm after)
    (quiet : before.Quiet) (aside : before.CycleAside) (ran : after.overrun = false) :
    log = before.partings ∧ Spared before.parted after := by
  cases course with
  | dropped _ => cases ran
  | disconnect ending => exact ending.quiet_ends quiet aside ran

/-- The connection there is ends, another begins, and the observers of either are told. -/
theorem Course.quiet_connect {spec : ProcessSpec}
    (course : Course AsRegistered (.act (.connect spec)) before log calm after)
    (quiet : before.Quiet) (aside : before.CycleAside) (ran : after.overrun = false) :
    log = before.partings ++ before.greetings ∧ Spared before.joined after := by
  cases course with
  | dropped _ => cases ran
  | @connect _ _ ended _ first second _ _ prepared installed process channel id prepares ending
      installs telling =>
      have readied : Spared before prepared := by
        have same := Spared.of_changes (before.prepareProcess_changes spec) (by decide) aside
        rwa [prepares] at same
      have installing := (ended.installConnection_changes process channel).same .overrun (by decide)
      have numbered : id = ended.client.nextId := congrArg Prod.snd installs.symm
      rw [installs] at installing
      have endedRan : ended.overrun = false := installing.symm.trans (telling.ran ran)
      obtain ⟨rfl, parted⟩ :=
        ending.quiet_ends (quiet.of_same readied.observers) readied.aside endedRan
      have joined : Spared ended.joined installed := by
        have same := installConnection_spared parted.aside process channel
        rwa [installs] at same
      -- Nothing but the end of the connection has happened before the next one is installed.
      have observers := parted.observers.trans readied.observers
      have installedObservers := joined.observers.trans observers
      have nextId : ended.client.nextId = before.client.nextId :=
        parted.nextId.trans readied.nextId
      obtain ⟨rfl, told⟩ := telling.quiet_boots (quiet.of_same installedObservers).boots
        joined.aside ran
      have partings : prepared.partings = before.partings := by
        unfold Console.partings
        rw [readied.connection,
          show prepared.client.detachObservers = _ from congrArg Prod.snd readied.observers]
      rw [numbered, nextId, partings,
        show installed.client.bootObservers = _ from congrArg Prod.fst installedObservers]
      refine ⟨rfl, ?_⟩
      have all := joined.trans told
      refine ⟨all.connection.trans ?_, all.observers.trans observers, all.nextId.trans ?_,
        all.overrun.trans (parted.overrun.trans readied.overrun), all.aside⟩
      · exact congrArg some nextId
      · exact congrArg (· + 1) nextId

end

/-! ### Nothing is nested too deeply -/

namespace Console

theorem tellBoot_overrun (nesting : Nat) (console : Console) (process : Nat)
    (observer : BootObserver) (passive : observer.actions.all ClientAction.passive = true) :
    (tellBoot (nesting + 1) console process observer).overrun = console.overrun := by
  cases observer with
  | session => exact console.hearBoot_overrun process .session
  | guest label takesEarly actions =>
      exact (tellBoot_passive_changes nesting console process (.guest label takesEarly actions)
        passive).same .overrun (by decide)

theorem tellDetach_overrun (nesting : Nat) (console : Console) (observer : DetachObserver)
    (passive : observer.actions.all ClientAction.passive = true) :
    (tellDetach (nesting + 1) console observer).overrun = console.overrun := by
  cases observer with
  | session => exact console.hearDetach_overrun .session
  | guest label actions =>
      exact (tellDetach_passive_changes nesting console (.guest label actions) passive).same
        .overrun (by decide)

theorem foldl_overrun {Item : Type} {step : Console → Item → Console} {items : List Item}
    (each : ∀ item ∈ items, ∀ console, (step console item).overrun = console.overrun)
    (console : Console) : (items.foldl step console).overrun = console.overrun := by
  induction items generalizing console with
  | nil => rfl
  | cons item items inductionHypothesis =>
      have first := each item List.mem_cons_self console
      have rest := inductionHypothesis
        (fun other member => each other (List.mem_cons_of_mem item member)) (step console item)
      exact rest.trans first

variable {console : Console}

theorem disconnectWithin_overrun (nesting : Nat) (quiet : console.Quiet) :
    (disconnectWithin (nesting + 2) console).overrun = console.overrun := by
  rw [disconnectWithin]
  split
  next =>
      have told := foldl_overrun (fun entry member now =>
        tellDetach_overrun nesting now entry.2 (quiet.detaches entry member))
        console.parted.resetPending
      exact told.trans (console.parted.resetPending_changes.same .overrun (by decide))
  next => rfl

/-- Where the observers leave connections alone, connecting nests nothing too deeply. -/
theorem connect_overrun (spec : ProcessSpec) (quiet : console.Quiet) (aside : console.CycleAside) :
    (console.connect spec).1.overrun = console.overrun := by
  have prepares := console.prepareProcess_changes spec
  rw [connect, nestingLimit, connectWithin]
  generalize console.prepareProcess spec = ready at prepares ⊢
  obtain ⟨prepared, process, channel⟩ := ready
  have readied : Spared console prepared := .of_changes prepares (by decide) aside
  have preparedQuiet := quiet.of_same readied.observers
  dsimp only
  obtain ⟨ended, endedEq⟩ : ∃ ended, ended =
      if prepared.client.isConnected then disconnectWithin 99 prepared else prepared := ⟨_, rfl⟩
  have endedRan : ended.overrun = prepared.overrun := by
    rw [endedEq]
    split
    · exact disconnectWithin_overrun 97 preparedQuiet
    · rfl
  have observed : ended.Observed prepared.client.bootObservers prepared.client.detachObservers := by
    have before : prepared.Observed prepared.client.bootObservers prepared.client.detachObservers :=
      ⟨rfl, rfl, readied.aside⟩
    rw [endedEq]
    split
    · obtain ⟨_, _, course⟩ := (nests 99).ends prepared
      exact course.observed before
    · exact before
  have installing := ended.installConnection_changes process channel
  have observers := (ended.installConnection_same process channel).2.1
  rw [← endedEq]
  generalize ended.installConnection process channel = result at installing observers ⊢
  obtain ⟨installed, id⟩ := result
  have boots : installed.client.bootObservers = prepared.client.bootObservers :=
    (congrArg Prod.fst observers).trans observed.boots
  have passive : ∀ entry ∈ installed.client.bootObservers, ∀ now,
      (tellBoot 99 now process entry.2).overrun = now.overrun := fun entry member now =>
    tellBoot_overrun 98 now process entry.2 (preparedQuiet.boots entry (boots ▸ member))
  have told := foldl_overrun passive installed
  exact told.trans ((installing.same .overrun (by decide)).trans (endedRan.trans readied.overrun))

theorem disconnect_overrun (quiet : console.Quiet) :
    console.disconnect.overrun = console.overrun :=
  disconnectWithin_overrun 98 quiet

/-! ### What is told -/

variable (quiet : console.Quiet) (aside : console.CycleAside) (ran : console.overrun = false)
include quiet aside ran

/-- Connecting tells of the end of the connection there was and of the beginning of the next. -/
theorem connect_told (spec : ProcessSpec) :
    Spared console.joined (console.connect spec).1 ∧
      ∀ log, (∃ calm, Course AsRegistered (.act (.connect spec)) console log calm
          (console.connect spec).1) ↔ log = console.partings ++ console.greetings := by
  have done := (console.connect_overrun spec quiet aside).trans ran
  obtain ⟨log, calm, course⟩ := console.callClient_course (.connect spec)
  obtain ⟨rfl, spared⟩ := course.quiet_connect quiet aside done
  refine ⟨spared, fun log => ⟨?_, ?_⟩⟩
  · rintro ⟨calm, course⟩
    exact (course.quiet_connect quiet aside done).1
  · rintro rfl
    exact ⟨calm, course⟩

/-- Disconnecting tells of the end of the connection there was. -/
theorem disconnect_told :
    Spared console.parted console.disconnect ∧
      ∀ log, (∃ calm, Course AsRegistered (.act .disconnect) console log calm
          console.disconnect) ↔ log = console.partings := by
  have done := (console.disconnect_overrun quiet).trans ran
  obtain ⟨log, calm, course⟩ := console.callClient_course .disconnect
  obtain ⟨rfl, spared⟩ := course.quiet_disconnect quiet aside done
  refine ⟨spared, fun log => ⟨?_, ?_⟩⟩
  · rintro ⟨calm, course⟩
    exact (course.quiet_disconnect quiet aside done).1
  · rintro rfl
    exact ⟨calm, course⟩

end Console

end RuntimeConsole
