/-
Module: RuntimeConsole.Proofs.LifecycleCalm
Purpose: Courses are calm where only the last observer of beginnings has effects on the client
  and no observer of ends connects.
Main exports:
  ClientAction.idle, Modest, Course.ran, Course.calms
-/
import RuntimeConsole.Proofs.LifecycleCourse

namespace RuntimeConsole

/-- Whether an action does nothing to connections, whatever else it does. -/
def ClientAction.idle (connected : Bool) : ClientAction → Bool
  | .send _ => true
  | .disconnect => !connected
  | .connect _ | .boot => false

/-- Observers of beginnings leave the connection alone while others have to be told, and
observers of ends do not begin another. -/
structure Modest (conduct : List ClientAction → List ClientAction → Prop)
    (boots : List (Nat × BootObserver)) (detaches : List (Nat × DetachObserver)) : Prop where
  boots : ∀ entry ∈ boots.dropLast, ∀ actions, conduct entry.2.actions actions →
    ∀ action ∈ actions, action.idle true = true
  detaches : ∀ entry ∈ detaches, ∀ actions, conduct entry.2.actions actions →
    ∀ action ∈ actions, action.idle false = true

theorem ClientAction.idle_of_connected {action : ClientAction} (idle : action.idle true = true)
    (connected : Bool) : action.idle connected = true := by
  cases action <;> cases connected <;> first | rfl | cases idle

/-- Observers who do what they were registered to do are modest if that is. -/
theorem Modest.asRegistered {boots : List (Nat × BootObserver)}
    {detaches : List (Nat × DetachObserver)}
    (bootsIdle : ∀ entry ∈ boots.dropLast, ∀ action ∈ entry.2.actions, action.idle true = true)
    (detachesIdle : ∀ entry ∈ detaches, ∀ action ∈ entry.2.actions, action.idle false = true) :
    Modest AsRegistered boots detaches where
  boots entry member _ same := same ▸ bootsIdle entry member
  detaches entry member _ same := same ▸ detachesIdle entry member

/-! ### Nesting -/

namespace Console

theorem hearBoot_overrun (console : Console) (process : Nat) (observer : BootObserver) :
    (console.hearBoot process observer).overrun = console.overrun := by
  cases observer with
  | session => exact (console.sessionBoot_changes process).same .overrun (by decide)
  | guest label takesEarly actions =>
      cases takesEarly with
      | true => exact (console.takeEarly_changes process).same .overrun (by decide)
      | false => rfl

theorem hearDetach_overrun (console : Console) (observer : DetachObserver) :
    (console.hearDetach observer).overrun = console.overrun := by
  cases observer with
  | guest label actions => rfl
  | session =>
      change console.sessionDetached.overrun = _
      unfold sessionDetached
      split
      next =>
          have written := console.detach_changes.andThen (writeText_changes _ exitMessage)
            (List.Subset.refl _)
          have torn := written.andThen (teardownCycle_changes _) (List.Subset.refl _)
          have reset := torn.andThen (resetPending_changes _) (List.Subset.refl _)
          have all := reset.andThen (withSessionState_changes _ .detached) (List.Subset.refl _)
          exact all.same .overrun (by decide)
      next => rfl

/-- A start that does not connect at once is not given up. -/
theorem bootWithin_ran (console : Console) (ran : (console.bootWithin 0).1.overrun = false) :
    console.overrun = false := by
  unfold bootWithin at ran
  split at ran
  next => exact ran
  next booter _ =>
      dsimp only at ran
      split at ran
      next => exact ran
      next => exact ran
      next command patience _ =>
          have launched := launch_changes (console.emit (.booted booter.label)) command patience
          exact (launched.same .overrun (by decide)).symm.trans ran
      next => cases ran
      next nested => exact absurd nested (Nat.succ_ne_zero _).symm

end Console

section

variable {conduct : List ClientAction → List ClientAction → Prop} {deed : Deed}
  {before after : Console} {log : List Notice} {calm : Bool}
  {boots : List (Nat × BootObserver)} {detaches : List (Nat × DetachObserver)}

/-- What has been nested too deeply stays on record. -/
theorem Course.ran (course : Course conduct deed before log calm after)
    (ran : after.overrun = false) : before.overrun = false := by
  induction course with
  | dropped _ => cases ran
  | send => exact ((Console.send_changes ..).same .overrun (by decide)).symm.trans ran
  | @connect spec console ended _ _ _ _ _ prepared installed process channel id prepares _ installs
      _ endsHypothesis bootsHypothesis =>
      have prepared := (console.prepareProcess_changes spec).same .overrun (by decide)
      have installed := (ended.installConnection_changes process channel).same .overrun (by decide)
      rw [prepares] at prepared
      rw [installs] at installed
      exact prepared.symm.trans (endsHypothesis (installed.symm.trans (bootsHypothesis ran)))
  | disconnect _ inductionHypothesis => exact inductionHypothesis ran
  | boot => exact Console.bootWithin_ran _ ran
  | bootConnects _ _ _ inductionHypothesis => exact inductionHypothesis ran
  | endsNone _ => exact ran
  | @ends _ console _ _ _ _ _ inductionHypothesis =>
      have dropped := Console.resetPending_changes
        (console.withClient { console.client with connection := none })
      exact (dropped.same .overrun (by decide)).symm.trans (inductionHypothesis ran)
  | bootsNone => exact ran
  | boots _ _ _ actsHypothesis restHypothesis =>
      exact (Console.hearBoot_overrun _ _ _).symm.trans (actsHypothesis (restHypothesis ran))
  | detachesNone => exact ran
  | detaches _ _ _ actsHypothesis restHypothesis =>
      exact (Console.hearDetach_overrun _ _).symm.trans (actsHypothesis (restHypothesis ran))
  | actsNone => exact ran
  | acts _ _ actHypothesis restHypothesis => exact actHypothesis (restHypothesis ran)

/-! ### Calm -/

/-- What modest observers make of a deed. -/
def Deed.Calms (conduct : List ClientAction → List ClientAction → Prop) :
    Deed → Console → List Notice → Bool → Console → Prop
  | .act action, before, log, calm, after =>
      calm = true ∧ (action.idle before.client.isConnected = true →
        log = [] ∧ after.connectionId? = before.connectionId?)
  | .acts last actions, before, log, calm, after =>
      (last = true → calm = true) ∧
        ((∀ action ∈ actions, action.idle before.client.isConnected = true) →
          calm = true ∧ log = [] ∧ after.connectionId? = before.connectionId?)
  | .ends, before, log, calm, after =>
      calm = true ∧ after.connectionId? = none ∧ (before.connectionId? = none → log = [])
  | .boots _ _ rest, _, _, calm, _ => Modest conduct rest [] → calm = true
  | .detaches _ rest, before, _, calm, after =>
      Modest conduct [] rest → before.connectionId? = none →
        calm = true ∧ after.connectionId? = none

theorem Modest.tail {entry : Nat × BootObserver} {rest : List (Nat × BootObserver)}
    (modest : Modest conduct (entry :: rest) []) : Modest conduct rest [] where
  boots other member := by
    cases rest with
    | nil => cases member
    | cons next rest => exact modest.boots other (List.mem_cons_of_mem _ member)
  detaches := modest.detaches

/-- Every course is calm where the observers are modest, as long as nothing is nested too
deeply. -/
theorem Course.calms (course : Course conduct deed before log calm after)
    (modest : Modest conduct boots detaches) (observed : before.Observed boots detaches)
    (ran : after.overrun = false) : deed.Calms conduct before log calm after := by
  induction course with
  | dropped _ => cases ran
  | @send name console =>
      have same := Console.Undisturbed.of_changes (console.send_changes name []) (by decide)
      exact ⟨rfl, fun _ => ⟨rfl, congrArg (Option.map Connection.id) same.connection⟩⟩
  | @connect _ _ ended _ _ _ _ _ _ installed process channel id prepares ending installs telling
      endsHypothesis bootsHypothesis =>
      have preparedObserved := observed.undisturbed (Console.prepareProcess_undisturbed prepares)
      have installedObserved := ((ending.observed preparedObserved).installed installs).1
      have kept := (ended.installConnection_changes process channel).same .overrun (by decide)
      rw [installs] at kept
      obtain ⟨firstCalm, disconnected, -⟩ :=
        endsHypothesis preparedObserved (kept.symm.trans (telling.ran ran))
      have secondCalm := bootsHypothesis installedObserved ran
        ⟨by rw [installedObserved.boots]; exact modest.boots, nofun⟩
      exact ⟨by simp [firstCalm, secondCalm, Console.isConnected_eq, disconnected], nofun⟩
  | disconnect _ inductionHypothesis =>
      obtain ⟨calm, disconnected, silent⟩ := inductionHypothesis observed ran
      refine ⟨calm, fun idle => ?_⟩
      have none := Option.not_isSome_iff_eq_none.mp
        (by simpa [ClientAction.idle, Console.isConnected_eq] using idle)
      exact ⟨silent none, disconnected.trans none.symm⟩
  | boot => exact ⟨rfl, nofun⟩
  | bootConnects _ _ _ inductionHypothesis =>
      exact ⟨(inductionHypothesis (observed.undisturbed ⟨rfl, rfl, rfl⟩) ran).1, nofun⟩
  | endsNone disconnected =>
      exact ⟨rfl, congrArg (Option.map Connection.id) disconnected, fun _ => rfl⟩
  | @ends connection console _ _ _ connected _ inductionHypothesis =>
      obtain ⟨calm, disconnected⟩ := inductionHypothesis observed.dropped ran
        ⟨nofun, by rw [observed.detaches]; exact modest.detaches⟩ console.dropConnection_same.1
      exact ⟨calm, disconnected, fun none => by simp [Console.connectionId?, connected] at none⟩
  | bootsNone => exact fun _ => rfl
  | @boots _ process _ observer rest _ _ _ _ _ _ firstCalm _ acts acting others actsHypothesis
      restHypothesis =>
      intro modestHere
      have heard := (observed.hearBoot process observer).1
      have actsCalm := actsHypothesis heard (others.ran ran)
      have second := restHypothesis (acting.observed heard) ran modestHere.tail
      -- Only the last observer of a round may do more than send.
      have first : firstCalm = true := by
        cases rest with
        | nil => exact actsCalm.1 rfl
        | cons next rest =>
            exact (actsCalm.2 fun action member => ClientAction.idle_of_connected
              (modestHere.boots _ List.mem_cons_self _ acts action member) _).1
      rw [first, second]
      rfl
  | detachesNone => exact fun _ disconnected => ⟨rfl, disconnected⟩
  | @detaches _ _ observer _ _ _ _ _ _ _ _ _ acts acting others actsHypothesis restHypothesis =>
      intro modestHere disconnected
      obtain ⟨heard, same, -⟩ := observed.hearDetach observer
      have none := same.trans disconnected
      obtain ⟨first, -, kept⟩ := (actsHypothesis heard (others.ran ran)).2 fun action member => by
        rw [Console.isConnected_eq, none]
        exact modestHere.detaches _ List.mem_cons_self _ acts action member
      obtain ⟨second, after⟩ := restHypothesis (acting.observed heard) ran
        ⟨nofun, fun entry member => modestHere.detaches entry (List.mem_cons_of_mem _ member)⟩
        (kept.trans none)
      exact ⟨by rw [first, second]; rfl, after⟩
  | actsNone => exact ⟨fun _ => rfl, fun _ => ⟨rfl, rfl, rfl⟩⟩
  | acts acting others actHypothesis restHypothesis =>
      obtain ⟨firstCalm, firstIdle⟩ := actHypothesis observed (others.ran ran)
      obtain ⟨lastCalm, restIdle⟩ := restHypothesis (acting.observed observed) ran
      refine ⟨fun last => by simp [last, firstCalm, lastCalm last], fun idle => ?_⟩
      obtain ⟨rfl, kept⟩ := firstIdle (idle _ List.mem_cons_self)
      obtain ⟨secondCalm, rfl, later⟩ := restIdle fun action member => by
        rw [Console.isConnected_eq, kept, ← Console.isConnected_eq]
        exact idle action (List.mem_cons_of_mem _ member)
      exact ⟨by simp [firstCalm, secondCalm], rfl, later.trans kept⟩

end

end RuntimeConsole
