/-
Module: RuntimeConsole.Proofs.CallTable
Purpose: What a connection that begins or ends does to the calls that wait, whatever
  the observers of connections do with the client in the meantime.
Main exports:
  PendingCall.failed, Console.Renewed, Console.Cut, Console.connect_cut,
  Console.disconnect_cut
-/
import RuntimeConsole.Proofs.SessionFootprint

namespace RuntimeConsole

/-- What a call comes to when its connection ends. -/
def PendingCall.failed (call : PendingCall) : PendingCall × Except Failure Json :=
  (call, .error (.disconnected call.name))

namespace Console

/-! ### Calls that fail -/

@[simp] theorem answers_failCall (console : Console) (call : PendingCall) :
    (console.failCall call).answers = console.answers ++ [call.failed] := by
  simp [answers, failCall, spawn, Task.answer?, PendingCall.failed]

theorem foldl_failCall_answers (calls : List PendingCall) (console : Console) :
    (calls.foldl failCall console).answers =
      console.answers ++ calls.map PendingCall.failed := by
  induction calls generalizing console with
  | nil => simp
  | cons call calls inductionHypothesis =>
      rw [List.foldl_cons, inductionHypothesis, answers_failCall, List.map_cons,
        List.append_assoc, List.singleton_append]

theorem resetPending_answers (console : Console) :
    console.resetPending.answers =
      console.answers ++ console.client.pending.map PendingCall.failed :=
  foldl_failCall_answers _ _

theorem resetPending_pending (console : Console) : console.resetPending.client.pending = [] := by
  have failing : Changes [.tasks, .answers]
      (console.withClient { console.client with pending := [] }) console.resetPending :=
    .foldl failCall_changes _ _
  exact failing.same .pending (by decide)

/-! ### While no call waits -/

/-- There is no connection now, or one that has been numbered since. -/
def Renewed (before after : Console) : Prop :=
  ∀ connection, after.client.connection = some connection →
    before.client.nextId ≤ connection.id

/-- The number of the connection, if there is one, has been given away. -/
def ConnectionNumbered (console : Console) : Prop :=
  ∀ connection, console.client.connection = some connection →
    connection.id < console.client.nextId

theorem ConnectionNumbered.of_changes {before after : Console} {aspects : List Aspect}
    (numbered : before.ConnectionNumbered) (step : Changes aspects before after)
    (apart : [.connection, .nextId].all (· ∉ aspects) = true) : after.ConnectionNumbered := by
  have sameConnection : after.client.connection = before.client.connection :=
    step.kept apart .connection (by decide)
  have sameNextId : after.client.nextId = before.client.nextId :=
    step.kept apart .nextId (by decide)
  unfold ConnectionNumbered
  rwa [sameConnection, sameNextId]

/-- What observers do to the calls: nothing, as long as none waits.  They may connect
and disconnect, so the connection is the old one or a new one. -/
structure Calm (before after : Console) : Prop where
  overrun : before.overrun = false
  nextId : before.client.nextId ≤ after.client.nextId
  connection : after.client.connection = before.client.connection ∨ Renewed before after
  numbered : before.ConnectionNumbered → after.ConnectionNumbered
  pending : before.client.pending = [] → after.client.pending = []
  answers : before.client.pending = [] → after.answers = before.answers

namespace Calm

variable {first second third : Console}

theorem trans (firstStep : Calm first second) (secondStep : Calm second third) :
    Calm first third where
  overrun := firstStep.overrun
  nextId := Nat.le_trans firstStep.nextId secondStep.nextId
  connection := by
    rcases secondStep.connection with kept | renewed
    · rcases firstStep.connection with same | renewed
      · exact .inl (kept.trans same)
      · exact .inr fun connection found => renewed connection (kept ▸ found)
    · exact .inr fun connection found =>
        Nat.le_trans firstStep.nextId (renewed connection found)
  numbered known := secondStep.numbered (firstStep.numbered known)
  pending none := secondStep.pending (firstStep.pending none)
  answers none := (secondStep.answers (firstStep.pending none)).trans (firstStep.answers none)

/-- An operation that leaves connection, calls and answers alone. -/
theorem of_changes {aspects : List Aspect} (step : Changes aspects first second)
    (ran : second.overrun = false)
    (apart : [.connection, .pending, .nextId, .answers, .overrun].all (· ∉ aspects) = true) :
    Calm first second where
  overrun := (step.kept apart .overrun (by decide)).symm.trans ran
  nextId := Nat.le_of_eq (step.kept apart .nextId (by decide)).symm
  connection := .inl (step.kept apart .connection (by decide))
  numbered known := known.of_changes step (apart_mono apart (by decide))
  pending none := (step.kept apart .pending (by decide)).trans none
  answers _ := step.kept apart .answers (by decide)

/-- What holds of every step holds of any number of them, as long as none of them
was nested too deeply. -/
theorem foldl {Item : Type} {step : Console → Item → Console}
    (each : ∀ console item, (step console item).overrun = false →
      Calm console (step console item))
    (items : List Item) (console : Console) (ran : (items.foldl step console).overrun = false) :
    Calm console (items.foldl step console) := by
  induction items generalizing console with
  | nil =>
      exact of_changes (.refl [] console) ran rfl
  | cons item items inductionHypothesis =>
      have rest := inductionHypothesis (step console item) ran
      exact (each console item rest.overrun).trans rest

end Calm

/-! ### Connections that begin or end -/

/-- What is left of the calls when a connection begins or has ended: every call that
waited has failed, and none waits. -/
structure Cut (before after : Console) : Prop where
  overrun : before.overrun = false
  nextId : before.client.nextId ≤ after.client.nextId
  connection : Renewed before after
  numbered : before.ConnectionNumbered → after.ConnectionNumbered
  pending : (before.client.connection = none → before.client.pending = []) →
    after.client.pending = []
  answers : (before.client.connection = none → before.client.pending = []) →
    after.answers = before.answers ++ before.client.pending.map PendingCall.failed

theorem Cut.calm {before after : Console} (cut : Cut before after) : Calm before after where
  overrun := cut.overrun
  nextId := cut.nextId
  connection := .inr cut.connection
  numbered := cut.numbered
  pending none := cut.pending fun _ => none
  answers none := by simpa [none] using cut.answers fun _ => none

namespace Cut

variable {first second third : Console}

/-- Where there is no connection there is nothing to cut. -/
theorem of_disconnected (disconnected : first.client.connection = none)
    (ran : first.overrun = false) : Cut first first where
  overrun := ran
  nextId := Nat.le_refl _
  connection connection found := by rw [disconnected] at found; contradiction
  numbered known := known
  pending none := none disconnected
  answers none := by rw [none disconnected, List.map_nil, List.append_nil]

/-- An operation before it that leaves connection, calls and answers alone. -/
theorem after_changes {aspects : List Aspect} (step : Changes aspects first second)
    (cut : Cut second third)
    (apart : [.connection, .pending, .nextId, .answers, .overrun].all (· ∉ aspects) = true) :
    Cut first third := by
  have sameConnection : second.client.connection = first.client.connection :=
    step.kept apart .connection (by decide)
  have samePending : second.client.pending = first.client.pending :=
    step.kept apart .pending (by decide)
  have sameNextId : second.client.nextId = first.client.nextId :=
    step.kept apart .nextId (by decide)
  have sameAnswers : second.answers = first.answers := step.kept apart .answers (by decide)
  exact {
    overrun := (step.kept apart .overrun (by decide)).symm.trans cut.overrun
    nextId := sameNextId ▸ cut.nextId
    connection := fun connection found => sameNextId ▸ cut.connection connection found
    numbered := fun known =>
      cut.numbered (known.of_changes step (apart_mono apart (by decide)))
    pending := fun none => cut.pending (by rwa [sameConnection, samePending])
    answers := fun none => by
      rw [cut.answers (by rwa [sameConnection, samePending]), sameAnswers, samePending] }

/-- A connection installed after the last one ended, and the observers told of it. -/
theorem install (cut : Cut first second) (process channel : Nat)
    (told : Calm (second.installConnection process channel).1 third) : Cut first third := by
  have installed := second.installConnection_changes process channel
  have serving : Changes [.channels] _ (second.installConnection process channel).1 :=
    serveChannel_changes _ channel second.client.nextId
  have connection : (second.installConnection process channel).1.client.connection =
      some ⟨second.client.nextId, channel, process⟩ := serving.same .connection (by decide)
  have nextId : (second.installConnection process channel).1.client.nextId =
      second.client.nextId + 1 := serving.same .nextId (by decide)
  have pending : (second.installConnection process channel).1.client.pending =
      second.client.pending := installed.same .pending (by decide)
  have answers : (second.installConnection process channel).1.answers = second.answers :=
    installed.same .answers (by decide)
  have laterId := cut.nextId
  exact {
    overrun := cut.overrun
    nextId := by have := told.nextId; omega
    connection := by
      intro found known
      rcases told.connection with kept | renewed
      · rw [kept, connection] at known
        cases known
        exact laterId
      · have := renewed found known
        omega
    numbered := fun _ => told.numbered fun found known => by
      rw [connection] at known
      cases known
      exact nextId ▸ Nat.lt_succ_self _
    pending := fun none => told.pending (pending.trans (cut.pending none))
    answers := fun none => by
      rw [told.answers (pending.trans (cut.pending none)), answers, cut.answers none] }

end Cut

/-- The session fails the calls that wait, as the client has done before it. -/
theorem sessionDetached_calm (console : Console) (ran : console.sessionDetached.overrun = false) :
    Calm console console.sessionDetached := by
  unfold sessionDetached at ran ⊢
  split at ran
  next attached =>
      rw [if_pos attached]
      have screen : Changes (.attached :: .display :: .scanned :: .tasks :: .trace :: .session ::
          releaseAspects) console (console.detach.writeText exitMessage).teardownCycle := by
        refine .trans (.trans ?_ ((writeText_changes _ _).mono (by decide)))
          ((teardownCycle_changes _).mono (by decide))
        exact console.detach_changes.mono (by decide)
      have failed := (console.detach.writeText exitMessage).teardownCycle.resetPending_changes
      have named := (console.detach.writeText exitMessage).teardownCycle.resetPending
        |>.withSessionState_changes .detached
      have overrun : (console.detach.writeText exitMessage).teardownCycle.overrun = false :=
        ((named.same .overrun (by decide)).trans (failed.same .overrun (by decide))).symm.trans ran
      refine (Calm.of_changes screen overrun (by decide)).trans (.trans ?_
        (.of_changes named ran (by decide)))
      exact {
        overrun := overrun
        nextId := Nat.le_of_eq (failed.same .nextId (by decide)).symm
        connection := .inl (failed.same .connection (by decide))
        numbered := fun known connection found => by
          have sameConnection := failed.same .connection (by decide)
          have sameNextId := failed.same .nextId (by decide)
          exact Nat.lt_of_lt_of_eq (known connection (sameConnection.symm.trans found))
            sameNextId.symm
        pending := fun _ => resetPending_pending _
        answers := fun none => by rw [resetPending_answers, none, List.map_nil, List.append_nil] }
  next detached =>
      rw [if_neg detached]
      exact .of_changes (.refl [] console) ran rfl

mutual

/-- Calls that wait when a connection begins fail, and none waits afterwards. -/
theorem connectWithin_cut (nesting : Nat) (console : Console) (spec : ProcessSpec)
    (ran : (connectWithin nesting console spec).1.overrun = false) :
    Cut console (connectWithin nesting console spec).1 := by
  cases nesting with
  | zero => exact absurd ran (by simp [connectWithin, giveUpNesting])
  | succ nesting =>
      unfold connectWithin at ran ⊢
      dsimp only at ran ⊢
      generalize preparedEq : console.prepareProcess spec = prepared at ran ⊢
      obtain ⟨ready, process, channel⟩ := prepared
      have readied : Changes [.streams, .processes, .origins, .channels] console ready := by
        simpa [preparedEq] using console.prepareProcess_changes spec
      have told := Calm.foldl (fun console entry => tellBoot_calm nesting console process entry.2)
        _ _ ran
      refine .after_changes readied ?_ (by decide)
      refine .install ?_ process channel told
      have freed := ((installConnection_changes _ process channel).same .overrun
        (by decide)).symm.trans told.overrun
      split at freed
      next connected =>
          rw [if_pos connected]
          exact disconnectWithin_cut nesting ready freed
      next idle =>
          rw [if_neg idle]
          exact .of_disconnected (by simpa [Client.isConnected] using idle) freed
  termination_by nesting

/-- Calls that wait when a connection ends fail, and none waits afterwards. -/
theorem disconnectWithin_cut (nesting : Nat) (console : Console)
    (ran : (disconnectWithin nesting console).overrun = false) :
    Cut console (disconnectWithin nesting console) := by
  cases nesting with
  | zero => exact absurd ran (by simp [disconnectWithin, giveUpNesting])
  | succ nesting =>
      unfold disconnectWithin at ran ⊢
      split at ran
      next connected =>
          rw [if_pos connected]
          have told := Calm.foldl (fun console entry => tellDetach_calm nesting console entry.2)
            _ _ ran
          have failed := (console.withClient { console.client with connection := none })
            |>.resetPending_changes
          have ended : (console.withClient
              { console.client with connection := none }).resetPending.client.connection = none :=
            failed.same .connection (by decide)
          exact {
            overrun := (failed.same .overrun (by decide)).symm.trans told.overrun
            nextId := Nat.le_trans (Nat.le_of_eq (failed.same .nextId (by decide)).symm) told.nextId
            connection := by
              rcases told.connection with kept | renewed
              · intro connection found
                rw [kept, ended] at found
                contradiction
              · exact fun connection found => Nat.le_trans
                  (Nat.le_of_eq (failed.same .nextId (by decide)).symm) (renewed connection found)
            numbered := fun _ => told.numbered fun connection found => by
              rw [ended] at found
              contradiction
            pending := fun _ => told.pending (resetPending_pending _)
            answers := fun _ =>
              (told.answers (resetPending_pending _)).trans (resetPending_answers _) }
      next idle =>
          rw [if_neg idle]
          exact .of_disconnected (by simpa [Client.isConnected] using idle) ran
  termination_by nesting

theorem tellBoot_calm (nesting : Nat) (console : Console) (process : Nat)
    (observer : BootObserver) (ran : (tellBoot nesting console process observer).overrun = false) :
    Calm console (tellBoot nesting console process observer) := by
  cases observer with
  | session =>
      rw [tellBoot] at ran ⊢
      exact .of_changes (console.sessionBoot_changes process) ran (by decide)
  | guest label takesEarly actions =>
      cases nesting with
      | zero => exact absurd ran (by simp [tellBoot, giveUpNesting])
      | succ nesting =>
          rw [tellBoot] at ran ⊢
          dsimp only at ran ⊢
          have acted := Calm.foldl (performWithin_calm nesting) _ _ ran
          refine (Calm.of_changes (.trans ?_ ((emit_changes _ _ rfl).mono
            (by decide : _ ⊆ [.processes, .trace]))) acted.overrun (by decide)).trans acted
          split
          · exact (console.takeEarly_changes process).mono (by decide)
          · exact .refl _ console
  termination_by nesting

theorem tellDetach_calm (nesting : Nat) (console : Console) (observer : DetachObserver)
    (ran : (tellDetach nesting console observer).overrun = false) :
    Calm console (tellDetach nesting console observer) := by
  cases observer with
  | session =>
      rw [tellDetach] at ran ⊢
      exact console.sessionDetached_calm ran
  | guest label actions =>
      cases nesting with
      | zero => exact absurd ran (by simp [tellDetach, giveUpNesting])
      | succ nesting =>
          rw [tellDetach] at ran ⊢
          have acted := Calm.foldl (performWithin_calm nesting) _ _ ran
          exact (Calm.of_changes (console.emit_changes _ rfl) acted.overrun (by decide)).trans acted
  termination_by nesting

theorem performWithin_calm (nesting : Nat) (console : Console) (action : ClientAction)
    (ran : (performWithin nesting console action).overrun = false) :
    Calm console (performWithin nesting console action) := by
  cases action with
  | send name =>
      rw [performWithin] at ran ⊢
      exact .of_changes (console.send_changes name []) ran (by decide)
  | connect spec =>
      cases nesting with
      | zero => exact absurd ran (by simp [performWithin, giveUpNesting])
      | succ nesting =>
          rw [performWithin] at ran ⊢
          exact (connectWithin_cut nesting console spec ran).calm
  | disconnect =>
      cases nesting with
      | zero => exact absurd ran (by simp [performWithin, giveUpNesting])
      | succ nesting =>
          rw [performWithin] at ran ⊢
          exact (disconnectWithin_cut nesting console ran).calm
  | boot =>
      cases nesting with
      | zero => exact absurd ran (by simp [performWithin, giveUpNesting])
      | succ nesting =>
          rw [performWithin] at ran ⊢
          exact bootWithin_calm nesting console ran
  termination_by nesting

theorem bootWithin_calm (nesting : Nat) (console : Console)
    (ran : (bootWithin nesting console).1.overrun = false) :
    Calm console (bootWithin nesting console).1 := by
  unfold bootWithin at ran ⊢
  split at ran
  next => exact .of_changes (.refl [] console) ran rfl
  next booter equipped =>
      have started := console.emit_booted_changes booter.label
      dsimp only at ran ⊢
      split at ran
      next => exact .of_changes started ran (by decide)
      next => exact .of_changes started ran (by decide)
      next command patience _ =>
          have launched :=
            (launch_changes (console.emit (.booted booter.label)) command patience).mono
              (by decide : _ ⊆ [.trace, .boots, .streams, .launches])
          exact .of_changes ((started.mono (by decide)).trans launched) ran (by decide)
      next => exact absurd ran (by simp [giveUpNesting])
      next spec nesting _ =>
          have connected := connectWithin_cut nesting _ spec ran
          exact (Calm.of_changes started connected.overrun (by decide)).trans connected.calm
  termination_by nesting

end

theorem connect_cut (console : Console) (spec : ProcessSpec)
    (ran : (console.connect spec).1.overrun = false) : Cut console (console.connect spec).1 :=
  connectWithin_cut nestingLimit console spec ran

theorem disconnect_cut (console : Console) (ran : console.disconnect.overrun = false) :
    Cut console console.disconnect :=
  disconnectWithin_cut nestingLimit console ran

/-! ### Steps that concern no call -/

/-- Connection, calls and answers are as before; numbers may have been given away. -/
structure Kept (before after : Console) : Prop where
  connection : after.client.connection = before.client.connection
  pending : after.client.pending = before.client.pending
  answers : after.answers = before.answers
  nextId : before.client.nextId ≤ after.client.nextId
  overrun : after.overrun = before.overrun

namespace Kept

variable {first second third : Console}

theorem of_changes {aspects : List Aspect} (step : Changes aspects first second)
    (apart : [.connection, .pending, .nextId, .answers, .overrun].all (· ∉ aspects) = true) :
    Kept first second where
  connection := step.kept apart .connection (by decide)
  pending := step.kept apart .pending (by decide)
  answers := step.kept apart .answers (by decide)
  nextId := Nat.le_of_eq (step.kept apart .nextId (by decide)).symm
  overrun := step.kept apart .overrun (by decide)

theorem refl (console : Console) : Kept console console :=
  of_changes (.refl [] console) rfl

theorem trans (firstStep : Kept first second) (secondStep : Kept second third) :
    Kept first third where
  connection := secondStep.connection.trans firstStep.connection
  pending := secondStep.pending.trans firstStep.pending
  answers := secondStep.answers.trans firstStep.answers
  nextId := Nat.le_trans firstStep.nextId secondStep.nextId
  overrun := secondStep.overrun.trans firstStep.overrun

end Kept

/-- Connections and calls are as before, or every call that waited has failed. -/
def KeptOrCut (before after : Console) : Prop :=
  Kept before after ∨ Cut before after

namespace KeptOrCut

variable {first second third : Console}

theorem after_changes {aspects : List Aspect} (step : Changes aspects first second)
    (reached : KeptOrCut second third)
    (apart : [.connection, .pending, .nextId, .answers, .overrun].all (· ∉ aspects) = true) :
    KeptOrCut first third := by
  rcases reached with kept | cut
  · exact .inl ((Kept.of_changes step apart).trans kept)
  · exact .inr (cut.after_changes step apart)

theorem then_kept (reached : KeptOrCut first second) (step : Kept second third) :
    KeptOrCut first third := by
  rcases reached with kept | cut
  · exact .inl (kept.trans step)
  · refine .inr {
      overrun := cut.overrun
      nextId := Nat.le_trans cut.nextId step.nextId
      connection := fun connection found => cut.connection connection (step.connection ▸ found)
      numbered := fun known connection found => Nat.lt_of_lt_of_le
        (cut.numbered known connection (step.connection ▸ found)) step.nextId
      pending := fun none => step.pending.trans (cut.pending none)
      answers := fun none => step.answers.trans (cut.answers none) }

end KeptOrCut

theorem endConnection_keptOrCut (console : Console) (id : Nat)
    (ran : (console.endConnection id).overrun = false) :
    KeptOrCut console (console.endConnection id) := by
  unfold endConnection at ran ⊢
  split at ran
  next current => rw [if_pos current]; exact .inr (console.disconnect_cut ran)
  next superseded => rw [if_neg superseded]; exact .inl (.refl console)

theorem boot_keptOrCut (console : Console) (ran : console.boot.1.overrun = false) :
    KeptOrCut console console.boot.1 := by
  unfold boot nestingLimit bootWithin at ran ⊢
  split at ran
  next => exact .inl (.refl console)
  next booter equipped =>
      have started := console.emit_booted_changes booter.label
      dsimp only at ran ⊢
      cases outcome : booter.outcome with
      | pending => exact .inl (.of_changes started (by decide))
      | fails failure => exact .inl (.of_changes started (by decide))
      | launches command patience =>
          exact .inl ((Kept.of_changes started (by decide)).trans
            (.of_changes (launch_changes _ command patience) (by decide)))
      | connects spec =>
          rw [outcome] at ran
          exact .inr (.after_changes started (connectWithin_cut _ _ spec ran) (by decide))

theorem start_keptOrCut (console : Console) (ran : console.start.1.overrun = false) :
    KeptOrCut console console.start.1 := by
  unfold start at ran ⊢
  split at ran
  next allowed =>
      rw [if_pos allowed]
      have announced : Changes [.session, .display, .scanned, .resolvers, .tasks, .trace] console
          ((console.withSessionState .starting).writeText startingMessage) :=
        (console.withSessionState_changes .starting).andThen
          (writeText_changes _ startingMessage) (by decide)
      have booted := boot_keptOrCut
        ((console.withSessionState .starting).writeText startingMessage)
      refine .after_changes announced ?_ (by decide)
      split at ran
      next reached result =>
          rw [result] at booted
          exact booted ran
      next reached failure result =>
          rw [result] at booted
          have reported := reached.bootFailed_changes failure
          exact (booted ((reported.same .overrun (by decide)).symm.trans ran)).then_kept
            (.of_changes reported (by decide))
  next refused => rw [if_neg refused]; exact .inl (.refl console)

end Console

end RuntimeConsole
