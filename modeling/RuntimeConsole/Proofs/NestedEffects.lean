/-
Module: RuntimeConsole.Proofs.NestedEffects
Purpose: What lasts through effects on the client, however deeply they are nested: a relation
  between consoles that every part of them keeps.
Main exports:
  KeptByParts, KeptByParts.connect, KeptByParts.disconnect, KeptByParts.start, Abiding
-/
import RuntimeConsole.Proofs.SessionInvariant

namespace RuntimeConsole

open Console

/-- The aspects that effects on the client change besides the record, streams, tasks and the
session. -/
def quietAspects : List Aspect :=
  [.connection, .nextId, .channels, .processes, .overrun]

/-- The aspects that effects on the client change besides streams, tasks and the session. -/
def clientAspects : List Aspect :=
  [.connection, .nextId, .channels, .processes, .trace, .boots, .overrun]

/-- Whether an effect is that of a start of the runtime, or of what observers of connections are
told. -/
def Effect.ofClient : Effect → Bool
  | .booted _ | .guestSawBoot .. | .guestSawDetach .. => true
  | _ => false

/-- A relation between consoles that every part of an effect on the client keeps, where what goes
into the record is a part of its own. -/
structure KeptByParts (Keeps : Console → Console → Prop) : Prop where
  trans : ∀ {first second third}, Keeps first second → Keeps second third → Keeps first third
  quiet : ∀ {before after}, Changes quietAspects before after → Keeps before after
  tells : ∀ console {effect}, effect.ofClient = true → Keeps console (console.emit effect)
  sends : ∀ console name, Keeps console (console.send name [])
  resets : ∀ console, Keeps console console.resetPending
  prepares : ∀ console spec, Keeps console (console.prepareProcess spec).1
  launches : ∀ console command patience, Keeps console (console.launch command patience).1
  boots : ∀ console process, Keeps console (console.sessionBoot process)
  detaches : ∀ console, Keeps console console.sessionDetached
  asks : ∀ console, Keeps console console.startAsked
  fails : ∀ console failure, Keeps console (console.bootFailed failure)

namespace KeptByParts

variable {Keeps : Console → Console → Prop}

theorem refl (parts : KeptByParts Keeps) (console : Console) : Keeps console console :=
  parts.quiet (.refl _ console)

theorem foldl {Item : Type} {step : Console → Item → Console} (parts : KeptByParts Keeps)
    (each : ∀ console item, Keeps console (step console item)) (items : List Item)
    (console : Console) : Keeps console (items.foldl step console) := by
  induction items generalizing console with
  | nil => exact parts.refl console
  | cons item items inductionHypothesis =>
      exact parts.trans (each console item) (inductionHypothesis _)

mutual

theorem connectWithin (parts : KeptByParts Keeps) (nesting : Nat) (console : Console)
    (spec : ProcessSpec) : Keeps console (Console.connectWithin nesting console spec).1 := by
  cases nesting with
  | zero => exact parts.quiet (console.giveUpNesting_changes.mono (by decide))
  | succ nesting =>
      rw [Console.connectWithin]
      have readied := parts.prepares console spec
      generalize console.prepareProcess spec = prepared at readied ⊢
      obtain ⟨ready, process, place⟩ := prepared
      dsimp only at readied ⊢
      have freed : Keeps ready
          (if ready.client.isConnected then Console.disconnectWithin nesting ready else ready) := by
        split
        · exact parts.disconnectWithin nesting ready
        · exact parts.refl ready
      generalize (if ready.client.isConnected then Console.disconnectWithin nesting ready
        else ready) = free at freed ⊢
      have installed : Keeps free (free.installConnection process place).1 :=
        parts.quiet ((installConnection_changes ..).mono (by decide))
      exact parts.trans readied (parts.trans freed (parts.trans installed
        (parts.foldl (fun console (entry : Nat × BootObserver) =>
          parts.tellBoot nesting console _ entry.2) _ _)))
  termination_by nesting

theorem disconnectWithin (parts : KeptByParts Keeps) (nesting : Nat) (console : Console) :
    Keeps console (Console.disconnectWithin nesting console) := by
  cases nesting with
  | zero =>
      rw [Console.disconnectWithin]
      exact parts.quiet (console.giveUpNesting_changes.mono (by decide))
  | succ nesting =>
      rw [Console.disconnectWithin]
      split
      · have given : Changes [.connection] console
            (console.withClient { console.client with connection := none }) := by
          refine ⟨fun aspect outside => ?_⟩
          cases aspect <;> first | rfl | exact absurd (by decide) outside
        exact parts.trans (parts.quiet (given.mono (by decide)))
          (parts.trans (parts.resets _)
            (parts.foldl (fun console (entry : Nat × DetachObserver) =>
              parts.tellDetach nesting console entry.2) _ _))
      · exact parts.refl console
  termination_by nesting

theorem tellBoot (parts : KeptByParts Keeps) (nesting : Nat) (console : Console) (process : Nat)
    (observer : BootObserver) :
    Keeps console (Console.tellBoot nesting console process observer) := by
  cases observer with
  | session =>
      rw [Console.tellBoot]
      exact parts.boots console process
  | guest label takesEarly actions =>
      have taken : Keeps console (if takesEarly then
          ((console.takeEarly process).1, some (console.takeEarly process).2.isSome)
          else (console, none)).1 := by
        split
        · exact parts.quiet ((console.takeEarly_changes process).mono (by decide))
        · exact parts.refl console
      have seen (early : Option Bool) (console : Console) :
          Keeps console (console.emit (.guestSawBoot label early)) := parts.tells console rfl
      cases nesting with
      | zero =>
          rw [Console.tellBoot]
          dsimp only
          exact parts.trans taken (parts.trans (seen _ _)
            (parts.quiet ((giveUpNesting_changes _).mono (by decide))))
      | succ nesting =>
          rw [Console.tellBoot]
          dsimp only
          exact parts.trans taken (parts.trans (seen _ _)
            (parts.foldl (fun console action => parts.performWithin nesting console action) _ _))
  termination_by nesting

theorem tellDetach (parts : KeptByParts Keeps) (nesting : Nat) (console : Console)
    (observer : DetachObserver) : Keeps console (Console.tellDetach nesting console observer) := by
  cases observer with
  | session =>
      rw [Console.tellDetach]
      exact parts.detaches console
  | guest label actions =>
      have told : Keeps console (console.emit (.guestSawDetach label
          console.client.isConnected console.client.pending.length)) := parts.tells console rfl
      cases nesting with
      | zero =>
          rw [Console.tellDetach]
          exact parts.trans told (parts.quiet ((giveUpNesting_changes _).mono (by decide)))
      | succ nesting =>
          rw [Console.tellDetach]
          exact parts.trans told
            (parts.foldl (fun console action => parts.performWithin nesting console action) _ _)
  termination_by nesting

theorem performWithin (parts : KeptByParts Keeps) (nesting : Nat) (console : Console)
    (action : ClientAction) : Keeps console (Console.performWithin nesting console action) := by
  have given : Keeps console console.giveUpNesting :=
    parts.quiet (console.giveUpNesting_changes.mono (by decide))
  cases action with
  | send name =>
      rw [Console.performWithin]
      exact parts.sends console name
  | connect spec =>
      cases nesting with
      | zero => exact given
      | succ nesting => exact parts.connectWithin nesting console spec
  | disconnect =>
      cases nesting with
      | zero => exact given
      | succ nesting => exact parts.disconnectWithin nesting console
  | boot =>
      cases nesting with
      | zero => exact given
      | succ nesting => exact parts.bootWithin nesting console
  termination_by nesting

theorem bootWithin (parts : KeptByParts Keeps) (nesting : Nat) (console : Console) :
    Keeps console (Console.bootWithin nesting console).1 := by
  rw [Console.bootWithin]
  split
  next => exact parts.refl console
  next booter _ =>
      have started : Keeps console (console.emit (.booted booter.label)) := parts.tells console rfl
      refine parts.trans started ?_
      split
      next => exact parts.refl _
      next => exact parts.refl _
      next => exact parts.launches _ _ _
      next => exact parts.quiet ((giveUpNesting_changes _).mono (by decide))
      next spec nesting _ => exact parts.connectWithin nesting _ spec
  termination_by nesting

end

theorem connect (parts : KeptByParts Keeps) (console : Console) (spec : ProcessSpec) :
    Keeps console (console.connect spec).1 :=
  parts.connectWithin nestingLimit console spec

theorem disconnect (parts : KeptByParts Keeps) (console : Console) :
    Keeps console console.disconnect :=
  parts.disconnectWithin nestingLimit console

theorem endConnection (parts : KeptByParts Keeps) (console : Console) (id : Nat) :
    Keeps console (console.endConnection id) := by
  unfold Console.endConnection
  split
  · exact parts.disconnect console
  · exact parts.refl console

theorem start (parts : KeptByParts Keeps) (console : Console) : Keeps console console.start.1 := by
  by_cases allowed : console.session.state.canStart = true
  · rw [start_eq allowed]
    refine parts.trans (parts.asks console) ?_
    have booted := parts.bootWithin nestingLimit console.startAsked
    unfold bootReported boot
    split
    next result => rwa [result] at booted
    next result =>
        rw [result] at booted
        exact parts.trans booted (parts.fails _ _)
  · have same : console.start.1 = console := by rw [Console.start, if_neg allowed]
    rw [same]
    exact parts.refl console

end KeptByParts

/-- A relation between consoles that every part of an effect on the client keeps. -/
structure Abiding (Keeps : Console → Console → Prop) : Prop where
  trans : ∀ {first second third}, Keeps first second → Keeps second third → Keeps first third
  quiet : ∀ {before after}, Changes clientAspects before after → Keeps before after
  resets : ∀ console, Keeps console console.resetPending
  prepares : ∀ console spec, Keeps console (console.prepareProcess spec).1
  launches : ∀ console command patience, Keeps console (console.launch command patience).1
  boots : ∀ console process, Keeps console (console.sessionBoot process)
  detaches : ∀ console, Keeps console console.sessionDetached
  asks : ∀ console, Keeps console console.startAsked
  fails : ∀ console failure, Keeps console (console.bootFailed failure)

namespace Abiding

variable {Keeps : Console → Console → Prop}

theorem parts (abiding : Abiding Keeps) : KeptByParts Keeps where
  trans := abiding.trans
  quiet step := abiding.quiet (step.mono (by decide))
  tells console effect _ := by
    have told : Changes [.trace, .boots] console (console.emit effect) := by
      refine ⟨fun aspect outside => ?_⟩
      cases aspect <;> first | rfl | exact absurd (by decide) outside
    exact abiding.quiet (told.mono (by decide))
  sends console name := abiding.quiet ((console.send_changes name []).mono (by decide))
  resets := abiding.resets
  prepares := abiding.prepares
  launches := abiding.launches
  boots := abiding.boots
  detaches := abiding.detaches
  asks := abiding.asks
  fails := abiding.fails

theorem connect (abiding : Abiding Keeps) (console : Console) (spec : ProcessSpec) :
    Keeps console (console.connect spec).1 :=
  abiding.parts.connect console spec

theorem disconnect (abiding : Abiding Keeps) (console : Console) :
    Keeps console console.disconnect :=
  abiding.parts.disconnect console

theorem endConnection (abiding : Abiding Keeps) (console : Console) (id : Nat) :
    Keeps console (console.endConnection id) :=
  abiding.parts.endConnection console id

theorem start (abiding : Abiding Keeps) (console : Console) : Keeps console console.start.1 :=
  abiding.parts.start console

end Abiding

end RuntimeConsole
