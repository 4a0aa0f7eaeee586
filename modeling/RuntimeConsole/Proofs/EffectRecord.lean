/-
Module: RuntimeConsole.Proofs.EffectRecord
Purpose: What does not come into the record: operations on the screen and frames that are sent
  leave out every kind of effect but their own.
Main exports:
  Unrecorded, Console.emit_recorded, Console.withTerminal_unrecorded, Console.sendFrame_unrecorded
-/
import RuntimeConsole.Proofs.Footprint

namespace RuntimeConsole

open Console

/-- Nothing that somebody looks for comes into the record between two moments. -/
def Unrecorded {Note : Type} (pick : Effect → Option Note) (before after : Console) : Prop :=
  after.trace.filterMap pick = before.trace.filterMap pick

namespace Unrecorded

variable {Note : Type} {pick : Effect → Option Note} {first second third : Console}

theorem refl (console : Console) : Unrecorded pick console console := rfl

theorem trans (firstStep : Unrecorded pick first second)
    (secondStep : Unrecorded pick second third) : Unrecorded pick first third :=
  Eq.trans secondStep firstStep

theorem of_changes {aspects : List Aspect} (step : Changes aspects first second)
    (unrecorded : Aspect.trace ∉ aspects) : Unrecorded pick first second :=
  congrArg (List.filterMap pick) (step.same .trace unrecorded)

theorem foldl {Item : Type} {step : Console → Item → Console}
    (each : ∀ console item, Unrecorded pick console (step console item)) (items : List Item)
    (console : Console) : Unrecorded pick console (items.foldl step console) := by
  induction items generalizing console with
  | nil => exact refl console
  | cons item items inductionHypothesis =>
      exact (each console item).trans (inductionHypothesis _)

end Unrecorded

namespace Console

variable {Note : Type} {pick : Effect → Option Note}

theorem emit_recorded (console : Console) (effect : Effect) :
    (console.emit effect).trace.filterMap pick =
      console.trace.filterMap pick ++ (pick effect).toList := by
  rw [emit, List.filterMap_append]
  cases found : pick effect <;> simp [found]

theorem emit_unrecorded (console : Console) {effect : Effect} (other : pick effect = none) :
    Unrecorded pick console (console.emit effect) := by
  rw [Unrecorded, emit_recorded, other, Option.toList_none, List.append_nil]

theorem listenerSeesLine_unrecorded
    (silent : ∀ label row text, pick (.guestSawLine label row text) = none) (console : Console)
    (change : LineChange) (listener : LineListener) :
    Unrecorded pick console (console.listenerSeesLine change listener) := by
  cases listener with
  | resolver id => exact .of_changes (console.resolverSeesLine_changes id change) (by decide)
  | guest label => exact console.emit_unrecorded (silent label change.row change.text)

/-- Somebody who does not look for what listeners are told finds nothing new on the screen. -/
theorem withTerminal_unrecorded
    (silent : ∀ label row text, pick (.guestSawLine label row text) = none) (console : Console)
    (changed : Terminal × List LineChange) :
    Unrecorded pick console (console.withTerminal changed) := by
  refine .foldl (fun console change => ?_) changed.2 { console with terminal := changed.1 }
  exact .foldl (fun console (entry : Nat × LineListener) =>
    console.listenerSeesLine_unrecorded silent change entry.2) _ console

/-- Somebody who does not look for what is sent finds nothing new of a frame. -/
theorem sendOver_unrecorded (silent : ∀ channel frame, pick (.sent channel frame) = none)
    (console : Console) (channel : Nat) (frame : Frame) :
    Unrecorded pick console (console.sendOver channel frame).1 := by
  unfold sendOver
  split
  · exact console.emit_unrecorded (silent channel frame)
  · split <;> exact .refl console
  · exact .refl console

theorem sendFrame_unrecorded (silent : ∀ channel frame, pick (.sent channel frame) = none)
    (console : Console) (frame : Frame) : Unrecorded pick console (console.sendFrame frame) := by
  unfold sendFrame
  split
  · exact console.sendOver_unrecorded silent _ frame
  · exact .refl console

end Console

end RuntimeConsole
