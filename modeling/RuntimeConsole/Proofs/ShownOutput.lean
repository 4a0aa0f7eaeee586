/-
Module: RuntimeConsole.Proofs.ShownOutput
Purpose: A terminal shows what the process attached to it prints, however printing and showing
  alternate.
Main exports:
  Event.isOutput, Event.printedTo, Console.screenAfter, Console.Reads, Console.Reads.run,
  Console.Reads.shown
-/
import RuntimeConsole.Proofs.SessionMove
import RuntimeConsole.Proofs.ShellSteps

namespace RuntimeConsole

/-- Whether a process prints in an event, or the terminal shows what has been printed. -/
def Event.isOutput : Event → Bool
  | .print .. | .pump => true
  | _ => false

/-- What the process of a stream prints in an event. -/
def Event.printedTo (source : Nat) : Event → List UInt8
  | .print stream bytes => if stream = source then bytes else []
  | _ => []

namespace Console

/-- The screen when everything has been shown that is printed in some events. -/
def screenAfter (console : Console) (events : List Event) : Display :=
  (console.run (events ++ [.pump])).terminal.display

/-- The terminal shows what the process of a stream prints, and some of it waits to be shown. -/
structure Reads (source : Nat) (waiting : List UInt8) (console : Console) : Prop where
  attached : console.terminal.stream = some source
  stream : ∃ stream : ProcessStream, console.stream? source = some stream ∧
    stream.faults.read = none ∧ stream.output = waiting

section

variable {before after console : Console} {source : Nat} {waiting : List UInt8}
  {aspects : List Aspect}

theorem Reads.of_changes (reads : Reads source waiting before)
    (step : Changes aspects before after)
    (apart : [.attached, .streams].all (· ∉ aspects) = true) : Reads source waiting after where
  attached := (step.kept apart .attached (by decide)).trans reads.attached
  stream := by
    have streams : after.streams = before.streams := step.kept apart .streams (by decide)
    rw [stream?, streams]
    exact reads.stream

theorem Reads.print (reads : Reads source waiting console) (stream : Nat) (bytes : List UInt8) :
    Reads source (waiting ++ Event.printedTo source (.print stream bytes))
      (console.printTo stream bytes) where
  attached := ((console.tryOnStream_changes stream _).same .attached (by decide)).trans
    reads.attached
  stream := by
    obtain ⟨found, known, readable, output⟩ := reads.stream
    have here : console.streams[source]? = some found := known
    change ∃ printer : ProcessStream, (console.tryOnStream stream _).streams[source]? = _ ∧ _
    rw [tryOnStream_eq, List.getElem?_modify, here]
    refine ⟨_, rfl, ?_⟩
    by_cases same : stream = source
    · simp only [Event.printedTo, if_pos same]
      exact ⟨readable, congrArg (· ++ bytes) output⟩
    · simp only [Event.printedTo, if_neg same, List.append_nil]
      exact ⟨readable, output⟩

/-- Reading a stream that can be read takes what has been printed. -/
theorem readStream_readable {found : ProcessStream} (known : console.stream? source = some found)
    (readable : found.faults.read = none) :
    console.readStream source =
      (console.setStream source { found with output := [] }, .ok found.output) := by
  simp only [readStream, known, ProcessStream.read, readable, ProcessStream.unlessRefused]

theorem stream?_drained {found : ProcessStream} (known : console.stream? source = some found) :
    (console.setStream source { found with output := [] }).stream? source =
      some { found with output := [] } := by
  obtain ⟨inside, -⟩ := List.getElem?_eq_some_iff.mp known
  exact List.getElem?_set_self inside

theorem Reads.bytes (reads : Reads source waiting console) :
    (console.readStream source).2 = .ok waiting := by
  obtain ⟨found, known, readable, rfl⟩ := reads.stream
  rw [readStream_readable known readable]

/-- Everything that waits is shown at once. -/
theorem Reads.pump (reads : Reads source waiting console) :
    Reads source [] console.pump.1 ∧
      console.pump.1.terminal.display = console.terminal.display.feed waiting := by
  have read := reads.bytes
  obtain ⟨found, known, readable, output⟩ := reads.stream
  refine ⟨?_, ?_⟩
  · have taken : Reads source [] (console.setStream source { found with output := [] }) :=
      ⟨reads.attached, _, stream?_drained known, readable, rfl⟩
    unfold Console.pump
    rw [reads.attached]
    dsimp only
    rw [readStream_readable known readable]
    dsimp only
    split
    · exact taken
    · exact taken.of_changes (write_changes _ _) (by decide)
  · rw [pump_display, pumpActs, reads.attached]
    dsimp only
    rw [read]
    rfl

/-- What has been printed has been shown, or waits. -/
theorem Reads.run (reads : Reads source waiting console) {events : List Event}
    (outputs : ∀ event ∈ events, event.isOutput = true) :
    ∃ shown left, Reads source left (console.run events) ∧
      (console.run events).terminal.display = console.terminal.display.feed shown ∧
      shown ++ left = waiting ++ events.flatMap (Event.printedTo source) := by
  induction events generalizing console waiting with
  | nil => exact ⟨[], waiting, reads, rfl, (List.append_nil _).symm⟩
  | cons event events inductionHypothesis =>
      obtain ⟨first, others⟩ := List.forall_mem_cons.mp outputs
      cases event with
      | print stream bytes =>
          obtain ⟨shown, left, reached, display, whole⟩ :=
            inductionHypothesis (reads.print stream bytes) others
          have still : (console.printTo stream bytes).terminal.display = console.terminal.display :=
            (console.tryOnStream_changes stream _).same .display (by decide)
          exact ⟨shown, left, reached, display.trans (by rw [still]),
            by rw [whole, List.flatMap_cons, List.append_assoc]⟩
      | pump =>
          obtain ⟨pumped, before⟩ := reads.pump
          obtain ⟨shown, left, reached, display, whole⟩ := inductionHypothesis pumped others
          refine ⟨waiting ++ shown, left, reached, ?_, ?_⟩
          · exact display.trans (by rw [before, Display.feed_append])
          · rw [List.append_assoc, whole]
            rfl
      | _ => cases first

/-- Processes that print, and a terminal that shows it, change nothing but streams and the
screen. -/
theorem output_changes {events : List Event} (outputs : ∀ event ∈ events, event.isOutput = true) :
    Changes [.display, .scanned, .resolvers, .tasks, .trace, .streams] console
      (console.run events) := by
  induction events generalizing console with
  | nil => exact .refl _ console
  | cons event events inductionHypothesis =>
      obtain ⟨first, others⟩ := List.forall_mem_cons.mp outputs
      refine Changes.trans ?_ (inductionHypothesis others)
      cases event with
      | print stream bytes => exact (console.tryOnStream_changes stream _).mono (by decide)
      | pump => exact console.pump_changes
      | _ => cases first

/-- Once everything has been shown, nothing waits. -/
theorem Reads.settled (reads : Reads source waiting console) {events : List Event}
    (outputs : ∀ event ∈ events, event.isOutput = true) :
    Reads source [] (console.run (events ++ [.pump])) := by
  obtain ⟨shown, left, reached, -⟩ := reads.run outputs
  rw [run_concat]
  exact reached.pump.1

/-- After everything has been shown, it is all that has been printed. -/
theorem Reads.shown (reads : Reads source waiting console) {events : List Event}
    (outputs : ∀ event ∈ events, event.isOutput = true) :
    console.screenAfter events =
      console.terminal.display.feed (waiting ++ events.flatMap (Event.printedTo source)) := by
  obtain ⟨shown, left, reached, display, whole⟩ := reads.run outputs
  rw [screenAfter, run_concat]
  refine reached.pump.2.trans ?_
  rw [display, ← Display.feed_append, whole]

end

end Console

end RuntimeConsole
