/-
Module: RuntimeConsole.Console.Event
Purpose: Everything that can happen to a console whose observers are in place,
  one thing at a time, and runs of such events.
Main exports:
  Event, Console.apply, Console.run, Console.noted
-/
import RuntimeConsole.Console.Activation
import RuntimeConsole.Console.Guests

namespace RuntimeConsole

/-- Something that happens to a console: the user, the runtime, the embedding
program or time act on it, or it does a piece of the work it put off. -/
inductive Event where
  /-- The session is asked to start the runtime. -/
  | start
  /-- A key is pressed in the terminal of the runtime. -/
  | press (key : KeyEvent)
  /-- A start that was asked for is reported to have failed. -/
  | bootFailed (failure : Failure)
  /-- From now on something else starts the runtime. -/
  | equip (booter : Booter)
  | connect (process : ProcessSpec)
  /-- A launched command connects. -/
  | launched (launch : Nat)
  | disconnect
  | endConnection (connection : Nat)
  | resetPending
  /-- A frame of the runtime comes in, over whatever connection. -/
  | frame (frame : Frame)
  | send (name : String) (args : List Json)
  /-- The embedding program calls the runtime. -/
  | call (ticket : Nat) (expected : Expectation) (name : String) (args : List Json)
  /-- The user opens the link at a position of the screen. -/
  | openLink (ticket : Nat) (position : Position)
  | configure (settings : Settings)
  /-- The editor considers a module active. -/
  | enterModule (name : String)
  | write (bytes : List UInt8)
  | pump
  | clear
  | resize (size : Size)
  | input (bytes : List UInt8)
  /-- The process of a stream prints. -/
  | print (stream : Nat) (bytes : List UInt8)
  /-- The process of a stream ends by itself. -/
  | die (stream : Nat)
  | remoteWrites (channel : Nat) (bytes : List UInt8)
  | remoteCloses (channel : Nat)
  /-- Nobody takes the frames of a channel any more. -/
  | stopTaking (channel : Nat)
  | work (step : Step)
  /-- The clock shows a time. -/
  | clock (time : Nat)

/-- The events of which the passing of time consists: the clock moves, and work
that is due is done. -/
inductive Event.OfTime : Event → Prop where
  | work (step : Step) : OfTime (.work step)
  | clock (time : Nat) : OfTime (.clock time)

namespace Console

/-- The console after an event. -/
def apply (console : Console) : Event → Console
  | .start => console.start.1
  | .press key => (console.pressKey key).1
  | .bootFailed failure => console.bootFailed failure
  | .equip booter => console.withClient { console.client with booter := some booter }
  | .connect process => (console.connect process).1
  | .launched launch => (console.launchConnects launch).1
  | .disconnect => console.disconnect
  | .endConnection connection => console.endConnection connection
  | .resetPending => console.resetPending
  | .frame frame => console.handleFrame frame
  | .send name args => console.send name args
  | .call ticket expected name args => console.call name args (.guest ticket expected)
  | .openLink ticket position => console.openLink ticket position
  | .configure settings => console.updateSettings settings
  | .enterModule name => console.reportModule name
  | .write bytes => console.write bytes
  | .pump => console.pump.1
  | .clear => console.clear
  | .resize size => (console.resize size).1
  | .input bytes => (console.sendInput bytes).1
  | .print stream bytes => console.printTo stream bytes
  | .die stream => console.processDies stream
  | .remoteWrites channel bytes => (console.remoteWrites channel bytes).1
  | .remoteCloses channel => console.remoteCloses channel
  | .stopTaking channel => console.stopTaking channel
  | .work step => console.perform step
  | .clock time => { console with now := time }

/-- The console after several events. -/
def run (console : Console) (events : List Event) : Console :=
  events.foldl apply console

@[simp] theorem run_nil (console : Console) : console.run [] = console := rfl

@[simp] theorem run_cons (console : Console) (event : Event) (events : List Event) :
    console.run (event :: events) = (console.apply event).run events := rfl

/-- Events that come in two pieces come one after the other. -/
theorem run_append (console : Console) (first second : List Event) :
    console.run (first ++ second) = (console.run first).run second :=
  List.foldl_append ..

theorem run_concat (console : Console) (events : List Event) (event : Event) :
    console.run (events ++ [event]) = (console.run events).apply event := by
  simp [run_append]

/-- What is noted in a run by somebody who sees every event and the console it happens
to. -/
def noted {Note : Type} (note : Console → Event → List Note) (console : Console) :
    List Event → List Note
  | [] => []
  | event :: events => note console event ++ noted note (console.apply event) events

theorem noted_append {Note : Type} (note : Console → Event → List Note) (console : Console)
    (first second : List Event) :
    console.noted note (first ++ second) =
      console.noted note first ++ (console.run first).noted note second := by
  induction first generalizing console with
  | nil => rfl
  | cons event first inductionHypothesis =>
      rw [List.cons_append, noted, noted, inductionHypothesis, List.append_assoc]
      rfl

theorem noted_concat {Note : Type} (note : Console → Event → List Note) (console : Console)
    (events : List Event) (event : Event) :
    console.noted note (events ++ [event]) =
      console.noted note events ++ note (console.run events) event := by
  rw [noted_append, noted, noted, List.append_nil]

theorem settleWithin_eq_run (console : Console) (limit : Nat) :
    ∃ events, (∀ event ∈ events, event.OfTime) ∧
      console.settleWithin limit = console.run events := by
  induction limit generalizing console with
  | zero => exact ⟨[], by simp, rfl⟩
  | succ limit inductionHypothesis =>
      unfold settleWithin
      cases found : console.nextStep? with
      | none => exact ⟨[], by simp, rfl⟩
      | some step =>
          obtain ⟨events, ofTime, reached⟩ := inductionHypothesis (console.perform step)
          refine ⟨.work step :: events, ?_, reached⟩
          intro event member
          rcases List.mem_cons.mp member with rfl | member
          · exact .work step
          · exact ofTime event member

theorem settleAt_eq_run (console : Console) (time : Nat) :
    ∃ events, (∀ event ∈ events, event.OfTime) ∧
      console.settleAt time = console.run events := by
  obtain ⟨events, ofTime, reached⟩ :=
    settleWithin_eq_run { console with now := time } { console with now := time }.workBound
  refine ⟨.clock time :: events, ?_, reached⟩
  intro event member
  rcases List.mem_cons.mp member with rfl | member
  · exact .clock time
  · exact ofTime event member

/-- Time that passes is a run of its own, so what runs preserve outlasts it. -/
theorem advance_eq_run (console : Console) (milliseconds : Nat) :
    ∃ events, (∀ event ∈ events, event.OfTime) ∧
      console.advance milliseconds = console.run events := by
  have folded : ∀ (times : List Nat) (console : Console),
      ∃ events, (∀ event ∈ events, event.OfTime) ∧
        times.foldl settleAt console = console.run events := by
    intro times
    induction times with
    | nil => intro console; exact ⟨[], by simp, rfl⟩
    | cons time times inductionHypothesis =>
        intro console
        obtain ⟨first, firstOfTime, firstReached⟩ := settleAt_eq_run console time
        obtain ⟨rest, restOfTime, restReached⟩ := inductionHypothesis (console.settleAt time)
        refine ⟨first ++ rest, ?_, ?_⟩
        · intro event member
          exact (List.mem_append.mp member).elim (firstOfTime event) (restOfTime event)
        · rw [List.foldl_cons, restReached, firstReached, run_append]
  obtain ⟨first, firstOfTime, firstReached⟩ :=
    folded (console.dueTimes (console.now + milliseconds)) console
  obtain ⟨last, lastOfTime, lastReached⟩ :=
    settleAt_eq_run (console.run first) (console.now + milliseconds)
  refine ⟨first ++ last, ?_, ?_⟩
  · intro event member
    exact (List.mem_append.mp member).elim (firstOfTime event) (lastOfTime event)
  · change ((console.dueTimes (console.now + milliseconds)).foldl settleAt console).settleAt
      (console.now + milliseconds) = _
    rw [firstReached, lastReached, run_append]

end Console

end RuntimeConsole
