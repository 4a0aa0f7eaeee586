/-
Module: RuntimeConsole.Proofs.ReachableScreens
Purpose: Whatever happens to a console, its screen has the rows and columns its size says, and
  its decoder is in the middle of a character only where one can follow.
Main exports:
  Display.Sound, Console.consoleActs, Console.undergo_display, Console.sound_reachable
-/
import RuntimeConsole.Proofs.ConsoleUpkeep
import RuntimeConsole.Proofs.CursorBounds

namespace RuntimeConsole

namespace Display

/-- A display whose decoder is in the middle of no control character and whose rows and columns
are as many as its size says. -/
structure Sound (display : Display) : Prop where
  decoder : display.decoder.state.Proper
  shaped : display.grid.Shaped

variable {display : Display}

theorem Sound.feedByte (sound : display.Sound) (byte : UInt8) : (display.feedByte byte).Sound where
  decoder := (display.decoder.step_proper byte sound.decoder).1
  shaped := apply_shaped sound.shaped (.byte byte)

theorem Sound.feed (sound : display.Sound) (bytes : List UInt8) : (display.feed bytes).Sound := by
  induction bytes generalizing display with
  | nil => exact sound
  | cons byte bytes inductionHypothesis => exact inductionHypothesis (sound.feedByte byte)

theorem Sound.act (sound : display.Sound) (act : ScreenAct) : (act.on display).Sound := by
  cases act with
  | shows bytes => exact sound.feed bytes
  | announcesExit => exact sound.feed _
  | clears => exact ⟨sound.decoder, Grid.clear_shaped sound.shaped⟩
  | resizes size => exact ⟨sound.decoder, display.grid.resize_shaped size⟩

theorem Sound.acts (sound : display.Sound) (acts : List ScreenAct) :
    (acts.foldl ScreenAct.on display).Sound := by
  induction acts generalizing display with
  | nil => exact sound
  | cons act acts inductionHypothesis => exact inductionHypothesis (sound.act act)

end Display

namespace Console

/-- What something that happens to a console does to the screen of the runtime. -/
def consoleActs (console : Console) : ConsoleEvent → List ScreenAct
  | .event event => console.screenActs event
  | .execute _ .clearConsole => [.clears]
  | .pumpAll => console.pumpActs
  | _ => []

section

variable {parts : ConsoleParts} {shells : List Nat} {console start : Console}

/-- Nothing but the acts that can be told in advance changes the screen. -/
theorem undergo_display (upkept : Upkept parts shells console) (event : ConsoleEvent) :
    (console.undergo event).terminal.display =
      (console.consoleActs event).foldl ScreenAct.on console.terminal.display := by
  have still {aspects : List Aspect} {after : Console} (step : Changes aspects console after)
      (apart : Aspect.display ∉ aspects) : after.terminal.display = console.terminal.display :=
    step.same .display apart
  cases event with
  | event event =>
      obtain ⟨_, followed, -⟩ :=
        apply_followed (furnished_fresh parts) upkept.settled upkept.numbered event
      exact followed.display
  | shell event =>
      cases event with
      | opens ticket byCommand =>
          exact still (console.newTerminal_changes ticket byCommand) (by decide)
      | restores ticket items =>
          exact still (console.restoreFrom_changes ticket 0 items) (by decide)
      | answers question choice =>
          exact still (console.answerQuestion_changes question choice) (by decide)
      | resumes place =>
          change (console.resumeTask place).terminal.display = console.terminal.display
          unfold resumeTask
          split
          next => rfl
          next task _ => exact (runTask_changes _ task).same .display (by decide)
      | closes id => exact still (console.closeTerminal_changes id) (by decide)
      | turns refusal faults => rfl
  | execute ticket command =>
      cases command with
      | openConsole => exact (finish_changes _ ticket _).same .display (by decide)
      | clearConsole =>
          exact ((finish_changes _ ticket _).same .display (by decide)).trans console.clear_display
      | copyOrInterrupt => exact still (console.finish_changes ticket _) (by decide)
      | newTerminal => exact still (console.newTerminal_changes ticket true) (by decide)
  | pressIn id key => exact still (pressIn_changes upkept.housed id key) (by decide)
  | pumpAll =>
      have drawn := console.pump.1.pumpShells_pumped.footprint
      exact (drawn.same .display (by decide)).trans console.pump_display
  | serves name label sends reply =>
      exact still (console.handleRequests_changes name _) (by decide)

theorem wired_sound (parts : ConsoleParts) : (wired parts).terminal.display.Sound := by
  have shown : (wired parts).terminal.display =
      ((runtimeTerminal parts.settings).render (Text.encode banner.toList)).1.display :=
    furnished_look parts .display (by decide)
  have blank : (runtimeTerminal parts.settings).display.Sound :=
    ⟨trivial, (Grid.blank_shaped _ parts.settings.scrollback).of_same rfl rfl⟩
  rw [shown]
  exact blank.feed (Text.encode banner.toList)

/-- The screen of an activated console is sound at every moment. -/
theorem sound_reachable (activated : activate? parts = some start) (events : List ConsoleEvent) :
    (start.undergoAll events).terminal.display.Sound := by
  have run {console : Console} {shells : List Nat} (upkept : Upkept parts shells console)
      (sound : console.terminal.display.Sound) (events : List ConsoleEvent) :
      (console.undergoAll events).terminal.display.Sound := by
    induction events using List.reverseRecOn with
    | nil => exact sound
    | append_singleton events event inductionHypothesis =>
        rw [undergoAll_concat, undergo_display (upkept.run events)]
        exact inductionHypothesis.acts _
  refine run (activated_upkept activated) ?_ events
  rw [activate?_undergoAll activated]
  exact run (wired_upkept parts) (wired_sound parts) _

end

end Console

end RuntimeConsole
