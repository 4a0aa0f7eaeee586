/-
Module: RuntimeConsole.Screen.Event
Purpose: Everything that can happen to a display, one thing at a time, and runs of such
  events.
Main exports:
  DisplayEvent, Display.apply, Display.run, Instruction.recalls
-/
import RuntimeConsole.Screen.Display

namespace RuntimeConsole

/-- Something that happens to a display: a byte of its stream, or what the terminal does to
its grid. -/
inductive DisplayEvent where
  | byte (byte : UInt8)
  /-- All lines but the one of the cursor are dropped. -/
  | clear
  /-- The cursor is remembered. -/
  | save
  /-- The cursor remembered last is brought back. -/
  | restore
  | resize (size : Size)
deriving Repr, DecidableEq, Inhabited

/-- The size an event gives to the screen. -/
def DisplayEvent.given : DisplayEvent → Option Size
  | .resize size => some size
  | _ => none

/-- Whether an instruction brings back the cursor remembered last. -/
def Instruction.recalls : Instruction → Bool
  | .control _ marked final => !marked && final == 0x75
  | .escape final => final == 0x38
  | _ => false

namespace Display

/-- The display with something done to its grid. -/
def onGrid (display : Display) (change : Grid → Grid) : Display :=
  { display with grid := change display.grid }

/-- The display after an event. -/
def apply (display : Display) : DisplayEvent → Display
  | .byte byte => display.feedByte byte
  | .clear => display.onGrid Grid.clear
  | .save => display.onGrid Grid.saveCursor
  | .restore => display.onGrid Grid.restoreCursor
  | .resize size => display.onGrid fun grid => grid.resize size

/-- The display after several events. -/
def run (display : Display) (events : List DisplayEvent) : Display :=
  events.foldl apply display

/-- Whether an event brings back the cursor remembered last. -/
def recalls (display : Display) : DisplayEvent → Bool
  | .byte byte => (display.decoder.step byte).2.any Instruction.recalls
  | .restore => true
  | _ => false

theorem recalls_byte (display : Display) (byte : UInt8) :
    display.recalls (.byte byte) = (display.decoder.step byte).2.any Instruction.recalls := rfl

@[simp] theorem run_nil (display : Display) : display.run [] = display := rfl

@[simp] theorem run_cons (display : Display) (event : DisplayEvent)
    (events : List DisplayEvent) :
    display.run (event :: events) = (display.apply event).run events := rfl

theorem run_append (display : Display) (first second : List DisplayEvent) :
    display.run (first ++ second) = (display.run first).run second :=
  List.foldl_append ..

theorem run_concat (display : Display) (events : List DisplayEvent) (event : DisplayEvent) :
    display.run (events ++ [event]) = (display.run events).apply event := by
  simp [run_append]

end Display

end RuntimeConsole
