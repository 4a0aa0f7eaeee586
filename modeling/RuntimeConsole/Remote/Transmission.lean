/-
Module: RuntimeConsole.Remote.Transmission
Purpose: What may come over a byte stream from somebody who sends frames: their lines, and among
  them lines that say nothing.
Main exports:
  Frame.isPlain, Frame.isShallow, Transmission, Transmission.IsProper
-/
import RuntimeConsole.Json.Shape
import RuntimeConsole.Remote.Channel

namespace RuntimeConsole

/-- Whether a number is one of sixty-four bits and the values of a frame have no fractional
numbers in them. -/
def Frame.isPlain : Frame → Bool
  | .message _ args => Json.itemsPlain args
  | .call id _ args => decide (id < UInt64.size) && Json.itemsPlain args
  | .response id result => decide (id < UInt64.size) && result.isPlain
  | .error id _ => decide (id < UInt64.size)

/-- Whether a frame, as it is written, is no deeper than a reader allows. -/
def Frame.isShallow (frame : Frame) : Bool :=
  decide (frame.toJson.depth ≤ Json.nestingLimit)

/-- A line of a byte stream. -/
inductive Transmission where
  | frame (frame : Frame)
  /-- Something else, without the end of the line. -/
  | noise (text : List Char)
deriving Repr, DecidableEq, Inhabited

namespace Transmission

/-- The bytes of a line. -/
def bytes : Transmission → List UInt8
  | .frame sent => writeLine sent
  | .noise text => Text.encode text ++ [lineEnd]

/-- The frame in a line. -/
def frame? : Transmission → Option Frame
  | .frame sent => some sent
  | .noise _ => none

/-- Frames that can be read back, and lines that are blank or no frame. -/
inductive IsProper : Transmission → Prop where
  | frame {frame : Frame} (plain : frame.isPlain = true) (shallow : frame.isShallow = true) :
      IsProper (.frame frame)
  | blank {text : List Char} (noBreak : '\n' ∉ text) (blank : Text.isBlankText text = true) :
      IsProper (.noise text)
  | noFrame {text : List Char} (noBreak : '\n' ∉ text)
      (noFrame : Frame.decodeChars? (Text.trim text) = none) : IsProper (.noise text)

end Transmission

end RuntimeConsole
