/-
Module: RuntimeConsole.Remote.Channel
Purpose: The ways frames take to the runtime: handed over as values, or written
  line by line to a byte stream that is read in the other direction.
Main exports:
  Channel, Wire, Wire.nextLine?, frameOfLine?
-/
import RuntimeConsole.Interchange.Frame
import RuntimeConsole.Text.Blank
import RuntimeConsole.Text.Utf8

namespace RuntimeConsole

/-- A byte stream in both directions, with a frame a line. -/
structure Wire where
  /-- The number of the connection it serves. -/
  connection : Nat
  /-- What the runtime has written and has not been read yet. -/
  inbound : List UInt8
  /-- The frames accepted and not written yet. -/
  outbound : List Frame
  /-- Whether the runtime keeps its end open. -/
  remoteOpen : Bool
  /-- Whether the stream is still served. -/
  serving : Bool
deriving Repr, DecidableEq, Inhabited

/-- The way frames take to the runtime. -/
inductive Channel where
  /-- Frames are handed over as values, as long as somebody takes them. -/
  | direct (taken : Bool)
  | wire (served : Wire)
deriving Repr, DecidableEq, Inhabited

/-- The byte that ends a line. -/
def lineEnd : UInt8 := 0x0A

/-- What serving a byte stream finds in it next. -/
inductive WireInput where
  /-- A line, without its end. -/
  | line (bytes : List UInt8)
  /-- Nothing more will come. -/
  | finished
  /-- Nothing has come yet. -/
  | waiting
deriving Repr, DecidableEq, Inhabited

namespace Wire

/-- A stream nothing has gone over. -/
def fresh (connection : Nat) : Wire := ⟨connection, [], [], true, true⟩

/-- Takes the next line.  The last line needs no end if the runtime closed its
side. -/
def nextLine (wire : Wire) : WireInput × Wire :=
  if wire.inbound.contains lineEnd then
    (.line (wire.inbound.takeWhile (· != lineEnd)),
      { wire with inbound := (wire.inbound.dropWhile (· != lineEnd)).drop 1 })
  else if wire.remoteOpen then (.waiting, wire)
  else if wire.inbound.isEmpty then (.finished, wire)
  else (.line wire.inbound, { wire with inbound := [] })

end Wire

namespace Channel

/-- Whether a frame sent now is accepted. -/
def accepts : Channel → Bool
  | direct taken => taken
  | wire served => served.serving

end Channel

/-- What a line says. -/
inductive LineContent where
  | frame (frame : Frame)
  /-- Nothing, or nothing that makes sense. -/
  | nothing
  /-- The line is no text. -/
  | malformed
deriving Repr, DecidableEq, Inhabited

/-- What a line says.  Blanks around a frame do not count, and a line that is no
frame is passed over; a line that is no text ends the service. -/
def readLine (bytes : List UInt8) : LineContent :=
  match Text.decode? bytes with
  | none => .malformed
  | some line =>
      let line := Text.trim line
      if line.isEmpty then .nothing
      else
        match Frame.decodeChars? line with
        | some frame => .frame frame
        | none => .nothing

/-- The bytes of a frame as a line. -/
def writeLine (frame : Frame) : List UInt8 :=
  Text.encode frame.encode ++ [lineEnd]

end RuntimeConsole
