/-
Module: RuntimeConsole.Screen.Control
Purpose: Decoding of the byte stream of a terminal into characters, control
  characters and control sequences.
Main exports:
  Instruction, ControlDecoder, ControlDecoder.step
-/
import RuntimeConsole.Text.Utf8

namespace RuntimeConsole

/-- What a terminal is told by its byte stream. -/
inductive Instruction where
  /-- Show a character. -/
  | print (c : Char)
  /-- Carry out a control character. -/
  | execute (byte : UInt8)
  /-- Carry out a control sequence.  Every parameter has at least one part; a
  sequence is marked if it carries intermediate characters. -/
  | control (parameters : List (List UInt16)) (marked : Bool) (final : UInt8)
  /-- Carry out a short escape sequence. -/
  | escape (final : UInt8)
deriving Repr, DecidableEq, Inhabited

/-- What has been read of a sequence. -/
inductive ControlState where
  /-- Outside of sequences. -/
  | ground
  /-- Inside a character of several bytes: the bits read so far, the number of
  bytes missing, and the range of the next. -/
  | character (bits following low high : Nat)
  | escape
  | escapeIntermediate
  | controlEntry
  | controlParameter
  | controlIntermediate
  /-- Inside a malformed control sequence. -/
  | controlIgnored
  | deviceEntry
  | deviceParameter
  | deviceIntermediate
  /-- Inside the data of a device control string, or a malformed one. -/
  | deviceBody
  /-- Inside a string for the operating system. -/
  | systemString
  /-- Inside a string nobody reads. -/
  | otherString
deriving Repr, DecidableEq, Inhabited

/-- The parameters of a control sequence, as they are read. -/
structure Parameters where
  /-- The parameters that are complete. -/
  complete : List (List UInt16)
  /-- The parts of the parameter under way that are complete. -/
  parts : List UInt16
  /-- The part under way. -/
  value : UInt16
deriving Repr, DecidableEq, Inhabited

namespace Parameters

/-- No parameter read. -/
def empty : Parameters := ⟨[], [], 0⟩

/-- The largest number of parts a sequence can have. -/
def limit : Nat := 32

/-- The number of parts that are complete. -/
def count (parameters : Parameters) : Nat :=
  parameters.complete.flatten.length + parameters.parts.length

/-- Whether no further part is taken. -/
def isFull (parameters : Parameters) : Bool :=
  parameters.count == limit

/-- Ten times a value and a digit, at most the largest value. -/
def appendDigit (value : UInt16) (digit : Nat) : UInt16 :=
  UInt16.ofNat (min 65535 (value.toNat * 10 + digit))

/-- Reads a digit, a colon (which ends a part) or a semicolon (which ends a
parameter).  A sequence with as many parts as it can have takes no more. -/
def take (parameters : Parameters) (byte : UInt8) : Parameters :=
  if parameters.isFull then parameters
  else if byte == 0x3B then
    ⟨parameters.complete ++ [parameters.parts ++ [parameters.value]], [], 0⟩
  else if byte == 0x3A then
    ⟨parameters.complete, parameters.parts ++ [parameters.value], 0⟩
  else { parameters with value := appendDigit parameters.value (byte.toNat - 0x30) }

/-- The parameters of a sequence that ends here. -/
def finish (parameters : Parameters) : List (List UInt16) :=
  if parameters.isFull then
    parameters.complete ++ (if parameters.parts.isEmpty then [] else [parameters.parts])
  else parameters.complete ++ [parameters.parts ++ [parameters.value]]

end Parameters

/-- What a terminal remembers of its byte stream between two bytes. -/
structure ControlDecoder where
  state : ControlState
  parameters : Parameters
  /-- Whether the sequence carries intermediate characters. -/
  marked : Bool
deriving Repr, DecidableEq, Inhabited

namespace ControlDecoder

/-- A decoder that has read nothing. -/
def initial : ControlDecoder := ⟨.ground, .empty, false⟩

/-- The decoder in another state. -/
def enter (decoder : ControlDecoder) (state : ControlState) : ControlDecoder :=
  { decoder with state := state }

/-- The decoder at the beginning of a sequence. -/
def begin_ (state : ControlState) : ControlDecoder :=
  ⟨state, .empty, false⟩

/-- The decoder after an intermediate character. -/
def mark (decoder : ControlDecoder) (state : ControlState) : ControlDecoder :=
  { decoder with state := state, marked := true }

/-- The decoder after a parameter character. -/
def parameter (decoder : ControlDecoder) (byte : UInt8) (state : ControlState) :
    ControlDecoder :=
  { decoder with state := state, parameters := decoder.parameters.take byte }

/-- Whether a byte is a control character that sequences let pass. -/
def isControl (byte : UInt8) : Bool :=
  byte < 0x20

/-- Whether a byte lies in a range. -/
def within (low high : UInt8) (byte : UInt8) : Bool :=
  low ≤ byte && byte ≤ high

/-- Reads a byte outside of sequences. -/
def stepGround (decoder : ControlDecoder) (byte : UInt8) :
    ControlDecoder × List Instruction :=
  if byte < 0x20 then (decoder, [.execute byte])
  else if byte < 0x80 then (decoder, [.print (Char.ofNat byte.toNat)])
  else
    match Text.lead? byte with
    | some lead =>
        (decoder.enter (.character lead.bits lead.following lead.low lead.high), [])
    | none => (decoder, [])

/-- Reads a byte inside a character.  A byte that cannot belong to it is lost
together with the beginning of the character. -/
def stepCharacter (decoder : ControlDecoder) (bits following low high : Nat)
    (byte : UInt8) : ControlDecoder × List Instruction :=
  if low ≤ byte.toNat ∧ byte.toNat ≤ high then
    let bits := bits * 0x40 + byte.toNat % 0x40
    if following ≤ 1 then (decoder.enter .ground, [.print (Char.ofNat bits)])
    else (decoder.enter (.character bits (following - 1) 0x80 0xBF), [])
  else (decoder.enter .ground, [.print Text.replacementChar])

/-- Reads a byte after the escape character. -/
def stepEscape (decoder : ControlDecoder) (byte : UInt8) :
    ControlDecoder × List Instruction :=
  if isControl byte then (decoder, [.execute byte])
  else if within 0x20 0x2F byte then (decoder.mark .escapeIntermediate, [])
  else if byte == 0x5B then (begin_ .controlEntry, [])
  else if byte == 0x5D then (decoder.enter .systemString, [])
  else if byte == 0x50 then (begin_ .deviceEntry, [])
  else if byte == 0x58 || byte == 0x5E || byte == 0x5F then (decoder.enter .otherString, [])
  else if within 0x30 0x7E byte then (decoder.enter .ground, [.escape byte])
  else (decoder, [])

/-- Reads a byte of an escape sequence after an intermediate character. -/
def stepEscapeIntermediate (decoder : ControlDecoder) (byte : UInt8) :
    ControlDecoder × List Instruction :=
  if isControl byte then (decoder, [.execute byte])
  else if within 0x30 0x7E byte then (decoder.enter .ground, [.escape byte])
  else (decoder, [])

/-- Ends a control sequence. -/
def dispatch (decoder : ControlDecoder) (final : UInt8) :
    ControlDecoder × List Instruction :=
  (decoder.enter .ground, [.control decoder.parameters.finish decoder.marked final])

/-- Reads a byte of a control sequence.  A private marker is taken only at the
beginning, and no parameter after an intermediate character. -/
def stepControl (decoder : ControlDecoder) (byte : UInt8) :
    ControlDecoder × List Instruction :=
  if isControl byte then (decoder, [.execute byte])
  else if within 0x40 0x7E byte then decoder.dispatch byte
  else if within 0x20 0x2F byte then (decoder.mark .controlIntermediate, [])
  else if within 0x30 0x3F byte then
    if decoder.state == .controlIntermediate then (decoder.enter .controlIgnored, [])
    else if within 0x30 0x3B byte then (decoder.parameter byte .controlParameter, [])
    else if decoder.state == .controlEntry then (decoder.mark .controlParameter, [])
    else (decoder.enter .controlIgnored, [])
  else (decoder, [])

/-- Reads a byte of a malformed control sequence. -/
def stepControlIgnored (decoder : ControlDecoder) (byte : UInt8) :
    ControlDecoder × List Instruction :=
  if isControl byte then (decoder, [.execute byte])
  else if within 0x40 0x7E byte then (decoder.enter .ground, [])
  else (decoder, [])

/-- Reads a byte of the head of a device control string. -/
def stepDevice (decoder : ControlDecoder) (byte : UInt8) : ControlDecoder :=
  if within 0x40 0x7E byte then decoder.enter .deviceBody
  else if within 0x20 0x2F byte then decoder.enter .deviceIntermediate
  else if within 0x30 0x3F byte then
    if decoder.state == .deviceIntermediate then decoder.enter .deviceBody
    else if within 0x30 0x3B byte || decoder.state == .deviceEntry then
      decoder.enter .deviceParameter
    else decoder.enter .deviceBody
  else decoder

/-- Reads a byte according to the state, the bytes that act in every state
apart. -/
def stepState (decoder : ControlDecoder) (byte : UInt8) :
    ControlDecoder × List Instruction :=
  match decoder.state with
  | .ground => decoder.stepGround byte
  | .character bits following low high => decoder.stepCharacter bits following low high byte
  | .escape => decoder.stepEscape byte
  | .escapeIntermediate => decoder.stepEscapeIntermediate byte
  | .controlEntry | .controlParameter | .controlIntermediate => decoder.stepControl byte
  | .controlIgnored => decoder.stepControlIgnored byte
  | .deviceEntry | .deviceParameter | .deviceIntermediate => (decoder.stepDevice byte, [])
  | .deviceBody | .otherString =>
      (if byte == 0x9C then decoder.enter .ground else decoder, [])
  | .systemString => (if byte == 0x07 then decoder.enter .ground else decoder, [])

/-- Whether the decoder is inside a character of several bytes. -/
def insideCharacter (decoder : ControlDecoder) : Bool :=
  match decoder.state with
  | .character .. => true
  | _ => false

/-- Reads a byte.  Except inside a character, cancel and substitute end any
sequence and the escape character begins one. -/
def step (decoder : ControlDecoder) (byte : UInt8) : ControlDecoder × List Instruction :=
  if decoder.insideCharacter then decoder.stepState byte
  else if byte == 0x18 || byte == 0x1A then (decoder.enter .ground, [.execute byte])
  else if byte == 0x1B then (begin_ .escape, [])
  else decoder.stepState byte

/-- Reads bytes one after the other. -/
def run (decoder : ControlDecoder) : List UInt8 → ControlDecoder × List Instruction
  | [] => (decoder, [])
  | byte :: rest =>
      let (next, first) := decoder.step byte
      let (last, others) := run next rest
      (last, first ++ others)

end ControlDecoder

end RuntimeConsole
