/-
Module: RuntimeConsole.Terminal.Stream
Purpose: The streams that connect terminals to processes.
Main exports:
  StreamFaults, ProcessStream and its operations
-/
import RuntimeConsole.Failure
import RuntimeConsole.Geometry

namespace RuntimeConsole

/-- Why a stream refuses each operation, if it does. -/
structure StreamFaults where
  read : Option String
  write : Option String
  resize : Option String
  kill : Option String
deriving Repr, DecidableEq, Inhabited

/-- No operation refused. -/
def StreamFaults.none : StreamFaults := ⟨.none, .none, .none, .none⟩

/-- The stream of a process. -/
structure ProcessStream where
  /-- What the process has printed and nobody has read yet. -/
  output : List UInt8
  /-- What has been written to the process. -/
  input : List UInt8
  /-- The screen size the process was told last. -/
  size : Option Size
  /-- Whether the process is running. -/
  alive : Bool
  faults : StreamFaults
deriving Repr, DecidableEq, Inhabited

namespace ProcessStream

/-- The outcome of an operation that is refused if there is a reason. -/
def unlessRefused {α : Type} (reason : Option String) (outcome : Except Failure α) :
    Except Failure α :=
  match reason with
  | some reason => .error (.stream reason)
  | none => outcome

/-- The stream of a process that has just been started. -/
def fresh (faults : StreamFaults) : ProcessStream :=
  { output := [], input := [], size := Option.none, alive := true, faults := faults }

/-- The process prints. -/
def print (stream : ProcessStream) (bytes : List UInt8) : ProcessStream :=
  { stream with output := stream.output ++ bytes }

/-- Takes what the process has printed. -/
def read (stream : ProcessStream) : Except Failure (List UInt8 × ProcessStream) :=
  unlessRefused stream.faults.read (.ok (stream.output, { stream with output := [] }))

/-- Writes to the process, which must be running. -/
def write (stream : ProcessStream) (bytes : List UInt8) : Except Failure ProcessStream :=
  unlessRefused stream.faults.write <|
    if stream.alive then .ok { stream with input := stream.input ++ bytes }
    else .error (.stream "stream closed")

/-- Tells the process the size of its screen. -/
def resize (stream : ProcessStream) (size : Size) : Except Failure ProcessStream :=
  unlessRefused stream.faults.resize (.ok { stream with size := some size })

/-- The process ends. -/
def die (stream : ProcessStream) : ProcessStream :=
  { stream with alive := false }

/-- Ends the process. -/
def kill (stream : ProcessStream) : Except Failure ProcessStream :=
  unlessRefused stream.faults.kill (.ok stream.die)

end ProcessStream

end RuntimeConsole
