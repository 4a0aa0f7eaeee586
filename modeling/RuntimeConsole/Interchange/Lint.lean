/-
Module: RuntimeConsole.Interchange.Lint
Purpose: Messages of the runtime about source code, and their JSON form.
Main exports:
  LintMessage, LintMessage.toJson, LintMessage.ofJson
-/
import RuntimeConsole.Json.Decode

namespace RuntimeConsole

/-- A place in a source file, counted from zero. -/
structure SourcePoint where
  line : UInt32
  col : UInt32
deriving Repr, DecidableEq, Inhabited

/-- A message about a stretch of a source file. -/
structure LintMessage where
  severity : String
  file : String
  start : SourcePoint
  stop : SourcePoint
  excerpt : String
  description : Option String
deriving Repr, DecidableEq, Inhabited

namespace SourcePoint

def toJson (point : SourcePoint) : Json :=
  .arr [.int point.line.toNat, .int point.col.toNat]

def ofJson : Json → Decoded SourcePoint
  | .arr [line, col] => do
      let line ← line.asUInt32
      let col ← col.asUInt32
      pure ⟨line, col⟩
  | _ => Decoded.mismatch "a pair"

end SourcePoint

namespace LintMessage

/-- The beginning and the end of a stretch. -/
def stretchOfJson : Json → Decoded (SourcePoint × SourcePoint)
  | .arr [start, stop] => do
      let start ← SourcePoint.ofJson start
      let stop ← SourcePoint.ofJson stop
      pure (start, stop)
  | _ => Decoded.mismatch "a pair"

/-- The file and the stretch a message is about. -/
def locationOfJson (json : Json) : Decoded (String × SourcePoint × SourcePoint) := do
  let record ← json.asRecord ["file", "position"]
  let file ← record.required "file" Json.asString
  let stretch ← record.required "position" stretchOfJson
  pure (file, stretch)

/-- A description that is missing is left out. -/
def toJson (message : LintMessage) : Json :=
  .obj <|
    [("severity", .str message.severity),
      ("location",
        .obj [("file", .str message.file),
          ("position", .arr [message.start.toJson, message.stop.toJson])]),
      ("excerpt", .str message.excerpt)] ++
      match message.description with
      | some text => [("description", .str text)]
      | none => []

def ofJson (json : Json) : Decoded LintMessage := do
  let record ← json.asRecord ["severity", "location", "excerpt", "description"]
  let severity ← record.required "severity" Json.asString
  let (file, start, stop) ← record.required "location" locationOfJson
  let excerpt ← record.required "excerpt" Json.asString
  let description ← record.defaulted "description" none (Json.asOption Json.asString)
  pure { severity, file, start, stop, excerpt, description }

end LintMessage

end RuntimeConsole
