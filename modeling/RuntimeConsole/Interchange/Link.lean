/-
Module: RuntimeConsole.Interchange.Link
Purpose: The JSON forms of links and platforms.
Main exports:
  LinkMatch.toJson, LinkMatch.ofJson, Platform.ofJson
-/
import RuntimeConsole.Json.Decode
import RuntimeConsole.Link.Basic
import RuntimeConsole.Platform

namespace RuntimeConsole

/-- A line number or null. -/
def lineToJson : Option UInt32 → Json
  | some n => .int n.toNat
  | none => .null

namespace LinkMatch

def toJson (link : LinkMatch) : Json :=
  .obj [("text", .str link.text), ("path", .str link.path), ("line", lineToJson link.line),
    ("start", .int link.start), ("end", .int link.stop)]

def ofJson (json : Json) : Decoded LinkMatch := do
  let record ← json.asRecord ["text", "path", "line", "start", "end"]
  let text ← record.required "text" Json.asString
  let path ← record.required "path" Json.asString
  let line ← record.nullable "line" Json.asUInt32
  let start ← record.required "start" Json.asNat64
  let stop ← record.required "end" Json.asNat64
  pure { text, path, line, start, stop }

end LinkMatch

namespace Platform

def ofJson (json : Json) : Decoded Platform := do
  match ← json.asVariant with
  | ("posix", none) | ("posix", some .null) => pure posix
  | ("windows", none) | ("windows", some .null) => pure windows
  | _ => Decoded.mismatch "a platform"

end Platform

end RuntimeConsole
