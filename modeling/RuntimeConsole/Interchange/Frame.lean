/-
Module: RuntimeConsole.Interchange.Frame
Purpose: The written form of frames: a JSON value a line.
Main exports:
  Frame.toJson, Frame.ofJson, Frame.encode, Frame.decode?
-/
import RuntimeConsole.Json.Decode
import RuntimeConsole.Json.Printer
import RuntimeConsole.Json.Reader
import RuntimeConsole.Remote.Frame

namespace RuntimeConsole

namespace Frame

def toJson : Frame → Json
  | message name args =>
      .obj [("type", .str "message"), ("name", .str name), ("args", .arr args)]
  | call id name args =>
      .obj [("type", .str "call"), ("id", .int id), ("name", .str name), ("args", .arr args)]
  | response id result =>
      .obj [("type", .str "response"), ("id", .int id), ("result", result)]
  | error id text =>
      .obj [("type", .str "error"), ("id", .int id), ("message", .str text)]

/-- The kind of a frame and its other fields.  The kind may stand anywhere in an
object, and comes first in a sequence. -/
def splitKind : Json → Decoded (String × Json)
  | .obj members =>
      match members.filter fun entry => entry.1 == "type" with
      | [(_, .str kind)] =>
          .ok (kind, .obj (members.filter fun entry => entry.1 != "type"))
      | _ => Decoded.mismatch "a frame of one type"
  | .arr (.str kind :: items) => .ok (kind, .arr items)
  | _ => Decoded.mismatch "a frame"

/-- The arguments of a frame, none if they are not given. -/
def argsOf (record : Record Json) : Decoded (List Json) :=
  record.defaulted "args" [] (Json.asList fun value => .ok value.canonical)

/-- The frame a value gives. -/
def ofJson (json : Json) : Decoded Frame := do
  let (kind, fields) ← splitKind json
  match kind with
  | "message" =>
      let record ← fields.asRecord ["name", "args"]
      let name ← record.required "name" Json.asString
      let args ← argsOf record
      pure (message name args)
  | "call" =>
      let record ← fields.asRecord ["id", "name", "args"]
      let id ← record.required "id" Json.asNat64
      let name ← record.required "name" Json.asString
      let args ← argsOf record
      pure (call id name args)
  | "response" =>
      let record ← fields.asRecord ["id", "result"]
      let id ← record.required "id" Json.asNat64
      let result ← record.defaulted "result" .null fun value => .ok value.canonical
      pure (response id result)
  | "error" =>
      let record ← fields.asRecord ["id", "message"]
      let id ← record.required "id" Json.asNat64
      let text ← record.required "message" Json.asString
      pure (error id text)
  | _ => Decoded.mismatch "a known type of frame"

/-- A frame on one line, without a line break. -/
def encode (frame : Frame) : List Char :=
  frame.toJson.render

/-- The frame a line consists of. -/
def decodeChars? (line : List Char) : Option Frame :=
  match Json.parseChars? Json.nestingLimit line with
  | some json => (ofJson json).toOption
  | none => none

end Frame

end RuntimeConsole
