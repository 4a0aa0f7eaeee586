/-
Module: RuntimeConsole.Interchange.Keyboard
Purpose: The JSON forms of keys and key events.
Main exports:
  Key.toJson, Key.ofJson, KeyEvent.toJson, KeyEvent.ofJson
-/
import RuntimeConsole.Json.Decode
import RuntimeConsole.Keyboard.Key

namespace RuntimeConsole

namespace Key

/-- The keys that carry nothing, with their names. -/
def bareNames : List (String × Key) :=
  [("enter", enter), ("tab", tab), ("escape", escape), ("backspace", backspace),
    ("delete", delete), ("space", space), ("insert", insert), ("up", up), ("down", down),
    ("left", left), ("right", right), ("home", home), ("end", end_), ("page_up", pageUp),
    ("page_down", pageDown)]

def toJson : Key → Json
  | char c => .obj [("char", .str (String.singleton c))]
  | function n => .obj [("f", .int n.toNat)]
  | key =>
      match bareNames.find? fun entry => entry.2 == key with
      | some entry => .str entry.1
      | none => .null

def ofJson (json : Json) : Decoded Key := do
  match ← json.asVariant with
  | ("char", some payload) => payload.asChar.map char
  | ("f", some payload) => payload.asUInt8.map function
  | (name, payload) =>
      match bareNames.lookup name, payload with
      | some key, none => pure key
      | some key, some .null => pure key
      | _, _ => Decoded.mismatch "a key"

end Key

namespace Modifiers

def toJson (held : Modifiers) : Json :=
  .obj [("ctrl", .bool held.ctrl), ("alt", .bool held.alt), ("shift", .bool held.shift),
    ("cmd", .bool held.cmd)]

def ofJson (json : Json) : Decoded Modifiers := do
  let record ← json.asRecord ["ctrl", "alt", "shift", "cmd"]
  let ctrl ← record.required "ctrl" Json.asBool
  let alt ← record.required "alt" Json.asBool
  let shift ← record.required "shift" Json.asBool
  let cmd ← record.required "cmd" Json.asBool
  pure ⟨ctrl, alt, shift, cmd⟩

end Modifiers

namespace KeyEvent

def toJson (event : KeyEvent) : Json :=
  .obj [("key", event.key.toJson), ("modifiers", event.modifiers.toJson)]

def ofJson (json : Json) : Decoded KeyEvent := do
  let record ← json.asRecord ["key", "modifiers"]
  let key ← record.required "key" Key.ofJson
  let modifiers ← record.required "modifiers" Modifiers.ofJson
  pure ⟨key, modifiers⟩

end KeyEvent

end RuntimeConsole
