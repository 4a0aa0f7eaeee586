/-
Module: RuntimeConsole.Auxiliary.Persisted
Purpose: What survives a restart of an auxiliary terminal.
Main exports:
  PersistedTerminal, PersistedTerminal.toJson, PersistedTerminal.ofJson,
  PersistedTerminal.listOfText?
-/
import RuntimeConsole.Json.Decode
import RuntimeConsole.Json.Reader
import RuntimeConsole.Terminal.Identity

namespace RuntimeConsole

/-- What survives a restart of an auxiliary terminal. -/
structure PersistedTerminal where
  id : TerminalId
  /-- The working directory of the shell. -/
  cwd : Option String
deriving Repr, DecidableEq, Inhabited

namespace PersistedTerminal

def toJson (item : PersistedTerminal) : Json :=
  .obj [("id", .str item.id.text),
    ("cwd", match item.cwd with | some path => .str path | none => .null)]

def fieldNames : List String := ["id", "cwd"]

def ofJson (json : Json) : Decoded PersistedTerminal := do
  let record ← json.asRecord fieldNames
  let id ← record.required "id" Json.asString
  let cwd ← record.nullable "cwd" Json.asString
  pure ⟨⟨id⟩, cwd⟩

/-- The terminals a value gives. -/
def listOfJson (json : Json) : Decoded (List PersistedTerminal) :=
  json.asList ofJson

/-- The terminals a text gives.  What it says besides about a terminal is passed
over. -/
def listOfText? (text : List Char) : Option (List PersistedTerminal) :=
  match Json.parseWith? (.items (.members fieldNames)) Json.nestingLimit text with
  | some json => (listOfJson json).toOption
  | none => none

/-- The value that gives the terminals. -/
def listToJson (items : List PersistedTerminal) : Json :=
  .arr (items.map toJson)

end PersistedTerminal

end RuntimeConsole
