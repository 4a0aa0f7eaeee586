/-
Module: RuntimeConsole.Yaml.Node
Purpose: The values configuration files hold, read off their tokens.
Main exports:
  Node, Node.targets, Node.ofTokens?, Value, Value.ofText?
-/
import RuntimeConsole.Yaml.Layout

namespace RuntimeConsole.Yaml

/-- A value as a configuration file writes it.  Aliases stay what they are, so that
a value may contain itself. -/
inductive Node where
  /-- Its style and its tag decide what kinds of values it may stand for. -/
  | scalar (style : ScalarStyle) (tag : Option Tag) (text : String)
  | sequence (items : List Node)
  | mapping (entries : List (Node × Node))
  /-- A value that aliases with the number `slot` may stand for. -/
  | anchored (slot : Nat) (node : Node)
  /-- What stands for the value with the number `slot`. -/
  | alias (slot : Nat)
deriving Repr, Inhabited

namespace Node

/-- The scalar that stands where nothing is written. -/
def nothing : Node := .scalar .plain none ""

mutual

/-- The values in a node that aliases may stand for, with their numbers, in the
order in which they begin. -/
def targets : Node → List (Nat × Node)
  | .scalar _ _ _ => []
  | .sequence items => targetsOfItems items
  | .mapping entries => targetsOfEntries entries
  | .anchored slot node => (slot, node) :: node.targets
  | .alias _ => []

/-- The values in the items of a sequence that aliases may stand for. -/
def targetsOfItems : List Node → List (Nat × Node)
  | [] => []
  | item :: rest => item.targets ++ targetsOfItems rest

/-- The values in the entries of a mapping that aliases may stand for. -/
def targetsOfEntries : List (Node × Node) → List (Nat × Node)
  | [] => []
  | (key, value) :: rest => key.targets ++ value.targets ++ targetsOfEntries rest

end

end Node

/-- What a document has defined so far. -/
structure Definitions where
  /-- What the handles of tags stand for. -/
  handles : List (String × Tag)
  /-- The numbers of the values that have names, each name once. -/
  slots : List (String × Nat)
deriving Repr, DecidableEq, Inhabited

namespace Definitions

/-- The handles every document has. -/
def standardHandles : List (String × Tag) :=
  [("!", .ofString "!"), ("!!", .ofString "tag:yaml.org,2002:")]

/-- The number a value that begins here gets with a name: that of the names known
so far.  A name that is used again leaves their number as it is, so the next
value may get the number of this one, and takes its place. -/
def nextSlot (definitions : Definitions) : Nat :=
  definitions.slots.length

/-- The definitions with a value named that begins here. -/
def anchor (definitions : Definitions) (name : String) : Definitions :=
  { definitions with
    slots := (name, definitions.nextSlot) ::
      definitions.slots.filter fun entry => entry.1 != name }

/-- The tag a name stands for. -/
def tag? (definitions : Definitions) (name : TagName) : Option Tag :=
  if name.handle.isEmpty then some name.suffix
  else (definitions.handles.lookup name.handle).map (· ++ name.suffix)

end Definitions

/-- What may stand before a value. -/
structure Properties where
  anchor : Option String
  tag : Option Tag
deriving Repr, DecidableEq, Inhabited

/-- What reading a part of a document leaves. -/
structure Part (α : Type) where
  found : α
  definitions : Definitions
  rest : List Token

namespace Part

variable {α β : Type}

/-- The part with something else made of what was found. -/
def map (change : α → β) (part : Part α) : Part β :=
  ⟨change part.found, part.definitions, part.rest⟩

end Part

/-! ### Documents

The readers take a bound of the number of steps as their first argument.  Every
step takes a token or goes on to a part, so a multiple of the number of tokens
suffices. -/

/-- Reads an anchor and a tag, in either order and both optional. -/
def readProperties (definitions : Definitions) (tokens : List Token) :
    Option (Part Properties) :=
  match tokens with
  | .anchor name :: .tag tag :: rest | .tag tag :: .anchor name :: rest =>
      (definitions.tag? tag).map fun tag => ⟨⟨some name, some tag⟩, definitions, rest⟩
  | .anchor name :: rest => some ⟨⟨some name, none⟩, definitions, rest⟩
  | .tag tag :: rest => (definitions.tag? tag).map fun tag => ⟨⟨none, some tag⟩, definitions, rest⟩
  | tokens => some ⟨⟨none, none⟩, definitions, tokens⟩

/-- Whether a value is missing before a token, where it is one of those that begin
the next part of a collection, or nothing is left. -/
def missesValue (stops : List Token) : List Token → Bool
  | [] => true
  | token :: _ => stops.contains token

mutual

/-- Reads a value.  `inBlock` says whether it may be a block, `unindented` whether
it may be a sequence that is not indented. -/
def readNode (limit : Nat) (inBlock unindented : Bool) (definitions : Definitions)
    (tokens : List Token) : Option (Part Node) :=
  match limit with
  | 0 => none
  | limit + 1 =>
      match tokens with
      | .alias name :: rest =>
          (definitions.slots.lookup name).map fun slot => ⟨.alias slot, definitions, rest⟩
      | tokens =>
          match readProperties definitions tokens with
          | none => none
          | some ⟨properties, definitions, rest⟩ =>
              match properties.anchor with
              | none => readContent limit inBlock unindented properties definitions rest
              | some name =>
                  (readContent limit inBlock unindented properties (definitions.anchor name)
                    rest).map (Part.map (Node.anchored definitions.nextSlot))

/-- Reads a value after its properties. -/
def readContent (limit : Nat) (inBlock unindented : Bool) (properties : Properties)
    (definitions : Definitions) (tokens : List Token) : Option (Part Node) :=
  match limit with
  | 0 => none
  | limit + 1 =>
      match tokens, inBlock with
      | .scalar style text :: rest, _ =>
          some ⟨.scalar style properties.tag text, definitions, rest⟩
      | .flowSequenceStart :: rest, _ =>
          (readFlowItems limit true definitions rest).map (Part.map Node.sequence)
      | .flowMappingStart :: rest, _ =>
          (readFlowEntries limit true definitions rest).map (Part.map Node.mapping)
      | .blockSequenceStart :: rest, true =>
          (readBlockItems limit definitions rest).map (Part.map Node.sequence)
      | .blockMappingStart :: rest, true =>
          (readBlockEntries limit definitions rest).map (Part.map Node.mapping)
      | tokens, _ =>
          if unindented && tokens.head? == some .blockEntry then
            (readUnindentedItems limit definitions tokens).map (Part.map Node.sequence)
          else if properties.anchor.isSome || properties.tag.isSome then
            some ⟨.scalar .plain properties.tag "", definitions, tokens⟩
          else none

/-- Reads a value, or nothing before one of the given tokens. -/
def readOptional (limit : Nat) (inBlock unindented : Bool) (stops : List Token)
    (definitions : Definitions) (tokens : List Token) : Option (Part Node) :=
  match limit with
  | 0 => none
  | limit + 1 =>
      if missesValue stops tokens then some ⟨.nothing, definitions, tokens⟩
      else readNode limit inBlock unindented definitions tokens

/-- Reads a value after a colon, or nothing if there is no colon. -/
def readValue (limit : Nat) (inBlock : Bool) (stops : List Token) (definitions : Definitions)
    (tokens : List Token) : Option (Part Node) :=
  match limit with
  | 0 => none
  | limit + 1 =>
      match tokens with
      | .value :: rest => readOptional limit inBlock inBlock stops definitions rest
      | tokens => some ⟨.nothing, definitions, tokens⟩

/-- Reads the items of an indented sequence and its end. -/
def readBlockItems (limit : Nat) (definitions : Definitions) (tokens : List Token) :
    Option (Part (List Node)) :=
  match limit with
  | 0 => none
  | limit + 1 =>
      match tokens with
      | .blockEntry :: rest =>
          match readOptional limit true false [.blockEntry, .blockEnd] definitions rest with
          | none => none
          | some item =>
              (readBlockItems limit item.definitions item.rest).map
                (Part.map fun items => item.found :: items)
      | .blockEnd :: rest => some ⟨[], definitions, rest⟩
      | _ => none

/-- Reads the items of a sequence that is not indented. -/
def readUnindentedItems (limit : Nat) (definitions : Definitions) (tokens : List Token) :
    Option (Part (List Node)) :=
  match limit with
  | 0 => none
  | limit + 1 =>
      match tokens with
      | .blockEntry :: rest =>
          match readOptional limit true false [.blockEntry, .key, .value, .blockEnd] definitions
              rest with
          | none => none
          | some item =>
              (readUnindentedItems limit item.definitions item.rest).map
                (Part.map fun items => item.found :: items)
      | tokens => some ⟨[], definitions, tokens⟩

/-- Reads the entries of a mapping and its end. -/
def readBlockEntries (limit : Nat) (definitions : Definitions) (tokens : List Token) :
    Option (Part (List (Node × Node))) :=
  match limit with
  | 0 => none
  | limit + 1 =>
      let stops : List Token := [.key, .value, .blockEnd]
      match tokens with
      | .key :: rest =>
          match readOptional limit true true stops definitions rest with
          | none => none
          | some key =>
              match readValue limit true stops key.definitions key.rest with
              | none => none
              | some value =>
                  (readBlockEntries limit value.definitions value.rest).map
                    (Part.map fun entries => (key.found, value.found) :: entries)
      | .blockEnd :: rest => some ⟨[], definitions, rest⟩
      | _ => none

/-- Reads the items of a sequence in brackets and its end.  Items after the first
follow a comma. -/
def readFlowItems (limit : Nat) (isFirst : Bool) (definitions : Definitions)
    (tokens : List Token) : Option (Part (List Node)) :=
  match limit with
  | 0 => none
  | limit + 1 =>
      match tokens, isFirst with
      | .flowSequenceEnd :: rest, _ => some ⟨[], definitions, rest⟩
      | .flowEntry :: rest, false => readFlowItem limit definitions rest
      | tokens, true => readFlowItem limit definitions tokens
      | _, false => none

/-- Reads an item of a sequence in brackets and those that follow.  An item with a
key is a mapping of one entry.  Where an announced key is missing, the token in
its place is passed over, whatever it is. -/
def readFlowItem (limit : Nat) (definitions : Definitions) (tokens : List Token) :
    Option (Part (List Node)) :=
  match limit with
  | 0 => none
  | limit + 1 =>
      let stops : List Token := [.value, .flowEntry, .flowSequenceEnd]
      let item :=
        match tokens with
        | .key :: rest =>
            let key : Option (Part Node) :=
              if missesValue stops rest then some ⟨.nothing, definitions, rest.drop 1⟩
              else readNode limit false false definitions rest
            match key with
            | none => none
            | some key =>
                (readValue limit false stops.tail key.definitions key.rest).map
                  (Part.map fun value => Node.mapping [(key.found, value)])
        | tokens => readNode limit false false definitions tokens
      match tokens, item with
      | .flowSequenceEnd :: rest, _ => some ⟨[], definitions, rest⟩
      | _, none => none
      | _, some item =>
          (readFlowItems limit false item.definitions item.rest).map
            (Part.map fun items => item.found :: items)

/-- Reads the entries of a mapping in brackets and its end.  Entries after the
first follow a comma. -/
def readFlowEntries (limit : Nat) (isFirst : Bool) (definitions : Definitions)
    (tokens : List Token) : Option (Part (List (Node × Node))) :=
  match limit with
  | 0 => none
  | limit + 1 =>
      match tokens, isFirst with
      | .flowMappingEnd :: rest, _ => some ⟨[], definitions, rest⟩
      | .flowEntry :: rest, false => readFlowEntry limit definitions rest
      | tokens, true => readFlowEntry limit definitions tokens
      | _, false => none

/-- Reads an entry of a mapping in brackets and those that follow.  A value
without an announced key is a key without a value. -/
def readFlowEntry (limit : Nat) (definitions : Definitions) (tokens : List Token) :
    Option (Part (List (Node × Node))) :=
  match limit with
  | 0 => none
  | limit + 1 =>
      let stops : List Token := [.value, .flowEntry, .flowMappingEnd]
      let entry :=
        match tokens with
        | .key :: rest =>
            match readOptional limit false false stops definitions rest with
            | none => none
            | some key =>
                (readValue limit false stops.tail key.definitions key.rest).map
                  (Part.map fun value => (key.found, value))
        | tokens =>
            (readNode limit false false definitions tokens).map
              (Part.map fun key => (key, Node.nothing))
      match tokens, entry with
      | .flowMappingEnd :: rest, _ => some ⟨[], definitions, rest⟩
      | _, none => none
      | _, some entry =>
          (readFlowEntries limit false entry.definitions entry.rest).map
            (Part.map fun entries => entry.found :: entries)

end

/-- What the directives before a document say. -/
structure Prologue where
  hasVersion : Bool
  handles : List (String × Tag)
deriving Repr, DecidableEq, Inhabited

/-- Reads directives.  A version and each handle may be given once, and only the
known versions are read. -/
def readPrologue (prologue : Prologue) : List Token → Option (Prologue × List Token)
  | .versionDirective major minor :: rest =>
      if prologue.hasVersion || major != 1 || (minor != 1 && minor != 2) then none
      else readPrologue { prologue with hasVersion := true } rest
  | .tagDirective handle start :: rest =>
      if (prologue.handles.lookup handle).isSome then none
      else readPrologue { prologue with handles := prologue.handles ++ [(handle, start)] } rest
  | tokens => some (prologue, tokens)

/-- Whether a document has no content before a token. -/
def endsDocument : List Token → Bool
  | [] => true
  | token :: _ =>
      match token with
      | .documentStart | .documentEnd | .versionDirective _ _ | .tagDirective _ _ => true
      | _ => false

/-- Reads the value of a document whose beginning is marked, or not. -/
def readDocument (marked : Bool) (handles : List (String × Tag)) (tokens : List Token) :
    Option (Part Node) :=
  let definitions : Definitions := ⟨handles ++ Definitions.standardHandles, []⟩
  if marked && endsDocument tokens then some ⟨.nothing, definitions, tokens⟩
  else readNode (8 * (tokens.length + 1)) true false definitions tokens

/-- The value of the only document of a file.  A file without a document has
nothing for a value. -/
def Node.ofTokens? (tokens : List Token) : Option Node :=
  match readPrologue ⟨false, []⟩ tokens with
  | none => none
  | some (prologue, rest) =>
      let document :=
        match rest with
        | .documentStart :: rest => readDocument true prologue.handles rest
        | rest =>
            if rest.length < tokens.length then none
            else if rest.isEmpty then some ⟨.nothing, default, []⟩
            else readDocument false [] rest
      match document with
      | none => none
      | some document =>
          if (document.rest.dropWhile (· == .documentEnd)).isEmpty then some document.found
          else none

/-- A value of a configuration file: a node, and what the aliases in it may stand
for. -/
structure Value where
  node : Node
  /-- The values that have numbers, the latest first. -/
  targets : List (Nat × Node)
deriving Repr, Inhabited

namespace Value

/-- The value of a document. -/
def ofNode (node : Node) : Value := ⟨node, node.targets.reverse⟩

/-- The value of a file. -/
def ofText? (text : List Char) : Option Value :=
  if admitted text then
    ((tokens? (unifyBreaks text)).bind Node.ofTokens?).map ofNode
  else none

/-- Another value of the same document. -/
def goTo (value : Value) (node : Node) : Value := { value with node := node }

/-- What is written where the value stands, or where the value stands that an
alias stands for.  Of several values with the number of the alias the one that
begins last counts, wherever the alias is. -/
def content (value : Value) : Node :=
  match value.node with
  | .alias slot => (value.targets.lookup slot).getD .nothing
  | .anchored _ node => node
  | node => node

end Value

end RuntimeConsole.Yaml
