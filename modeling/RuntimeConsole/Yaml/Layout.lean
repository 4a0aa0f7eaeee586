/-
Module: RuntimeConsole.Yaml.Layout
Purpose: The layout of configuration files: how lines and indentation give rise to
  tokens.
Main exports:
  Cursor, Layout, tokens?
-/
import RuntimeConsole.Yaml.Token

namespace RuntimeConsole.Yaml

/-! ### Places -/

/-- A place in a file and what follows it. -/
structure Cursor where
  rest : List Char
  /-- The number of bytes before the place. -/
  index : Nat
  line : Nat
  column : Nat
deriving Repr, DecidableEq, Inhabited

namespace Cursor

/-- The beginning of a text. -/
def ofText (text : List Char) : Cursor := ⟨text, 0, 0, 0⟩

/-- The place after the next character. -/
def next (cursor : Cursor) : Cursor :=
  match cursor.rest with
  | [] => cursor
  | c :: rest =>
      if isBreak c then ⟨rest, cursor.index + c.utf8Size, cursor.line + 1, 0⟩
      else ⟨rest, cursor.index + c.utf8Size, cursor.line, cursor.column + 1⟩

/-- The place after several characters. -/
def skip (cursor : Cursor) (count : Nat) : Cursor :=
  count.repeat next cursor

/-- The place at which only `rest` follows. -/
def moveTo (cursor : Cursor) (rest : List Char) : Cursor :=
  cursor.skip (cursor.rest.length - rest.length)

end Cursor

/-! ### The state of the layout -/

/-- A place at which a key may have begun that no indicator announced. -/
structure KeyStart where
  /-- Whether it has to be a key, being where keys of the block stand. -/
  required : Bool
  /-- The number of tokens before it. -/
  token : Nat
  index : Nat
  line : Nat
  column : Nat
deriving Repr, DecidableEq, Inhabited

/-- How far a file has been turned into tokens. -/
structure Layout where
  cursor : Cursor
  tokens : List Token
  /-- One more than the column of the innermost block, zero outside blocks. -/
  margin : Nat
  /-- The margins of the blocks around it, innermost first. -/
  outerMargins : List Nat
  /-- Where a key may have begun in each of the collections in brackets that are
  open, innermost first, and last outside them. -/
  keyStarts : List (Option KeyStart)
  /-- Whether a key may begin here. -/
  keyAllowed : Bool
deriving Repr, DecidableEq, Inhabited

namespace Layout

/-- The beginning of a file. -/
def ofText (text : List Char) : Layout where
  cursor := .ofText text
  tokens := []
  margin := 0
  outerMargins := []
  keyStarts := [none]
  keyAllowed := true

/-- Whether a collection in brackets is open. -/
def inBrackets (layout : Layout) : Bool := layout.keyStarts.length > 1

/-- The layout with a token more. -/
def push (layout : Layout) (token : Token) : Layout :=
  { layout with tokens := layout.tokens ++ [token] }

/-- The layout after some characters. -/
def skip (layout : Layout) (count : Nat) : Layout :=
  { layout with cursor := layout.cursor.skip count }

/-- The layout where only `rest` follows. -/
def moveTo (layout : Layout) (rest : List Char) : Layout :=
  { layout with cursor := layout.cursor.moveTo rest }

/-- The layout with keys allowed to begin, or not. -/
def allowKeys (layout : Layout) (allowed : Bool) : Layout :=
  { layout with keyAllowed := allowed }

/-! ### Blocks -/

/-- The number of blocks to be left until the margin is at most `limit`, with the
margins then. -/
def unwind (limit margin : Nat) : List Nat → Nat × Nat × List Nat
  | [] => (0, margin, [])
  | outer :: rest =>
      if margin > limit then
        let (count, margin, outerMargins) := unwind limit outer rest
        (count + 1, margin, outerMargins)
      else (0, margin, outer :: rest)

/-- Leaves the blocks whose margin is above `limit`.  Inside brackets indentation
means nothing. -/
def leaveBlocks (layout : Layout) (limit : Nat) : Layout :=
  if layout.inBrackets then layout
  else
    let (count, margin, outerMargins) := unwind limit layout.margin layout.outerMargins
    { layout with
      tokens := layout.tokens ++ List.replicate count .blockEnd
      margin := margin
      outerMargins := outerMargins }

/-- Enters a block at a column, if it is deeper than the innermost one.  The token
that begins it is inserted at a given place. -/
def enterBlock (layout : Layout) (column place : Nat) (token : Token) : Layout :=
  if !layout.inBrackets && layout.margin ≤ column then
    { layout with
      tokens := layout.tokens.insertIdx place token
      margin := column + 1
      outerMargins := layout.margin :: layout.outerMargins }
  else layout

/-- Enters a block here. -/
def enterBlockHere (layout : Layout) (token : Token) : Layout :=
  layout.enterBlock layout.cursor.column layout.tokens.length token

/-! ### Keys -/

/-- Gives up that a key has begun in the innermost collection.  One that had to be
a key cannot be given up. -/
def dropKey (layout : Layout) : Option Layout :=
  match layout.keyStarts with
  | some start :: rest =>
      if start.required then none else some { layout with keyStarts := none :: rest }
  | _ => some layout

/-- Takes note that a key may begin here, if one may. -/
def saveKey (layout : Layout) : Option Layout :=
  if layout.keyAllowed then
    layout.dropKey.map fun layout =>
      let cursor := layout.cursor
      let start : KeyStart :=
        ⟨!layout.inBrackets && layout.margin == cursor.column + 1, layout.tokens.length,
          cursor.index, cursor.line, cursor.column⟩
      { layout with keyStarts := some start :: layout.keyStarts.tail }
  else some layout

/-- The number of bytes a key that no indicator announces may have. -/
def keyLimit : Nat := 1024

/-- Whether it is too late for a key that began at a place: it must end on the same
line and not too far away. -/
def isStale (cursor : Cursor) (start : KeyStart) : Bool :=
  start.line < cursor.line || start.index + keyLimit < cursor.index

/-- Gives up the keys for which it is too late. -/
def dropStaleKeys (layout : Layout) : Option Layout :=
  let stale (start : KeyStart) : Bool := isStale layout.cursor start
  if layout.keyStarts.any fun entry => entry.any fun start => stale start && start.required then none
  else
    some { layout with
      keyStarts := layout.keyStarts.map fun entry => entry.filter fun start => !stale start }

/-! ### Gaps -/

/-- Skips comments and the gaps between tokens.  A tab may begin a line only where
no key can, and a key may begin after a break outside brackets.  A byte order mark
may begin a line. -/
def skipGap (layout : Layout) (inComment : Bool) : (limit : Nat) → Layout
  | 0 => layout
  | limit + 1 =>
      match layout.cursor.rest with
      | [] => layout
      | c :: _ =>
          if isBreak c then
            skipGap ((layout.skip 1).allowKeys (layout.keyAllowed || !layout.inBrackets)) false limit
          else if inComment || c == ' ' ||
              (c == '\t' && (layout.inBrackets || !layout.keyAllowed)) ||
              (c == byteOrderMark && layout.cursor.column == 0) then
            skipGap (layout.skip 1) inComment limit
          else if c == '#' then skipGap (layout.skip 1) true limit
          else layout

/-! ### Tokens -/

/-- A mark of a document. -/
def fetchDocumentMark (layout : Layout) (token : Token) : Option Layout :=
  (layout.leaveBlocks 0).dropKey.map fun layout =>
    ((layout.allowKeys false).push token).skip 3

/-- A directive. -/
def fetchDirective (layout : Layout) : Option Layout := do
  let layout ← (layout.leaveBlocks 0).dropKey
  let (token, rest) ← readDirective (layout.cursor.rest.drop 1)
  pure (((layout.allowKeys false).push token).moveTo rest)

/-- The beginning of a collection in brackets. -/
def fetchOpening (layout : Layout) (token : Token) : Option Layout :=
  layout.saveKey.map fun layout =>
    (({ layout with keyStarts := none :: layout.keyStarts }.allowKeys true).push token).skip 1

/-- The end of a collection in brackets. -/
def fetchClosing (layout : Layout) (token : Token) : Option Layout :=
  layout.dropKey.map fun layout =>
    let keyStarts :=
      if layout.inBrackets then layout.keyStarts.tail else layout.keyStarts
    (({ layout with keyStarts := keyStarts }.allowKeys false).push token).skip 1

/-- A comma between items. -/
def fetchComma (layout : Layout) : Option Layout :=
  layout.dropKey.map fun layout => ((layout.allowKeys true).push .flowEntry).skip 1

/-- A hyphen before an item, which may stand where a key may. -/
def fetchHyphen (layout : Layout) : Option Layout :=
  if !layout.inBrackets && !layout.keyAllowed then none
  else
    (layout.enterBlockHere .blockSequenceStart).dropKey.map fun layout =>
      ((layout.allowKeys true).push .blockEntry).skip 1

/-- The announcement of a key. -/
def fetchKey (layout : Layout) : Option Layout :=
  if !layout.inBrackets && !layout.keyAllowed then none
  else
    (layout.enterBlockHere .blockMappingStart).dropKey.map fun layout =>
      ((layout.allowKeys (!layout.inBrackets)).push .key).skip 1

/-- A colon before a value.  If a key may have begun before, it has. -/
def fetchColon (layout : Layout) : Option Layout :=
  match layout.keyStarts with
  | some start :: rest =>
      let layout :=
        { layout with
          tokens := layout.tokens.insertIdx start.token .key
          keyStarts := none :: rest }
      let layout := layout.enterBlock start.column start.token .blockMappingStart
      some (((layout.allowKeys false).push .value).skip 1)
  | _ =>
      if !layout.inBrackets && !layout.keyAllowed then none
      else
        let layout := layout.enterBlockHere .blockMappingStart
        some (((layout.allowKeys (!layout.inBrackets)).push .value).skip 1)

/-- An anchor or an alias. -/
def fetchAnchor (layout : Layout) (token : String → Token) : Option Layout := do
  let layout ← layout.saveKey
  let (name, rest) ← readAnchorName (layout.cursor.rest.drop 1)
  pure (((layout.allowKeys false).push (token (String.ofList name))).moveTo rest)

/-- A tag. -/
def fetchTag (layout : Layout) : Option Layout := do
  let layout ← layout.saveKey
  let (name, rest) ← readTag layout.inBrackets (layout.cursor.rest.drop 1)
  pure (((layout.allowKeys false).push (.tag name)).moveTo rest)

/-- A block of lines. -/
def fetchBlock (layout : Layout) (style : ScalarStyle) : Option Layout := do
  let layout ← layout.dropKey
  let (text, rest) ← readBlock (style == .folded) layout.margin (layout.cursor.rest.drop 1)
  pure (((layout.allowKeys true).push (.scalar style (String.ofList text))).moveTo rest)

/-- A scalar between quotes. -/
def fetchQuoted (layout : Layout) (read : Nat → Gap → List Char → Option Reading) :
    Option Layout := do
  let layout ← layout.saveKey
  let (text, rest) ← read (layout.cursor.column + 1) .empty (layout.cursor.rest.drop 1)
  pure (((layout.allowKeys false).push (.scalar .quoted (String.ofList text))).moveTo rest)

/-- A plain scalar.  A key may begin after it if its line has ended. -/
def fetchPlain (layout : Layout) : Option Layout := do
  let layout ← layout.saveKey
  let scalar ←
    readPlain layout.inBrackets layout.margin layout.cursor.column .empty layout.cursor.rest
  pure (((layout.allowKeys scalar.broken).push
    (.scalar .plain (String.ofList scalar.text))).moveTo scalar.rest)

/-- Whether a plain scalar may begin with a character. -/
def beginsPlain (inBrackets : Bool) (c : Char) (rest : List Char) : Bool :=
  if c == '-' then !(rest.head?.map isBlank).getD false
  else if c == '?' || c == ':' then !inBrackets && !atGap rest
  else !(isBlank c || isBreak c || isBracket c || ",#&*!|>'\"%@\x60".toList.contains c)

/-- Reads the token that begins with the next character. -/
def fetch (layout : Layout) (c : Char) (rest : List Char) : Option Layout :=
  let lineStart := layout.cursor.column == 0
  let separate := layout.inBrackets || atGap rest
  if lineStart && c == '%' then layout.fetchDirective
  else if lineStart && atDocumentMark (c :: rest) then
    layout.fetchDocumentMark (if c == '-' then .documentStart else .documentEnd)
  else if c == '[' then layout.fetchOpening .flowSequenceStart
  else if c == '\x7b' then layout.fetchOpening .flowMappingStart
  else if c == ']' then layout.fetchClosing .flowSequenceEnd
  else if c == '\x7d' then layout.fetchClosing .flowMappingEnd
  else if c == ',' then layout.fetchComma
  else if c == '-' && atGap rest then layout.fetchHyphen
  else if c == '?' && separate then layout.fetchKey
  else if c == ':' && separate then layout.fetchColon
  else if c == '*' then layout.fetchAnchor .alias
  else if c == '&' then layout.fetchAnchor .anchor
  else if c == '!' then layout.fetchTag
  else if c == '|' && !layout.inBrackets then layout.fetchBlock .literal
  else if c == '>' && !layout.inBrackets then layout.fetchBlock .folded
  else if c == '\'' then layout.fetchQuoted readSingleQuoted
  else if c == '"' then layout.fetchQuoted readDoubleQuoted
  else if beginsPlain layout.inBrackets c rest then layout.fetchPlain
  else none

/-- Reads the tokens that are left.  Every one but the last takes at least a
character, so there are no more than `limit` if that is above the length of the
text. -/
def fetchAll (layout : Layout) : (limit : Nat) → Option (List Token)
  | 0 => none
  | limit + 1 =>
      let layout := layout.skipGap false (layout.cursor.rest.length + 1)
      match layout.dropStaleKeys with
      | none => none
      | some layout =>
          match layout.cursor.rest with
          | [] => (layout.leaveBlocks 0).dropKey.map Layout.tokens
          | c :: rest =>
              match (layout.leaveBlocks (layout.cursor.column + 1)).fetch c rest with
              | none => none
              | some layout => layout.fetchAll limit

end Layout

/-- The tokens of a text. -/
def tokens? (text : List Char) : Option (List Token) :=
  (Layout.ofText text).fetchAll (text.length + 1)

end RuntimeConsole.Yaml
