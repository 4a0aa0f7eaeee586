/-
Module: RuntimeConsole.Yaml.Token
Purpose: The tokens of configuration files, and the reading of those that are
  neither structure nor scalars: anchors, tags and directives.
Main exports:
  Tag, Token, TagName, readAnchorName, readTag, readDirective
-/
import RuntimeConsole.Text.Digit
import RuntimeConsole.Text.Utf8
import RuntimeConsole.Yaml.Scalar

namespace RuntimeConsole.Yaml

/-- A tag.  It is made of bytes, which need not be the encoding of a text. -/
abbrev Tag := List UInt8

/-- The tag that is the encoding of a text. -/
def Tag.ofString (text : String) : Tag := Text.encode text.toList

/-- A tag as it is written: a handle, which stands for the beginning of the tag,
and the rest. -/
structure TagName where
  handle : String
  suffix : Tag
deriving Repr, DecidableEq, Inhabited

/-- The units configuration files consist of.  Indentation is turned into
beginnings and ends of blocks. -/
inductive Token where
  | versionDirective (major minor : Nat)
  | tagDirective (handle : String) (start : Tag)
  | documentStart
  | documentEnd
  | blockSequenceStart
  | blockMappingStart
  | blockEnd
  | flowSequenceStart
  | flowSequenceEnd
  | flowMappingStart
  | flowMappingEnd
  /-- The hyphen before an item. -/
  | blockEntry
  /-- The comma between items. -/
  | flowEntry
  /-- What follows is a key. -/
  | key
  /-- What follows is a value. -/
  | value
  | alias (name : String)
  | anchor (name : String)
  | tag (name : TagName)
  | scalar (style : ScalarStyle) (text : String)
deriving Repr, DecidableEq, Inhabited

/-! ### Anchors -/

/-- The characters that may follow the name of an anchor, gaps apart. -/
def endsName (c : Char) : Bool :=
  "?:,]\x7d%@\x60".toList.contains c

/-- The name of an anchor or an alias, after the character that introduces it. -/
def readAnchorName (text : List Char) : Option Reading :=
  let name := text.takeWhile isWordChar
  let rest := text.dropWhile isWordChar
  if !name.isEmpty && (atGap rest || (rest.head?.map endsName).getD false) then some (name, rest)
  else none

/-! ### Tags -/

/-- Whether a character may stand in a tag as it is.  Commas and square brackets
may where nothing else can be meant. -/
def isTagChar (verbatim : Bool) (c : Char) : Bool :=
  isWordChar c || ";/?:@&=+$.!~*'()".toList.contains c || (verbatim && ",[]".toList.contains c)

/-- How many bytes must follow a byte that stands where `pending` more bytes of a
character must.  Only the form of the encoding counts, so that overlong
characters and surrogates pass. -/
def pendingAfter? (pending : Nat) (byte : UInt8) : Option Nat :=
  let n := byte.toNat
  match pending with
  | pending + 1 => if n / 0x40 == 0x2 then some pending else none
  | 0 =>
      if n < 0x80 then some 0
      else if n / 0x20 == 0x6 then some 1
      else if n / 0x10 == 0xE then some 2
      else if n / 0x08 == 0x1E then some 3
      else none

/-- Reads the bytes of a tag.  A per cent sign and two hexadecimal digits give a
byte, and all bytes of a character are given like this or none is. -/
def readTagBytes (verbatim : Bool) (pending : Nat) : List Char → Option (Tag × List Char)
  | '%' :: first :: second :: rest => do
      let c ← readHex 2 [first, second]
      let byte := UInt8.ofNat c.toNat
      let pending ← pendingAfter? pending byte
      let (bytes, rest) ← readTagBytes verbatim pending rest
      pure (byte :: bytes, rest)
  | '%' :: _ => none
  | c :: rest =>
      if pending != 0 then none
      else if isTagChar verbatim c then
        (readTagBytes verbatim 0 rest).map fun read => (Text.encodeChar c ++ read.1, read.2)
      else some ([], c :: rest)
  | [] => if pending != 0 then none else some ([], [])

/-- The bytes of a tag that count: a zero ends it. -/
def untilZero (bytes : Tag) : Tag :=
  bytes.takeWhile (· != 0)

/-- Reads a tag or a part of one.  It must not be empty. -/
def readTagPart (verbatim : Bool) (text : List Char) : Option (Tag × List Char) := do
  let (bytes, rest) ← readTagBytes verbatim 0 text
  if bytes.isEmpty then none else pure (untilZero bytes, rest)

/-- Reads a handle after the exclamation mark it begins with: a name and another
mark, or whatever there is of the name. -/
def readHandle (text : List Char) : List Char × List Char :=
  let name := text.takeWhile isWordChar
  match text.dropWhile isWordChar with
  | '!' :: rest => ('!' :: (name ++ ['!']), rest)
  | rest => ('!' :: name, rest)

/-- Reads the tag after its exclamation mark. -/
def readTagName (text : List Char) : Option (TagName × List Char) :=
  match text with
  | '<' :: rest =>
      match readTagPart true rest with
      | some (suffix, '>' :: rest) => some (⟨"", suffix⟩, rest)
      | _ => none
  | text =>
      let (handle, rest) := readHandle text
      if handle.length > 1 && handle.getLast? == some '!' then
        (readTagPart false rest).map fun (suffix, rest) =>
          (⟨String.ofList handle, suffix⟩, rest)
      else
        (readTagBytes false 0 rest).map fun (bytes, rest) =>
          let suffix := untilZero (Text.encode (handle.drop 1) ++ bytes)
          (if suffix.isEmpty then ⟨"", Tag.ofString "!"⟩ else ⟨"!", suffix⟩, rest)

/-- Reads the tag after its exclamation mark.  A gap follows it, or a comma in
brackets. -/
def readTag (inBrackets : Bool) (text : List Char) : Option (TagName × List Char) :=
  match readTagName text with
  | some (tag, rest) =>
      if atGap rest || (inBrackets && rest.head? == some ',') then some (tag, rest) else none
  | none => none

/-! ### Directives -/

/-- The number of digits a part of a version may have. -/
def versionDigits : Nat := 9

/-- Reads a part of a version. -/
def readVersionPart (text : List Char) : Option (Nat × List Char) :=
  let digits := text.takeWhile Char.isDigit
  if digits.isEmpty || digits.length > versionDigits then none
  else
    (Text.digitsValue? 0 digits).map fun n => (n, text.dropWhile Char.isDigit)

/-- Reads the version a directive states. -/
def readVersion (text : List Char) : Option (Token × List Char) := do
  let (major, rest) ← readVersionPart (text.dropWhile isBlank)
  match rest with
  | '.' :: rest =>
      let (minor, rest) ← readVersionPart rest
      pure (.versionDirective major minor, rest)
  | _ => none

/-- Reads the handle and the beginning of tags a directive ties together. -/
def readTagDirective (text : List Char) : Option (Token × List Char) := do
  match text.dropWhile isBlank with
  | '!' :: rest =>
      let (handle, rest) := readHandle rest
      if handle.length > 1 && handle.getLast? != some '!' then none
      else if (rest.head?.map isBlank).getD false then
        let (start, rest) ← readTagPart true (rest.dropWhile isBlank)
        if atGap rest then pure (.tagDirective (String.ofList handle) start, rest)
        else none
      else none
  | _ => none

/-- Reads a directive after the per cent sign that introduces it, with the line it
stands on. -/
def readDirective (text : List Char) : Option (Token × List Char) := do
  let name := String.ofList (text.takeWhile isWordChar)
  let rest := text.dropWhile isWordChar
  if !atGap rest then none
  else
    let (token, rest) ←
      if name == "YAML" then readVersion rest
      else if name == "TAG" then readTagDirective rest
      else none
    let rest ← skipLineEnd rest
    pure (token, rest)

end RuntimeConsole.Yaml
