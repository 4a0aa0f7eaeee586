/-
Module: RuntimeConsole.Yaml.Character
Purpose: The characters configuration files may hold and the classes that matter
  to their layout.
Main exports:
  isBreak, isBlank, atGap, atBreak, atDocumentMark, isWordChar, admitted, unifyBreaks
-/

namespace RuntimeConsole.Yaml

/-- Whether a character may occur at all.  Control characters may not, apart from
tabs and line breaks. -/
def isAdmitted (c : Char) : Bool :=
  let n := c.toNat
  n == 0x09 || n == 0x0A || n == 0x0D || (0x20 ≤ n && n ≤ 0x7E) || n == 0x85 ||
    (0xA0 ≤ n && n ≤ 0xD7FF) || (0xE000 ≤ n && n ≤ 0xFFFD) || 0x10000 ≤ n

/-- Whether a text may be a configuration file. -/
def admitted (text : List Char) : Bool :=
  text.all isAdmitted

/-- The text with every carriage return, alone or before a line feed, and every
next-line character turned into a line feed. -/
def unifyBreaks : List Char → List Char
  | [] => []
  | '\r' :: '\n' :: rest => '\n' :: unifyBreaks rest
  | '\r' :: rest => '\n' :: unifyBreaks rest
  | c :: rest => (if c.toNat = 0x85 then '\n' else c) :: unifyBreaks rest

/-- Whether a character ends a line, once the breaks are unified.  The line and
paragraph separators stay what they are. -/
def isBreak (c : Char) : Bool :=
  c == '\n' || c.toNat == 0x2028 || c.toNat == 0x2029

/-- Whether a character separates words on a line. -/
def isBlank (c : Char) : Bool :=
  c == ' ' || c == '\t'

/-- Whether a word may end here: before a blank, a break or the end. -/
def atGap : List Char → Bool
  | [] => true
  | c :: _ => isBlank c || isBreak c

/-- Whether a line ends here. -/
def atBreak : List Char → Bool
  | [] => true
  | c :: _ => isBreak c

/-- Whether the mark of a beginning or an end of a document stands here. -/
def atDocumentMark : List Char → Bool
  | '-' :: '-' :: '-' :: rest => atGap rest
  | '.' :: '.' :: '.' :: rest => atGap rest
  | _ => false

/-- Whether a character may occur in names of anchors and directives. -/
def isWordChar (c : Char) : Bool :=
  c.isAlphanum || c == '_' || c == '-'

/-- The characters that give collections in brackets their structure. -/
def isBracket (c : Char) : Bool :=
  c == '[' || c == ']' || c == '\x7b' || c == '\x7d'

/-- The byte order mark, which may begin a line. -/
def byteOrderMark : Char := Char.ofNat 0xFEFF

end RuntimeConsole.Yaml
