/-
Module: RuntimeConsole.Keyboard.Input
Purpose: The bytes a terminal sends to its process for a key event.
Main exports:
  KeyEvent.bytes
-/
import RuntimeConsole.Keyboard.Key
import RuntimeConsole.Text.Utf8

namespace RuntimeConsole

/-- The byte that introduces escape sequences. -/
def escapeByte : UInt8 := 0x1B

/-- An escape sequence: the introducing byte and a text. -/
def escapeSequence (text : String) : List UInt8 :=
  escapeByte :: Text.encode text.toList

namespace Key

/-- The bytes of the twelve function keys.  A key beyond them counts as the
last. -/
def functionBytes (n : UInt8) : List UInt8 :=
  escapeSequence <|
    match n.toNat with
    | 1 => "OP"
    | 2 => "OQ"
    | 3 => "OR"
    | 4 => "OS"
    | 5 => "[15~"
    | 6 => "[17~"
    | 7 => "[18~"
    | 8 => "[19~"
    | 9 => "[20~"
    | 10 => "[21~"
    | 11 => "[23~"
    | _ => "[24~"

/-- Whether a character is an ASCII letter. -/
def isLetter (c : Char) : Bool :=
  ('a' ≤ c && c ≤ 'z') || ('A' ≤ c && c ≤ 'Z')

/-- The bytes of a printable key.  Control turns an ASCII letter into its
control character, shift gives the upper-case form. -/
def charBytes (c : Char) (held : Modifiers) : List UInt8 :=
  if held.ctrl && isLetter c then [UInt8.ofNat (c.toNat % 0x20)]
  else if held.shift then Text.encode (Text.upperChar c)
  else Text.encodeChar c

/-- The bytes of a key, the alt modifier apart. -/
def bytes (held : Modifiers) : Key → List UInt8
  | char c => charBytes c held
  | enter => [0x0D]
  | tab => if held.shift then escapeSequence "[Z" else [0x09]
  | escape => [escapeByte]
  | backspace => [0x7F]
  | delete => escapeSequence "[3~"
  | space => [0x20]
  | insert => escapeSequence "[2~"
  | up => escapeSequence (if held.shift then "[1;2A" else "[A")
  | down => escapeSequence (if held.shift then "[1;2B" else "[B")
  | right => escapeSequence (if held.shift then "[1;2C" else "[C")
  | left => escapeSequence (if held.shift then "[1;2D" else "[D")
  | home => escapeSequence "[H"
  | end_ => escapeSequence "[F"
  | pageUp => escapeSequence "[5~"
  | pageDown => escapeSequence "[6~"
  | function n => functionBytes n

end Key

/-- The bytes sent for a key event.  The alt modifier puts the byte of the
escape key in front. -/
def KeyEvent.bytes (event : KeyEvent) : List UInt8 :=
  let base := event.key.bytes event.modifiers
  if event.modifiers.alt then escapeByte :: base else base

end RuntimeConsole
