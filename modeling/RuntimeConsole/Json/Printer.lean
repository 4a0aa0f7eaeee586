/-
Module: RuntimeConsole.Json.Printer
Purpose: The written forms of JSON values: on one line, and indented.
Main exports:
  Json.render, Json.compact, Json.pretty
-/
import RuntimeConsole.Double.Shortest
import RuntimeConsole.Json.Basic
import RuntimeConsole.Text.Digit
import RuntimeConsole.Text.Hex

namespace RuntimeConsole

namespace Json

/-- A character as it stands inside a string.  Quotes, backslashes and control
characters are escaped; nothing else is, so no written value contains a line
break. -/
def renderChar (c : Char) : List Char :=
  if c == '"' then ['\\', '"']
  else if c == '\\' then ['\\', '\\']
  else if c == '\n' then ['\\', 'n']
  else if c == '\r' then ['\\', 'r']
  else if c == '\t' then ['\\', 't']
  else if c == '\x08' then ['\\', 'b']
  else if c == '\x0c' then ['\\', 'f']
  else if c.toNat < 0x20 then
    ['\\', 'u', '0', '0', Text.hexDigit (c.toNat / 16), Text.hexDigit (c.toNat % 16)]
  else [c]

/-- A string between quotes. -/
def renderString (text : String) : List Char :=
  '"' :: (text.toList.flatMap renderChar ++ ['"'])

/-- An integer in decimal. -/
def renderInt (value : Int) : List Char :=
  if value < 0 then '-' :: Text.showNat value.natAbs else Text.showNat value.natAbs

mutual

/-- The value on one line, without blanks. -/
def render : Json → List Char
  | null => ['n', 'u', 'l', 'l']
  | bool true => ['t', 'r', 'u', 'e']
  | bool false => ['f', 'a', 'l', 's', 'e']
  | int value => renderInt value
  | double value => value.render
  | str text => renderString text
  | arr items => '[' :: (renderItems items ++ [']'])
  | obj members => '\x7b' :: (renderMembers members ++ ['\x7d'])

/-- Values separated by commas. -/
def renderItems : List Json → List Char
  | [] => []
  | [item] => render item
  | item :: rest => render item ++ ',' :: renderItems rest

/-- Members separated by commas. -/
def renderMembers : List (String × Json) → List Char
  | [] => []
  | [(name, value)] => renderString name ++ ':' :: render value
  | (name, value) :: rest =>
      renderString name ++ ':' :: (render value ++ ',' :: renderMembers rest)

end

/-- The value on one line, without blanks. -/
def compact (value : Json) : String :=
  String.ofList value.render

/-- The break before an item at a given depth. -/
def lineBreak (depth : Nat) : List Char :=
  '\n' :: List.replicate (2 * depth) ' '

mutual

/-- The value with one item a line, indented by two blanks a level. -/
def renderIndented (depth : Nat) : Json → List Char
  | arr [] => ['[', ']']
  | obj [] => ['\x7b', '\x7d']
  | arr items => '[' :: (indentedItems (depth + 1) items ++ lineBreak depth ++ [']'])
  | obj members =>
      '\x7b' :: (indentedMembers (depth + 1) members ++ lineBreak depth ++ ['\x7d'])
  | null => render null
  | bool value => render (bool value)
  | int value => render (int value)
  | double value => render (double value)
  | str text => render (str text)

/-- Items on lines of their own. -/
def indentedItems (depth : Nat) : List Json → List Char
  | [] => []
  | [item] => lineBreak depth ++ renderIndented depth item
  | item :: rest =>
      lineBreak depth ++ renderIndented depth item ++ ',' :: indentedItems depth rest

/-- Members on lines of their own. -/
def indentedMembers (depth : Nat) : List (String × Json) → List Char
  | [] => []
  | [(name, value)] =>
      lineBreak depth ++ renderString name ++ ':' :: ' ' :: renderIndented depth value
  | (name, value) :: rest =>
      lineBreak depth ++ renderString name ++ ':' :: ' ' ::
        (renderIndented depth value ++ ',' :: indentedMembers depth rest)

end

/-- The value with one item a line, indented by two blanks a level. -/
def pretty (value : Json) : String :=
  String.ofList (value.renderIndented 0)

end Json

end RuntimeConsole
