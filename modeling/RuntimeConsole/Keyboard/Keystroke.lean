/-
Module: RuntimeConsole.Keyboard.Keystroke
Purpose: The written form of key events, such as ctrl-shift-p, and its reading.
Main exports:
  KeyEvent.keystroke, KeyEvent.parse
-/
import RuntimeConsole.Keyboard.Key
import RuntimeConsole.Text.Blank

namespace RuntimeConsole

namespace Modifiers

/-- The names of the modifiers held, in their fixed order. -/
def names (held : Modifiers) : List (List Char) :=
  (if held.ctrl then ["ctrl".toList] else []) ++
    (if held.alt then ["alt".toList] else []) ++
    (if held.shift then ["shift".toList] else []) ++
    (if held.cmd then ["cmd".toList] else [])

/-- The modifiers with the one of a given name, in any case, held as well. -/
def hold? (held : Modifiers) (name : List Char) : Option Modifiers :=
  let lower := String.ofList (Text.lower name)
  if lower == "ctrl" || lower == "control" then some { held with ctrl := true }
  else if lower == "alt" || lower == "option" then some { held with alt := true }
  else if lower == "shift" then some { held with shift := true }
  else if lower == "cmd" || lower == "super" || lower == "meta" then
    some { held with cmd := true }
  else none

/-- The modifiers with all those of the given names held as well. -/
def holdAll? (held : Modifiers) : List (List Char) → Option Modifiers
  | [] => some held
  | name :: rest => (held.hold? name).bind fun held => holdAll? held rest

end Modifiers

namespace KeyEvent

/-- The names of the modifiers and of the key, joined by hyphens. -/
def keystrokeChars (event : KeyEvent) : List Char :=
  (event.modifiers.names.flatMap fun name => name ++ ['-']) ++ event.key.name

/-- The written form of a key event. -/
def keystroke (event : KeyEvent) : String :=
  String.ofList event.keystrokeChars

/-- The parts of a text before and after its last hyphen. -/
def splitLastHyphen? (text : List Char) : Option (List Char × List Char) :=
  let reversed := text.reverse
  match reversed.dropWhile (· != '-') with
  | [] => none
  | _ :: before => some (before.reverse, (reversed.takeWhile (· != '-')).reverse)

/-- The modifiers and the key name a keystroke consists of.  A hyphen that
follows a hyphen at the end is the hyphen key. -/
def splitKeystroke? (text : List Char) : Option (List Char × List Char) :=
  match Text.stripSuffix? ['-', '-'] text with
  | some modifiers => some (modifiers, ['-'])
  | none =>
      match splitLastHyphen? text with
      | some (modifiers, key) => if key.isEmpty then none else some (modifiers, key)
      | none => some ([], text)

/-- The key event written by a keystroke.  The key is looked at before the
modifiers, and blanks around the keystroke do not count. -/
def parseChars (text : List Char) : Except Failure KeyEvent :=
  let text := Text.trim text
  let refused {α : Type} (part : List Char) : Except Failure α :=
    .error (.invalidKey (String.ofList part))
  if text.isEmpty then refused text
  else if text = ['-'] then .ok (plain (.char '-'))
  else
    match splitKeystroke? text with
    | none => refused text
    | some (modifiers, name) =>
        match Key.ofName? name with
        | none => refused name
        | some key =>
            let held := (Text.splitOn '-' modifiers).filter fun part => !part.isEmpty
            match Modifiers.released.holdAll? held with
            | none => refused text
            | some held => .ok ⟨key, held⟩

/-- The key event written by a keystroke. -/
def parse (text : String) : Except Failure KeyEvent :=
  parseChars text.toList

end KeyEvent

end RuntimeConsole
