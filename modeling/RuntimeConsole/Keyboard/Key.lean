/-
Module: RuntimeConsole.Keyboard.Key
Purpose: Keys, modifiers and key events.
Main exports:
  Key, Modifiers, KeyEvent, Key.name, Key.ofName?
-/
import RuntimeConsole.Failure
import RuntimeConsole.Text.Case
import RuntimeConsole.Text.Digit

namespace RuntimeConsole

/-- A key of the keyboard, without modifiers. -/
inductive Key where
  | char (c : Char)
  | enter
  | tab
  | escape
  | backspace
  | delete
  | space
  | insert
  | up
  | down
  | left
  | right
  | home
  | end_
  | pageUp
  | pageDown
  | function (n : UInt8)
deriving Repr, DecidableEq, Inhabited

/-- The modifiers held during a key press. -/
structure Modifiers where
  ctrl : Bool
  alt : Bool
  shift : Bool
  cmd : Bool
deriving Repr, DecidableEq, Inhabited

/-- No modifier held. -/
def Modifiers.released : Modifiers := ⟨false, false, false, false⟩

/-- A key press. -/
structure KeyEvent where
  key : Key
  modifiers : Modifiers
deriving Repr, DecidableEq, Inhabited

/-- A key press without modifiers. -/
def KeyEvent.plain (key : Key) : KeyEvent := ⟨key, .released⟩

namespace Key

/-- The name of a key in keystrokes.  The name of a printable key is its
lower-case form. -/
def name : Key → List Char
  | char c => Text.lowerChar c
  | enter => "enter".toList
  | tab => "tab".toList
  | escape => "escape".toList
  | backspace => "backspace".toList
  | delete => "delete".toList
  | space => "space".toList
  | insert => "insert".toList
  | up => "up".toList
  | down => "down".toList
  | left => "left".toList
  | right => "right".toList
  | home => "home".toList
  | end_ => "end".toList
  | pageUp => "pageup".toList
  | pageDown => "pagedown".toList
  | function n => 'f' :: Text.showNat n.toNat

/-- Every lower-case name of a key that is neither printable nor a function
key. -/
def named : List (String × Key) :=
  [("enter", enter), ("return", enter), ("tab", tab), ("escape", escape), ("esc", escape),
    ("backspace", backspace), ("delete", delete), ("del", delete), ("space", space),
    ("insert", insert), ("ins", insert), ("up", up), ("down", down), ("left", left),
    ("right", right), ("home", home), ("end", end_), ("pageup", pageUp), ("pgup", pageUp),
    ("pagedown", pageDown), ("pgdn", pageDown)]

/-- The function key with a given number, of which there are twelve. -/
def functionKey? (digits : List Char) : Option Key :=
  match Text.readBounded? 256 digits with
  | some n => if 1 ≤ n ∧ n ≤ 12 then some (function (UInt8.ofNat n)) else none
  | none => none

/-- The key with a given lower-case name. -/
def ofLowerName? (name : List Char) : Option Key :=
  match named.lookup (String.ofList name) with
  | some key => some key
  | none =>
      match name with
      | [c] => some (char c)
      | 'f' :: digits => functionKey? digits
      | _ => none

/-- The key with a given name, in any case. -/
def ofName? (name : List Char) : Option Key :=
  ofLowerName? (Text.lower name)

end Key

end RuntimeConsole
