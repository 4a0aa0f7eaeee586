/-
Module: RuntimeConsole.Text.Pattern
Purpose: Patterns over characters, and matching with preferences.
Main exports:
  Pattern, Pattern.run, Pattern.first?
-/

namespace RuntimeConsole.Text

/-- A pattern over characters.  Where a pattern can match in several ways, the
ways have an order of preference: an earlier alternative comes before a later
one, and repeating comes before stopping. -/
inductive Pattern where
  /-- One character of a class. -/
  | one (accepts : Char → Bool)
  /-- One pattern after the other. -/
  | seq (first second : Pattern)
  /-- One of two patterns, the first preferred. -/
  | either (first second : Pattern)
  /-- A pattern or nothing, the pattern preferred. -/
  | optional (body : Pattern)
  /-- A pattern once or more often, more often preferred. -/
  | many (body : Pattern)

namespace Pattern

/-- Repeats a matching step at least once and at most `extra` times more, as
often as what follows allows. -/
def repeatStep {α : Type} (step : List Char → (List Char → Option α) → Option α) :
    (extra : Nat) → List Char → (List Char → Option α) → Option α
  | 0, text, next => step text next
  | extra + 1, text, next =>
      step text fun rest =>
        match repeatStep step extra rest next with
        | some result => some result
        | none => next rest

/-- Matches a pattern at the beginning of a text and goes on with what follows.
The ways to match are tried in the order of preference until one of them lets
`next` succeed.  A repetition takes at least one character each time, so the
length of the text bounds it. -/
def run {α : Type} : Pattern → List Char → (List Char → Option α) → Option α
  | one accepts, text, next =>
      match text with
      | c :: rest => if accepts c then next rest else none
      | [] => none
  | seq first second, text, next => first.run text fun rest => second.run rest next
  | either first second, text, next =>
      match first.run text next with
      | some result => some result
      | none => second.run text next
  | optional body, text, next =>
      match body.run text next with
      | some result => some result
      | none => next text
  | many body, text, next => repeatStep body.run text.length text next

/-- What the preferred match at the beginning of a text leaves of it. -/
def first? (pattern : Pattern) (text : List Char) : Option (List Char) :=
  pattern.run text some

end Pattern

end RuntimeConsole.Text
