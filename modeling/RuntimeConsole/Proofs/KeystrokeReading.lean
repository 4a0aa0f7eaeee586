/-
Module: RuntimeConsole.Proofs.KeystrokeReading
Purpose: What keystrokes say: the forms they have, the part of each that names the key and the
  part that names modifiers, and the same for keystrokes in another case.
Main exports:
  KeystrokeForm, exists_form, KeyEvent.parseChars_eq_ok, KeystrokeForm.lower, parse_lowerString
-/
import Mathlib.Data.List.TakeWhile
import RuntimeConsole.Keyboard.AllowList
import RuntimeConsole.Proofs.LowerCase

namespace RuntimeConsole

/-- The forms of trimmed keystrokes, with what stands for the modifiers and what for the key. -/
inductive KeystrokeForm : List Char → Option (List Char × List Char) → Prop where
  /-- The hyphen key alone. -/
  | hyphen : KeystrokeForm ['-'] (some ([], ['-']))
  /-- The hyphen key behind the hyphen that ends the modifiers. -/
  | hyphens (modifiers : List Char) :
      KeystrokeForm (modifiers ++ '-' :: ['-']) (some (modifiers, ['-']))
  /-- Any other key, behind modifiers. -/
  | named (modifiers : List Char) {name : List Char} (present : name ≠ []) (plain : '-' ∉ name) :
      KeystrokeForm (modifiers ++ '-' :: name) (some (modifiers, name))
  /-- Any other key alone. -/
  | alone {name : List Char} (present : name ≠ []) (plain : '-' ∉ name) :
      KeystrokeForm name (some ([], name))
  /-- Nothing at all. -/
  | nothing : KeystrokeForm [] none
  /-- Modifiers without a key. -/
  | cut {modifiers : List Char} (present : modifiers ≠ [])
      (noHyphen : modifiers.getLast? ≠ some '-') : KeystrokeForm (modifiers ++ ['-']) none

/-- Every text has one of the forms. -/
theorem exists_form (text : List Char) : ∃ parts, KeystrokeForm text parts := by
  by_cases hyphen : '-' ∈ text
  · obtain ⟨name, modifiers, reversed, plain⟩ :=
      List.eq_append_cons_of_mem (List.mem_reverse.mpr hyphen)
    have whole : text = modifiers.reverse ++ '-' :: name.reverse := by
      rw [← text.reverse_reverse, reversed]
      simp
    rw [whole]
    by_cases absent : name = []
    · subst absent
      cases modifiers with
      | nil => exact ⟨_, .hyphen⟩
      | cons c modifiers =>
          by_cases second : c = '-'
          · refine ⟨some (modifiers.reverse, ['-']), ?_⟩
            rw [second, List.reverse_cons, List.append_assoc]
            exact .hyphens modifiers.reverse
          · exact ⟨_, .cut (by simp) (by simpa using second)⟩
    · exact ⟨_, .named modifiers.reverse (by simpa using absent) (by simpa using plain)⟩
  · by_cases empty : text = []
    · exact ⟨none, by rw [empty]; exact .nothing⟩
    · exact ⟨_, .alone empty hyphen⟩

namespace KeyEvent

/-- What stands for the modifiers and for the key in a trimmed keystroke. -/
def parts? (text : List Char) : Option (List Char × List Char) :=
  if text.isEmpty then none
  else if text = ['-'] then some ([], ['-'])
  else splitKeystroke? text

/-- The key event with the key of a given name and the modifiers named between hyphens. -/
def read? (modifiers name : List Char) : Option KeyEvent :=
  (Key.ofName? name).bind fun key =>
    (Modifiers.released.holdAll?
      ((Text.splitOn '-' modifiers).filter fun part => !part.isEmpty)).map fun held => ⟨key, held⟩

/-- A keystroke is read if it has parts and these are read. -/
theorem parseChars_eq_ok {text : List Char} {event : KeyEvent} :
    parseChars text = .ok event ↔
      (parts? (Text.trim text)).bind (fun parts => read? parts.1 parts.2) = some event := by
  unfold parseChars parts?
  generalize Text.trim text = text
  by_cases empty : text.isEmpty = true
  · simp [empty]
  · by_cases hyphen : text = ['-']
    · subst hyphen
      have read : read? [] ['-'] = some (plain (.char '-')) := by decide
      simp [read]
    · simp only [empty, hyphen, if_false, Bool.false_eq_true]
      cases splitKeystroke? text with
      | none => simp
      | some parts =>
          dsimp only [Option.bind_some]
          rw [read?]
          cases Key.ofName? parts.2 with
          | none => simp
          | some key =>
              dsimp only [Option.bind_some]
              cases Modifiers.released.holdAll?
                  ((Text.splitOn '-' parts.1).filter fun part => !part.isEmpty) with
              | none => simp
              | some held => simp

/-! ### The parts of each form -/

theorem stripSuffix?_append (text ending : List Char) :
    Text.stripSuffix? ending (text ++ ending) = some text := by
  simp [Text.stripSuffix?]

/-- What does not end in two hyphens does not lose them. -/
theorem stripSuffix?_of_last {text : List Char} (last : text.getLast? ≠ some '-') :
    Text.stripSuffix? ['-', '-'] text = none := by
  have otherwise : ¬ ['-', '-'] <:+ text := by
    rintro ⟨before, rfl⟩
    exact last (by simp)
  simp [Text.stripSuffix?, otherwise]

theorem different_of_not_mem {name : List Char} (plain : '-' ∉ name) :
    ∀ c ∈ name.reverse, (c != '-') = true := by
  intro c member
  rw [bne_iff_ne]
  rintro rfl
  exact plain (List.mem_reverse.mp member)

theorem splitLastHyphen?_append (modifiers : List Char) {name : List Char} (plain : '-' ∉ name) :
    splitLastHyphen? (modifiers ++ '-' :: name) = some (modifiers, name) := by
  have others := different_of_not_mem plain
  have reversed : (modifiers ++ '-' :: name).reverse =
      name.reverse ++ '-' :: modifiers.reverse := by simp
  rw [splitLastHyphen?, reversed, List.dropWhile_append_of_pos others,
    List.takeWhile_append_of_pos others]
  simp

theorem splitLastHyphen?_of_not_mem {name : List Char} (plain : '-' ∉ name) :
    splitLastHyphen? name = none := by
  have gone : name.reverse.dropWhile (· != '-') = [] :=
    List.dropWhile_eq_nil_iff.mpr (different_of_not_mem plain)
  simp only [splitLastHyphen?, gone]

theorem getLast?_ne_hyphen {name : List Char} (plain : '-' ∉ name) : name.getLast? ≠ some '-' :=
  fun last => plain (List.mem_of_getLast? last)

theorem getLast?_named (modifiers : List Char) {name : List Char} (present : name ≠ []) :
    (modifiers ++ '-' :: name).getLast? = name.getLast? := by
  rw [List.getLast?_append, List.getLast?_cons, List.getLast?_eq_some_getLast present]
  rfl

end KeyEvent

open KeyEvent in
/-- The form of a keystroke determines its parts. -/
theorem KeystrokeForm.parts? {text : List Char} {parts : Option (List Char × List Char)}
    (form : KeystrokeForm text parts) : KeyEvent.parts? text = parts := by
  cases form with
  | hyphen => rfl
  | hyphens modifiers =>
      have stripped := stripSuffix?_append modifiers ['-', '-']
      have other : modifiers ++ ['-', '-'] ≠ ['-'] := fun same => by
        simpa using congrArg List.length same
      simp [KeyEvent.parts?, other, splitKeystroke?, stripped]
  | @named modifiers name present plain =>
      have last : (modifiers ++ '-' :: name).getLast? ≠ some '-' :=
        getLast?_named modifiers present ▸ getLast?_ne_hyphen plain
      have other : modifiers ++ '-' :: name ≠ ['-'] := fun same => last (same ▸ rfl)
      simp [KeyEvent.parts?, other, splitKeystroke?, stripSuffix?_of_last last,
        splitLastHyphen?_append modifiers plain, present]
  | alone present plain =>
      have last := getLast?_ne_hyphen plain
      have other : text ≠ ['-'] := fun same => last (same ▸ rfl)
      simp [KeyEvent.parts?, present, other, splitKeystroke?, stripSuffix?_of_last last,
        splitLastHyphen?_of_not_mem plain]
  | nothing => rfl
  | @cut modifiers present noHyphen =>
      have kept : Text.stripSuffix? ['-', '-'] (modifiers ++ ['-']) = none := by
        have otherwise : ¬ ['-', '-'] <:+ modifiers ++ ['-'] := by
          rintro ⟨before, same⟩
          have shorter : before ++ ['-'] = modifiers := by
            simpa using congrArg List.dropLast same
          exact noHyphen (by simp [← shorter])
        simp [Text.stripSuffix?, otherwise]
      have split : splitLastHyphen? (modifiers ++ ['-']) = some (modifiers, []) :=
        splitLastHyphen?_append modifiers List.not_mem_nil
      simp [KeyEvent.parts?, present, splitKeystroke?, kept, split]

/-! ### Other case -/

/-- A keystroke in lower case has the form of the keystroke, and so have its parts. -/
theorem KeystrokeForm.lower {text : List Char} {parts : Option (List Char × List Char)}
    (form : KeystrokeForm text parts) :
    KeystrokeForm (Text.lower text)
      (parts.map fun parts => (Text.lower parts.1, Text.lower parts.2)) := by
  have hyphen : Text.lower ['-'] = ['-'] := by decide
  cases form with
  | hyphen => exact .hyphen
  | hyphens modifiers =>
      rw [Text.lower_append Text.neutral_hyphen, hyphen, Option.map_some, hyphen]
      exact .hyphens _
  | named modifiers present plain =>
      rw [Text.lower_append Text.neutral_hyphen]
      exact .named _ (mt Text.lower_eq_nil.mp present) (mt Text.hyphen_mem_lower plain)
  | alone present plain =>
      exact .alone (mt Text.lower_eq_nil.mp present) (mt Text.hyphen_mem_lower plain)
  | nothing => exact .nothing
  | cut present noHyphen =>
      rw [Text.lower_append Text.neutral_hyphen]
      refine .cut (mt Text.lower_eq_nil.mp present) fun last => ?_
      obtain ⟨c, ends, image, member, inside⟩ := Text.getLast?_lowerFrom last
      exact noHyphen (Text.hyphen_mem_image member inside ▸ ends)

theorem Modifiers.hold?_lower (held : Modifiers) (name : List Char) :
    held.hold? (Text.lower name) = held.hold? name := by
  simp only [hold?, Text.lower_lower]

theorem Modifiers.holdAll?_lower (held : Modifiers) (names : List (List Char)) :
    held.holdAll? (names.map Text.lower) = held.holdAll? names := by
  induction names generalizing held with
  | nil => rfl
  | cons name names inductionHypothesis =>
      simp only [List.map_cons, holdAll?, hold?_lower, inductionHypothesis]

namespace KeyEvent

theorem read?_lower (modifiers name : List Char) :
    read? (Text.lower modifiers) (Text.lower name) = read? modifiers name := by
  have kept : ((fun part : List Char => !part.isEmpty) ∘ Text.lower) =
      fun part => !part.isEmpty := by
    funext part
    rw [Bool.eq_iff_iff]
    simp
  simp only [read?, Key.ofName?, Text.lower_lower, Text.splitOn_lower, List.filter_map, kept,
    Modifiers.holdAll?_lower]

/-- A keystroke says the same in any case. -/
theorem parse_lowerString (text : String) (event : KeyEvent) :
    parse (AllowList.lowerString text) = .ok event ↔ parse text = .ok event := by
  obtain ⟨parts, form⟩ := exists_form (Text.trim text.toList)
  rw [parse, parse, parseChars_eq_ok, parseChars_eq_ok, AllowList.lowerString,
    String.toList_ofList, Text.trim_lower, form.parts?, form.lower.parts?]
  cases parts with
  | none => rfl
  | some parts => rw [Option.map_some, Option.bind_some, Option.bind_some, read?_lower]

end KeyEvent

end RuntimeConsole
