/-
Module: RuntimeConsole.Proofs.KeystrokeNormalForm
Purpose: The written form of key events: it is lower case, is read as the event it is written for,
  and differs where the modifiers or the names of the keys do.
Main exports:
  form_keystrokeChars, lowerString_keystroke, keystroke_eq_iff, Key.Written, written_of_ofName?,
  keystroke_normal_form
-/
import RuntimeConsole.Proofs.KeystrokeReading

namespace RuntimeConsole

/-- Whether anything in a text is blank can be told by a look at it. -/
theorem visible_of_any {text : List Char} (checked : text.any Text.isBlank = false) :
    ∀ c ∈ text, Text.isBlank c = false := by
  simpa using checked

/-! ### The names of modifiers -/

namespace Modifiers

/-- Names as modifiers have them. -/
structure IsName (name : List Char) : Prop where
  present : name ≠ []
  plain : '-' ∉ name
  settled : Text.lower name = name
  visible : ∀ c ∈ name, Text.isBlank c = false

theorem isName_of_mem_names {held : Modifiers} {name : List Char} (member : name ∈ held.names) :
    IsName name := by
  simp only [names, List.mem_append, List.mem_ite_nil_right, List.mem_singleton] at member
  rcases member with ((⟨-, rfl⟩ | ⟨-, rfl⟩) | ⟨-, rfl⟩) | ⟨-, rfl⟩ <;>
    exact ⟨by decide, by decide, by decide, visible_of_any (by decide)⟩

/-- Modifiers are those that are named. -/
theorem holdAll?_names (held : Modifiers) : released.holdAll? held.names = some held := by
  rcases held with ⟨_ | _, _ | _, _ | _, _ | _⟩ <;> decide +kernel

theorem names_injective {first second : Modifiers} (same : first.names = second.names) :
    first = second := by
  have held := holdAll?_names first
  rw [same, holdAll?_names, Option.some.injEq] at held
  exact held.symm

/-- The names of modifiers are what is between the hyphens of the text they are written in. -/
theorem exists_joined {names : List (List Char)} (present : names ≠ [])
    (plain : ∀ name ∈ names, '-' ∉ name) :
    ∃ joined, (names.flatMap fun name => name ++ ['-']) = joined ++ ['-'] ∧
      Text.splitOn '-' joined = names := by
  induction names with
  | nil => exact absurd rfl present
  | cons name names inductionHypothesis =>
      rw [List.forall_mem_cons] at plain
      cases names with
      | nil => exact ⟨name, by simp, Text.splitOn_of_not_mem plain.1⟩
      | cons next names =>
          obtain ⟨joined, whole, parts⟩ := inductionHypothesis (List.cons_ne_nil _ _) plain.2
          refine ⟨name ++ '-' :: joined, ?_, ?_⟩
          · rw [List.flatMap_cons, whole]
            simp
          · rw [Text.splitOn_append, Text.splitOn_of_not_mem plain.1, parts]
            rfl

end Modifiers

/-! ### The names of keys -/

namespace Key

/-- The names of keys are settled. -/
theorem settled_name (key : Key) : ∀ c ∈ key.name, Text.Settled c := by
  have lowered {name : List Char} (same : Text.lower name = name) : ∀ c ∈ name, Text.Settled c :=
    fun c member => Text.settled_of_mem_lower c (by rwa [same])
  cases key with
  | char c => exact fun _ member => (Text.mem_lowerChar member).1
  | function n =>
      refine List.forall_mem_cons.mpr ⟨⟨by decide, by decide⟩, fun c digit => ?_⟩
      exact Text.settled_of_isDigit (Text.isDigit_of_mem_showNat digit)
  | _ => exact lowered (by decide)

/-- The name of a key is a hyphen or has none. -/
theorem name_cases (key : Key) : key.name = ['-'] ∨ key.name ≠ [] ∧ '-' ∉ key.name := by
  cases key with
  | char c =>
      by_cases hyphen : c = '-'
      · exact .inl (by rw [hyphen]; decide)
      · exact .inr ⟨Text.lowerChar_ne_nil c, mt Text.hyphen_mem_lowerChar hyphen⟩
  | function n =>
      refine .inr ⟨List.cons_ne_nil _ _, fun member => ?_⟩
      rcases List.mem_cons.mp member with first | digit
      · exact absurd first (by decide)
      · exact absurd (Text.isDigit_of_mem_showNat digit) (by decide)
  | _ => exact .inr (by decide)

/-- Keys whose name can be read. -/
structure Written (key : Key) : Prop where
  read : ofName? key.name = some key
  visible : ∀ c ∈ key.name, Text.isBlank c = false

/-- The keys that are known by names, and the function keys, can be read. -/
theorem written_of_mem_named : ∀ entry ∈ named, entry.2.Written := by
  have checked : ∀ entry ∈ named, ofName? entry.2.name = some entry.2 ∧
      entry.2.name.any Text.isBlank = false := by decide +kernel
  exact fun entry member => ⟨(checked entry member).1, visible_of_any (checked entry member).2⟩

theorem written_function {n : Nat} (first : 1 ≤ n) (last : n ≤ 12) :
    (function (UInt8.ofNat n)).Written := by
  have checked : ∀ n ∈ List.range' 1 12,
      ofName? (function (UInt8.ofNat n)).name = some (function (UInt8.ofNat n)) ∧
      (function (UInt8.ofNat n)).name.any Text.isBlank = false := by decide +kernel
  have checked := checked n (by rw [List.mem_range'_1]; omega)
  exact ⟨checked.1, visible_of_any checked.2⟩

/-- A character of its own can be read unless a key is known by it. -/
theorem written_char {c : Char} (unknown : named.lookup (String.ofList [c]) = none)
    (settled : Text.Settled c) (visible : Text.isBlank c = false) : (char c).Written where
  read := by
    have known : (char c).name = [c] := settled.lowerChar
    have lowered : Text.lower [c] = [c] := Text.lower_of_settled (by simpa using settled)
    simp only [known, ofName?, lowered, ofLowerName?, unknown]
  visible := by
    have known : (char c).name = [c] := settled.lowerChar
    simpa [known] using visible

/-- Every key that is read can be read from its own name. -/
theorem written_of_ofName? {name : List Char} {key : Key} (read : ofName? name = some key)
    (visible : ∀ c, name.getLast? = some c → Text.isBlank c = false) : key.Written := by
  unfold ofName? ofLowerName? at read
  split at read
  next known found =>
      rw [Option.some.injEq] at read
      subst read
      obtain ⟨before, after, table, -⟩ := List.lookup_eq_some_iff.mp found
      exact written_of_mem_named (String.ofList (Text.lower name), known) (by rw [table]; simp)
  next unknown =>
      split at read
      next c shape =>
          rw [Option.some.injEq] at read
          subst read
          rw [shape] at unknown
          have inside : c ∈ Text.lower name := by
            rw [shape]
            exact List.mem_singleton_self c
          have settled := Text.settled_of_mem_lower c inside
          obtain ⟨d, last, image, member, inside⟩ :=
            Text.getLast?_lowerFrom (show (Text.lower name).getLast? = some c by rw [shape]; rfl)
          exact written_char unknown settled
            ((Text.isBlank_of_mem_image member inside).trans (visible d last))
      next digits shape =>
          unfold functionKey? at read
          split at read
          next n value =>
              split at read
              next bounds =>
                  rw [Option.some.injEq] at read
                  exact read ▸ written_function bounds.1 bounds.2
              next => cases read
          next => cases read
      next => cases read

end Key

/-! ### The written form -/

namespace KeyEvent

/-- The written form of a key event consists of what names its modifiers and the name of the
key. -/
theorem form_keystrokeChars (event : KeyEvent) :
    ∃ modifiers, KeystrokeForm event.keystrokeChars (some (modifiers, event.key.name)) ∧
      (Text.splitOn '-' modifiers).filter (fun part => !part.isEmpty) = event.modifiers.names := by
  have isName : ∀ name ∈ event.modifiers.names, Modifiers.IsName name :=
    fun name => Modifiers.isName_of_mem_names
  rw [keystrokeChars]
  by_cases released : event.modifiers.names = []
  · refine ⟨[], ?_, by rw [released]; rfl⟩
    rw [released, List.flatMap_nil, List.nil_append]
    rcases event.key.name_cases with hyphen | ⟨present, plain⟩
    · rw [hyphen]
      exact .hyphen
    · exact .alone present plain
  · obtain ⟨modifiers, whole, parts⟩ :=
      Modifiers.exists_joined released fun name member => (isName name member).plain
    refine ⟨modifiers, ?_, ?_⟩
    · rw [whole, List.append_assoc, List.singleton_append]
      rcases event.key.name_cases with hyphen | ⟨present, plain⟩
      · rw [hyphen]
        exact .hyphens modifiers
      · exact .named modifiers present plain
    · rw [parts, List.filter_eq_self]
      intro name member
      simpa using (isName name member).present

/-- What is in the written form of a key event is in the name of the key, or in the name of a
modifier, or is a hyphen. -/
theorem of_mem_keystrokeChars {property : Char → Prop} {event : KeyEvent}
    (modifiers : ∀ name, Modifiers.IsName name → ∀ c ∈ name, property c) (hyphen : property '-')
    (key : ∀ c ∈ event.key.name, property c) : ∀ c ∈ event.keystrokeChars, property c := by
  intro c member
  rcases List.mem_append.mp member with before | inKey
  · obtain ⟨name, known, inside⟩ := List.mem_flatMap.mp before
    rcases List.mem_append.mp inside with inName | separator
    · exact modifiers name (Modifiers.isName_of_mem_names known) c inName
    · exact List.mem_singleton.mp separator ▸ hyphen
  · exact key c inKey

/-- The written form is lower case. -/
theorem lowerString_keystroke (event : KeyEvent) :
    AllowList.lowerString event.keystroke = event.keystroke := by
  have settled : ∀ c ∈ event.keystrokeChars, Text.Settled c :=
    of_mem_keystrokeChars
      (fun name isName c inside => Text.settled_of_mem_lower c (by rwa [isName.settled]))
      Text.neutral_hyphen.toSettled event.key.settled_name
  rw [AllowList.lowerString, keystroke, String.toList_ofList, Text.lower_of_settled settled]

/-- Two key events are written alike if the modifiers and the names of the keys are the same. -/
theorem keystroke_eq_iff {first second : KeyEvent} :
    first.keystroke = second.keystroke ↔
      first.modifiers = second.modifiers ∧ first.key.name = second.key.name := by
  constructor
  · intro same
    obtain ⟨held, form, names⟩ := first.form_keystrokeChars
    obtain ⟨otherHeld, otherForm, otherNames⟩ := second.form_keystrokeChars
    rw [String.ofList_inj.mp same] at form
    have parts := form.parts?.symm.trans otherForm.parts?
    rw [Option.some.injEq, Prod.mk.injEq] at parts
    refine ⟨Modifiers.names_injective ?_, parts.2⟩
    rw [← names, ← otherNames, parts.1]
  · rintro ⟨held, name⟩
    rw [keystroke, keystroke, keystrokeChars, keystrokeChars, held, name]

/-- A key event is read from its written form if its key is read from its name. -/
theorem parse_keystroke {event : KeyEvent} (written : event.key.Written) :
    parse event.keystroke = .ok event := by
  obtain ⟨modifiers, form, names⟩ := event.form_keystrokeChars
  have visible : ∀ c ∈ event.keystrokeChars, Text.isBlank c = false :=
    of_mem_keystrokeChars (fun name isName => isName.visible) (by decide) written.visible
  have trimmed : Text.Trimmed event.keystrokeChars :=
    ⟨fun c first => visible c (List.mem_of_head? first),
      fun c last => visible c (List.mem_of_getLast? last)⟩
  rw [parse, keystroke, String.toList_ofList, parseChars_eq_ok, trimmed.trim, form.parts?,
    Option.bind_some, read?, written.read, names, Modifiers.holdAll?_names]
  rfl

/-- What is read has a key that can be read from its name. -/
theorem written_of_parse {text : String} {event : KeyEvent} (read : parse text = .ok event) :
    event.key.Written := by
  have trimmed := Text.trimmed_trim text.toList
  obtain ⟨parts, form⟩ := exists_form (Text.trim text.toList)
  rw [parse, parseChars_eq_ok, form.parts?] at read
  obtain ⟨⟨modifiers, name⟩, rfl, partsRead⟩ := Option.bind_eq_some_iff.mp read
  obtain ⟨key, known, modifiersRead⟩ := Option.bind_eq_some_iff.mp partsRead
  obtain ⟨held, -, rfl⟩ := Option.map_eq_some_iff.mp modifiersRead
  refine Key.written_of_ofName? known fun c last => trimmed.last c ?_
  generalize Text.trim text.toList = text at form
  cases form with
  | hyphen => exact last
  | hyphens => rwa [getLast?_named _ (List.cons_ne_nil _ _)]
  | named _ present => rwa [getLast?_named _ present]
  | alone => exact last

end KeyEvent

/-- A keystroke is on a list of keystrokes in whatever case. -/
theorem AllowList.verdict_ofList (keystrokes : List String) (event : KeyEvent) :
    (ofList keystrokes).verdict event.keystroke = .forward ↔
      ∃ keystroke ∈ keystrokes, lowerString keystroke = event.keystroke := by
  simp [verdict, contains, ofList, event.lowerString_keystroke]

/-- Keystrokes have a normal form.  Whatever is read is read again, as the same event, from its
written form; and two key events are written alike only if their modifiers and the names of
their keys are the same, so that a list of written forms reserves just the keys it was made of. -/
theorem keystroke_normal_form :
    (∀ (text : String) (event : KeyEvent), KeyEvent.parse text = .ok event →
      KeyEvent.parse event.keystroke = .ok event) ∧
    (∀ first second : KeyEvent, first.keystroke = second.keystroke →
      first.modifiers = second.modifiers ∧ first.key.name = second.key.name) ∧
    ∀ (events : List KeyEvent) (pressed : KeyEvent),
      (AllowList.ofList (events.map KeyEvent.keystroke)).verdict pressed.keystroke = .forward ↔
        ∃ event ∈ events, event.modifiers = pressed.modifiers ∧
          event.key.name = pressed.key.name := by
  refine ⟨fun text event read => KeyEvent.parse_keystroke (KeyEvent.written_of_parse read),
    fun first second => KeyEvent.keystroke_eq_iff.mp, fun events pressed => ?_⟩
  have listed (event : KeyEvent) :
      AllowList.lowerString event.keystroke = pressed.keystroke ↔
        event.modifiers = pressed.modifiers ∧ event.key.name = pressed.key.name := by
    rw [event.lowerString_keystroke, KeyEvent.keystroke_eq_iff]
  rw [AllowList.verdict_ofList]
  constructor
  · rintro ⟨keystroke, member, same⟩
    obtain ⟨event, inside, rfl⟩ := List.mem_map.mp member
    exact ⟨event, inside, (listed event).mp same⟩
  · rintro ⟨event, inside, same⟩
    exact ⟨event.keystroke, List.mem_map_of_mem inside, (listed event).mpr same⟩

/-- A key with blanks around it, an alias in mixed case, a modifier and a hyphen too many, a plus
sign and a leading zero is read again from its normal form, and so is the hyphen key behind three
hyphens. -/
theorem keystroke_normal_form_spelled :
    KeyEvent.parse " Control-CTRL--F+05 " = .ok ⟨.function 5, ⟨true, false, false, false⟩⟩ ∧
      KeyEvent.parse "ctrl-f5" = .ok ⟨.function 5, ⟨true, false, false, false⟩⟩ ∧
      KeyEvent.parse "Meta-ALT---" = .ok ⟨.char '-', ⟨false, true, false, true⟩⟩ ∧
      KeyEvent.parse "alt-cmd--" = .ok ⟨.char '-', ⟨false, true, false, true⟩⟩ := by
  have function : KeyEvent.parse " Control-CTRL--F+05 " =
      .ok ⟨.function 5, ⟨true, false, false, false⟩⟩ :=
    KeyEvent.parseChars_eq_ok.mpr (by decide)
  have hyphen : KeyEvent.parse "Meta-ALT---" = .ok ⟨.char '-', ⟨false, true, false, true⟩⟩ :=
    KeyEvent.parseChars_eq_ok.mpr (by decide)
  have functionForm :
      KeyEvent.keystroke ⟨.function 5, ⟨true, false, false, false⟩⟩ = "ctrl-f5" := by decide
  have hyphenForm : KeyEvent.keystroke ⟨.char '-', ⟨false, true, false, true⟩⟩ = "alt-cmd--" := by
    decide
  have functionAgain := keystroke_normal_form.1 _ _ function
  have hyphenAgain := keystroke_normal_form.1 _ _ hyphen
  rw [functionForm] at functionAgain
  rw [hyphenForm] at hyphenAgain
  exact ⟨function, functionAgain, hyphen, hyphenAgain⟩

end RuntimeConsole
