/-
Module: RuntimeConsole.Proofs.JsonRoundTrip
Purpose: A value without fractional numbers is read as it was written, if it is nested no deeper
  than is allowed, and is refused otherwise.
Main exports:
  readString_escaped, readValue_render, parseChars?_render
-/
import RuntimeConsole.Proofs.JsonNumbers

namespace RuntimeConsole

namespace Json

/-! ### Strings -/

theorem hexValue?_hexDigit : ∀ n < 16, Text.hexValue? (Text.hexDigit n) = some n := by
  decide

/-- An escaped code that is no half of a pair stands for its character, whatever comes next. -/
theorem readString_code (current : List Char) {a b c d : Char} {code : Nat}
    (quad : hexQuad? a b c d = some code) (single : code < 0xD800) (rest : List Char) :
    readString current ('\\' :: 'u' :: a :: b :: c :: d :: rest) =
      readString (Char.ofNat code :: current) rest := by
  have notHigh : ¬(0xD800 ≤ code ∧ code < 0xDC00) := by omega
  have notLow : ¬(0xDC00 ≤ code ∧ code < 0xE000) := by omega
  have notHalf : ¬(0xD800 ≤ code ∧ code < 0xE000) := by omega
  rw [readString.eq_def]
  split
  next same => cases same
  next same => exact absurd (List.cons.inj same).1 (by decide)
  next same =>
      simp only [List.cons.injEq, true_and] at same
      obtain ⟨rfl, rfl, rfl, rfl, rfl⟩ := same
      simp [quad, notHigh, notLow]
  next same =>
      simp only [List.cons.injEq, true_and] at same
      obtain ⟨rfl, rfl, rfl, rfl, rfl⟩ := same
      simp [quad, notHalf]
  next others same =>
      simp only [List.cons.injEq, true_and] at same
      exact absurd same.2.symm (others a b c d rest same.1.symm)
  next others same =>
      obtain ⟨first, behind⟩ := List.cons.inj same
      exact (others 'u' _ first.symm behind.symm).elim

theorem readString_letter (current : List Char) {letter : Char} (other : letter ≠ 'u')
    (rest : List Char) :
    readString current ('\\' :: letter :: rest) =
      (escaped? letter).bind fun char => readString (char :: current) rest := by
  rw [readString.eq_def]
  split
  next same => cases same
  next same => exact absurd (List.cons.inj same).1 (by decide)
  next same =>
      simp only [List.cons.injEq, true_and] at same
      exact absurd same.1 other
  next same =>
      simp only [List.cons.injEq, true_and] at same
      exact absurd same.1 other
  next same =>
      simp only [List.cons.injEq, true_and] at same
      obtain ⟨rfl, rfl⟩ := same
      rfl
  next others same =>
      obtain ⟨first, behind⟩ := List.cons.inj same
      exact (others letter rest first.symm behind.symm).elim

theorem readString_plain (current : List Char) {char : Char} (noQuote : char ≠ '"')
    (noEscape : char ≠ '\\') (visible : ¬char.toNat < 0x20) (rest : List Char) :
    readString current (char :: rest) = readString (char :: current) rest := by
  rw [readString.eq_def]
  split
  next same => cases same
  next same => exact absurd (List.cons.inj same).1 noQuote
  next same => exact absurd (List.cons.inj same).1 noEscape
  next same => exact absurd (List.cons.inj same).1 noEscape
  next same => exact absurd (List.cons.inj same).1 noEscape
  next same =>
      obtain ⟨rfl, rfl⟩ := List.cons.inj same
      simp [visible, noEscape]

/-- A character is read as it was written in a string. -/
theorem readString_renderChar (current : List Char) (c : Char) (rest : List Char) :
    readString current (renderChar c ++ rest) = readString (c :: current) rest := by
  have letter {letter : Char} (other : letter ≠ 'u') (stands : escaped? letter = some c) :
      readString current (['\\', letter] ++ rest) = readString (c :: current) rest := by
    rw [List.cons_append, List.singleton_append, readString_letter current other, stands]
    rfl
  unfold renderChar
  split
  next quote => exact letter (by decide) (by rw [eq_of_beq quote]; rfl)
  next noQuote =>
  split
  next escape => exact letter (by decide) (by rw [eq_of_beq escape]; rfl)
  next noEscape =>
  split
  next feed => exact letter (by decide) (by rw [eq_of_beq feed]; rfl)
  split
  next return_ => exact letter (by decide) (by rw [eq_of_beq return_]; rfl)
  split
  next tab => exact letter (by decide) (by rw [eq_of_beq tab]; rfl)
  split
  next backspace => exact letter (by decide) (by rw [eq_of_beq backspace]; rfl)
  split
  next formFeed => exact letter (by decide) (by rw [eq_of_beq formFeed]; rfl)
  split
  next control =>
      have quad : hexQuad? '0' '0' (Text.hexDigit (c.toNat / 16)) (Text.hexDigit (c.toNat % 16)) =
          some c.toNat := by
        have zero : Text.hexValue? '0' = some 0 := rfl
        have high := hexValue?_hexDigit (c.toNat / 16) (by omega)
        have low := hexValue?_hexDigit (c.toNat % 16) (by omega)
        simp only [hexQuad?, zero, high, low, Option.bind_eq_bind, Option.bind_some]
        exact congrArg some (by omega)
      have single : c.toNat < 0xD800 := Nat.lt_trans control (by decide)
      simp only [List.cons_append, List.nil_append]
      rw [readString_code current quad single, Char.ofNat_toNat]
  next visible =>
      rw [List.singleton_append]
      exact readString_plain current (by simpa using noQuote) (by simpa using noEscape) visible rest

theorem readString_escaped (current text rest : List Char) :
    readString current (text.flatMap renderChar ++ '"' :: rest) =
      some (String.ofList (current.reverse ++ text), rest) := by
  induction text generalizing current with
  | nil =>
      rw [List.append_nil]
      rfl
  | cons c text inductionHypothesis =>
      rw [List.flatMap_cons, List.append_assoc, readString_renderChar, inductionHypothesis,
        List.reverse_cons, List.append_assoc, List.singleton_append]

theorem readText_renderString (text : String) (rest : List Char) :
    Interest.readText .everything (text.toList.flatMap renderChar ++ '"' :: rest) =
      some (text, rest) := by
  rw [Interest.readText, if_neg (by decide), readString_escaped, List.reverse_nil,
    List.nil_append, String.ofList_toList]

/-! ### Values -/

/-- A text that begins with something else than a blank or the end of a container. -/
structure Begins (text : List Char) : Prop where
  visible : skipSpace text = text
  notBracket : text.head? ≠ some ']'
  notBrace : text.head? ≠ some '\x7d'

theorem begins_of_cons {c : Char} (visible : isSpace c = false) (notBracket : c ≠ ']')
    (notBrace : c ≠ '\x7d') (text : List Char) : Begins (c :: text) := by
  refine ⟨?_, ?_, ?_⟩
  · rw [skipSpace, List.dropWhile_cons_of_neg (by simp [visible])]
  · simpa using notBracket
  · simpa using notBrace

theorem begins_of_digit {c : Char} (digit : isDigit c = true) (text : List Char) :
    Begins (c :: text) := by
  have all : ∀ c ∈ ['0', '1', '2', '3', '4', '5', '6', '7', '8', '9'],
      isSpace c = false ∧ c ≠ ']' ∧ c ≠ '\x7d' := by
    simp only [List.forall_mem_cons, List.not_mem_nil, false_implies, implies_true]
    decide
  obtain ⟨visible, notBracket, notBrace⟩ := all c (mem_of_isDigit digit)
  exact begins_of_cons visible notBracket notBrace text

theorem begins_render (value : Json) (plain : value.isPlain = true) (rest : List Char) :
    Begins (render value ++ rest) := by
  cases value with
  | null => exact begins_of_cons rfl (by decide) (by decide) _
  | bool value => cases value <;> exact begins_of_cons rfl (by decide) (by decide) _
  | int value =>
      rw [render, renderInt]
      split
      next => exact begins_of_cons rfl (by decide) (by decide) _
      next =>
          obtain ⟨c, digits, written⟩ := List.exists_cons_of_ne_nil (showNat_ne_nil value.natAbs)
          rw [written]
          exact begins_of_digit (showNat_digits value.natAbs c (by simp [written])) _
  | double value => cases plain
  | str text => exact begins_of_cons rfl (by decide) (by decide) _
  | arr items => exact begins_of_cons rfl (by decide) (by decide) _
  | obj members => exact begins_of_cons rfl (by decide) (by decide) _

theorem begins_renderItems {item : Json} {items : List Json} (plain : item.isPlain = true)
    (rest : List Char) : Begins (renderItems (item :: items) ++ rest) := by
  cases items with
  | nil => exact begins_render item plain rest
  | cons next items =>
      rw [renderItems, List.append_assoc]
      · exact begins_render item plain _
      · exact nofun

theorem begins_renderMembers (member : String × Json) (members : List (String × Json))
    (rest : List Char) : Begins (renderMembers (member :: members) ++ rest) := by
  obtain ⟨name, value⟩ := member
  cases members <;> exact begins_of_cons rfl (by decide) (by decide) _

theorem endsNumber_cons {c : Char} (ending : c ∈ [',', ']', '\x7d']) (text : List Char) :
    EndsNumber (c :: text) := by
  have all : ∀ c ∈ [',', ']', '\x7d'], isDigit c = false ∧ c ≠ '.' ∧ c ≠ 'e' ∧ c ≠ 'E' := by
    simp only [List.forall_mem_cons, List.not_mem_nil, false_implies, implies_true]
    decide
  intro d member
  obtain rfl := Option.mem_some.mp member
  exact all _ ending

theorem readValue_bracket (fuel depth : Nat) {text : List Char} (begins : Begins text) :
    readValue (fuel + 1) (depth + 1) .everything ('[' :: text) =
      (readItems fuel depth .everything text).map fun (items, rest) => (arr items, rest) := by
  have opened : skipSpace ('[' :: text) = '[' :: text := rfl
  rw [readValue, opened]
  simp only [Interest.descend, begins.visible]
  split
  next => exact absurd rfl begins.notBracket
  next => rfl

theorem readValue_brace (fuel depth : Nat) {text : List Char} (begins : Begins text) :
    readValue (fuel + 1) (depth + 1) .everything ('\x7b' :: text) =
      (readMembers fuel depth .everything text).map fun (members, rest) => (obj members, rest) := by
  have opened : skipSpace ('\x7b' :: text) = '\x7b' :: text := rfl
  rw [readValue, opened]
  simp only [Interest.descend, begins.visible]
  split
  next => exact absurd rfl begins.notBrace
  next => rfl

/-- What is read from the text of something so deep, where so much depth is allowed. -/
def admitted {Value : Type} (deep allowed : Nat) (value : Value) : Option Value :=
  if deep ≤ allowed then some value else none

/-- A container is a level deeper than what it contains. -/
theorem map_admitted {Value Whole : Type} (whole : Value → Whole) (deep allowed : Nat)
    (value : Value) :
    (admitted deep allowed value).map whole = admitted (deep + 1) (allowed + 1) (whole value) := by
  unfold admitted
  by_cases shallow : deep ≤ allowed
  · rw [if_pos shallow, if_pos (Nat.succ_le_succ shallow)]
    rfl
  · rw [if_neg shallow, if_neg (fun deeper => shallow (Nat.le_of_succ_le_succ deeper))]
    rfl

theorem not_admitted_deeper {Value : Type} (deep : Nat) (value : Value) :
    admitted (deep + 1) 0 value = none :=
  if_neg (Nat.not_succ_le_zero deep)

variable {fuel depth deep more : Nat} {text others rest : List Char}

theorem readItems_last {item : Json} (closing : skipSpace others = ']' :: rest)
    (read : readValue fuel depth .everything text = admitted deep depth (item, others)) :
    readItems (fuel + 1) depth .everything text = admitted deep depth ([item], rest) := by
  rw [readItems, read]
  unfold admitted
  split
  · simp only [Option.bind_eq_bind, Option.bind_some, closing]
    rfl
  · rfl

/-- Of two things one after the other both have to be admitted. -/
theorem readItems_next {item : Json} {items : List Json}
    (read : readValue fuel depth .everything text = admitted deep depth (item, ',' :: others))
    (readMore : readItems fuel depth .everything others = admitted more depth (items, rest)) :
    readItems (fuel + 1) depth .everything text =
      admitted (max deep more) depth (item :: items, rest) := by
  rw [readItems, read]
  unfold admitted at readMore ⊢
  by_cases shallow : deep ≤ depth
  · have comma : skipSpace (',' :: others) = ',' :: others := rfl
    simp only [shallow, if_true, Option.bind_eq_bind, Option.bind_some, comma, readMore, Nat.max_le,
      true_and]
    split <;> rfl
  · rw [if_neg shallow, if_neg fun both => shallow (Nat.max_le.mp both).1]
    rfl

/-- The name of a member is read as it was written. -/
theorem readMembers_name (fuel depth : Nat) (name : String) (text : List Char) :
    readMembers (fuel + 1) depth .everything (renderString name ++ ':' :: text) =
      (readValue fuel depth .everything text).bind fun (value, rest) =>
        match skipSpace rest with
        | ',' :: rest =>
            (readMembers fuel depth .everything rest).bind fun (members, rest) =>
              some ((name, value) :: members, rest)
        | '\x7d' :: rest => some ([(name, value)], rest)
        | _ => none := by
  have quoted : renderString name ++ ':' :: text =
      '"' :: (name.toList.flatMap renderChar ++ '"' :: ':' :: text) := by
    simp [renderString]
  have opened : skipSpace ('"' :: (name.toList.flatMap renderChar ++ '"' :: ':' :: text)) =
      '"' :: (name.toList.flatMap renderChar ++ '"' :: ':' :: text) := rfl
  have colon : skipSpace (':' :: text) = ':' :: text := rfl
  rw [quoted, readMembers, opened]
  simp only [readText_renderString, Option.bind_eq_bind, Option.bind_some, colon,
    Interest.ofMember]
  rfl

theorem readMembers_last {name : String} {value : Json}
    (closing : skipSpace others = '\x7d' :: rest)
    (read : readValue fuel depth .everything text = admitted deep depth (value, others)) :
    readMembers (fuel + 1) depth .everything (renderString name ++ ':' :: text) =
      admitted deep depth ([(name, value)], rest) := by
  rw [readMembers_name, read]
  unfold admitted
  split
  · simp only [Option.bind_some, closing]
  · rfl

theorem readMembers_next {name : String} {value : Json} {members : List (String × Json)}
    (read : readValue fuel depth .everything text = admitted deep depth (value, ',' :: others))
    (readMore : readMembers fuel depth .everything others = admitted more depth (members, rest)) :
    readMembers (fuel + 1) depth .everything (renderString name ++ ':' :: text) =
      admitted (max deep more) depth ((name, value) :: members, rest) := by
  rw [readMembers_name, read]
  unfold admitted at readMore ⊢
  by_cases shallow : deep ≤ depth
  · have comma : skipSpace (',' :: others) = ',' :: others := rfl
    simp only [shallow, if_true, Option.bind_some, comma, readMore, Nat.max_le, true_and]
    split <;> rfl
  · rw [if_neg shallow, if_neg fun both => shallow (Nat.max_le.mp both).1]
    rfl

mutual

/-- A plain value is read as it was written, up to the end of what was written, as long as it is
no deeper than is allowed.  A deeper one is not read. -/
theorem readValue_render : ∀ (value : Json) {fuel : Nat} (depth : Nat) {rest : List Char},
    value.isPlain = true → 2 * (render value).length < fuel → EndsNumber rest →
      readValue fuel depth .everything (render value ++ rest) =
        admitted value.depth depth (value, rest)
  | null, fuel + 1, depth, rest, plain, enough, ends => rfl
  | bool true, fuel + 1, depth, rest, plain, enough, ends => rfl
  | bool false, fuel + 1, depth, rest, plain, enough, ends => rfl
  | int value, fuel + 1, depth, rest, plain, enough, ends =>
      readValue_renderInt fuel depth plain ends
  | double value, fuel + 1, depth, rest, plain, enough, ends => by cases plain
  | str text, fuel + 1, depth, rest, plain, enough, ends => by
      have quoted : render (str text) ++ rest =
          '"' :: (text.toList.flatMap renderChar ++ '"' :: rest) := by
        simp [render, renderString]
      have read := congrArg (Option.map fun (text, rest) => (str text, rest))
        (readText_renderString text rest)
      rw [quoted]
      exact read
  | arr [], fuel + 1, 0, rest, plain, enough, ends => rfl
  | arr [], fuel + 1, depth + 1, rest, plain, enough, ends => by
      rw [Json.depth, depthOfItems, admitted, if_pos (Nat.le_add_left 1 depth)]
      rfl
  | arr (item :: items), fuel + 1, 0, rest, plain, enough, ends => by
      rw [Json.depth, not_admitted_deeper]
      rfl
  | arr (item :: items), fuel + 1, depth + 1, rest, plain, enough, ends => by
      have bracketed : render (arr (item :: items)) ++ rest =
          '[' :: (renderItems (item :: items) ++ ']' :: rest) := by
        simp [render]
      have itemPlain : item.isPlain = true := by simp_all [isPlain, itemsPlain]
      have shorter : 2 * (renderItems (item :: items)).length + 1 < fuel := by
        rw [render] at enough
        simp only [List.length_cons, List.length_append, List.length_nil] at enough
        omega
      rw [bracketed, readValue_bracket fuel depth (begins_renderItems itemPlain _),
        readItems_renderItems item items depth rest plain shorter, map_admitted]
      rfl
  | obj [], fuel + 1, 0, rest, plain, enough, ends => rfl
  | obj [], fuel + 1, depth + 1, rest, plain, enough, ends => by
      rw [Json.depth, depthOfMembers, admitted, if_pos (Nat.le_add_left 1 depth)]
      rfl
  | obj (member :: members), fuel + 1, 0, rest, plain, enough, ends => by
      rw [Json.depth, not_admitted_deeper]
      rfl
  | obj (member :: members), fuel + 1, depth + 1, rest, plain, enough, ends => by
      have braced : render (obj (member :: members)) ++ rest =
          '\x7b' :: (renderMembers (member :: members) ++ '\x7d' :: rest) := by
        simp [render]
      have membersPlain : membersPlain (member :: members) = true := by
        rw [isPlain, Bool.and_eq_true] at plain
        exact plain.2
      have shorter : 2 * (renderMembers (member :: members)).length + 1 < fuel := by
        rw [render] at enough
        simp only [List.length_cons, List.length_append, List.length_nil] at enough
        omega
      rw [braced, readValue_brace fuel depth (begins_renderMembers member members _),
        readMembers_renderMembers member members depth rest membersPlain shorter, map_admitted]
      rfl

/-- Items are read as they were written. -/
theorem readItems_renderItems : ∀ (item : Json) (items : List Json) {fuel : Nat} (depth : Nat)
    (rest : List Char), itemsPlain (item :: items) = true →
      2 * (renderItems (item :: items)).length + 1 < fuel →
      readItems fuel depth .everything (renderItems (item :: items) ++ ']' :: rest) =
        admitted (depthOfItems (item :: items)) depth (item :: items, rest)
  | item, [], fuel + 1, depth, rest, plain, enough => by
      have itemPlain : item.isPlain = true := by simpa [itemsPlain] using plain
      have last := readValue_render item depth itemPlain (Nat.lt_of_succ_lt_succ enough)
        (endsNumber_cons (c := ']') (by decide) rest)
      rw [depthOfItems, depthOfItems, Nat.max_zero]
      exact readItems_last rfl last
  | item, next :: items, fuel + 1, depth, rest, plain, enough => by
      obtain ⟨itemPlain, itemsPlain⟩ : item.isPlain = true ∧ itemsPlain (next :: items) = true := by
        rwa [itemsPlain, Bool.and_eq_true] at plain
      have split : renderItems (item :: next :: items) ++ ']' :: rest =
          render item ++ ',' :: (renderItems (next :: items) ++ ']' :: rest) := by
        simp [renderItems]
      rw [renderItems, List.length_append, List.length_cons] at enough
      rw [split, depthOfItems]
      refine readItems_next (readValue_render item depth itemPlain ?_ ?_) ?_
      · omega
      · exact endsNumber_cons (by decide) _
      · exact readItems_renderItems next items depth rest itemsPlain (by omega)
      · exact nofun

/-- Members are read as they were written. -/
theorem readMembers_renderMembers : ∀ (member : String × Json) (members : List (String × Json))
    {fuel : Nat} (depth : Nat) (rest : List Char), membersPlain (member :: members) = true →
      2 * (renderMembers (member :: members)).length + 1 < fuel →
      readMembers fuel depth .everything (renderMembers (member :: members) ++ '\x7d' :: rest) =
        admitted (depthOfMembers (member :: members)) depth (member :: members, rest)
  | (name, value), [], fuel + 1, depth, rest, plain, enough => by
      have valuePlain : value.isPlain = true := by simpa [membersPlain] using plain
      have written : renderMembers [(name, value)] ++ '\x7d' :: rest =
          renderString name ++ ':' :: (render value ++ '\x7d' :: rest) := by
        simp [renderMembers]
      rw [renderMembers, List.length_append, List.length_cons] at enough
      rw [written, depthOfMembers, depthOfMembers, Nat.max_zero]
      refine readMembers_last rfl (readValue_render value depth valuePlain ?_ ?_)
      · omega
      · exact endsNumber_cons (by decide) _
  | (name, value), next :: members, fuel + 1, depth, rest, plain, enough => by
      obtain ⟨valuePlain, membersPlain⟩ :
          value.isPlain = true ∧ membersPlain (next :: members) = true := by
        rwa [membersPlain, Bool.and_eq_true] at plain
      have written : renderMembers ((name, value) :: next :: members) ++ '\x7d' :: rest =
          renderString name ++
            ':' :: (render value ++ ',' :: (renderMembers (next :: members) ++ '\x7d' :: rest)) := by
        simp [renderMembers]
      rw [renderMembers, List.length_append, List.length_cons, List.length_append,
        List.length_cons] at enough
      rw [written, depthOfMembers]
      refine readMembers_next (readValue_render value depth valuePlain ?_ ?_) ?_
      · omega
      · exact endsNumber_cons (by decide) _
      · exact readMembers_renderMembers next members depth rest membersPlain (by omega)
      · exact nofun

end

/-- A plain value is what is found in its text, if it is no deeper than is allowed. -/
theorem parseChars?_render (depth : Nat) {value : Json} (plain : value.isPlain = true) :
    parseChars? depth (render value) = admitted value.depth depth value := by
  have enough : 2 * (render value).length < 2 * (render value).length + 2 := by omega
  have ends : EndsNumber [] := nofun
  have read := readValue_render value depth plain enough ends
  rw [List.append_nil] at read
  rw [parseChars?, parseWith?, read]
  unfold admitted
  by_cases shallow : value.depth ≤ depth
  · rw [if_pos shallow, if_pos shallow]
    rfl
  · rw [if_neg shallow, if_neg shallow]

/-! ### Line breaks -/

theorem hexDigit_ne_lineFeed : ∀ n < 16, Text.hexDigit n ≠ '\n' := by
  decide

theorem renderChar_noBreak (c : Char) : '\n' ∉ renderChar c := by
  have high (control : c.toNat < 0x20) := hexDigit_ne_lineFeed (c.toNat / 16) (by omega)
  have low := hexDigit_ne_lineFeed (c.toNat % 16) (by omega)
  grind [renderChar]

theorem renderString_noBreak (text : String) : '\n' ∉ renderString text := by
  intro member
  simp only [renderString, List.mem_cons, List.mem_append, List.mem_flatMap, List.not_mem_nil,
    or_false] at member
  rcases member with quote | ⟨c, -, member⟩ | quote
  · exact absurd quote (by decide)
  · exact renderChar_noBreak c member
  · exact absurd quote (by decide)

theorem renderInt_noBreak (value : Int) : '\n' ∉ renderInt value := by
  have digits : '\n' ∉ Text.showNat value.natAbs := fun member =>
    absurd (showNat_digits value.natAbs '\n' member) (by decide)
  unfold renderInt
  split
  · simpa using digits
  · exact digits

mutual

/-- What is written of a plain value is one line. -/
theorem render_noBreak : ∀ value : Json, value.isPlain = true → '\n' ∉ render value
  | null, plain => by decide
  | bool true, plain => by decide
  | bool false, plain => by decide
  | int value, plain => renderInt_noBreak value
  | double value, plain => by cases plain
  | str text, plain => renderString_noBreak text
  | arr items, plain => by
      simpa [render] using renderItems_noBreak items plain
  | obj members, plain => by
      rw [isPlain, Bool.and_eq_true] at plain
      simpa [render] using renderMembers_noBreak members plain.2

theorem renderItems_noBreak : ∀ items : List Json, itemsPlain items = true →
    '\n' ∉ renderItems items
  | [], plain => List.not_mem_nil
  | [item], plain => by
      have itemPlain : item.isPlain = true := by simpa [itemsPlain] using plain
      simpa [renderItems] using render_noBreak item itemPlain
  | item :: next :: items, plain => by
      rw [itemsPlain, Bool.and_eq_true] at plain
      simp [renderItems, render_noBreak item plain.1, renderItems_noBreak (next :: items) plain.2]

theorem renderMembers_noBreak : ∀ members : List (String × Json), membersPlain members = true →
    '\n' ∉ renderMembers members
  | [], plain => List.not_mem_nil
  | [(name, value)], plain => by
      have valuePlain : value.isPlain = true := by simpa [membersPlain] using plain
      simp [renderMembers, renderString_noBreak name, render_noBreak value valuePlain]
  | (name, value) :: next :: members, plain => by
      rw [membersPlain, Bool.and_eq_true] at plain
      simp [renderMembers, renderString_noBreak name, render_noBreak value plain.1,
        renderMembers_noBreak (next :: members) plain.2]

end

/-! ### Names -/

theorem setMember_new {name : String} {value : Json} {members : List (String × Json)}
    (new : name ∉ members.map Prod.fst) :
    setMember name value members = members ++ [(name, value)] := by
  induction members with
  | nil => rfl
  | cons member members inductionHypothesis =>
      obtain ⟨other, old⟩ := member
      rw [List.map_cons, List.mem_cons, not_or] at new
      have differs : (other == name) = false := by simpa using Ne.symm new.1
      rw [setMember, differs, inductionHypothesis new.2]
      rfl

mutual

/-- A plain value needs no settling. -/
theorem canonical_of_plain : ∀ value : Json, value.isPlain = true → value.canonical = value
  | null, plain => rfl
  | bool _, plain => rfl
  | int _, plain => rfl
  | double _, plain => rfl
  | str _, plain => rfl
  | arr items, plain => by
      rw [canonical, canonicalItems_of_plain items plain]
  | obj members, plain => by
      rw [isPlain, Bool.and_eq_true, decide_eq_true_eq] at plain
      rw [canonical, canonicalMembers_of_plain members [] plain.1 plain.2, List.nil_append]

theorem canonicalItems_of_plain : ∀ items : List Json, itemsPlain items = true →
    canonicalItems items = items
  | [], plain => rfl
  | item :: items, plain => by
      rw [itemsPlain, Bool.and_eq_true] at plain
      rw [canonicalItems, canonical_of_plain item plain.1, canonicalItems_of_plain items plain.2]

/-- Members with different names are added one after the other. -/
theorem canonicalMembers_of_plain : ∀ (members done : List (String × Json)),
    ((done ++ members).map Prod.fst).Nodup → membersPlain members = true →
    canonicalMembers done members = done ++ members
  | [], done, distinct, plain => by
      rw [canonicalMembers, List.append_nil]
  | (name, value) :: members, done, distinct, plain => by
      rw [membersPlain, Bool.and_eq_true] at plain
      have regrouped : done ++ (name, value) :: members = (done ++ [(name, value)]) ++ members := by
        rw [List.append_assoc, List.singleton_append]
      have new : name ∉ done.map Prod.fst := by
        rw [List.map_append, List.map_cons] at distinct
        intro old
        exact (List.nodup_append.mp distinct).2.2 name old name List.mem_cons_self rfl
      rw [regrouped] at distinct
      rw [canonicalMembers, canonical_of_plain value plain.1, setMember_new new,
        canonicalMembers_of_plain members _ distinct plain.2, ← regrouped]

end

end Json

end RuntimeConsole
