/-
Module: RuntimeConsole.Proofs.JsonLayout
Purpose: A value is read alike whether it was written on one line or indented, and whether all of
  it is of interest or only so much as there is in it.
Main exports:
  Interest.Covers, reads_covered, parseWith?_covered, readValue_renderIndented,
  parseChars?_pretty
-/
import Mathlib.Data.List.DropRight
import RuntimeConsole.Proofs.JsonRoundTrip

namespace RuntimeConsole

namespace Json

/-! ### Interest -/

namespace Interest

/-- Whether an interest leaves nothing of a value out. -/
def Covers : Interest → Json → Prop
  | .nothing, _ => False
  | .items inner, .arr values => ∀ value ∈ values, Covers inner value
  | .members names, .obj values => ∀ member ∈ values, member.1 ∈ names
  | _, _ => True

variable {interest : Interest}

theorem Covers.ne_nothing {value : Json} (covers : interest.Covers value) :
    interest ≠ .nothing := by
  rintro rfl
  simp [Covers] at covers

theorem covers_everything (value : Json) : Interest.everything.Covers value := by
  simp [Covers]

theorem readText_of_ne (some : interest ≠ .nothing) :
    interest.readText = Interest.everything.readText := by
  funext text
  rw [readText, readText, if_neg some, if_neg (by decide)]

theorem readNumber_of_ne (some : interest ≠ .nothing) :
    interest.readNumber = Interest.everything.readNumber := by
  funext negative text
  unfold readNumber
  simp only [some, if_false, reduceCtorEq]

theorem descend_of_ne (some : interest ≠ .nothing) :
    interest.descend = Interest.everything.descend := by
  funext depth
  cases interest with
  | nothing => exact absurd rfl some
  | _ => cases depth <;> rfl

theorem Covers.ofItem {values : List Json} (covers : interest.Covers (.arr values)) :
    ∀ value ∈ values, interest.ofItem.Covers value := by
  intro value member
  cases interest with
  | nothing => exact absurd rfl covers.ne_nothing
  | items inner =>
      simp only [Covers] at covers
      exact covers value member
  | _ => exact covers_everything value

theorem Covers.ofMember {values : List (String × Json)} (covers : interest.Covers (.obj values)) :
    ∀ member ∈ values, interest.ofMember member.1 = .everything := by
  intro member known
  cases interest with
  | nothing => exact absurd rfl covers.ne_nothing
  | members names =>
      simp only [Covers] at covers
      simp [ofMember, covers member known]
  | _ => rfl

end Interest

/-- What is read in so many steps where everything is of interest is read as well where only so
much is of interest as there is in it. -/
structure ReadsCovered (fuel : Nat) : Prop where
  value : ∀ {depth : Nat} {interest : Interest} {text rest : List Char} {value : Json},
    readValue fuel depth .everything text = some (value, rest) → interest.Covers value →
      readValue fuel depth interest text = some (value, rest)
  items : ∀ {depth : Nat} {interest : Interest} {text rest : List Char} {items : List Json},
    readItems fuel depth .everything text = some (items, rest) →
      (∀ item ∈ items, interest.Covers item) →
      readItems fuel depth interest text = some (items, rest)
  members : ∀ {depth : Nat} {interest : Interest} {text rest : List Char}
    {members : List (String × Json)},
    readMembers fuel depth .everything text = some (members, rest) → interest ≠ .nothing →
      (∀ member ∈ members, interest.ofMember member.1 = .everything) →
      readMembers fuel depth interest text = some (members, rest)

namespace ReadsCovered

variable {fuel depth : Nat} {interest : Interest} {text rest : List Char}

theorem value_succ (covered : ReadsCovered fuel) {value : Json}
    (read : readValue (fuel + 1) depth .everything text = some (value, rest))
    (covers : interest.Covers value) :
    readValue (fuel + 1) depth interest text = some (value, rest) := by
  rw [readValue] at read ⊢
  simp only [Interest.readText_of_ne covers.ne_nothing,
    Interest.readNumber_of_ne covers.ne_nothing, Interest.descend_of_ne covers.ne_nothing]
  generalize skipSpace text = visible at read ⊢
  split at read
  next => exact read
  next => exact read
  next => exact read
  next => exact read
  next => exact read
  next =>
      split at read
      next => exact read
      next =>
          split at read
          next => exact read
          next =>
              obtain ⟨⟨found, others⟩, known, same⟩ := Option.map_eq_some_iff.mp read
              cases same
              rw [covered.items known covers.ofItem]
              rfl
  next =>
      split at read
      next => exact read
      next =>
          split at read
          next => exact read
          next =>
              obtain ⟨⟨found, others⟩, known, same⟩ := Option.map_eq_some_iff.mp read
              cases same
              rw [covered.members known covers.ne_nothing covers.ofMember]
              rfl
  next => exact read

theorem items_succ (covered : ReadsCovered fuel) {items : List Json}
    (read : readItems (fuel + 1) depth .everything text = some (items, rest))
    (covers : ∀ item ∈ items, interest.Covers item) :
    readItems (fuel + 1) depth interest text = some (items, rest) := by
  rw [readItems] at read ⊢
  obtain ⟨⟨item, behind⟩, known, read⟩ := Option.bind_eq_some_iff.mp read
  dsimp only at read
  split at read
  next others comma =>
      obtain ⟨⟨more, last⟩, knownMore, read⟩ := Option.bind_eq_some_iff.mp read
      cases read
      rw [covered.value known (covers item List.mem_cons_self)]
      simp only [Option.bind_eq_bind, Option.bind_some, comma]
      rw [covered.items knownMore fun item member => covers item (List.mem_cons_of_mem _ member)]
      rfl
  next others closing =>
      cases read
      rw [covered.value known (covers item List.mem_cons_self)]
      simp only [Option.bind_eq_bind, Option.bind_some, closing]
      rfl
  next => cases read

theorem members_succ (covered : ReadsCovered fuel) {members : List (String × Json)}
    (read : readMembers (fuel + 1) depth .everything text = some (members, rest))
    (interested : interest ≠ .nothing)
    (covers : ∀ member ∈ members, interest.ofMember member.1 = .everything) :
    readMembers (fuel + 1) depth interest text = some (members, rest) := by
  rw [readMembers] at read ⊢
  simp only [Interest.readText_of_ne interested]
  generalize skipSpace text = visible at read ⊢
  split at read
  next quoted =>
      obtain ⟨⟨name, behind⟩, named, read⟩ := Option.bind_eq_some_iff.mp read
      simp only [named, Option.bind_eq_bind, Option.bind_some]
      dsimp only at read
      split at read
      next text colon =>
          obtain ⟨⟨value, after⟩, known, read⟩ := Option.bind_eq_some_iff.mp read
          dsimp only at read
          split at read
          next others comma =>
              obtain ⟨⟨more, last⟩, knownMore, read⟩ := Option.bind_eq_some_iff.mp read
              cases read
              have whole : readValue fuel depth (interest.ofMember name) text =
                  some (value, after) := by
                rw [covers (name, value) List.mem_cons_self]
                exact known
              have rest := covered.members knownMore interested
                fun member later => covers member (List.mem_cons_of_mem _ later)
              simp only [whole, Option.bind_some, comma, rest]
              rfl
          next others closing =>
              cases read
              have whole : readValue fuel depth (interest.ofMember name) text =
                  some (value, after) := by
                rw [covers (name, value) List.mem_cons_self]
                exact known
              simp only [whole, Option.bind_some, closing]
              rfl
          next => cases read
      next => cases read
  next => cases read

end ReadsCovered

theorem reads_covered (fuel : Nat) : ReadsCovered fuel := by
  induction fuel with
  | zero => exact ⟨nofun, nofun, nofun⟩
  | succ fuel inductionHypothesis =>
      exact ⟨inductionHypothesis.value_succ, inductionHypothesis.items_succ,
        inductionHypothesis.members_succ⟩

/-- What a text consists of is found as well where only so much is of interest. -/
theorem parseWith?_covered {depth : Nat} {interest : Interest} {text : List Char} {value : Json}
    (found : parseChars? depth text = some value) (covers : interest.Covers value) :
    parseWith? interest depth text = some value := by
  unfold parseChars? parseWith? at found
  unfold parseWith?
  split at found
  next known rest read =>
      split at found
      next ends =>
          obtain rfl := Option.some.inj found
          rw [(reads_covered _).value read covers]
          exact if_pos ends
      next => cases found
  next => cases found

/-! ### Blanks -/

section

variable {fuel depth : Nat} {interest : Interest} {first second : List Char}

/-- Blanks before a value do not count. -/
theorem readValue_blank (same : skipSpace first = skipSpace second) :
    readValue fuel depth interest first = readValue fuel depth interest second := by
  cases fuel with
  | zero => rfl
  | succ fuel => rw [readValue, same, readValue]

theorem readValue_space (fuel depth : Nat) (interest : Interest) (text : List Char) :
    readValue fuel depth interest (' ' :: text) = readValue fuel depth interest text :=
  readValue_blank rfl

theorem readItems_blank (same : skipSpace first = skipSpace second) :
    readItems fuel depth interest first = readItems fuel depth interest second := by
  cases fuel with
  | zero => rfl
  | succ fuel => rw [readItems, readValue_blank same, readItems]

theorem readMembers_blank (same : skipSpace first = skipSpace second) :
    readMembers fuel depth interest first = readMembers fuel depth interest second := by
  cases fuel with
  | zero => rfl
  | succ fuel => rw [readMembers, same, readMembers]

theorem skipSpace_skipSpace (text : List Char) : skipSpace (skipSpace text) = skipSpace text :=
  List.dropWhile_idempotent _ _

theorem skipSpace_lineBreak (level : Nat) (text : List Char) :
    skipSpace (lineBreak level ++ text) = skipSpace text := by
  have blanks (count : Nat) : skipSpace (List.replicate count ' ' ++ text) = skipSpace text := by
    induction count with
    | zero => rfl
    | succ count inductionHypothesis => exact inductionHypothesis
  exact blanks (2 * level)

/-- What follows an opening bracket may begin with blanks. -/
theorem readValue_bracket_blank {text : List Char} (begins : Begins (skipSpace text)) :
    readValue (fuel + 1) (depth + 1) .everything ('[' :: text) =
      (readItems fuel depth .everything text).map fun (items, rest) => (arr items, rest) := by
  rw [← readItems_blank (skipSpace_skipSpace text), ← readValue_bracket fuel depth begins]
  have opened (text : List Char) : skipSpace ('[' :: text) = '[' :: text := rfl
  rw [readValue, readValue, opened, opened]
  simp only [skipSpace_skipSpace]

theorem readValue_brace_blank {text : List Char} (begins : Begins (skipSpace text)) :
    readValue (fuel + 1) (depth + 1) .everything ('\x7b' :: text) =
      (readMembers fuel depth .everything text).map fun (members, rest) => (obj members, rest) := by
  rw [← readMembers_blank (skipSpace_skipSpace text), ← readValue_brace fuel depth begins]
  have opened (text : List Char) : skipSpace ('\x7b' :: text) = '\x7b' :: text := rfl
  rw [readValue, readValue, opened, opened]
  simp only [skipSpace_skipSpace]

end

/-! ### Values on several lines -/

theorem begins_renderIndented (level : Nat) (value : Json) (plain : value.isPlain = true)
    (rest : List Char) : Begins (renderIndented level value ++ rest) := by
  cases value with
  | arr items => cases items <;> exact begins_of_cons rfl (by decide) (by decide) _
  | obj members => cases members <;> exact begins_of_cons rfl (by decide) (by decide) _
  | _ => exact begins_render _ plain rest

theorem endsNumber_lineBreak (level : Nat) (text : List Char) :
    EndsNumber (lineBreak level ++ text) := by
  intro c member
  obtain rfl := Option.mem_some.mp member
  decide

theorem begins_indentedItems (level : Nat) {item : Json} {items : List Json}
    (plain : item.isPlain = true) (rest : List Char) :
    Begins (skipSpace (indentedItems level (item :: items) ++ rest)) := by
  have begins := begins_renderIndented level item plain
  cases items with
  | nil =>
      rw [indentedItems, List.append_assoc, skipSpace_lineBreak, (begins _).visible]
      exact begins _
  | cons next items =>
      rw [indentedItems, List.append_assoc, List.append_assoc, skipSpace_lineBreak,
        (begins _).visible]
      · exact begins _
      · exact List.cons_ne_nil _ _

theorem begins_indentedMembers (level : Nat) (member : String × Json)
    (members : List (String × Json)) (rest : List Char) :
    Begins (skipSpace (indentedMembers level (member :: members) ++ rest)) := by
  obtain ⟨name, value⟩ := member
  have begins (text : List Char) : Begins (renderString name ++ text) :=
    begins_of_cons rfl (by decide) (by decide) _
  cases members with
  | nil =>
      rw [indentedMembers, List.append_assoc, List.append_assoc, skipSpace_lineBreak,
        (begins _).visible]
      exact begins _
  | cons next members =>
      rw [indentedMembers, List.append_assoc, List.append_assoc, skipSpace_lineBreak,
        (begins _).visible]
      · exact begins _
      · exact List.cons_ne_nil _ _

mutual

/-- A plain value is read as it was written on several lines. -/
theorem readValue_renderIndented : ∀ (value : Json) {fuel : Nat} (level depth : Nat)
    {rest : List Char}, value.isPlain = true → 2 * (renderIndented level value).length < fuel →
      EndsNumber rest →
      readValue fuel depth .everything (renderIndented level value ++ rest) =
        admitted value.depth depth (value, rest)
  | null, fuel, level, depth, rest, plain, enough, ends =>
      readValue_render null depth plain enough ends
  | bool value, fuel, level, depth, rest, plain, enough, ends =>
      readValue_render (bool value) depth plain enough ends
  | int value, fuel, level, depth, rest, plain, enough, ends =>
      readValue_render (int value) depth plain enough ends
  | double value, fuel, level, depth, rest, plain, enough, ends => by cases plain
  | str text, fuel, level, depth, rest, plain, enough, ends =>
      readValue_render (str text) depth plain enough ends
  | arr [], fuel, level, depth, rest, plain, enough, ends =>
      readValue_render (arr []) depth plain enough ends
  | arr (item :: items), fuel + 1, level, 0, rest, plain, enough, ends => by
      rw [Json.depth, not_admitted_deeper]
      rfl
  | arr (item :: items), fuel + 1, level, depth + 1, rest, plain, enough, ends => by
      have bracketed : renderIndented level (arr (item :: items)) ++ rest =
          '[' :: (indentedItems (level + 1) (item :: items) ++
            (lineBreak level ++ ']' :: rest)) := by
        simp [renderIndented]
      have itemPlain : item.isPlain = true := by simp_all [isPlain, itemsPlain]
      have shorter : 2 * (indentedItems (level + 1) (item :: items)).length + 1 < fuel := by
        have length : (renderIndented level (arr (item :: items))).length =
            (indentedItems (level + 1) (item :: items)).length + (lineBreak level).length + 2 := by
          simp [renderIndented]
          omega
        omega
      rw [bracketed, readValue_bracket_blank (begins_indentedItems (level + 1) itemPlain _),
        readItems_indentedItems item items (level + 1) depth (skipSpace_lineBreak level _)
          (endsNumber_lineBreak level _) plain shorter, map_admitted]
      rfl
  | obj [], fuel, level, depth, rest, plain, enough, ends =>
      readValue_render (obj []) depth plain enough ends
  | obj (member :: members), fuel + 1, level, 0, rest, plain, enough, ends => by
      rw [Json.depth, not_admitted_deeper]
      rfl
  | obj (member :: members), fuel + 1, level, depth + 1, rest, plain, enough, ends => by
      have braced : renderIndented level (obj (member :: members)) ++ rest =
          '\x7b' :: (indentedMembers (level + 1) (member :: members) ++
            (lineBreak level ++ '\x7d' :: rest)) := by
        simp [renderIndented]
      have membersPlain : membersPlain (member :: members) = true := by
        rw [isPlain, Bool.and_eq_true] at plain
        exact plain.2
      have shorter : 2 * (indentedMembers (level + 1) (member :: members)).length + 1 < fuel := by
        have length : (renderIndented level (obj (member :: members))).length =
            (indentedMembers (level + 1) (member :: members)).length +
              (lineBreak level).length + 2 := by
          simp [renderIndented]
          omega
        omega
      rw [braced, readValue_brace_blank (begins_indentedMembers (level + 1) member members _),
        readMembers_indentedMembers member members (level + 1) depth (skipSpace_lineBreak level _)
          (endsNumber_lineBreak level _) membersPlain shorter, map_admitted]
      rfl
  termination_by structural _ fuel => fuel

/-- Items are read as they were written on lines of their own. -/
theorem readItems_indentedItems : ∀ (item : Json) (items : List Json) {fuel : Nat}
    (level depth : Nat) {behind rest : List Char}, skipSpace behind = ']' :: rest →
      EndsNumber behind → itemsPlain (item :: items) = true →
      2 * (indentedItems level (item :: items)).length + 1 < fuel →
      readItems fuel depth .everything (indentedItems level (item :: items) ++ behind) =
        admitted (depthOfItems (item :: items)) depth (item :: items, rest)
  | item, [], fuel + 1, level, depth, behind, rest, closing, ends, plain, enough => by
      have itemPlain : item.isPlain = true := by simpa [itemsPlain] using plain
      rw [indentedItems, List.length_append] at enough
      rw [indentedItems, List.append_assoc, readItems_blank (skipSpace_lineBreak level _),
        depthOfItems, depthOfItems, Nat.max_zero]
      exact readItems_last closing
        (readValue_renderIndented item level depth itemPlain (by omega) ends)
  | item, next :: items, fuel + 1, level, depth, behind, rest, closing, ends, plain, enough => by
      obtain ⟨itemPlain, itemsPlain⟩ : item.isPlain = true ∧ itemsPlain (next :: items) = true := by
        rwa [itemsPlain, Bool.and_eq_true] at plain
      have split : indentedItems level (item :: next :: items) ++ behind = lineBreak level ++
          (renderIndented level item ++
            ',' :: (indentedItems level (next :: items) ++ behind)) := by
        simp [indentedItems]
      have length : (indentedItems level (item :: next :: items)).length =
          (lineBreak level).length + (renderIndented level item).length +
            ((indentedItems level (next :: items)).length + 1) := by
        simp [indentedItems]
        omega
      rw [split, readItems_blank (skipSpace_lineBreak level _), depthOfItems]
      refine readItems_next (readValue_renderIndented item level depth itemPlain ?_ ?_) ?_
      · omega
      · exact endsNumber_cons (by decide) _
      · exact readItems_indentedItems next items level depth closing ends itemsPlain (by omega)
  termination_by structural _ _ fuel => fuel

/-- Members are read as they were written on lines of their own. -/
theorem readMembers_indentedMembers : ∀ (member : String × Json) (members : List (String × Json))
    {fuel : Nat} (level depth : Nat) {behind rest : List Char}, skipSpace behind = '\x7d' :: rest →
      EndsNumber behind → membersPlain (member :: members) = true →
      2 * (indentedMembers level (member :: members)).length + 1 < fuel →
      readMembers fuel depth .everything (indentedMembers level (member :: members) ++ behind) =
        admitted (depthOfMembers (member :: members)) depth (member :: members, rest)
  | (name, value), [], fuel + 1, level, depth, behind, rest, closing, ends, plain, enough => by
      have valuePlain : value.isPlain = true := by simpa [membersPlain] using plain
      have written : indentedMembers level [(name, value)] ++ behind = lineBreak level ++
          (renderString name ++ ':' :: (' ' :: (renderIndented level value ++ behind))) := by
        simp [indentedMembers]
      have length : (indentedMembers level [(name, value)]).length = (lineBreak level).length +
          (renderString name).length + ((renderIndented level value).length + 2) := by
        simp [indentedMembers]
        omega
      rw [written, readMembers_blank (skipSpace_lineBreak level _), depthOfMembers, depthOfMembers,
        Nat.max_zero]
      refine readMembers_last closing (.trans (readValue_space _ _ _ _)
        (readValue_renderIndented value level depth valuePlain ?_ ends))
      omega
  | (name, value), next :: members, fuel + 1, level, depth, behind, rest, closing, ends, plain,
      enough => by
      obtain ⟨valuePlain, membersPlain⟩ :
          value.isPlain = true ∧ membersPlain (next :: members) = true := by
        rwa [membersPlain, Bool.and_eq_true] at plain
      have written : indentedMembers level ((name, value) :: next :: members) ++ behind =
          lineBreak level ++ (renderString name ++ ':' :: (' ' :: (renderIndented level value ++
            ',' :: (indentedMembers level (next :: members) ++ behind)))) := by
        simp [indentedMembers]
      have length : (indentedMembers level ((name, value) :: next :: members)).length =
          (lineBreak level).length + (renderString name).length +
            ((renderIndented level value).length + 2 +
              ((indentedMembers level (next :: members)).length + 1)) := by
        simp [indentedMembers]
        omega
      rw [written, readMembers_blank (skipSpace_lineBreak level _), depthOfMembers]
      refine readMembers_next (.trans (readValue_space _ _ _ _)
        (readValue_renderIndented value level depth valuePlain ?_ ?_)) ?_
      · omega
      · exact endsNumber_cons (by decide) _
      · exact readMembers_indentedMembers next members level depth closing ends membersPlain
          (by omega)
  termination_by structural _ _ fuel => fuel

end

/-- A plain value is what is found in the lines it was written on, if it is no deeper than is
allowed. -/
theorem parseChars?_pretty (depth : Nat) {value : Json} (plain : value.isPlain = true) :
    parseChars? depth (value.renderIndented 0) = admitted value.depth depth value := by
  have enough : 2 * (value.renderIndented 0).length < 2 * (value.renderIndented 0).length + 2 := by
    omega
  have ends : EndsNumber [] := nofun
  have read := readValue_renderIndented value 0 depth plain enough ends
  rw [List.append_nil] at read
  rw [parseChars?, parseWith?, read]
  unfold admitted
  by_cases shallow : value.depth ≤ depth
  · rw [if_pos shallow, if_pos shallow]
    rfl
  · rw [if_neg shallow, if_neg shallow]

end Json

end RuntimeConsole
