/-
Module: RuntimeConsole.Proofs.LinkRows
Purpose: What a link resolver knows of the rows it heard of: every candidate of a row is
  confirmed, refused, or waits for its answer, once.
Main exports:
  Question, Resolver.hear, Resolver.Tracks, Resolver.links_eq, Resolver.linkAt?_eq_some_iff
-/
import RuntimeConsole.Link.Resolver
import RuntimeConsole.Proofs.LinkSpan
import RuntimeConsole.Proofs.ScreenText

namespace RuntimeConsole

/-- A question whether a candidate in a row is a link, put to the runtime when the row was
in a generation. -/
structure Question where
  row : UInt16
  generation : Nat
  link : LinkMatch
deriving DecidableEq

/-- The candidates of a generation of a row that wait for their answers. -/
def waitingAt (questions : List Question) (row : UInt16) (generation : Nat) : List LinkMatch :=
  questions.filterMap fun question =>
    if question.row = row ∧ question.generation = generation then some question.link else none

theorem waitingAt_append (first second : List Question) (row : UInt16) (generation : Nat) :
    waitingAt (first ++ second) row generation =
      waitingAt first row generation ++ waitingAt second row generation :=
  List.filterMap_append

theorem waitingAt_cons (question : Question) (questions : List Question) (row : UInt16)
    (generation : Nat) :
    waitingAt (question :: questions) row generation =
      if question.row = row ∧ question.generation = generation then
        question.link :: waitingAt questions row generation
      else waitingAt questions row generation := by
  rw [waitingAt, List.filterMap_cons]
  by_cases here : question.row = row ∧ question.generation = generation
  · rw [if_pos here, if_pos here]
    rfl
  · rw [if_neg here, if_neg here]
    rfl

theorem waitingAt_eq_nil {questions : List Question} {row : UInt16} {generation : Nat}
    (apart : ∀ question ∈ questions, ¬(question.row = row ∧ question.generation = generation)) :
    waitingAt questions row generation = [] := by
  rw [waitingAt, List.filterMap_eq_nil_iff]
  exact fun question member => if_neg (apart question member)

theorem waitingAt_asked (links : List LinkMatch) (row : UInt16) (generation : Nat) :
    waitingAt (links.map (⟨row, generation, ·⟩)) row generation = links := by
  rw [waitingAt, List.filterMap_map]
  exact (congrArg (List.filterMap · links) (funext fun _ => if_pos ⟨rfl, rfl⟩)).trans
    List.filterMap_some

namespace Resolver

/-! ### Rows -/

theorem find?_setRow (entry : RowLinks) (rows : List RowLinks) (row : UInt16) :
    (setRow entry rows).find? (fun other => other.row == row) =
      if row = entry.row then some entry else rows.find? fun other => other.row == row := by
  induction rows with
  | nil =>
      by_cases same : row = entry.row
      · simp [setRow, same]
      · simp [setRow, same, Ne.symm same]
  | cons other rows inductionHypothesis =>
      rw [setRow]
      by_cases here : other.row = entry.row
      · rw [if_pos (by simpa using here)]
        by_cases same : row = entry.row
        · simp [same]
        · have apart : entry.row ≠ row := Ne.symm same
          simp [same, here, apart]
      · rw [if_neg (by simpa using here), List.find?_cons, inductionHypothesis, List.find?_cons]
        by_cases same : row = entry.row
        · simp [same, beq_eq_false_iff_ne.mpr here]
        · rw [if_neg same, if_neg same]

theorem mem_setRow_row {entry : RowLinks} {rows : List RowLinks} {row : UInt16}
    (member : row ∈ (setRow entry rows).map RowLinks.row) :
    row = entry.row ∨ row ∈ rows.map RowLinks.row := by
  induction rows with
  | nil => exact .inl (by simpa [setRow] using member)
  | cons other rows inductionHypothesis =>
      rw [setRow] at member
      split at member
      · rcases List.mem_cons.mp member with same | member
        · exact .inl same
        · exact .inr (List.mem_cons_of_mem _ member)
      · rcases List.mem_cons.mp member with same | member
        · exact .inr (same ▸ List.mem_cons_self)
        · exact (inductionHypothesis member).imp_right (List.mem_cons_of_mem _)

theorem setRow_distinct (entry : RowLinks) {rows : List RowLinks}
    (distinct : (rows.map RowLinks.row).Nodup) :
    ((setRow entry rows).map RowLinks.row).Nodup := by
  induction rows with
  | nil => exact .cons (by simp) .nil
  | cons other rows inductionHypothesis =>
      rw [List.map_cons, List.nodup_cons] at distinct
      rw [setRow]
      split
      next same =>
          rw [List.map_cons, List.nodup_cons, ← eq_of_beq same]
          exact distinct
      next apart =>
          rw [List.map_cons, List.nodup_cons]
          refine ⟨fun member => ?_, inductionHypothesis distinct.2⟩
          rcases mem_setRow_row member with same | member
          · exact apart (beq_iff_eq.mpr same)
          · exact distinct.1 member

theorem row?_eq_some_iff {resolver : Resolver} (distinct : (resolver.rows.map RowLinks.row).Nodup)
    {row : UInt16} {entry : RowLinks} :
    resolver.row? row = some entry ↔ entry ∈ resolver.rows ∧ entry.row = row := by
  unfold row?
  generalize resolver.rows = rows at distinct ⊢
  induction rows with
  | nil => simp
  | cons other rows inductionHypothesis =>
      rw [List.map_cons, List.nodup_cons] at distinct
      rw [List.find?_cons]
      by_cases here : other.row = row
      · rw [beq_iff_eq.mpr here]
        constructor
        · intro same
          obtain rfl := Option.some.inj same
          exact ⟨List.mem_cons_self, here⟩
        · rintro ⟨member, same⟩
          rcases List.mem_cons.mp member with rfl | member
          · rfl
          · refine absurd (List.mem_map.mpr ⟨entry, member, ?_⟩) distinct.1
            exact same.trans here.symm
      · rw [beq_eq_false_iff_ne.mpr here]
        refine (inductionHypothesis distinct.2).trans ⟨?_, ?_⟩
        · exact fun ⟨member, same⟩ => ⟨List.mem_cons_of_mem _ member, same⟩
        · rintro ⟨member, same⟩
          rcases List.mem_cons.mp member with rfl | member
          · exact absurd same here
          · exact ⟨member, same⟩

/-- The generation of a row; a row nothing was heard of has none. -/
def generation? (resolver : Resolver) (row : UInt16) : Option Nat :=
  (resolver.row? row).map RowLinks.generation

/-! ### Hearing of rows -/

/-- A resolver that is told about changed rows one after the other, and the questions it
puts. -/
def hear (resolver : Resolver) : List LineChange → Resolver × List Question
  | [] => (resolver, [])
  | change :: changes =>
      let (next, generation, candidates) := resolver.lineChanged change.row change.text
      let asked :=
        if next.validates then candidates.map (⟨change.row, generation, ·⟩) else []
      let (last, others) := hear next changes
      (last, asked ++ others)

/-- A resolver keeps what it is. -/
theorem lineChanged_same (resolver : Resolver) (row : UInt16) (text : List Char) :
    (resolver.lineChanged row text).1.alive = resolver.alive ∧
      (resolver.lineChanged row text).1.validates = resolver.validates ∧
      (resolver.lineChanged row text).1.platform = resolver.platform := by
  unfold lineChanged
  split <;> exact ⟨rfl, rfl, rfl⟩

theorem hear_same (resolver : Resolver) (changes : List LineChange) :
    (resolver.hear changes).1.alive = resolver.alive ∧
      (resolver.hear changes).1.validates = resolver.validates ∧
      (resolver.hear changes).1.platform = resolver.platform := by
  induction changes generalizing resolver with
  | nil => exact ⟨rfl, rfl, rfl⟩
  | cons change changes inductionHypothesis =>
      obtain ⟨alive, validates, platform⟩ := resolver.lineChanged_same change.row change.text
      obtain ⟨laterAlive, laterValidates, laterPlatform⟩ :=
        inductionHypothesis (resolver.lineChanged change.row change.text).1
      exact ⟨laterAlive.trans alive, laterValidates.trans validates, laterPlatform.trans platform⟩

theorem accept_same (resolver : Resolver) (row : UInt16) (generation : Nat) (link : LinkMatch) :
    (resolver.accept row generation link).alive = resolver.alive ∧
      (resolver.accept row generation link).validates = resolver.validates ∧
      (resolver.accept row generation link).platform = resolver.platform := by
  unfold accept
  split
  · split <;> exact ⟨rfl, rfl, rfl⟩
  · exact ⟨rfl, rfl, rfl⟩

/-- A candidate that is confirmed becomes a link of its row in the generation in which it
was put to the runtime. -/
theorem accept_eq {resolver : Resolver} (alive : resolver.alive = true) {row : UInt16}
    {entry : RowLinks} (found : resolver.row? row = some entry) (generation : Nat)
    (link : LinkMatch) :
    resolver.accept row generation link =
      if entry.generation = generation then
        { resolver with
          rows := setRow { entry with links := entry.links ++ [link] } resolver.rows }
      else resolver := by
  have current : (resolver.alive && entry.generation == generation) = true ↔
      entry.generation = generation := by simp [alive]
  unfold accept
  rw [found]
  by_cases same : entry.generation = generation
  · rw [if_pos same]
    exact if_pos (current.mpr same)
  · rw [if_neg same]
    exact if_neg (mt current.mp same)

theorem lineChanged_row? {resolver : Resolver} (alive : resolver.alive = true) (row other : UInt16)
    (text : List Char) :
    (resolver.lineChanged row text).1.row? other =
      if other = row then
        some ⟨row, (resolver.row? row).elim 1 fun entry => entry.generation + 1, []⟩
      else resolver.row? other := by
  unfold lineChanged
  rw [if_pos alive]
  exact find?_setRow _ resolver.rows other

/-- What is known of a row nothing new was heard of stays, and a new text is a new
generation. -/
theorem hear_generation? {resolver : Resolver} (alive : resolver.alive = true)
    (changes : List LineChange) (row : UInt16) :
    (row ∉ changes.map LineChange.row →
        (resolver.hear changes).1.row? row = resolver.row? row) ∧
      (row ∈ changes.map LineChange.row →
        ∃ entry, (resolver.hear changes).1.row? row = some entry ∧
          ∀ older ∈ resolver.generation? row, older < entry.generation) := by
  induction changes generalizing resolver with
  | nil => exact ⟨fun _ => rfl, fun told => absurd told List.not_mem_nil⟩
  | cons change changes inductionHypothesis =>
      obtain ⟨nextAlive, -, -⟩ := resolver.lineChanged_same change.row change.text
      obtain ⟨untold, told⟩ := inductionHypothesis (nextAlive.trans alive)
      have next := lineChanged_row? alive change.row row change.text
      refine ⟨fun outside => ?_, fun inside => ?_⟩
      · simp only [List.map_cons, List.mem_cons, not_or] at outside
        rw [hear]
        exact (untold outside.2).trans (next.trans (if_neg outside.1))
      · by_cases again : row ∈ changes.map LineChange.row
        · obtain ⟨entry, found, newer⟩ := told again
          refine ⟨entry, found, fun older known => ?_⟩
          by_cases here : row = change.row
          · rw [if_pos here] at next
            have later := newer _ (by rw [generation?, next]; rfl)
            rw [generation?, here] at known
            cases former : resolver.row? change.row with
            | none => simp [former] at known
            | some entry =>
                simp only [former, Option.map_some, Option.mem_some] at known
                simp only [former, Option.elim_some] at later
                omega
          · rw [if_neg here] at next
            exact newer older (by rw [generation?, next]; exact known)
        · have here : row = change.row := by simpa [again] using inside
          rw [if_pos here] at next
          refine ⟨_, (untold again).trans next, fun older known => ?_⟩
          rw [generation?, here] at known
          cases former : resolver.row? change.row with
          | none => simp [former] at known
          | some entry =>
              simp only [former, Option.map_some, Option.mem_some] at known
              simp only [Option.elim_some]
              omega

/-! ### Candidates and verdicts -/

/-- The candidates of a text are confirmed, refused, not put to the runtime at all, or wait
for their answers.  `told` says which verdicts there have been. -/
structure Balanced (resolver : Resolver) (told : LinkMatch → Bool → Prop) (text : List Char)
    (links waiting : List LinkMatch) : Prop where
  balance : ∃ refused unasked,
    (linksInText resolver.platform text).Perm (links ++ (refused ++ (unasked ++ waiting))) ∧
      (∀ link ∈ refused, told link false) ∧ (resolver.validates = true → unasked = [])
  confirmed : ∀ link ∈ links, told link true

/-- What a resolver knows of the rows, where `heard` are the texts it heard last and
`questions` are those that wait for their answers. -/
structure Tracks (resolver : Resolver) (questions : List Question)
    (heard : UInt16 → List Char) (told : LinkMatch → Bool → Prop) : Prop where
  distinct : (resolver.rows.map RowLinks.row).Nodup
  unheard : ∀ row, resolver.row? row = none → heard row = []
  asked : ∀ question ∈ questions, ∃ entry, resolver.row? question.row = some entry ∧
    question.generation ≤ entry.generation
  balanced : ∀ row entry, resolver.row? row = some entry →
    Balanced resolver told (heard row) entry.links (waitingAt questions row entry.generation)

section

variable {resolver : Resolver} {questions others : List Question} {heard : UInt16 → List Char}
  {told more : LinkMatch → Bool → Prop}

theorem Balanced.of_perm {text : List Char} {links waiting rest : List LinkMatch}
    (balanced : Balanced resolver told text links waiting) (same : waiting.Perm rest)
    (since : ∀ link verdict, told link verdict → more link verdict) :
    Balanced resolver more text links rest where
  balance := by
    obtain ⟨refused, unasked, balance, refusals, asked⟩ := balanced.balance
    refine ⟨refused, unasked, balance.trans ?_, fun link member => since _ _ (refusals link member),
      asked⟩
    exact ((same.append_left unasked).append_left refused).append_left links
  confirmed link member := since _ _ (balanced.confirmed link member)

theorem Balanced.of_same {next : Resolver} {text : List Char} {links waiting : List LinkMatch}
    (balanced : Balanced resolver told text links waiting)
    (validates : next.validates = resolver.validates)
    (platform : next.platform = resolver.platform) : Balanced next told text links waiting where
  balance := by
    rw [validates, platform]
    exact balanced.balance
  confirmed := balanced.confirmed

/-- In the beginning all candidates wait, or none is put to the runtime. -/
theorem Balanced.begin (resolver : Resolver) (told : LinkMatch → Bool → Prop)
    (text : List Char) :
    Balanced resolver told text []
      (if resolver.validates then linksInText resolver.platform text else []) := by
  refine ⟨?_, by simp⟩
  by_cases validating : resolver.validates = true
  · rw [if_pos validating]
    exact ⟨[], [], .refl _, by simp, fun _ => rfl⟩
  · rw [if_neg validating]
    refine ⟨[], linksInText resolver.platform text, ?_, by simp, fun yes => ?_⟩
    · simp
    · exact absurd yes validating

/-- The candidate that is answered need not be the one that has waited longest. -/
theorem perm_waiting (refused unasked waiting : List LinkMatch) (link : LinkMatch) :
    (refused ++ (unasked ++ link :: waiting)).Perm (link :: (refused ++ (unasked ++ waiting))) :=
  (List.perm_middle.append_left refused).trans List.perm_middle

theorem Balanced.refuse {text : List Char} {links waiting : List LinkMatch} {link : LinkMatch}
    (balanced : Balanced resolver told text links (link :: waiting))
    (heardVerdict : told link false) : Balanced resolver told text links waiting where
  balance := by
    obtain ⟨refused, unasked, balance, refusals, asked⟩ := balanced.balance
    refine ⟨link :: refused, unasked, balance.trans ?_, ?_, asked⟩
    · exact (perm_waiting refused unasked waiting link).append_left links
    · intro other member
      rcases List.mem_cons.mp member with rfl | before
      · exact heardVerdict
      · exact refusals other before
  confirmed := balanced.confirmed

theorem Balanced.confirm {text : List Char} {links waiting : List LinkMatch} {link : LinkMatch}
    (balanced : Balanced resolver told text links (link :: waiting))
    (heardVerdict : told link true) : Balanced resolver told text (links ++ [link]) waiting where
  balance := by
    obtain ⟨refused, unasked, balance, refusals, asked⟩ := balanced.balance
    refine ⟨refused, unasked, balance.trans ?_, refusals, asked⟩
    rw [List.append_assoc]
    exact (perm_waiting refused unasked waiting link).append_left links
  confirmed := by
    intro other member
    rcases List.mem_append.mp member with before | new
    · exact balanced.confirmed other before
    · rw [List.mem_singleton.mp new]
      exact heardVerdict

/-- The order of the questions does not matter, and verdicts may have come. -/
theorem Tracks.of_perm (tracks : Tracks resolver questions heard told)
    (same : questions.Perm others) (since : ∀ link verdict, told link verdict → more link verdict) :
    Tracks resolver others heard more where
  distinct := tracks.distinct
  unheard := tracks.unheard
  asked question member := tracks.asked question (same.mem_iff.mpr member)
  balanced row entry found :=
    (tracks.balanced row entry found).of_perm (same.filterMap _) since

/-- A resolver that was told nothing knows nothing. -/
theorem fresh_tracks (platform : Platform) (validates : Bool)
    (told : LinkMatch → Bool → Prop) :
    Tracks (fresh platform validates) [] (fun _ => []) told where
  distinct := .nil
  unheard _ _ := rfl
  asked := by simp
  balanced _ _ found := by cases found

/-- A row that is heard of begins a generation, whose candidates all wait. -/
theorem Tracks.lineChanged (tracks : Tracks resolver questions heard told)
    (alive : resolver.alive = true) (row : UInt16) (text : List Char) :
    Tracks (resolver.lineChanged row text).1
      (questions ++
        if resolver.validates then
          (resolver.lineChanged row text).2.2.map (⟨row, (resolver.lineChanged row text).2.1, ·⟩)
        else [])
      (fun other => if other = row then text else heard other) told := by
  obtain ⟨-, validates, platform⟩ := resolver.lineChanged_same row text
  have rows (other : UInt16) := lineChanged_row? alive row other text
  have parts : (resolver.lineChanged row text).2 =
      ((resolver.row? row).elim 1 fun entry => entry.generation + 1,
        linksInText resolver.platform text) := by
    rw [Resolver.lineChanged, if_pos alive]
  have distinct : ((resolver.lineChanged row text).1.rows.map RowLinks.row).Nodup := by
    rw [Resolver.lineChanged, if_pos alive]
    exact setRow_distinct _ tracks.distinct
  generalize resolver.lineChanged row text = heardOf at validates platform rows parts distinct ⊢
  obtain ⟨next, generation, candidates⟩ := heardOf
  obtain ⟨rfl, rfl⟩ := Prod.mk.injEq .. ▸ parts
  dsimp only at validates platform rows distinct ⊢
  -- No question has been put in the new generation yet.
  have older : ∀ question ∈ questions, question.row = row →
      question.generation < (resolver.row? row).elim 1 fun entry => entry.generation + 1 := by
    rintro question member rfl
    obtain ⟨entry, found, bound⟩ := tracks.asked question member
    rw [found]
    exact Nat.lt_succ_of_le bound
  exact {
    distinct := distinct
    unheard := by
      intro other absent
      rw [rows] at absent
      by_cases here : other = row
      · rw [if_pos here] at absent
        cases absent
      · rw [if_neg here] at absent ⊢
        exact tracks.unheard other absent
    asked := by
      intro question member
      rw [rows]
      rcases List.mem_append.mp member with before | new
      · by_cases here : question.row = row
        · rw [if_pos here]
          exact ⟨_, rfl, Nat.le_of_lt (older question before here)⟩
        · rw [if_neg here]
          exact tracks.asked question before
      · split at new
        · obtain ⟨link, -, rfl⟩ := List.mem_map.mp new
          exact ⟨_, if_pos rfl, Nat.le_refl _⟩
        · cases new
    balanced := by
      intro other entry found
      rw [rows] at found
      by_cases here : other = row
      · subst here
        rw [if_pos rfl] at found
        obtain rfl := Option.some.inj found
        rw [if_pos rfl, waitingAt_append, waitingAt_eq_nil fun question member same =>
          Nat.ne_of_lt (older question member same.1) same.2]
        have begun := (Balanced.begin resolver told text).of_same validates platform
        split at begun
        next validating =>
            rw [if_pos validating, waitingAt_asked]
            exact begun
        next unasked =>
            rw [if_neg unasked]
            exact begun
      · rw [if_neg here] at found ⊢
        have untouched : waitingAt (if resolver.validates then
            (linksInText resolver.platform text).map
              (⟨row, (resolver.row? row).elim 1 fun entry => entry.generation + 1, ·⟩)
            else []) other entry.generation = [] := by
          refine waitingAt_eq_nil fun question member same => here ?_
          split at member
          · obtain ⟨link, -, rfl⟩ := List.mem_map.mp member
            exact same.1.symm
          · cases member
        rw [waitingAt_append, untouched, List.append_nil]
        exact (tracks.balanced other entry found).of_same validates platform }

theorem Tracks.hear (tracks : Tracks resolver questions heard told)
    (alive : resolver.alive = true) (changes : List LineChange) :
    Tracks (resolver.hear changes).1 (questions ++ (resolver.hear changes).2)
      (afterChanges heard changes) told := by
  induction changes generalizing resolver questions heard with
  | nil => simpa [Resolver.hear, afterChanges] using tracks
  | cons change changes inductionHypothesis =>
      obtain ⟨nextAlive, validates, -⟩ := resolver.lineChanged_same change.row change.text
      have next := inductionHypothesis (tracks.lineChanged alive change.row change.text)
        (nextAlive.trans alive)
      rw [List.append_assoc, ← validates] at next
      exact next

/-- A question that needs no answer any more can be left out. -/
theorem Tracks.leaveOut {question : Question}
    (tracks : Tracks resolver (question :: questions) heard told)
    (each : ∀ entry, resolver.row? question.row = some entry →
      question.generation = entry.generation → ∀ waiting,
        Balanced resolver told (heard question.row) entry.links (question.link :: waiting) →
          Balanced resolver told (heard question.row) entry.links waiting) :
    Tracks resolver questions heard told where
  distinct := tracks.distinct
  unheard := tracks.unheard
  asked other member := tracks.asked other (List.mem_cons_of_mem _ member)
  balanced row entry found := by
    have balanced := tracks.balanced row entry found
    rw [waitingAt_cons] at balanced
    split at balanced
    next here =>
        obtain ⟨rfl, same⟩ := here
        exact each entry found same _ balanced
    next => exact balanced

/-- A candidate that is confirmed in the generation it was found in becomes a link. -/
theorem Tracks.confirm {question : Question} {entry : RowLinks}
    (tracks : Tracks resolver (question :: questions) heard told)
    (found : resolver.row? question.row = some entry)
    (current : entry.generation = question.generation) (heardVerdict : told question.link true) :
    Tracks { resolver with
        rows := setRow { entry with links := entry.links ++ [question.link] } resolver.rows }
      questions heard told := by
  have place : entry.row = question.row := ((row?_eq_some_iff tracks.distinct).mp found).2
  have rows (row : UInt16) : ({ resolver with
      rows := setRow { entry with links := entry.links ++ [question.link] }
        resolver.rows } : Resolver).row? row =
      if row = entry.row then some { entry with links := entry.links ++ [question.link] }
      else resolver.row? row := find?_setRow _ resolver.rows row
  exact {
    distinct := setRow_distinct _ tracks.distinct
    unheard := by
      intro row absent
      rw [rows] at absent
      split at absent
      · cases absent
      · exact tracks.unheard row absent
    asked := by
      intro other member
      obtain ⟨known, same, below⟩ := tracks.asked other (List.mem_cons_of_mem _ member)
      rw [rows]
      by_cases here : other.row = entry.row
      · rw [here, place, found] at same
        obtain rfl := Option.some.inj same
        rw [if_pos here]
        exact ⟨_, rfl, below⟩
      · rw [if_neg here]
        exact ⟨known, same, below⟩
    balanced := by
      intro row known foundNow
      rw [rows] at foundNow
      by_cases here : row = entry.row
      · rw [if_pos here] at foundNow
        obtain rfl := Option.some.inj foundNow
        have balanced := tracks.balanced question.row entry found
        rw [waitingAt_cons, if_pos ⟨rfl, current.symm⟩] at balanced
        rw [here, place]
        exact (balanced.confirm heardVerdict).of_same rfl rfl
      · rw [if_neg here] at foundNow
        have balanced := tracks.balanced row known foundNow
        rw [waitingAt_cons, if_neg fun same => here (same.1.symm.trans place.symm)] at balanced
        exact balanced.of_same rfl rfl }

/-- A verdict settles one question: a candidate that is confirmed becomes a link, unless its
row has changed since. -/
theorem Tracks.settle {question : Question}
    (tracks : Tracks resolver (question :: questions) heard told) (alive : resolver.alive = true)
    {verdict : Bool} (heardVerdict : told question.link verdict) :
    Tracks
      (if verdict then resolver.accept question.row question.generation question.link
        else resolver)
      questions heard told := by
  cases verdict with
  | false => exact tracks.leaveOut fun _ _ _ _ balanced => balanced.refuse heardVerdict
  | true =>
      obtain ⟨entry, found, -⟩ := tracks.asked question List.mem_cons_self
      rw [if_pos rfl, accept_eq alive found]
      by_cases current : entry.generation = question.generation
      · rw [if_pos current]
        exact tracks.confirm found current heardVerdict
      · rw [if_neg current]
        refine tracks.leaveOut fun known foundToo same => ?_
        obtain rfl := Option.some.inj (found.symm.trans foundToo)
        exact absurd same.symm current

end

/-! ### Links -/

theorem mem_links_iff {resolver : Resolver} (distinct : (resolver.rows.map RowLinks.row).Nodup)
    {row : UInt16} {link : LinkMatch} :
    (row, link) ∈ resolver.links ↔
      ∃ entry, resolver.row? row = some entry ∧ link ∈ entry.links := by
  rw [links, List.mem_mergeSort, List.mem_flatMap]
  constructor
  · rintro ⟨entry, member, inside⟩
    obtain ⟨other, here, same⟩ := List.mem_map.mp inside
    obtain ⟨rfl, rfl⟩ := Prod.mk.inj same
    exact ⟨entry, (row?_eq_some_iff distinct).mpr ⟨member, rfl⟩, here⟩
  · rintro ⟨entry, found, inside⟩
    obtain ⟨member, rfl⟩ := (row?_eq_some_iff distinct).mp found
    exact ⟨entry, member, List.mem_map.mpr ⟨link, inside, rfl⟩⟩

/-- The link at a position is one of the links. -/
theorem mem_links_of_linkAt? {resolver : Resolver}
    (distinct : (resolver.rows.map RowLinks.row).Nodup) {position : Position} {link : LinkMatch}
    (found : resolver.linkAt? position = some link) :
    (position.row, link) ∈ resolver.links ∧ link.containsCol position.col.toNat = true := by
  obtain ⟨entry, known, here⟩ := Option.bind_eq_some_iff.mp found
  have covers := List.find?_some here
  exact ⟨(mem_links_iff distinct).mpr ⟨entry, known, List.mem_of_find?_eq_some here⟩, covers⟩

/-- Where links do not overlap the link at a position is the one that covers it. -/
theorem linkAt?_eq_some_iff {resolver : Resolver}
    (distinct : (resolver.rows.map RowLinks.row).Nodup)
    (unique : ∀ row col first second, (row, first) ∈ resolver.links →
      (row, second) ∈ resolver.links → first.containsCol col = true →
        second.containsCol col = true → first = second)
    {position : Position} {link : LinkMatch} :
    resolver.linkAt? position = some link ↔
      (position.row, link) ∈ resolver.links ∧ link.containsCol position.col.toNat = true := by
  refine ⟨mem_links_of_linkAt? distinct, fun ⟨member, covers⟩ => ?_⟩
  obtain ⟨entry, known, inside⟩ := (mem_links_iff distinct).mp member
  rw [linkAt?, known, Option.bind_some]
  cases found : entry.links.find? fun link => link.containsCol position.col.toNat with
  | none => exact absurd covers (List.find?_eq_none.mp found link inside)
  | some other =>
      have otherMember : (position.row, other) ∈ resolver.links :=
        (mem_links_iff distinct).mpr ⟨entry, known, List.mem_of_find?_eq_some found⟩
      have coversToo := List.find?_some found
      exact congrArg some (unique _ _ _ _ otherMember member coversToo covers)

end Resolver

/-- A place for a link comes before another and does not overlap it. -/
def LinkBefore (first second : UInt16 × LinkMatch) : Prop :=
  first.1 < second.1 ∨ (first.1 = second.1 ∧ first.2.stop ≤ second.2.start)

/-- The candidates on a screen that name something, row by row from left to right. -/
def Grid.validLinks (grid : Grid) (platform : Platform) (valid : String → Bool) :
    List (UInt16 × LinkMatch) :=
  (List.range grid.size.rows.toNat).flatMap fun row =>
    ((linksInText platform (grid.textAt (.ofNat row))).filter fun link => valid link.text).map
      fun link => (UInt16.ofNat row, link)

namespace Grid

variable {grid : Grid}

theorem mem_validLinks_iff (proper : grid.Proper) {platform : Platform} {valid : String → Bool}
    {row : UInt16} {link : LinkMatch} :
    (row, link) ∈ grid.validLinks platform valid ↔
      link ∈ linksInText platform (grid.textAt row) ∧ valid link.text = true := by
  rw [validLinks, List.mem_flatMap]
  constructor
  · rintro ⟨place, -, member⟩
    obtain ⟨other, inside, same⟩ := List.mem_map.mp member
    obtain ⟨rfl, rfl⟩ := Prod.mk.inj same
    exact List.mem_filter.mp inside
  · rintro ⟨member, named⟩
    rcases UInt16.lt_or_le row grid.size.rows with inside | outside
    · refine ⟨row.toNat, List.mem_range.mpr (UInt16.lt_iff_toNat_lt.mp inside), ?_⟩
      rw [UInt16.ofNat_toNat]
      exact List.mem_map.mpr ⟨link, List.mem_filter.mpr ⟨member, named⟩, rfl⟩
    · rw [textAt_of_outside proper outside] at member
      cases member

theorem linksInText_textAt (proper : grid.Proper) (platform : Platform) (row : UInt16) :
    linksInText platform (grid.textAt row) = linksInLine platform (grid.textAt row) :=
  linksInText_of_noBreak platform (textAt_noBreak proper row)

theorem spelled_of_mem_validLinks (proper : grid.Proper) {platform : Platform}
    {valid : String → Bool} {row : UInt16} {link : LinkMatch}
    (member : (row, link) ∈ grid.validLinks platform valid) :
    link.SpelledBy (grid.textAt row) := by
  obtain ⟨member, -⟩ := (mem_validLinks_iff proper).mp member
  rw [linksInText_textAt proper] at member
  exact linksInLine_spelled platform _ link member

theorem linksInText_textAt_nodup (proper : grid.Proper) (platform : Platform) (row : UInt16) :
    (linksInText platform (grid.textAt row)).Nodup := by
  rw [linksInText_textAt proper]
  refine (linksInLine_apart platform _).imp_of_mem fun inside _ apart same => ?_
  have nonempty := (linksInLine_spelled platform _ _ inside).nonempty
  rw [same] at nonempty apart
  omega

theorem validLinks_before (proper : grid.Proper) (platform : Platform) (valid : String → Bool) :
    (grid.validLinks platform valid).Pairwise LinkBefore := by
  rw [validLinks, List.pairwise_flatMap]
  constructor
  · intro row _
    rw [List.pairwise_map, linksInText_textAt proper]
    exact ((linksInLine_apart platform _).filter _).imp fun apart => .inr ⟨rfl, apart⟩
  · refine List.Pairwise.imp_of_mem ?_ List.pairwise_lt_range
    intro first second inside insideToo before one member other memberToo
    obtain ⟨_, -, rfl⟩ := List.mem_map.mp member
    obtain ⟨_, -, rfl⟩ := List.mem_map.mp memberToo
    have := grid.size.rows.toNat_lt
    rw [List.mem_range] at inside insideToo
    refine .inl ?_
    simp only [UInt16.lt_iff_toNat_lt, UInt16.toNat_ofNat']
    omega

end Grid

namespace Resolver

theorem linkOrder_iff {first second : UInt16 × LinkMatch} :
    linkOrder first second = true ↔
      first.1 < second.1 ∨ (first.1 = second.1 ∧ first.2.start ≤ second.2.start) := by
  simp [linkOrder]

theorem links_sorted (resolver : Resolver) :
    resolver.links.Pairwise fun first second => linkOrder first second = true := by
  refine List.pairwise_mergeSort ?_ ?_ _
  · intro first second third before after
    rw [linkOrder_iff, UInt16.lt_iff_toNat_lt, ← UInt16.toNat_inj] at before after ⊢
    omega
  · intro first second
    rw [Bool.or_eq_true, linkOrder_iff, linkOrder_iff, UInt16.lt_iff_toNat_lt,
      UInt16.lt_iff_toNat_lt, ← UInt16.toNat_inj, ← UInt16.toNat_inj]
    omega

/-- Items of a list in which each comes before all that follow are the same or one comes
before the other. -/
theorem before_cases {links : List (UInt16 × LinkMatch)} (ordered : links.Pairwise LinkBefore)
    {first second : UInt16 × LinkMatch} (member : first ∈ links) (memberToo : second ∈ links) :
    first = second ∨ LinkBefore first second ∨ LinkBefore second first := by
  induction links with
  | nil => cases member
  | cons link links inductionHypothesis =>
      rw [List.pairwise_cons] at ordered
      rcases List.mem_cons.mp member with rfl | later
      · rcases List.mem_cons.mp memberToo with rfl | laterToo
        · exact .inl rfl
        · exact .inr (.inl (ordered.1 second laterToo))
      · rcases List.mem_cons.mp memberToo with rfl | laterToo
        · exact .inr (.inr (ordered.1 first later))
        · exact inductionHypothesis ordered.2 later laterToo

theorem linkOrder_of_before {first second : UInt16 × LinkMatch}
    (nonempty : first.2.start < first.2.stop) (before : LinkBefore first second) :
    linkOrder first second = true := by
  rw [linkOrder_iff]
  exact before.imp_right fun ⟨same, apart⟩ => ⟨same, by omega⟩

/-- Places that do not overlap are the same if each may come first. -/
theorem eq_of_linkOrder {links : List (UInt16 × LinkMatch)} (ordered : links.Pairwise LinkBefore)
    (nonempty : ∀ place ∈ links, place.2.start < place.2.stop)
    {first second : UInt16 × LinkMatch} (member : first ∈ links) (memberToo : second ∈ links)
    (forth : linkOrder first second = true) (back : linkOrder second first = true) :
    first = second := by
  have firstStart := nonempty first member
  have secondStart := nonempty second memberToo
  rw [linkOrder_iff, UInt16.lt_iff_toNat_lt, ← UInt16.toNat_inj] at forth back
  rcases before_cases ordered member memberToo with same | before | before
  · exact same
  all_goals
    rw [LinkBefore, UInt16.lt_iff_toNat_lt, ← UInt16.toNat_inj] at before
    omega

theorem nodup_of_before {links : List (UInt16 × LinkMatch)} (ordered : links.Pairwise LinkBefore)
    (nonempty : ∀ place ∈ links, place.2.start < place.2.stop) : links.Nodup := by
  refine ordered.imp_of_mem fun {first second} inside _ before same => ?_
  have start := nonempty first inside
  subst same
  rcases before with less | ⟨-, apart⟩
  · exact UInt16.lt_irrefl _ less
  · omega

section

variable {resolver : Resolver} {grid : Grid} {heard : UInt16 → List Char}
  {told : LinkMatch → Bool → Prop} {valid : String → Bool}

/-- Once every candidate is answered truthfully, a row has the links it should have. -/
theorem Balanced.mem_iff {text : List Char} {links : List LinkMatch}
    (balanced : Balanced resolver told text links []) (validates : resolver.validates = true)
    (truthful : ∀ link verdict, told link verdict → verdict = valid link.text)
    {link : LinkMatch} :
    link ∈ links ↔ link ∈ linksInText resolver.platform text ∧ valid link.text = true := by
  obtain ⟨⟨refused, unasked, balance, refusals, asked⟩, confirmed⟩ := balanced
  rw [asked validates, List.nil_append, List.append_nil] at balance
  rw [balance.mem_iff, List.mem_append]
  constructor
  · exact fun member => ⟨.inl member, (truthful link true (confirmed link member)).symm⟩
  · rintro ⟨member | member, named⟩
    · exact member
    · exact absurd ((truthful link false (refusals link member)).trans named) nofun

theorem Balanced.nodup {text : List Char} {links waiting : List LinkMatch}
    (balanced : Balanced resolver told text links waiting)
    (distinct : (linksInText resolver.platform text).Nodup) : links.Nodup := by
  obtain ⟨refused, unasked, balance, -⟩ := balanced.balance
  exact (List.nodup_append.mp (balance.nodup_iff.mp distinct)).1

theorem Tracks.links_nodup {questions : List Question}
    (tracks : Tracks resolver questions heard told)
    (distinct : ∀ row, (linksInText resolver.platform (heard row)).Nodup) :
    resolver.links.Nodup := by
  rw [links, (List.mergeSort_perm _ _).nodup_iff, List.nodup_iff_pairwise_ne,
    List.pairwise_flatMap]
  constructor
  · intro entry member
    have found := (row?_eq_some_iff tracks.distinct).mpr ⟨member, rfl⟩
    rw [List.pairwise_map]
    exact ((tracks.balanced _ entry found).nodup (distinct entry.row)).imp
      fun apart same => apart (Prod.mk.inj same).2
  · refine (List.pairwise_map.mp tracks.distinct).imp fun apart => ?_
    intro first member second memberToo same
    obtain ⟨_, -, rfl⟩ := List.mem_map.mp member
    obtain ⟨_, -, rfl⟩ := List.mem_map.mp memberToo
    exact apart (Prod.mk.inj same).1

theorem Tracks.mem_links_iff (tracks : Tracks resolver [] heard told)
    (validates : resolver.validates = true)
    (truthful : ∀ link verdict, told link verdict → verdict = valid link.text) {row : UInt16}
    {link : LinkMatch} :
    (row, link) ∈ resolver.links ↔
      link ∈ linksInText resolver.platform (heard row) ∧ valid link.text = true := by
  rw [Resolver.mem_links_iff tracks.distinct]
  cases found : resolver.row? row with
  | none =>
      rw [tracks.unheard row found]
      constructor
      · rintro ⟨entry, known, -⟩
        cases known
      · rintro ⟨member, -⟩
        cases member
  | some entry =>
      rw [← (tracks.balanced row entry found).mem_iff validates truthful]
      constructor
      · rintro ⟨other, known, member⟩
        rwa [← Option.some.inj known] at member
      · exact fun member => ⟨entry, rfl, member⟩

/-- Once every candidate is answered truthfully, the links are the candidates on the screen
that name something. -/
theorem links_eq (proper : grid.Proper) (tracks : Tracks resolver [] heard told)
    (upToDate : ∀ row, heard row = grid.textAt row) (validates : resolver.validates = true)
    (truthful : ∀ link verdict, told link verdict → verdict = valid link.text) :
    resolver.links = grid.validLinks resolver.platform valid := by
  have ordered := Grid.validLinks_before proper resolver.platform valid
  have nonempty : ∀ place ∈ grid.validLinks resolver.platform valid,
      place.2.start < place.2.stop :=
    fun place member => (Grid.spelled_of_mem_validLinks proper member).nonempty
  have members (row : UInt16) (link : LinkMatch) :
      (row, link) ∈ resolver.links ↔ (row, link) ∈ grid.validLinks resolver.platform valid := by
    rw [tracks.mem_links_iff validates truthful, Grid.mem_validLinks_iff proper, upToDate]
  have distinct : resolver.links.Nodup := tracks.links_nodup fun row => by
    rw [upToDate]
    exact Grid.linksInText_textAt_nodup proper _ row
  have same : resolver.links.Perm (grid.validLinks resolver.platform valid) :=
    (List.perm_ext_iff_of_nodup distinct (nodup_of_before ordered nonempty)).mpr
      fun place => members place.1 place.2
  -- Both lists are sorted, and no two places have the same start.
  refine same.eq_of_pairwise (fun first second member memberToo forth back => ?_)
    resolver.links_sorted ?_
  · exact eq_of_linkOrder ordered nonempty (same.mem_iff.mp member) memberToo forth back
  · exact ordered.imp_of_mem fun inside _ before => linkOrder_of_before (nonempty _ inside) before

end

end Resolver

end RuntimeConsole
