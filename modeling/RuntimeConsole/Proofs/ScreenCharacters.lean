/-
Module: RuntimeConsole.Proofs.ScreenCharacters
Purpose: What the bytes of a character do to a screen outside of sequences, the last ones of
  several alone included, and that screens differ where other characters have been put.
Main exports:
  ControlDecoder.run_encodeChar, Display.feed_encodeChar, Display.feed_lost, Text.tail_lost,
  Grid.put_differs
-/
import RuntimeConsole.Proofs.CursorBounds
import RuntimeConsole.Proofs.TapeRefinement
import RuntimeConsole.Proofs.Utf8RoundTrip

namespace RuntimeConsole

/-! ### Bytes that begin no character -/

namespace Text

/-- Whether a byte is beyond those of ASCII and begins no character. -/
def isLost (byte : UInt8) : Bool :=
  0x80 ≤ byte.toNat && (lead? byte).isNone

theorem isLost_iff {byte : UInt8} :
    isLost byte = true ↔ 0x80 ≤ byte.toNat ∧ lead? byte = none := by
  simp [isLost]

theorem isLost_of_continuation {byte : UInt8} (atLeast : 0x80 ≤ byte.toNat)
    (atMost : byte.toNat ≤ 0xBF) : isLost byte = true := by
  refine isLost_iff.mpr ⟨atLeast, ?_⟩
  rw [lead?, if_neg (by omega), if_pos (by omega)]

theorem Completes.lost {bits low high code : Nat} {bytes : List UInt8}
    (completes : Completes bits low high bytes code) (atLeast : 0x80 ≤ low) (atMost : high ≤ 0xBF) :
    ∀ byte ∈ bytes, isLost byte = true := by
  induction bytes generalizing bits low high with
  | nil => exact fun byte member => absurd member List.not_mem_nil
  | cons first bytes inductionHypothesis =>
      obtain ⟨above, below, others⟩ := completes
      rw [List.forall_mem_cons]
      exact ⟨isLost_of_continuation (Nat.le_trans atLeast above) (Nat.le_trans below atMost),
        inductionHypothesis others (Nat.le_refl _) (Nat.le_refl _)⟩

/-- A byte that announces others is none of ASCII. -/
theorem wide_of_following {byte : UInt8} {lead : Lead} (announced : lead? byte = some lead)
    (some : lead.following ≠ 0) : 0x80 ≤ byte.toNat := by
  by_contra narrow
  rw [lead?, if_pos (Nat.not_le.mp narrow)] at announced
  obtain rfl := Option.some.inj announced
  exact some rfl

/-- A character that is none of ASCII has bytes besides the first, and what they complete is a
character whichever they are. -/
theorem encodeChar_wide {c : Char} (wide : 0x80 ≤ c.toNat) :
    ∃ first lead rest, encodeChar c = first :: rest ∧ Spelling first lead rest c.toNat ∧
      rest ≠ [] ∧ 0x80 ≤ first.toNat := by
  obtain ⟨first, lead, rest, encoded, spelling⟩ := encodeChar_spelling c
  have long : 1 < (encodeChar c).length := by
    rw [encodeChar, if_neg (Nat.not_lt.mpr wide)]
    split
    · simp
    · split <;> simp
  have some : rest ≠ [] := by
    rintro rfl
    simp [encoded] at long
  refine ⟨first, lead, rest, encoded, spelling, some, wide_of_following spelling.announced ?_⟩
  rw [spelling.following]
  exact fun none => some (List.length_eq_zero_iff.mp none)

/-- The bytes of a character after some of its first ones begin no character. -/
theorem tail_lost {c : Char} {head tail : List UInt8} (encoded : encodeChar c = head ++ tail)
    (some : head ≠ []) : ∀ byte ∈ tail, isLost byte = true := by
  obtain ⟨first, lead, rest, whole, spelling⟩ := encodeChar_spelling c
  obtain ⟨byte, head, rfl⟩ := List.exists_cons_of_ne_nil some
  rw [List.cons_append] at encoded
  obtain ⟨rfl, rfl⟩ := List.cons.inj (encoded.symm.trans whole)
  intro other member
  have following : lead.following ≠ 0 := by
    rw [spelling.following, List.length_append]
    have := List.length_pos_of_mem member
    omega
  obtain ⟨atLeast, atMost, -⟩ := ControlDecoder.lead?_proper spelling.announced
    (wide_of_following spelling.announced following)
  exact spelling.completes.lost atLeast atMost other (List.mem_append_right head member)

end Text

/-! ### Outside of sequences -/

namespace ControlDecoder

variable {decoder : ControlDecoder}

theorem step_inside {bits following low high : Nat}
    (inside : decoder.state = .character bits following low high) (byte : UInt8) :
    decoder.step byte = decoder.stepCharacter bits following low high byte := by
  simp only [step, insideCharacter, stepState, inside, if_true]

/-- The bytes that act in every state are three. -/
theorem step_outside (outside : decoder.insideCharacter = false) {byte : UInt8}
    (cancel : byte ≠ 0x18) (substitute : byte ≠ 0x1A) (escape : byte ≠ 0x1B) :
    decoder.step byte = decoder.stepState byte := by
  simp [step, outside, cancel, substitute, escape]

theorem step_ground (ground : decoder.state = .ground) {byte : UInt8}
    (visible : 0x20 ≤ byte.toNat) : decoder.step byte = decoder.stepGround byte := by
  have other (low : UInt8) (small : low.toNat < 0x20) : byte ≠ low := by
    rintro rfl
    omega
  have outside : decoder.insideCharacter = false := by rw [insideCharacter, ground]
  rw [step_outside outside (other 0x18 (by decide)) (other 0x1A (by decide))
    (other 0x1B (by decide)), stepState, ground]

/-- Outside of sequences a byte of ASCII is a character, unless it is a control character. -/
theorem step_narrow (ground : decoder.state = .ground) {byte : UInt8}
    (visible : 0x20 ≤ byte.toNat) (narrow : byte.toNat < 0x80) :
    decoder.step byte = (decoder, [.print (Char.ofNat byte.toNat)]) := by
  have notControl : ¬ byte < 0x20 := UInt8.not_lt.mpr (UInt8.le_iff_toNat_le.mpr visible)
  rw [step_ground ground visible, stepGround, if_neg notControl,
    if_pos (UInt8.lt_iff_toNat_lt.mpr narrow)]

/-- Outside of sequences a byte beyond those of ASCII begins a character, or is passed over. -/
theorem step_wide (ground : decoder.state = .ground) {byte : UInt8} (wide : 0x80 ≤ byte.toNat) :
    decoder.step byte =
      match Text.lead? byte with
      | some lead =>
          (decoder.enter (.character lead.bits lead.following lead.low lead.high), [])
      | none => (decoder, []) := by
  have above (low : UInt8) (small : low.toNat ≤ 0x80) : ¬ byte < low := by
    rw [UInt8.lt_iff_toNat_lt]
    omega
  calc decoder.step byte
    _ = decoder.stepGround byte := step_ground ground (Nat.le_trans (by decide) wide)
    _ = _ := (if_neg (above 0x20 (by decide))).trans (if_neg (above 0x80 (by decide)))

/-- The bytes that are missing complete the character. -/
theorem run_completes {bits low high code : Nat} {bytes : List UInt8}
    (completes : Text.Completes bits low high bytes code) (some : bytes ≠ [])
    (inside : decoder.state = .character bits bytes.length low high) :
    decoder.run bytes = (decoder.enter .ground, [.print (Char.ofNat code)]) := by
  induction bytes generalizing decoder bits low high with
  | nil => exact absurd rfl some
  | cons byte bytes inductionHypothesis =>
      obtain ⟨atLeast, atMost, others⟩ := completes
      rw [run, step_inside inside, stepCharacter, if_pos ⟨atLeast, atMost⟩]
      dsimp only
      cases bytes with
      | nil =>
          rw [Text.Completes] at others
          rw [List.length_singleton, if_pos (Nat.le_refl 1), others]
          rfl
      | cons next bytes =>
          rw [if_neg (by simp), inductionHypothesis others (List.cons_ne_nil _ _) rfl]
          rfl

theorem run_encodeChar_wide (ground : decoder.state = .ground) {c : Char} (wide : 0x80 ≤ c.toNat) :
    decoder.run (Text.encodeChar c) = (decoder, [.print c]) := by
  obtain ⟨first, lead, rest, encoded, spelling, some, large⟩ := Text.encodeChar_wide wide
  obtain ⟨state, parameters, marked⟩ := decoder
  obtain rfl : state = .ground := ground
  rw [encoded, run, step_wide rfl large, spelling.announced]
  dsimp only
  rw [run_completes spelling.completes some (by rw [← spelling.following]; rfl),
    Char.ofNat_toNat]
  rfl

/-- Outside of sequences the bytes of a character print it, unless it is a control character. -/
theorem run_encodeChar (ground : decoder.state = .ground) {c : Char} (visible : 0x20 ≤ c.toNat) :
    decoder.run (Text.encodeChar c) = (decoder, [.print c]) := by
  by_cases wide : 0x80 ≤ c.toNat
  · exact run_encodeChar_wide ground wide
  · have narrow : c.toNat < 0x80 := Nat.not_le.mp wide
    have byte : (UInt8.ofNat c.toNat).toNat = c.toNat := by
      rw [UInt8.toNat_ofNat']
      omega
    have read := step_narrow ground (byte.symm ▸ visible) (byte.symm ▸ narrow)
    rw [byte, Char.ofNat_toNat] at read
    rw [Text.encodeChar, if_pos narrow, run, read]
    rfl

end ControlDecoder

namespace Display

variable {display : Display}

theorem feed_encodeChar (ground : display.decoder.state = .ground) {c : Char}
    (visible : 0x20 ≤ c.toNat) :
    display.feed (Text.encodeChar c) = { display with grid := display.grid.put c } := by
  rw [feed_eq_run, ControlDecoder.run_encodeChar ground visible]
  rfl

theorem feed_cons (display : Display) (byte : UInt8) (bytes : List UInt8) :
    display.feed (byte :: bytes) = (display.feedByte byte).feed bytes := rfl

theorem feed_of_kept {bytes : List UInt8}
    (kept : ∀ byte ∈ bytes, display.feedByte byte = display) : display.feed bytes = display := by
  induction bytes with
  | nil => rfl
  | cons byte bytes inductionHypothesis =>
      obtain ⟨first, others⟩ := List.forall_mem_cons.mp kept
      rw [feed_cons, first]
      exact inductionHypothesis others

/-- Bytes that begin no character are passed over. -/
theorem feed_lost (ground : display.decoder.state = .ground) {bytes : List UInt8}
    (lost : ∀ byte ∈ bytes, Text.isLost byte = true) : display.feed bytes = display := by
  refine feed_of_kept fun byte member => ?_
  obtain ⟨wide, none⟩ := Text.isLost_iff.mp (lost byte member)
  rw [feedByte, ControlDecoder.step_wide ground wide, none]
  rfl

end Display

/-! ### Screens that differ -/

namespace Grid

variable {grid : Grid}

/-- Another character leaves other rows. -/
theorem put_differs (shaped : grid.Shaped) (fits : grid.CursorFits) {c d : Char}
    (different : c ≠ d) : (grid.put c).rows ≠ (grid.put d).rows := by
  intro same
  have first := (charAt?_put shaped fits c).2
  have second := (charAt?_put shaped fits d).2
  rw [charAt?, same, ← charAt?, second] at first
  exact different (Option.some.inj first).symm

end Grid

end RuntimeConsole
