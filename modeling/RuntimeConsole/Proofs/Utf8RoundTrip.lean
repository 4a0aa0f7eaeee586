/-
Module: RuntimeConsole.Proofs.Utf8RoundTrip
Purpose: A text is read from the bytes that encode it, and among these the byte of a line feed
  stands for line feeds only.
Main exports:
  encodeChar_spelling, scan_encodeChar, decode?_encode, encode_noLineFeed
-/
import RuntimeConsole.Text.Utf8

namespace RuntimeConsole.Text

/-! ### Bytes -/

theorem toNat_byte {n : Nat} (small : n < 256) : (UInt8.ofNat n).toNat = n :=
  UInt8.toNat_ofNat_of_lt small

theorem lead?_one {n : Nat} (small : n < 0x80) :
    lead? (UInt8.ofNat n) = some ⟨n, 0, 0x80, 0xBF⟩ := by
  rw [lead?, toNat_byte (by omega), if_pos small]

theorem lead?_two : ∀ bits < 0x20, 2 ≤ bits →
    lead? (UInt8.ofNat (0xC0 + bits)) = some ⟨bits, 1, 0x80, 0xBF⟩ := by
  decide

/-- The second of three bytes keeps out what two bytes can encode, and surrogates. -/
theorem lead?_three : ∀ bits < 0x10, lead? (UInt8.ofNat (0xE0 + bits)) =
    some ⟨bits, 2, if bits = 0 then 0xA0 else 0x80, if bits = 0xD then 0x9F else 0xBF⟩ := by
  decide

/-- The second of four bytes keeps out what three bytes can encode, and what is no character. -/
theorem lead?_four : ∀ bits < 5, lead? (UInt8.ofNat (0xF0 + bits)) =
    some ⟨bits, 3, if bits = 0 then 0x90 else 0x80, if bits = 4 then 0x8F else 0xBF⟩ := by
  decide

/-- The bytes complete the code of a character of which some bits have been read, where the next
byte lies in a range. -/
def Completes : (bits low high : Nat) → List UInt8 → (code : Nat) → Prop
  | bits, _, _, [], code => bits = code
  | bits, low, high, byte :: rest, code =>
      low ≤ byte.toNat ∧ byte.toNat ≤ high ∧
        Completes (bits * 0x40 + byte.toNat % 0x40) 0x80 0xBF rest code

theorem completes_byte {bits low high n code : Nat} {rest : List UInt8} (small : n < 256)
    (atLeast : low ≤ n) (atMost : n ≤ high)
    (others : Completes (bits * 0x40 + n % 0x40) 0x80 0xBF rest code) :
    Completes bits low high (UInt8.ofNat n :: rest) code := by
  rw [Completes, toNat_byte small]
  exact ⟨atLeast, atMost, others⟩

/-- The bytes of a code: the first announces the others. -/
structure Spelling (first : UInt8) (lead : Lead) (rest : List UInt8) (code : Nat) : Prop where
  announced : lead? first = some lead
  following : lead.following = rest.length
  completes : Completes lead.bits lead.low lead.high rest code

/-! ### Characters -/

theorem code_valid (c : Char) : c.toNat < 0xD800 ∨ (0xDFFF < c.toNat ∧ c.toNat < 0x110000) :=
  c.valid

theorem encodeChar_spelling (c : Char) :
    ∃ first lead rest, encodeChar c = first :: rest ∧ Spelling first lead rest c.toNat := by
  have valid := code_valid c
  unfold encodeChar
  generalize c.toNat = n at valid ⊢
  dsimp only
  split
  next one => exact ⟨_, _, _, rfl, lead?_one one, rfl, rfl⟩
  next =>
  split
  next two =>
      refine ⟨_, _, _, rfl, lead?_two (n / 0x40) (by omega) (by omega), rfl, ?_⟩
      dsimp only
      refine completes_byte (by omega) (by omega) (by omega) ?_
      rw [Completes]
      omega
  next =>
  split
  next three =>
      refine ⟨_, _, _, rfl, lead?_three (n / 0x1000) (by omega), rfl, ?_⟩
      dsimp only
      refine completes_byte (by omega) (by split <;> omega) (by split <;> omega) ?_
      refine completes_byte (by omega) (by omega) (by omega) ?_
      rw [Completes]
      omega
  next four =>
      refine ⟨_, _, _, rfl, lead?_four (n / 0x40000) (by omega), rfl, ?_⟩
      dsimp only
      refine completes_byte (by omega) (by split <;> omega) (by split <;> omega) ?_
      refine completes_byte (by omega) (by omega) (by omega) ?_
      refine completes_byte (by omega) (by omega) (by omega) ?_
      rw [Completes]
      omega

/-- All the bytes that are missing are followed to the character. -/
theorem follow_completes {bits low high code : Nat} {bytes : List UInt8}
    (completes : Completes bits low high bytes code) (used : Nat) (rest : List UInt8) :
    follow bits low high bytes.length used (bytes ++ rest) =
      (some (Char.ofNat code), used + bytes.length) := by
  induction bytes generalizing bits low high used with
  | nil =>
      rw [Completes] at completes
      rw [List.length_nil, follow, completes, Nat.add_zero]
  | cons byte bytes inductionHypothesis =>
      obtain ⟨atLeast, atMost, others⟩ := completes
      rw [List.length_cons, List.cons_append, follow, if_pos ⟨atLeast, atMost⟩,
        inductionHypothesis others, Nat.add_assoc, Nat.add_comm 1]

/-- Some of them are followed to their end. -/
theorem follow_begins {bits low high code : Nat} {head tail : List UInt8}
    (completes : Completes bits low high (head ++ tail) code) (missing : tail ≠ []) (used : Nat) :
    follow bits low high (head ++ tail).length used head = (none, used + head.length) := by
  induction head generalizing bits low high used with
  | nil =>
      obtain ⟨byte, tail, rfl⟩ := List.exists_cons_of_ne_nil missing
      rfl
  | cons byte head inductionHypothesis =>
      obtain ⟨atLeast, atMost, others⟩ := completes
      rw [List.cons_append, List.length_cons, follow, if_pos ⟨atLeast, atMost⟩,
        inductionHypothesis others, List.length_cons, Nat.add_assoc, Nat.add_comm 1]

/-- The bytes of a character that has been read are passed over. -/
theorem scan_skip (bytes rest : List UInt8) :
    scan bytes.length (bytes ++ rest) = scan 0 rest := by
  induction bytes with
  | nil => rfl
  | cons byte bytes inductionHypothesis =>
      rw [List.length_cons, List.cons_append, scan, inductionHypothesis]

/-- A character is read from the bytes that encode it. -/
theorem scan_encodeChar (c : Char) (rest : List UInt8) :
    scan 0 (encodeChar c ++ rest) = some c :: scan 0 rest := by
  obtain ⟨first, lead, others, encoded, spelling⟩ := encodeChar_spelling c
  rw [encoded, List.cons_append, scan, spelling.announced]
  dsimp only
  rw [spelling.following, follow_completes spelling.completes, Nat.zero_add, scan_skip,
    Char.ofNat_toNat]

/-- The beginning of a character is read as a malformed stretch. -/
theorem scan_beginning {c : Char} {head tail : List UInt8} (encoded : encodeChar c = head ++ tail)
    (some : head ≠ []) (missing : tail ≠ []) : scan 0 head = [none] := by
  obtain ⟨first, lead, others, whole, spelling⟩ := encodeChar_spelling c
  obtain ⟨byte, head, rfl⟩ := List.exists_cons_of_ne_nil some
  rw [List.cons_append] at encoded
  obtain ⟨rfl, rfl⟩ := List.cons.inj (encoded.symm.trans whole)
  have passed := scan_skip head []
  rw [List.append_nil] at passed
  rw [scan, spelling.announced]
  dsimp only
  rw [spelling.following, follow_begins spelling.completes missing, Nat.zero_add, passed]
  rfl

/-! ### Texts -/

/-- A text is read before what follows it. -/
theorem scan_encode_append (text : List Char) (rest : List UInt8) :
    scan 0 (encode text ++ rest) = text.map some ++ scan 0 rest := by
  induction text with
  | nil => rfl
  | cons c text inductionHypothesis =>
      have head := scan_encodeChar c (encode text ++ rest)
      rw [inductionHypothesis, ← List.append_assoc] at head
      exact head

theorem scan_encode (text : List Char) : scan 0 (encode text) = text.map some := by
  have whole := scan_encode_append text []
  rwa [List.append_nil, scan, List.append_nil] at whole

/-- A text is what is read from the bytes that encode it. -/
theorem decode?_encode (text : List Char) : decode? (encode text) = some text := by
  rw [decode?, scan_encode]
  induction text with
  | nil => rfl
  | cons c text inductionHypothesis =>
      rw [List.map_cons, List.mapM_cons, inductionHypothesis]
      rfl

theorem not_mem_cons_byte {n : Nat} {bytes : List UInt8} (small : n < 256) (differs : n ≠ 0x0A)
    (others : 0x0A ∉ bytes) : 0x0A ∉ UInt8.ofNat n :: bytes := by
  intro member
  rcases List.mem_cons.mp member with same | member
  · apply differs
    rw [← toNat_byte small, ← same]
    rfl
  · exact others member

/-- The byte of a line feed is no part of any other character. -/
theorem encodeChar_noLineFeed {c : Char} (other : c ≠ '\n') : 0x0A ∉ encodeChar c := by
  have valid := code_valid c
  have different : c.toNat ≠ 0x0A := by
    intro same
    apply other
    rw [← Char.ofNat_toNat c, same]
  unfold encodeChar
  generalize c.toNat = n at valid different ⊢
  dsimp only
  split
  next => exact not_mem_cons_byte (by omega) different List.not_mem_nil
  next =>
  have last : 0x0A ∉ [UInt8.ofNat (0x80 + n % 0x40)] :=
    not_mem_cons_byte (by omega) (by omega) List.not_mem_nil
  split
  next => exact not_mem_cons_byte (by omega) (by omega) last
  next =>
  have lastTwo : 0x0A ∉ [UInt8.ofNat (0x80 + n / 0x40 % 0x40), UInt8.ofNat (0x80 + n % 0x40)] :=
    not_mem_cons_byte (by omega) (by omega) last
  split
  next => exact not_mem_cons_byte (by omega) (by omega) lastTwo
  next =>
      have lastThree :=
        not_mem_cons_byte (n := 0x80 + n / 0x1000 % 0x40) (by omega) (by omega) lastTwo
      exact not_mem_cons_byte (by omega) (by omega) lastThree

theorem encode_noLineFeed {text : List Char} (noBreak : '\n' ∉ text) : 0x0A ∉ encode text := by
  intro member
  obtain ⟨c, inText, member⟩ := List.mem_flatMap.mp member
  exact encodeChar_noLineFeed (fun same => noBreak (same ▸ inText)) member

end RuntimeConsole.Text
