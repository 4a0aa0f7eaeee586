/-
Module: RuntimeConsole.Proofs.FrameRoundTrip
Purpose: A frame is read from the line it is written on, and a line that is blank or no frame
  says nothing.
Main exports:
  Frame.ofJson_toJson, Frame.decodeChars?_encode, Transmission.bytes_eq,
  Transmission.readLine_content
-/
import RuntimeConsole.Proofs.JsonRoundTrip
import RuntimeConsole.Proofs.Utf8RoundTrip
import RuntimeConsole.Remote.Transmission

namespace RuntimeConsole

/-! ### Frames -/

namespace Frame

theorem toJson_plain {frame : Frame} (plain : frame.isPlain = true) :
    frame.toJson.isPlain = true := by
  have number {id : Nat} (small : id < UInt64.size) : (Json.int id).isPlain = true := by
    have size : UInt64.size = 18446744073709551616 := rfl
    rw [size] at small
    simp only [Json.isPlain, size, decide_eq_true_eq]
    omega
  have text (value : String) : (Json.str value).isPlain = true := rfl
  have list {args : List Json} (argsPlain : Json.itemsPlain args = true) :
      (Json.arr args).isPlain = true := argsPlain
  have object {members : List (String × Json)} (distinct : (members.map Prod.fst).Nodup)
      (membersPlain : Json.membersPlain members = true) : (Json.obj members).isPlain = true := by
    rw [Json.isPlain, membersPlain, Bool.and_true, decide_eq_true_eq]
    exact distinct
  cases frame with
  | message name args =>
      have argsPlain := list plain
      refine object (by simp) ?_
      simp [Json.membersPlain, text, argsPlain]
  | call id name args =>
      rw [isPlain, Bool.and_eq_true, decide_eq_true_eq] at plain
      have idPlain := number plain.1
      have argsPlain := list plain.2
      refine object (by simp) ?_
      simp only [Json.membersPlain, text, idPlain, argsPlain, Bool.and_self]
  | response id result =>
      rw [isPlain, Bool.and_eq_true, decide_eq_true_eq] at plain
      have idPlain := number plain.1
      refine object (by simp) ?_
      simp only [Json.membersPlain, text, idPlain, plain.2, Bool.and_self]
  | error id message =>
      rw [isPlain, decide_eq_true_eq] at plain
      have idPlain := number plain
      refine object (by simp) ?_
      simp only [Json.membersPlain, text, idPlain, Bool.and_self]

theorem canonical_args {args : List Json} (plain : Json.itemsPlain args = true) :
    args.mapM (fun value => (Except.ok value.canonical : Decoded Json)) = .ok args := by
  induction args with
  | nil => rfl
  | cons value args inductionHypothesis =>
      rw [Json.itemsPlain, Bool.and_eq_true] at plain
      rw [List.mapM_cons, Json.canonical_of_plain value plain.1, inductionHypothesis plain.2]
      rfl

theorem asNat64_int {id : Nat} (small : id < UInt64.size) : (Json.int id).asNat64 = .ok id := by
  rw [Json.asNat64, Json.asNat, if_pos ⟨Int.natCast_nonneg id, Int.ofNat_lt.mpr small⟩,
    Int.toNat_natCast]

theorem splitKind_typed (kind : String) {fields : List (String × Json)}
    (untyped : ∀ field ∈ fields, field.1 ≠ "type") :
    splitKind (.obj (("type", .str kind) :: fields)) = .ok (kind, .obj fields) := by
  have others : fields.filter (fun entry => entry.1 == "type") = [] := by
    simpa using untyped
  have same : fields.filter (fun entry => entry.1 != "type") = fields := by
    simpa using untyped
  simp [splitKind, others, same]

/-- A plain frame is what the value written for it gives. -/
theorem ofJson_toJson {frame : Frame} (plain : frame.isPlain = true) :
    ofJson frame.toJson = .ok frame := by
  have number {id : Nat} (small : id < UInt64.size) := asNat64_int small
  unfold ofJson
  -- The reading of numbers stays closed: their bound is too large to compute with.
  obtain ⟨asNumber, closed⟩ : ∃ asNumber, asNumber = Json.asNat64 := ⟨_, rfl⟩
  rw [← closed]
  rw [← closed] at number
  cases frame with
  | message name args =>
      have same := canonical_args plain
      rw [toJson, splitKind_typed "message" (by simp)]
      simp [Json.asRecord, Record.ofMembers, Record.required, Record.find?, Json.asString, argsOf,
        Record.defaulted, Json.asList, bind, Except.bind, List.lookup_cons, same]
      rfl
  | call id name args =>
      rw [isPlain, Bool.and_eq_true, decide_eq_true_eq] at plain
      have same := canonical_args plain.2
      rw [toJson, splitKind_typed "call" (by simp)]
      simp [Json.asRecord, Record.ofMembers, Record.required, Record.find?, Json.asString, argsOf,
        Record.defaulted, Json.asList, bind, Except.bind, List.lookup_cons, same, number plain.1]
      rfl
  | response id result =>
      rw [isPlain, Bool.and_eq_true, decide_eq_true_eq] at plain
      have same := Json.canonical_of_plain result plain.2
      rw [toJson, splitKind_typed "response" (by simp)]
      simp [Json.asRecord, Record.ofMembers, Record.required, Record.find?, Record.defaulted, bind,
        Except.bind, List.lookup_cons, same, number plain.1]
      rfl
  | error id text =>
      rw [isPlain, decide_eq_true_eq] at plain
      rw [toJson, splitKind_typed "error" (by simp)]
      simp [Json.asRecord, Record.ofMembers, Record.required, Record.find?, Json.asString, bind,
        Except.bind, List.lookup_cons, number plain]
      rfl

/-- A plain frame is what is found in its text, if it is no deeper than a reader allows. -/
theorem decodeChars?_encode {frame : Frame} (plain : frame.isPlain = true) :
    decodeChars? frame.encode = if frame.isShallow then some frame else none := by
  rw [decodeChars?, encode, Json.parseChars?_render _ (toJson_plain plain), Json.admitted,
    isShallow]
  by_cases shallow : frame.toJson.depth ≤ Json.nestingLimit
  · simp [shallow, ofJson_toJson plain, Except.toOption]
  · simp [shallow]

theorem encode_noBreak {frame : Frame} (plain : frame.isPlain = true) : '\n' ∉ frame.encode :=
  Json.render_noBreak frame.toJson (toJson_plain plain)

/-- The text of a frame stands between braces. -/
theorem encode_braces (frame : Frame) :
    ∃ inside, frame.encode = '\x7b' :: (inside ++ ['\x7d']) := by
  cases frame <;> exact ⟨_, rfl⟩

end Frame

/-! ### Lines -/

namespace Transmission

/-- The bytes of a line without the one that ends it. -/
def content : Transmission → List UInt8
  | .frame sent => Text.encode sent.encode
  | .noise text => Text.encode text

theorem bytes_eq (line : Transmission) : line.bytes = line.content ++ [lineEnd] := by
  cases line <;> rfl

variable {line : Transmission}

/-- No line ends before its end. -/
theorem content_noEnd (proper : line.IsProper) : lineEnd ∉ line.content := by
  cases proper with
  | frame plain _ => exact Text.encode_noLineFeed (Frame.encode_noBreak plain)
  | blank noBreak _ => exact Text.encode_noLineFeed noBreak
  | noFrame noBreak _ => exact Text.encode_noLineFeed noBreak

/-- What a line says is the frame in it, if there is one. -/
theorem readLine_content (proper : line.IsProper) :
    readLine line.content = line.frame?.elim .nothing .frame := by
  cases proper with
  | @frame frame plain shallow =>
      obtain ⟨inside, braces⟩ := frame.encode_braces
      have trimmed : Text.Trimmed frame.encode := by
        rw [braces]
        constructor <;> rintro _ ends
        · cases ends
          rfl
        · rw [← List.cons_append, List.getLast?_concat] at ends
          cases ends
          rfl
      have some : frame.encode.isEmpty = false := by rw [braces]; rfl
      have read := Frame.decodeChars?_encode plain
      rw [if_pos shallow] at read
      simp [readLine, content, frame?, Text.decode?_encode, trimmed.trim, some, read]
  | @blank text _ blank =>
      simp [readLine, content, frame?, Text.decode?_encode, Text.trim_blank blank]
  | @noFrame text _ noFrame =>
      simp [readLine, content, frame?, Text.decode?_encode, noFrame]

end Transmission

end RuntimeConsole
