/-
Module: RuntimeConsole.Proofs.LinkRematch
Purpose: A link does not depend on what stands around it: in its own text it is found again,
  and nothing else is.
Main exports:
  mem_linksFrom, linkAt?_stretch, linksInLine_stretch, findLinks_rematch
-/
import RuntimeConsole.Proofs.LinkRuns

namespace RuntimeConsole

/-- Every link was found at the beginning of what is left of its line. -/
theorem mem_linksFrom {platform : Platform} {text : List Char} {skip column : Nat}
    {link : LinkMatch} (member : link ∈ linksFrom platform skip column text) :
    ∃ before rest path digits, text = before ++ rest ∧
      linkAt? platform rest = some (path, digits) ∧
      link = LinkMatch.ofParts (column + before.length) path digits := by
  induction text generalizing skip column with
  | nil => cases member
  | cons c text inductionHypothesis =>
      have later {skip : Nat} (member : link ∈ linksFrom platform skip (column + 1) text) :
          ∃ before rest path digits, c :: text = before ++ rest ∧
            linkAt? platform rest = some (path, digits) ∧
            link = LinkMatch.ofParts (column + before.length) path digits := by
        obtain ⟨before, rest, path, digits, rfl, found, rfl⟩ := inductionHypothesis member
        refine ⟨c :: before, rest, path, digits, rfl, found, ?_⟩
        rw [List.length_cons, Nat.add_assoc, Nat.add_comm 1]
      cases skip with
      | succ skip => exact later member
      | zero =>
          rw [linksFrom] at member
          split at member
          next => exact later member
          next path digits found =>
              rcases List.mem_cons.mp member with rfl | member
              · exact ⟨[], c :: text, path, digits, rfl, found, rfl⟩
              · exact later member

/-- The whole text of a link, made of its path and the digits of its line number. -/
def stretchOf (path digits : List Char) : List Char :=
  path ++ if digits.isEmpty then [] else ':' :: digits

/-- Where a link stands moves it, and changes nothing else of it. -/
theorem ofParts_eq (column : Nat) (path digits : List Char) :
    LinkMatch.ofParts column path digits =
      { text := String.ofList (stretchOf path digits)
        path := String.ofList path
        line := (Text.readBounded? UInt32.size digits).map UInt32.ofNat
        start := column
        stop := column + (stretchOf path digits).length } := by
  unfold LinkMatch.ofParts stretchOf
  cases digits <;> simp

theorem lineDigits_digits (text : List Char) :
    ∀ c ∈ lineDigits text, Text.isDecimalDigit c = true := by
  intro c member
  unfold lineDigits at member
  split at member
  · exact List.all_eq_true.mp List.all_takeWhile c member
  · cases member

/-- The digits of a line number, behind a colon, are those of a line number. -/
theorem lineDigits_again (text : List Char) :
    lineDigits (':' :: lineDigits text) = lineDigits text := by
  have all : (lineDigits text ++ []).takeWhile Text.isDecimalDigit = lineDigits text ++ [] :=
    List.takeWhile_append_of_pos (lineDigits_digits text)
  rw [List.append_nil] at all
  exact all

variable {platform : Platform} {text path digits : List Char}

/-- A link begins its own text, with the same path and the same line number. -/
theorem linkAt?_stretch (found : linkAt? platform text = some (path, digits)) :
    linkAt? platform (stretchOf path digits) = some (path, digits) := by
  obtain ⟨rest, -, matched, -, rfl⟩ := linkAt?_eq_some_iff.mp found
  refine linkAt?_eq_some_iff.mpr ⟨_, rfl, matched, ?_, ?_⟩
  · intro c others split goesOn
    split at split
    next => cases split
    next =>
        obtain ⟨rfl, -⟩ := List.cons.inj split
        have outside : platform.isSegmentChar ':' = false ∧ platform.isSeparator ':' = false := by
          cases platform <;> decide
        rcases goesOn with inside | ⟨separates, -⟩
        · exact absurd inside (Bool.eq_false_iff.mp outside.1)
        · exact absurd separates (Bool.eq_false_iff.mp outside.2)
  · split
    next none => exact List.isEmpty_iff.mp none
    next => exact (lineDigits_again rest).symm

/-- Nothing in the text of a link breaks a line. -/
theorem stretch_noBreak (found : linkAt? platform text = some (path, digits)) :
    '\n' ∉ stretchOf path digits := by
  obtain ⟨rest, -, matched, -, rfl⟩ := linkAt?_eq_some_iff.mp found
  have visible := matched.forall_mem (pathPattern_over platform)
  intro member
  rcases List.mem_append.mp member with member | member
  · exact absurd (visible '\n' member) (by decide)
  · split at member
    next => cases member
    next =>
        rcases List.mem_cons.mp member with same | member
        · exact absurd same (by decide)
        · exact absurd (lineDigits_digits rest '\n' member) (by decide)

/-- The text of a link, as a line, holds that link and nothing else. -/
theorem linksInLine_stretch (found : linkAt? platform text = some (path, digits)) :
    linksInLine platform (stretchOf path digits) = [LinkMatch.ofParts 0 path digits] := by
  have again := linkAt?_stretch found
  have some : stretchOf path digits ≠ [] := by
    obtain ⟨-, -, matched, -⟩ := linkAt?_eq_some_iff.mp found
    have long := two_le_length_of_path matched
    intro empty
    rw [(List.append_eq_nil_iff.mp empty).1] at long
    cases long
  obtain ⟨c, rest, stretchEq⟩ := List.exists_cons_of_ne_nil some
  -- Nothing is left of the line behind the link.
  have nothing : rest.drop ((LinkMatch.ofParts 0 path digits).stop - 0 - 1) = [] := by
    apply List.drop_eq_nil_of_le
    rw [ofParts_eq, stretchEq]
    dsimp only
    rw [List.length_cons]
    omega
  rw [stretchEq] at again ⊢
  rw [linksInLine, linksFrom, again]
  dsimp only
  rw [linksFrom_skip, nothing, linksFrom]

/-- What is found as a link is found again in its own text: the same text, path and line number,
from the first character to the last, and no other link. -/
theorem findLinks_rematch (platform : Platform) (text : String) (link : LinkMatch)
    (found : link ∈ findLinks platform text) :
    findLinks platform link.text = [{ link with start := 0, stop := link.text.length }] := by
  obtain ⟨line, -, member⟩ := List.mem_flatMap.mp found
  obtain ⟨before, rest, path, digits, -, began, rfl⟩ := mem_linksFrom member
  have noBreak := stretch_noBreak began
  rw [ofParts_eq, findLinks, String.toList_ofList, linksInText_of_noBreak platform noBreak,
    linksInLine_stretch began, ofParts_eq, String.length_ofList, Nat.zero_add]

/-- A path on a server, found in the middle of a line, with its line number. -/
theorem findLinks_rematch_server :
    let link : LinkMatch := ⟨"\\\\host\\a.jl:12", "\\\\host\\a.jl", some 12, 4, 18⟩
    link ∈ findLinks .windows "see \\\\host\\a.jl:12." ∧
      findLinks .windows link.text = [{ link with start := 0, stop := link.text.length }] := by
  intro link
  have found : link ∈ findLinks .windows "see \\\\host\\a.jl:12." := by decide +kernel
  exact ⟨found, findLinks_rematch .windows _ link found⟩

end RuntimeConsole
