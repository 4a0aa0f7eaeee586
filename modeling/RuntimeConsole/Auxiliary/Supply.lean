/-
Module: RuntimeConsole.Auxiliary.Supply
Purpose: Supplies of identities for auxiliary terminals.
Main exports:
  IdSupply, IdSupply.firstUnused, IdSupply.draw_firstUnused_not_mem, IdSupply.counting
-/
import RuntimeConsole.Terminal.Identity

namespace RuntimeConsole

/-- Identities drawn one after the other, possibly with repetitions.  However many
are in use, an unused one is drawn at some time.

A run looks for an unused identity finitely often, and each search ends with the
first draw that is not in use, so a run depends on a finite number of draws only.
With any others after them, such as those of `counting`, the run is the same.
-/
structure IdSupply where
  draw : Nat → TerminalId
  inexhaustible : ∀ (used : List TerminalId) (start : Nat),
    ∃ n, start ≤ n ∧ draw n ∉ used

namespace IdSupply

/-- A draw is followed by the next as long as it yields an identity in use. -/
private def Follows (supply : IdSupply) (used : List TerminalId) (next previous : Nat) : Prop :=
  next = previous + 1 ∧ supply.draw previous ∈ used

private theorem acc_of_unused (supply : IdSupply) (used : List TerminalId) (n : Nat)
    (unused : supply.draw n ∉ used) :
    ∀ distance, distance ≤ n → Acc (supply.Follows used) (n - distance) := by
  intro distance
  induction distance with
  | zero =>
      intro _
      refine Acc.intro _ ?_
      intro next follows
      exact absurd follows.2 unused
  | succ distance inductionHypothesis =>
      intro bound
      refine Acc.intro _ ?_
      intro next follows
      have nextEq : next = n - distance := by
        have := follows.1
        omega
      rw [nextEq]
      exact inductionHypothesis (by omega)

private theorem acc_follows (supply : IdSupply) (used : List TerminalId) (start : Nat) :
    Acc (supply.Follows used) start := by
  obtain ⟨n, later, unused⟩ := supply.inexhaustible used start
  have reached := acc_of_unused supply used n unused (n - start) (by omega)
  have startEq : n - (n - start) = start := by omega
  rwa [startEq] at reached

/-- A draw at which the search for an unused identity may arrive. -/
private structure Place (supply : IdSupply) (used : List TerminalId) where
  draws : Nat
  reachable : Acc (supply.Follows used) draws

private theorem acc_place {supply : IdSupply} {used : List TerminalId} (draws : Nat)
    (reachable : Acc (supply.Follows used) draws) :
    Acc (fun next previous : Place supply used => supply.Follows used next.draws previous.draws)
      ⟨draws, reachable⟩ := by
  induction reachable with
  | intro draws _ inductionHypothesis =>
      refine Acc.intro _ ?_
      intro next follows
      exact inductionHypothesis next.draws follows

private instance (supply : IdSupply) (used : List TerminalId) :
    WellFoundedRelation (Place supply used) where
  rel next previous := supply.Follows used next.draws previous.draws
  wf := ⟨fun place => acc_place place.draws place.reachable⟩

/-- Draws until the identity is unused. -/
private def search (supply : IdSupply) (used : List TerminalId) (place : Place supply used) :
    { n : Nat // supply.draw n ∉ used } :=
  if inUse : supply.draw place.draws ∈ used then
    search supply used ⟨place.draws + 1, place.reachable.inv ⟨rfl, inUse⟩⟩
  else ⟨place.draws, inUse⟩
termination_by place
decreasing_by exact ⟨rfl, inUse⟩

/-- The number of the first draw from `start` on that yields an unused
identity. -/
def firstUnused (supply : IdSupply) (used : List TerminalId) (start : Nat) : Nat :=
  supply.search used ⟨start, supply.acc_follows used start⟩

/-- The identity found is unused. -/
theorem draw_firstUnused_not_mem (supply : IdSupply) (used : List TerminalId) (start : Nat) :
    supply.draw (supply.firstUnused used start) ∉ used :=
  (supply.search used ⟨start, supply.acc_follows used start⟩).property

private theorem auxiliary_injective {first second : Nat}
    (same : TerminalId.auxiliary first = TerminalId.auxiliary second) : first = second := by
  have texts := congrArg TerminalId.text same
  have chars := congrArg String.toList texts
  simp only [TerminalId.auxiliary, String.toList_ofList, List.append_cancel_left_eq,
    Text.showNat] at chars
  have values := congrArg (fun digits => Nat.ofDigitChars 10 digits 0) chars
  simpa [Nat.ofDigitChars_toDigits] using values

/-- Only finitely many numbers belong to the identities of a list. -/
private theorem exists_unused (base : Nat) (used : List TerminalId) :
    ∃ n, base ≤ n ∧ TerminalId.auxiliary n ∉ used := by
  have bounded : ∃ bound, ∀ n, TerminalId.auxiliary n ∈ used → n < bound := by
    induction used with
    | nil => exact ⟨0, by simp⟩
    | cons id rest inductionHypothesis =>
        obtain ⟨bound, below⟩ := inductionHypothesis
        by_cases numbered : ∃ n, TerminalId.auxiliary n = id
        · obtain ⟨number, numberEq⟩ := numbered
          refine ⟨max bound (number + 1), ?_⟩
          intro n member
          rcases List.mem_cons.mp member with head | tail
          · have := auxiliary_injective (head.trans numberEq.symm)
            omega
          · have := below n tail
            omega
        · refine ⟨bound, ?_⟩
          intro n member
          rcases List.mem_cons.mp member with head | tail
          · exact absurd ⟨n, head⟩ numbered
          · exact below n tail
  obtain ⟨bound, below⟩ := bounded
  refine ⟨max base bound, by omega, ?_⟩
  intro member
  have := below _ member
  omega

/-- The auxiliary identities in the order of their numbers. -/
def counting (base : Nat) : IdSupply where
  draw n := TerminalId.auxiliary (base + n)
  inexhaustible used start := by
    obtain ⟨n, later, unused⟩ := exists_unused (base + start) used
    refine ⟨n - base, by omega, ?_⟩
    have sameNumber : base + (n - base) = n := by omega
    rwa [sameNumber]

/-- All of them are identities of auxiliary terminals. -/
theorem counting_isAuxiliary (base n : Nat) : ((counting base).draw n).isAuxiliary = true := by
  have digits : ∀ c ∈ Text.showNat (base + n), Text.isDecimalDigit c = true :=
    fun c member => Text.isDecimalDigit_of_isDigit (Text.isDigit_of_mem_showNat member)
  have some : Text.showNat (base + n) ≠ [] := by
    simp [Text.showNat, Nat.toDigits_ne_nil]
  simpa [TerminalId.isAuxiliary, counting, TerminalId.auxiliary, Text.stripPrefix?, some]
    using digits

end IdSupply

end RuntimeConsole
