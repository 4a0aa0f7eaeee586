/-
Module: RuntimeConsole.Geometry
Purpose: Positions on a screen and sizes of screens.
Main exports:
  Coordinate.add?, Coordinate.sub?, Coordinate.mul?, Position, Size
-/

namespace RuntimeConsole

namespace Coordinate

/-- A number as a coordinate, if it has sixteen bits. -/
def ofNat? (n : Nat) : Option UInt16 :=
  if n < 65536 then some (UInt16.ofNat n) else none

def add? (a b : UInt16) : Option UInt16 := ofNat? (a.toNat + b.toNat)

def mul? (a b : UInt16) : Option UInt16 := ofNat? (a.toNat * b.toNat)

def sub? (a b : UInt16) : Option UInt16 := if b ≤ a then some (a - b) else none

variable {a b : UInt16}

theorem add?_eq (a b : UInt16) :
    add? a b = if a.toNat + b.toNat < 65536 then some (a + b) else none := by
  rw [add?, ofNat?, UInt16.ofNat_add, UInt16.ofNat_toNat, UInt16.ofNat_toNat]

theorem eq_of_add? {sum : UInt16} (found : add? a b = some sum) : sum = a + b := by
  rw [add?_eq] at found
  split at found
  · exact (Option.some.inj found).symm
  · cases found

theorem mul?_eq (a b : UInt16) :
    mul? a b = if a.toNat * b.toNat < 65536 then some (a * b) else none := by
  rw [mul?, ofNat?, UInt16.ofNat_mul, UInt16.ofNat_toNat, UInt16.ofNat_toNat]

theorem sub?_eq (below : b ≤ a) : sub? a b = some (a - b) := if_pos below

/-- What is below a coordinate has a successor. -/
theorem add?_one (below : a < b) : add? a 1 = some (a + 1) := by
  have small := b.toNat_lt
  have below := UInt16.lt_iff_toNat_lt.mp below
  rw [add?_eq, if_pos]
  simp
  omega

end Coordinate

/-- A cell of a screen, counted from the top-left corner.  Coordinates are
sixteen bits wide, as they are in the terminal interface of the system. -/
structure Position where
  row : UInt16
  col : UInt16
deriving Repr, DecidableEq, Inhabited

/-- The number of rows and columns of a screen. -/
structure Size where
  rows : UInt16
  cols : UInt16
deriving Repr, DecidableEq, Inhabited

namespace Position

/-- The top-left corner. -/
def origin : Position := ⟨0, 0⟩

/-- Whether a position comes no later than another in reading order. -/
def precedes (first second : Position) : Bool :=
  first.row < second.row || (first.row == second.row && first.col ≤ second.col)

theorem precedes_iff {first second : Position} :
    first.precedes second = true ↔ first.row.toNat < second.row.toNat ∨
      first.row.toNat = second.row.toNat ∧ first.col.toNat ≤ second.col.toNat := by
  simp [precedes, UInt16.lt_iff_toNat_lt, UInt16.le_iff_toNat_le, ← UInt16.toNat_inj]

theorem precedes_of_not {first second : Position} (later : ¬ first.precedes second = true) :
    second.precedes first = true := by
  rw [precedes_iff] at later ⊢
  omega

end Position

namespace Size

/-- The size of a screen that was given none. -/
def standard : Size := ⟨24, 80⟩

/-- The size auxiliary shells start with. -/
def auxiliary : Size := ⟨30, 100⟩

end Size

end RuntimeConsole
