import Mathlib.Tactic.Common

/-!
# The range of an `int`

Models compute with unbounded integers; `IsInt` says of a number that a signed
32-bit variable can hold it.  A sum of two such numbers is exact unless it
leaves the range.
-/

/-- The values of a signed 32-bit integer. -/
def IsInt (x : Int) : Prop := -2147483648 ≤ x ∧ x ≤ 2147483647

instance (x : Int) : Decidable (IsInt x) := inferInstanceAs (Decidable (_ ∧ _))

namespace IsInt

theorem zero : IsInt 0 := by decide

/-- A sum with a non-negative part can only be too large. -/
theorem add_iff {x y : Int} (hx : 0 ≤ x) (hy : IsInt y) : IsInt (x + y) ↔ x + y ≤ 2147483647 := by
  unfold IsInt at *
  constructor
  · intro h
    exact h.2
  · intro h
    exact ⟨by omega, h⟩

end IsInt
