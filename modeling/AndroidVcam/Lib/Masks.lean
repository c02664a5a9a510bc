import Mathlib

/-!
# Bit masks as sets

A word of flags denotes the set of the positions of its ones. The bitwise operations are the set
operations on it, and comparing masks is comparing the sets.

* `members_injective`: a mask is determined by its set;
* `and_eq_zero_iff`, `and_eq_right_iff`: the two tests of flags that programs make.
-/

namespace Masks

variable {w : ℕ}

def members (mask : BitVec w) : Set ℕ := {i | mask.getLsbD i = true}

theorem members_injective : Function.Injective (members : BitVec w → Set ℕ) := by
  intro a b h
  refine BitVec.eq_of_getLsbD_eq fun i _ => ?_
  exact Bool.eq_iff_iff.mpr (Set.ext_iff.mp h i)

@[simp]
theorem members_zero : members (0 : BitVec w) = ∅ := by
  ext i
  simp [members]

@[simp]
theorem members_or (a b : BitVec w) : members (a ||| b) = members a ∪ members b := by
  ext i
  simp [members]

@[simp]
theorem members_and (a b : BitVec w) : members (a &&& b) = members a ∩ members b := by
  ext i
  simp [members]

theorem and_eq_zero_iff (a b : BitVec w) :
    a &&& b = 0 ↔ ∀ i ∈ members b, i ∉ members a := by
  rw [← members_injective.eq_iff, members_and, members_zero, Set.inter_comm,
    ← Set.disjoint_iff_inter_eq_empty, Set.disjoint_left]

theorem and_eq_right_iff (a b : BitVec w) : a &&& b = b ↔ ∀ i ∈ members b, i ∈ members a := by
  rw [← members_injective.eq_iff, members_and, Set.inter_eq_right]
  rfl

end Masks
