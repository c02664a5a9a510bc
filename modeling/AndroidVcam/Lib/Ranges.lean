import Mathlib

/-!
# Searching and sorting ranges

The algorithms of the C++ library on the elements of a range. How `std::sort` orders elements that
compare equal is not fixed, so a sorting function is any `Sorter`.

* `lowerBound`, `binarySearch`: the halving search, **`binarySearch_iff`** on sorted ranges.
-/

namespace Ranges

open List

/-! ## Sorting -/

/-- A function that sorts by `lt`. -/
structure Sorter {α : Type} (lt : α → α → Prop) where
  sort : List α → List α
  perm : ∀ values, (sort values).Perm values
  sorted : ∀ values, (sort values).Pairwise fun a b => ¬ lt b a

theorem Sorter.length_sort {α : Type} {lt : α → α → Prop} (s : Sorter lt) (v : List α) :
    (s.sort v).length = v.length := (s.perm v).length_eq

variable {α : Type} [LinearOrder α]

theorem Sorter.pairwise_le (s : Sorter ((· < ·) : α → α → Prop)) (v : List α) :
    (s.sort v).Pairwise (· ≤ ·) := (s.sorted v).imp not_lt.mp

variable {values : List α}

theorem Sorter.pairwise_lt (s : Sorter ((· < ·) : α → α → Prop))
    (h : values.Nodup) : (s.sort values).Pairwise (· < ·) := by
  have hn := (s.perm values).nodup_iff.mpr h
  exact ((s.pairwise_le values).and hn).imp fun ⟨hle, hne⟩ => lt_of_le_of_ne hle hne

/-! ## Searching -/

/-- `std::lower_bound` on the part of length `size` from `first` on. -/
def lowerBound (values : List α) (x : α) (first size : ℕ) : ℕ :=
  if _ : size = 0 then first
  else
    match values[first + size / 2]? with
    | some middle =>
      if middle < x then lowerBound values x (first + size / 2 + 1) (size - size / 2 - 1)
      else lowerBound values x first (size / 2)
    | none => first
termination_by size

def binarySearch (values : List α) (x : α) : Bool :=
  match values[lowerBound values x 0 values.length]? with
  | some found => decide (¬ x < found)
  | none => false

/-- The bound separates the smaller values from the others. -/
theorem lowerBound_spec {x : α} (hs : values.Pairwise (· ≤ ·)) {f size : ℕ}
    (hsi : f + size ≤ values.length) (hb : ∀ i < f, ∀ v, values[i]? = some v → v < x)
    (ha : ∀ i, f + size ≤ i → ∀ v, values[i]? = some v → x ≤ v) :
    (∀ i < lowerBound values x f size, ∀ v, values[i]? = some v → v < x) ∧
      ∀ i, lowerBound values x f size ≤ i → ∀ v, values[i]? = some v → x ≤ v := by
  have hmo {i j : ℕ} {v w : α} (hij : i ≤ j) (hv : values[i]? = some v) (hw : values[j]? = some w) :
      v ≤ w := by
    obtain rfl | hlt := hij.eq_or_lt
    · exact (Option.some.inj (hv.symm.trans hw)).le
    · obtain ⟨hi, rfl⟩ := List.getElem?_eq_some_iff.mp hv
      obtain ⟨hj, rfl⟩ := List.getElem?_eq_some_iff.mp hw
      exact pairwise_iff_getElem.mp hs i j hi hj hlt
  fun_induction lowerBound values x f size with
  | case1 f => exact ⟨hb, ha⟩
  | case2 f size hne middle hm hlt ih =>
    refine ih (by omega) (fun i hi v hv => ?_) (fun i hi v hv => ha i (by omega) v hv)
    exact (hmo (by omega) hv hm).trans_lt hlt
  | case3 f size hne middle hm hge ih =>
    refine ih (by omega) hb fun i hi v hv => ?_
    exact (not_lt.mp hge).trans (hmo hi hm hv)
  | case4 f size hne hn =>
    have := getElem?_eq_none_iff.mp hn
    omega

/-- **Searching a sorted range finds what is in it.** -/
theorem binarySearch_iff (hs : values.Pairwise (· ≤ ·)) (x : α) :
    binarySearch values x = true ↔ x ∈ values := by
  have hend (i : ℕ) (hi : 0 + values.length ≤ i) (v : α) (hv : values[i]? = some v) : x ≤ v := by
    have := (List.getElem?_eq_some_iff.mp hv).1
    omega
  obtain ⟨hb, ha⟩ := lowerBound_spec hs (zero_add _).le nofun hend
  unfold binarySearch
  rw [mem_iff_getElem?]
  constructor
  · intro h
    split at h
    · rename_i found hf
      have heq : found = x := le_antisymm (by simpa using h) (ha _ le_rfl found hf)
      exact ⟨_, heq ▸ hf⟩
    · cases h
  · rintro ⟨i, hi⟩
    have hle : lowerBound values x 0 values.length ≤ i :=
      not_lt.mp fun hlt => (hb i hlt x hi).false
    -- The bound is not above `i`, and the values in between are sorted.
    obtain ⟨hl, rfl⟩ := List.getElem?_eq_some_iff.mp hi
    rw [getElem?_eq_getElem (hle.trans_lt hl)]
    obtain heq | hlt := hle.eq_or_lt
    · simp [heq]
    · simpa using pairwise_iff_getElem.mp hs _ _ (hle.trans_lt hl) hl hlt

/-- Two neighbours are equal, `std::adjacent_find`. -/
def adjacentEqual : List α → Bool
  | a :: b :: rest => decide (a = b) || adjacentEqual (b :: rest)
  | _ => false

theorem pairwise_lt_of_not_adjacentEqual (hso : values.Pairwise (· ≤ ·))
    (h : adjacentEqual values = false) : values.Pairwise (· < ·) := by
  refine isChain_iff_pairwise.mp ?_
  fun_induction adjacentEqual values with
  | case1 a b rest ih =>
    obtain ⟨hle, hr⟩ := pairwise_cons.mp hso
    simp only [Bool.or_eq_false_iff, decide_eq_false_iff_not] at h
    exact .cons_cons (lt_of_le_of_ne (hle b mem_cons_self) h.1) (ih hr h.2)
  | case2 values hs =>
    match values, hs with
    | [], _ => exact .nil
    | [a], _ => exact .singleton a
    | a :: b :: rest, hs => exact absurd rfl (hs a b rest)

theorem adjacentEqual_of_pairwise_lt (h : values.Pairwise (· < ·)) :
    adjacentEqual values = false := by
  fun_induction adjacentEqual values with
  | case1 a b rest ih =>
    obtain ⟨hlt, hr⟩ := pairwise_cons.mp h
    rw [ih hr, decide_eq_false (hlt b mem_cons_self).ne, Bool.or_false]
  | case2 => rfl

end Ranges
