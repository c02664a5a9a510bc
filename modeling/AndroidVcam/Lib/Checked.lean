import Mathlib

/-!
# Checked arithmetic and buffers

Computations on machine integers and buffers in which every overflow, division by zero and access
outside a buffer is a failure. A computation that returns a value has had none of them.

* **`foldlM_range`**: a counted loop whose body keeps an invariant returns.
-/

namespace Checked

open List

/-! ## Integers -/

def unsigned (width n : ℕ) : Option ℕ := if n < 2 ^ width then some n else none

def signed (width : ℕ) (v : ℤ) : Option ℤ :=
  if -2 ^ (width - 1) ≤ v ∧ v < 2 ^ (width - 1) then some v else none

def sum (width : ℕ) (terms : List ℤ) : Option ℤ :=
  terms.foldlM (fun total term => do signed width (total + (← signed width term))) 0

def quotient (a b : ℕ) : Option ℕ := if b = 0 then none else some (a / b)

variable {width : ℕ}

theorem unsigned_of_lt {n : ℕ} (h : n < 2 ^ width) : unsigned width n = some n := if_pos h

theorem signed_of_natAbs {v : ℤ} (h : v.natAbs < 2 ^ (width - 1)) : signed width v = some v := by
  have hc : ((2 ^ (width - 1) : ℕ) : ℤ) = 2 ^ (width - 1) := by push_cast; rfl
  exact if_pos ⟨by omega, by omega⟩

theorem quotient_of_pos {a b : ℕ} (h : 0 < b) : quotient a b = some (a / b) := if_neg h.ne'

/-- A sum whose terms are small in total does not overflow on the way. -/
theorem sum_of_bound {t : List ℤ} (h : (t.map Int.natAbs).sum < 2 ^ (width - 1)) :
    sum width t = some t.sum := by
  have hfr : ∀ total : ℤ, total.natAbs + (t.map Int.natAbs).sum < 2 ^ (width - 1) →
      t.foldlM (fun total term => do signed width (total + (← signed width term))) total =
        some (total + t.sum) := by
    clear h
    induction t with
    | nil =>
      intro total _
      simp
    | cons term t ih =>
      intro total h
      rw [map_cons, sum_cons] at h
      have habs := Int.natAbs_add_le total term
      have hf : (do signed width (total + (← signed width term))) = some (total + term) := by
        rw [signed_of_natAbs (by omega)]
        exact signed_of_natAbs (by omega)
      rw [foldlM_cons, hf, sum_cons, ← add_assoc]
      exact ih (total + term) (by omega)
  have hs := hfr 0 (by simpa using h)
  rwa [zero_add] at hs

/-! ## Buffers -/

variable {α : Type*}

/-- `count` cells of a buffer. -/
def copy (buffer : List α) (offset count : ℕ) : Option (List α) :=
  if offset + count ≤ buffer.length then some ((buffer.drop offset).take count) else none

def store (buffer : List α) (offset : ℕ) (cells : List α) : Option (List α) :=
  if offset + cells.length ≤ buffer.length then
    some (buffer.take offset ++ (cells ++ buffer.drop (offset + cells.length)))
  else none

theorem store_append {done rest cells : List α} (h : cells.length ≤ rest.length) :
    store (done ++ rest) done.length cells = some ((done ++ cells) ++ rest.drop cells.length) := by
  rw [store, if_pos (by rw [length_append]; omega), take_left, ← drop_drop,
    drop_left, append_assoc]

theorem copy_three {buffer : List α} {o : ℕ} {a b c : α} (ha : buffer[o]? = some a)
    (hb : buffer[o + 1]? = some b) (hc : buffer[o + 2]? = some c) :
    copy buffer o 3 = some [a, b, c] := by
  obtain ⟨hla, rfl⟩ := List.getElem?_eq_some_iff.mp ha
  obtain ⟨hlb, rfl⟩ := List.getElem?_eq_some_iff.mp hb
  obtain ⟨hlc, rfl⟩ := List.getElem?_eq_some_iff.mp hc
  rw [copy, if_pos (by omega), drop_eq_getElem_cons hla, drop_eq_getElem_cons hlb,
    drop_eq_getElem_cons hlc]
  rfl

/-! ## Rows -/

theorem grid_lt {width height row column : ℕ} (hc : column < width) (hrow : row < height) :
    row * width + column < width * height := by
  calc row * width + column < row * width + width := Nat.add_lt_add_left hc _
    _ = (row + 1) * width := (Nat.succ_mul row width).symm
    _ ≤ height * width := Nat.mul_le_mul_right width hrow
    _ = width * height := Nat.mul_comm height width

section Rows

variable {row : ℕ → List α} {size rows r c : ℕ} (hsize : ∀ k < rows, (row k).length = size)

include hsize

theorem length_rows : ((range rows).flatMap row).length = rows * size := by
  induction rows with
  | zero => simp
  | succ rows ih =>
    rw [range_succ, flatMap_append, length_append,
      ih fun k hk => hsize k (by omega), flatMap_singleton, hsize rows (by omega), Nat.succ_mul]

theorem getElem?_rows (hr : r < rows) (hc : c < size) :
    ((range rows).flatMap row)[r * size + c]? = (row r)[c]? := by
  induction rows with
  | zero => omega
  | succ rows ih =>
    have hb : ∀ k < rows, (row k).length = size := fun k hk => hsize k (by omega)
    have hl := length_rows hb
    rw [range_succ, flatMap_append, flatMap_singleton]
    by_cases hla : r = rows
    · subst hla
      rw [getElem?_append_right (by omega), hl, Nat.add_sub_cancel_left]
    · have hi := grid_lt hc (show r < rows by omega)
      rw [Nat.mul_comm size rows] at hi
      rw [getElem?_append_left (by omega)]
      exact ih hb (by omega)

end Rows

/-! ## Loops -/

/-- **A counted loop whose body keeps an invariant returns**, and the invariant holds at its end. -/
theorem foldlM_range {β : Type*} {body : β → ℕ → Option β} {Inv : ℕ → β → Prop} {n : ℕ} {s : β}
    (hs : Inv 0 s)
    (hb : ∀ k < n, ∀ b, Inv k b → ∃ b', body b k = some b' ∧ Inv (k + 1) b') :
    ∃ b, (range n).foldlM body s = some b ∧ Inv n b := by
  induction n with
  | zero => exact ⟨s, rfl, hs⟩
  | succ n ih =>
    obtain ⟨b, hrun, hinv⟩ := ih fun k hk => hb k (by omega)
    obtain ⟨b', hl, hi'⟩ := hb n (by omega) b hinv
    refine ⟨b', ?_, hi'⟩
    rw [range_succ, foldlM_append, hrun, Option.bind_eq_bind, Option.bind_some,
      foldlM_cons, hl, Option.bind_eq_bind, Option.bind_some, foldlM_nil]
    rfl

theorem mapM_of_forall {β : Type*} {f : α → Option β} {g : α → β} {l : List α}
    (h : ∀ a ∈ l, f a = some (g a)) : l.mapM f = some (l.map g) := by
  induction l with
  | nil => rfl
  | cons a l ih =>
    obtain ⟨hf, hr⟩ := forall_mem_cons.mp h
    rw [mapM_cons, hf, ih hr]
    rfl

end Checked
