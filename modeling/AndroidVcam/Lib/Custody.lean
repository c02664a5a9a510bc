import AndroidVcam.Lib.Dialogue

/-!
# Custody

Items are handed over, used and released; an item is known by its number, which says how many were
handed over before it. A holder keeps a set of items and has to release each of them once.

* `Deed`, `handed`, `released`, `Sound`: no item is used or released before it is handed over or
  after it is released;
* `Held`: the items that are out are those of a set, with a rule for each deed;
* **`Held.released_eq_one`**: an item that is not held any more was released exactly once.
-/

namespace Custody

open Dialogue

inductive Deed
  | handOver
  | use (item : ℕ)
  | release (item : ℕ)
  | other
deriving DecidableEq

def Deed.On (item : ℕ) : Deed → Prop
  | use n => n = item
  | release n => n = item
  | _ => False

def handed (deeds : List Deed) : ℕ := deeds.count .handOver

def released (item : ℕ) (deeds : List Deed) : ℕ := deeds.count (.release item)

/-- What is done to an item is done between its handing over and its release. -/
def Sound (deeds : List Deed) : Prop :=
  Throughout (fun before deed _ => ∀ item, deed.On item →
    item < handed before ∧ released item before = 0) deeds

/-- The deeds keep to their items, and exactly those of the set are out. -/
structure Held (items : Set ℕ) (deeds : List Deed) : Prop where
  sound : Sound deeds
  out_iff : ∀ item, item ∈ items ↔ item < handed deeds ∧ released item deeds = 0
  known : ∀ item, released item deeds ≠ 0 → item < handed deeds
  once : ∀ item, released item deeds ≤ 1

variable {i : Set ℕ} {deeds : List Deed} {item : ℕ}

theorem held_nil : Held ∅ [] where
  sound := throughout_nil
  out_iff item := by simp [handed]
  known item := by simp [released]
  once item := by simp [released]

theorem sound_concat {deed : Deed} (h : Sound deeds)
    (hd : ∀ item, deed.On item → item < handed deeds ∧ released item deeds = 0) :
    Sound (deeds ++ [deed]) := by
  refine throughout_append.mpr ⟨h, throughout_cons.mpr ⟨?_, throughout_nil⟩⟩
  rw [List.append_nil]
  exact hd

theorem Held.concat {deed : Deed} (h : Held i deeds)
    (hd : ∀ item, deed.On item → item < handed deeds ∧ released item deeds = 0)
    (hh : handed (deeds ++ [deed]) = handed deeds)
    (hr : ∀ item, released item (deeds ++ [deed]) = released item deeds) :
    Held i (deeds ++ [deed]) where
  sound := sound_concat h.sound hd
  out_iff item := by rw [hh, hr, h.out_iff]
  known item := by
    rw [hh, hr]
    exact h.known item
  once item := (hr item).trans_le (h.once item)

namespace Held

theorem other (h : Held i deeds) : Held i (deeds ++ [.other]) :=
  h.concat (fun _ hon => hon.elim) (by simp [handed]) fun item => by simp [released]

theorem use (h : Held i deeds) (hi : item ∈ i) : Held i (deeds ++ [.use item]) :=
  h.concat (fun _ hon => hon ▸ (h.out_iff item).mp hi) (by simp [handed])
    fun item => by simp [released]

theorem handOver (h : Held i deeds) :
    Held (insert (handed deeds) i) (deeds ++ [.handOver]) := by
  have hh : handed (deeds ++ [.handOver]) = handed deeds + 1 := by simp [handed]
  have hr : ∀ item, released item (deeds ++ [.handOver]) = released item deeds := by
    intro item
    simp [released]
  refine ⟨sound_concat h.sound fun _ hon => hon.elim, fun item => ?_, fun item => ?_, fun item => ?_⟩
  · rw [Set.mem_insert_iff, h.out_iff, hh, hr]
    have hk := h.known item
    omega
  · rw [hh, hr]
    have hk := h.known item
    omega
  · exact (hr item).trans_le (h.once item)

theorem release (h : Held i deeds) (hi : item ∈ i) :
    Held (i \ {item}) (deeds ++ [.release item]) := by
  have hout := (h.out_iff item).mp hi
  have hh : handed (deeds ++ [.release item]) = handed deeds := by simp [handed]
  have hr : ∀ other, released other (deeds ++ [.release item]) =
      released other deeds + if other = item then 1 else 0 := by
    intro other
    rw [released, List.count_append, List.count_singleton]
    simp only [released, beq_iff_eq, Deed.release.injEq, eq_comm (b := other)]
  refine ⟨sound_concat h.sound fun _ hon => hon ▸ hout, fun other => ?_, fun other => ?_,
    fun other => ?_⟩
  · rw [Set.mem_sdiff_singleton, h.out_iff, hh, hr]
    split_ifs with heq
    · simp [heq]
    · simp [heq]
  · rw [hh, hr]
    split_ifs with heq
    · exact fun _ => heq ▸ hout.1
    · exact h.known other
  · rw [hr]
    split_ifs with heq
    · rw [heq, hout.2]
    · exact h.once other

/-- **An item that is not out any more was released exactly once.** -/
theorem released_eq_one (h : Held i deeds) (hh : item < handed deeds)
    (hi : item ∉ i) : released item deeds = 1 := by
  have hne : released item deeds ≠ 0 := fun h0 => hi ((h.out_iff item).mpr ⟨hh, h0⟩)
  have ho := h.once item
  omega

end Held

end Custody
