import Mathlib

/-!
# Merging by key

A list is extended by those entries of another list whose keys it does not have yet.

* `merge_merge`: merging twice is merging once;
* **`mem_merge_iff`**: an addition is there unless its key was taken by another entry.
-/

namespace Keyed

open List

variable {α κ : Type*} [DecidableEq κ] {key : α → κ} {entries additions : List α} {a b : α}

def add (key : α → κ) (entries : List α) (a : α) : List α :=
  if entries.any (key · == key a) then entries else entries ++ [a]

def merge (key : α → κ) (entries additions : List α) : List α := additions.foldl (add key) entries

theorem any_key : entries.any (key · == key a) = true ↔ key a ∈ entries.map key := by
  simp only [any_eq_true, beq_iff_eq, mem_map]

theorem add_of_mem (h : key a ∈ entries.map key) : add key entries a = entries :=
  if_pos (any_key.mpr h)

theorem add_of_notMem (h : key a ∉ entries.map key) : add key entries a = entries ++ [a] :=
  if_neg (any_key.not.mpr h)

theorem prefix_merge (e additions : List α) : e <+: merge key e additions := by
  induction additions generalizing e with
  | nil => exact prefix_rfl
  | cons a additions ih =>
    refine List.IsPrefix.trans ?_ (ih (add key e a))
    rw [add]
    split_ifs
    · exact prefix_rfl
    · exact prefix_append _ _

theorem mem_or_mem_of_mem_merge (h : a ∈ merge key entries additions) :
    a ∈ entries ∨ a ∈ additions := by
  induction additions generalizing entries with
  | nil => exact .inl h
  | cons b additions ih =>
    rcases ih h with hm | hm
    · rw [add] at hm
      split_ifs at hm
      · exact .inl hm
      · rcases mem_append.mp hm with hm | hm
        · exact .inl hm
        · exact .inr (mem_singleton.mp hm ▸ mem_cons_self)
    · exact .inr (mem_cons_of_mem _ hm)

theorem key_mem_merge (h : a ∈ additions) : key a ∈ (merge key entries additions).map key := by
  induction additions generalizing entries with
  | nil => cases h
  | cons b additions ih =>
    rcases mem_cons.mp h with rfl | h
    · refine ((prefix_merge (add key entries a) additions).map key).subset ?_
      by_cases hk : key a ∈ entries.map key
      · rwa [add_of_mem hk]
      · rw [add_of_notMem hk, map_append]
        exact mem_append_right _ mem_cons_self
    · exact ih h

theorem merge_of_keys (h : ∀ a ∈ additions, key a ∈ entries.map key) :
    merge key entries additions = entries := by
  induction additions with
  | nil => rfl
  | cons a additions ih =>
    obtain ⟨ha, hr⟩ := forall_mem_cons.mp h
    rw [merge, foldl_cons, add_of_mem ha]
    exact ih hr

theorem merge_merge : merge key (merge key entries additions) additions = merge key entries additions :=
  merge_of_keys fun _ h => key_mem_merge h

/-- **An addition is there unless its key was taken by another entry.** -/
theorem mem_merge_iff (hn : (additions.map key).Nodup) (h : a ∈ additions) :
    a ∈ merge key entries additions ↔ (key a ∈ entries.map key → a ∈ entries) := by
  constructor
  · intro hm hk
    induction additions generalizing entries with
    | nil => cases h
    | cons b additions ih =>
      rw [map_cons, nodup_cons] at hn
      rcases mem_cons.mp h with rfl | h
      · rw [merge, foldl_cons, add_of_mem hk] at hm
        exact (mem_or_mem_of_mem_merge hm).resolve_right fun hr => hn.1 (mem_map_of_mem hr)
      · have hb : a ∈ add key entries b := ih hn.2 h hm <| by
          rw [add]
          split_ifs
          · exact hk
          · rw [map_append]
            exact mem_append_left _ hk
        rw [add] at hb
        split_ifs at hb
        · exact hb
        · refine (mem_append.mp hb).resolve_right fun hr => hn.1 ?_
          rw [← mem_singleton.mp hr]
          exact mem_map_of_mem h
  · intro hk
    by_cases he : a ∈ entries
    · exact (prefix_merge entries additions).subset he
    · -- The entry with the key of `a` is an addition, and that is `a`.
      have hm : key a ∈ (merge key entries additions).map key := key_mem_merge h
      obtain ⟨c, hc, hk'⟩ := mem_map.mp hm
      rcases mem_or_mem_of_mem_merge hc with hc' | hc'
      · exact absurd (hk (hk' ▸ mem_map_of_mem hc')) he
      · rwa [inj_on_of_nodup_map hn hc' h hk'] at hc

end Keyed
