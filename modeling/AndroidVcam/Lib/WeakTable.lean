import Mathlib

/-!
# Tables of mortal entries

A table holds its keys and values weakly: an entry is of use only while it is alive. A search drops
the dead entries that it passes and stops at the first live entry of its key.

* `Unambiguous`: no two live entries have the same key; searching keeps it, and so does an insertion
  after a search that found nothing;
* `search_eq_of_mem`: in an unambiguous table the search finds every live entry.
-/

namespace WeakTable

open List

variable {κ ν : Type} [DecidableEq κ] (alive : κ × ν → Bool) (key : κ)

/-- Search for a key, dropping dead entries on the way. -/
def search : List (κ × ν) → List (κ × ν) × Option ν
  | [] => ([], none)
  | entry :: entries =>
    if alive entry = false then search entries
    else if entry.1 = key then (entry :: entries, some entry.2)
    else
      let found := search entries
      (entry :: found.1, found.2)

def Unambiguous (entries : List (κ × ν)) : Prop :=
  entries.Pairwise fun e e' => alive e = true → alive e' = true → e.1 ≠ e'.1

variable {alive key} {entries : List (κ × ν)} {value : ν}

theorem search_sublist : (search alive key entries).1.Sublist entries := by
  induction entries with
  | nil => exact List.Sublist.slnil
  | cons entry entries ih =>
    rw [search]
    split_ifs
    · exact ih.cons entry
    · exact List.Sublist.refl _
    · exact ih.cons_cons entry

theorem mem_search {e : κ × ν} (h : e ∈ entries) (ha : alive e = true) :
    e ∈ (search alive key entries).1 := by
  induction entries with
  | nil => cases h
  | cons head entries ih =>
    rw [search]
    split_ifs with hd hkey
    · rcases mem_cons.mp h with rfl | h
      · rw [ha] at hd
        cases hd
      · exact ih h
    · exact h
    · exact mem_cons.mpr ((mem_cons.mp h).imp id ih)

theorem mem_of_search (h : (search alive key entries).2 = some value) :
    (key, value) ∈ entries ∧ alive (key, value) = true := by
  induction entries with
  | nil => cases h
  | cons entry entries ih =>
    rw [search] at h
    split_ifs at h with hd hkey
    · exact (ih h).imp_left (mem_cons_of_mem _)
    · obtain rfl := Option.some.inj h
      obtain rfl := hkey
      exact ⟨mem_cons_self, Bool.eq_true_of_not_eq_false hd⟩
    · exact (ih h).imp_left (mem_cons_of_mem _)

theorem search_eq_none_iff : (search alive key entries).2 = none ↔
    ∀ entry ∈ entries, alive entry = true → entry.1 ≠ key := by
  induction entries with
  | nil => exact ⟨fun _ => nofun, fun _ => rfl⟩
  | cons entry entries ih =>
    rw [search, forall_mem_cons]
    split_ifs with hd hkey
    · rw [ih]
      exact ⟨fun h => ⟨fun ha => absurd ha (by rw [hd]; exact Bool.false_ne_true), h⟩,
        fun h => h.2⟩
    · exact ⟨nofun, fun h => absurd hkey (h.1 (Bool.eq_true_of_not_eq_false hd))⟩
    · rw [ih]
      exact ⟨fun h => ⟨fun _ => hkey, h⟩, fun h => h.2⟩

variable (h : Unambiguous alive entries)

include h

theorem Unambiguous.search : Unambiguous alive (search alive key entries).1 :=
  List.Pairwise.sublist search_sublist h

/-- **A new entry for a key that was not found** keeps the table unambiguous. -/
theorem Unambiguous.insert (hn : (WeakTable.search alive key entries).2 = none) :
    Unambiguous alive ((WeakTable.search alive key entries).1 ++ [(key, value)]) := by
  refine pairwise_append.mpr ⟨h.search, pairwise_singleton _ _, ?_⟩
  intro e he e' he' ha _
  obtain rfl := mem_singleton.mp he'
  exact search_eq_none_iff.mp hn e (search_sublist.subset he) ha

omit [DecidableEq κ] in
theorem Unambiguous.mono {a' : κ × ν → Bool} (hm : ∀ e, a' e = true → alive e = true) :
    Unambiguous a' entries :=
  List.Pairwise.imp (fun hee' he he' => hee' (hm _ he) (hm _ he')) h

omit [DecidableEq κ] in
theorem Unambiguous.eq_of_mem {e e' : κ × ν} (he : e ∈ entries)
    (he' : e' ∈ entries) (ha : alive e = true) (ha' : alive e' = true)
    (hkey : e.1 = e'.1) : e = e' := by
  have hs : Std.Symm fun e e' : κ × ν => alive e = true → alive e' = true → e.1 ≠ e'.1 :=
    ⟨fun _ _ hee' he he' => (hee' he' he).symm⟩
  by_contra hne
  exact h.forall he he' hne ha ha' hkey

/-- **In an unambiguous table the search finds the live entry of its key.** -/
theorem search_eq_of_mem (hmem : (key, value) ∈ entries)
    (ha : alive (key, value) = true) : (search alive key entries).2 = some value := by
  cases hfo : (WeakTable.search alive key entries).2 with
  | none => exact absurd rfl (search_eq_none_iff.mp hfo _ hmem ha)
  | some found =>
    obtain ⟨hfm, hf⟩ := mem_of_search hfo
    have := h.eq_of_mem hfm hmem hf ha rfl
    rw [(Prod.mk.inj this).2]

/-- An unambiguous table has at most one live entry for a key. -/
theorem Unambiguous.countP_le_one (key : κ) :
    entries.countP (fun e => alive e && decide (e.1 = key)) ≤ 1 := by
  induction entries with
  | nil => exact Nat.zero_le 1
  | cons entry entries ih =>
    obtain ⟨hh, ht⟩ := pairwise_cons.mp h
    rw [countP_cons]
    split_ifs with hen
    · obtain ⟨ha, hkey⟩ := Bool.and_eq_true_iff.mp hen
      have hz : entries.countP (fun e => alive e && decide (e.1 = key)) = 0 := by
        refine countP_eq_zero.mpr fun e he hc => ?_
        obtain ⟨ha', hk'⟩ := Bool.and_eq_true_iff.mp hc
        exact hh e he ha ha' ((of_decide_eq_true hkey).trans (of_decide_eq_true hk').symm)
      omega
    · exact ih ht

end WeakTable
