import Mathlib

/-!
# Messages with marked fields

A message in which some fields are marked: gaps and fields in turn, and a tail. Every field can be
replaced by the same cells, and the gaps stay.

* `Marked`, `cells`, `marks`, `replace`; `join` puts two messages together, and everything above is
  compatible with it (`cells_join`, `marks_join`, `replace_join`);
* `exists_join_of_outside`: a position that is not inside a field cuts the message in two;
* `replace_eq_self`, `replace_replace`: replacing twice.
-/

namespace Splice

open List

variable {β : Type}

/-- A message with marked fields: each field stands behind its gap. -/
structure Marked (β : Type) where
  pieces : List (List β × List β)
  tail : List β

namespace Marked

def body : List (List β × List β) → List β
  | [] => []
  | (gap, field) :: pieces => gap ++ (field ++ body pieces)

def cells (m : Marked β) : List β := body m.pieces ++ m.tail

/-- Where the fields of `pieces` begin and end, when the first gap stands at `base`. -/
def bounds : ℕ → List (List β × List β) → List (ℕ × ℕ)
  | _, [] => []
  | base, (gap, field) :: pieces =>
    (base + gap.length, base + gap.length + field.length) ::
      bounds (base + gap.length + field.length) pieces

/-- Where the fields begin and end, when the message stands at `base`. -/
def marks (m : Marked β) (base : ℕ) : List (ℕ × ℕ) := bounds base m.pieces

def fields (m : Marked β) : List (List β) := m.pieces.map Prod.snd

def replace (m : Marked β) (r : List β) : Marked β :=
  ⟨m.pieces.map fun piece => (piece.1, r), m.tail⟩

def plain (l : List β) : Marked β := ⟨[], l⟩

def cons (l : List β) : Marked β → Marked β
  | ⟨[], tail⟩ => ⟨[], l ++ tail⟩
  | ⟨(gap, field) :: pieces, tail⟩ => ⟨(l ++ gap, field) :: pieces, tail⟩

def join (m₁ m₂ : Marked β) : Marked β :=
  ⟨m₁.pieces ++ (m₂.cons m₁.tail).pieces, (m₂.cons m₁.tail).tail⟩

variable {m m₁ m₂ : Marked β} {l r : List β} {pieces : List (List β × List β)}

@[simp] theorem cells_plain : (plain l).cells = l := rfl

@[simp] theorem marks_plain {base : ℕ} : (plain l).marks base = [] := rfl

@[simp] theorem fields_plain : (plain l).fields = [] := rfl

@[simp] theorem replace_plain : (plain l).replace r = plain l := rfl

theorem body_append (p pieces' : List (List β × List β)) :
    body (p ++ pieces') = body p ++ body pieces' := by
  induction p with
  | nil => rfl
  | cons piece p ih => simp [body, ih]

theorem bounds_append (base : ℕ) (p pieces' : List (List β × List β)) :
    bounds base (p ++ pieces') =
      bounds base p ++ bounds (base + (body p).length) pieces' := by
  induction p generalizing base with
  | nil => rfl
  | cons piece p ih => simp [body, bounds, ih, Nat.add_assoc]

@[simp] theorem cells_cons (m : Marked β) : (m.cons l).cells = l ++ m.cells := by
  rcases m with ⟨_ | ⟨piece, pieces⟩, tail⟩ <;> simp [cons, cells, body]

theorem bounds_cons (m : Marked β) (base : ℕ) :
    (m.cons l).marks base = m.marks (base + l.length) := by
  rcases m with ⟨_ | ⟨piece, pieces⟩, tail⟩ <;> simp [cons, marks, bounds, Nat.add_assoc]

@[simp] theorem fields_cons (m : Marked β) : (m.cons l).fields = m.fields := by
  rcases m with ⟨_ | ⟨piece, pieces⟩, tail⟩ <;> simp [cons, fields]

theorem replace_cons (m : Marked β) : (m.cons l).replace r = (m.replace r).cons l := by
  rcases m with ⟨_ | ⟨piece, pieces⟩, tail⟩ <;> simp [cons, replace]

@[simp] theorem cells_join : (m₁.join m₂).cells = m₁.cells ++ m₂.cells := by
  have h := cells_cons (l := m₁.tail) m₂
  unfold cells at h ⊢
  rw [join, body_append, append_assoc, h, append_assoc]

@[simp] theorem marks_join (base : ℕ) :
    (m₁.join m₂).marks base = m₁.marks base ++ m₂.marks (base + m₁.cells.length) := by
  have h := bounds_cons (l := m₁.tail) m₂ (base + (body m₁.pieces).length)
  unfold marks at h ⊢
  rw [join, bounds_append, h, cells, length_append, Nat.add_assoc]

@[simp] theorem fields_join : (m₁.join m₂).fields = m₁.fields ++ m₂.fields := by
  have h := fields_cons (l := m₁.tail) m₂
  unfold fields at h ⊢
  rw [join, map_append, h]

@[simp] theorem replace_join : (m₁.join m₂).replace r = (m₁.replace r).join (m₂.replace r) := by
  have h := replace_cons (l := m₁.tail) (r := r) m₂
  simp only [replace, join, map_append] at h ⊢
  rw [← h]

/-! ## Replacing -/

@[simp] theorem replace_replace {r' : List β} : (m.replace r).replace r' = m.replace r' := by
  simp [replace]

theorem replace_eq_self (h : ∀ field ∈ m.fields, field = r) : m.replace r = m := by
  rcases m with ⟨pieces, tail⟩
  have hp : pieces.map (fun piece => (piece.1, r)) = pieces := by
    conv_rhs => rw [← map_id pieces]
    refine map_congr_left fun piece hpi => ?_
    rw [← h piece.2 (mem_map_of_mem hpi), id]
  rw [replace, hp]

theorem forall_fields_replace {P : List β → Prop} (h : P r) : ∀ s ∈ (m.replace r).fields, P s := by
  intro s hs
  obtain ⟨piece, hp, rfl⟩ := mem_map.mp hs
  obtain ⟨piece', -, rfl⟩ := mem_map.mp hp
  exact h

theorem length_marks (base : ℕ) : (m.marks base).length = m.pieces.length := by
  rcases m with ⟨pieces, tail⟩
  induction pieces generalizing base with
  | nil => rfl
  | cons piece pieces ih => exact congrArg Nat.succ (ih _)

theorem length_marks_replace (base base' : ℕ) :
    ((m.replace r).marks base').length = (m.marks base).length := by
  rw [length_marks, length_marks, replace, length_map]

def Outside (bounds : List (ℕ × ℕ)) (position : ℕ) : Prop :=
  ∀ b ∈ bounds, ¬ (b.1 < position ∧ position < b.2)

/-- **A position that is not inside a field cuts the message in two.** -/
theorem exists_join_of_outside {base position : ℕ} (hle : base ≤ position)
    (hpos : position ≤ base + m.cells.length) (hout : Outside (m.marks base) position) :
    ∃ before after : Marked β, m = before.join after ∧ position = base + before.cells.length := by
  rcases m with ⟨pieces, tail⟩
  induction pieces generalizing base with
  | nil =>
    have hlen : position - base ≤ tail.length := by
      simp only [cells, body, nil_append] at hpos
      omega
    refine ⟨plain (tail.take (position - base)), plain (tail.drop (position - base)), ?_, ?_⟩
    · simp [join, plain, cons]
    · rw [cells_plain, length_take_of_le hlen]
      omega
  | cons piece pieces ih =>
    obtain ⟨gap, field⟩ := piece
    obtain ⟨hh, hr⟩ := forall_mem_cons.mp hout
    by_cases hgap : position ≤ base + gap.length
    · have hlen : position - base ≤ gap.length := by omega
      refine ⟨plain (gap.take (position - base)),
        ⟨(gap.drop (position - base), field) :: pieces, tail⟩, ?_, ?_⟩
      · simp [join, plain, cons]
      · rw [cells_plain, length_take_of_le hlen]
        omega
    · have hlen : (⟨(gap, field) :: pieces, tail⟩ : Marked β).cells.length =
          gap.length + field.length + (⟨pieces, tail⟩ : Marked β).cells.length := by
        simp only [cells, body, length_append]
        omega
      dsimp only at hh
      have hr : Outside (bounds (base + gap.length + field.length) pieces) position := hr
      obtain ⟨before, after, hj, hp⟩ := ih (by omega) (by omega) hr
      refine ⟨⟨(gap, field) :: before.pieces, before.tail⟩, after, ?_, ?_⟩
      · rw [join, Marked.mk.injEq] at hj
        rw [join, cons_append, ← hj.1, ← hj.2]
      · simp only [cells, body, length_append] at hp ⊢
        omega

end Marked

end Splice
