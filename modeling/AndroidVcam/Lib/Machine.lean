import Mathlib

/-!
# Machines and their histories

A machine takes an action in a state, moves to a state and emits events. Interleaving, failing
calls and crashes are choices of the action; a list of actions is one run.

* `run_history`: a property of the events so far and the state, kept by every step, holds after
  every run;
* `Along`, `run_history_along`: the same for runs whose steps all meet a condition;
* `trace`, **`trace_stops`**: infinite runs, and a measure by which they stop;
* `Separated`: between two events of one kind stands one of another kind, with the rule
  `Separated.snoc` by which a guard (`Open`) keeps it.
-/

namespace Machine

open List

variable {σ α ε : Type*} (step : σ → α → σ × List ε)

/-- The state after a list of actions and the events on the way. -/
def run (s : σ) : List α → σ × List ε
  | [] => (s, [])
  | a :: as =>
    let next := step s a
    let rest := run next.1 as
    (rest.1, next.2 ++ rest.2)

/-- Every step of the run meets a condition on its state and action. -/
def Along (A : σ → α → Prop) : σ → List α → Prop
  | _, [] => True
  | s, a :: as => A s a ∧ Along A (step s a).1 as

instance decidableAlong {A : σ → α → Prop} [∀ s a, Decidable (A s a)] :
    ∀ (s : σ) (as : List α), Decidable (Along step A s as)
  | _, [] => .isTrue trivial
  | s, a :: as =>
    let _ : Decidable (Along step A (step s a).1 as) := decidableAlong (step s a).1 as
    inferInstanceAs (Decidable (A s a ∧ Along step A (step s a).1 as))

/-- **A property of history and state that every step meeting `A` keeps** holds after every run
whose steps all meet it. -/
theorem run_history_along {A : σ → α → Prop} {P : List ε → σ → Prop}
    (hstep : ∀ h s a, P h s → A s a → P (h ++ (step s a).2) (step s a).1) :
    ∀ (as : List α) (h : List ε) (s : σ), Along step A s as → P h s →
      P (h ++ (run step s as).2) (run step s as).1 := by
  intro as
  induction as with
  | nil =>
    intro h s _ hs
    simpa [run] using hs
  | cons a as ih =>
    intro h s ha hs
    have hn := ih _ _ ha.2 (hstep h s a hs ha.1)
    simpa [run, append_assoc] using hn

/-- **A property of history and state that every step keeps holds after every run.** -/
theorem run_history {P : List ε → σ → Prop}
    (hstep : ∀ h s a, P h s → P (h ++ (step s a).2) (step s a).1) (as : List α) {h : List ε}
    {s : σ} (hs : P h s) : P (h ++ (run step s as).2) (run step s as).1 := by
  have ha : ∀ (as : List α) (s : σ), Along step (fun _ _ => True) s as := by
    intro as
    induction as with
    | nil => exact fun _ => trivial
    | cons a as ih => exact fun s => ⟨trivial, ih _⟩
  exact run_history_along step (fun h s a hs _ => hstep h s a hs) as h s (ha as s) hs

/-! ## Guarded events -/

section Guard

variable (P Q : ε → Prop)

/-- The history has a `P` event that no `Q` event follows. -/
def Open (h : List ε) : Prop := ∃ pre e post, h = pre ++ e :: post ∧ P e ∧ ∀ x ∈ post, ¬ Q x

/-- Between any two `P` events stands a `Q` event. -/
def Separated (h : List ε) : Prop :=
  ∀ pre a mid b post, h = pre ++ a :: (mid ++ b :: post) → P a → P b → ∃ x ∈ mid, Q x

variable {P Q}

theorem not_open_nil : ¬ Open P Q [] := by
  rintro ⟨pre, e, post, h, -⟩
  simp at h

theorem separated_nil : Separated P Q [] := by
  intro pre a mid b post h
  simp at h

theorem open_snoc {h : List ε} {e : ε} (ho : Open P Q (h ++ [e])) : P e ∨ ¬ Q e ∧ Open P Q h := by
  obtain ⟨pre, a, post, hh, ha, hp⟩ := ho
  rcases eq_nil_or_concat' post with rfl | ⟨post, z, rfl⟩
  · obtain ⟨-, rfl⟩ := append_inj' hh rfl |>.imp_right (List.cons.inj · |>.1)
    exact .inl ha
  · have hsp : h ++ [e] = (pre ++ a :: post) ++ [z] := by simpa using hh
    obtain ⟨rfl, he⟩ := append_inj' hsp rfl
    obtain rfl : e = z := (List.cons.inj he).1
    refine .inr ⟨hp _ (by simp), pre, a, post, rfl, ha, fun x hx => hp x (by simp [hx])⟩

/-- **An event may follow when it is not guarded or nothing is open.** -/
theorem Separated.snoc {h : List ε} {e : ε} (hs : Separated P Q h) (he : P e → ¬ Open P Q h) :
    Separated P Q (h ++ [e]) := by
  intro pre a mid b post hh ha hb
  rcases eq_nil_or_concat' post with rfl | ⟨post, z, rfl⟩
  · have hsp : h ++ [e] = (pre ++ a :: mid) ++ [b] := by simpa using hh
    obtain ⟨rfl, hb'⟩ := append_inj' hsp rfl
    obtain rfl : e = b := (List.cons.inj hb').1
    -- With no `Q` in the middle the first of the two would still be open.
    by_contra hmid
    push Not at hmid
    exact he hb ⟨pre, a, mid, rfl, ha, hmid⟩
  · have hsp : h ++ [e] = (pre ++ a :: (mid ++ b :: post)) ++ [z] := by simpa using hh
    obtain ⟨rfl, -⟩ := append_inj' hsp rfl
    exact hs pre a mid b post rfl ha hb

theorem Separated.countP_le_one [DecidablePred P] {h : List ε} (hs : Separated P Q h)
    (hQ : ∀ x ∈ h, ¬ Q x) : h.countP (fun e => P e) ≤ 1 := by
  induction h with
  | nil => simp
  | cons a t ih =>
    have ht : Separated P Q t := fun pre x mid y post he =>
      hs (a :: pre) x mid y post (by rw [he, cons_append])
    have hc := ih ht fun x hx => hQ x (mem_cons_of_mem _ hx)
    by_cases ha : P a
    · -- A second `P` event would have a `Q` event before it.
      have hn : ∀ b ∈ t, ¬ P b := by
        intro b hb hPb
        obtain ⟨mid, post, rfl⟩ := append_of_mem hb
        obtain ⟨x, hx, hQx⟩ := hs [] a mid b post rfl ha hPb
        exact hQ x (by simp [hx]) hQx
      have hz : t.countP (fun e => P e) = 0 :=
        countP_eq_zero.mpr fun b hb => by simpa using hn b hb
      simp [ha, hz]
    · simpa [ha] using hc

end Guard

/-! ## Infinite runs -/

section Trace

variable (next : σ → α → σ) (s : σ) (answers : ℕ → α)

/-- The states of a program whose `n`-th call gets the `n`-th answer. -/
def trace : ℕ → σ
  | 0 => s
  | n + 1 => next (trace n) (answers n)

variable {next s answers} {A : σ → α → Prop} {P : σ → Prop}
  (hanswers : ∀ n, A (trace next s answers n) (answers n)) (hs : P s)
  (hstep : ∀ s a, P s → A s a → P (next s a))

include hanswers hs hstep

theorem trace_invariant (n : ℕ) : P (trace next s answers n) := by
  induction n with
  | zero => exact hs
  | succ n ih => exact hstep _ _ ih (hanswers n)

/-- **A run with finitely many idle answers stops** when every other answer lowers a measure. -/
theorem trace_stops {idle : α → Prop} {stopped : σ → Prop} (m : σ → ℕ)
    (hi : {n | idle (answers n)}.Finite)
    (hl : ∀ s a, P s → A s a → ¬idle a → ¬stopped s → m (next s a) < m s) :
    ∃ n, stopped (trace next s answers n) := by
  obtain ⟨last, hla⟩ := hi.bddAbove
  by_contra hn
  push Not at hn
  -- Behind the last idle answer the measure falls with every step.
  have hf (k : ℕ) : m (trace next s answers (last + 1 + k)) + k ≤
      m (trace next s answers (last + 1)) := by
    induction k with
    | zero => exact le_rfl
    | succ k ih =>
      have hb : ¬idle (answers (last + 1 + k)) := fun h => by
        have := hla h
        omega
      have hle := hl _ _ (trace_invariant hanswers hs hstep (last + 1 + k))
        (hanswers (last + 1 + k)) hb (hn _)
      have hne : trace next s answers (last + 1 + (k + 1)) =
          next (trace next s answers (last + 1 + k)) (answers (last + 1 + k)) := rfl
      rw [hne]
      omega
  have := hf (m (trace next s answers (last + 1)) + 1)
  omega

end Trace

end Machine
