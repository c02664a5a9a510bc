import Mathlib

/-!
# Computations that leave a trace

`Traced ε α` is a computation that emits events and ends with a value or stops without one. `Emits`
is its rule of postconditions: every event has a property, and so has the value.
-/

/-- Events in order and the value, `none` when the computation stopped. -/
structure Traced (ε α : Type) where
  result : Option α
  events : List ε

namespace Traced

variable {ε α β : Type}

instance : Monad (Traced ε) where
  pure a := ⟨some a, []⟩
  bind m f :=
    match m.result with
    | none => ⟨none, m.events⟩
    | some a => ⟨(f a).result, m.events ++ (f a).events⟩

def emit (events : List ε) : Traced ε Unit := ⟨some (), events⟩

def stop : Traced ε α := ⟨none, []⟩

def require (p : Prop) [Decidable p] : Traced ε Unit := if p then pure () else stop

theorem result_bind (m : Traced ε α) (f : α → Traced ε β) :
    (m >>= f).result = m.result.bind fun a => (f a).result := by
  change (match m.result with
    | none => (⟨none, m.events⟩ : Traced ε β)
    | some a => ⟨(f a).result, m.events ++ (f a).events⟩).result = _
  cases m.result <;> rfl

variable {m : Traced ε α}

theorem bind_eq_some {f : α → Traced ε β} {b : β} :
    (m >>= f).result = some b ↔ ∃ a, m.result = some a ∧ (f a).result = some b := by
  rw [result_bind, Option.bind_eq_some_iff]

theorem mem_events_bind {f : α → Traced ε β} {e : ε} :
    e ∈ (m >>= f).events ↔ e ∈ m.events ∨ ∃ a, m.result = some a ∧ e ∈ (f a).events := by
  change e ∈ (match m.result with
    | none => (⟨none, m.events⟩ : Traced ε β)
    | some a => ⟨(f a).result, m.events ++ (f a).events⟩).events ↔ _
  cases m.result <;> simp

theorem bind_of_some {f : α → Traced ε β} {a : α} (h : m.result = some a) :
    m >>= f = ⟨(f a).result, m.events ++ (f a).events⟩ := by
  change (match m.result with
    | none => (⟨none, m.events⟩ : Traced ε β)
    | some a => ⟨(f a).result, m.events ++ (f a).events⟩) = _
  rw [h]

theorem events_bind_of_some {f : α → Traced ε β} {a : α} (h : m.result = some a) :
    (m >>= f).events = m.events ++ (f a).events := by rw [bind_of_some h]

theorem bind_eq_none {f : α → Traced ε β} :
    (m >>= f).result = none ↔ m.result = none ∨ ∃ a, m.result = some a ∧ (f a).result = none := by
  rw [result_bind]
  cases m.result <;> simp

@[simp] theorem result_pure (a : α) : (pure a : Traced ε α).result = some a := rfl

@[simp] theorem events_pure (a : α) : (pure a : Traced ε α).events = [] := rfl

@[simp] theorem result_emit (e : List ε) : (emit e).result = some () := rfl

@[simp] theorem events_emit (events : List ε) : (emit events).events = events := rfl

@[simp] theorem events_require (p : Prop) [Decidable p] :
    (require p : Traced ε Unit).events = [] := by
  unfold require
  split_ifs <;> rfl

theorem result_require (p : Prop) [Decidable p] :
    (require p : Traced ε Unit).result = if p then some () else none := by
  unfold require
  split_ifs <;> rfl

/-- Every event has `P`, and the value, when there is one, has `Q`. -/
structure Emits (P : ε → Prop) (Q : α → Prop) (m : Traced ε α) : Prop where
  events : ∀ e ∈ m.events, P e
  result : ∀ a, m.result = some a → Q a

variable {P : ε → Prop} {Q : α → Prop} {R : β → Prop}

theorem emits_pure {a : α} (h : Q a) : Emits P Q (pure a) where
  events := by simp
  result := by
    rintro b hb
    obtain rfl : a = b := by simpa using hb
    exact h

theorem emits_stop : Emits P Q (stop : Traced ε α) := ⟨nofun, nofun⟩

theorem emits_emit {events : List ε} (h : ∀ e ∈ events, P e) :
    Emits P (fun _ => True) (emit events) where
  events := h
  result := fun _ _ => trivial

theorem emits_require (p : Prop) [Decidable p] :
    Emits P (fun _ => p) (require p : Traced ε Unit) where
  events := by simp
  result := by
    intro _ h
    rw [result_require] at h
    by_contra hp
    simp [hp] at h

/-- **A sequence emits what its parts emit.** -/
theorem Emits.bind {f : α → Traced ε β} (hm : Emits P Q m)
    (hf : ∀ a, Q a → Emits P R (f a)) : Emits P R (m >>= f) where
  events := by
    intro e he
    rcases mem_events_bind.mp he with he | ⟨a, ha, he⟩
    · exact hm.events e he
    · exact (hf a (hm.result a ha)).events e he
  result := by
    intro b hb
    rw [result_bind] at hb
    obtain ⟨a, ha, hb⟩ := Option.bind_eq_some_iff.mp hb
    exact (hf a (hm.result a ha)).result b hb

end Traced
