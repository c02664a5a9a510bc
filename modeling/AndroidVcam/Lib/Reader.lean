import AndroidVcam.Lib.Wire

/-!
# Readers of several fields

A `Reader` takes the fields of a message one after the other. It may ask for its position, and like
a `Decoder` it depends only on the cells that it takes. Readers form a monad, so a function that
reads through a cursor is written as it stands in a program.

`p.Reads base x a` says that `p`, standing at position `base`, takes exactly the cells `x` and
gives `a`. Every reader has one rule for it: `reads_pure`, `reads_bind`, `reads_require`,
`reads_given`, `reads_position`, `reads_field`, `reads_times_succ`. A reader that does not ask for
its position reads the same `Anywhere`.
-/

namespace Wire

open List Option

variable {β α γ : Type}

/-- A reader of several fields. `run base l` reads the cells `l` that stand at position `base`, and
gives the value and the number of cells used. -/
structure Reader (β α : Type) where
  run : ℕ → List β → Option (α × ℕ)
  le_of_run : ∀ {base l a n}, run base l = some (a, n) → n ≤ l.length
  run_take : ∀ {base l a n}, run base l = some (a, n) → ∀ r,
    run base (l.take n ++ r) = some (a, n)

namespace Reader

/-- The reader takes exactly the cells `x`. -/
def Reads (p : Reader β α) (base : ℕ) (x : List β) (a : α) : Prop :=
  p.run base x = some (a, x.length)

variable {p : Reader β α} {base : ℕ} {x r l : List β} {a : α} {n : ℕ}

theorem run_append_iff : p.run base (x ++ r) = some (a, x.length) ↔ p.Reads base x a := by
  constructor
  · intro h
    have ht := p.run_take h []
    rwa [append_nil, take_left] at ht
  · intro h
    have ht := p.run_take h r
    rwa [take_length] at ht

theorem run_eq_some_iff :
    p.run base l = some (a, n) ↔ ∃ x r, l = x ++ r ∧ x.length = n ∧ p.Reads base x a := by
  constructor
  · intro h
    have hlen : (l.take n).length = n := length_take_of_le (p.le_of_run h)
    refine ⟨l.take n, l.drop n, (take_append_drop n l).symm, hlen, ?_⟩
    have ht := p.run_take h []
    rw [append_nil] at ht
    exact ht.trans (by rw [hlen])
  · rintro ⟨x, r, rfl, rfl, h⟩
    exact run_append_iff.mpr h

theorem Reads.unique {a' : α} (h : p.Reads base x a) (h' : p.Reads base x a') : a = a' :=
  (Prod.mk.inj (some.inj (h.symm.trans h'))).1

/-! ## Readers built from readers -/

protected def pure (a : α) : Reader β α where
  run := fun _ _ => some (a, 0)
  le_of_run := fun h => by
    obtain ⟨-, rfl⟩ := Prod.mk.inj (some.inj h)
    exact Nat.zero_le _
  run_take := fun h _ => h

/-- Read with `p`, then from there on with the reader for its value. -/
protected def bind (p : Reader β α) (f : α → Reader β γ) : Reader β γ where
  run := fun base l => (p.run base l).bind fun (a, n) =>
    ((f a).run (base + n) (l.drop n)).map fun (c, m) => (c, n + m)
  le_of_run := fun h => by
    obtain ⟨⟨a, n⟩, ha, h⟩ := bind_eq_some_iff.mp h
    obtain ⟨⟨c, m⟩, hc, h⟩ := map_eq_some_iff.mp h
    obtain ⟨-, rfl⟩ := Prod.mk.inj h
    have h₁ := p.le_of_run ha
    have h₂ := (f a).le_of_run hc
    rw [length_drop] at h₂
    omega
  run_take := fun {base l _ _} h r => by
    obtain ⟨⟨a, n⟩, ha, h⟩ := bind_eq_some_iff.mp h
    obtain ⟨⟨c, m⟩, hc, h⟩ := map_eq_some_iff.mp h
    obtain ⟨rfl, rfl⟩ := Prod.mk.inj h
    have hlen : (l.take n).length = n := length_take_of_le (p.le_of_run ha)
    have hsplit : l.take (n + m) ++ r = l.take n ++ ((l.drop n).take m ++ r) := by
      rw [take_add, append_assoc]
    have hrest : (l.take n ++ ((l.drop n).take m ++ r)).drop n = (l.drop n).take m ++ r :=
      drop_left' hlen
    dsimp only
    rw [hsplit, p.run_take ha, bind_some, hrest, (f a).run_take hc, map_some]

instance : Monad (Reader β) where
  pure := Reader.pure
  bind := Reader.bind

/-- Go on when `c` holds. -/
def require (c : Prop) [Decidable c] : Reader β Unit where
  run := fun _ _ => if c then some ((), 0) else none
  le_of_run := fun h => by
    split_ifs at h
    obtain ⟨-, rfl⟩ := Prod.mk.inj (some.inj h)
    exact Nat.zero_le _
  run_take := fun h _ => h

def given (o : Option α) : Reader β α where
  run := fun _ _ => o.map fun a => (a, 0)
  le_of_run := fun h => by
    obtain ⟨b, -, h⟩ := map_eq_some_iff.mp h
    obtain ⟨-, rfl⟩ := Prod.mk.inj h
    exact Nat.zero_le _
  run_take := fun h _ => h

def position : Reader β ℕ where
  run := fun base _ => some (base, 0)
  le_of_run := fun h => by
    obtain ⟨-, rfl⟩ := Prod.mk.inj (some.inj h)
    exact Nat.zero_le _
  run_take := fun h _ => h

def field (d : Decoder β α) : Reader β α where
  run := fun _ l => d.read l
  le_of_run := d.le_of_read
  run_take := d.read_take

def times (p : Reader β α) : ℕ → Reader β (List α)
  | 0 => pure []
  | n + 1 => do
    let a ← p
    let as ← times p n
    pure (a :: as)

/-! ## What they read -/

@[simp] theorem reads_pure {b : α} : (pure b : Reader β α).Reads base x a ↔ x = [] ∧ b = a := by
  change some (b, 0) = some (a, x.length) ↔ _
  rw [some.injEq, Prod.mk.injEq, eq_comm (a := 0), length_eq_zero_iff, and_comm]

/-- **Readers read one after the other.** -/
theorem reads_bind {f : α → Reader β γ} {c : γ} : (p >>= f).Reads base l c ↔
    ∃ a x y, l = x ++ y ∧ p.Reads base x a ∧ (f a).Reads (base + x.length) y c := by
  constructor
  · intro h
    obtain ⟨⟨a, n⟩, ha, h⟩ := bind_eq_some_iff.mp h
    obtain ⟨⟨c', m⟩, hc, h⟩ := map_eq_some_iff.mp h
    obtain ⟨rfl, hm⟩ := Prod.mk.inj h
    obtain ⟨x, y, rfl, rfl, hx⟩ := run_eq_some_iff.mp ha
    refine ⟨a, x, y, rfl, hx, ?_⟩
    rw [drop_left] at hc
    rw [length_append, Nat.add_left_cancel_iff] at hm
    exact hc.trans (by rw [hm])
  · rintro ⟨a, x, y, rfl, hx, hy⟩
    change ((p.run base (x ++ y)).bind _) = _
    rw [run_append_iff.mpr hx, bind_some]
    dsimp only
    rw [drop_left, hy, map_some, length_append]

@[simp] theorem reads_require {c : Prop} [Decidable c] {u : Unit} :
    (require c : Reader β Unit).Reads base x u ↔ x = [] ∧ c := by
  unfold Reads require
  by_cases hc : c
  · simp [hc, eq_comm (a := 0)]
  · simp [hc]

@[simp] theorem reads_given {o : Option α} :
    (given o : Reader β α).Reads base x a ↔ x = [] ∧ o = some a := by
  cases o with
  | none => simp [Reads, given]
  | some b => exact reads_pure.trans (by rw [some.injEq])

@[simp] theorem reads_position {m : ℕ} :
    (position : Reader β ℕ).Reads base x m ↔ x = [] ∧ base = m := by
  change some (base, 0) = some (m, x.length) ↔ _
  rw [some.injEq, Prod.mk.injEq, eq_comm (a := 0), length_eq_zero_iff, and_comm]

theorem reads_write {c : Codec β α} (ha : c.Writable a) :
    (field c.toDecoder).Reads base (c.write a) a :=
  Codec.read_write_self ha

theorem reads_field_bind {d : Decoder β α} {f : α → Reader β γ} {c : γ} :
    (field d >>= f).Reads base l c ↔ ∃ a x y, l = x ++ y ∧ d.read x = some (a, x.length) ∧
      (f a).Reads (base + x.length) y c := reads_bind

theorem reads_write_bind {c : Codec β α} {f : α → Reader β γ} {b : γ} (ha : c.Writable a)
    (h : (f a).Reads (base + (c.write a).length) l b) :
    (field c.toDecoder >>= f).Reads base (c.write a ++ l) b :=
  reads_field_bind.mpr ⟨a, c.write a, l, rfl, Codec.read_write_self ha, h⟩

theorem reads_write_last {c : Codec β α} {f : α → Reader β γ} {b : γ} (ha : c.Writable a)
    (h : (f a).Reads (base + (c.write a).length) [] b) :
    (field c.toDecoder >>= f).Reads base (c.write a) b :=
  reads_field_bind.mpr ⟨a, c.write a, [], (append_nil _).symm, Codec.read_write_self ha, h⟩

theorem not_reads_field_bind_nil {d : Decoder β α} {f : α → Reader β γ} {c : γ} :
    ¬ (field d >>= f).Reads base [] c := by
  intro h
  obtain ⟨a, x, y, hxy, hx, -⟩ := reads_field_bind.mp h
  obtain ⟨rfl, -⟩ := append_eq_nil_iff.mp hxy.symm
  exact absurd (d.pos_of_read hx) (lt_irrefl 0)

theorem reads_require_bind {c : Prop} [Decidable c] {q : Reader β γ} {b : γ} :
    (require c >>= fun _ => q).Reads base l b ↔ c ∧ q.Reads base l b := by
  rw [reads_bind]
  constructor
  · rintro ⟨u, x, y, rfl, hx, hy⟩
    obtain ⟨rfl, hc⟩ := reads_require.mp hx
    exact ⟨hc, hy⟩
  · rintro ⟨hc, h⟩
    exact ⟨(), [], l, rfl, reads_require.mpr ⟨rfl, hc⟩, h⟩

theorem reads_given_bind {o : Option α} {f : α → Reader β γ} {b : γ} :
    (given o >>= f).Reads base l b ↔ ∃ a, o = some a ∧ (f a).Reads base l b := by
  rw [reads_bind]
  constructor
  · rintro ⟨a, x, y, rfl, hx, hy⟩
    obtain ⟨rfl, ho⟩ := reads_given.mp hx
    exact ⟨a, ho, hy⟩
  · rintro ⟨a, ho, h⟩
    exact ⟨a, [], l, rfl, reads_given.mpr ⟨rfl, ho⟩, h⟩

theorem reads_position_bind {f : ℕ → Reader β γ} {b : γ} :
    (position >>= f).Reads base l b ↔ (f base).Reads base l b := by
  rw [reads_bind]
  constructor
  · rintro ⟨m, x, y, rfl, hx, hy⟩
    obtain ⟨rfl, rfl⟩ := reads_position.mp hx
    exact hy
  · exact fun h => ⟨base, [], l, rfl, reads_position.mpr ⟨rfl, rfl⟩, h⟩

variable {as : List α}

@[simp] theorem reads_times_zero : (p.times 0).Reads base x as ↔ x = [] ∧ [] = as :=
  reads_pure

theorem reads_times_succ : (p.times (n + 1)).Reads base l as ↔
    ∃ a as' x y, l = x ++ y ∧ as = a :: as' ∧ p.Reads base x a ∧
      (p.times n).Reads (base + x.length) y as' := by
  rw [times, reads_bind]
  constructor
  · rintro ⟨a, x, w, rfl, hx, hw⟩
    obtain ⟨as', y, z, rfl, hy, hz⟩ := reads_bind.mp hw
    obtain ⟨rfl, rfl⟩ := reads_pure.mp hz
    exact ⟨a, as', x, y, by rw [append_nil], rfl, hx, hy⟩
  · rintro ⟨a, as', x, y, rfl, rfl, hx, hy⟩
    exact ⟨a, x, y, rfl, hx, reads_bind.mpr ⟨as', y, [], (append_nil y).symm, hy,
      reads_pure.mpr ⟨rfl, rfl⟩⟩⟩

theorem length_of_reads_times (h : (p.times n).Reads base x as) : as.length = n := by
  induction n generalizing base x as with
  | zero =>
    obtain ⟨-, rfl⟩ := reads_times_zero.mp h
    rfl
  | succ n ih =>
    obtain ⟨a, as', y, z, -, rfl, -, hz⟩ := reads_times_succ.mp h
    rw [length_cons, ih hz]

theorem forall_of_reads_times {P : α → Prop} (h : (p.times n).Reads base x as)
    (hp : ∀ {base x a}, p.Reads base x a → P a) : ∀ a ∈ as, P a := by
  induction n generalizing base x as with
  | zero =>
    obtain ⟨-, rfl⟩ := reads_times_zero.mp h
    nofun
  | succ n ih =>
    obtain ⟨a, as', y, z, -, rfl, hy, hz⟩ := reads_times_succ.mp h
    exact forall_mem_cons.mpr ⟨hp hy, ih hz⟩

/-- **A written list is read back.** -/
theorem reads_times_flatMap {w : α → List β} (h : ∀ a ∈ as, ∀ base, p.Reads base (w a) a) :
    (p.times as.length).Reads base (as.flatMap w) as := by
  induction as generalizing base with
  | nil => exact reads_times_zero.mpr ⟨rfl, rfl⟩
  | cons a as ih =>
    obtain ⟨ha, has⟩ := forall_mem_cons.mp h
    exact reads_times_succ.mpr ⟨a, as, w a, as.flatMap w, flatMap_cons, rfl, ha base,
      ih has⟩

theorem reads_times_map {q : Reader β γ} {f : α → γ} (h : (p.times n).Reads base x as)
    (hp : ∀ {base x a}, p.Reads base x a → q.Reads base x (f a)) :
    (q.times n).Reads base x (as.map f) := by
  induction n generalizing base x as with
  | zero =>
    obtain ⟨rfl, rfl⟩ := reads_times_zero.mp h
    exact reads_times_zero.mpr ⟨rfl, rfl⟩
  | succ n ih =>
    obtain ⟨a, as', y, z, rfl, rfl, hy, hz⟩ := reads_times_succ.mp h
    exact reads_times_succ.mpr ⟨f a, as'.map f, y, z, rfl, rfl, hp hy, ih hz⟩

/-! ## Reading a whole message -/

/-- The value of a message that the reader takes to its end. -/
def runAll (p : Reader β α) (l : List β) : Option α :=
  match p.run 0 l with
  | some (a, n) => if n = l.length then some a else none
  | none => none

theorem runAll_eq_some_iff : p.runAll l = some a ↔ p.Reads 0 l a := by
  unfold runAll Reads
  constructor
  · intro h
    split at h
    · rename_i b n hrun
      split_ifs at h with hn
      rw [hrun, hn, some.inj h]
    · cases h
  · intro h
    rw [h]
    exact if_pos rfl

/-! ## A reader as one field -/

/-- A reader that always takes a cell reads one field, at the beginning of a message. -/
def decoder (p : Reader β α) (hp : ∀ {a : α}, ¬ p.Reads 0 [] a) : Decoder β α where
  read := p.run 0
  missed := fun _ => 0
  pos_of_read := fun {_ a n} h => by
    obtain ⟨x, r, -, rfl, hx⟩ := run_eq_some_iff.mp h
    refine length_pos_iff.mpr ?_
    rintro rfl
    exact hp hx
  le_of_read := p.le_of_run
  read_take := p.run_take

/-! ## Readers that do not ask for their position -/

/-- The reader gives the same wherever it stands. -/
class Anywhere (p : Reader β α) : Prop where
  reads : ∀ {base base' : ℕ} {x : List β} {a : α}, p.Reads base x a → p.Reads base' x a

instance (a : α) : (pure a : Reader β α).Anywhere := ⟨fun h => h⟩

instance (c : Prop) [Decidable c] : (require c : Reader β Unit).Anywhere := ⟨fun h => h⟩

instance (d : Decoder β α) : (field d).Anywhere := ⟨fun h => h⟩

instance (p : Reader β α) (f : α → Reader β γ) [hp : p.Anywhere] [hf : ∀ a, (f a).Anywhere] :
    (p >>= f).Anywhere where
  reads := fun h => by
    obtain ⟨a, x, y, rfl, hx, hy⟩ := reads_bind.mp h
    exact reads_bind.mpr ⟨a, x, y, rfl, hp.reads hx, (hf a).reads hy⟩

instance (c : Prop) [Decidable c] (p q : Reader β α) [p.Anywhere] [q.Anywhere] :
    (if c then p else q).Anywhere := by
  split_ifs <;> infer_instance

instance (p : Reader β α) [p.Anywhere] (n : ℕ) : (p.times n).Anywhere := by
  induction n with
  | zero => exact inferInstanceAs (pure [] : Reader β (List α)).Anywhere
  | succ n ih =>
    unfold times
    infer_instance

end Reader

end Wire
