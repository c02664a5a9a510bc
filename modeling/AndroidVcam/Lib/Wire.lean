import Mathlib

/-!
# Wire formats

A message is a sequence of cells, and its fields are read one after the other through a cursor.
A `Decoder` reads one field. It uses a non-empty run of cells from the front and depends on these
cells only, so a field can be replaced in the middle of a message: what is read before the field
stays as it was (`readAt_take`), and a `Codec` reads back what it wrote (`readAt_write`).

`leBytes` and `leValue` are the little-endian bytes of a number, `beBytes` and `beValue` the
big-endian ones.
-/

abbrev Bytes := List UInt8

namespace Wire

open List

variable {β α : Type}

/-- A reader of one field. `read` gives the value and the number of cells used; `missed` is how
far a failed read moves the cursor. -/
structure Decoder (β α : Type) where
  read : List β → Option (α × ℕ)
  missed : List β → ℕ
  pos_of_read : ∀ {l a n}, read l = some (a, n) → 0 < n
  le_of_read : ∀ {l a n}, read l = some (a, n) → n ≤ l.length
  read_take : ∀ {l a n}, read l = some (a, n) → ∀ r, read (l.take n ++ r) = some (a, n)

namespace Decoder

variable (d : Decoder β α)

/-- Read the field at `pos`: the value, if there is one, and the cursor afterwards. -/
def readAt (cells : List β) (pos : ℕ) : Option α × ℕ :=
  match d.read (cells.drop pos) with
  | some (a, n) => (some a, pos + n)
  | none => (none, pos + d.missed (cells.drop pos))

variable {d} {cells : List β} {pos next k : ℕ} {a : α}

theorem read_of_readAt (h : d.readAt cells pos = (some a, next)) :
    ∃ n, d.read (cells.drop pos) = some (a, n) ∧ next = pos + n := by
  unfold readAt at h
  split at h
  · rename_i b n hr
    obtain ⟨rfl, rfl⟩ : b = a ∧ pos + n = next := by simpa using h
    exact ⟨n, hr, rfl⟩
  · simp at h

theorem lt_of_readAt (h : d.readAt cells pos = (some a, next)) : pos < next := by
  obtain ⟨n, hr, rfl⟩ := read_of_readAt h
  have := d.pos_of_read hr
  omega

theorem le_length_of_readAt (h : d.readAt cells pos = (some a, next)) : next ≤ cells.length := by
  obtain ⟨n, hr, rfl⟩ := read_of_readAt h
  have h₁ := d.le_of_read hr
  have h₂ := d.pos_of_read hr
  rw [length_drop] at h₁
  omega

/-- **A field keeps its value when the cells after it are replaced.** -/
theorem readAt_take (h : d.readAt cells pos = (some a, next)) (hk : next ≤ k) (r : List β) :
    d.readAt (cells.take k ++ r) pos = (some a, next) := by
  have hlen := le_length_of_readAt h
  obtain ⟨n, hr, rfl⟩ := read_of_readAt h
  have hn := d.le_of_read hr
  rw [length_drop] at hn
  have hd : (cells.take k ++ r).drop pos =
      (cells.drop pos).take n ++ (((cells.drop pos).take (k - pos)).drop n ++ r) := by
    have hp : pos ≤ (cells.take k).length := by rw [length_take]; omega
    have hs : (cells.drop pos).take (k - pos) =
        (cells.drop pos).take n ++ ((cells.drop pos).take (k - pos)).drop n := by
      conv_lhs => rw [← take_append_drop n ((cells.drop pos).take (k - pos))]
      rw [take_take, Nat.min_eq_left (by omega)]
    rw [drop_append_of_le_length hp, drop_take, ← append_assoc, ← hs]
  have hre := d.read_take hr (((cells.drop pos).take (k - pos)).drop n ++ r)
  rw [← hd] at hre
  simp only [readAt, hre]

/-- The field, with its value passed on through `f`. -/
def map {α' : Type} (d : Decoder β α) (f : α → α') : Decoder β α' where
  read := fun l => (d.read l).map fun p => (f p.1, p.2)
  missed := d.missed
  pos_of_read := fun h => by
    obtain ⟨p, hp, h⟩ := Option.map_eq_some_iff.mp h
    obtain ⟨-, rfl⟩ := Prod.mk.inj h
    exact d.pos_of_read hp
  le_of_read := fun h => by
    obtain ⟨p, hp, h⟩ := Option.map_eq_some_iff.mp h
    obtain ⟨-, rfl⟩ := Prod.mk.inj h
    exact d.le_of_read hp
  read_take := fun h r => by
    obtain ⟨p, hp, h⟩ := Option.map_eq_some_iff.mp h
    obtain ⟨rfl, rfl⟩ := Prod.mk.inj h
    rw [d.read_take hp, Option.map_some]

end Decoder

structure Codec (β α : Type) extends Decoder β α where
  Writable : α → Prop
  write : α → List β
  read_write : ∀ {a}, Writable a → ∀ r, read (write a ++ r) = some (a, (write a).length)

namespace Codec

variable {c : Codec β α} {a : α}

/-- **A written field is read back**, wherever it stands. -/
theorem readAt_write (ha : c.Writable a) (l r : List β) :
    c.readAt (l ++ (c.write a ++ r)) l.length = (some a, l.length + (c.write a).length) := by
  unfold Decoder.readAt
  rw [drop_left, c.read_write ha]

theorem read_write_self (ha : c.Writable a) : c.read (c.write a) = some (a, (c.write a).length) := by
  have h := c.read_write ha []
  rwa [append_nil] at h

/-- The same field, for another representation of its values. -/
def congr {α' : Type} (c : Codec β α) (e : α ≃ α') : Codec β α' where
  toDecoder := c.toDecoder.map e
  Writable := fun a => c.Writable (e.symm a)
  write := fun a => c.write (e.symm a)
  read_write := fun {a} ha r => by
    change (c.read (c.write (e.symm a) ++ r)).map _ = _
    rw [c.read_write ha r, Option.map_some, Equiv.apply_symm_apply]

end Codec

/-! ## Little-endian numbers -/

/-- The `w` low bytes of `n`, least significant first. -/
def leBytes : ℕ → ℕ → Bytes
  | 0, _ => []
  | w + 1, n => (n % 256).toUInt8 :: leBytes w (n / 256)

def leValue : Bytes → ℕ
  | [] => 0
  | b :: bs => b.toNat + 256 * leValue bs

@[simp] theorem length_leBytes (w n : ℕ) : (leBytes w n).length = w := by
  induction w generalizing n with
  | zero => rfl
  | succ w ih => rw [leBytes, length_cons, ih]

theorem leValue_leBytes {w n : ℕ} (h : n < 256 ^ w) : leValue (leBytes w n) = n := by
  induction w generalizing n with
  | zero =>
    rw [pow_zero] at h
    change 0 = n
    omega
  | succ w ih =>
    have hdiv : n / 256 < 256 ^ w := Nat.div_lt_of_lt_mul (by rw [pow_succ'] at h; exact h)
    have hb : (n % 256).toUInt8.toNat = n % 256 := by
      rw [Nat.toUInt8, UInt8.toNat_ofNat']
      omega
    rw [leBytes, leValue, ih hdiv, hb]
    omega

theorem leValue_lt (bs : Bytes) : leValue bs < 256 ^ bs.length := by
  induction bs with
  | nil => exact Nat.one_pos
  | cons b bs ih =>
    have hb : b.toNat < 256 := b.toNat_lt
    rw [leValue, length_cons, pow_succ]
    omega

theorem leBytes_leValue (bs : Bytes) : leBytes bs.length (leValue bs) = bs := by
  induction bs with
  | nil => rfl
  | cons b bs ih =>
    have hb : b.toNat < 256 := b.toNat_lt
    have hmod : (b.toNat + 256 * leValue bs) % 256 = b.toNat := by omega
    have hdiv : (b.toNat + 256 * leValue bs) / 256 = leValue bs := by omega
    rw [length_cons, leValue, leBytes, hmod, hdiv, ih]
    simp

theorem leValue_eq_iff {w n : ℕ} {bs : Bytes} (hlen : bs.length = w) (h : n < 256 ^ w) :
    leValue bs = n ↔ bs = leBytes w n := by
  constructor
  · rintro rfl
    rw [← hlen, leBytes_leValue]
  · rintro rfl
    exact leValue_leBytes h

/-! ## Big-endian numbers -/

/-- The `w` low bytes of `n`, most significant first. -/
def beBytes (w n : ℕ) : Bytes := (leBytes w n).reverse

def beValue (bs : Bytes) : ℕ := leValue bs.reverse

@[simp] theorem length_beBytes (w n : ℕ) : (beBytes w n).length = w := by
  rw [beBytes, length_reverse, length_leBytes]

theorem beValue_beBytes {w n : ℕ} (h : n < 256 ^ w) : beValue (beBytes w n) = n := by
  rw [beValue, beBytes, reverse_reverse, leValue_leBytes h]

theorem beBytes_beValue {w : ℕ} {bs : Bytes} (h : bs.length = w) :
    beBytes w (beValue bs) = bs := by
  have hr := leBytes_leValue bs.reverse
  rw [length_reverse, h] at hr
  rw [beBytes, beValue, hr, reverse_reverse]

theorem leValue_append (as bs : Bytes) :
    leValue (as ++ bs) = leValue as + 256 ^ as.length * leValue bs := by
  induction as with
  | nil => simp [leValue]
  | cons a as ih =>
    rw [cons_append, leValue, leValue, ih, length_cons, pow_succ]
    ring

theorem beValue_append (as bs : Bytes) :
    beValue (as ++ bs) = beValue as * 256 ^ bs.length + beValue bs := by
  rw [beValue, reverse_append, leValue_append, length_reverse, beValue, beValue]
  ring

end Wire
