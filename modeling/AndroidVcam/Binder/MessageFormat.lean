import AndroidVcam.Binder.AndroidFormat
import AndroidVcam.Lib.Reader

/-!
# The wire format of replies and capture requests

The fields that libbinder adds to `ParcelFormat` in the replies of the camera service and in the
requests of an opened device.

* `MessageFormat`: optional strings and binders, string vectors, blobs and the service status, with
  the laws that the filters rest on;
* `androidMessages`: the format of Android 14, without reply headers in front of a status and with
  blobs that are written in place.
-/

namespace Vcam

open TextFile Wire List Reader AndroidFormat Option

/-- The wire format of libbinder, with the fields of replies and capture requests. -/
structure MessageFormat (β ι : Type) extends ParcelFormat β ι where
  /-- `readString16` into an optional; the null string is `none`. -/
  nullableString16 : Decoder β (Option (List Char16))
  string16Vector : Codec β (List (List Char16))
  /-- `readUtf8FromUtf16` into an optional: whether there is a string. -/
  hasUtf8FromUtf16 : Decoder β Bool
  nullableStrongBinder : Decoder β (Option ι)
  /-- `readBlob` of a size. -/
  blob : ℕ → Decoder β Unit
  /-- `Status::readFromParcel`: whether the status is OK, and the cells used. It can look at more
  cells than it uses, when a reply header gives its own size as too small. -/
  readStatus : List β → Option (Bool × ℕ)
  /-- The cells of `Status::writeToParcel` for an OK status. -/
  okStatus : List β
  /-- The padding of a string is zeros. -/
  ZeroPadded : List β → Prop
  nullableString16_iff : ∀ {l s n},
    nullableString16.read l = some (some s, n) ↔ string16.read l = some (s, n)
  string16_of_read : ∀ {l s n}, string16.read l = some (s, n) → string16.Writable s
  string16Vector_of_read : ∀ {l v n}, string16Vector.read l = some (v, n) →
    string16Vector.Writable v
  readStatus_ok : ∀ r, readStatus (okStatus ++ r) = some (true, okStatus.length)
  eq_write_of_zeroPadded : ∀ {l s}, string16.read l = some (s, l.length) → ZeroPadded l →
    l = string16.write s

namespace AndroidFormat

def readNullableString16 (l : List Cell) : Option (Option (List Char16) × ℕ) :=
  (readInt32 l).bind fun p =>
    if p.1 < 0 then some (none, 4) else (readString16 l).map fun q => (some q.1, q.2)

variable {s : List Char16} {n : ℕ} {l : List Cell}

theorem readNullableString16_some_iff :
    readNullableString16 l = some (some s, n) ↔ readString16 l = some (s, n) := by
  unfold readNullableString16
  constructor
  · intro h
    obtain ⟨p, -, h⟩ := bind_eq_some_iff.mp h
    split_ifs at h
    · simp at h
    · obtain ⟨q, hq, h⟩ := map_eq_some_iff.mp h
      obtain ⟨h₁, rfl⟩ := Prod.mk.inj h
      rw [hq, ← some.inj h₁]
  · intro h
    obtain ⟨v, bs, hint, h₁, -⟩ := readString16_eq_some h
    rw [hint, bind_some, if_neg (by simpa using h₁), h, map_some]

theorem readNullableString16_none_iff :
    readNullableString16 l = some (none, n) ↔
      n = 4 ∧ ∃ v, readInt32 l = some (v, 4) ∧ v < 0 := by
  unfold readNullableString16
  constructor
  · intro h
    obtain ⟨⟨v, m⟩, hint, h⟩ := bind_eq_some_iff.mp h
    obtain ⟨rfl, -⟩ := readInt32_eq_some hint
    split_ifs at h with hv
    · obtain ⟨-, rfl⟩ := Prod.mk.inj (some.inj h)
      exact ⟨rfl, v, hint, hv⟩
    · obtain ⟨q, -, h⟩ := map_eq_some_iff.mp h
      cases (Prod.mk.inj h).1
  · rintro ⟨rfl, v, hint, hv⟩
    rw [hint, bind_some, if_pos hv]

def nullableString16 : Decoder Cell (Option (List Char16)) where
  read := readNullableString16
  missed := missedString16
  pos_of_read := fun {_ a _} h => by
    cases a with
    | none =>
      obtain ⟨rfl, -⟩ := readNullableString16_none_iff.mp h
      norm_num
    | some s => exact string16.pos_of_read (readNullableString16_some_iff.mp h)
  le_of_read := fun {_ a _} h => by
    cases a with
    | none =>
      obtain ⟨rfl, v, hint, -⟩ := readNullableString16_none_iff.mp h
      exact int32.le_of_read hint
    | some s => exact string16.le_of_read (readNullableString16_some_iff.mp h)
  read_take := fun {_ a _} h r => by
    cases a with
    | none =>
      obtain ⟨rfl, v, hint, hv⟩ := readNullableString16_none_iff.mp h
      exact readNullableString16_none_iff.mpr ⟨rfl, v, int32.read_take hint r, hv⟩
    | some s =>
      exact readNullableString16_some_iff.mpr
        (string16.read_take (readNullableString16_some_iff.mp h) r)

/-- The optional string, as far as its reader asks whether it is there. -/
def hasUtf8FromUtf16 : Decoder Cell Bool := nullableString16.map isSome

def string16VectorReader : Reader Cell (List (List Char16)) := do
  let size ← field int32.toDecoder
  require (0 ≤ size)
  (field string16.toDecoder).times size.toNat

def writeString16Vector (v : List (List Char16)) : List Cell :=
  writeInt32 v.length ++ v.flatMap writeString16

theorem reads_string16Vector_iff {base : ℕ} {v : List (List Char16)} :
    string16VectorReader.Reads base l v ↔
      ∃ size x y, l = x ++ y ∧ int32.read x = some (size, x.length) ∧ 0 ≤ size ∧
        ((field string16.toDecoder).times size.toNat).Reads (base + x.length) y v := by
  simp only [string16VectorReader, reads_field_bind, reads_require_bind]

def string16Vector : Codec Cell (List (List Char16)) where
  toDecoder := string16VectorReader.decoder not_reads_field_bind_nil
  Writable := fun v => v.length < 2 ^ 31 ∧ ∀ s ∈ v, s.length < 2 ^ 31 - 1
  write := writeString16Vector
  read_write := fun {v} hv r => by
    refine run_append_iff.mpr (reads_string16Vector_iff.mpr
      ⟨v.length, writeInt32 v.length, v.flatMap writeString16, rfl, ?_, Int.natCast_nonneg _, ?_⟩)
    · have hlen : int32.Writable v.length := ⟨by omega, by omega⟩
      exact (reads_write hlen : (field int32.toDecoder).Reads 0 _ _)
    · exact reads_times_flatMap fun s hs _ => reads_write (c := string16) (hv.2 s hs)

theorem length_of_readString16
    (h : readString16 l = some (s, n)) : s.length < 2 ^ 31 - 1 := by
  obtain ⟨v, bs, -, h₁, h₂, -, -, rfl, -⟩ := readString16_eq_some h
  exact lt_of_le_of_lt (length_take_le _ _) (by omega)

theorem string16Vector_of_read {v : List (List Char16)}
    (h : string16Vector.read l = some (v, n)) : string16Vector.Writable v := by
  obtain ⟨x, -, -, -, hx⟩ :=
    (run_eq_some_iff : string16VectorReader.run 0 l = some (v, n) ↔ _).mp h
  obtain ⟨size, x, y, -, hsi, -, hy⟩ := reads_string16Vector_iff.mp hx
  have hlen := length_of_reads_times hy
  have hr := androidFormat.int32_range hsi
  have hs : ∀ s ∈ v, s.length < 2 ^ 31 - 1 :=
    forall_of_reads_times hy fun h => length_of_readString16 h
  exact ⟨by omega, hs⟩

/-- A flat object, or the bytes of one when the binder is null. -/
def readNullableStrongBinder (l : List Cell) : Option (Option ℕ × ℕ) :=
  match firstHandle l with
  | some _ => (readStrongBinder l).map fun q => (some q.1, q.2)
  | none => (takeBytes 28 l).map fun _ => (none, 28)

theorem firstHandle_take (hn : 0 < n) (hl : n ≤ l.length)
    (r : List Cell) : firstHandle (l.take n ++ r) = firstHandle l := by
  obtain ⟨n, rfl⟩ := Nat.exists_eq_add_one_of_ne_zero hn.ne'
  cases l with
  | nil => exact absurd hl (Nat.not_succ_le_zero n)
  | cons c l => cases c <;> rfl

theorem readNullableStrongBinder_eq_some {handle : Option ℕ}
    (h : readNullableStrongBinder l = some (handle, n)) : n = 28 ∧ 28 ≤ l.length ∧
      ∀ r, readNullableStrongBinder (l.take 28 ++ r) = some (handle, 28) := by
  unfold readNullableStrongBinder at h ⊢
  split at h
  · rename_i k hf
    obtain ⟨⟨k', m⟩, hq, h⟩ := map_eq_some_iff.mp h
    obtain ⟨rfl, rfl⟩ := Prod.mk.inj h
    obtain ⟨rfl, -⟩ := readStrongBinder_eq_some hq
    have hlen : 28 ≤ l.length := strongBinder.le_of_read hq
    refine ⟨rfl, hlen, fun r => ?_⟩
    have ht : readStrongBinder (l.take 28 ++ r) = some (k', 28) := strongBinder.read_take hq r
    rw [firstHandle_take (by norm_num) hlen, hf, ht]
    rfl
  · rename_i hf
    obtain ⟨bs, hbs, h⟩ := map_eq_some_iff.mp h
    obtain ⟨rfl, rfl⟩ := Prod.mk.inj h
    have hlen := le_length_of_takeBytes hbs
    refine ⟨rfl, hlen, fun r => ?_⟩
    rw [firstHandle_take (by norm_num) hlen, hf, takeBytes_take hbs le_rfl]
    rfl

def nullableStrongBinder : Decoder Cell (Option ℕ) where
  read := readNullableStrongBinder
  missed := fun _ => 0
  pos_of_read := fun h => by
    obtain ⟨rfl, -⟩ := readNullableStrongBinder_eq_some h
    norm_num
  le_of_read := fun h => by
    obtain ⟨rfl, hlen, -⟩ := readNullableStrongBinder_eq_some h
    exact hlen
  read_take := fun h r => by
    obtain ⟨rfl, -, hread⟩ := readNullableStrongBinder_eq_some h
    exact hread r

def padSize (n : ℕ) : ℕ := (n + 3) / 4 * 4

def skipBytes (n : ℕ) : Reader Cell Unit where
  run := fun _ l => (takeBytes n l).map fun _ => ((), n)
  le_of_run := fun h => by
    obtain ⟨bs, hbs, h⟩ := map_eq_some_iff.mp h
    obtain ⟨-, rfl⟩ := Prod.mk.inj h
    exact le_length_of_takeBytes hbs
  run_take := fun h r => by
    obtain ⟨bs, hbs, h⟩ := map_eq_some_iff.mp h
    obtain ⟨-, rfl⟩ := Prod.mk.inj h
    rw [takeBytes_take hbs le_rfl, map_some]

/-- `BLOB_INPLACE` and the bytes. -/
def blobReader (n : ℕ) : Reader Cell Unit := do
  let kind ← field int32.toDecoder
  require (kind = 0)
  skipBytes (padSize n)

def blob (n : ℕ) : Decoder Cell Unit := (blobReader n).decoder not_reads_field_bind_nil

/-- The bytes behind the NUL of a string, up to the end of its padding, are zeros. -/
def ZeroPadded (l : List Cell) : Prop :=
  ∀ {s}, readString16 l = some (s, l.length) → l.drop (4 + 2 * (s.length + 1)) =
    bytes (replicate (paddedSize s.length - 2 * (s.length + 1)) 0)

theorem unitBytes_unitsOf {bs : Bytes} {k : ℕ} (h : 2 * k ≤ bs.length) :
    unitBytes ((unitsOf bs).take k) = bs.take (2 * k) := by
  induction bs using unitsOf.induct generalizing k with
  | case1 a b bs ih =>
    cases k with
    | zero => rfl
    | succ k =>
      have hr : 2 * k ≤ bs.length := by
        simp only [length_cons] at h
        omega
      have hv : leValue [a, b] < 2 ^ 16 := lt_of_lt_of_le (leValue_lt [a, b]) (by norm_num)
      have hu : (leValue [a, b]).toUInt16.toNat = leValue [a, b] := by
        rw [Nat.toUInt16, UInt16.toNat_ofNat']
        omega
      have hp : leBytes 2 (leValue [a, b]) = [a, b] := leBytes_leValue [a, b]
      change unitBytes ((leValue [a, b]).toUInt16 :: (unitsOf bs).take k) = _
      rw [unitBytes, flatMap_cons, hu, hp, Nat.mul_succ]
      exact congrArg (a :: b :: ·) (ih hr)
  | case2 bs hs =>
    have hk : k = 0 := by
      rcases bs with _ | ⟨a, _ | ⟨b, bs⟩⟩
      · simpa using h
      · simp only [length_singleton] at h
        omega
      · exact (hs a b bs rfl).elim
    subst hk
    rfl

theorem eq_writeString16_of_zeroPadded
    (h : readString16 l = some (s, l.length)) (hpad : ZeroPadded l) : l = writeString16 s := by
  have hp := hpad h
  obtain ⟨v, bs, hint, h₁, h₂, hbs, hnul, rfl, hlen⟩ := readString16_eq_some h
  obtain ⟨-, b4, hb4, rfl⟩ := readInt32_eq_some hint
  obtain ⟨hb, rest, rfl⟩ := eq_of_takeBytes hb4
  have hd : (bytes b4 ++ rest).drop 4 = rest := drop_left' (by rw [length_bytes, hb])
  rw [hd] at hbs
  obtain ⟨hbsl, tail, rfl⟩ := eq_of_takeBytes hbs
  obtain rfl : tail = [] := by
    rw [length_append, length_append, length_bytes, length_bytes, hb, hbsl] at hlen
    exact length_eq_zero_iff.mp (by omega)
  obtain ⟨n, hn⟩ : ∃ n, (signed32 (leValue b4)).toNat = n := ⟨_, rfl⟩
  have hv : leValue b4 = n := by
    have := leValue_lt b4
    rw [hb] at this
    unfold signed32 at hn h₁
    split_ifs at hn h₁ <;> omega
  rw [hn] at hnul hbsl hp ⊢
  have hc : ((unitsOf bs).take n).length = n :=
    List.length_take_of_le (List.getElem?_eq_some_iff.mp hnul).1.le
  have hf : 2 * (n + 1) ≤ bs.length := by
    rw [hbsl, paddedSize]
    omega
  have hu : unitBytes ((unitsOf bs).take n ++ [0]) = bs.take (2 * (n + 1)) := by
    rw [← unitBytes_unitsOf hf, take_add_one, hnul]
    rfl
  have hs : (bytes b4).length = 4 := by rw [length_bytes, hb]
  have hz : bs.drop (2 * (n + 1)) = replicate (paddedSize n - 2 * (n + 1)) 0 := by
    rw [hc, append_nil, ← drop_drop, drop_left' hs] at hp
    refine map_injective_iff.mpr (fun a b h => Cell.byte.inj h) ?_
    exact map_drop.trans hp
  rw [writeString16, hc, hu, ← hz, take_append_drop, append_nil, writeInt32]
  have hl : ((n : ℤ) % 2 ^ 32).toNat = leValue b4 := by omega
  rw [hl, ← hb, leBytes_leValue]

def readStatus (l : List Cell) : Option (Bool × ℕ) :=
  (readInt32 l).map fun p => (decide (p.1 = 0), p.2)

end AndroidFormat

/-- **The messages of Android 14.** -/
def androidMessages : MessageFormat AndroidFormat.Cell ℕ where
  toParcelFormat := androidFormat
  nullableString16 := nullableString16
  string16Vector := string16Vector
  hasUtf8FromUtf16 := hasUtf8FromUtf16
  nullableStrongBinder := nullableStrongBinder
  blob := blob
  readStatus := readStatus
  okStatus := writeInt32 0
  ZeroPadded := AndroidFormat.ZeroPadded
  nullableString16_iff := readNullableString16_some_iff
  string16_of_read := length_of_readString16
  string16Vector_of_read := string16Vector_of_read
  readStatus_ok := fun r => by
    rw [readStatus, readInt32_write (by norm_num), map_some,
      length_writeInt32, decide_eq_true rfl]
  eq_write_of_zeroPadded := eq_writeString16_of_zeroPadded

end Vcam
