import AndroidVcam.Binder.ParcelObserver

/-!
# The wire format of Android 14

An instance of `ParcelFormat`: the bytes that libbinder writes for an `int32`, a UTF-16 string and
a strong binder. A flat binder object takes 24 bytes and is followed by a stability word; its bytes
are opaque `object` cells, since only the driver gives them a meaning.

* `androidFormat`: the format with its laws.
-/

namespace Vcam

open TextFile Wire List Option

namespace AndroidFormat

/-- A cell of a parcel: a byte, or a byte of the flat object for a binder. -/
inductive Cell
  | byte (value : UInt8)
  | object (handle : ℕ)
deriving DecidableEq

def bytes (bs : Bytes) : List Cell := bs.map .byte

/-- The first `n` cells, when they are all bytes. -/
def takeBytes : ℕ → List Cell → Option Bytes
  | 0, _ => some []
  | n + 1, .byte b :: l => (takeBytes n l).map (b :: ·)
  | _ + 1, _ => none

theorem takeBytes_bytes (bs : Bytes) (r : List Cell) :
    takeBytes bs.length (bytes bs ++ r) = some bs := by
  induction bs with
  | nil => rfl
  | cons b bs ih =>
    change (takeBytes bs.length (bytes bs ++ r)).map (b :: ·) = _
    rw [ih, map_some]

variable {bs : Bytes} {n : ℕ} {v : ℤ}

variable (s : List Char16) {l : List Cell}

theorem eq_of_takeBytes
    (h : takeBytes n l = some bs) : bs.length = n ∧ ∃ r, l = bytes bs ++ r := by
  induction n generalizing l bs with
  | zero =>
    obtain rfl : [] = bs := by simpa [takeBytes] using h
    exact ⟨rfl, l, rfl⟩
  | succ n ih =>
    match l, h with
    | .byte b :: l, h =>
      obtain ⟨bs', hbs, rfl⟩ := map_eq_some_iff.mp h
      obtain ⟨hlen, r, rfl⟩ := ih hbs
      exact ⟨by rw [length_cons, hlen], r, rfl⟩

theorem length_bytes (bs : Bytes) : (bytes bs).length = bs.length := by simp [bytes]

theorem takeBytes_take {k : ℕ} (h : takeBytes n l = some bs) (hk : n ≤ k)
    (r : List Cell) : takeBytes n (l.take k ++ r) = some bs := by
  obtain ⟨rfl, s, rfl⟩ := eq_of_takeBytes h
  rw [take_append, take_of_length_le (by rw [length_bytes]; exact hk),
    append_assoc, takeBytes_bytes]

theorem le_length_of_takeBytes (h : takeBytes n l = some bs) : n ≤ l.length := by
  obtain ⟨rfl, s, rfl⟩ := eq_of_takeBytes h
  rw [length_append, length_bytes]
  omega

/-! ## Integers -/

def signed32 (n : ℕ) : ℤ := if n < 2 ^ 31 then n else (n : ℤ) - 2 ^ 32

def readInt32 (l : List Cell) : Option (ℤ × ℕ) :=
  (takeBytes 4 l).map fun bs => (signed32 (leValue bs), 4)

def writeInt32 (v : ℤ) : List Cell := bytes (leBytes 4 (v % 2 ^ 32).toNat)

theorem signed32_range (h : n < 2 ^ 32) : -(2 ^ 31) ≤ signed32 n ∧ signed32 n < 2 ^ 31 := by
  unfold signed32
  split_ifs <;> omega

theorem signed32_emod (h₁ : -(2 ^ 31) ≤ v) (h₂ : v < 2 ^ 31) :
    signed32 (v % 2 ^ 32).toNat = v := by
  unfold signed32
  split_ifs <;> omega

theorem readInt32_eq_some (h : readInt32 l = some (v, n)) :
    n = 4 ∧ ∃ bs, takeBytes 4 l = some bs ∧ v = signed32 (leValue bs) := by
  obtain ⟨bs, hbs, he⟩ := map_eq_some_iff.mp h
  obtain ⟨rfl, rfl⟩ : signed32 (leValue bs) = v ∧ 4 = n := by simpa using he
  exact ⟨rfl, bs, hbs, rfl⟩

theorem readInt32_write (h : -(2 ^ 31) ≤ v ∧ v < 2 ^ 31) (r : List Cell) :
    readInt32 (writeInt32 v ++ r) = some (v, 4) := by
  have hlen : (leBytes 4 (v % 2 ^ 32).toNat).length = 4 := length_leBytes ..
  have ht := takeBytes_bytes (leBytes 4 (v % 2 ^ 32).toNat) r
  rw [hlen] at ht
  rw [readInt32, writeInt32, ht, map_some, leValue_leBytes (by omega),
    signed32_emod h.1 h.2]

theorem length_writeInt32 (v : ℤ) : (writeInt32 v).length = 4 := by
  rw [writeInt32, length_bytes, length_leBytes]

def int32 : Codec Cell ℤ where
  read := readInt32
  missed := fun _ => 0
  pos_of_read := fun h => by
    obtain ⟨rfl, -⟩ := readInt32_eq_some h
    omega
  le_of_read := fun h => by
    obtain ⟨rfl, bs, hbs, -⟩ := readInt32_eq_some h
    exact le_length_of_takeBytes hbs
  read_take := fun h r => by
    obtain ⟨rfl, bs, hbs, rfl⟩ := readInt32_eq_some h
    rw [readInt32, takeBytes_take hbs le_rfl, map_some]
  Writable := fun v => -(2 ^ 31) ≤ v ∧ v < 2 ^ 31
  write := writeInt32
  read_write := fun h r => by rw [readInt32_write h, length_writeInt32]

/-! ## Strings -/

def unitBytes (s : List Char16) : Bytes := s.flatMap fun u => leBytes 2 u.toNat

def unitsOf : Bytes → List Char16
  | a :: b :: bs => (leValue [a, b]).toUInt16 :: unitsOf bs
  | _ => []

theorem unitsOf_unitBytes (bs : Bytes) :
    unitsOf (unitBytes s ++ bs) = s ++ unitsOf bs := by
  induction s with
  | nil => rfl
  | cons u s ih =>
    have hu : leValue (leBytes 2 u.toNat) = u.toNat :=
      leValue_leBytes (lt_of_lt_of_le u.toNat_lt (by norm_num))
    have hs : unitBytes (u :: s) ++ bs = leBytes 2 u.toNat ++ (unitBytes s ++ bs) := by
      simp [unitBytes]
    rw [hs]
    change (leValue (leBytes 2 u.toNat)).toUInt16 :: unitsOf (unitBytes s ++ bs) = _
    rw [hu, ih]
    simp

theorem length_unitBytes : (unitBytes s).length = 2 * s.length := by
  induction s with
  | nil => rfl
  | cons u s ih =>
    have : (unitBytes (u :: s)).length = 2 + (unitBytes s).length := by simp [unitBytes]
    rw [this, ih, length_cons]
    omega

/-- `pad_size((length + 1) * sizeof(char16_t))`. -/
def paddedSize (length : ℕ) : ℕ := (2 * (length + 1) + 3) / 4 * 4

/-- `readString16Inplace`: the length, the units with their NUL, the padding. -/
def readString16 (l : List Cell) : Option (List Char16 × ℕ) :=
  (readInt32 l).bind fun p =>
    if 0 ≤ p.1 ∧ p.1 < 2 ^ 31 - 1 then
      (takeBytes (paddedSize p.1.toNat) (l.drop 4)).bind fun bs =>
        if (unitsOf bs)[p.1.toNat]? = some 0 then
          some ((unitsOf bs).take p.1.toNat, 4 + paddedSize p.1.toNat)
        else none
    else none

/-- A failed read stops behind the length word when there is one. -/
def missedString16 (l : List Cell) : ℕ := if (readInt32 l).isSome then 4 else 0

def writeString16 (s : List Char16) : List Cell :=
  writeInt32 s.length ++ bytes (unitBytes (s ++ [0]) ++
    replicate (paddedSize s.length - 2 * (s.length + 1)) 0)

theorem readString16_eq_some {s : List Char16} (h : readString16 l = some (s, n)) :
    ∃ (v : ℤ) (bs : Bytes), readInt32 l = some (v, 4) ∧ 0 ≤ v ∧ v < 2 ^ 31 - 1 ∧
      takeBytes (paddedSize v.toNat) (l.drop 4) = some bs ∧ (unitsOf bs)[v.toNat]? = some 0 ∧
      s = (unitsOf bs).take v.toNat ∧ n = 4 + paddedSize v.toNat := by
  obtain ⟨⟨v, m⟩, hint, h⟩ := bind_eq_some_iff.mp h
  obtain ⟨rfl, -⟩ := readInt32_eq_some hint
  split_ifs at h with hv
  obtain ⟨bs, hbs, h⟩ := bind_eq_some_iff.mp h
  split_ifs at h with hnul
  obtain ⟨rfl, rfl⟩ : (unitsOf bs).take v.toNat = s ∧ 4 + paddedSize v.toNat = n := by
    simpa using h
  exact ⟨v, bs, hint, hv.1, hv.2, hbs, hnul, rfl, rfl⟩

theorem readString16_of_parts (hint : readInt32 l = some (v, 4)) (h₁ : 0 ≤ v)
    (h₂ : v < 2 ^ 31 - 1) (hbs : takeBytes (paddedSize v.toNat) (l.drop 4) = some bs)
    (hnul : (unitsOf bs)[v.toNat]? = some 0) :
    readString16 l = some ((unitsOf bs).take v.toNat, 4 + paddedSize v.toNat) := by
  rw [readString16, hint, bind_some, if_pos ⟨h₁, h₂⟩, hbs, bind_some, if_pos hnul]

theorem length_writeString16 :
    (writeString16 s).length = 4 + paddedSize s.length := by
  rw [writeString16, length_append, length_writeInt32, length_bytes, length_append,
    length_unitBytes, length_replicate, length_append]
  unfold paddedSize
  simp only [length_cons, length_nil]
  omega

theorem readString16_write {s : List Char16} (hs : s.length < 2 ^ 31 - 1) (r : List Cell) :
    readString16 (writeString16 s ++ r) = some (s, 4 + paddedSize s.length) := by
  have hnat : (s.length : ℤ).toNat = s.length := Int.toNat_natCast _
  have hlen : (unitBytes (s ++ [0]) ++
      replicate (paddedSize s.length - 2 * (s.length + 1)) 0).length =
        paddedSize s.length := by
    have h₁ := length_writeString16 s
    have h₂ := length_writeInt32 s.length
    rw [writeString16, length_append, length_bytes] at h₁
    omega
  have hu : unitsOf (unitBytes (s ++ [0]) ++
      replicate (paddedSize s.length - 2 * (s.length + 1)) 0) = (s ++ [0]) ++
        unitsOf (replicate (paddedSize s.length - 2 * (s.length + 1)) 0) :=
    unitsOf_unitBytes _ _
  have hint : readInt32 (writeString16 s ++ r) = some ((s.length : ℤ), 4) := by
    rw [writeString16, append_assoc]
    exact readInt32_write (by omega) _
  have hd : (writeString16 s ++ r).drop 4 = bytes (unitBytes (s ++ [0]) ++
      replicate (paddedSize s.length - 2 * (s.length + 1)) 0) ++ r := by
    rw [writeString16, append_assoc]
    exact drop_left' (length_writeInt32 _)
  have hb := takeBytes_bytes (unitBytes (s ++ [0]) ++
    replicate (paddedSize s.length - 2 * (s.length + 1)) 0) r
  rw [hlen, ← hd] at hb
  have hr := readString16_of_parts hint (by omega) (by omega) (by rw [hnat]; exact hb)
    (by rw [hu, hnat]; simp)
  rw [hr, hu, hnat]
  simp

def string16 : Codec Cell (List Char16) where
  read := readString16
  missed := missedString16
  pos_of_read := fun h => by
    obtain ⟨v, bs, -, -, -, -, -, -, rfl⟩ := readString16_eq_some h
    omega
  le_of_read := fun h => by
    obtain ⟨v, bs, hint, -, -, hbs, -, -, rfl⟩ := readString16_eq_some h
    have h₁ := le_length_of_takeBytes hbs
    obtain ⟨-, bs', hbs', -⟩ := readInt32_eq_some hint
    have h₂ := le_length_of_takeBytes hbs'
    rw [length_drop] at h₁
    omega
  read_take := fun {l _ _} h r => by
    obtain ⟨v, bs, hint, h₁, h₂, hbs, hnul, rfl, rfl⟩ := readString16_eq_some h
    obtain ⟨-, bs', hbs', hv⟩ := readInt32_eq_some hint
    have h4 : 4 ≤ l.length := le_length_of_takeBytes hbs'
    have hdrop : (l.take (4 + paddedSize v.toNat) ++ r).drop 4 =
        (l.drop 4).take (paddedSize v.toNat) ++ r := by
      rw [drop_append_of_le_length (by rw [length_take]; omega), drop_take]
      congr 2
      omega
    refine readString16_of_parts ?_ h₁ h₂ ?_ hnul
    · rw [readInt32, takeBytes_take hbs' (by omega), map_some, hv]
    · rw [hdrop]
      exact takeBytes_take hbs le_rfl r
  Writable := fun s => s.length < 2 ^ 31 - 1
  write := writeString16
  read_write := fun h r => by rw [readString16_write h, length_writeString16]

/-! ## Binders -/

def objectCells (handle : ℕ) : List Cell := replicate 24 (.object handle)

/-- The handle in the first cell, when it is the byte of an object. -/
def firstHandle : List Cell → Option ℕ
  | .object handle :: _ => some handle
  | _ => none

def readStrongBinder (l : List Cell) : Option (ℕ × ℕ) :=
  (firstHandle l).bind fun handle =>
    if l.take 24 = objectCells handle ∧ (takeBytes 4 (l.drop 24)).isSome then some (handle, 28)
    else none

def writeStrongBinder (handle : ℕ) : List Cell := objectCells handle ++ writeInt32 12

theorem readStrongBinder_eq_some {handle : ℕ}
    (h : readStrongBinder l = some (handle, n)) :
    n = 28 ∧ ∃ bs r, l = objectCells handle ++ (bytes bs ++ r) ∧ bs.length = 4 := by
  obtain ⟨k, -, h⟩ := bind_eq_some_iff.mp h
  split_ifs at h with hc
  obtain ⟨rfl, rfl⟩ : k = handle ∧ 28 = n := by simpa using h
  obtain ⟨bs, hbs⟩ := isSome_iff_exists.mp hc.2
  obtain ⟨hlen, r, hr⟩ := eq_of_takeBytes hbs
  refine ⟨rfl, bs, r, ?_, hlen⟩
  rw [← hr, ← hc.1, take_append_drop]

theorem readStrongBinder_append (handle : ℕ) (h : bs.length = 4) (r : List Cell) :
    readStrongBinder (objectCells handle ++ (bytes bs ++ r)) = some (handle, 28) := by
  have hlen : (objectCells handle).length = 24 := by simp [objectCells]
  have ht : (objectCells handle ++ (bytes bs ++ r)).take 24 = objectCells handle :=
    take_left' hlen
  have hd : (objectCells handle ++ (bytes bs ++ r)).drop 24 = bytes bs ++ r :=
    drop_left' hlen
  have hf : firstHandle (objectCells handle ++ (bytes bs ++ r)) = some handle := rfl
  have hb : takeBytes 4 (bytes bs ++ r) = some bs := h ▸ takeBytes_bytes bs r
  rw [readStrongBinder, hf, bind_some, ht, hd, hb, if_pos ⟨rfl, rfl⟩]

theorem length_writeStrongBinder (handle : ℕ) : (writeStrongBinder handle).length = 28 := by
  rw [writeStrongBinder, length_append, length_writeInt32]
  simp [objectCells]

def strongBinder : Codec Cell ℕ where
  read := readStrongBinder
  missed := fun _ => 0
  pos_of_read := fun h => by
    obtain ⟨rfl, -⟩ := readStrongBinder_eq_some h
    omega
  le_of_read := fun h => by
    obtain ⟨rfl, bs, r, rfl, hlen⟩ := readStrongBinder_eq_some h
    rw [length_append, length_append, length_bytes]
    simp [objectCells]
    omega
  read_take := fun {_ handle _} h r => by
    obtain ⟨rfl, bs, s, rfl, hlen⟩ := readStrongBinder_eq_some h
    have htake : (objectCells handle ++ (bytes bs ++ s)).take 28 =
        objectCells handle ++ bytes bs := by
      rw [← append_assoc]
      exact take_left' (by rw [length_append, length_bytes, hlen]; simp [objectCells])
    rw [htake, append_assoc, readStrongBinder_append _ hlen]
  Writable := fun _ => True
  write := writeStrongBinder
  read_write := fun {handle} _ r => by
    rw [length_writeStrongBinder, writeStrongBinder, append_assoc]
    exact readStrongBinder_append handle (length_leBytes ..) r

end AndroidFormat

/-- **The wire format of libbinder in Android 14.** -/
def androidFormat : ParcelFormat AndroidFormat.Cell ℕ where
  int32 := AndroidFormat.int32
  string16 := AndroidFormat.string16
  strongBinder := AndroidFormat.strongBinder
  int32_range := fun h => by
    obtain ⟨-, bs, hbs, rfl⟩ := AndroidFormat.readInt32_eq_some h
    obtain ⟨hlen, -⟩ := AndroidFormat.eq_of_takeBytes hbs
    have := leValue_lt bs
    rw [hlen] at this
    exact AndroidFormat.signed32_range (by omega)
  int32_writable := fun h₁ h₂ => ⟨h₁, h₂⟩
  string16_writable := fun h => h

/-! ## Requests as a client writes them -/

section Request

variable {β ι : Type} (W : ParcelFormat β ι)

/-- `writeInterfaceToken`: the strict-mode policy, the work source, the header word and the
descriptor. -/
def interfaceToken : List β :=
  W.int32.write 0 ++ (W.int32.write (-1) ++
    (W.int32.write expectedHeader ++ W.string16.write kCameraServiceDescriptor))

def cameraCells : CameraName → List β
  | .id units => W.string16.write units
  | .index value => W.int32.write value

/-- A single-camera request: the token, the callback and the camera, then the package. -/
def requestCells (shape : BinderPayloadShape) (callback : ι) (name : CameraName)
    (claim : List Char16) : List β :=
  (interfaceToken W ++ if shape.connect then W.strongBinder.write callback else []) ++
    (cameraCells W name ++ if shape.connect then W.string16.write claim else [])

/-- The camera is of the kind that the shape carries and can be written. -/
def CameraName.Fits (shape : BinderPayloadShape) : CameraName → Prop
  | .id units => shape.integerId = false ∧ W.string16.Writable units
  | .index value => shape.integerId = true ∧ W.int32.Writable value

variable {W}

theorem readAndCheckHeader_token (r : List β) :
    readAndCheckHeader W (interfaceToken W ++ r) = (.ok, (interfaceToken W).length) := by
  have w₀ : W.int32.Writable 0 := W.int32_writable (by norm_num) (by norm_num)
  have w₁ : W.int32.Writable (-1) := W.int32_writable (by norm_num) (by norm_num)
  have w₂ : W.int32.Writable expectedHeader := W.int32_writable (by decide) (by decide)
  have w₃ : W.string16.Writable kCameraServiceDescriptor := W.string16_writable (by decide)
  have h₁ := Codec.readAt_write w₀ [] (W.int32.write (-1) ++ (W.int32.write expectedHeader ++
    (W.string16.write kCameraServiceDescriptor ++ r)))
  have h₂ := Codec.readAt_write w₁ (W.int32.write 0) (W.int32.write expectedHeader ++
    (W.string16.write kCameraServiceDescriptor ++ r))
  have h₃ := Codec.readAt_write w₂ (W.int32.write 0 ++ W.int32.write (-1))
    (W.string16.write kCameraServiceDescriptor ++ r)
  have h₄ := Codec.readAt_write w₃ (W.int32.write 0 ++ (W.int32.write (-1) ++
    W.int32.write expectedHeader)) r
  simp only [append_assoc, nil_append, length_append, length_nil, zero_add,
    add_assoc] at h₁ h₂ h₃ h₄
  have hc : interfaceToken W ++ r = W.int32.write 0 ++ (W.int32.write (-1) ++
      (W.int32.write expectedHeader ++ (W.string16.write kCameraServiceDescriptor ++ r))) := by
    simp only [interfaceToken, append_assoc]
  have hlen : (interfaceToken W).length = (W.int32.write 0).length +
      ((W.int32.write (-1)).length + ((W.int32.write expectedHeader).length +
        (W.string16.write kCameraServiceDescriptor).length)) := by
    simp only [interfaceToken, length_append]
  rw [hc, hlen]
  exact readAndCheckHeader_ok_iff.mpr ⟨0, -1, _, _, _, h₁, h₂, h₃, h₄⟩

variable {shape : BinderPayloadShape} {c : ι} {name : CameraName} {claim : List Char16}

theorem cameraFieldStart_request (hca : W.strongBinder.Writable c) :
    cameraFieldStart W shape (requestCells W shape c name claim) =
      some (interfaceToken W ++
        if shape.connect then W.strongBinder.write c else []).length := by
  unfold cameraFieldStart requestCells
  by_cases hc : shape.connect = true
  · simp only [hc, if_true]
    rw [append_assoc, readAndCheckHeader_token]
    dsimp only
    rw [Codec.readAt_write hca, length_append]
  · simp only [hc, if_false, Bool.false_eq_true]
    rw [append_assoc, readAndCheckHeader_token]
    simp

theorem readAt_cameraCells (hf : name.Fits W shape) (l r : List β) :
    (if shape.integerId then
        (W.int32.readAt (l ++ (cameraCells W name ++ r)) l.length).1.map CameraName.index
      else (W.string16.readAt (l ++ (cameraCells W name ++ r)) l.length).1.map CameraName.id) =
      some name ∧
    cameraFieldNext W shape (l ++ (cameraCells W name ++ r)) l.length =
      (l ++ cameraCells W name).length := by
  unfold cameraFieldNext
  rw [length_append]
  cases name with
  | id units =>
    rw [hf.1, cameraCells, Codec.readAt_write hf.2]
    exact ⟨rfl, rfl⟩
  | index value =>
    rw [hf.1, cameraCells, Codec.readAt_write hf.2]
    exact ⟨rfl, rfl⟩

/-- **The service reads the camera that the client wrote.** -/
theorem cameraField_request (hc : W.strongBinder.Writable c)
    (hf : name.Fits W shape) :
    cameraField W shape (requestCells W shape c name claim) = some name := by
  rw [cameraField, cameraFieldStart_request hc, requestCells]
  exact (readAt_cameraCells hf _ _).1

theorem claimField_request (hca : W.strongBinder.Writable c)
    (hf : name.Fits W shape) (hcl : W.string16.Writable claim)
    (hc : shape.connect = true) :
    claimField W shape (requestCells W shape c name claim) = some claim := by
  rw [claimField, cameraFieldStart_request hca, bind_some, requestCells,
    (readAt_cameraCells hf _ _).2, if_pos hc, if_pos hc]
  have h := Codec.readAt_write hcl ((interfaceToken W ++ W.strongBinder.write c) ++
    cameraCells W name) []
  rw [append_nil, append_assoc _ (cameraCells W name)] at h
  rw [h]

end Request

theorem fits_android {shape : BinderPayloadShape} {name : CameraName}
    (h : match name with
      | .id units => shape.integerId = false ∧ units.length < 2 ^ 31 - 1
      | .index value => shape.integerId = true ∧ -(2 ^ 31) ≤ value ∧ value < 2 ^ 31) :
    name.Fits androidFormat shape := by
  cases name <;> exact h

end Vcam
