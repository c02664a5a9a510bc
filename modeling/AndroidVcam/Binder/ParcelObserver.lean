import AndroidVcam.Binder.TransactionClassifier
import AndroidVcam.Lib.Wire

/-!
# The parcel observer

`runtime/platform/Android14ParcelObserver.cpp`: the router reads the interface header of a
CameraService request, the camera it names and the package it claims, without changing it.

The wire format belongs to libbinder. `ParcelFormat` takes it as a parameter: how an `int32`, a
UTF-16 string and a strong binder stand in the cells of a parcel, with the laws of `Wire`.

* `observed_field`, `cameraField_of_observed`: an observed camera is the one the service reads;
* `observe_of_fields`: which requests are observed, by the fields the service reads.
-/

namespace Vcam

open TextFile Wire List

abbrev Char16 := UInt16

/-- The wire format of libbinder, as far as CameraService requests use it. `β` are the cells of a
parcel and `ι` the binder objects. -/
structure ParcelFormat (β ι : Type) where
  int32 : Codec β ℤ
  string16 : Codec β (List Char16)
  strongBinder : Codec β ι
  int32_range : ∀ {l v n}, int32.read l = some (v, n) → -(2 ^ 31) ≤ v ∧ v < 2 ^ 31
  int32_writable : ∀ {v}, -(2 ^ 31) ≤ v → v < 2 ^ 31 → int32.Writable v
  string16_writable : ∀ {s : List Char16}, s.length < 2 ^ 31 - 1 → string16.Writable s

/-- A parcel with its read cursor. -/
@[ext]
structure Parcel (β : Type) where
  cells : List β
  dataPosition : ℕ
  position_le : dataPosition ≤ cells.length

inductive ParcelObservationStatus
  | observed
  | notRoutedTransaction
  | nullParcel
  | malformedHeader
  | wrongInterface
  | malformedPayload
  | unsupportedPayload
deriving DecidableEq, Repr

structure ParcelObservation where
  status : ParcelObservationStatus := .notRoutedTransaction
  transaction : BinderTransactionClass
  callingUid : ℤ := -1
  callingPid : ℤ := -1
  cameraId : Text := []
  packageName : Text := []
  initialDataPosition : ℕ := 0
  finalDataPosition : ℕ := 0
  cameraIdStart : ℕ := 0
  cameraIdEnd : ℕ := 0
deriving DecidableEq

/-! ## Fields -/

def ascii16 (s : Text) : List Char16 := s.map fun c => c.toNat.toUInt16

def kCameraServiceDescriptor : List Char16 := ascii16 "android.hardware.ICameraService"

def kMaxObservedStringLength : ℕ := 255

/-- The result of reading one text field: success, the text, the cursor afterwards. -/
structure FieldText where
  ok : Bool
  text : Text
  next : ℕ

def asciiUnit (u : Char16) : Bool := decide (u.toNat ≤ 0x7f)

def asciiChar (u : Char16) : Char := Char.ofNat u.toNat

def observableString (value : List Char16) : Bool :=
  decide (value.length ≤ kMaxObservedStringLength) && value.all asciiUnit

variable {β ι : Type} (W : ParcelFormat β ι)

def readAsciiString16 (cells : List β) (pos : ℕ) : FieldText :=
  match W.string16.readAt cells pos with
  | (none, next) => ⟨false, [], next⟩
  | (some value, next) =>
    if value.length > kMaxObservedStringLength then ⟨false, [], next⟩
    -- the loop stops at the first wide unit, with the characters before it in the output
    else ⟨value.all asciiUnit, (value.takeWhile asciiUnit).map asciiChar, next⟩

def readIntegerCameraId (cells : List β) (pos : ℕ) : FieldText :=
  match W.int32.readAt cells pos with
  | (none, next) => ⟨false, [], next⟩
  | (some cameraId, next) =>
    if cameraId < 0 then ⟨false, [], next⟩ else ⟨true, decimal cameraId.toNat, next⟩

inductive HeaderStatus
  | ok
  | malformed
  | wrongInterface
deriving DecidableEq, Repr

/-- `('S' << 24) | ('Y' << 16) | ('S' << 8) | 'T'`. -/
def expectedHeader : ℤ := 0x53595354

def readAndCheckHeader (cells : List β) : HeaderStatus × ℕ :=
  match W.int32.readAt cells 0 with
  | (none, p) => (.malformed, p)
  | (some _, p) => match W.int32.readAt cells p with
    | (none, q) => (.malformed, q)
    | (some _, q) => match W.int32.readAt cells q with
      | (none, r) => (.malformed, r)
      | (some header, r) =>
        if header ≠ expectedHeader then (.wrongInterface, r)
        else match W.string16.readAt cells r with
          | (none, s) => (.wrongInterface, s)
          | (some descriptor, s) =>
            if descriptor = kCameraServiceDescriptor then (.ok, s) else (.wrongInterface, s)

/-! ## Payloads -/

structure PayloadDecoding where
  decoded : Bool
  cameraId : Text
  packageName : Text
  cameraIdStart : ℕ
  cameraIdEnd : ℕ

def readCameraId (shape : BinderPayloadShape) (cells : List β) (pos : ℕ) : FieldText :=
  if shape.integerId then readIntegerCameraId W cells pos else readAsciiString16 W cells pos

/-- `kConnectApi1` and `kConnectDevice`: a callback binder, the camera, the package. Each read is
skipped after a failed one. -/
def decodeConnect (shape : BinderPayloadShape) (cells : List β) (pos : ℕ) : PayloadDecoding :=
  match W.strongBinder.readAt cells pos with
  | (none, start) => ⟨false, [], [], start, start⟩
  | (some _, start) =>
    let id := readCameraId W shape cells start
    if id.ok then
      let package := readAsciiString16 W cells id.next
      ⟨package.ok, id.text, package.text, start, id.next⟩
    else ⟨false, id.text, [], start, id.next⟩

/-- `kStringCameraId` and `kIntegerCameraId`: the camera alone. -/
def decodeCameraId (shape : BinderPayloadShape) (cells : List β) (pos : ℕ) : PayloadDecoding :=
  let id := readCameraId W shape cells pos
  ⟨id.ok, id.text, [], pos, id.next⟩

def decodePayload (shape : BinderPayloadShape) (cells : List β) (pos : ℕ) : PayloadDecoding :=
  if shape.connect then decodeConnect W shape cells pos else decodeCameraId W shape cells pos

def observeAndroid14CameraServiceParcel (recipe : AbiRecipe) (code : ℕ)
    (dataParcel : Option (Parcel β)) (callingUid callingPid : ℤ) : ParcelObservation :=
  let transaction := classifyBinderTransaction recipe code
  if transaction.payloadShape = .passThrough then { transaction := transaction }
  else match dataParcel with
    | none => { status := .nullParcel, transaction := transaction }
    | some parcel =>
      match readAndCheckHeader W parcel.cells with
      | (.malformed, _) =>
        { status := .malformedHeader, transaction := transaction
          initialDataPosition := parcel.dataPosition, finalDataPosition := parcel.dataPosition }
      | (.wrongInterface, _) =>
        { status := .wrongInterface, transaction := transaction
          initialDataPosition := parcel.dataPosition, finalDataPosition := parcel.dataPosition }
      | (.ok, payload) =>
        match transaction.payloadShape with
        | .connectApi1 | .connectDevice | .stringCameraId | .integerCameraId =>
          let d := decodePayload W transaction.payloadShape parcel.cells payload
          { status := if d.decoded then .observed else .malformedPayload
            transaction := transaction
            callingUid := callingUid, callingPid := callingPid
            cameraId := d.cameraId, packageName := d.packageName
            initialDataPosition := parcel.dataPosition, finalDataPosition := parcel.dataPosition
            cameraIdStart := d.cameraIdStart, cameraIdEnd := d.cameraIdEnd }
        | .listener | .listenerRemoval | .concurrentIds =>
          { status := .observed, transaction := transaction
            callingUid := callingUid, callingPid := callingPid
            initialDataPosition := parcel.dataPosition, finalDataPosition := parcel.dataPosition }
        | .concurrentSessionConfiguration =>
          { status := .unsupportedPayload, transaction := transaction
            callingUid := callingUid, callingPid := callingPid
            initialDataPosition := parcel.dataPosition, finalDataPosition := parcel.dataPosition }
        | .passThrough =>
          { status := .malformedPayload, transaction := transaction
            callingUid := callingUid, callingPid := callingPid
            initialDataPosition := parcel.dataPosition, finalDataPosition := parcel.dataPosition }

/-! ## The camera named by a parcel -/

/-- A camera as the service reads it: a Camera2 ID or a Camera1 index. -/
inductive CameraName
  | id (units : List Char16)
  | index (value : ℤ)
deriving DecidableEq

/-- The cursor at the camera field: after the header, and after the callback binder if the shape
has one. -/
def cameraFieldStart (shape : BinderPayloadShape) (cells : List β) : Option ℕ :=
  match readAndCheckHeader W cells with
  | (.ok, payload) =>
    if shape.connect then
      match W.strongBinder.readAt cells payload with
      | (some _, start) => some start
      | (none, _) => none
    else some payload
  | _ => none

/-- The camera named by a parcel, for the service that receives it. -/
def cameraField (shape : BinderPayloadShape) (cells : List β) : Option CameraName :=
  (cameraFieldStart W shape cells).bind fun start =>
    if shape.integerId then (W.int32.readAt cells start).1.map .index
    else (W.string16.readAt cells start).1.map .id

def cameraFieldNext (shape : BinderPayloadShape) (cells : List β) (start : ℕ) : ℕ :=
  if shape.integerId then (W.int32.readAt cells start).2 else (W.string16.readAt cells start).2

/-- The package claimed by a parcel: the string behind the camera field. -/
def claimField (shape : BinderPayloadShape) (cells : List β) : Option (List Char16) :=
  (cameraFieldStart W shape cells).bind fun start =>
    (W.string16.readAt cells (cameraFieldNext W shape cells start)).1

def CameraName.observable : CameraName → Bool
  | .id units => observableString units
  | .index value => decide (0 ≤ value)

def CameraName.text : CameraName → Text
  | .id units => units.map asciiChar
  | .index value => decimal value.toNat

/-- The header is that of the camera service. -/
def ValidHeader (cells : List β) : Prop := (readAndCheckHeader W cells).1 = .ok

def nameOfText (shape : BinderPayloadShape) (text : Text) : CameraName :=
  if shape.integerId then .index (digitsValue text) else .id (ascii16 text)

/-! ## ASCII text and code units -/

def isAsciiText (s : Text) : Prop := ∀ c ∈ s, c.toNat ≤ 0x7f

theorem asciiChar_toNat {u : Char16} (h : asciiUnit u = true) : (asciiChar u).toNat = u.toNat := by
  have hu : u.toNat ≤ 0x7f := by simpa [asciiUnit] using h
  rw [asciiChar, Char.toNat_ofNat, if_pos (Or.inl (by omega))]

variable {value : List Char16} {text : Text} {payload : ℕ} {obs : ParcelObservation}
  {name : CameraName}

theorem ascii16_map_asciiChar (h : value.all asciiUnit = true) :
    ascii16 (value.map asciiChar) = value := by
  rw [ascii16, map_map]
  conv_rhs => rw [← map_id value]
  refine map_congr_left fun u hu => ?_
  simp [asciiChar_toNat (all_eq_true.mp h u hu)]

theorem toNat_ascii16_unit {c : Char} (h : c.toNat ≤ 0x7f) : c.toNat.toUInt16.toNat = c.toNat := by
  simp
  omega

theorem map_asciiChar_ascii16 {s : Text} (h : isAsciiText s) : (ascii16 s).map asciiChar = s := by
  rw [ascii16, map_map]
  conv_rhs => rw [← map_id s]
  refine map_congr_left fun c hc => ?_
  rw [Function.comp_apply, asciiChar, toNat_ascii16_unit (h c hc), Char.ofNat_toNat, id]

theorem ascii16_injOn {s t : Text} (hs : isAsciiText s) (ht : isAsciiText t)
    (h : ascii16 s = ascii16 t) : s = t := by
  rw [← map_asciiChar_ascii16 hs, h, map_asciiChar_ascii16 ht]

theorem isAsciiText_map_asciiChar (h : value.all asciiUnit = true) :
    isAsciiText (value.map asciiChar) := by
  intro c hc
  obtain ⟨u, hu, rfl⟩ := mem_map.mp hc
  have := all_eq_true.mp h u hu
  rw [asciiChar_toNat this]
  simpa [asciiUnit] using this

theorem all_asciiUnit_ascii16 {s : Text} (h : isAsciiText s) : (ascii16 s).all asciiUnit = true := by
  refine all_eq_true.mpr fun u hu => ?_
  obtain ⟨c, hc, rfl⟩ := mem_map.mp hu
  have := h c hc
  simp only [asciiUnit, decide_eq_true_eq]
  rw [toNat_ascii16_unit this]
  exact this

theorem observableString_iff : observableString value = true ↔
    value.length ≤ kMaxObservedStringLength ∧ value.all asciiUnit = true := by
  simp [observableString]

theorem observableString_ascii16 {s : Text} (hs : isAsciiText s)
    (hlen : s.length ≤ kMaxObservedStringLength) : observableString (ascii16 s) = true := by
  have : (ascii16 s).length = s.length := by simp [ascii16]
  exact observableString_iff.mpr ⟨by rw [this]; exact hlen, all_asciiUnit_ascii16 hs⟩

theorem isAsciiText_decimal (n : ℕ) : isAsciiText (decimal n) := by
  intro c hc
  have hd : c.isDigit = true := Nat.isDigit_of_mem_toDigits (by norm_num) (by norm_num) hc
  have hc := (Char.isDigit_iff_toNat.mp hd).2
  have h9 : '9'.toNat = 57 := rfl
  omega

/-! ## What the field readers accept -/

variable {W} {cells : List β} {pos next : ℕ} {shape : BinderPayloadShape}

/-- The observer takes exactly the strings of at most 255 seven-bit units. -/
theorem readAsciiString16_ok_iff :
    readAsciiString16 W cells pos = ⟨true, text, next⟩ ↔
      ∃ value, W.string16.readAt cells pos = (some value, next) ∧ observableString value = true ∧
        text = value.map asciiChar := by
  unfold readAsciiString16
  constructor
  · intro h
    split at h
    · cases h
    · rename_i value p hr
      split_ifs at h with hlen
      · cases h
      obtain ⟨hall, ht, rfl⟩ : value.all asciiUnit = true ∧
          (value.takeWhile asciiUnit).map asciiChar = text ∧ p = next := by simpa using h
      refine ⟨value, hr, ?_, ?_⟩
      · simp [observableString, hall, not_lt.mp hlen]
      · rw [← ht, takeWhile_eq_self_iff.mpr (by simpa using hall)]
  · rintro ⟨value, hr, hobs, rfl⟩
    obtain ⟨hlen, hall⟩ := observableString_iff.mp hobs
    rw [hr]
    dsimp only
    rw [if_neg (not_lt.mpr hlen), hall, takeWhile_eq_self_iff.mpr (by simpa using hall)]

theorem readIntegerCameraId_ok_iff :
    readIntegerCameraId W cells pos = ⟨true, text, next⟩ ↔
      ∃ value : ℕ, W.int32.readAt cells pos = (some (value : ℤ), next) ∧ text = decimal value := by
  unfold readIntegerCameraId
  constructor
  · intro h
    split at h
    · cases h
    · rename_i value p hr
      split_ifs at h with hneg
      · cases h
      obtain ⟨ht, rfl⟩ : decimal value.toNat = text ∧ p = next := by simpa using h
      exact ⟨value.toNat, by rw [hr, Int.toNat_of_nonneg (not_lt.mp hneg)], ht.symm⟩
  · rintro ⟨value, hr, rfl⟩
    rw [hr]
    dsimp only
    rw [if_neg (by omega), Int.toNat_natCast]

theorem readCameraId_ok (h : readCameraId W shape cells pos = ⟨true, text, next⟩) :
    (if shape.integerId then (W.int32.readAt cells pos).1.map CameraName.index
      else (W.string16.readAt cells pos).1.map CameraName.id) = some (nameOfText shape text) ∧
    isAsciiText text ∧ pos < next ∧ next ≤ cells.length := by
  unfold readCameraId at h
  unfold nameOfText
  split_ifs at h ⊢ with hs
  · obtain ⟨value, hr, rfl⟩ := readIntegerCameraId_ok_iff.mp h
    refine ⟨by rw [hr, digitsValue_decimal]; rfl, isAsciiText_decimal value,
      Decoder.lt_of_readAt hr, Decoder.le_length_of_readAt hr⟩
  · obtain ⟨value, hr, hobs, rfl⟩ := readAsciiString16_ok_iff.mp h
    have hall := (observableString_iff.mp hobs).2
    refine ⟨by rw [hr, ascii16_map_asciiChar hall]; rfl, isAsciiText_map_asciiChar hall,
      Decoder.lt_of_readAt hr, Decoder.le_length_of_readAt hr⟩

/-! ## Headers and starts survive a change behind them -/

theorem readAndCheckHeader_ok_iff :
    readAndCheckHeader W cells = (.ok, payload) ↔
      ∃ a b p q r, W.int32.readAt cells 0 = (some a, p) ∧ W.int32.readAt cells p = (some b, q) ∧
        W.int32.readAt cells q = (some expectedHeader, r) ∧
        W.string16.readAt cells r = (some kCameraServiceDescriptor, payload) := by
  unfold readAndCheckHeader
  constructor
  · intro h
    split at h
    · cases h
    rename_i a p h1
    split at h
    · cases h
    rename_i b q h2
    split at h
    · cases h
    rename_i header r h3
    split_ifs at h with hh
    · cases h
    have hhe : header = expectedHeader := not_not.mp hh
    split at h
    · cases h
    rename_i descriptor s h4
    split_ifs at h with hd
    · obtain rfl : s = payload := by simpa using h
      exact ⟨a, b, p, q, r, h1, h2, hhe ▸ h3, hd ▸ h4⟩
    · cases h
  · rintro ⟨a, b, p, q, r, h1, h2, h3, h4⟩
    simp [h1, h2, h3, h4]

theorem readAndCheckHeader_take {k : ℕ} (h : readAndCheckHeader W cells = (.ok, payload))
    (hk : payload ≤ k) (r : List β) :
    readAndCheckHeader W (cells.take k ++ r) = (.ok, payload) := by
  obtain ⟨a, b, p, q, s, h1, h2, h3, h4⟩ := readAndCheckHeader_ok_iff.mp h
  have hp := Decoder.lt_of_readAt h2
  have hq := Decoder.lt_of_readAt h3
  have hs := Decoder.lt_of_readAt h4
  exact readAndCheckHeader_ok_iff.mpr ⟨a, b, p, q, s, Decoder.readAt_take h1 (by omega) r,
    Decoder.readAt_take h2 (by omega) r, Decoder.readAt_take h3 (by omega) r,
    Decoder.readAt_take h4 hk r⟩

theorem cameraFieldStart_take {start k : ℕ} (h : cameraFieldStart W shape cells = some start)
    (hk : start ≤ k) (r : List β) : cameraFieldStart W shape (cells.take k ++ r) = some start := by
  unfold cameraFieldStart at h ⊢
  split at h
  · rename_i payload hh
    split_ifs at h with hc
    · split at h
      · rename_i b s hb
        obtain rfl : s = start := by simpa using h
        have hlt := Decoder.lt_of_readAt hb
        rw [readAndCheckHeader_take hh (by omega) r]
        dsimp only
        rw [if_pos hc, Decoder.readAt_take hb hk r]
      · cases h
    · obtain rfl : payload = start := by simpa using h
      rw [readAndCheckHeader_take hh hk r]
      dsimp only
      rw [if_neg hc]
  · cases h

/-! ## Observed single-camera requests -/

theorem decodePayload_decoded (hh : readAndCheckHeader W cells = (.ok, payload))
    (h : (decodePayload W shape cells payload).decoded = true) :
    cameraFieldStart W shape cells = some (decodePayload W shape cells payload).cameraIdStart ∧
    readCameraId W shape cells (decodePayload W shape cells payload).cameraIdStart =
      ⟨true, (decodePayload W shape cells payload).cameraId,
        (decodePayload W shape cells payload).cameraIdEnd⟩ := by
  unfold decodePayload at h ⊢
  unfold cameraFieldStart
  rw [hh]
  dsimp only
  split_ifs at h ⊢ with hc
  · unfold decodeConnect at h ⊢
    split at h
    · cases h
    · rename_i b start hb
      rw [hb]
      dsimp only at h ⊢
      split_ifs at h ⊢ with hid
      exact ⟨rfl, by rw [← hid]⟩
  · unfold decodeCameraId at h ⊢
    exact ⟨rfl, by rw [← h]⟩

variable {r : AbiRecipe} {code : ℕ} {parcel : Parcel β} {callingUid callingPid : ℤ}

/-- **The observation of a single-camera request** with a valid header. -/
theorem observe_single (callingUid callingPid : ℤ)
    (hsh : (classifyBinderTransaction r code).payloadShape.singleCamera = true)
    (hh : readAndCheckHeader W parcel.cells = (.ok, payload)) :
    let decoded := decodePayload W (classifyBinderTransaction r code).payloadShape parcel.cells
      payload
    observeAndroid14CameraServiceParcel W r code (some parcel) callingUid callingPid =
      { status := if decoded.decoded then .observed else .malformedPayload
        transaction := classifyBinderTransaction r code
        callingUid := callingUid, callingPid := callingPid
        cameraId := decoded.cameraId
        packageName := decoded.packageName
        initialDataPosition := parcel.dataPosition, finalDataPosition := parcel.dataPosition
        cameraIdStart := decoded.cameraIdStart
        cameraIdEnd := decoded.cameraIdEnd } := by
  unfold observeAndroid14CameraServiceParcel
  dsimp only
  cases hs : (classifyBinderTransaction r code).payloadShape <;> rw [hs] at hsh <;>
    first | (exfalso; revert hsh; decide) | simp [hh]

theorem exists_of_validHeader (h : ValidHeader W cells) :
    ∃ payload, readAndCheckHeader W cells = (.ok, payload) :=
  ⟨(readAndCheckHeader W cells).2, Prod.ext h rfl⟩

@[simp] theorem observe_transaction :
    (observeAndroid14CameraServiceParcel W r code (some parcel) callingUid
      callingPid).transaction = classifyBinderTransaction r code := by
  unfold observeAndroid14CameraServiceParcel
  dsimp only
  split_ifs
  · rfl
  · split
    · rfl
    · rfl
    · split <;> rfl

theorem validHeader_of_observed
    (h : (observeAndroid14CameraServiceParcel W r code (some parcel) callingUid
      callingPid).status = .observed) : ValidHeader W parcel.cells := by
  unfold observeAndroid14CameraServiceParcel at h
  dsimp only at h
  unfold ValidHeader
  split_ifs at h
  split at h
  · cases h
  · cases h
  · rename_i hh
    rw [hh]

section Observed

variable
  (hobs : observeAndroid14CameraServiceParcel W r code (some parcel) callingUid callingPid = obs)
  (hs : obs.transaction.payloadShape.singleCamera = true) (h : obs.status = .observed)

include hobs hs h

/-- **What an observed single-camera request contains**: the camera field starts at
`cameraIdStart`, reads as the observed text and ends at `cameraIdEnd`. -/
theorem observed_field :
    cameraFieldStart W obs.transaction.payloadShape parcel.cells = some obs.cameraIdStart ∧
    readCameraId W obs.transaction.payloadShape parcel.cells obs.cameraIdStart =
      ⟨true, obs.cameraId, obs.cameraIdEnd⟩ := by
  subst hobs
  obtain ⟨payload, hp⟩ := exists_of_validHeader (validHeader_of_observed h)
  rw [observe_transaction] at hs ⊢
  have he := observe_single callingUid callingPid hs hp
  rw [he] at h ⊢
  have hd : (decodePayload W (classifyBinderTransaction r code).payloadShape parcel.cells
      payload).decoded = true := by
    by_contra hn
    simp [hn] at h
  exact decodePayload_decoded hp hd

theorem dataPosition_of_observed : obs.initialDataPosition = parcel.dataPosition ∧
    obs.finalDataPosition = parcel.dataPosition := by
  subst hobs
  obtain ⟨payload, hp⟩ := exists_of_validHeader (validHeader_of_observed h)
  rw [observe_transaction] at hs
  rw [observe_single _ _ hs hp]
  exact ⟨rfl, rfl⟩

theorem cameraField_of_observed :
    cameraField W obs.transaction.payloadShape parcel.cells =
      some (nameOfText obs.transaction.payloadShape obs.cameraId) := by
  obtain ⟨hst, hid⟩ := observed_field hobs hs h
  rw [cameraField, hst]
  exact (readCameraId_ok hid).1

end Observed

/-! ## Observation of a request by its fields -/

theorem readAsciiString16_of_read (h : (W.string16.readAt cells pos).1 = some value) :
    (readAsciiString16 W cells pos).ok = observableString value ∧
    (readAsciiString16 W cells pos).next = (W.string16.readAt cells pos).2 ∧
    (observableString value = true →
      (readAsciiString16 W cells pos).text = value.map asciiChar) := by
  have hr : W.string16.readAt cells pos = (some value, (W.string16.readAt cells pos).2) :=
    Prod.ext h rfl
  unfold readAsciiString16
  rw [hr]
  dsimp only
  by_cases hlen : value.length > kMaxObservedStringLength
  · rw [if_pos hlen]
    have hno : observableString value = false := by simp [observableString, not_le.mpr hlen]
    exact ⟨hno.symm, rfl, fun ho => by rw [hno] at ho; cases ho⟩
  · rw [if_neg hlen]
    refine ⟨by simp [observableString, not_lt.mp hlen], rfl, fun ho => ?_⟩
    have hall := (observableString_iff.mp ho).2
    dsimp only
    rw [takeWhile_eq_self_iff.mpr (by simpa using hall)]

theorem readCameraId_of_read
    (h : (if shape.integerId then (W.int32.readAt cells pos).1.map CameraName.index
      else (W.string16.readAt cells pos).1.map CameraName.id) = some name) :
    (readCameraId W shape cells pos).ok = name.observable ∧
    (readCameraId W shape cells pos).next = cameraFieldNext W shape cells pos ∧
    (name.observable = true → (readCameraId W shape cells pos).text = name.text) := by
  unfold readCameraId cameraFieldNext
  split_ifs at h ⊢ with hs
  · obtain ⟨value, hv, rfl⟩ := Option.map_eq_some_iff.mp h
    have hr : W.int32.readAt cells pos = (some value, (W.int32.readAt cells pos).2) :=
      Prod.ext hv rfl
    unfold readIntegerCameraId
    rw [hr]
    dsimp only
    by_cases hneg : value < 0
    · simp [hneg, CameraName.observable]
    · simp [hneg, CameraName.observable, CameraName.text, not_lt.mp hneg]
  · obtain ⟨units, hu, rfl⟩ := Option.map_eq_some_iff.mp h
    exact readAsciiString16_of_read hu

theorem validHeader_of_cameraFieldStart {s : ℕ}
    (h : cameraFieldStart W shape cells = some s) : ValidHeader W cells := by
  unfold cameraFieldStart at h
  unfold ValidHeader
  split at h
  · rename_i hh
    rw [hh]
  · cases h

theorem decodePayload_of_fields {claim : List Char16}
    (hh : readAndCheckHeader W cells = (.ok, payload))
    (hna : cameraField W shape cells = some name)
    (hclaim : shape.connect = true → claimField W shape cells = some claim) :
    ((decodePayload W shape cells payload).decoded = true ↔
      name.observable = true ∧ (shape.connect = true → observableString claim = true)) ∧
    ((decodePayload W shape cells payload).decoded = true →
      (decodePayload W shape cells payload).cameraId = name.text ∧
      (decodePayload W shape cells payload).packageName =
        if shape.connect then claim.map asciiChar else []) := by
  obtain ⟨start, hs, hr⟩ := Option.bind_eq_some_iff.mp hna
  obtain ⟨hok, hn, ht⟩ := readCameraId_of_read hr
  unfold cameraFieldStart at hs
  rw [hh] at hs
  dsimp only at hs
  unfold decodePayload
  split_ifs at hs ⊢ with hc
  · split at hs
    · rename_i b s hb
      obtain rfl : s = start := by simpa using hs
      have hcl := hclaim hc
      unfold claimField cameraFieldStart at hcl
      rw [hh] at hcl
      dsimp only at hcl
      rw [if_pos hc, hb] at hcl
      have hcla : (W.string16.readAt cells (cameraFieldNext W shape cells s)).1 = some claim :=
        hcl
      obtain ⟨hcok, -, hct⟩ := readAsciiString16_of_read hcla
      unfold decodeConnect
      rw [hb]
      dsimp only
      rw [hn]
      by_cases ho : name.observable = true
      · rw [if_pos (hok.trans ho)]
        dsimp only
        rw [hcok]
        exact ⟨by simp [ho, hc], fun h => ⟨ht ho, hct h⟩⟩
      · rw [if_neg (by rw [hok]; exact ho)]
        simp [ho]
    · cases hs
  · obtain rfl : payload = start := by simpa using hs
    unfold decodeCameraId
    dsimp only
    rw [hok]
    exact ⟨by simp [hc], fun h => ⟨ht h, rfl⟩⟩

/-- **Which requests are observed, and as what**, by the fields that the service reads. -/
theorem observe_of_fields {c : List Char16}
    (hsh : (classifyBinderTransaction r code).payloadShape = shape)
    (hs : shape.singleCamera = true) (hn : cameraField W shape parcel.cells = some name)
    (hc : shape.connect = true → claimField W shape parcel.cells = some c)
    (hobs : observeAndroid14CameraServiceParcel W r code (some parcel) callingUid callingPid =
      obs) :
    (obs.status = .observed ↔
      name.observable = true ∧ (shape.connect = true → observableString c = true)) ∧
    obs.callingUid = callingUid ∧ obs.callingPid = callingPid ∧
    (obs.status = .observed → obs.cameraId = name.text ∧
      obs.packageName = if shape.connect then c.map asciiChar else []) := by
  subst hobs hsh
  obtain ⟨start, hsta, -⟩ := Option.bind_eq_some_iff.mp hn
  obtain ⟨payload, hp⟩ := exists_of_validHeader (validHeader_of_cameraFieldStart hsta)
  obtain ⟨hdec, hf⟩ := decodePayload_of_fields hp hn hc
  have he := observe_single callingUid callingPid hs hp
  rw [he]
  have hst : (if (decodePayload W (classifyBinderTransaction r code).payloadShape parcel.cells
      payload).decoded then ParcelObservationStatus.observed else .malformedPayload) = .observed ↔
      (decodePayload W (classifyBinderTransaction r code).payloadShape parcel.cells
        payload).decoded = true := by
    split_ifs with hd <;> simp [hd]
  exact ⟨hst.trans hdec, rfl, rfl, fun h => hf (hst.mp h)⟩

end Vcam
