import AndroidVcam.Binder.ParcelObserver

/-!
# The camera-ID rewriter

`runtime/platform/Android14CameraIdRewriter.cpp`: a copy of an observed request with another
camera in the observed field.

* **`cameraField_rewrite`**: the service reads the replacement in the rewritten parcel;
* `rewrite_observed`: an observed request can be rewritten to every `Replaceable` text.
-/

namespace Vcam

open TextFile Wire List

/-! ## Replacement texts -/

/-- The loop of `parseNonNegativeInteger`, with `result` as accumulator. -/
def parseDigits : ℕ → Text → Option ℕ
  | result, [] => some result
  | result, c :: cs =>
    if c.isDigit then
      let next := result * 10 + (c.toNat - '0'.toNat)
      if next > 2 ^ 31 - 1 then none else parseDigits next cs
    else none

def parseNonNegativeInteger (value : Text) : Option ℕ :=
  if value = [] then none else parseDigits 0 value

def isAscii (value : Text) : Bool :=
  !value.isEmpty && decide (value.length ≤ 255) && value.all fun c => decide (c.toNat ≤ 0x7f)

theorem le_ofDigitChars (s : Text) (n : ℕ) : n ≤ Nat.ofDigitChars 10 s n := by
  induction s generalizing n with
  | nil => simp [Nat.ofDigitChars]
  | cons c s ih =>
    have := ih (10 * n + (c.toNat - '0'.toNat))
    simp only [Nat.ofDigitChars, foldl_cons] at this ⊢
    omega

theorem parseDigits_eq_some_iff {s : Text} {r n : ℕ} (hr : r ≤ 2 ^ 31 - 1) :
    parseDigits r s = some n ↔
      s.all Char.isDigit = true ∧ Nat.ofDigitChars 10 s r = n ∧ n ≤ 2 ^ 31 - 1 := by
  induction s generalizing r with
  | nil =>
    simp only [parseDigits, Option.some.injEq, all_nil, Nat.ofDigitChars, foldl_nil,
      true_and]
    constructor
    · rintro rfl; exact ⟨rfl, hr⟩
    · exact fun h => h.1
  | cons c s ih =>
    have hs : Nat.ofDigitChars 10 (c :: s) r =
        Nat.ofDigitChars 10 s (r * 10 + (c.toNat - '0'.toNat)) := by
      simp only [Nat.ofDigitChars, foldl_cons]
      rw [Nat.mul_comm 10 r]
    rw [parseDigits, hs, all_cons, Bool.and_eq_true]
    split_ifs with hc
    · dsimp only
      split_ifs with hbig
      · have hle := le_ofDigitChars s (r * 10 + (c.toNat - '0'.toNat))
        constructor
        · intro h; cases h
        · rintro ⟨-, rfl, hn⟩; omega
      · rw [ih (by omega)]
        simp [hc]
    · simp [hc]

/-- **The accepted indexes**: decimal digits with a value below `2 ^ 31`. -/
theorem parseNonNegativeInteger_eq_some_iff {s : Text} {n : ℕ} :
    parseNonNegativeInteger s = some n ↔ isDigits s = true ∧ digitsValue s = n ∧ n < 2 ^ 31 := by
  unfold parseNonNegativeInteger isDigits digitsValue
  split_ifs with hs
  · simp [hs]
  · rw [parseDigits_eq_some_iff (by norm_num)]
    simp only [Bool.and_eq_true, Bool.not_eq_true', isEmpty_eq_false_iff, ne_eq, hs,
      not_false_eq_true, true_and]
    refine and_congr Iff.rfl (and_congr Iff.rfl ?_)
    omega

theorem isAscii_iff {s : Text} : isAscii s = true ↔ s ≠ [] ∧ s.length ≤ 255 ∧ isAsciiText s := by
  simp [isAscii, isAsciiText, and_assoc]

/-! ## The copier -/

inductive CameraIdRewriteFailure
  | notEligible
  | invalidOffsets
  | invalidReplacement
  | copyFailed
  | writeFailed
deriving DecidableEq, Repr

/-- The answers of libbinder while the output is built; each operation can fail for lack of
memory. -/
structure ParcelWriteResults where
  setDataSize : Bool
  appendHead : Bool
  writeId : Bool
  appendTail : Bool

/-- Every operation on the output succeeds. -/
def ParcelWriteResults.Succeed (ops : ParcelWriteResults) : Prop :=
  ops.setDataSize = true ∧ ops.appendHead = true ∧ ops.writeId = true ∧ ops.appendTail = true

def remapDataPosition (originalPosition originalStart originalEnd replacementEnd : ℕ) : ℕ :=
  if originalPosition ≤ originalStart then originalPosition
  else if originalPosition < originalEnd then replacementEnd
  else replacementEnd + (originalPosition - originalEnd)

variable {β ι : Type} (W : ParcelFormat β ι)

/-- The cells of the new camera field: `writeString16(String16(replacement.c_str()))`, or
`writeInt32` of the parsed index. -/
def replacementField (shape : BinderPayloadShape) (replacementCameraId : Text) : Option (List β) :=
  if shape.integerId then
    (parseNonNegativeInteger replacementCameraId).map fun index : ℕ => W.int32.write (index : ℤ)
  else some (W.string16.write (ascii16 (cStr replacementCameraId)))

def rewriteAndroid14CameraId (ops : ParcelWriteResults) (observation : ParcelObservation)
    (replacementCameraId : Text) (input : Parcel β) : Except CameraIdRewriteFailure (Parcel β) :=
  let start := observation.cameraIdStart
  let fieldEnd := observation.cameraIdEnd
  let shape := observation.transaction.payloadShape
  if observation.status ≠ .observed ∨ observation.transaction.cameraScoped = false ∨
      observation.cameraId = [] then .error .notEligible
  else if fieldEnd ≤ start ∨ input.cells.length < fieldEnd then .error .invalidOffsets
  else if isAscii replacementCameraId = false then .error .invalidReplacement
  else if shape.singleCamera = false then .error .notEligible
  else if ops.setDataSize = false ∨ (start ≠ 0 ∧ ops.appendHead = false) then .error .copyFailed
  else match replacementField W shape replacementCameraId with
    | none => .error .invalidReplacement
    | some field =>
      if ops.writeId = false then .error .writeFailed
      else if input.cells.length - fieldEnd ≠ 0 ∧ ops.appendTail = false then .error .copyFailed
      else
        let output := input.cells.take start ++ (field ++ input.cells.drop fieldEnd)
        let position := remapDataPosition observation.initialDataPosition start fieldEnd
          (start + field.length)
        if h : position ≤ output.length then .ok ⟨output, position, h⟩ else .error .writeFailed

/-! ## What a rewrite produces -/

variable {W} {ops : ParcelWriteResults} {obs : ParcelObservation} {i output : Parcel β}
  {replacement : Text}

theorem remap_le {pos s stop n len : ℕ} (he : stop ≤ len) (hpos : pos ≤ len) :
    remapDataPosition pos s stop (s + n) ≤ s + (n + (len - stop)) := by
  unfold remapDataPosition
  split_ifs <;> omega

theorem rewrite_ok (h : rewriteAndroid14CameraId W ops obs replacement i = .ok output) :
    isAscii replacement = true ∧ obs.status = .observed ∧ obs.cameraId ≠ [] ∧
    obs.transaction.payloadShape.singleCamera = true ∧
    ∃ field, replacementField W obs.transaction.payloadShape replacement = some field ∧
      output.cells = i.cells.take obs.cameraIdStart ++
        (field ++ i.cells.drop obs.cameraIdEnd) ∧
      output.dataPosition = remapDataPosition obs.initialDataPosition obs.cameraIdStart
        obs.cameraIdEnd (obs.cameraIdStart + field.length) := by
  unfold rewriteAndroid14CameraId at h
  dsimp only at h
  cases hf : replacementField W obs.transaction.payloadShape replacement with
  | none =>
    rw [hf] at h
    split_ifs at h
  | some field =>
    rw [hf] at h
    dsimp only at h
    split_ifs at h with h1 h2 h3 h4 h5 h6 h7 h8
    obtain rfl : _ = output := Except.ok.inj h
    simp only [not_or, not_not] at h1
    exact ⟨by simpa using h3, h1.1, h1.2.2, by simpa using h4, field, rfl, rfl, rfl⟩

/-- A rewrite succeeds when the request is eligible, the replacement is acceptable and libbinder
does its part. -/
theorem rewrite_succeeds (hops : ops.Succeed) (hst : obs.status = .observed)
    (hs : obs.transaction.cameraScoped = true) (hid : obs.cameraId ≠ [])
    (hsh : obs.transaction.payloadShape.singleCamera = true)
    (hpos : obs.initialDataPosition ≤ i.cells.length)
    (hoff : obs.cameraIdStart < obs.cameraIdEnd) (hend : obs.cameraIdEnd ≤ i.cells.length)
    (ha : isAscii replacement = true) {f : List β}
    (hf : replacementField W obs.transaction.payloadShape replacement = some f) :
    ∃ output, rewriteAndroid14CameraId W ops obs replacement i = .ok output ∧
      output.cells = i.cells.take obs.cameraIdStart ++
        (f ++ i.cells.drop obs.cameraIdEnd) := by
  obtain ⟨h1, h2, h3, h4⟩ := hops
  have hlen : (i.cells.take obs.cameraIdStart ++
      (f ++ i.cells.drop obs.cameraIdEnd)).length =
        obs.cameraIdStart + (f.length + (i.cells.length - obs.cameraIdEnd)) := by
    simp only [length_append, length_take, length_drop]
    omega
  have hp : remapDataPosition obs.initialDataPosition obs.cameraIdStart obs.cameraIdEnd
      (obs.cameraIdStart + f.length) ≤ (i.cells.take obs.cameraIdStart ++
        (f ++ i.cells.drop obs.cameraIdEnd)).length := by
    rw [hlen]
    exact remap_le hend hpos
  refine ⟨⟨_, _, hp⟩, ?_, rfl⟩
  unfold rewriteAndroid14CameraId
  dsimp only
  rw [if_neg (by simp [hst, hs, hid]), if_neg (by omega), if_neg (by simp [ha]),
    if_neg (by simp [hsh]), if_neg (by simp [h1, h2]), hf]
  dsimp only
  rw [if_neg (by simp [h3]), if_neg (by simp [h4]), dif_pos hp]

theorem writable_replacement (ha : isAscii replacement = true) :
    W.string16.Writable (ascii16 (cStr replacement)) := by
  have hlen := (isAscii_iff.mp ha).2.1
  have hcl : (cStr replacement).length ≤ replacement.length := (List.takeWhile_prefix _).length_le
  exact W.string16_writable (by simp only [ascii16, length_map]; omega)

/-- A replacement field reads back as the camera it was written for. -/
theorem replacementField_reads {s : BinderPayloadShape} {field : List β}
    (ha : isAscii replacement = true)
    (hf : replacementField W s replacement = some field) (l r : List β) :
    (if s.integerId then
        (W.int32.readAt (l ++ (field ++ r)) l.length).1.map CameraName.index
      else (W.string16.readAt (l ++ (field ++ r)) l.length).1.map CameraName.id) =
      some (nameOfText s (cStr replacement)) := by
  unfold replacementField at hf
  unfold nameOfText
  split_ifs at hf ⊢ with hs
  · obtain ⟨index, hp, rfl⟩ := Option.map_eq_some_iff.mp hf
    obtain ⟨hd, hv, hlt⟩ := parseNonNegativeInteger_eq_some_iff.mp hp
    have hw : W.int32.Writable index := W.int32_writable (by omega) (by omega)
    have hc : cStr replacement = replacement := cStr_eq_self_iff.mpr fun hm => by
      simp only [isDigits, Bool.and_eq_true] at hd
      exact absurd (all_eq_true.mp hd.2 _ hm) (by decide)
    rw [Codec.readAt_write hw, hc, hv]
    rfl
  · obtain rfl : W.string16.write (ascii16 (cStr replacement)) = field := by simpa using hf
    rw [Codec.readAt_write (writable_replacement ha)]
    rfl

/-- **The service reads the replacement** in a rewritten parcel: the ID up to its first NUL, or
the index. -/
theorem cameraField_rewrite {r : AbiRecipe} {code : ℕ} {uid pid : ℤ}
    (hobs : observeAndroid14CameraServiceParcel W r code (some i) uid pid =
      obs)
    (h : rewriteAndroid14CameraId W ops obs replacement i = .ok output) :
    cameraField W obs.transaction.payloadShape output.cells =
      some (nameOfText obs.transaction.payloadShape (cStr replacement)) := by
  obtain ⟨ha, hst, -, hsh, field, hf, hc, -⟩ := rewrite_ok h
  obtain ⟨hs, hid⟩ := observed_field hobs hsh hst
  obtain ⟨-, -, hlt, hle⟩ := readCameraId_ok hid
  have hl : (i.cells.take obs.cameraIdStart).length = obs.cameraIdStart := by
    rw [length_take]
    omega
  have hr := replacementField_reads ha hf (i.cells.take obs.cameraIdStart)
    (i.cells.drop obs.cameraIdEnd)
  rw [hl] at hr
  rw [cameraField, hc, cameraFieldStart_take hs le_rfl]
  exact hr

/-- The replacement can stand in the camera field: an ASCII text of 1 to 255 characters, and an
index below `2 ^ 31` where the field is an integer. -/
def Replaceable (shape : BinderPayloadShape) (replacement : Text) : Prop :=
  isAscii replacement = true ∧
    (shape.integerId = true → isDigits replacement = true ∧ digitsValue replacement < 2 ^ 31)

theorem replaceable_of_rewrite (h : rewriteAndroid14CameraId W ops obs replacement i = .ok output) :
    Replaceable obs.transaction.payloadShape replacement := by
  obtain ⟨ha, -, -, -, field, hf, -⟩ := rewrite_ok h
  refine ⟨ha, fun hs => ?_⟩
  rw [replacementField, if_pos hs] at hf
  obtain ⟨index, hp, -⟩ := Option.map_eq_some_iff.mp hf
  obtain ⟨hd, rfl, hlt⟩ := parseNonNegativeInteger_eq_some_iff.mp hp
  exact ⟨hd, hlt⟩

/-- **An observed request can be rewritten to every such replacement** when libbinder does its
part. -/
theorem rewrite_observed {r : AbiRecipe} {code : ℕ} {uid pid : ℤ}
    (hobs : observeAndroid14CameraServiceParcel W r code (some i) uid pid =
      obs)
    (hsh : obs.transaction.payloadShape.singleCamera = true) (hst : obs.status = .observed)
    (hid : obs.cameraId ≠ []) (hops : ops.Succeed)
    (hr : Replaceable obs.transaction.payloadShape replacement) :
    ∃ output, rewriteAndroid14CameraId W ops obs replacement i = .ok output ∧
      cameraField W obs.transaction.payloadShape output.cells =
        some (nameOfText obs.transaction.payloadShape (cStr replacement)) := by
  obtain ⟨-, hre⟩ := observed_field hobs hsh hst
  obtain ⟨-, -, hlt, hle⟩ := readCameraId_ok hre
  have hpos : obs.initialDataPosition ≤ i.cells.length := by
    rw [(dataPosition_of_observed hobs hsh hst).1]
    exact i.position_le
  have hsc : obs.transaction.cameraScoped = true := by
    rw [← hobs, observe_transaction] at hsh ⊢
    exact cameraScoped_of_singleCamera hsh
  have hf : ∃ field,
      replacementField W obs.transaction.payloadShape replacement = some field := by
    unfold replacementField
    split_ifs with hs
    · obtain ⟨hd, hv⟩ := hr.2 hs
      rw [parseNonNegativeInteger_eq_some_iff.mpr ⟨hd, rfl, hv⟩]
      exact ⟨_, rfl⟩
    · exact ⟨_, rfl⟩
  obtain ⟨field, hf⟩ := hf
  obtain ⟨output, hout, -⟩ :=
    rewrite_succeeds hops hst hsc hid hsh hpos hlt hle hr.1 hf
  exact ⟨output, hout, cameraField_rewrite hobs hout⟩

end Vcam
