import AndroidVcam.Binder.AndroidFormat
import AndroidVcam.Binder.CameraIdRewriter

/-!
# A rewrite changes the camera and nothing else

An observed request, rewritten by `rewriteAndroid14CameraId` and observed again: the two differ in
the camera, and the cursor of the copy stands where that of the original stood.

* `claimField_splice`: another camera in front of it does not move it;
* **`rewrite_exact`**.
-/

namespace Vcam

open TextFile Wire List

variable {β ι : Type} {W : ParcelFormat β ι} {recipe : AbiRecipe} {code : ℕ}
  {callingUid callingPid : ℤ} {obs : ParcelObservation} {input : Parcel β} {replacement : Text}

variable {c : List β} {s : BinderPayloadShape}

theorem cameraFieldNext_of_read {pos next : ℕ} {text : Text}
    (h : readCameraId W s c pos = ⟨true, text, next⟩) :
    cameraFieldNext W s c pos = next := by
  have hn := (readCameraId_of_read (readCameraId_ok h).1).2.1
  rw [h] at hn
  exact hn.symm

theorem decodePayload_package {p : ℕ} (hc : s.connect = true)
    (h : (decodePayload W s c p).decoded = true) :
    ∃ next, readAsciiString16 W c (decodePayload W s c p).cameraIdEnd =
      ⟨true, (decodePayload W s c p).packageName, next⟩ := by
  rw [decodePayload, if_pos hc, decodeConnect] at h ⊢
  split at h
  · cases h
  · dsimp only at h ⊢
    split_ifs at h ⊢ with hid
    exact ⟨_, by rw [← h]⟩

theorem claimField_of_observed
    (hobs : observeAndroid14CameraServiceParcel W recipe code (some input) callingUid callingPid =
      obs)
    (hs : obs.transaction.payloadShape.singleCamera = true) (hst : obs.status = .observed)
    (hc : obs.transaction.payloadShape.connect = true) :
    ∃ claim next, W.string16.readAt input.cells obs.cameraIdEnd = (some claim, next) ∧
      observableString claim = true ∧ obs.packageName = claim.map asciiChar := by
  subst hobs
  obtain ⟨payload, hp⟩ := exists_of_validHeader (validHeader_of_observed hst)
  rw [observe_transaction] at hs hc
  rw [observe_single callingUid callingPid hs hp] at hst ⊢
  have hd : (decodePayload W (classifyBinderTransaction recipe code).payloadShape input.cells
      payload).decoded = true := by
    by_contra hn
    simp [hn] at hst
  obtain ⟨next, hr⟩ := decodePayload_package hc hd
  obtain ⟨claim, hcl, ho, ht⟩ := readAsciiString16_ok_iff.mp hr
  exact ⟨claim, next, hcl, ho, ht⟩

theorem readAt_splice {α : Type} {d : Decoder β α} {f : List β} {s fieldEnd next : ℕ}
    {a : α} (hs : s ≤ c.length) (h : d.readAt c fieldEnd = (some a, next)) :
    d.readAt (c.take s ++ (f ++ c.drop fieldEnd)) (s + f.length) =
      (some a, s + f.length + (next - fieldEnd)) := by
  obtain ⟨n, hr, rfl⟩ := Decoder.read_of_readAt h
  have hd : (c.take s ++ (f ++ c.drop fieldEnd)).drop (s + f.length) =
      c.drop fieldEnd := by
    rw [← append_assoc]
    exact drop_left' (by simp; omega)
  rw [Decoder.readAt, hd, hr, Nat.add_sub_cancel_left]

theorem cameraFieldNext_replacement {field : List β} (hr : Replaceable s replacement)
    (hf : replacementField W s replacement = some field) (l r : List β) :
    cameraFieldNext W s (l ++ (field ++ r)) l.length = l.length + field.length := by
  rw [replacementField] at hf
  rw [cameraFieldNext]
  split_ifs at hf ⊢ with hs
  · obtain ⟨index, hp, rfl⟩ := Option.map_eq_some_iff.mp hf
    obtain ⟨-, -, hlt⟩ := parseNonNegativeInteger_eq_some_iff.mp hp
    have hw : W.int32.Writable index := W.int32_writable (by omega) (by omega)
    rw [Codec.readAt_write hw]
  · obtain rfl : W.string16.write (ascii16 (cStr replacement)) = field := by simpa using hf
    rw [Codec.readAt_write (writable_replacement hr.1)]

/-- The text of the camera after a rewrite: the replacement, or its canonical decimal. -/
def rewrittenId (shape : BinderPayloadShape) (replacement : Text) : Text :=
  if shape.integerId then decimal (digitsValue replacement) else replacement

theorem nameOfText_replacement (hr : Replaceable s replacement) (hnul : '\x00' ∉ replacement) :
    (nameOfText s (cStr replacement)).observable = true ∧
      (nameOfText s (cStr replacement)).text = rewrittenId s replacement := by
  obtain ⟨-, hlen, ha⟩ := isAscii_iff.mp hr.1
  rw [cStr_eq_self_iff.mpr hnul, nameOfText, rewrittenId]
  split_ifs
  · exact ⟨by simp [CameraName.observable], by simp [CameraName.text]⟩
  · exact ⟨observableString_ascii16 ha hlen, map_asciiChar_ascii16 ha⟩

/-- **A rewrite changes the camera and nothing else.** -/
theorem rewrite_exact {ops : ParcelWriteResults}
    (hobs : observeAndroid14CameraServiceParcel W recipe code (some input) callingUid callingPid =
      obs)
    (hshape : obs.transaction.payloadShape.singleCamera = true) (hst : obs.status = .observed)
    (hid : obs.cameraId ≠ []) (hops : ops.Succeed)
    (hr : Replaceable obs.transaction.payloadShape replacement) (hnul : '\x00' ∉ replacement) :
    ∃ output again, rewriteAndroid14CameraId W ops obs replacement input = .ok output ∧
      observeAndroid14CameraServiceParcel W recipe code (some output) callingUid callingPid = again ∧
      again.status = obs.status ∧ again.transaction = obs.transaction ∧
      again.packageName = obs.packageName ∧
      again.cameraId = rewrittenId obs.transaction.payloadShape replacement ∧
      again.cameraIdStart = obs.cameraIdStart ∧
      output.cells.take again.cameraIdStart = input.cells.take obs.cameraIdStart ∧
      output.cells.drop again.cameraIdEnd = input.cells.drop obs.cameraIdEnd ∧
      (input.dataPosition ≤ obs.cameraIdStart → output.dataPosition = input.dataPosition) ∧
      (obs.cameraIdEnd ≤ input.dataPosition →
        output.cells.length - output.dataPosition = input.cells.length - input.dataPosition) ∧
      obs.finalDataPosition = input.dataPosition := by
  obtain ⟨hs, hre⟩ := observed_field hobs hshape hst
  obtain ⟨-, -, hlt, hle⟩ := readCameraId_ok hre
  obtain ⟨hi, hfin⟩ := dataPosition_of_observed hobs hshape hst
  obtain ⟨output, hout, -⟩ := rewrite_observed hobs hshape hst hid hops hr
  obtain ⟨-, -, -, -, field, hfi, hc, hp⟩ := rewrite_ok hout
  have hta : (input.cells.take obs.cameraIdStart).length = obs.cameraIdStart := by
    rw [length_take]
    omega
  -- The camera and the package of the copy.
  have hna := cameraField_rewrite hobs hout
  obtain ⟨ho, hte⟩ := nameOfText_replacement hr hnul
  have hs' : cameraFieldStart W obs.transaction.payloadShape output.cells =
      some obs.cameraIdStart := by
    rw [hc]
    exact cameraFieldStart_take hs le_rfl _
  have hn : cameraFieldNext W obs.transaction.payloadShape output.cells obs.cameraIdStart =
      obs.cameraIdStart + field.length := by
    have h := cameraFieldNext_replacement hr hfi (input.cells.take obs.cameraIdStart)
      (input.cells.drop obs.cameraIdEnd)
    rwa [hta, ← hc] at h
  have hcl : ∃ claim, obs.transaction.payloadShape.connect = true →
      claimField W obs.transaction.payloadShape input.cells = some claim ∧
      claimField W obs.transaction.payloadShape output.cells = some claim ∧
      observableString claim = true := by
    by_cases hco : obs.transaction.payloadShape.connect = true
    · obtain ⟨claim, next, hcla, hclaimed, -⟩ := claimField_of_observed hobs hshape hst hco
      refine ⟨claim, fun _ => ⟨?_, ?_, hclaimed⟩⟩
      · rw [claimField, hs, Option.bind_some, cameraFieldNext_of_read hre, hcla]
      · rw [claimField, hs', Option.bind_some, hn, hc, readAt_splice (by omega) hcla]
    · exact ⟨[], fun h => absurd h hco⟩
  obtain ⟨claim, hcl⟩ := hcl
  have ht : classifyBinderTransaction recipe code = obs.transaction := by
    rw [← hobs, observe_transaction]
  have hf := observe_of_fields (by rw [ht]) hshape
    (cameraField_of_observed hobs hshape hst) (fun h => (hcl h).1) hobs
  obtain ⟨again, hag⟩ : ∃ again, observeAndroid14CameraServiceParcel W recipe code (some output)
      callingUid callingPid = again := ⟨_, rfl⟩
  have hf' := observe_of_fields (by rw [ht]) hshape hna
    (fun h => (hcl h).2.1) hag
  have hst' : again.status = .observed :=
    hf'.1.mpr ⟨ho, fun h => (hcl h).2.2⟩
  have ht' : again.transaction = obs.transaction := by
    rw [← hag, observe_transaction, ht]
  obtain ⟨hid', hp'⟩ := hf'.2.2.2 hst'
  -- The places of the camera in the copy.
  obtain ⟨ha, har⟩ := observed_field hag (ht' ▸ hshape) hst'
  rw [ht', hs', Option.some.injEq] at ha
  have hae : again.cameraIdEnd = obs.cameraIdStart + field.length := by
    rw [← hn, ha, ← ht', cameraFieldNext_of_read har]
  refine ⟨output, again, hout, hag, hst'.trans hst.symm, ht', ?_, hid'.trans hte,
    ha.symm, ?_, ?_, fun hb => ?_, fun hbe => ?_, ?_⟩
  · rw [hp', (hf.2.2.2 hst).2]
  · rw [← ha, hc]
    exact take_left' hta
  · rw [hae, hc, ← append_assoc]
    exact drop_left' (by rw [length_append, hta])
  · rw [hp, hi, remapDataPosition, if_pos hb]
  · have hpos := input.position_le
    have hlen : output.cells.length =
        obs.cameraIdStart + (field.length + (input.cells.length - obs.cameraIdEnd)) := by
      rw [hc, length_append, length_append, hta, length_drop]
    rw [hp, hi, remapDataPosition, if_neg (by omega), if_neg (by omega), hlen]
    omega
  · exact hfin

def connectRequest : Parcel AndroidFormat.Cell :=
  ⟨requestCells androidFormat .connectDevice 1 (.id (ascii16 "0")) (ascii16 "a.b"), 0,
    Nat.zero_le _⟩

def connectRecipe : AbiRecipe := ⟨[⟨"connect_device", 3⟩]⟩

theorem rewrite_exact_connect : ∃ output,
    rewriteAndroid14CameraId androidFormat ⟨true, true, true, true⟩
      (observeAndroid14CameraServiceParcel androidFormat connectRecipe 3 (some connectRequest)
        10001 2000) "1000" connectRequest = .ok output ∧
    (observeAndroid14CameraServiceParcel androidFormat connectRecipe 3 (some output)
      10001 2000).cameraId = "1000" := by
  have hs : (classifyBinderTransaction connectRecipe 3).payloadShape = .connectDevice := by
    decide
  obtain ⟨obs, hobs⟩ : ∃ obs, observeAndroid14CameraServiceParcel androidFormat connectRecipe 3
      (some connectRequest) 10001 2000 = obs := ⟨_, rfl⟩
  have ht : obs.transaction.payloadShape = .connectDevice := by
    rw [← hobs, observe_transaction, hs]
  have hf : CameraName.Fits androidFormat .connectDevice (.id (ascii16 "0")) :=
    fits_android ⟨rfl, by decide⟩
  have hc : (ascii16 "a.b").length < 2 ^ 31 - 1 := by decide
  obtain ⟨hst, -, -, hfi⟩ := observe_of_fields hs rfl (cameraField_request trivial hf)
    (claimField_request trivial hf hc) hobs
  have ho : obs.status = .observed := hst.mpr ⟨by decide, fun _ => by decide⟩
  have hops : ParcelWriteResults.Succeed ⟨true, true, true, true⟩ := ⟨rfl, rfl, rfl, rfl⟩
  have hr : Replaceable obs.transaction.payloadShape "1000" := by
    rw [ht]
    exact ⟨by decide, nofun⟩
  obtain ⟨output, again, hout, ha, -, -, -, hid, -⟩ := rewrite_exact hobs
    (by rw [ht]; rfl) ho (by rw [(hfi ho).1]; decide) hops hr (by decide)
  exact ⟨output, hobs ▸ hout, by rw [ha, hid, rewrittenId, ht]; rfl⟩

end Vcam
