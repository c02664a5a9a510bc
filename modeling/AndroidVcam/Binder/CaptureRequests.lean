import AndroidVcam.Binder.CameraIdRewriter
import AndroidVcam.Binder.MessageFormat
import AndroidVcam.Lib.Splice

/-!
# Capture requests

`runtime/platform/Android14CameraDeviceUserRouter.cpp`: a client that opened a public camera names
it in its capture requests. The wrapper around its `ICameraDeviceUser` puts the device camera in
its place, in every request of a batch or in none.

* `marked_of_reads`: an accepted batch is a message whose marked fields are its camera IDs, and it
  is read the same with other IDs in them;
* **`rewriteRequestIds_exact`**: rewriting is exact, and everything else is forwarded as it is.
-/

namespace Vcam.DeviceUser

open TextFile Wire Splice List Reader Marked Option

variable {β ι : Type}

def kDeviceUserDescriptor : List Char16 :=
  ascii16 "android.hardware.camera2.ICameraDeviceUser"

/-- `FIRST_CALL_TRANSACTION + 1`. -/
def kSubmitRequestCode : ℕ := 2

/-- `FIRST_CALL_TRANSACTION + 2`. -/
def kSubmitRequestListCode : ℕ := 3

def kParcelablePresent : ℤ := 1

def kMaxRequestCount : ℤ := 256

def kMaxSurfaceCount : ℤ := 64

def kMaxMetadataBlobSize : ℤ := 64 * 1024 * 1024

def kMetadataAlignment : ℤ := 8

/-- The letters `bque`. -/
def kUseBufferQueue : ℤ := 0x62717565

abbrev CameraIdOffset := ℕ × ℕ

/-! ## Reading -/

section Read

variable (F : MessageFormat β ι)

def readAsciiString16 : Reader β (Text × CameraIdOffset) := do
  let start ← .position
  let text ← .field F.string16.toDecoder
  let stop ← .position
  .require (text.length ≠ 0 ∧ text.length ≤ 255)
  .require (text.all asciiUnit)
  pure (text.map asciiChar, start, stop)

def readAndCheckInterfaceHeader : Reader β Unit := do
  let _ ← .field F.int32.toDecoder
  let _ ← .field F.int32.toDecoder
  let header ← .field F.int32.toDecoder
  .require (header = expectedHeader)
  let descriptor ← .field F.string16.toDecoder
  .require (descriptor = kDeviceUserDescriptor)

def skipMetadata : Reader β Unit := do
  let blobSize ← .field F.int32.toDecoder
  .require (0 ≤ blobSize ∧ blobSize ≤ kMaxMetadataBlobSize)
  if blobSize = 0 then pure () else do
    .require (kMetadataAlignment < blobSize)
    .field (F.blob blobSize.toNat)
    let ignoredOffset ← .field F.int32.toDecoder
    .require (0 ≤ ignoredOffset ∧ ignoredOffset < kMetadataAlignment)

/-- The magic is read as a `uint32`; as an `int32` it is the same number. -/
def skipSurface : Reader β Unit := do
  let _ ← .field F.nullableString16
  let _ ← .field F.int32.toDecoder
  let producerMagic ← .field F.int32.toDecoder
  .require (producerMagic = kUseBufferQueue)
  let _ ← .field F.nullableStrongBinder
  let _ ← .field F.nullableStrongBinder
  pure ()

def skipNamedSurface : Reader β Unit := do
  let hasClassName ← .field F.hasUtf8FromUtf16
  .require (hasClassName = true)
  skipSurface F

def skipStreamSurface : Reader β Unit := do
  let _ ← .field F.int32.toDecoder
  let _ ← .field F.int32.toDecoder
  pure ()

def skipCounted (item : Reader β Unit) : Reader β Unit := do
  let count ← .field F.int32.toDecoder
  .require (0 ≤ count ∧ count ≤ kMaxSurfaceCount)
  let _ ← item.times count.toNat
  pure ()

def skipUserTag : Reader β Unit := do
  let hasUserTag ← .field F.int32.toDecoder
  if hasUserTag = 0 then pure () else do
    let tag ← .field F.nullableString16
    .require (tag.isSome = true)

/-- What stands in front of the camera ID of a request. -/
def requestFront : Reader β Unit := do
  let present ← .field F.int32.toDecoder
  .require (present = kParcelablePresent)
  let settingsCount ← .field F.int32.toDecoder
  .require (settingsCount = 1)

def requestBack : Reader β Unit := do
  skipMetadata F
  let _ ← .field F.int32.toDecoder
  skipCounted F (skipNamedSurface F)
  skipCounted F (skipStreamSurface F)
  skipUserTag F

def observeCaptureRequest (publicCameraId : Text) : Reader β CameraIdOffset := do
  requestFront F
  let (logicalCameraId, offset) ← readAsciiString16 F
  .require (logicalCameraId = publicCameraId)
  requestBack F
  pure offset

def readRequestCount (code : ℕ) : Reader β ℕ :=
  if code = kSubmitRequestListCode then do
    let requestCount ← .field F.int32.toDecoder
    .require (0 < requestCount ∧ requestCount ≤ kMaxRequestCount)
    pure requestCount.toNat
  else do
    .require (code = kSubmitRequestCode)
    pure 1

/-- A parcel of capture requests: the header, the requests and the streaming flag. -/
def requestBatch {α : Type} (code : ℕ) (request : Reader β α) : Reader β (List α) := do
  readAndCheckInterfaceHeader F
  let requestCount ← readRequestCount F code
  let requests ← request.times requestCount
  let _ ← .field F.int32.toDecoder
  pure requests

/-- The guard puts the cursor back, so only the cells matter. -/
def observeRequestOffsets (code : ℕ) (cells : List β) (publicCameraId : Text) :
    Option (List CameraIdOffset) :=
  (requestBatch F code (observeCaptureRequest F publicCameraId)).runAll cells

def captureRequest : Reader β (Text × CameraIdOffset) := do
  requestFront F
  let named ← readAsciiString16 F
  requestBack F
  pure named

end Read

/-! ## Rewriting -/

/-- The answers of libbinder while the output is built, by the index of the request. -/
structure RequestWriteResults where
  setDataSize : Bool
  appendSegment : ℕ → Bool
  writeId : ℕ → Bool
  appendTail : Bool

def RequestWriteResults.Succeed (ops : RequestWriteResults) : Prop :=
  ops.setDataSize = true ∧ (∀ index, ops.appendSegment index = true) ∧
    (∀ index, ops.writeId index = true) ∧ ops.appendTail = true

structure CopyState (β : Type) where
  output : List β
  sourcePosition : ℕ
  /-- `remappedPosition`, once `positionMapped` is set. -/
  remappedPosition : Option ℕ

/-- The cursor of the output, once a round of the loop reaches the cursor of the input. -/
def remapPosition (originalPosition : ℕ) (offset : CameraIdOffset)
    (sourcePosition segmentOutputStart replacementEnd : ℕ) : Option ℕ → Option ℕ
  | some position => some position
  | none =>
    if originalPosition ≤ offset.1 then
      some (segmentOutputStart + (originalPosition - sourcePosition))
    else if originalPosition < offset.2 then some replacementEnd
    else none

/-- One round of the loop: the segment in front of a camera ID, and the new ID. -/
def copySegment (ops : RequestWriteResults) (input : List β) (originalPosition : ℕ)
    (field : List β) (index : ℕ) (offset : CameraIdOffset) (state : CopyState β) :
    Option (CopyState β) :=
  if offset.1 < state.sourcePosition ∨ offset.2 ≤ offset.1 ∨ input.length < offset.2 then none
  else if ops.appendSegment index = false ∨ ops.writeId index = false then none
  else
    let segment := (input.drop state.sourcePosition).take (offset.1 - state.sourcePosition)
    let output := state.output ++ segment ++ field
    some
      { output := output
        sourcePosition := offset.2
        remappedPosition := remapPosition originalPosition offset state.sourcePosition
          state.output.length output.length state.remappedPosition }

def copySegments (ops : RequestWriteResults) (input : List β) (originalPosition : ℕ)
    (field : List β) : ℕ → List CameraIdOffset → CopyState β → Option (CopyState β)
  | _, [], state => some state
  | index, offset :: offsets, state =>
    (copySegment ops input originalPosition field index offset state).bind
      (copySegments ops input originalPosition field (index + 1) offsets)

section Rewrite

variable (F : MessageFormat β ι)

/-- The output parcel and the number of requests. The cursor of a `Parcel` is never behind the
data, so that check of the source is not repeated. -/
def rewriteRequestIds (ops : RequestWriteResults) (code : ℕ) (input : Parcel β)
    (publicCameraId deviceCameraId : Text) : Option (Parcel β × ℕ) :=
  if deviceCameraId = [] ∨ deviceCameraId.length > 255 then none
  else if deviceCameraId.any fun c => decide (c.toNat > 0x7f) then none
  else match observeRequestOffsets F code input.cells publicCameraId with
    | none => none
    | some offsets =>
      if ops.setDataSize = false then none
      else match copySegments ops input.cells input.dataPosition
          (F.string16.write (ascii16 (cStr deviceCameraId))) 0 offsets ⟨[], 0, none⟩ with
        | none => none
        | some state =>
          if ops.appendTail = false then none
          else
            let output := state.output ++ input.cells.drop state.sourcePosition
            let remappedPosition := state.remappedPosition.getD
              (output.length - (input.cells.length - input.dataPosition))
            if h : remappedPosition ≤ output.length then
              some (⟨output, remappedPosition, h⟩, offsets.length)
            else none

structure RequestCounters where
  batchesRewritten : ℕ
  requestsRewritten : ℕ
  batchesSkipped : ℕ
deriving DecidableEq

/-- `RoutedCameraDeviceUser::onTransact`: the parcel that the target gets, and the counters. -/
def onTransact (ops : RequestWriteResults) (publicCameraId deviceCameraId : Text)
    (counters : RequestCounters) (code : ℕ) (data : Parcel β) : Parcel β × RequestCounters :=
  if code = kSubmitRequestCode ∨ code = kSubmitRequestListCode then
    match rewriteRequestIds F ops code data publicCameraId deviceCameraId with
    | some (rewritten, requestCount) =>
      (rewritten, { counters with
        batchesRewritten := counters.batchesRewritten + 1
        requestsRewritten := counters.requestsRewritten + requestCount })
    | none => (data, { counters with batchesSkipped := counters.batchesSkipped + 1 })
  else (data, counters)

end Rewrite

/-! ## A request and its camera ID -/

section Request

variable (F : MessageFormat β ι)

/-- The cells are a string with this camera ID. -/
def IdString (id : Text) (l : List β) : Prop :=
  ∃ value, F.string16.read l = some (value, l.length) ∧
    (value.length ≠ 0 ∧ value.length ≤ 255) ∧ value.all asciiUnit = true ∧ value.map asciiChar = id

end Request

variable {F : MessageFormat β ι} {code : ℕ} {publicCameraId deviceCameraId id : Text}

variable {base : ℕ} {offset : CameraIdOffset}

variable {o : List CameraIdOffset} {l : List β}

theorem reads_asciiString16_iff {text : Text} :
    (readAsciiString16 F).Reads base l (text, offset) ↔
      offset = (base, base + l.length) ∧ IdString F text l := by
  simp only [readAsciiString16, reads_position_bind, reads_field_bind,
    reads_require_bind, reads_pure]
  constructor
  · rintro ⟨value, x, y, rfl, hx, hlen, ha, rfl, h⟩
    obtain ⟨rfl, rfl⟩ := Prod.mk.inj h
    rw [append_nil]
    exact ⟨rfl, value, hx, hlen, ha, rfl⟩
  · rintro ⟨rfl, value, hx, hlen, ha, rfl⟩
    exact ⟨value, l, [], (append_nil l).symm, hx, hlen, ha, rfl, rfl⟩

def IsCameraId (id : Text) : Prop := id ≠ [] ∧ id.length ≤ 255 ∧ isAsciiText id ∧ '\x00' ∉ id

theorem idString_write (h : IsCameraId id) : IdString F id (F.string16.write (ascii16 id)) := by
  obtain ⟨hne, hlen, ha, -⟩ := h
  have hl : (ascii16 id).length = id.length := length_map ..
  have hw : F.string16.Writable (ascii16 id) := F.string16_writable (by omega)
  refine ⟨ascii16 id, Codec.read_write_self hw, ?_, all_asciiUnit_ascii16 ha,
    map_asciiChar_ascii16 ha⟩
  rw [hl]
  exact ⟨fun h => hne (length_eq_zero_iff.mp h), hlen⟩

theorem idString_ne_nil (h : IdString F id l) : l ≠ [] := by
  rintro rfl
  obtain ⟨value, hr, -⟩ := h
  exact absurd (F.string16.pos_of_read hr) (lt_irrefl 0)

theorem eq_write_of_idString (h : IdString F id l) (hpad : F.ZeroPadded l) :
    l = F.string16.write (ascii16 id) := by
  obtain ⟨value, hr, -, ha, rfl⟩ := h
  rw [ascii16_map_asciiChar ha]
  exact F.eq_write_of_zeroPadded hr hpad

instance : (requestFront F).Anywhere := by
  unfold requestFront
  infer_instance

instance : (skipMetadata F).Anywhere := by
  unfold skipMetadata
  infer_instance

instance : (skipSurface F).Anywhere := by
  unfold skipSurface
  infer_instance

instance : (skipNamedSurface F).Anywhere := by
  unfold skipNamedSurface
  infer_instance

instance : (skipStreamSurface F).Anywhere := by
  unfold skipStreamSurface
  infer_instance

instance : (skipUserTag F).Anywhere := by
  unfold skipUserTag
  infer_instance

instance (item : Reader β Unit) [item.Anywhere] : (skipCounted F item).Anywhere := by
  unfold skipCounted
  infer_instance

instance : (requestBack F).Anywhere := by
  unfold requestBack
  infer_instance

/-- **A request is its front, its camera ID and its back.** -/
theorem reads_captureRequest_iff :
    (captureRequest F).Reads base l (id, offset) ↔ ∃ a s b, l = a ++ (s ++ b) ∧
      offset = (base + a.length, base + a.length + s.length) ∧
      (requestFront F).Reads 0 a () ∧ IdString F id s ∧ (requestBack F).Reads 0 b () := by
  rw [captureRequest, reads_bind]
  constructor
  · rintro ⟨u, a, y, rfl, ha, hy⟩
    obtain ⟨⟨text, place⟩, s, z, rfl, hs, hz⟩ := reads_bind.mp hy
    obtain ⟨v, b, e, rfl, hb, he⟩ := reads_bind.mp hz
    obtain ⟨rfl, hn⟩ := reads_pure.mp he
    obtain ⟨rfl, rfl⟩ := Prod.mk.inj hn
    obtain ⟨rfl, hid⟩ := reads_asciiString16_iff.mp hs
    exact ⟨a, s, b, by rw [append_nil], rfl, Reader.Anywhere.reads ha, hid,
      Reader.Anywhere.reads hb⟩
  · rintro ⟨a, s, b, rfl, rfl, ha, hid, hb⟩
    refine ⟨(), a, s ++ b, rfl, Reader.Anywhere.reads ha, reads_bind.mpr
      ⟨(id, _, _), s, b, rfl, reads_asciiString16_iff.mpr ⟨rfl, hid⟩, reads_bind.mpr
        ⟨(), b, [], (append_nil b).symm, Reader.Anywhere.reads hb, ?_⟩⟩⟩
    exact reads_pure.mpr ⟨rfl, rfl⟩

/-- The observer accepts the requests that name its camera. -/
theorem reads_observeCaptureRequest_iff :
    (observeCaptureRequest F id).Reads base l offset ↔
      (captureRequest F).Reads base l (id, offset) := by
  unfold observeCaptureRequest captureRequest
  constructor
  · intro h
    obtain ⟨u, a, y, rfl, ha, hy⟩ := reads_bind.mp h
    obtain ⟨⟨text, place⟩, s, z, rfl, hs, hz⟩ := reads_bind.mp hy
    obtain ⟨rfl, hr⟩ := reads_require_bind.mp hz
    obtain ⟨v, b, e, rfl, hb, he⟩ := reads_bind.mp hr
    obtain ⟨rfl, rfl⟩ := reads_pure.mp he
    exact reads_bind.mpr ⟨u, a, _, rfl, ha, reads_bind.mpr ⟨_, s, _, rfl, hs,
      reads_bind.mpr ⟨v, b, [], rfl, hb, reads_pure.mpr ⟨rfl, rfl⟩⟩⟩⟩
  · intro h
    obtain ⟨u, a, y, rfl, ha, hy⟩ := reads_bind.mp h
    obtain ⟨⟨text, place⟩, s, z, rfl, hs, hz⟩ := reads_bind.mp hy
    obtain ⟨v, b, e, rfl, hb, he⟩ := reads_bind.mp hz
    obtain ⟨rfl, hn⟩ := reads_pure.mp he
    obtain ⟨rfl, rfl⟩ := Prod.mk.inj hn
    exact reads_bind.mpr ⟨u, a, _, rfl, ha, reads_bind.mpr ⟨_, s, _, rfl, hs,
      reads_require_bind.mpr ⟨rfl, reads_bind.mpr ⟨v, b, [], rfl, hb,
        reads_pure.mpr ⟨rfl, rfl⟩⟩⟩⟩⟩

/-! ## A batch as a message with marked fields -/

theorem marked_of_reads_request
    (h : (observeCaptureRequest F id).Reads base l offset) :
    ∃ m : Marked β, l = m.cells ∧ [offset] = m.marks base ∧ (∀ s ∈ m.fields, IdString F id s) ∧
      ∀ {id' r} (base' : ℕ), IdString F id' r → ∃ offset',
        (observeCaptureRequest F id').Reads base' (m.replace r).cells offset' ∧
          [offset'] = (m.replace r).marks base' := by
  obtain ⟨a, s, b, rfl, rfl, ha, hid, hb⟩ :=
    reads_captureRequest_iff.mp (reads_observeCaptureRequest_iff.mp h)
  refine ⟨⟨[(a, s)], b⟩, by simp [Marked.cells, Marked.body], rfl,
    forall_mem_singleton.mpr hid, fun {id' r} base' hr => ?_⟩
  refine ⟨_, reads_observeCaptureRequest_iff.mpr (reads_captureRequest_iff.mpr
    ⟨a, r, b, ?_, rfl, ha, hr, hb⟩), rfl⟩
  simp [Marked.replace, Marked.cells, Marked.body]

theorem marked_of_reads_times {n : ℕ}
    (h : ((observeCaptureRequest F id).times n).Reads base l o) :
    ∃ m : Marked β, l = m.cells ∧ o = m.marks base ∧ (∀ s ∈ m.fields, IdString F id s) ∧
      ∀ {id' r} (base' : ℕ), IdString F id' r →
        ((observeCaptureRequest F id').times n).Reads base' (m.replace r).cells
          ((m.replace r).marks base') := by
  induction n generalizing base l o with
  | zero =>
    obtain ⟨rfl, rfl⟩ := reads_times_zero.mp h
    exact ⟨.plain [], rfl, rfl, nofun, fun _ _ => reads_times_zero.mpr ⟨rfl, rfl⟩⟩
  | succ n ih =>
    obtain ⟨offset, o, x, y, rfl, rfl, hx, hy⟩ := reads_times_succ.mp h
    obtain ⟨m₁, rfl, hm₁, hf₁, ha₁⟩ := marked_of_reads_request hx
    obtain ⟨m₂, rfl, rfl, hf₂, ha₂⟩ := ih hy
    refine ⟨m₁.join m₂, cells_join.symm, ?_, ?_, fun base' hr => ?_⟩
    · rw [marks_join, ← hm₁]
      rfl
    · rw [fields_join]
      exact forall_mem_append.mpr ⟨hf₁, hf₂⟩
    · obtain ⟨offset', ho, hm⟩ := ha₁ base' hr
      refine reads_times_succ.mpr ⟨offset', _, _, _, ?_, ?_, ho, ha₂ _ hr⟩
      · rw [replace_join, cells_join]
      · rw [replace_join, marks_join, ← hm]
        rfl

theorem reads_requestBatch_iff {α : Type} {req : Reader β α} {as : List α} :
    (requestBatch F code req).Reads 0 l as ↔ ∃ h c n x t, l = h ++ (c ++ (x ++ t)) ∧
      (readAndCheckInterfaceHeader F).Reads 0 h () ∧ (readRequestCount F code).Reads h.length c n ∧
      (req.times n).Reads (h.length + c.length) x as ∧
      ∃ streaming, F.int32.read t = some (streaming, t.length) := by
  unfold requestBatch
  constructor
  · intro hr
    obtain ⟨u, h, y, rfl, hh, hy⟩ := reads_bind.mp hr
    obtain ⟨n, c, z, rfl, hc, hz⟩ := reads_bind.mp hy
    obtain ⟨as', x, w, rfl, hx, hw⟩ := reads_bind.mp hz
    obtain ⟨streaming, t, e, rfl, ht, he⟩ := reads_field_bind.mp hw
    obtain ⟨rfl, rfl⟩ := reads_pure.mp he
    rw [Nat.zero_add] at hc hx
    exact ⟨h, c, n, x, t, by rw [append_nil], hh, hc, hx, streaming, ht⟩
  · rintro ⟨h, c, n, x, t, rfl, hh, hc, hx, streaming, ht⟩
    refine reads_bind.mpr ⟨(), h, _, rfl, hh, reads_bind.mpr ⟨n, c, _, rfl, ?_,
      reads_bind.mpr ⟨as, x, t, rfl, ?_, reads_field_bind.mpr
        ⟨streaming, t, [], (append_nil t).symm, ht, reads_pure.mpr ⟨rfl, rfl⟩⟩⟩⟩⟩
    · rwa [Nat.zero_add]
    · rwa [Nat.zero_add]

/-- **An accepted batch is a message whose marked fields are its camera IDs**, and with other IDs
in them it is accepted for those. -/
theorem marked_of_reads
    (h : observeRequestOffsets F code l id = some o) :
    ∃ m : Marked β, l = m.cells ∧ o = m.marks 0 ∧ (∀ s ∈ m.fields, IdString F id s) ∧
      ∀ {id' r}, IdString F id' r →
        observeRequestOffsets F code (m.replace r).cells id' = some ((m.replace r).marks 0) := by
  obtain ⟨head, c, n, x, t, rfl, hh, hc, hx, streaming, ht⟩ :=
    reads_requestBatch_iff.mp (runAll_eq_some_iff.mp h)
  obtain ⟨m, rfl, rfl, hf, ha⟩ := marked_of_reads_times hx
  refine ⟨(plain (head ++ c)).join (m.join (.plain t)), ?_, ?_, ?_, fun {id' r} hr => ?_⟩
  · simp
  · simp
  · simpa using hf
  · have hce : (((plain (head ++ c)).join (m.join (.plain t))).replace r).cells =
        head ++ (c ++ ((m.replace r).cells ++ t)) := by
      simp
    have hm : (((plain (head ++ c)).join (m.join (.plain t))).replace r).marks 0 =
        (m.replace r).marks (head.length + c.length) := by
      simp
    rw [hce, hm]
    exact runAll_eq_some_iff.mpr (reads_requestBatch_iff.mpr
      ⟨head, c, n, _, t, rfl, hh, hc, ha _ hr, streaming, ht⟩)

theorem not_observed_of_other {na : List (Text × CameraIdOffset)}
    (hn : (requestBatch F code (captureRequest F)).Reads 0 l na)
    (hot : ∃ request ∈ na, request.1 ≠ id) : observeRequestOffsets F code l id = none := by
  obtain ⟨request, hr, hne⟩ := hot
  by_contra hs
  obtain ⟨offsets, ho⟩ := ne_none_iff_exists'.mp hs
  obtain ⟨h, c, n, x, t, rfl, hh, hc, hx, ht⟩ :=
    reads_requestBatch_iff.mp (runAll_eq_some_iff.mp ho)
  have hmap := reads_times_map (q := captureRequest F) (f := Prod.mk id) hx
    fun h => reads_observeCaptureRequest_iff.mp h
  obtain rfl := hn.unique (reads_requestBatch_iff.mpr ⟨h, c, n, x, t, rfl, hh, hc, hmap, ht⟩)
  obtain ⟨offset, -, rfl⟩ := mem_map.mp hr
  exact hne rfl

/-! ## The copier -/

section Copy

variable {ops : RequestWriteResults} {input r : List β} {op : ℕ}

theorem copySegment_piece (hops : ops.Succeed) {pre gap f post : List β}
    (hi : input = pre ++ (gap ++ (f ++ post))) (hf : f ≠ []) (i : ℕ)
    (o : List β) (mapped : Option ℕ) (op : ℕ) (r : List β) :
    copySegment ops input op r i
        (pre.length + gap.length, pre.length + gap.length + f.length)
        ⟨o, pre.length, mapped⟩ =
      some ⟨o ++ gap ++ r, pre.length + gap.length + f.length,
        remapPosition op
          (pre.length + gap.length, pre.length + gap.length + f.length) pre.length
          o.length (o ++ gap ++ r).length mapped⟩ := by
  obtain ⟨-, ha, hw, -⟩ := hops
  have hpos : 0 < f.length := length_pos_iff.mpr hf
  have hb : ¬ (pre.length + gap.length < pre.length ∨
      pre.length + gap.length + f.length ≤ pre.length + gap.length ∨
      input.length < pre.length + gap.length + f.length) := by
    rw [hi, length_append, length_append, length_append]
    omega
  have hs : (input.drop pre.length).take (pre.length + gap.length - pre.length) = gap := by
    rw [hi, drop_left, Nat.add_sub_cancel_left, take_left]
  rw [copySegment, if_neg hb, if_neg (by simp [ha, hw])]
  dsimp only
  rw [hs]

theorem remapPosition_of_le {o : CameraIdOffset} (ho : o.1 < o.2)
    (h : o.2 ≤ op) (s start stop : ℕ) :
    remapPosition op o s start stop none = none := by
  rw [remapPosition, if_neg (by omega), if_neg (by omega)]

theorem remapPosition_le {o : CameraIdOffset} {s start stop position : ℕ}
    {mapped : Option ℕ} (hs : start + (o.1 - s) ≤ stop)
    (hr : ∀ position, mapped = some position → position ≤ start)
    (h : remapPosition op o s start stop mapped = some position) :
    position ≤ stop := by
  cases mapped with
  | some p =>
    obtain rfl : p = position := some.inj h
    have := hr p rfl
    omega
  | none =>
    rw [remapPosition] at h
    split_ifs at h
    · obtain rfl := some.inj h
      omega
    · obtain rfl := some.inj h
      exact le_rfl

/-- **The loop over the marked fields of a message.** -/
theorem copySegments_pieces (hops : ops.Succeed) {p : List (List β × List β)}
    (hfi : ∀ piece ∈ p, piece.2 ≠ []) {pre post : List β}
    (hi : input = pre ++ (Marked.body p ++ post)) (i : ℕ) (o : List β)
    (mapped : Option ℕ) (op : ℕ) (r : List β) : ∃ remapped',
    copySegments ops input op r i (bounds pre.length p)
        ⟨o, pre.length, mapped⟩ =
      some ⟨o ++ Marked.body (p.map fun piece => (piece.1, r)),
        pre.length + (Marked.body p).length, remapped'⟩ ∧
      (∀ position, mapped = some position → remapped' = some position) ∧
      (mapped = none → pre.length + (Marked.body p).length ≤ op →
        remapped' = none) ∧
      ((∀ position, mapped = some position → position ≤ o.length) →
        ∀ position, remapped' = some position → position ≤
          (o ++ Marked.body (p.map fun piece => (piece.1, r))).length) := by
  induction p generalizing pre i o mapped with
  | nil =>
    refine ⟨mapped, ?_, fun _ h => h, fun h _ => h, ?_⟩
    · simp [bounds, Marked.body, copySegments]
    · simp [Marked.body]
  | cons piece p ih =>
    obtain ⟨gap, field⟩ := piece
    obtain ⟨hf, hr⟩ := forall_mem_cons.mp hfi
    have hl : (pre ++ (gap ++ field)).length = pre.length + gap.length + field.length := by
      simp [Nat.add_assoc]
    have hi₁ : input = pre ++ (gap ++ (field ++ (Marked.body p ++ post))) := by
      simpa [Marked.body] using hi
    have hi₂ : input = (pre ++ (gap ++ field)) ++ (Marked.body p ++ post) := by
      simpa using hi₁
    have hs := copySegment_piece hops hi₁ hf i o mapped op r
    obtain ⟨remapped', hlo, hk, hn, hle⟩ := ih hr hi₂ (i + 1)
      (o ++ gap ++ r) (remapPosition op
          (pre.length + gap.length, pre.length + gap.length + field.length) pre.length
          o.length (o ++ gap ++ r).length mapped)
    have hb : o ++ Marked.body (((gap, field) :: p).map fun piece => (piece.1, r)) =
        o ++ gap ++ r ++ Marked.body (p.map fun piece => (piece.1, r)) := by
      simp [Marked.body]
    have hend : pre.length + (Marked.body ((gap, field) :: p)).length =
        (pre ++ (gap ++ field)).length + (Marked.body p).length := by
      simp [Marked.body, Nat.add_assoc]
    refine ⟨remapped', ?_, ?_, fun h hpos => ?_, fun h => ?_⟩
    · rw [hl] at hlo
      rw [hb, hend, hl, bounds, copySegments, hs, bind_some, hlo]
    · rintro position rfl
      exact hk position rfl
    · subst h
      rw [hend] at hpos
      have hfp : 0 < field.length := length_pos_iff.mpr hf
      exact hn (remapPosition_of_le (by dsimp only; omega) (by dsimp only; omega) _ _ _) hpos
    · rw [hb]
      refine hle fun position => remapPosition_le ?_ h
      simp only [length_append]
      omega

theorem copySegments_append (i : ℕ) (o o' : List CameraIdOffset)
    (s : CopyState β) :
    copySegments ops input op r i (o ++ o') s =
      (copySegments ops input op r i o s).bind
        (copySegments ops input op r (i + o.length) o') := by
  induction o generalizing i s with
  | nil => rfl
  | cons offset o ih =>
    rw [cons_append, copySegments, copySegments, bind_assoc]
    refine congrArg _ (funext fun state' => ?_)
    rw [ih, length_cons, Nat.add_right_comm, Nat.add_assoc]

/-- The cursor of the output, when the cursor of the input cuts the message in two. It is found in
the first round behind the cut, or after the loop when there is none. -/
theorem copySegments_join (hops : ops.Succeed) {b a : Marked β}
    (hfi : ∀ piece ∈ (b.join a).pieces, piece.2 ≠ [])
    (hi : input = (b.join a).cells) (hp : op = b.cells.length)
    {s : CopyState β}
    (hl : copySegments ops input op r 0 ((b.join a).marks 0)
      ⟨[], 0, none⟩ = some s) :
    s.remappedPosition = some (b.replace r).cells.length ∨
      a.pieces = [] ∧ s.remappedPosition = none := by
  obtain ⟨hb, ha⟩ := forall_mem_append.mp hfi
  have hi' : input = [] ++ (Marked.body b.pieces ++ (a.cons b.tail).cells) := by
    rw [hi, cells_join, cells_cons, Marked.cells, append_assoc,
      nil_append]
  obtain ⟨first, hf, -, hn, -⟩ :=
    copySegments_pieces hops hb hi' 0 [] none op r
  have hc : b.cells.length = (Marked.body b.pieces).length + b.tail.length := by
    rw [Marked.cells, length_append]
  obtain rfl : first = none := hn rfl (by rw [length_nil]; omega)
  rw [length_nil, Nat.zero_add, nil_append] at hf
  rw [Marked.marks, Marked.join, bounds_append, copySegments_append, hf,
    bind_some, Nat.zero_add] at hl
  rcases a with ⟨_ | ⟨⟨gap, field⟩, pieces⟩, tail⟩
  · right
    obtain rfl := some.inj hl
    exact ⟨rfl, rfl⟩
  · left
    obtain ⟨hfl, hr⟩ := forall_mem_cons.mp ha
    have hh : input = Marked.body b.pieces ++
        ((b.tail ++ gap) ++ (field ++ (Marked.body pieces ++ tail))) := by
      simpa [Marked.cons, Marked.cells, Marked.body] using hi'
    have ht : input = (Marked.body b.pieces ++ ((b.tail ++ gap) ++ field)) ++
        (Marked.body pieces ++ tail) := by
      simpa using hh
    have hs := copySegment_piece hops hh hfl (bounds 0 b.pieces).length
      (Marked.body (b.pieces.map fun piece => (piece.1, r))) none op r
    rw [remapPosition, if_pos (by rw [length_append]; omega)] at hs
    obtain ⟨last, hla, hk, -⟩ := copySegments_pieces hops hr ht
      ((bounds 0 b.pieces).length + 1)
      (Marked.body (b.pieces.map fun piece => (piece.1, r)) ++ (b.tail ++ gap) ++ r)
      (some ((Marked.body (b.pieces.map fun piece => (piece.1, r))).length +
        (op - (Marked.body b.pieces).length))) op r
    rw [Marked.cons, bounds, Nat.zero_add, copySegments, hs, bind_some] at hl
    have hle : (Marked.body b.pieces ++ (b.tail ++ gap ++ field)).length =
        (Marked.body b.pieces).length + (b.tail ++ gap).length + field.length := by
      simp [Nat.add_assoc]
    rw [hle] at hla
    obtain rfl := some.inj (hl.symm.trans hla)
    refine (hk _ rfl).trans (congrArg some ?_)
    rw [Marked.replace, Marked.cells, length_append]
    dsimp only
    omega

/-- **What the copier does with an accepted batch.** -/
theorem rewriteRequestIds_marked (hops : ops.Succeed) {i : Parcel β} {m : Marked β}
    (hc : i.cells = m.cells) (hf : ∀ s ∈ m.fields, s ≠ [])
    (hob : observeRequestOffsets F code i.cells publicCameraId = some (m.marks 0))
    (hd : IsCameraId deviceCameraId) {field : List β}
    (hw : F.string16.write (ascii16 deviceCameraId) = field) : ∃ output,
      rewriteRequestIds F ops code i publicCameraId deviceCameraId =
        some (output, (m.marks 0).length) ∧
      output.cells = (m.replace field).cells ∧
      ∀ before after : Marked β, m = before.join after →
        i.dataPosition = before.cells.length →
        output.dataPosition =
          (before.replace field).cells.length := by
  obtain ⟨hne, hlen, ha, hnul⟩ := hd
  have hpi : ∀ piece ∈ m.pieces, piece.2 ≠ [] := fun piece hpc =>
    hf piece.2 (mem_map_of_mem hpc)
  have hi : i.cells = [] ++ (Marked.body m.pieces ++ m.tail) := hc
  obtain ⟨remapped, hl, -, -, hle⟩ := copySegments_pieces hops hpi hi 0 [] none
    i.dataPosition field
  rw [length_nil, Nat.zero_add, nil_append] at hl
  have ho : Marked.body (m.pieces.map fun piece =>
      (piece.1, field)) ++
      i.cells.drop (Marked.body m.pieces).length =
        (m.replace field).cells := by
    rw [hc, Marked.cells, drop_left]
    rfl
  have hb : remapped.getD
      ((m.replace field).cells.length -
        (i.cells.length - i.dataPosition)) ≤
      (m.replace field).cells.length := by
    cases remapped with
    | none => exact Nat.sub_le _ _
    | some position =>
      have := hle (fun _ h => by cases h) position rfl
      rw [← ho, length_append]
      exact le_trans this (Nat.le_add_right _ _)
  have hany : ¬ (deviceCameraId.any fun c => decide (c.toNat > 0x7f)) = true := by
    simpa [isAsciiText] using ha
  have hfi : ¬ (deviceCameraId = [] ∨ deviceCameraId.length > 255) := by
    rw [not_or]
    exact ⟨hne, not_lt.mpr hlen⟩
  refine ⟨⟨_, _, hb⟩, ?_, rfl, fun before after hjo hp => ?_⟩
  · have hl' : copySegments ops i.cells i.dataPosition
        field 0 (m.marks 0) ⟨[], 0, none⟩ = _ := hl
    simp only [rewriteRequestIds, if_neg hfi, if_neg hany, hob, hops.1, hops.2.2.2,
      cStr_eq_self_iff.mpr hnul, hw, hl', ho, dif_pos hb, Bool.true_eq_false, if_false]
  · subst hjo
    have hj := copySegments_join hops hpi hc hp hl
    dsimp only at hj ⊢
    rcases hj with hs | ⟨hnil, hn⟩
    · rw [hs, getD_some]
    · have haf : after.replace field = after :=
        replace_eq_self (by simp [fields, hnil])
      rw [hn, getD_none, replace_join, haf, cells_join, hc,
        cells_join, hp, length_append, length_append]
      omega

/-- **Rewriting back.** When every ID of the batch is as libbinder writes it, the batch comes back
as it was. -/
theorem rewriteRequestIds_back (hops : ops.Succeed) {o : Parcel β} {m : Marked β}
    (hc : o.cells = (m.replace (F.string16.write (ascii16 deviceCameraId))).cells)
    (ho : observeRequestOffsets F code o.cells deviceCameraId =
      some ((m.replace (F.string16.write (ascii16 deviceCameraId))).marks 0))
    (hp : IsCameraId publicCameraId) (hd : IsCameraId deviceCameraId)
    (hf : ∀ s ∈ m.fields, s = F.string16.write (ascii16 publicCameraId)) : ∃ back,
      rewriteRequestIds F ops code o deviceCameraId publicCameraId =
        some (back, (m.marks 0).length) ∧ back.cells = m.cells := by
  have hne : ∀ s ∈ (m.replace (F.string16.write (ascii16 deviceCameraId))).fields, s ≠ [] :=
    forall_fields_replace (idString_ne_nil (idString_write hd))
  obtain ⟨back, hba, hb, -⟩ :=
    rewriteRequestIds_marked hops hc hne ho hp rfl
  rw [length_marks_replace 0] at hba
  rw [replace_replace, replace_eq_self hf] at hb
  exact ⟨back, hba, hb⟩

end Copy

/-! ## The router -/

/-- **Capture-request rewriting is all-or-nothing and exact.** -/
theorem rewriteRequestIds_exact {ops : RequestWriteResults} (hops : ops.Succeed)
    (hpublic : IsCameraId publicCameraId) (hdevice : IsCameraId deviceCameraId)
    (code : ℕ) (input : Parcel β) (counters : RequestCounters) :
    (∀ offsets, observeRequestOffsets F code input.cells publicCameraId = some offsets →
      ∃ (output : Parcel β) (batch : Marked β) (offsets' : List CameraIdOffset),
        rewriteRequestIds F ops code input publicCameraId deviceCameraId =
          some (output, offsets.length) ∧
        observeRequestOffsets F code output.cells deviceCameraId = some offsets' ∧
        offsets'.length = offsets.length ∧
        -- the batch with its camera IDs marked, and the same with the device ID in their places
        input.cells = batch.cells ∧ offsets = batch.marks 0 ∧
        output.cells = (batch.replace (F.string16.write (ascii16 deviceCameraId))).cells ∧
        offsets' = (batch.replace (F.string16.write (ascii16 deviceCameraId))).marks 0 ∧
        (Marked.Outside offsets input.dataPosition → ∃ before after : Marked β,
          batch = before.join after ∧ input.dataPosition = before.cells.length ∧
          output.dataPosition =
            (before.replace (F.string16.write (ascii16 deviceCameraId))).cells.length) ∧
        ((∀ s ∈ batch.fields, F.ZeroPadded s) → ∃ back,
          rewriteRequestIds F ops code output deviceCameraId publicCameraId =
            some (back, offsets.length) ∧ back.cells = input.cells)) ∧
    (∀ named, (requestBatch F code (captureRequest F)).Reads 0 input.cells named →
      (∃ request ∈ named, request.1 ≠ publicCameraId) →
      observeRequestOffsets F code input.cells publicCameraId = none) ∧
    (observeRequestOffsets F code input.cells publicCameraId = none →
      (onTransact F ops publicCameraId deviceCameraId counters code input).1 = input) := by
  refine ⟨fun offsets h => ?_, fun named => not_observed_of_other, fun h => ?_⟩
  · obtain ⟨m, hc, rfl, hf, ha⟩ := marked_of_reads h
    have hne : ∀ s ∈ m.fields, s ≠ [] := fun s hs => idString_ne_nil (hf s hs)
    obtain ⟨output, hot, ho, hcut⟩ :=
      rewriteRequestIds_marked hops hc hne h hdevice rfl
    have hob := ha (idString_write hdevice)
    rw [← ho] at hob
    refine ⟨output, m, _, hot, hob, length_marks_replace 0 0, hc, rfl,
      ho, rfl, fun hou => ?_, fun hpa => ?_⟩
    · have hle : input.dataPosition ≤ 0 + m.cells.length := by
        rw [Nat.zero_add, ← hc]
        exact input.position_le
      obtain ⟨before, after, hj, hp⟩ :=
        exists_join_of_outside (Nat.zero_le _) hle hou
      rw [Nat.zero_add] at hp
      exact ⟨before, after, hj, hp, hcut before after hj hp⟩
    · obtain ⟨back, hba, hb⟩ :=
        rewriteRequestIds_back hops ho hob hpublic hdevice fun s hs =>
          eq_write_of_idString (hf s hs) (hpa s hs)
      exact ⟨back, hba, hb.trans hc.symm⟩
  · have hn : rewriteRequestIds F ops code input publicCameraId deviceCameraId = none := by
      unfold rewriteRequestIds
      rw [h]
      split_ifs <;> rfl
    unfold onTransact
    rw [hn]
    split_ifs <;> rfl

/-! ## Two requests without settings and surfaces -/

def deviceUserToken : List AndroidFormat.Cell :=
  androidMessages.int32.write 0 ++ (androidMessages.int32.write (-1) ++
    (androidMessages.int32.write expectedHeader ++
      androidMessages.string16.write kDeviceUserDescriptor))

def zeroWord : List AndroidFormat.Cell := androidMessages.int32.write 0

def emptyRequest (id : Text) : List AndroidFormat.Cell :=
  androidMessages.int32.write 1 ++ androidMessages.int32.write 1 ++
    (androidMessages.string16.write (ascii16 id) ++
      (zeroWord ++ (zeroWord ++ (zeroWord ++ (zeroWord ++ zeroWord)))))

def twoRequests (id : Text) : List AndroidFormat.Cell :=
  deviceUserToken ++ (androidMessages.int32.write 2 ++ ((emptyRequest id ++ emptyRequest id) ++
    zeroWord))

theorem reads_deviceUserToken :
    (readAndCheckInterfaceHeader androidMessages).Reads 0 deviceUserToken () := by
  have h₀ : androidMessages.int32.Writable 0 := ⟨by decide, by decide⟩
  have h₁ : androidMessages.int32.Writable (-1) := ⟨by decide, by decide⟩
  have h₂ : androidMessages.int32.Writable expectedHeader := ⟨by decide, by decide⟩
  have h₃ : androidMessages.string16.Writable kDeviceUserDescriptor :=
    androidMessages.string16_writable (by decide)
  exact reads_write_bind h₀ (reads_write_bind h₁ (reads_write_bind h₂
    (reads_require_bind.mpr ⟨rfl, reads_write_last h₃
      (reads_require.mpr ⟨rfl, rfl⟩)⟩)))

theorem writable_zero : androidMessages.int32.Writable 0 := ⟨by decide, by decide⟩

theorem reads_skipCounted_zero (item : Reader AndroidFormat.Cell Unit) (base : ℕ) :
    (skipCounted androidMessages item).Reads base zeroWord () :=
  reads_write_last writable_zero (reads_require_bind.mpr ⟨by decide,
    reads_bind.mpr ⟨[], [], [], rfl, reads_times_zero.mpr ⟨rfl, rfl⟩,
      reads_pure.mpr ⟨rfl, rfl⟩⟩⟩)

theorem reads_emptyRequestBack : (requestBack androidMessages).Reads 0
    (zeroWord ++ (zeroWord ++ (zeroWord ++ (zeroWord ++ zeroWord)))) () := by
  have hm : (skipMetadata androidMessages).Reads 0 zeroWord () :=
    reads_write_last writable_zero (reads_require_bind.mpr ⟨by decide,
      reads_pure.mpr ⟨rfl, rfl⟩⟩)
  have htag (base : ℕ) : (skipUserTag androidMessages).Reads base zeroWord () :=
    reads_write_last writable_zero (reads_pure.mpr ⟨rfl, rfl⟩)
  exact reads_bind.mpr ⟨(), _, _, rfl, hm, reads_write_bind writable_zero
    (reads_bind.mpr ⟨(), _, _, rfl, reads_skipCounted_zero _ _, reads_bind.mpr
      ⟨(), _, _, rfl, reads_skipCounted_zero _ _, htag _⟩⟩)⟩

theorem reads_emptyRequest {id : Text} (h : IsCameraId id) (base : ℕ) :
    ∃ offset, (observeCaptureRequest androidMessages id).Reads base (emptyRequest id) offset := by
  have h₁ : androidMessages.int32.Writable 1 := ⟨by decide, by decide⟩
  have hf : (requestFront androidMessages).Reads 0
      (androidMessages.int32.write 1 ++ androidMessages.int32.write 1) () :=
    reads_write_bind h₁ (reads_require_bind.mpr ⟨rfl, reads_write_last h₁
      (reads_require.mpr ⟨rfl, rfl⟩)⟩)
  exact ⟨_, reads_observeCaptureRequest_iff.mpr (reads_captureRequest_iff.mpr
    ⟨_, _, _, rfl, rfl, hf, idString_write h, reads_emptyRequestBack⟩)⟩

theorem observed_twoRequests {id : Text} (h : IsCameraId id) : ∃ first second,
    observeRequestOffsets androidMessages kSubmitRequestListCode (twoRequests id) id =
      some [first, second] := by
  have h₂ : androidMessages.int32.Writable 2 := ⟨by decide, by decide⟩
  have hc (base : ℕ) : (readRequestCount androidMessages kSubmitRequestListCode).Reads base
      (androidMessages.int32.write 2) 2 :=
    reads_write_last h₂ (reads_require_bind.mpr ⟨by decide,
      reads_pure.mpr ⟨rfl, rfl⟩⟩)
  obtain ⟨first, hfi⟩ := reads_emptyRequest h
    (deviceUserToken.length + (androidMessages.int32.write 2).length)
  obtain ⟨second, hs⟩ := reads_emptyRequest h
    (deviceUserToken.length + (androidMessages.int32.write 2).length + (emptyRequest id).length)
  exact ⟨first, second, runAll_eq_some_iff.mpr (reads_requestBatch_iff.mpr
    ⟨_, _, 2, _, _, rfl, reads_deviceUserToken, hc _, reads_times_succ.mpr ⟨_, _, _, _, rfl,
      rfl, hfi, reads_times_succ.mpr ⟨_, [], _, [], (append_nil _).symm, rfl, hs,
        reads_times_zero.mpr ⟨rfl, rfl⟩⟩⟩, 0, Codec.read_write_self writable_zero⟩)⟩

theorem isCameraId_of_isAscii {id : Text} (h : isAscii id = true) (hnul : '\x00' ∉ id) :
    IsCameraId id := by
  obtain ⟨hne, hlen, ha⟩ := isAscii_iff.mp h
  exact ⟨hne, hlen, ha, hnul⟩

/-- Two requests for camera 0 reach camera 4. -/
theorem rewriteRequestIds_exact_two : ∃ output,
    rewriteRequestIds androidMessages ⟨true, fun _ => true, fun _ => true, true⟩
      kSubmitRequestListCode ⟨twoRequests "0", 0, Nat.zero_le _⟩ "0" "4" =
        some (output, 2) ∧
    ∃ offsets, observeRequestOffsets androidMessages kSubmitRequestListCode output.cells
      "4" = some offsets ∧ offsets.length = 2 := by
  have hops : RequestWriteResults.Succeed ⟨true, fun _ => true, fun _ => true, true⟩ :=
    ⟨rfl, fun _ => rfl, fun _ => rfl, rfl⟩
  have hp : IsCameraId "0" := isCameraId_of_isAscii (by decide) (by decide)
  have hd : IsCameraId "4" := isCameraId_of_isAscii (by decide) (by decide)
  obtain ⟨first, second, hof⟩ := observed_twoRequests hp
  obtain ⟨output, batch, offsets, hou, ho, hl, -⟩ :=
    (rewriteRequestIds_exact hops hp hd kSubmitRequestListCode
      ⟨twoRequests "0", 0, Nat.zero_le _⟩ ⟨0, 0, 0⟩).1 [first, second] hof
  exact ⟨output, hou, offsets, ho, hl⟩

end Vcam.DeviceUser
