import AndroidVcam.Lib.Traced
import AndroidVcam.Routing.Consumers

/-!
# Capture requests

`processRequestLocked` of `hal/src/VirtualCamera.cpp` fills the output buffers of a request one after
the other (`fillBuffer`, `fillYuv`, `fillJpeg`) between a shutter notification and one capture
result. What gralloc, the fences, the renderer and the metadata allocator answer is a parameter.

* `Event`: the callbacks, the fences that are closed and the gralloc locks;
* `Paired`, **`locks_paired_iff`**: when each lock is followed by its unlock.
-/

namespace Vcam.Hal

open Traced

def ENOMEM : ℤ := 12

/-! ## Buffers and gralloc -/

inductive BufferStatus
  | ok
  | error
deriving DecidableEq

/-- `camera3_stream_buffer_t`. Streams and buffer handles are named by numbers. -/
structure StreamBuffer where
  stream : Option ℕ
  /-- A pointer to a handle; both can be null. -/
  buffer : Option (Option ℕ)
  status : BufferStatus
  acquireFence : ℤ
  releaseFence : ℤ
deriving DecidableEq

def StreamBuffer.handle (buffer : StreamBuffer) : Option ℕ := buffer.buffer.join

inductive FlexComponent
  | y
  | cb
  | cr
  | other
deriving DecidableEq

structure FlexPlane where
  component : FlexComponent
  bitsUsed : ℤ
  hIncrement : ℤ
  vIncrement : ℤ
deriving DecidableEq

/-- The gralloc that the camera has opened, with the functions a legacy module has. -/
inductive Gralloc
  | gralloc1
  | legacy (lockYcbcr lock unlock : Bool)
  | absent
deriving DecidableEq

structure Behaviour where
  /-- The result of `waitForFence`. -/
  fenceWait : ℤ
  getNumFlexPlanes : ℤ
  planeCount : ℕ
  lockFlex : ℤ
  /-- The layout format is `FLEX_FORMAT_YCbCr`. -/
  isYCbCr : Bool
  planes : List FlexPlane
  lockYcbcr : ℤ
  lock : ℤ
  /-- The mapped pointer is not null. -/
  mapped : Bool
  unlock : ℤ
  /-- The release fence of `unlock1_`. -/
  releaseFence : ℤ
  /-- The renderer filled the planes. -/
  generated : Bool
  /-- The JPEG compressor took its error exit. -/
  jpegError : Bool
  /-- The size of the JPEG, when the compressor has an output. -/
  jpegOutput : Option ℕ
deriving DecidableEq

inductive Event
  | shutter (frameNumber timestamp : ℕ)
  | bufferError (frameNumber : ℕ) (stream : Option ℕ)
  | captureResult (frameNumber : ℕ) (outputs : List StreamBuffer)
  /-- `close` of the acquire fence of a buffer, named by its place in the request. -/
  | closeAcquire (index : ℕ)
  /-- `close` of a fence that gralloc gave. -/
  | closeRelease (fence : ℤ)
  /-- A lock, lockFlex or lock_ycbcr that succeeded. -/
  | lock (handle : ℕ)
  | unlock (handle : ℕ)
deriving DecidableEq

/-! ## Filling a buffer -/

variable (gralloc : Gralloc) (behaviour : Behaviour)

/-- The plane that the loop over the planes has found last. -/
def lastPlane (component : FlexComponent) (planes : List FlexPlane) : Option FlexPlane :=
  (planes.filter fun plane => plane.component = component).getLast?

def supportedLayout (planes : List FlexPlane) : Bool :=
  match lastPlane .y planes, lastPlane .cb planes, lastPlane .cr planes with
  | some y, some cb, some cr =>
    decide (y.bitsUsed = 8 ∧ cb.bitsUsed = 8 ∧ cr.bitsUsed = 8 ∧ 0 < y.hIncrement ∧
      0 < y.vIncrement ∧ 0 < cb.hIncrement ∧ 0 < cb.vIncrement ∧
      cr.hIncrement = cb.hIncrement ∧ cr.vIncrement = cb.vIncrement)
  | _, _, _ => false

/-- `getNumFlexPlanes` refuses, or reports a number of planes that the camera does not take. -/
def badPlaneCount : Prop :=
  behaviour.getNumFlexPlanes ≠ 0 ∨ behaviour.planeCount < 3 ∨ 8 < behaviour.planeCount

instance : Decidable (badPlaneCount behaviour) := by unfold badPlaneCount; infer_instance

def fillYuv (buffer : StreamBuffer) : Traced Event (Bool × StreamBuffer) :=
  match buffer.stream, buffer.handle with
  | some _, some handle =>
    match gralloc with
    | .gralloc1 =>
      if badPlaneCount behaviour then return (false, buffer)
      else if behaviour.lockFlex ≠ 0 then return (false, buffer)
      else if !behaviour.isYCbCr then do
        emit [.lock handle]
        return (false, buffer)
      else if !supportedLayout behaviour.planes then do
        emit [.lock handle, .unlock handle]
        emit (if 0 ≤ behaviour.releaseFence then [.closeRelease behaviour.releaseFence] else [])
        return (false, buffer)
      else do
        emit [.lock handle, .unlock handle]
        return (behaviour.generated && behaviour.unlock == 0,
          { buffer with releaseFence := behaviour.releaseFence })
    | .legacy true _ true =>
      if behaviour.lockYcbcr ≠ 0 then return (false, buffer)
      else do
        emit [.lock handle, .unlock handle]
        return (behaviour.generated && behaviour.unlock == 0, buffer)
    | _ => return (false, buffer)
  | _, _ => return (false, buffer)

def kJpegMaxSize : ℕ := 16 * 1024 * 1024

/-- `sizeof(camera3_jpeg_blob_t)`. -/
def jpegBlobSize : ℕ := 8

/-- The result of the lock for a JPEG; `-ENODEV` when there is nothing to call. -/
def jpegLock : ℤ :=
  match gralloc with
  | .gralloc1 => behaviour.lock
  | .legacy _ true _ => behaviour.lock
  | _ => -ENODEV

/-- The end of `fillJpeg`, with the buffer locked and mapped. -/
def unlockJpeg (handle : ℕ) (buffer : StreamBuffer) : Traced Event (Bool × StreamBuffer) :=
  match gralloc with
  | .gralloc1 => do
    emit [.unlock handle]
    return (behaviour.unlock == 0, { buffer with releaseFence := behaviour.releaseFence })
  | .legacy _ _ true => do
    emit [.unlock handle]
    return (behaviour.unlock == 0, buffer)
  -- A call through a null pointer.
  | _ => stop

def fillJpeg (buffer : StreamBuffer) : Traced Event (Bool × StreamBuffer) :=
  match buffer.stream, buffer.handle with
  | some _, some handle =>
    if behaviour.jpegError then return (false, buffer)
    else match behaviour.jpegOutput with
      | none => return (false, buffer)
      | some encodedSize =>
        if encodedSize + jpegBlobSize > kJpegMaxSize then return (false, buffer)
        else if jpegLock gralloc behaviour ≠ 0 then return (false, buffer)
        else if !behaviour.mapped then do
          emit [.lock handle]
          return (false, buffer)
        else do
          emit [.lock handle]
          unlockJpeg gralloc behaviour handle buffer
  | _, _ => return (false, buffer)

abbrev BlobStreams := ℕ → Bool

def fillStream (blob : BlobStreams) (stream : ℕ) (output : StreamBuffer) :
    Traced Event (Bool × StreamBuffer) :=
  if blob stream then fillJpeg gralloc behaviour output else fillYuv gralloc behaviour output

/-- `fillBuffer` for the buffer at a place of the request. -/
def fillBuffer (blob : BlobStreams) (index : ℕ) (input : StreamBuffer) :
    Traced Event (Bool × StreamBuffer) :=
  match input.stream, input.handle with
  | some stream, some _ =>
    let output := { input with acquireFence := -1, releaseFence := -1, status := .ok }
    if 0 ≤ input.acquireFence then do
      emit [.closeAcquire index]
      if behaviour.fenceWait ≠ 0 then return (false, output)
      else fillStream gralloc behaviour blob stream output
    else fillStream gralloc behaviour blob stream output
  | _, _ => return (false, { input with status := .error, releaseFence := input.acquireFence,
                                        acquireFence := -1 })

/-- One round of the loop: a buffer that was not filled is an error. -/
def outputBuffer (blob : BlobStreams) (frameNumber index : ℕ) (input : StreamBuffer) :
    Traced Event StreamBuffer := do
  let filled ← fillBuffer gralloc behaviour blob index input
  if filled.1 then return filled.2
  else
    emit [.bufferError frameNumber filled.2.stream]
    return { filled.2 with status := .error }

/-- The loop over the buffers from a place of the request on. -/
def outputBuffers (behaviours : ℕ → Behaviour) (blob : BlobStreams) (frameNumber : ℕ) :
    ℕ → List StreamBuffer → Traced Event (List StreamBuffer)
  | _, [] => return []
  | index, input :: rest => do
    let output ← outputBuffer gralloc (behaviours index) blob frameNumber index input
    let outputs ← outputBuffers behaviours blob frameNumber (index + 1) rest
    return output :: outputs

/-! ## Requests -/

/-- What `processRequestLocked` reads and writes of the camera. -/
structure CaptureState where
  isOpen : Bool
  configured : Bool
  hasCallbacks : Bool
  /-- `lastSettings_` is not null. -/
  hasSettings : Bool
  lastFrameTimestampNs : ℕ
  sourceFrameDurationNs : ℕ
  outputFrameDurationNs : ℕ

structure CaptureRequest where
  frameNumber : ℕ
  hasSettings : Bool
  hasInput : Bool
  /-- `none` for a null array. -/
  outputs : Option (List StreamBuffer)

structure Surroundings where
  gralloc : Gralloc
  blob : BlobStreams
  behaviour : ℕ → Behaviour
  /-- `clone_camera_metadata` returns a copy. -/
  clones : Bool
  /-- `buildResultMetadata` returns metadata. -/
  buildsResult : Bool
  /-- `bootTimeNs` at the first and the second call. -/
  clock : ℕ × ℕ

/-- The time of the frame, after the pause that keeps the frame rate. -/
def frameTimestamp (camera : CaptureState) (clock : ℕ × ℕ) : ℕ :=
  let target := (camera.lastFrameTimestampNs +
    max camera.sourceFrameDurationNs camera.outputFrameDurationNs) % 2 ^ 64
  if camera.lastFrameTimestampNs ≠ 0 ∧ clock.1 < target then clock.2 else clock.1

def capture (world : Surroundings) (camera : CaptureState) (frameNumber : ℕ)
    (buffers : List StreamBuffer) : Traced Event (Status × CaptureState) := do
  let timestamp := frameTimestamp camera world.clock
  let camera := { camera with lastFrameTimestampNs := timestamp }
  emit [.shutter frameNumber timestamp]
  let outputs ← outputBuffers world.gralloc world.behaviour world.blob frameNumber 0 buffers
  if !world.buildsResult then return (-ENOMEM, camera)
  else
    emit [.captureResult frameNumber outputs]
    return (0, camera)

def processRequestLocked (world : Surroundings) (camera : CaptureState)
    (request : Option CaptureRequest) : Traced Event (Status × CaptureState) :=
  match request with
  | none => return (-EINVAL, camera)
  | some request =>
    match request.outputs with
    | none => return (-EINVAL, camera)
    | some buffers =>
      if camera.isOpen = false ∨ camera.configured = false ∨ camera.hasCallbacks = false ∨
          buffers = [] ∨ request.hasInput = true then return (-EINVAL, camera)
      else if request.hasSettings then
        if !world.clones then return (-ENOMEM, camera)
        else capture world { camera with hasSettings := true } request.frameNumber buffers
      else if !camera.hasSettings then return (-EINVAL, camera)
      else capture world camera request.frameNumber buffers

/-! ## Gralloc locks -/

def Event.isAccess : Event → Bool
  | .lock _ => true
  | .unlock _ => true
  | _ => false

def accesses (events : List Event) : List Event := events.filter Event.isAccess

/-- Each lock is followed by the unlock of the same buffer, and there is no other unlock. -/
inductive Paired : List Event → Prop
  | nil : Paired []
  | pair (handle : ℕ) {rest : List Event} : Paired rest →
    Paired (.lock handle :: .unlock handle :: rest)

theorem not_paired_lock (handle : ℕ) : ¬Paired [.lock handle] := nofun

theorem paired_one (handle : ℕ) : Paired [.lock handle, .unlock handle] := .pair handle .nil

def Usable (buffer : StreamBuffer) : Prop := buffer.stream ≠ none ∧ buffer.handle ≠ none

/-- gralloc1 locks a flexible layout that is not YCbCr. -/
def FlexLeak (buffer : StreamBuffer) : Prop :=
  Usable buffer ∧ gralloc = .gralloc1 ∧ ¬badPlaneCount behaviour ∧ behaviour.lockFlex = 0 ∧
    behaviour.isYCbCr = false

/-- The compressor made a JPEG that fits into the buffer. -/
def JpegFits : Prop := behaviour.jpegError = false ∧
  ∃ encodedSize, behaviour.jpegOutput = some encodedSize ∧ encodedSize + jpegBlobSize ≤ kJpegMaxSize

/-- The lock for a JPEG succeeds, with a null pointer or in a module without `unlock`. -/
def JpegLeak (buffer : StreamBuffer) : Prop :=
  Usable buffer ∧ JpegFits behaviour ∧ jpegLock gralloc behaviour = 0 ∧
    (behaviour.mapped = false ∨ ∃ lockYcbcr, gralloc = .legacy lockYcbcr true false)

variable {gralloc behaviour} {buffer : StreamBuffer}

theorem usable_of_eq {s handle : ℕ} (hs : buffer.stream = some s)
    (hh : buffer.handle = some handle) : Usable buffer := by
  rw [Usable, hs, hh]
  exact ⟨nofun, nofun⟩

theorem paired_fillYuv_iff :
    Paired (accesses (fillYuv gralloc behaviour buffer).events) ↔ ¬FlexLeak gralloc behaviour buffer := by
  unfold fillYuv
  split
  · rename_i stream handle hs hh
    have hu := usable_of_eq hs hh
    split
    · split_ifs with hc hl hf hla hfe
      · exact iff_of_true .nil fun h => h.2.2.1 hc
      · exact iff_of_true .nil fun h => hl h.2.2.2.1
      · refine iff_of_false (not_paired_lock handle) (not_not.mpr ⟨hu, rfl, hc, ?_, ?_⟩)
        · exact not_not.mp hl
        · simpa using hf
      all_goals
        refine iff_of_true (paired_one handle) fun h => ?_
        simp [h.2.2.2.2] at hf
    · split_ifs with hl
      · exact iff_of_true .nil fun h => Gralloc.noConfusion h.2.1
      · exact iff_of_true (paired_one handle) fun h => Gralloc.noConfusion h.2.1
    · rename_i hfi _
      exact iff_of_true .nil fun h => hfi h.2.1
  · rename_i hn
    refine iff_of_true .nil fun h => ?_
    obtain ⟨stream, hs⟩ := Option.ne_none_iff_exists'.mp h.1.1
    obtain ⟨handle, hh⟩ := Option.ne_none_iff_exists'.mp h.1.2
    exact hn stream handle hs hh

/-- With the buffer locked and mapped, only a module without `unlock` leaves it locked. -/
theorem paired_unlockJpeg_iff {handle : ℕ} (hl : jpegLock gralloc behaviour = 0) :
    Paired (accesses (.lock handle :: (unlockJpeg gralloc behaviour handle buffer).events)) ↔
      ¬∃ lockYcbcr, gralloc = .legacy lockYcbcr true false := by
  cases gralloc with
  | gralloc1 => exact iff_of_true (paired_one handle) nofun
  | absent => cases hl
  | legacy lockYcbcr lock unlock =>
    cases unlock with
    | true => exact iff_of_true (paired_one handle) (by simp)
    | false =>
      cases lock with
      | true => exact iff_of_false (not_paired_lock handle) (not_not.mpr ⟨lockYcbcr, rfl⟩)
      | false => cases hl

/-- The lock for a JPEG is reached and succeeds. -/
def JpegLocked (gralloc : Gralloc) (behaviour : Behaviour) (buffer : StreamBuffer) : Prop :=
  Usable buffer ∧ JpegFits behaviour ∧ jpegLock gralloc behaviour = 0

theorem fillJpeg_of_not_locked (h : ¬JpegLocked gralloc behaviour buffer) :
    fillJpeg gralloc behaviour buffer = pure (false, buffer) := by
  unfold fillJpeg
  split
  · rename_i stream handle hst hh
    have hu := usable_of_eq hst hh
    by_cases he : behaviour.jpegError = true
    · rw [if_pos he]
    · rw [if_neg he]
      cases ho : behaviour.jpegOutput with
      | none => rfl
      | some encodedSize =>
        dsimp only
        by_cases hs : encodedSize + jpegBlobSize > kJpegMaxSize
        · rw [if_pos hs]
        · rw [if_neg hs, if_pos]
          intro hl
          exact h ⟨hu, ⟨by simpa using he, encodedSize, ho, not_lt.mp hs⟩, hl⟩
  · rfl

theorem fillJpeg_of_locked (h : JpegLocked gralloc behaviour buffer) :
    ∃ handle, fillJpeg gralloc behaviour buffer =
      (if !behaviour.mapped then do
        emit [.lock handle]
        return (false, buffer)
      else do
        emit [.lock handle]
        unlockJpeg gralloc behaviour handle buffer) := by
  obtain ⟨⟨hs, hh⟩, ⟨he, encodedSize, ho, hsi⟩, hl⟩ := h
  obtain ⟨stream, hs⟩ := Option.ne_none_iff_exists'.mp hs
  obtain ⟨handle, hh⟩ := Option.ne_none_iff_exists'.mp hh
  refine ⟨handle, ?_⟩
  rw [fillJpeg, hs, hh]
  dsimp only
  rw [he, if_neg Bool.false_ne_true, ho]
  dsimp only
  rw [if_neg (not_lt.mpr hsi), if_neg (not_not.mpr hl)]

theorem paired_fillJpeg_iff :
    Paired (accesses (fillJpeg gralloc behaviour buffer).events) ↔ ¬JpegLeak gralloc behaviour buffer := by
  by_cases h : JpegLocked gralloc behaviour buffer
  · obtain ⟨handle, e⟩ := fillJpeg_of_locked h
    rw [e]
    obtain ⟨hu, hf, hl⟩ := h
    cases hma : behaviour.mapped with
    | false =>
      exact iff_of_false (not_paired_lock handle)
        (not_not.mpr ⟨hu, hf, hl, .inl hma⟩)
    | true =>
      refine (paired_unlockJpeg_iff hl).trans (not_congr ?_)
      constructor
      · exact fun hm => ⟨hu, hf, hl, .inr hm⟩
      · rintro ⟨-, -, -, hn | hm⟩
        · exact absurd (hn.symm.trans hma) Bool.false_ne_true
        · exact hm
  · rw [fillJpeg_of_not_locked h]
    exact iff_of_true .nil fun hle => h ⟨hle.1, hle.2.1, hle.2.2.1⟩

/-- **The locks of a buffer are balanced** but for three answers of gralloc. -/
theorem locks_paired_iff (gralloc : Gralloc) (behaviour : Behaviour) (buffer : StreamBuffer) :
    (Paired (accesses (fillYuv gralloc behaviour buffer).events) ↔
      ¬FlexLeak gralloc behaviour buffer) ∧
    (Paired (accesses (fillJpeg gralloc behaviour buffer).events) ↔
      ¬JpegLeak gralloc behaviour buffer) :=
  ⟨paired_fillYuv_iff, paired_fillJpeg_iff⟩

def plainBuffer : StreamBuffer := ⟨some 0, some (some 7), .ok, -1, -1⟩

/-- gralloc1 locks every buffer in a layout that is not YCbCr and maps it nowhere. -/
def strangeGralloc : Behaviour where
  fenceWait := 0
  getNumFlexPlanes := 0
  planeCount := 3
  lockFlex := 0
  isYCbCr := false
  planes := []
  lockYcbcr := 0
  lock := 0
  mapped := false
  unlock := 0
  releaseFence := -1
  generated := true
  jpegError := false
  jpegOutput := some 100

/-- Both functions return with the buffer still locked. -/
theorem strangeGralloc_leaks :
    (fillYuv .gralloc1 strangeGralloc plainBuffer).events = [.lock 7] ∧
    (fillJpeg .gralloc1 strangeGralloc plainBuffer).events = [.lock 7] ∧
    (fillYuv .gralloc1 strangeGralloc plainBuffer).result = some (false, plainBuffer) ∧
    (fillJpeg .gralloc1 strangeGralloc plainBuffer).result = some (false, plainBuffer) ∧
    ¬Paired [.lock 7] :=
  ⟨by decide, by decide, by decide, by decide, not_paired_lock 7⟩

end Vcam.Hal
