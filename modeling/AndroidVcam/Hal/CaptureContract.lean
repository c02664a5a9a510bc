import AndroidVcam.Hal.Capture

/-!
# The contract of a capture request

A request that is taken is answered by a shutter notification, one error notification for each buffer
that could not be filled and one result with all buffers; a request that is refused leaves no trace.
The camera keeps this unless the allocation of the result metadata fails, which it finds out last.

* `CaptureContract`, `ResultLost`, **`captureContract_iff`**.
-/

namespace Vcam.Hal

open Traced List Option

/-! ## What a trace says -/

def errorsIn (events : List Event) : List (ℕ × Option ℕ) :=
  events.filterMap fun
    | .bufferError frameNumber stream => some (frameNumber, stream)
    | _ => none

/-- The places of the buffers whose acquire fence was closed. -/
def closesIn (events : List Event) : List ℕ :=
  events.filterMap fun
    | .closeAcquire index => some index
    | _ => none

def milestonesIn (events : List Event) : List Event :=
  events.filter fun
    | .shutter _ _ => true
    | .captureResult _ _ => true
    | _ => false

/-- A call of gralloc, or of `close` on a fence of gralloc. -/
def Event.ofGralloc : Event → Prop
  | .lock _ => True
  | .unlock _ => True
  | .closeRelease _ => True
  | _ => False

variable {events first second : List Event}

@[simp] theorem errorsIn_append : errorsIn (first ++ second) = errorsIn first ++ errorsIn second :=
  filterMap_append

@[simp] theorem closesIn_append : closesIn (first ++ second) = closesIn first ++ closesIn second :=
  filterMap_append

@[simp] theorem milestonesIn_append :
    milestonesIn (first ++ second) = milestonesIn first ++ milestonesIn second :=
  filter_append ..

theorem silent_of_gralloc (h : ∀ e ∈ events, e.ofGralloc) :
    errorsIn events = [] ∧ closesIn events = [] ∧ milestonesIn events = [] := by
  refine ⟨filterMap_eq_nil_iff.mpr ?_, filterMap_eq_nil_iff.mpr ?_,
    filter_eq_nil_iff.mpr ?_⟩
  all_goals
    intro e he
    have hg := h e he
    cases e <;> simp_all [Event.ofGralloc]

/-! ## One buffer -/

variable {g : Gralloc} {does : Behaviour} {blob : BlobStreams} {buffer : StreamBuffer}

/-- What the functions that fill a buffer keep of it. -/
def Keeps (buffer : StreamBuffer) (filled : Bool × StreamBuffer) : Prop :=
  filled.2.stream = buffer.stream ∧ filled.2.buffer = buffer.buffer ∧ filled.2.status = buffer.status

theorem keeps_self (ok : Bool) : Keeps buffer (ok, buffer) := ⟨rfl, rfl, rfl⟩

theorem emits_fillYuv : Emits Event.ofGralloc (Keeps buffer) (fillYuv g does buffer) := by
  have he {events : List Event} (h : ∀ e ∈ events, e.ofGralloc) {f : Bool × StreamBuffer}
      (hf : Keeps buffer f) : Emits Event.ofGralloc (Keeps buffer)
        (do emit events; return f : Traced Event (Bool × StreamBuffer)) :=
    (emits_emit h).bind fun _ _ => emits_pure hf
  unfold fillYuv
  split
  · split
    · split_ifs
      · exact emits_pure (keeps_self false)
      · exact emits_pure (keeps_self false)
      · exact he (by simp [Event.ofGralloc]) (keeps_self false)
      · exact (emits_emit (by simp [Event.ofGralloc])).bind fun _ _ =>
          he (by simp [Event.ofGralloc]) (keeps_self false)
      · exact (emits_emit (by simp [Event.ofGralloc])).bind fun _ _ =>
          he (by simp) (keeps_self false)
      · exact he (by simp [Event.ofGralloc]) ⟨rfl, rfl, rfl⟩
    · split_ifs
      · exact emits_pure (keeps_self false)
      · exact he (by simp [Event.ofGralloc]) (keeps_self _)
    · exact emits_pure (keeps_self false)
  · exact emits_pure (keeps_self false)

theorem emits_unlockJpeg (handle : ℕ) : Emits Event.ofGralloc (Keeps buffer)
    (unlockJpeg g does handle buffer) := by
  have hu : ∀ e ∈ [Event.unlock handle], e.ofGralloc := by simp [Event.ofGralloc]
  unfold unlockJpeg
  split
  · exact (emits_emit hu).bind fun _ _ => emits_pure ⟨rfl, rfl, rfl⟩
  · exact (emits_emit hu).bind fun _ _ => emits_pure (keeps_self _)
  · exact emits_stop

theorem emits_fillJpeg : Emits Event.ofGralloc (Keeps buffer) (fillJpeg g does buffer) := by
  by_cases h : JpegLocked g does buffer
  · obtain ⟨handle, e⟩ := fillJpeg_of_locked h
    have hl : ∀ e ∈ [Event.lock handle], e.ofGralloc := by simp [Event.ofGralloc]
    rw [e]
    split_ifs
    · exact (emits_emit hl).bind fun _ _ => emits_pure (keeps_self false)
    · exact (emits_emit hl).bind fun _ _ => emits_unlockJpeg handle
  · rw [fillJpeg_of_not_locked h]
    exact emits_pure (keeps_self false)

theorem emits_fillStream (s : ℕ) : Emits Event.ofGralloc (Keeps buffer)
    (fillStream g does blob s buffer) := by
  unfold fillStream
  split_ifs
  · exact emits_fillJpeg
  · exact emits_fillYuv

/-- The fence of a buffer was closed once, or not closed and handed back. -/
def FenceKept (index : ℕ) (input output : StreamBuffer) (closed : List ℕ) : Prop :=
  closed = [index] ∨ closed = [] ∧ (0 ≤ input.acquireFence → output.releaseFence = input.acquireFence)

/-- What `fillBuffer` has done with a buffer. -/
structure Filled (index : ℕ) (input : StreamBuffer) (filled : Bool × StreamBuffer)
    (events : List Event) : Prop where
  stream : filled.2.stream = input.stream
  buffer : filled.2.buffer = input.buffer
  status : filled.1 = true → filled.2.status = .ok
  errors : errorsIn events = []
  milestones : milestonesIn events = []
  fence : FenceKept index input filled.2 (closesIn events)

variable {index frameNumber : ℕ} {input o : StreamBuffer} {f : Bool × StreamBuffer}

/-- The buffer that is filled, with its fence taken care of. -/
def prepared (input : StreamBuffer) : StreamBuffer :=
  { input with acquireFence := -1, releaseFence := -1, status := .ok }

theorem filled_of_gralloc (hk : Keeps (prepared input) f)
    (hg : ∀ e ∈ events, e.ofGralloc) {c : List Event} (hq : errorsIn c = [])
    (hl : milestonesIn c = []) (hf : FenceKept index input f.2 (closesIn c)) :
    Filled index input f (c ++ events) := by
  obtain ⟨he, hc, hm⟩ := silent_of_gralloc hg
  refine ⟨hk.1, hk.2.1, fun _ => hk.2.2, ?_, ?_, ?_⟩
  · rw [errorsIn_append, hq, he]
    rfl
  · rw [milestonesIn_append, hl, hm]
    rfl
  · rw [closesIn_append, hc, append_nil]
    exact hf

theorem filled_fillBuffer (h : (fillBuffer g does blob index input).result = some f) :
    Filled index input f (fillBuffer g does blob index input).events := by
  unfold fillBuffer at h ⊢
  split at h
  · rename_i stream handle hs hh
    have hf : Emits Event.ofGralloc (Keeps (prepared input))
        (fillStream g does blob stream (prepared input)) := emits_fillStream stream
    have hc : FenceKept index input f.2 [index] := .inl rfl
    by_cases hfe : 0 ≤ input.acquireFence
    · rw [if_pos hfe] at h ⊢
      by_cases hw : does.fenceWait ≠ 0
      · rw [if_pos hw] at h ⊢
        obtain rfl := some.inj h
        exact filled_of_gralloc (keeps_self false) (forall_mem_nil _) rfl rfl hc
      · rw [if_neg hw] at h ⊢
        exact filled_of_gralloc (hf.result _ h) hf.events rfl rfl hc
    · rw [if_neg hfe] at h ⊢
      have hk : FenceKept index input f.2 [] := .inr ⟨rfl, fun hpos => absurd hpos hfe⟩
      rw [← nil_append (fillStream g does blob stream _).events]
      exact filled_of_gralloc (hf.result _ h) hf.events rfl rfl hk
  · obtain rfl := some.inj h
    exact ⟨rfl, rfl, nofun, rfl, rfl, .inr ⟨rfl, fun _ => rfl⟩⟩

/-- What one round of the loop has done with a buffer. -/
structure Handled (frameNumber index : ℕ) (input output : StreamBuffer) (events : List Event) :
    Prop where
  stream : output.stream = input.stream
  buffer : output.buffer = input.buffer
  errors : errorsIn events = if output.status = .error then [(frameNumber, output.stream)] else []
  milestones : milestonesIn events = []
  fence : FenceKept index input output (closesIn events)

theorem handled_outputBuffer
    (h : (outputBuffer g does blob frameNumber index input).result = some o) :
    Handled frameNumber index input o
      (outputBuffer g does blob frameNumber index input).events := by
  unfold outputBuffer at h ⊢
  obtain ⟨f, hfi, h⟩ := bind_eq_some.mp h
  have hf := filled_fillBuffer hfi
  rw [events_bind_of_some hfi]
  by_cases hok : f.1 = true
  · rw [if_pos hok] at h ⊢
    obtain rfl := some.inj h
    rw [events_pure, append_nil]
    refine ⟨hf.stream, hf.buffer, ?_, hf.milestones, hf.fence⟩
    rw [hf.errors, hf.status hok, if_neg nofun]
  · rw [if_neg hok] at h ⊢
    obtain rfl := some.inj h
    refine ⟨hf.stream, hf.buffer, ?_, ?_, ?_⟩
    · rw [errorsIn_append, hf.errors, if_pos rfl]
      rfl
    · rw [milestonesIn_append, hf.milestones]
      rfl
    · rw [closesIn_append]
      exact (append_nil (closesIn _)).symm ▸ hf.fence

/-! ## The loop -/

/-- What the loop has done with all buffers from a place on. -/
structure HandledAll (frameNumber index : ℕ) (inputs outputs : List StreamBuffer)
    (events : List Event) : Prop where
  buffers : outputs.map (fun b => (b.stream, b.buffer)) = inputs.map fun b => (b.stream, b.buffer)
  errors : errorsIn events =
    (outputs.filter fun b => b.status = .error).map fun b => (frameNumber, b.stream)
  milestones : milestonesIn events = []
  later : ∀ k ∈ closesIn events, index ≤ k
  fences : ∀ (k : ℕ) (input output : StreamBuffer), inputs[k]? = some input →
    outputs[k]? = some output → 0 ≤ input.acquireFence →
      (closesIn events).count (index + k) = 1 ∨
        (closesIn events).count (index + k) = 0 ∧ output.releaseFence = input.acquireFence

variable {b : ℕ → Behaviour} {inputs outputs : List StreamBuffer}

theorem FenceKept.count (h : FenceKept index input o (closesIn first))
    (hl : ∀ k ∈ closesIn second, index + 1 ≤ k) (hf : 0 ≤ input.acquireFence) :
    (closesIn (first ++ second)).count index = 1 ∨
      (closesIn (first ++ second)).count index = 0 ∧ o.releaseFence = input.acquireFence := by
  have hn : (closesIn second).count index = 0 :=
    count_eq_zero.mpr fun hmem => absurd (hl index hmem) (by omega)
  rw [closesIn_append, count_append, hn]
  rcases h with hc | ⟨ho, hr⟩
  · exact .inl (by rw [hc]; simp)
  · exact .inr ⟨by rw [ho]; rfl, hr hf⟩

theorem FenceKept.count_other (h : FenceKept index input o (closesIn first)) {k : ℕ}
    (hk : index < k) : (closesIn (first ++ second)).count k = (closesIn second).count k := by
  rw [closesIn_append, count_append]
  rcases h with hc | ⟨ho, -⟩
  · rw [hc, count_singleton]
    have : (index == k) = false := by simp; omega
    simp [this]
  · rw [ho]
    simp

/-- **The loop handles every buffer of a request.** -/
theorem handledAll_outputBuffers
    (h : (outputBuffers g b blob frameNumber index inputs).result = some outputs) :
    HandledAll frameNumber index inputs outputs
      (outputBuffers g b blob frameNumber index inputs).events := by
  induction inputs generalizing index outputs with
  | nil =>
    obtain rfl := some.inj h
    exact ⟨rfl, rfl, rfl, nofun, nofun⟩
  | cons input inputs ih =>
    rw [outputBuffers] at h ⊢
    obtain ⟨o, hf, h⟩ := bind_eq_some.mp h
    obtain ⟨rest, hr, h⟩ := bind_eq_some.mp h
    obtain rfl := some.inj h
    have hone := handled_outputBuffer hf
    have hall := ih hr
    rw [events_bind_of_some hf, events_bind_of_some hr, events_pure, append_nil]
    refine ⟨?_, ?_, ?_, ?_, ?_⟩
    · rw [map_cons, map_cons, hall.buffers, hone.stream, hone.buffer]
    · rw [errorsIn_append, hone.errors, hall.errors, filter_cons]
      by_cases hs : o.status = .error
      · simp [hs]
      · simp [hs]
    · rw [milestonesIn_append, hone.milestones, hall.milestones]
      rfl
    · intro k hk
      rw [closesIn_append, mem_append] at hk
      rcases hk with hk | hk
      · rcases hone.fence with hc | ⟨ho, -⟩
        · rw [hc, mem_singleton] at hk
          omega
        · rw [ho] at hk
          cases hk
      · exact Nat.le_of_succ_le (hall.later k hk)
    · intro k input' output' hin hout hfe
      cases k with
      | zero =>
        obtain rfl := some.inj hin
        obtain rfl := some.inj hout
        exact hone.fence.count hall.later hfe
      | succ k =>
        have hsh : index + (k + 1) = index + 1 + k := by omega
        rw [hsh, hone.fence.count_other (by omega)]
        exact hall.fences k input' output' hin hout hfe

/-! ## When the loop returns -/

/-- The JPEG of a buffer is to be unlocked in a module that has no `unlock`. -/
def NullUnlock (gralloc : Gralloc) (behaviour : Behaviour) (blob : BlobStreams)
    (input : StreamBuffer) : Prop :=
  (∃ stream, input.stream = some stream ∧ blob stream = true) ∧ input.handle ≠ none ∧
    (0 ≤ input.acquireFence → behaviour.fenceWait = 0) ∧ JpegFits behaviour ∧
    behaviour.lock = 0 ∧ behaviour.mapped = true ∧ ∃ lockYcbcr, gralloc = .legacy lockYcbcr true false

theorem fillYuv_returns : (fillYuv g does buffer).result ≠ none := by
  unfold fillYuv
  split
  · split
    · split_ifs <;> exact nofun
    · split_ifs <;> exact nofun
    · exact nofun
  · exact nofun

theorem unlockJpeg_stops_iff {handle : ℕ} (hl : jpegLock g does = 0) :
    (unlockJpeg g does handle buffer).result = none ↔
      ∃ lockYcbcr, g = .legacy lockYcbcr true false := by
  cases g with
  | gralloc1 => exact iff_of_false nofun nofun
  | absent => cases hl
  | legacy lockYcbcr lock unlock =>
    cases unlock with
    | true => exact iff_of_false nofun (by simp)
    | false =>
      cases lock with
      | true => exact iff_of_true rfl ⟨lockYcbcr, rfl⟩
      | false => cases hl

theorem fillJpeg_stops_iff : (fillJpeg g does buffer).result = none ↔
    Usable buffer ∧ JpegFits does ∧ does.lock = 0 ∧ does.mapped = true ∧
      ∃ lockYcbcr, g = .legacy lockYcbcr true false := by
  by_cases h : JpegLocked g does buffer
  · obtain ⟨handle, e⟩ := fillJpeg_of_locked h
    obtain ⟨hu, hf, hl⟩ := h
    rw [e]
    cases hm : does.mapped with
    | false => exact iff_of_false nofun (by simp)
    | true =>
      refine (unlockJpeg_stops_iff hl).trans ⟨?_, fun hs => hs.2.2.2.2⟩
      rintro ⟨lockYcbcr, rfl⟩
      exact ⟨hu, hf, hl, rfl, lockYcbcr, rfl⟩
  · rw [fillJpeg_of_not_locked h]
    refine iff_of_false nofun ?_
    rintro ⟨hu, hf, hl, -, lockYcbcr, rfl⟩
    exact h ⟨hu, hf, hl⟩

theorem fillStream_stops_iff {s : ℕ} (hs : buffer.stream = some s) :
    (fillStream g does blob s buffer).result = none ↔
      blob s = true ∧ buffer.handle ≠ none ∧ JpegFits does ∧ does.lock = 0 ∧
        does.mapped = true ∧ ∃ lockYcbcr, g = .legacy lockYcbcr true false := by
  unfold fillStream
  by_cases hb : blob s = true
  · rw [if_pos hb, fillJpeg_stops_iff, Usable, hs]
    simp [hb]
  · rw [if_neg hb]
    exact iff_of_false fillYuv_returns fun h => hb h.1

theorem fillBuffer_stops_iff : (fillBuffer g does blob index input).result = none ↔
    NullUnlock g does blob input := by
  unfold fillBuffer
  split
  · rename_i stream handle hs hh
    have hfi : (fillStream g does blob stream (prepared input)).result = none ↔ _ :=
      fillStream_stops_iff hs
    have hh' : (prepared input).handle = some handle := hh
    rw [hh'] at hfi
    have hn : NullUnlock g does blob input ↔ blob stream = true ∧
        some handle ≠ none ∧ (0 ≤ input.acquireFence → does.fenceWait = 0) ∧
        JpegFits does ∧ does.lock = 0 ∧ does.mapped = true ∧
        ∃ lockYcbcr, g = .legacy lockYcbcr true false := by
      rw [NullUnlock, hs, hh]
      simp only [some.injEq, exists_eq_left']
    rw [hn]
    by_cases hf : 0 ≤ input.acquireFence
    · rw [if_pos hf]
      by_cases hw : does.fenceWait = 0
      · rw [if_neg (not_not.mpr hw)]
        exact hfi.trans ⟨fun h => ⟨h.1, h.2.1, fun _ => hw, h.2.2⟩,
          fun h => ⟨h.1, h.2.1, h.2.2.2⟩⟩
      · rw [if_pos hw]
        exact iff_of_false nofun fun h => hw (h.2.2.1 hf)
    · rw [if_neg hf]
      exact hfi.trans ⟨fun h => ⟨h.1, h.2.1, fun hpos => absurd hpos hf, h.2.2⟩,
        fun h => ⟨h.1, h.2.1, h.2.2.2⟩⟩
  · rename_i hno
    refine iff_of_false nofun ?_
    rintro ⟨⟨stream, hs, -⟩, hh, -⟩
    obtain ⟨handle, hh⟩ := ne_none_iff_exists'.mp hh
    exact hno stream handle hs hh

theorem outputBuffer_stops_iff :
    (outputBuffer g does blob frameNumber index input).result = none ↔
      NullUnlock g does blob input := by
  rw [outputBuffer, bind_eq_none, fillBuffer_stops_iff]
  refine or_iff_left ?_
  rintro ⟨f, -, h⟩
  split_ifs at h
  cases h

theorem outputBuffers_stops_iff :
    (outputBuffers g b blob frameNumber index inputs).result = none ↔
      ∃ (k : ℕ) (input : StreamBuffer), inputs[k]? = some input ∧
        NullUnlock g (b (index + k)) blob input := by
  induction inputs generalizing index with
  | nil => exact iff_of_false nofun (by simp)
  | cons input inputs ih =>
    rw [outputBuffers, bind_eq_none, outputBuffer_stops_iff]
    constructor
    · rintro (h | ⟨o, -, h⟩)
      · exact ⟨0, input, rfl, h⟩
      · rw [bind_eq_none] at h
        rcases h with h | ⟨rest, -, h⟩
        · obtain ⟨k, later, hk, hn⟩ := ih.mp h
          exact ⟨k + 1, later, hk, by rwa [show index + (k + 1) = index + 1 + k by omega]⟩
        · cases h
    · rintro ⟨k, later, hk, hn⟩
      cases k with
      | zero =>
        obtain rfl := some.inj hk
        exact .inl hn
      | succ k =>
        cases hf : (outputBuffer g (b index) blob frameNumber index input).result with
        | none => exact .inl (outputBuffer_stops_iff.mp hf)
        | some o =>
          refine .inr ⟨o, rfl, bind_eq_none.mpr (.inl (ih.mpr ⟨k, later, hk, ?_⟩))⟩
          rwa [show index + 1 + k = index + (k + 1) by omega]

/-! ## The contract -/

def Event.isCallback : Event → Prop
  | .shutter _ _ => True
  | .bufferError _ _ => True
  | .captureResult _ _ => True
  | _ => False

def Event.closesAcquire : Event → Prop
  | .closeAcquire _ => True
  | _ => False

def Answered (request : Option CaptureRequest) (events : List Event) : Prop :=
  ∃ (r : CaptureRequest) (inputs outputs : List StreamBuffer) (timestamp : ℕ) (middle : List Event),
    request = some r ∧ r.outputs = some inputs ∧
    events = .shutter r.frameNumber timestamp :: (middle ++ [.captureResult r.frameNumber outputs]) ∧
    HandledAll r.frameNumber 0 inputs outputs middle

/-- A request that returns 0 was answered in full, and any other left no trace. -/
def CaptureContract (world : Surroundings) (camera : CaptureState) (request : Option CaptureRequest) :
    Prop :=
  ∀ (status : Status) (after : CaptureState),
    (processRequestLocked world camera request).result = some (status, after) →
    (status = 0 → Answered request (processRequestLocked world camera request).events) ∧
    (status ≠ 0 → ∀ e ∈ (processRequestLocked world camera request).events,
      ¬e.isCallback ∧ ¬e.closesAcquire)

/-- The request passes the checks of the method. -/
def Taken (world : Surroundings) (camera : CaptureState) (r : CaptureRequest)
    (inputs : List StreamBuffer) : Prop :=
  r.outputs = some inputs ∧ camera.isOpen = true ∧ camera.configured = true ∧
    camera.hasCallbacks = true ∧ inputs ≠ [] ∧ r.hasInput = false ∧
    (if r.hasSettings then world.clones else camera.hasSettings) = true

/-- The result metadata of a request that was taken cannot be allocated. -/
def ResultLost (world : Surroundings) (camera : CaptureState) (request : Option CaptureRequest) : Prop :=
  ∃ (r : CaptureRequest) (inputs : List StreamBuffer), request = some r ∧ Taken world camera r inputs ∧
    world.buildsResult = false ∧
    ∀ (k : ℕ) (input : StreamBuffer), inputs[k]? = some input →
      ¬NullUnlock world.gralloc (world.behaviour k) world.blob input

variable {world : Surroundings} {camera : CaptureState} {request : Option CaptureRequest}
  {r : CaptureRequest}

/-- **The two ways through the checks of the method.** -/
theorem processRequest_cases (w : Surroundings) (c : CaptureState)
    (req : Option CaptureRequest) :
    (∃ status : Status, status ≠ 0 ∧ processRequestLocked w c req =
        pure (status, c) ∧ ∀ r inputs, req = some r → ¬Taken w c r inputs) ∨
    ∃ (r : CaptureRequest) (inputs : List StreamBuffer) (before : CaptureState), req = some r ∧
      Taken w c r inputs ∧
      processRequestLocked w c req = capture w before r.frameNumber inputs := by
  have hEINVAL : (-EINVAL : Status) ≠ 0 := by decide
  have hENOMEM : (-ENOMEM : Status) ≠ 0 := by decide
  cases req with
  | none => exact .inl ⟨-EINVAL, hEINVAL, rfl, nofun⟩
  | some r =>
    rw [processRequestLocked]
    cases ho : r.outputs with
    | none =>
      refine .inl ⟨-EINVAL, hEINVAL, rfl, fun r' inputs e ht => ?_⟩
      obtain rfl := some.inj e
      exact absurd (ho.symm.trans ht.1) nofun
    | some inputs =>
      dsimp only
      by_cases hbad : c.isOpen = false ∨ c.configured = false ∨
          c.hasCallbacks = false ∨ inputs = [] ∨ r.hasInput = true
      · rw [if_pos hbad]
        refine .inl ⟨-EINVAL, hEINVAL, rfl, fun r' inputs' e ht => ?_⟩
        obtain rfl := some.inj e
        obtain ⟨ho', hope, hc, hca, hne, hi, -⟩ := ht
        obtain rfl := some.inj (ho.symm.trans ho')
        simp_all
      · rw [if_neg hbad]
        push Not at hbad
        obtain ⟨hope, hc, hca, hne, hi⟩ := hbad
        have ht (hs : (if r.hasSettings then w.clones else c.hasSettings) = true) :
            Taken w c r inputs :=
          ⟨ho, by simpa using hope, by simpa using hc, by simpa using hca, hne,
            by simpa using hi, hs⟩
        have hr (hs : (if r.hasSettings then w.clones else c.hasSettings) =
            false) : ∀ r' inputs', some r = some r' → ¬Taken w c r' inputs' := by
          intro r' inputs' e ht
          obtain rfl := some.inj e
          exact Bool.false_ne_true (hs.symm.trans ht.2.2.2.2.2.2)
        cases hs : r.hasSettings with
        | true =>
          rw [hs, if_pos rfl] at ht hr
          cases hcl : w.clones with
          | false => exact .inl ⟨-ENOMEM, hENOMEM, rfl, hr hcl⟩
          | true => exact .inr ⟨r, inputs, _, rfl, ht hcl, rfl⟩
        | false =>
          rw [hs, if_neg Bool.false_ne_true] at ht hr
          cases hk : c.hasSettings with
          | false => exact .inl ⟨-EINVAL, hEINVAL, rfl, hr hk⟩
          | true => exact .inr ⟨r, inputs, c, rfl, ht hk, rfl⟩

/-- A capture that was begun: it stops in a null call, is answered in full, or ends without a
result. -/
theorem capture_cases {number : ℕ} (w : Surroundings) (b : CaptureState)
    (i : List StreamBuffer) :
    ((capture w b number i).result = none ∧
      ∃ (k : ℕ) (input : StreamBuffer), i[k]? = some input ∧
        NullUnlock w.gralloc (w.behaviour k) w.blob input) ∨
    (∃ (outputs : List StreamBuffer) (timestamp : ℕ) (middle : List Event) (after : CaptureState),
      HandledAll number 0 i outputs middle ∧
      (∀ (k : ℕ) (input : StreamBuffer), i[k]? = some input →
        ¬NullUnlock w.gralloc (w.behaviour k) w.blob input) ∧
      capture w b number i =
        if w.buildsResult then ⟨some (0, after), .shutter number timestamp ::
          (middle ++ [.captureResult number outputs])⟩
        else ⟨some (-ENOMEM, after), .shutter number timestamp :: middle⟩) := by
  have hs := @outputBuffers_stops_iff w.gralloc w.blob 0 number w.behaviour i
  simp only [Nat.zero_add] at hs
  cases hl : (outputBuffers w.gralloc w.behaviour w.blob number 0 i).result with
  | none =>
    refine .inl ⟨?_, hs.mp hl⟩
    rw [capture, bind_eq_none]
    exact .inr ⟨(), rfl, bind_eq_none.mpr (.inl hl)⟩
  | some outputs =>
    have hh := handledAll_outputBuffers hl
    refine .inr ⟨outputs, frameTimestamp b w.clock, _,
      { b with lastFrameTimestampNs := frameTimestamp b w.clock }, hh, ?_, ?_⟩
    · intro k input hk hn
      rw [hs.mpr ⟨k, input, hk, hn⟩] at hl
      cases hl
    · rw [capture, bind_of_some (result_emit _), bind_of_some hl]
      cases w.buildsResult with
      | true => rfl
      | false => simp

/-- **The contract is kept unless the result metadata of a taken request cannot be allocated.** -/
theorem captureContract_iff (world : Surroundings) (camera : CaptureState)
    (request : Option CaptureRequest) :
    CaptureContract world camera request ↔ ¬ResultLost world camera request := by
  rcases processRequest_cases world camera request with
    ⟨status, hst, e, hrf⟩ | ⟨r, inputs, before, rfl, ht, e⟩
  · refine iff_of_true ?_ ?_
    · intro status' after h
      rw [e] at h ⊢
      cases h
      exact ⟨fun hz => absurd hz hst, fun _ => nofun⟩
    · rintro ⟨r, inputs, hr, ht, -⟩
      exact hrf r inputs hr ht
  · rcases @capture_cases r.frameNumber world before inputs with
      ⟨hno, k, input, hk, hn⟩ | ⟨outputs, timestamp, middle, after, hh, hre, hca⟩
    · refine iff_of_true ?_ ?_
      · intro status after h
        rw [e, hno] at h
        cases h
      · rintro ⟨r', inputs', hr, ht', -, hre⟩
        obtain rfl := some.inj hr
        obtain rfl := some.inj (ht.1.symm.trans ht'.1)
        exact hre k input hk hn
    · rw [hca] at e
      cases hb : world.buildsResult with
      | true =>
        rw [hb, if_pos rfl] at e
        refine iff_of_true ?_ ?_
        · intro status after' h
          rw [e] at h ⊢
          cases h
          refine ⟨fun _ => ?_, fun hne => absurd rfl hne⟩
          exact ⟨r, inputs, outputs, timestamp, middle, rfl, ht.1, rfl, hh⟩
        · rintro ⟨r', inputs', hr, -, hl, -⟩
          exact Bool.false_ne_true (hl.symm.trans hb)
      | false =>
        rw [hb, if_neg Bool.false_ne_true] at e
        refine iff_of_false ?_ (not_not.mpr ⟨r, inputs, rfl, ht, hb, hre⟩)
        intro hc
        -- The shutter notification has been made before the failure is found.
        have hs := (hc (-ENOMEM) after (by rw [e])).2 (by decide)
        rw [e] at hs
        exact (hs _ mem_cons_self).1 trivial

/-- A configured camera and a request for one buffer, whose result metadata cannot be allocated. -/
def readyCamera : CaptureState := ⟨true, true, true, true, 0, 33333333, 33333333⟩

def oneBuffer : CaptureRequest := ⟨5, true, false, some [⟨some 0, some (some 7), .ok, 9, -1⟩]⟩

def outOfMemory : Surroundings where
  gralloc := .legacy true true true
  blob := fun _ => false
  behaviour := fun _ => strangeGralloc
  clones := true
  buildsResult := false
  clock := (1, 2)

/-- The request is refused after its shutter notification, with its fence closed. -/
theorem outOfMemory_breaks_contract :
    ((processRequestLocked outOfMemory readyCamera (some oneBuffer)).result.map Prod.fst =
      some (-ENOMEM)) ∧
    (processRequestLocked outOfMemory readyCamera (some oneBuffer)).events =
      [.shutter 5 1, .closeAcquire 0, .lock 7, .unlock 7] ∧
    ¬CaptureContract outOfMemory readyCamera (some oneBuffer) := by
  have he : (processRequestLocked outOfMemory readyCamera (some oneBuffer)).events =
      [.shutter 5 1, .closeAcquire 0, .lock 7, .unlock 7] := by decide
  refine ⟨by decide, he, fun h => ?_⟩
  have hs := (h (-ENOMEM) { readyCamera with lastFrameTimestampNs := 1 } rfl).2 (by decide)
  rw [he] at hs
  exact (hs _ mem_cons_self).1 trivial

end Vcam.Hal
