import AndroidVcam.Frame.FrameState
import AndroidVcam.Hal.SourceViews
import AndroidVcam.Routing.Consumers

/-!
# Stream configurations

`configureStreamsLocked` of `hal/src/VirtualCamera.cpp` with everything it changes: the source of the
frames, the view and the frame rate of the source, and the streams of the client, which it writes to
while it is still checking the ones behind them.

* `configureStreams_routing`: the routing part is the one of `Routing.Consumers`;
* `RejectionIsNoOp`, `RejectedLate`, `NothingNew`, **`rejectionIsNoOp_iff`**.
-/

namespace Vcam.Hal

open TextFile RouteResolver Option

structure CameraStream extends Stream where
  usage : ℕ
  maxBuffers : ℕ
  /-- The address in `priv`. -/
  priv : ℕ
deriving DecidableEq

abbrev StreamMemory := ℕ → CameraStream

structure StreamRequest where
  /-- `none` for a null array, and a null pointer inside. -/
  streams : Option (List (Option ℕ))
  normalMode : Bool
  session : Option MetadataEntry

/-- What the method reads and writes of a `VirtualCamera`. -/
structure Camera where
  id : ℤ
  /-- `this`. -/
  address : ℕ
  isOpen : Bool
  hasCallbacks : Bool
  resolveScopedRoute : Bool
  sourcePath : Text
  sourceFrame : FrameState
  sourceTransform : RgbTransform
  sourceFrameDurationNs : ℤ
  outputFrameDurationNs : ℤ
  streams : List ℕ
  configured : Bool
  lastFrameTimestampNs : ℕ
  hasSettings : Bool

/-- `GRALLOC_USAGE_SW_WRITE_OFTEN | GRALLOC_USAGE_HW_CAMERA_WRITE`. -/
def cameraUsage : ℕ := 0x30 ||| 0x20000

/-- What the camera writes into a stream that it accepts. -/
def acceptStream (address : ℕ) (stream : CameraStream) : CameraStream :=
  { stream with usage := stream.usage ||| cameraUsage, maxBuffers := 2, priv := address }

def refusedStream (stream : Stream) : Prop :=
  stream.format = .other ∨ stream.isOutput = false ∨ stream.unrotated = false ∨
    supportedSize stream.format stream.width stream.height = false

instance (stream : Stream) : Decidable (refusedStream stream) := by
  unfold refusedStream; infer_instance

/-- The loop over the streams: the memory after it and, when no stream was refused, the accepted
streams and the largest number of pixels. -/
def acceptStreams (address : ℕ) :
    List (Option ℕ) → StreamMemory → StreamMemory × Option (List ℕ × ℕ)
  | [], memory => (memory, some ([], 0))
  | none :: _, memory => (memory, none)
  | some stream :: rest, memory =>
    if refusedStream (memory stream).toStream then (memory, none)
    else
      let result := acceptStreams address rest
        (Function.update memory stream (acceptStream address (memory stream)))
      (result.1, result.2.map fun accepted =>
        (stream :: accepted.1, max ((memory stream).width * (memory stream).height) accepted.2))

def kMaxOutputPixelRate : ℕ := 1920 * 1080 * 60

def outputFps (maxOutputPixels : ℕ) : ℕ := max 1 (min 60 (kMaxOutputPixelRate / max 1 maxOutputPixels))

variable (fs : FileSystem)

def setSourcePath (camera : Camera) (path : Text) : Camera :=
  { camera with sourcePath := path, sourceFrame := .reset }

def sessionProvider (camera : Camera) (request : StreamRequest) : Text :=
  providerForPackage fs (clientPackageFrom request.session) camera.id kDefaultRoutesPath
    kDefaultProvidersPath

/-- The camera with the route of the session; nothing when the route is a physical camera. -/
def applyRoute (camera : Camera) (request : StreamRequest) : Option Camera :=
  if camera.resolveScopedRoute then
    let provider := sessionProvider fs camera request
    if 0 ≤ physicalIdFromProvider provider then none
    else some (setSourcePath camera (framePath provider kDefaultProvidersPath))
  else some camera

def loadSourceConfiguration (camera : Camera) : Camera :=
  let loaded := loadSourceConfigurationLocked fs camera.id camera.sourcePath
  { camera with sourceTransform := loaded.1, sourceFrameDurationNs := loaded.2 }

def configureRouted (camera : Camera) (streams : List (Option ℕ)) (memory : StreamMemory) :
    Status × Camera × StreamMemory :=
  let camera := loadSourceConfiguration fs camera
  match acceptStreams camera.address streams memory with
  | (memory, none) => (-EINVAL, camera, memory)
  | (memory, some (accepted, maxOutputPixels)) =>
    (0, { camera with
      outputFrameDurationNs := 1000000000 / (outputFps maxOutputPixels : ℤ)
      streams := accepted
      configured := true
      lastFrameTimestampNs := 0
      hasSettings := false }, memory)

def configureStreamsLocked (camera : Camera) (config : Option StreamRequest) (memory : StreamMemory) :
    Status × Camera × StreamMemory :=
  match config with
  | none => (-EINVAL, camera, memory)
  | some request =>
    match request.streams with
    | none => (-EINVAL, camera, memory)
    | some streams =>
      if camera.isOpen = false ∨ camera.hasCallbacks = false ∨ streams = [] then
        (-EINVAL, camera, memory)
      else if request.normalMode = false then (-EINVAL, camera, memory)
      else match applyRoute fs camera request with
        | none => (-EACCES, camera, memory)
        | some camera => configureRouted fs camera streams memory

/-! ## The routing part -/

def Camera.routing (camera : Camera) (memory : StreamMemory) : VirtualCamera :=
  ⟨camera.id, camera.isOpen, camera.hasCallbacks, camera.resolveScopedRoute, camera.sourcePath,
    camera.configured, camera.streams.map fun stream => (memory stream).toStream⟩

def StreamRequest.routing (request : StreamRequest) (memory : StreamMemory) : StreamConfiguration :=
  ⟨request.streams.map fun streams => streams.map fun stream => stream.map fun s => (memory s).toStream,
    request.normalMode, request.session⟩

variable {fs} {camera : Camera} {memory : StreamMemory} {a : ℕ}

theorem toStream_update (s o : ℕ) :
    (Function.update memory s (acceptStream a (memory s)) o).toStream =
      (memory o).toStream := by
  by_cases h : o = s
  · subst h
    rw [Function.update_self]
    rfl
  · rw [Function.update_of_ne h]

theorem toStream_acceptStreams (s : List (Option ℕ)) (m : StreamMemory) (o : ℕ) :
    ((acceptStreams a s m).1 o).toStream = (m o).toStream := by
  induction s generalizing m with
  | nil => rfl
  | cons entry s ih =>
    cases entry with
    | none => rfl
    | some stream =>
      rw [acceptStreams]
      split_ifs
      · rfl
      · exact (ih _).trans (toStream_update stream o)

theorem acceptStreams_routing (st : List (Option ℕ)) (m : StreamMemory) :
    ((acceptStreams a st m).2.map fun accepted =>
        accepted.1.map fun stream => (m stream).toStream) =
      Vcam.acceptStreams (st.map fun stream => stream.map fun s => (m s).toStream) := by
  induction st generalizing m with
  | nil => rfl
  | cons entry st ih =>
    cases entry with
    | none => rfl
    | some stream =>
      rw [acceptStreams, List.map_cons, map_some, Vcam.acceptStreams]
      by_cases hr : refusedStream (m stream).toStream
      · rw [if_pos hr]
        exact (if_pos hr).symm
      · have hn := ih (Function.update m stream (acceptStream a (m stream)))
        simp only [toStream_update] at hn
        rw [if_neg hr]
        refine Eq.trans ?_ (if_neg hr).symm
        rw [← hn]
        simp only [map_map]
        rfl

/-- The status and the camera of a result, as the routing model has them. -/
def routingResult (result : Status × Camera × StreamMemory) : Status × VirtualCamera :=
  (result.1, result.2.1.routing result.2.2)

theorem configureRouted_routing (c : Camera) (st : List (Option ℕ))
    (m : StreamMemory) : routingResult (configureRouted fs c st m) =
      configureAccepted (c.routing m)
        (st.map fun stream => stream.map fun s => (m s).toStream) := by
  have ha := @acceptStreams_routing c.address st m
  have hs := @toStream_acceptStreams c.address st m
  have hl : (loadSourceConfiguration fs c).address = c.address := rfl
  rw [configureRouted, configureAccepted, ← ha, hl]
  cases hlo : acceptStreams c.address st m with
  | mk after accepted =>
    rw [hlo] at hs
    replace hs : ∀ other, (after other).toStream = (m other).toStream := hs
    cases accepted with
    | none =>
      simp only [routingResult, Camera.routing, loadSourceConfiguration, hs, map_none]
    | some accepted =>
      simp only [routingResult, Camera.routing, loadSourceConfiguration, hs, map_some]

/-- **The method is the one of the routing model**, for its status and what that model has of the
camera. -/
theorem configureStreams_routing (c : Camera) (r : StreamRequest) (m : StreamMemory) :
    routingResult (configureStreamsLocked fs c (some r) m) =
      Vcam.configureStreamsLocked fs (c.routing m) (r.routing m) := by
  rw [configureStreamsLocked, Vcam.configureStreamsLocked, StreamRequest.routing]
  cases r.streams with
  | none => rfl
  | some streams =>
    have hsa : ((c.routing m).isOpen = false ∨ (c.routing m).hasCallbacks =
        false ∨ streams.map (fun stream => stream.map fun s => (m s).toStream) = []) ↔
        (c.isOpen = false ∨ c.hasCallbacks = false ∨ streams = []) := by
      rw [List.map_eq_nil_iff]
      rfl
    dsimp only [map_some]
    by_cases hc : c.isOpen = false ∨ c.hasCallbacks = false ∨ streams = []
    · rw [if_pos hc, if_pos (hsa.mpr hc)]
      rfl
    · rw [if_neg hc, if_neg (hsa.not.mpr hc)]
      by_cases hm : r.normalMode = false
      · rw [if_pos hm, if_pos hm]
        rfl
      · rw [if_neg hm, if_neg hm, applyRoute]
        by_cases hs : c.resolveScopedRoute = true
        · rw [if_pos hs, if_pos (show (c.routing m).resolveScopedRoute = true from hs)]
          dsimp only
          by_cases hp : 0 ≤ physicalIdFromProvider (sessionProvider fs c r)
          · rw [if_pos hp]
            exact (if_pos hp).symm
          · rw [if_neg hp]
            refine Eq.trans ?_ (if_neg hp).symm
            exact configureRouted_routing _ streams m
        · rw [if_neg hs, if_neg (show ¬(c.routing m).resolveScopedRoute = true from hs)]
          exact configureRouted_routing c streams m

/-! ## The memory after the loop -/

def acceptedBefore (memory : StreamMemory) : List (Option ℕ) → List ℕ
  | [] => []
  | none :: _ => []
  | some stream :: rest =>
    if refusedStream (memory stream).toStream then [] else stream :: acceptedBefore memory rest

theorem acceptStream_idem (stream : CameraStream) :
    acceptStream a (acceptStream a stream) = acceptStream a stream := by
  rw [acceptStream, acceptStream]
  dsimp only
  rw [Nat.or_assoc, Nat.or_self]

theorem acceptedBefore_update (streams : List (Option ℕ)) (s : ℕ) :
    acceptedBefore (Function.update memory s (acceptStream a (memory s))) streams =
      acceptedBefore memory streams := by
  induction streams with
  | nil => rfl
  | cons entry streams ih =>
    cases entry with
    | none => rfl
    | some other => rw [acceptedBefore, acceptedBefore, toStream_update, ih]

/-- The loop has written into the streams before the first one that is refused. -/
theorem memory_acceptStreams (s : List (Option ℕ)) (m : StreamMemory) (other : ℕ) :
    (acceptStreams a s m).1 other =
      if other ∈ acceptedBefore m s then acceptStream a (m other)
      else m other := by
  induction s generalizing m with
  | nil => rfl
  | cons entry s ih =>
    cases entry with
    | none => rfl
    | some stream =>
      rw [acceptStreams, acceptedBefore]
      by_cases hr : refusedStream (m stream).toStream
      · rw [if_pos hr, if_pos hr]
        rfl
      · rw [if_neg hr, if_neg hr]
        dsimp only
        rw [ih, acceptedBefore_update]
        by_cases hs : other = stream
        · subst hs
          rw [Function.update_self, acceptStream_idem, ite_self, if_pos List.mem_cons_self]
        · rw [Function.update_of_ne hs]
          simp [hs]

theorem memory_unchanged_iff (s : List (Option ℕ)) :
    (acceptStreams a s memory).1 = memory ↔
      ∀ stream ∈ acceptedBefore memory s, acceptStream a (memory stream) = memory stream := by
  rw [funext_iff]
  refine forall_congr' fun other => ?_
  rw [memory_acceptStreams]
  by_cases h : other ∈ acceptedBefore memory s
  · simp [h]
  · simp [h]

theorem acceptStreams_eq_none_iff (st : List (Option ℕ)) (m : StreamMemory) :
    (acceptStreams a st m).2 = none ↔
      ∃ entry ∈ st, ∀ stream, entry = some stream → refusedStream (m stream).toStream := by
  induction st generalizing m with
  | nil => simp [acceptStreams]
  | cons entry st ih =>
    cases entry with
    | none => simp [acceptStreams]
    | some stream =>
      rw [acceptStreams]
      by_cases hr : refusedStream (m stream).toStream
      · rw [if_pos hr]
        exact iff_of_true rfl ⟨some stream, List.mem_cons_self, fun s e => by
          obtain rfl := some.inj e
          exact hr⟩
      · rw [if_neg hr]
        dsimp only
        rw [map_eq_none_iff, ih]
        simp only [toStream_update, List.mem_cons, exists_eq_or_imp]
        refine (or_iff_right ?_).symm
        exact fun h => hr (h stream rfl)

/-! ## Refused configurations -/

/-- A configuration that is refused changes nothing of the camera's source and streams, and no stream
of the client. -/
def RejectionIsNoOp (fs : FileSystem) (camera : Camera) (config : Option StreamRequest)
    (memory : StreamMemory) : Prop :=
  (configureStreamsLocked fs camera config memory).1 ≠ 0 →
    let after := (configureStreamsLocked fs camera config memory).2.1
    after.sourcePath = camera.sourcePath ∧ after.sourceFrame = camera.sourceFrame ∧
      after.sourceTransform = camera.sourceTransform ∧
      after.sourceFrameDurationNs = camera.sourceFrameDurationNs ∧
      after.outputFrameDurationNs = camera.outputFrameDurationNs ∧ after.streams = camera.streams ∧
      after.configured = camera.configured ∧
      (configureStreamsLocked fs camera config memory).2.2 = memory

/-- The configuration passes the checks before the streams. -/
structure Passes (fs : FileSystem) (camera : Camera) (request : StreamRequest)
    (streams : List (Option ℕ)) : Prop where
  given : request.streams = some streams
  opened : camera.isOpen = true
  callbacks : camera.hasCallbacks = true
  some_stream : streams ≠ []
  normal : request.normalMode = true
  virtual : camera.resolveScopedRoute = true →
    physicalIdFromProvider (sessionProvider fs camera request) < 0

def routedCamera (fs : FileSystem) (camera : Camera) (request : StreamRequest) : Camera :=
  if camera.resolveScopedRoute then
    setSourcePath camera (framePath (sessionProvider fs camera request) kDefaultProvidersPath)
  else camera

theorem configure_cases (fs : FileSystem) (c : Camera) (config : Option StreamRequest)
    (memory : StreamMemory) :
    (∃ status : Status, configureStreamsLocked fs c config memory = (status, c, memory) ∧
      ∀ request streams, config = some request → ¬Passes fs c request streams) ∨
    ∃ request streams, config = some request ∧ Passes fs c request streams ∧
      configureStreamsLocked fs c config memory =
        configureRouted fs (routedCamera fs c request) streams memory := by
  cases config with
  | none => exact .inl ⟨-EINVAL, rfl, nofun⟩
  | some request =>
    rw [configureStreamsLocked]
    cases hst : request.streams with
    | none =>
      refine .inl ⟨-EINVAL, rfl, fun request' streams e hp => ?_⟩
      obtain rfl := some.inj e
      exact absurd (hst.symm.trans hp.given) nofun
    | some streams =>
      have hr (hno : ¬Passes fs c request streams) : ∀ request' streams',
          some request = some request' → ¬Passes fs c request' streams' := by
        intro request' streams' e hp
        obtain rfl := some.inj e
        obtain rfl := some.inj (hst.symm.trans hp.given)
        exact hno hp
      dsimp only
      by_cases hc : c.isOpen = false ∨ c.hasCallbacks = false ∨ streams = []
      · rw [if_pos hc]
        refine .inl ⟨-EINVAL, rfl, hr fun hp => ?_⟩
        rcases hc with h | h | h
        · exact Bool.false_ne_true (h.symm.trans hp.opened)
        · exact Bool.false_ne_true (h.symm.trans hp.callbacks)
        · exact hp.some_stream h
      · rw [if_neg hc]
        by_cases hm : request.normalMode = false
        · rw [if_pos hm]
          exact .inl ⟨-EINVAL, rfl, hr fun hp =>
            Bool.false_ne_true (hm.symm.trans hp.normal)⟩
        · rw [if_neg hm, applyRoute]
          rw [not_or, not_or, Bool.not_eq_false, Bool.not_eq_false] at hc
          rw [Bool.not_eq_false] at hm
          by_cases hs : c.resolveScopedRoute = true
          · rw [if_pos hs]
            dsimp only
            by_cases hph : 0 ≤ physicalIdFromProvider (sessionProvider fs c request)
            · rw [if_pos hph]
              exact .inl ⟨-EACCES, rfl, hr fun hp =>
                absurd (hp.virtual hs) (not_lt.mpr hph)⟩
            · rw [if_neg hph]
              refine .inr ⟨request, streams, rfl, ⟨hst, hc.1, hc.2.1, hc.2.2, hm,
                fun _ => not_le.mp hph⟩, ?_⟩
              rw [routedCamera, if_pos hs]
          · rw [if_neg hs]
            refine .inr ⟨request, streams, rfl, ⟨hst, hc.1, hc.2.1, hc.2.2, hm,
              fun h => absurd h hs⟩, ?_⟩
            rw [routedCamera, if_neg hs]

/-- A stream of a configuration that passes the other checks is refused. -/
def RejectedLate (fs : FileSystem) (camera : Camera) (request : StreamRequest)
    (streams : List (Option ℕ)) (memory : StreamMemory) : Prop :=
  Passes fs camera request streams ∧
    ∃ entry ∈ streams, ∀ stream, entry = some stream → refusedStream (memory stream).toStream

/-- What the method applies before it looks at the streams, and what it writes into the ones before
the refused one, is there already. -/
def NothingNew (fs : FileSystem) (camera : Camera) (request : StreamRequest)
    (streams : List (Option ℕ)) (memory : StreamMemory) : Prop :=
  (camera.resolveScopedRoute = true →
    camera.sourcePath = framePath (sessionProvider fs camera request) kDefaultProvidersPath ∧
      camera.sourceFrame = .reset) ∧
  loadSourceConfigurationLocked fs camera.id (routedCamera fs camera request).sourcePath =
    (camera.sourceTransform, camera.sourceFrameDurationNs) ∧
  ∀ stream ∈ acceptedBefore memory streams, acceptStream camera.address (memory stream) = memory stream

theorem source_routedCamera_iff {r : StreamRequest} :
    ((routedCamera fs camera r).sourcePath = camera.sourcePath ∧
      (routedCamera fs camera r).sourceFrame = camera.sourceFrame) ↔
    (camera.resolveScopedRoute = true →
      camera.sourcePath = framePath (sessionProvider fs camera r) kDefaultProvidersPath ∧
        camera.sourceFrame = .reset) := by
  rw [routedCamera]
  by_cases hs : camera.resolveScopedRoute = true
  · rw [if_pos hs]
    simp only [setSourcePath, hs, forall_const]
    exact and_congr eq_comm eq_comm
  · rw [if_neg hs]
    exact iff_of_true ⟨rfl, rfl⟩ fun h => absurd h hs

theorem kept_routedCamera (fs : FileSystem) (c : Camera) (r : StreamRequest) :
    (routedCamera fs c r).id = c.id ∧
      (routedCamera fs c r).address = c.address ∧
      (routedCamera fs c r).outputFrameDurationNs = c.outputFrameDurationNs ∧
      (routedCamera fs c r).streams = c.streams ∧
      (routedCamera fs c r).configured = c.configured := by
  rw [routedCamera]
  split_ifs <;> exact ⟨rfl, rfl, rfl, rfl, rfl⟩

theorem configureRouted_refused {s : List (Option ℕ)}
    (h : (acceptStreams camera.address s memory).2 = none) :
    configureRouted fs camera s memory = (-EINVAL, loadSourceConfiguration fs camera,
      (acceptStreams camera.address s memory).1) := by
  have ha : (loadSourceConfiguration fs camera).address = camera.address := rfl
  rw [configureRouted, ha]
  cases hl : acceptStreams camera.address s memory with
  | mk after accepted =>
    rw [hl] at h
    cases h
    rfl

theorem configureRouted_accepted {s : List (Option ℕ)}
    (h : (acceptStreams camera.address s memory).2 ≠ none) :
    (configureRouted fs camera s memory).1 = 0 := by
  have ha : (loadSourceConfiguration fs camera).address = camera.address := rfl
  rw [configureRouted, ha]
  cases hl : acceptStreams camera.address s memory with
  | mk after accepted =>
    rw [hl] at h
    cases accepted with
    | none => exact absurd rfl h
    | some accepted => rfl

/-- **A refused configuration is a no-op** exactly when it is refused before the route is applied, or
when the method had nothing new to apply. -/
theorem rejectionIsNoOp_iff (fs : FileSystem) (camera : Camera) (config : Option StreamRequest)
    (memory : StreamMemory) :
    RejectionIsNoOp fs camera config memory ↔
      ∀ request streams, config = some request → RejectedLate fs camera request streams memory →
        NothingNew fs camera request streams memory := by
  rcases configure_cases fs camera config memory with
    ⟨status, e, hr⟩ | ⟨request, streams, rfl, hp, e⟩
  · refine iff_of_true ?_ fun request streams hco hl => ?_
    · rw [RejectionIsNoOp, e]
      exact fun _ => ⟨rfl, rfl, rfl, rfl, rfl, rfl, rfl, rfl⟩
    · exact absurd hl.1 (hr request streams hco)
  · have hu {P : StreamRequest → List (Option ℕ) → Prop} :
        (∀ request' streams', some request = some request' →
          RejectedLate fs camera request' streams' memory → P request' streams') ↔
        (RejectedLate fs camera request streams memory → P request streams) := by
      refine ⟨fun h => h request streams rfl, fun h request' streams' e' hl => ?_⟩
      obtain rfl := some.inj e'
      obtain rfl := some.inj (hp.given.symm.trans hl.1.given)
      exact h hl
    obtain ⟨hid, ha, hd, hst, hc⟩ := kept_routedCamera fs camera request
    rw [hu, RejectionIsNoOp, e]
    by_cases hlo : (acceptStreams camera.address streams memory).2 = none
    · have hl : RejectedLate fs camera request streams memory :=
        ⟨hp, (acceptStreams_eq_none_iff streams memory).mp hlo⟩
      rw [← ha] at hlo
      rw [configureRouted_refused hlo]
      simp only [hl, forall_const]
      rw [NothingNew, ← source_routedCamera_iff, ← memory_unchanged_iff, ← ha, ← hid]
      simp only [loadSourceConfiguration, hd, hst, hc, true_and]
      have hs : (-EINVAL : Status) ≠ 0 := by decide
      rw [Prod.ext_iff]
      simp only [hs, ne_eq, not_false_eq_true, forall_const]
      tauto
    · refine iff_of_true (fun hs => absurd ?_ hs) fun hl => ?_
      · exact configureRouted_accepted (by rwa [ha])
      · exact absurd ((acceptStreams_eq_none_iff streams memory).mpr hl.2) hlo

def idleCamera : Camera where
  id := 0
  address := 4096
  isOpen := true
  hasCallbacks := true
  resolveScopedRoute := false
  sourcePath := "/data/vendor/camera/vcam/source.rgb"
  sourceFrame := .reset
  sourceTransform := defaultTransform
  sourceFrameDurationNs := kFrameDurationNs
  outputFrameDurationNs := kFrameDurationNs
  streams := []
  configured := false
  lastFrameTimestampNs := 0
  hasSettings := false

def previewStreams : StreamMemory := fun _ => ⟨⟨.ycbcr420, true, true, 640, 480⟩, 0, 0, 0⟩

def halfConfiguration : StreamRequest := ⟨some [some 1, none], true, none⟩

/-- The configuration is refused; the camera has turned its view and the good stream is its own. -/
theorem halfConfiguration_applied :
    (configureStreamsLocked (fun _ => none) idleCamera (some halfConfiguration) previewStreams).1 =
      -EINVAL ∧
    (configureStreamsLocked (fun _ => none) idleCamera (some halfConfiguration)
      previewStreams).2.1.sourceTransform.rotationDegrees = -90 ∧
    ((configureStreamsLocked (fun _ => none) idleCamera (some halfConfiguration)
      previewStreams).2.2 1).priv = 4096 ∧
    ¬RejectionIsNoOp (fun _ => none) idleCamera (some halfConfiguration) previewStreams := by
  have hs : (configureStreamsLocked (fun _ => none) idleCamera (some halfConfiguration)
      previewStreams).1 = -EINVAL := by decide
  have ht : (configureStreamsLocked (fun _ => none) idleCamera (some halfConfiguration)
      previewStreams).2.1.sourceTransform.rotationDegrees = -90 := by decide
  refine ⟨hs, ht, by decide, fun h => ?_⟩
  have hsa := (h (by rw [hs]; decide)).2.2.1
  rw [hsa] at ht
  exact absurd ht (by decide)

end Vcam.Hal
