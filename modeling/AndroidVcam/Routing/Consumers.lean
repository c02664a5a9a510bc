import AndroidVcam.Routing.ScopedCameraRouter

/-!
# The consumers of the route table

Besides the Binder router, three components look a session up in the route table and decide
between the virtual and the physical backend:

* `proxyConfigure` (`native/proxy_bootstrap.cpp`): the OEM proxy;
* `configureStreamsLocked` (`hal/src/VirtualCamera.cpp`): the standalone virtual camera;
* `configureRoutedFrame` (`aosp/provider/aidl/VcamCameraProviderHwl.cpp`): the AIDL provider.

Each combines `configured`, `available` and the physical ID in its own way. `routesVirtual` is the
common decision; **`consumers_agree`** says that all of them follow it and use the frames of the
same provider.
-/

namespace Vcam

open TextFile RouteResolver ScopedCameraRouter

/-- A Unix error code, negated as the HAL interfaces return it. -/
abbrev Status := ℤ

def EACCES : ℤ := 13

def ENODEV : ℤ := 19

def EINVAL : ℤ := 22

/-! ## The package of a session -/

/-- The entry for a client-package tag in the session parameters. -/
structure MetadataEntry where
  isByte : Bool
  hasData : Bool
  bytes : Text

/-- The bytes of the entry up to the first NUL; nothing without an entry. -/
def metadataPackage (checkType : Bool) : Option MetadataEntry → Text
  | none => []
  | some entry =>
    if (checkType && !entry.isByte) ∨ entry.bytes = [] ∨ entry.hasData = false then []
    else cStr entry.bytes

def packageFrom : Option MetadataEntry → Text := metadataPackage false

def clientPackageFrom : Option MetadataEntry → Text := metadataPackage false

/-- `ClientPackageFrom` of the AIDL provider, which also asks for a byte entry. -/
def hwlClientPackageFrom : Option MetadataEntry → Text := metadataPackage true

/-! ## The OEM proxy -/

inductive Backend
  | unconfigured
  | physical
  | virtual
deriving DecidableEq, Repr

/-- What `proxyConfigure` reads and writes of a `ProxyDevice`. -/
structure ProxyDevice where
  cameraId : ℤ
  physicalOpen : Bool
  physicalSourceId : ℤ
  virtualSourcePath : Text
  backend : Backend
  packageName : Text

/-- The answers of the vendor HAL and of the virtual device. -/
structure HalResults where
  /-- the result of `open` and whether it returned a device -/
  openSource : ℤ → Status × Bool
  hasInitOperation : Bool
  initResult : Status
  configurePhysical : Status
  configureVirtual : Status

def kMaxCameras : ℤ := 16

def selectPhysicalSource (hal : HalResults) (state : ProxyDevice) (sourceId : ℤ) :
    Status × ProxyDevice :=
  if sourceId < 0 ∨ kMaxCameras ≤ sourceId then (-EINVAL, state)
  else if state.physicalOpen = true ∧ state.physicalSourceId = sourceId then (0, state)
  else
    let closed := { state with physicalOpen := false, physicalSourceId := -1 }
    let opened := hal.openSource sourceId
    if opened.1 ≠ 0 ∨ opened.2 = false then (opened.1, closed)
    else if hal.hasInitOperation = false then (-ENODEV, closed)
    else if hal.initResult ≠ 0 then (hal.initResult, closed)
    else (0, { closed with physicalOpen := true, physicalSourceId := sourceId })

structure ProxyRoute where
  provider : Text
  useVirtual : Bool
  physicalSource : ℤ

variable (fs : FileSystem)

def proxyRoute (packageName : Text) (cameraId : ℤ) : ProxyRoute :=
  let selection := resolveProviderForPackage fs packageName cameraId kDefaultRoutesPath
    kDefaultProvidersPath
  let routedPhysicalSource :=
    if selection.configured && selection.available then
      physicalIdFromProvider selection.providerId
    else cameraId
  let useVirtual :=
    selection.configured && selection.available && decide (routedPhysicalSource < 0)
  ⟨selection.providerId, useVirtual, if useVirtual then -1 else routedPhysicalSource⟩

/-- The result of `proxyConfigure`, with the backend whose streams it set out to configure. -/
structure ProxyConfigured where
  result : Status
  attempted : Backend
  provider : Text
  state : ProxyDevice

def proxyConfigure (hal : HalResults) (globalRouteOnly : Bool) (session : Option MetadataEntry)
    (state : ProxyDevice) : ProxyConfigured :=
  let packageName := if globalRouteOnly then [] else packageFrom session
  let route := proxyRoute fs packageName state.cameraId
  let configured : Status × ProxyDevice :=
    if route.useVirtual then
      (hal.configureVirtual,
        { state with virtualSourcePath := framePath route.provider kDefaultProvidersPath })
    else
      let selected := selectPhysicalSource hal state route.physicalSource
      if selected.1 = 0 then (hal.configurePhysical, selected.2) else selected
  let attempted : Backend := if route.useVirtual then .virtual else .physical
  ⟨configured.1, attempted, route.provider,
    if configured.1 = 0 then
      { configured.2 with backend := attempted, packageName := packageName }
    else configured.2⟩

/-! ## The standalone virtual camera -/

inductive PixelFormat
  | implementationDefined
  | ycbcr420
  | blob
  | other
deriving DecidableEq, Repr

structure Stream where
  format : PixelFormat
  isOutput : Bool
  unrotated : Bool
  width : ℕ
  height : ℕ
deriving DecidableEq

structure StreamConfiguration where
  /-- `none` for a null array, and a null stream inside -/
  streams : Option (List (Option Stream))
  normalMode : Bool
  session : Option MetadataEntry

structure VirtualCamera where
  id : ℤ
  isOpen : Bool
  hasCallbacks : Bool
  resolveScopedRoute : Bool
  sourcePath : Text
  configured : Bool
  streams : List Stream

def kMaxStreamDimension : ℕ := 16384

def supportedSize (format : PixelFormat) (width height : ℕ) : Bool :=
  if width = 0 ∨ height = 0 ∨ kMaxStreamDimension < width ∨ kMaxStreamDimension < height then false
  else decide (format = .blob) || (decide (width % 2 = 0) && decide (height % 2 = 0))

/-- The loop over the streams: all of them, or nothing when one is refused. -/
def acceptStreams : List (Option Stream) → Option (List Stream)
  | [] => some []
  | none :: _ => none
  | some stream :: rest =>
    if stream.format = .other ∨ stream.isOutput = false ∨ stream.unrotated = false ∨
        supportedSize stream.format stream.width stream.height = false then none
    else (acceptStreams rest).map (stream :: ·)

def configureAccepted (camera : VirtualCamera) (streams : List (Option Stream)) :
    Status × VirtualCamera :=
  match acceptStreams streams with
  | none => (-EINVAL, camera)
  | some accepted => (0, { camera with streams := accepted, configured := true })

def configureStreamsLocked (camera : VirtualCamera) (config : StreamConfiguration) :
    Status × VirtualCamera :=
  match config.streams with
  | none => (-EINVAL, camera)
  | some streams =>
    if camera.isOpen = false ∨ camera.hasCallbacks = false ∨ streams = [] then (-EINVAL, camera)
    else if config.normalMode = false then (-EINVAL, camera)
    else if camera.resolveScopedRoute then
      let provider := providerForPackage fs (clientPackageFrom config.session) camera.id
        kDefaultRoutesPath kDefaultProvidersPath
      if 0 ≤ physicalIdFromProvider provider then (-EACCES, camera)
      else configureAccepted
        { camera with sourcePath := framePath provider kDefaultProvidersPath } streams
    else configureAccepted camera streams

/-! ## The AIDL provider -/

structure RoutedFrameState where
  packageName : Text
  providerId : Text
  sourcePath : Text

/-- The diagnostic variables in the environment of the provider. -/
structure ProbeEnvironment where
  clientPackage : Option Text
  testPattern : Option Text

def routedFramePackage (probes : ProbeEnvironment) (session : Option MetadataEntry) : Text :=
  let package := hwlClientPackageFrom session
  if package = [] then probes.clientPackage.getD [] else package

/-- `ConfigureRoutedFrame`: whether it returns `OK`, and the state of the camera. -/
def configureRoutedFrame (probes : ProbeEnvironment) (cameraId : ℕ)
    (session : Option MetadataEntry) (state : RoutedFrameState) : Bool × RoutedFrameState :=
  if 2 ≤ cameraId then (false, state)
  else
    let packageName := routedFramePackage probes session
    if packageName = [] then
      if probes.testPattern = some ['1'] then
        (true, ⟨"<direct-probe>", "test-pattern", []⟩)
      else (false, state)
    else
      let selection := resolveProviderForPackage fs packageName cameraId kDefaultRoutesPath
        kDefaultProvidersPath
      if selection.configured = false ∨ selection.available = false ∨
          0 ≤ physicalIdFromProvider selection.providerId then (false, state)
      else (true, ⟨packageName, selection.providerId,
        framePath selection.providerId kDefaultProvidersPath⟩)

/-! ## One decision -/

/-- **The decision of the route table**: the selected provider is available and not physical. -/
def RoutesVirtual (packageName : Text) (slot : ℤ) : Prop :=
  (resolveProviderForPackage fs packageName slot kDefaultRoutesPath
    kDefaultProvidersPath).available = true ∧
  physicalIdFromProvider (resolveProviderForPackage fs packageName slot kDefaultRoutesPath
    kDefaultProvidersPath).providerId < 0

def selectedProvider (packageName : Text) (slot : ℤ) : Text :=
  (resolveProviderForPackage fs packageName slot kDefaultRoutesPath
    kDefaultProvidersPath).providerId

variable {fs} {packageName : Text} {slot : ℤ}

theorem routesVirtual_iff_configured (hs : slot = 0 ∨ slot = 1) :
    RoutesVirtual fs packageName slot ↔
      (resolveProviderForPackage fs packageName slot kDefaultRoutesPath
        kDefaultProvidersPath).configured = true ∧
      (resolveProviderForPackage fs packageName slot kDefaultRoutesPath
        kDefaultProvidersPath).available = true ∧
      physicalIdFromProvider (selectedProvider fs packageName slot) < 0 := by
  constructor
  · exact fun h => ⟨configured_of_not_physical hs h.2, h⟩
  · exact fun h => h.2

theorem redirected_iff_routesVirtual {id targets : Text}
    (ht : targetSlot fs id targets = slot) (hs : 0 ≤ slot) :
    (resolve fs packageName id kDefaultRoutesPath kDefaultProvidersPath
        targets).redirected = true ↔ RoutesVirtual fs packageName slot := by
  subst ht
  rw [resolve_redirected_iff]
  exact and_iff_right hs

section Proxy

theorem proxyRoute_useVirtual_iff (hs : slot = 0 ∨ slot = 1) :
    (proxyRoute fs packageName slot).useVirtual = true ↔ RoutesVirtual fs packageName slot := by
  rw [routesVirtual_iff_configured hs, selectedProvider]
  unfold proxyRoute
  dsimp only
  generalize resolveProviderForPackage fs packageName slot kDefaultRoutesPath
    kDefaultProvidersPath = selection
  cases selection.configured <;> cases selection.available <;> simp

variable (hal : HalResults) {globalRouteOnly : Bool} {session : Option MetadataEntry}
  {s : ProxyDevice}
  (hpackage : (if globalRouteOnly then [] else packageFrom session) = packageName)

include hpackage

/-- The proxy sets out to configure the virtual device when the table routes to a virtual
camera. -/
theorem proxy_virtual_iff (hs : s.cameraId = 0 ∨ s.cameraId = 1) :
    (proxyConfigure fs hal globalRouteOnly session s).attempted = .virtual ↔
      RoutesVirtual fs packageName s.cameraId := by
  rw [← proxyRoute_useVirtual_iff hs]
  unfold proxyConfigure
  dsimp only
  rw [hpackage]
  cases (proxyRoute fs packageName s.cameraId).useVirtual <;> simp

theorem proxy_provider : (proxyConfigure fs hal globalRouteOnly session s).provider =
    selectedProvider fs packageName s.cameraId := by
  subst hpackage
  rfl

theorem proxy_sourcePath (hs : s.cameraId = 0 ∨ s.cameraId = 1)
    (h : RoutesVirtual fs packageName s.cameraId) :
    (proxyConfigure fs hal globalRouteOnly session s).state.virtualSourcePath =
      framePath (selectedProvider fs packageName s.cameraId) kDefaultProvidersPath := by
  subst hpackage
  have hv := (proxyRoute_useVirtual_iff hs).mpr h
  unfold proxyConfigure
  dsimp only
  rw [hv]
  simp only [if_true]
  split_ifs <;> rfl

end Proxy

section Standalone

variable {camera : VirtualCamera} {config : StreamConfiguration} {streams : List (Option Stream)}

theorem configureAccepted_ne_EACCES (c : VirtualCamera) (s : List (Option Stream)) :
    (configureAccepted c s).1 ≠ -EACCES := by
  unfold configureAccepted
  split
  · exact show (-EINVAL : ℤ) ≠ -EACCES by decide
  · exact show (0 : ℤ) ≠ -EACCES by decide

theorem configureAccepted_sourcePath (c : VirtualCamera) (s : List (Option Stream)) :
    (configureAccepted c s).2.sourcePath = c.sourcePath := by
  unfold configureAccepted
  split <;> rfl

/-- The configuration is one that a client of an open camera can send: it has streams and the
normal mode. -/
structure ReachesRoute (camera : VirtualCamera) (config : StreamConfiguration)
    (streams : List (Option Stream)) : Prop where
  isOpen : camera.isOpen = true
  hasCallbacks : camera.hasCallbacks = true
  resolves : camera.resolveScopedRoute = true
  streams_eq : config.streams = some streams
  streams_ne : streams ≠ []
  normalMode : config.normalMode = true

theorem configureStreams_eq (h : ReachesRoute camera config streams) :
    configureStreamsLocked fs camera config =
      let provider := providerForPackage fs (clientPackageFrom config.session) camera.id
        kDefaultRoutesPath kDefaultProvidersPath
      if 0 ≤ physicalIdFromProvider provider then (-EACCES, camera)
      else configureAccepted
        { camera with sourcePath := framePath provider kDefaultProvidersPath } streams := by
  rw [configureStreamsLocked, h.streams_eq]
  dsimp only
  rw [if_neg (by simp [h.isOpen, h.hasCallbacks, h.streams_ne]), if_neg (by simp [h.normalMode]),
    if_pos h.resolves]

theorem providerForPackage_eq (hs : slot = 0 ∨ slot = 1) :
    (physicalIdFromProvider (providerForPackage fs packageName slot kDefaultRoutesPath
      kDefaultProvidersPath) < 0 ↔ RoutesVirtual fs packageName slot) ∧
    (RoutesVirtual fs packageName slot → providerForPackage fs packageName slot
      kDefaultRoutesPath kDefaultProvidersPath = selectedProvider fs packageName slot) := by
  unfold providerForPackage RoutesVirtual selectedProvider
  dsimp only
  split_ifs with ha
  · exact ⟨(and_iff_right ha).symm, fun _ => rfl⟩
  · rw [physicalId_default hs]
    refine ⟨iff_of_false (by omega) fun h => ha h.1, fun h => absurd h.1 ha⟩

/-- The standalone camera answers `-EACCES` unless the table routes to a virtual camera. -/
theorem standalone_iff (h : ReachesRoute camera config streams)
    (hs : camera.id = 0 ∨ camera.id = 1)
    (hpackage : clientPackageFrom config.session = packageName) :
    (configureStreamsLocked fs camera config).1 ≠ -EACCES ↔
      RoutesVirtual fs packageName camera.id := by
  subst hpackage
  rw [configureStreams_eq h, ← (providerForPackage_eq hs).1]
  dsimp only
  split_ifs with hp
  · exact iff_of_false (fun hne => hne rfl) (not_lt.mpr hp)
  · exact iff_of_true (configureAccepted_ne_EACCES _ _) (not_le.mp hp)

theorem standalone_sourcePath (h : ReachesRoute camera config streams)
    (hs : camera.id = 0 ∨ camera.id = 1)
    (hpackage : clientPackageFrom config.session = packageName)
    (hv : RoutesVirtual fs packageName camera.id) :
    (configureStreamsLocked fs camera config).2.sourcePath =
      framePath (selectedProvider fs packageName camera.id) kDefaultProvidersPath := by
  subst hpackage
  have hp := (providerForPackage_eq hs).1.mpr hv
  rw [configureStreams_eq h]
  dsimp only
  rw [if_neg (not_le.mpr hp), configureAccepted_sourcePath,
    (providerForPackage_eq hs).2 hv]

end Standalone

/-- The AIDL provider passes its route check when the table routes to a virtual camera. -/
theorem routedFrame_eq {p : ProbeEnvironment} {s : Option MetadataEntry}
    {state : RoutedFrameState} {cameraId : ℕ} (hca : cameraId = 0 ∨ cameraId = 1)
    (hpackage : routedFramePackage p s = packageName) (hne : packageName ≠ []) :
    ((configureRoutedFrame fs p cameraId s state).1 = true ↔
      RoutesVirtual fs packageName cameraId) ∧
    (RoutesVirtual fs packageName cameraId →
      (configureRoutedFrame fs p cameraId s state).2 =
        ⟨packageName, selectedProvider fs packageName cameraId,
          framePath (selectedProvider fs packageName cameraId) kDefaultProvidersPath⟩) := by
  have hs : (cameraId : ℤ) = 0 ∨ (cameraId : ℤ) = 1 := by omega
  have hlt : ¬ 2 ≤ cameraId := by omega
  rw [routesVirtual_iff_configured hs]
  unfold configureRoutedFrame selectedProvider
  dsimp only
  rw [if_neg hlt, hpackage, if_neg hne]
  split_ifs with hc
  · refine ⟨iff_of_false (by simp) fun h => ?_, fun h => ?_⟩
    · rcases hc with hc | hc | hc
      · exact absurd (hc.symm.trans h.1) (by decide)
      · exact absurd (hc.symm.trans h.2.1) (by decide)
      · exact absurd h.2.2 (not_lt.mpr hc)
    · rcases hc with hc | hc | hc
      · exact absurd (hc.symm.trans h.1) (by decide)
      · exact absurd (hc.symm.trans h.2.1) (by decide)
      · exact absurd h.2.2 (not_lt.mpr hc)
  · simp only [not_or, Bool.not_eq_false, not_le] at hc
    exact ⟨iff_of_true rfl hc, fun _ => rfl⟩

/-- **All consumers of the route table agree.** For a package and a slot, the Binder router, the
proxy, the standalone camera and, for a non-empty package, the AIDL provider make one decision, and
when it is for the virtual camera they use the same provider and its frames. -/
theorem consumers_agree {cameraId targetMapPath : Text} {t : ℕ} (ht : t = 0 ∨ t = 1)
    (htarget : targetSlot fs cameraId targetMapPath = t)
    (hal : HalResults) {globalRouteOnly : Bool} {session : Option MetadataEntry}
    {device : ProxyDevice} (hdevice : device.cameraId = t)
    (hproxy : (if globalRouteOnly then [] else packageFrom session) = packageName)
    {camera : VirtualCamera} {config : StreamConfiguration} {streams : List (Option Stream)}
    (hcamera : camera.id = t) (hconfig : ReachesRoute camera config streams)
    (hstandalone : clientPackageFrom config.session = packageName)
    {probes : ProbeEnvironment} {params : Option MetadataEntry} (frame : RoutedFrameState)
    (hframe : routedFramePackage probes params = packageName) :
    let route := resolve fs packageName cameraId kDefaultRoutesPath
      kDefaultProvidersPath targetMapPath
    let proxied := proxyConfigure fs hal globalRouteOnly session device
    let standalone := configureStreamsLocked fs camera config
    let provided := configureRoutedFrame fs probes t params frame
    (route.redirected = true ↔ proxied.attempted = .virtual) ∧
    (route.redirected = true ↔ standalone.1 ≠ -EACCES) ∧
    (packageName ≠ [] → (route.redirected = true ↔ provided.1 = true)) ∧
    (route.redirected = true →
      proxied.provider = route.providerId ∧
      proxied.state.virtualSourcePath = framePath route.providerId kDefaultProvidersPath ∧
      standalone.2.sourcePath = framePath route.providerId kDefaultProvidersPath ∧
      (packageName ≠ [] → provided.2 = ⟨packageName, route.providerId,
        framePath route.providerId kDefaultProvidersPath⟩)) := by
  dsimp only
  have hsl : (t : ℤ) = 0 ∨ (t : ℤ) = 1 := by omega
  have hpr : (resolve fs packageName cameraId kDefaultRoutesPath
      kDefaultProvidersPath targetMapPath).providerId = selectedProvider fs packageName t := by
    rw [resolve_providerId (by omega), htarget]
    rfl
  have hd : device.cameraId = 0 ∨ device.cameraId = 1 := by rw [hdevice]; exact hsl
  have hc : camera.id = 0 ∨ camera.id = 1 := by rw [hcamera]; exact hsl
  have hp : (proxyConfigure fs hal globalRouteOnly session device).attempted = .virtual ↔
      RoutesVirtual fs packageName t := by
    rw [← hdevice]
    exact proxy_virtual_iff hal hproxy hd
  have hs : (configureStreamsLocked fs camera config).1 ≠ -EACCES ↔
      RoutesVirtual fs packageName t := by
    rw [← hcamera]
    exact standalone_iff hconfig hc hstandalone
  rw [redirected_iff_routesVirtual htarget (by omega), hpr, hp, hs]
  refine ⟨Iff.rfl, Iff.rfl, fun hne => (routedFrame_eq ht hframe hne).1.symm, fun hv => ?_⟩
  refine ⟨?_, ?_, ?_, fun hne => (routedFrame_eq ht hframe hne).2 hv⟩
  · rw [proxy_provider hal hproxy, hdevice]
  · rw [proxy_sourcePath hal hproxy hd (by rw [hdevice]; exact hv), hdevice]
  · rw [standalone_sourcePath hconfig hc hstandalone (by rw [hcamera]; exact hv), hcamera]

/-! ## A device with one virtual route -/

/-- Package `com.a` gets the provider `movie` for its back camera. -/
def movieDevice : FileSystem := .ofList
  [(kDefaultRoutesPath, "com.a\t0\tmovie\n"),
    (kDefaultTargetMapPath, "0\t0\n1\t1\n"),
    (enabledPath "movie" kDefaultProvidersPath, "1\n")]

def movieSession : Option MetadataEntry := some ⟨true, true, "com.a\x00"⟩

/-- All four consumers send the back camera of `com.a` to the frames of `movie`. -/
theorem consumers_agree_movie :
    (proxyConfigure movieDevice ⟨fun _ => (0, true), true, 0, 0, 0⟩ false movieSession
      ⟨0, true, 0, [], .unconfigured, []⟩).attempted = .virtual ∧
    (configureStreamsLocked movieDevice ⟨0, true, true, true, [], false, []⟩
      ⟨some [some ⟨.blob, true, true, 640, 480⟩], true, movieSession⟩).1 ≠ -EACCES ∧
    (configureRoutedFrame movieDevice ⟨none, none⟩ 0 movieSession ⟨[], [], []⟩).1 = true ∧
    (configureRoutedFrame movieDevice ⟨none, none⟩ 0 movieSession ⟨[], [], []⟩).2.sourcePath =
      "/data/vendor/camera/vcam/providers/movie/frame.rgb".toList := by
  have ht : targetSlot movieDevice ['0']
      kDefaultTargetMapPath = (0 : ℕ) := by decide
  have hr : (resolve movieDevice "com.a" ['0'] kDefaultRoutesPath
      kDefaultProvidersPath kDefaultTargetMapPath).redirected = true := by
    decide
  have hp : (resolve movieDevice "com.a" ['0'] kDefaultRoutesPath
      kDefaultProvidersPath kDefaultTargetMapPath).providerId =
        "movie" := by
    decide
  have hf : routedFramePackage ⟨none, none⟩ movieSession = "com.a" := by decide
  have hc : ReachesRoute ⟨0, true, true, true, [], false, []⟩
      ⟨some [some ⟨.blob, true, true, 640, 480⟩], true, movieSession⟩
      [some ⟨.blob, true, true, 640, 480⟩] := ⟨rfl, rfl, rfl, rfl, by simp, rfl⟩
  have hd : (⟨0, true, 0, [], .unconfigured, []⟩ : ProxyDevice).cameraId = (0 : ℕ) := rfl
  have hpr : (if false then [] else packageFrom movieSession) = "com.a" := by decide
  obtain ⟨h₁, h₂, h₃, h₄⟩ := consumers_agree (.inl rfl) ht
    ⟨fun _ => (0, true), true, 0, 0, 0⟩ hd hpr rfl hc (by decide) ⟨[], [], []⟩ hf
  have hne : "com.a".toList ≠ [] := by decide
  refine ⟨h₁.mp hr, h₂.mp hr, (h₃ hne).mp hr, ?_⟩
  rw [(h₄ hr).2.2.2 hne, hp]
  decide

end Vcam
