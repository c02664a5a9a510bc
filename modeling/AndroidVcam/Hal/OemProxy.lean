import AndroidVcam.Lib.Dialogue
import AndroidVcam.Routing.Consumers

/-!
# The OEM proxy

`native/proxy_bootstrap.cpp`: a camera that a client opens is a facade over one OEM device and one
virtual camera. A configuration chooses between the two by the route table and may exchange the OEM
device for that of another camera.

The OEM module, the virtual camera and the route files answer as they like. A use of a null pointer
ends the process: it is a `Crash`, from which no call returns.

* `proxyConfigure_routing`: a configuration is one of `Routing.Consumers`;
* `Method`, `Step`, `Takes`: the entry points in any order.
-/

namespace Vcam.OemProxy

open Dialogue Dialogue.Program TextFile RouteResolver

/-! ## The OEM -/

inductive Op
  | initializeCamera
  | configureStreams
  | constructDefaultRequestSettings
  | processCaptureRequest
  | dump
  | flush
  | signalStreamFlush
  | isReconfigurationRequired
deriving DecidableEq

/-- What the proxy reads of an OEM device: which of its function pointers are not null. -/
structure Interface where
  version : ℕ
  close : Bool
  ops : Option (Op → Bool)

/-- The result of the OEM `open`, and the device it stored. -/
structure Opened where
  result : Status
  device : Option Interface

/-- A device that `open` handed over, numbered in this order. -/
structure OemDevice where
  number : ℕ
  interface : Interface

def OemDevice.offers (device : OemDevice) (op : Op) : Bool :=
  match device.interface.ops with
  | none => false
  | some ops => ops op

/-- A call out of the proxy. The arguments are the pointers and numbers that it passes on, and a
virtual camera goes by its camera ID. -/
inductive Call
  | files
  | openOem (id : Text)
  | oem (op : Op) (device : ℕ) (arguments : List ℕ)
  | closeOem (device : ℕ)
  | openVirtual (camera : Fin 16)
  | setSourcePath (camera : Fin 16) (path : Text)
  | virtual (op : Op) (camera : Fin 16) (arguments : List ℕ)
  | closeVirtual (camera : Fin 16)

/-- For the virtual `open` also whether it stored a device; a function that returns a pointer
answers with its address. -/
def Call.Answer : Call → Type
  | files => FileSystem
  | openOem _ => Opened
  | openVirtual _ => Status × Bool
  | setSourcePath _ _ => Unit
  | oem _ _ _ => ℤ
  | closeOem _ => ℤ
  | virtual _ _ _ => ℤ
  | closeVirtual _ => ℤ

inductive Crash
  | nullDevice
  | nullOps
  | nullFunction
deriving DecidableEq

abbrev Proxy := ExceptT Crash (Program Call Call.Answer)

abbrev ProxyEvent := Event Call Call.Answer

def question (call : Call) : Proxy call.Answer := liftM (ask call)

def routeFiles : Proxy FileSystem := question .files

/-- `gOriginalModuleMethods.open`, which `bootstrapProxy` found not to be null. -/
def openOriginal (id : Text) : Proxy Opened := question (.openOem id)

def invoke (op : Op) (device : ℕ) (arguments : List ℕ) : Proxy ℤ :=
  question (.oem op device arguments)

def release (device : ℕ) : Proxy ℤ := question (.closeOem device)

/-- `device->ops->op(device, arguments)`. -/
def callOem (device : Option OemDevice) (op : Op) (arguments : List ℕ) : Proxy ℤ :=
  match device with
  | none => throw .nullDevice
  | some device =>
    match device.interface.ops with
    | none => throw .nullOps
    | some ops =>
      if ops op then invoke op device.number arguments else throw .nullFunction

/-- `device->close(device)`. -/
def closeOem (device : OemDevice) : Proxy ℤ :=
  if device.interface.close then release device.number else throw .nullFunction

/-- `if (device != nullptr && device->close != nullptr)` before the call. -/
def closePresent (device : Option OemDevice) : Proxy ℤ :=
  match device with
  | none => pure 0
  | some device => if device.interface.close then release device.number else pure 0

def openVirtual (camera : Fin 16) : Proxy (Status × Bool) := question (.openVirtual camera)

def setSourcePath (camera : Fin 16) (path : Text) : Proxy Unit :=
  question (.setSourcePath camera path)

def callVirtual (camera : Fin 16) (op : Op) (arguments : List ℕ) : Proxy ℤ :=
  question (.virtual op camera arguments)

def closeVirtual (camera : Fin 16) : Proxy ℤ := question (.closeVirtual camera)

/-! ## The facades -/

/-- `physicalRaw` and `physical` are the same pointer, and the virtual device is never null. -/
structure ProxyDevice where
  cameraId : Fin 16
  facade : ℕ
  physical : Option OemDevice
  physicalSourceId : ℤ
  callbacks : ℕ := 0
  backend : Backend := .unconfigured
  packageName : Text := []

/-- `gDevices`, with the numbers of the next OEM device and of the next facade. -/
structure Proxies where
  devices : Fin 16 → Option ProxyDevice := fun _ => none
  obtained : ℕ := 0
  facades : ℕ := 0

namespace Proxies

def findDevice (s : Proxies) (device : ℕ) : Option ProxyDevice :=
  (List.finRange 16).findSome? fun slot => (s.devices slot).filter (·.facade == device)

def put (s : Proxies) (state : ProxyDevice) : Proxies :=
  { s with devices := Function.update s.devices state.cameraId (some state) }

def Placed (s : Proxies) : Prop := ∀ slot state, s.devices slot = some state → state.cameraId = slot

variable {s : Proxies} {state state' : ProxyDevice} {device : ℕ}

theorem devices_put (slot : Fin 16) : (s.put state).devices slot =
    if slot = state.cameraId then some state else s.devices slot := by
  rw [put]
  exact Function.update_apply ..

theorem Placed.put (hs : s.Placed) (state : ProxyDevice) : (s.put state).Placed := by
  intro slot found h
  rw [devices_put] at h
  split_ifs at h with hsl
  · cases h
    exact hsl.symm
  · exact hs slot found h

theorem Placed.of_findDevice (hs : s.Placed) (h : s.findDevice device = some state) :
    s.devices state.cameraId = some state ∧ state.facade = device := by
  obtain ⟨slot, -, hsl⟩ := List.exists_of_findSome?_eq_some h
  obtain ⟨hst, hf⟩ := Option.filter_eq_some_iff.mp hsl
  rw [hs slot state hst]
  exact ⟨hst, by simpa using hf⟩

/-- A facade is found again behind what is written into it. -/
theorem Placed.findDevice_put (hs : s.Placed) (h : s.findDevice device = some state)
    (hid : state'.cameraId = state.cameraId) (hfa : state'.facade = state.facade) :
    (s.put state').findDevice device = some state' := by
  obtain ⟨hst, hd⟩ := hs.of_findDevice h
  obtain ⟨before, slot, after, hr, hfo, hn⟩ := List.findSome?_eq_some_iff.mp h
  have hsl : slot = state'.cameraId := by
    rw [hid, hs slot state (Option.filter_eq_some_iff.mp hfo).1]
  refine List.findSome?_eq_some_iff.mpr ⟨before, slot, after, hr, ?_, fun other ho => ?_⟩
  · rw [devices_put, if_pos hsl]
    exact Option.filter_eq_some_iff.mpr ⟨rfl, by simp [hfa, hd]⟩
  · have hne : other ≠ state'.cameraId := by
      rintro rfl
      have hf := hn _ ho
      rw [hid, hst] at hf
      simp [hd] at hf
    rw [devices_put, if_neg hne]
    exact hn other ho

end Proxies

def EBUSY : ℤ := 16

/-- `CAMERA_DEVICE_API_VERSION_3_2`. -/
def kDeviceApiVersion : ℕ := 0x302

/-- The text is the number of a camera; no digits at all count as 0. -/
def cameraIdOf (id : Text) : Option (Fin 16) :=
  let parsed := strtol (cStr id)
  if h : parsed.2 = [] ∧ 0 ≤ parsed.1 ∧ parsed.1 < kMaxCameras then
    some ⟨parsed.1.toNat, by have := h.2.2; unfold kMaxCameras at this; omega⟩
  else none

/-- The second half of `proxyOpen`, behind the checks of the OEM device and of the ID. -/
def openFacade (s : Proxies) (physical : OemDevice) (cameraId : Fin 16) :
    Proxy (Status × Proxies) := do
  let (virtualResult, virtualDevice) ← openVirtual cameraId
  if virtualResult ≠ 0 ∨ virtualDevice = false then
    let _ ← closeOem physical
    return (if virtualResult = 0 then -ENODEV else virtualResult, s)
  else if (s.devices cameraId).isSome then
    let _ ← closeVirtual cameraId
    let _ ← closeOem physical
    return (-EBUSY, s)
  else
    let state : ProxyDevice := ⟨cameraId, s.facades, some physical, cameraId.val, 0, .unconfigured, []⟩
    return (0, { s.put state with facades := s.facades + 1 })

/-- On success `*out` is the facade with the number `s.facades`. -/
def proxyOpen (s : Proxies) (id : Option Text) (out : Bool) : Proxy (Status × Proxies) := do
  match id with
  | none => return (-EINVAL, s)
  | some id =>
    if out = false then return (-EINVAL, s)
    else
      let opened ← openOriginal id
      match opened.device with
      | none => return (if opened.result ≠ 0 then opened.result else -ENODEV, s)
      | some interface =>
        let physical : OemDevice := ⟨s.obtained, interface⟩
        let s : Proxies := { s with obtained := s.obtained + 1 }
        if opened.result ≠ 0 then return (opened.result, s)
        else if interface.version < kDeviceApiVersion then
          let _ ← closePresent (some physical)
          return (-ENODEV, s)
        else
          match cameraIdOf id with
          | none =>
            let _ ← closeOem physical
            return (-EINVAL, s)
          | some cameraId => openFacade s physical cameraId

def proxyClose (s : Proxies) (device : ℕ) : Proxy (Status × Proxies) := do
  match s.findDevice device with
  | none => return (-EINVAL, s)
  | some state =>
    let virtualResult ← closeVirtual state.cameraId
    let physicalResult ← closePresent state.physical
    return (if physicalResult ≠ 0 then physicalResult else virtualResult,
      { s with devices := Function.update s.devices state.cameraId none })

def proxyInitialize (s : Proxies) (device callbacks : ℕ) : Proxy (Status × Proxies) := do
  match s.findDevice device with
  | none => return (-EINVAL, s)
  | some state =>
    if callbacks = 0 ∨ state.physical.any (·.offers .initializeCamera) = false then
      return (-EINVAL, s)
    else
      let s := s.put { state with callbacks := callbacks }
      let physical ← callOem state.physical .initializeCamera [callbacks]
      if physical ≠ 0 then return (physical, s)
      else
        let result ← callVirtual state.cameraId .initializeCamera [callbacks]
        return (result, s)

/-- The end of `selectPhysicalSource`: the device just opened is set up and stored. -/
def adopt (state : ProxyDevice) (replacement : OemDevice) (sourceId : ℤ) :
    Proxy (Status × ProxyDevice) := do
  if replacement.offers .initializeCamera = false then
    let _ ← closeOem replacement
    return (-ENODEV, state)
  else
    let initializeResult ← callOem (some replacement) .initializeCamera [state.callbacks]
    if initializeResult ≠ 0 then
      let _ ← closeOem replacement
      return (initializeResult, state)
    else return (0, { state with physical := some replacement, physicalSourceId := sourceId })

/-- The third result is the number of the next OEM device. -/
def selectPhysicalSource (state : ProxyDevice) (obtained : ℕ) (sourceId : ℤ) :
    Proxy (Status × ProxyDevice × ℕ) := do
  if sourceId < 0 ∨ kMaxCameras ≤ sourceId then return (-EINVAL, state, obtained)
  else if state.physical.isSome ∧ state.physicalSourceId = sourceId then
    return (0, state, obtained)
  else
    let _ ← closePresent state.physical
    let state := { state with physical := none, physicalSourceId := -1 }
    let opened ← openOriginal (decimalInt sourceId)
    match opened.device with
    | none => return (opened.result, state, obtained)
    | some interface =>
      if opened.result ≠ 0 then return (opened.result, state, obtained + 1)
      else
        let (result, state) ← adopt state ⟨obtained, interface⟩ sourceId
        return (result, state, obtained + 1)

/-- The stream configuration: its address and the session parameters. -/
structure Configuration where
  address : ℕ
  session : Option MetadataEntry

/-- `VCAM_GLOBAL_ROUTE_ONLY` builds ignore the package of the session. -/
def Configuration.packageName (globalRouteOnly : Bool) (config : Configuration) : Text :=
  if globalRouteOnly then [] else packageFrom config.session

def configureVirtual (s : Proxies) (state : ProxyDevice) (config : Configuration)
    (packageName provider : Text) : Proxy (Status × Proxies) := do
  setSourcePath state.cameraId (framePath provider kDefaultProvidersPath)
  let result ← callVirtual state.cameraId .configureStreams [config.address]
  if result = 0 then
    return (result, s.put { state with backend := .virtual, packageName := packageName })
  else return (result, s)

def configurePhysical (s : Proxies) (state : ProxyDevice) (config : Configuration)
    (packageName : Text) (sourceId : ℤ) : Proxy (Status × Proxies) := do
  let (selected, state, obtained) ← selectPhysicalSource state s.obtained sourceId
  let s := { s.put state with obtained := obtained }
  if selected ≠ 0 then return (selected, s)
  else
    -- nothing checks that the device is there
    let result ← callOem state.physical .configureStreams [config.address]
    if result = 0 then
      return (result, s.put { state with backend := .physical, packageName := packageName })
    else return (result, s)

def proxyConfigure (globalRouteOnly : Bool) (s : Proxies) (device : ℕ)
    (config : Option Configuration) : Proxy (Status × Proxies) := do
  match s.findDevice device, config with
  | some state, some config =>
    let packageName := config.packageName globalRouteOnly
    let fs ← routeFiles
    let route := proxyRoute fs packageName state.cameraId.val
    if route.useVirtual then configureVirtual s state config packageName route.provider
    else configurePhysical s state config packageName route.physicalSource
  | _, _ => return (-EINVAL, s)

def proxyDefaultRequest (s : Proxies) (device type : ℕ) : Proxy ℤ := do
  match s.findDevice device with
  | none => return 0
  | some state =>
    if state.backend = .virtual then
      callVirtual state.cameraId .constructDefaultRequestSettings [type]
    else if state.physical.isNone then return 0
    else callOem state.physical .constructDefaultRequestSettings [type]

def proxyProcessRequest (s : Proxies) (device request : ℕ) : Proxy Status := do
  match s.findDevice device with
  | none => return -EINVAL
  | some state =>
    if state.backend = .virtual then callVirtual state.cameraId .processCaptureRequest [request]
    else callOem state.physical .processCaptureRequest [request]

/-- A null `dump` of the OEM device is skipped, a null table is not. -/
def proxyDump (s : Proxies) (device fd : ℕ) : Proxy ℤ := do
  match s.findDevice device with
  | none => return 0
  | some state =>
    if state.backend = .virtual then callVirtual state.cameraId .dump [fd]
    else
      match state.physical with
      | none => return 0
      | some physical =>
        if physical.interface.ops.isSome ∧ physical.offers .dump = false then return 0
        else callOem (some physical) .dump [fd]

/-- The functions that `VirtualCamera::operations_` has. -/
def virtualOffers : Op → Bool
  | .signalStreamFlush | .isReconfigurationRequired => false
  | _ => true

/-- The calls that go to the selected device where it has the function. -/
def passOn (op : Op) (missing : ℤ) (s : Proxies) (device : ℕ) (arguments : List ℕ) : Proxy ℤ := do
  match s.findDevice device with
  | none => return missing
  | some state =>
    if state.backend = .virtual then
      if virtualOffers op then callVirtual state.cameraId op arguments else return 0
    else if state.physical.any (·.offers op) then callOem state.physical op arguments
    else return 0

def proxyFlush (s : Proxies) (device : ℕ) : Proxy Status := passOn .flush (-EINVAL) s device []

def proxySignalFlush (s : Proxies) (device count streams : ℕ) : Proxy ℤ :=
  passOn .signalStreamFlush 0 s device [count, streams]

def proxyReconfigurationRequired (s : Proxies) (device oldParams newParams : ℕ) : Proxy Status :=
  passOn .isReconfigurationRequired (-EINVAL) s device [oldParams, newParams]

/-! ## The routing model -/

/-- What the routing model has of a facade, whose virtual camera reads from this path. -/
def ProxyDevice.routing (state : ProxyDevice) (path : Text) : Vcam.ProxyDevice :=
  ⟨state.cameraId.val, state.physical.isSome, state.physicalSourceId, path, state.backend,
    state.packageName⟩

section Routing

variable {s s' : Proxies} {state state' : ProxyDevice} {events : List ProxyEvent} {result : Status}
  {source : ℤ} {config : Configuration}

theorem path_question_bind {α : Type} {call : Call} {g : call.Answer → Proxy α}
    {r : Except Crash α} : (question call >>= g).run.Path events r ↔
      ∃ answer rest, events = ⟨call, answer⟩ :: rest ∧ (g answer).run.Path rest r := Iff.rfl

theorem adopt_cases {replacement : OemDevice}
    (h : (adopt state replacement source).run.Path events (.ok (result, state'))) :
    result ≠ 0 ∧ state' = state ∨
      result = 0 ∧ state' = { state with physical := some replacement, physicalSourceId := source } := by
  rw [adopt] at h
  split_ifs at h
  · obtain ⟨_, _, _, -, -, -, heq⟩ := path_early_bind h
    cases heq
    exact .inl ⟨by decide, rfl⟩
  · obtain ⟨_, initResult, _, -, -, h⟩ := path_early_bind h
    split_ifs at h with hi
    · obtain ⟨_, _, _, -, -, -, heq⟩ := path_early_bind h
      cases heq
      exact .inl ⟨hi, rfl⟩
    · cases h.2
      exact .inr ⟨rfl, rfl⟩

theorem selectPhysicalSource_routing {obtained obtained' : ℕ}
    (h : (selectPhysicalSource state obtained source).run.Path events
      (.ok (result, state', obtained'))) :
    state'.cameraId = state.cameraId ∧ state'.facade = state.facade ∧
      ∃ hal : HalResults, ∀ configured path, Vcam.selectPhysicalSource
        { hal with configurePhysical := configured } (state.routing path) source =
          (result, state'.routing path) := by
  rw [selectPhysicalSource] at h
  split_ifs at h with hr hsa
  · cases h.2
    exact ⟨rfl, rfl, ⟨fun _ => (0, false), false, 0, 0, 0⟩, fun _ _ => if_pos hr⟩
  · cases h.2
    exact ⟨rfl, rfl, ⟨fun _ => (0, false), false, 0, 0, 0⟩, fun _ _ =>
      (if_neg hr).trans (if_pos hsa)⟩
  obtain ⟨_, _, _, -, -, h⟩ := path_early_bind h
  obtain ⟨opened, _, -, h⟩ := path_question_bind.mp h
  change Opened at opened
  cases hd : opened.device with
  | none =>
    rw [hd] at h
    cases h.2
    refine ⟨rfl, rfl, ⟨fun _ => (opened.result, false), false, 0, 0, 0⟩, fun _ _ => ?_⟩
    exact (if_neg hr).trans ((if_neg hsa).trans (if_pos (.inr rfl)))
  | some interface =>
    rw [hd] at h
    dsimp only at h
    split_ifs at h with ho
    · cases h.2
      refine ⟨rfl, rfl, ⟨fun _ => (opened.result, true), false, 0, 0, 0⟩, fun _ _ => ?_⟩
      exact (if_neg hr).trans ((if_neg hsa).trans (if_pos (.inl ho)))
    · obtain ⟨_, ⟨initResult, adopted⟩, _, -, ha, -, heq⟩ := path_early_bind h
      cases heq
      rcases adopt_cases ha with ⟨hi, rfl⟩ | ⟨rfl, rfl⟩
      · refine ⟨rfl, rfl, ⟨fun _ => (0, true), true, initResult, 0, 0⟩, fun _ _ => ?_⟩
        refine (if_neg hr).trans ((if_neg hsa).trans ?_)
        exact (if_neg (by simp)).trans ((if_neg (by simp)).trans (if_pos hi))
      · refine ⟨rfl, rfl, ⟨fun _ => (0, true), true, 0, 0, 0⟩, fun _ _ => ?_⟩
        refine (if_neg hr).trans ((if_neg hsa).trans ?_)
        exact (if_neg (by simp)).trans ((if_neg (by simp)).trans (if_neg (by simp)))

/-- **A configuration that returns is one of the routing model**, for some answers of the HAL. -/
theorem proxyConfigure_routing {device : ℕ} {globalRouteOnly : Bool} (hs : s.Placed)
    (hf : s.findDevice device = some state) (path : Text)
    (h : (proxyConfigure globalRouteOnly s device (some config)).run.Path events
      (.ok (result, s'))) :
    ∃ fs hal state' path', (⟨.files, fs⟩ : ProxyEvent) ∈ events ∧
      (path' = path ∨ (⟨.setSourcePath state.cameraId path', ()⟩ : ProxyEvent) ∈ events) ∧
      s'.findDevice device = some state' ∧
      (Vcam.proxyConfigure fs hal globalRouteOnly config.session (state.routing path)).result =
        result ∧
      (Vcam.proxyConfigure fs hal globalRouteOnly config.session (state.routing path)).state =
        state'.routing path' := by
  simp only [proxyConfigure, hf] at h
  obtain ⟨fs, rest, rfl, hro⟩ := path_question_bind.mp h
  have hpa : (if globalRouteOnly then [] else packageFrom config.session) =
      config.packageName globalRouteOnly := rfl
  refine ⟨fs, ?_⟩
  unfold Vcam.proxyConfigure
  dsimp only
  rw [hpa, show (state.routing path).cameraId = state.cameraId.val from rfl]
  generalize proxyRoute fs (config.packageName globalRouteOnly) state.cameraId.val = route at hro ⊢
  obtain ⟨provider, _ | _, source⟩ := route
  · obtain ⟨_, ⟨selected, state', obtained⟩, _, rfl, hse, hco⟩ := path_early_bind hro
    obtain ⟨hid, hfa, hal, hse⟩ := selectPhysicalSource_routing hse
    have hfo : ({ s.put state' with obtained } : Proxies).findDevice device = some state' :=
      hs.findDevice_put hf hid hfa
    dsimp only at hco
    split_ifs at hco with hst
    · cases hco.2
      refine ⟨{ hal with configurePhysical := 0 }, state', path, List.mem_cons_self, .inl rfl, hfo, ?_⟩
      rw [if_neg Bool.false_ne_true, hse, if_neg hst, if_neg hst]
      exact ⟨rfl, rfl⟩
    · obtain ⟨_, status, _, rfl, -, hend⟩ := path_early_bind hco
      refine ⟨{ hal with configurePhysical := status }, ?_⟩
      rw [if_neg Bool.false_ne_true, hse, if_pos (not_not.mp hst)]
      split_ifs at hend with hz
      · cases hend.2
        exact ⟨_, path, List.mem_cons_self, .inl rfl, (hs.put state').findDevice_put hfo rfl rfl, rfl,
          if_pos hz⟩
      · cases hend.2
        exact ⟨state', path, List.mem_cons_self, .inl rfl, hfo, rfl, if_neg hz⟩
  · obtain ⟨_, rest, rfl, hse⟩ := path_question_bind.mp hro
    obtain ⟨status, _, -, hend⟩ := path_question_bind.mp hse
    have hev : (⟨.setSourcePath state.cameraId (framePath provider kDefaultProvidersPath), ()⟩ :
      ProxyEvent) ∈ ⟨.files, fs⟩ :: ⟨.setSourcePath state.cameraId _, ()⟩ :: rest :=
        List.mem_cons_of_mem _ List.mem_cons_self
    refine ⟨⟨fun _ => (0, false), false, 0, 0, status⟩, ?_⟩
    split_ifs at hend with hst
    · cases hend.2
      exact ⟨_, _, List.mem_cons_self, .inr hev, hs.findDevice_put hf rfl rfl, rfl, if_pos hst⟩
    · cases hend.2
      exact ⟨state, _, List.mem_cons_self, .inr hev, hf, rfl, if_neg hst⟩

end Routing

/-! ## Runs -/

inductive Method
  | proxyOpen (id : Option Text) (out : Bool)
  | proxyClose (device : ℕ)
  | proxyInitialize (device callbacks : ℕ)
  | proxyConfigure (device : ℕ) (config : Option Configuration)
  | proxyDefaultRequest (device type : ℕ)
  | proxyProcessRequest (device request : ℕ)
  | proxyDump (device fd : ℕ)
  | proxyFlush (device : ℕ)
  | proxySignalFlush (device count streams : ℕ)
  | proxyReconfigurationRequired (device oldParams newParams : ℕ)

def reading (s : Proxies) (call : Proxy ℤ) : Proxy (ℤ × Proxies) := do
  let result ← call
  return (result, s)

def Method.program (globalRouteOnly : Bool) (s : Proxies) : Method → Proxy (ℤ × Proxies)
  | proxyOpen id out => OemProxy.proxyOpen s id out
  | proxyClose device => OemProxy.proxyClose s device
  | proxyInitialize device callbacks => OemProxy.proxyInitialize s device callbacks
  | proxyConfigure device config => OemProxy.proxyConfigure globalRouteOnly s device config
  | proxyDefaultRequest device type => reading s (OemProxy.proxyDefaultRequest s device type)
  | proxyProcessRequest device request => reading s (OemProxy.proxyProcessRequest s device request)
  | proxyDump device fd => reading s (OemProxy.proxyDump s device fd)
  | proxyFlush device => reading s (OemProxy.proxyFlush s device)
  | proxySignalFlush device count streams =>
    reading s (OemProxy.proxySignalFlush s device count streams)
  | proxyReconfigurationRequired device oldParams newParams =>
    reading s (OemProxy.proxyReconfigurationRequired s device oldParams newParams)

/-- A call with the table before it, what it asked and was answered, and how it ended. -/
structure Step where
  before : Proxies
  method : Method
  events : List ProxyEvent
  outcome : Except Crash (ℤ × Proxies)

/-- The table behind a call, if the process is still there. -/
def Step.after (step : Step) : Option Proxies := (step.outcome.toOption).map Prod.snd

/-- The step is a call on the table of a living process. -/
def Takes (globalRouteOnly : Bool) (s : Option Proxies) (step : Step) (s' : Option Proxies) : Prop :=
  s = some step.before ∧
    (step.method.program globalRouteOnly step.before).run.Path step.events step.outcome ∧
      s' = step.after

/-- The step whose answers are a function of what was asked before. -/
def Step.answered (globalRouteOnly : Bool)
    (answers : List ProxyEvent → (call : Call) → call.Answer) (s : Proxies) (method : Method) : Step :=
  let run := (method.program globalRouteOnly s).run.run answers []
  ⟨s, method, run.2, run.1⟩

theorem takes_answered (globalRouteOnly : Bool)
    (a : List ProxyEvent → (call : Call) → call.Answer) (s : Proxies) (m : Method) :
    Takes globalRouteOnly (some s) (Step.answered globalRouteOnly a s m)
      (Step.answered globalRouteOnly a s m).after :=
  ⟨rfl, path_run a [] _, rfl⟩

/-- An OEM whose cameras open with complete devices and whose functions all return 0. -/
def obliging (fs : FileSystem) : (call : Call) → call.Answer
  | .files => fs
  | .openOem _ => ⟨0, some ⟨kDeviceApiVersion, true, some fun _ => true⟩⟩
  | .openVirtual _ => (0, true)
  | .setSourcePath _ _ => ()
  | .oem _ _ _ => (0 : ℤ)
  | .closeOem _ => (0 : ℤ)
  | .virtual _ _ _ => (0 : ℤ)
  | .closeVirtual _ => (0 : ℤ)

def opening : Step :=
  .answered false (fun _ => obliging fun _ => none) {} (.proxyOpen (some "0") true)

def following (answers : (call : Call) → call.Answer) (method : Method) : Step :=
  .answered false (fun _ => answers) (opening.after.getD {}) method

theorem follows_opening (a : (call : Call) → call.Answer) (m : Method) :
    Follows (Takes false) (some {}) [opening, following a m]
      (following a m).after := by
  have hs : opening.after.isSome = true := by decide
  have ha : opening.after = some (opening.after.getD {}) :=
    (Option.some_get hs).symm.trans (by rw [Option.get_eq_getD])
  exact .cons (takes_answered false _ {} _) (ha ▸ .cons (takes_answered false _ _ _) (.nil _))

end Vcam.OemProxy
