import AndroidVcam.Binder.TransactionClassifier

/-!
# The monitor thread of the router library

`routerMonitor` of `runtime/platform/AndroidCameraServiceRouter.cpp` with the protocol selection of
`runtime/platform/Android14CameraServiceProfile.cpp`: the thread that the constructor of the router
library starts waits for `media.camera`, checks the Binder it finds and, unless it is in preflight
mode, registers the pass-through Binder in its place.

* `routerMonitor`: the terminal state that the thread reaches.
-/

namespace Vcam

open TextFile

inductive RouterState
  | notStarted
  | waitingForService
  | preflightReady
  | passThroughReady
  | physicalRouteReady
  | protocolUnqualified
  | disabled
  | invalidMode
  | threadStartFailed
  | serviceManagerUnavailable
  | serviceTimeout
  | originalServiceNotLocal
  | wrongInterface
  | registrationFailed
  | registrationVerificationFailed
deriving DecidableEq, Repr

namespace RouterState

def name : RouterState → Text
  | notStarted => "not_started"
  | waitingForService => "waiting_for_service"
  | preflightReady => "preflight_ready"
  | passThroughReady => "passthrough_ready"
  | physicalRouteReady => "physical_route_ready"
  | protocolUnqualified => "protocol_unqualified"
  | disabled => "disabled"
  | invalidMode => "invalid_mode"
  | threadStartFailed => "thread_start_failed"
  | serviceManagerUnavailable => "service_manager_unavailable"
  | serviceTimeout => "service_timeout"
  | originalServiceNotLocal => "original_service_not_local"
  | wrongInterface => "wrong_interface"
  | registrationFailed => "registration_failed"
  | registrationVerificationFailed => "registration_verification_failed"

/-- The states in which `setTerminalState` removes the bootstrap marker. -/
def ready : RouterState → Bool
  | preflightReady | passThroughReady | physicalRouteReady => true
  | _ => false

end RouterState

inductive CameraServiceRouterMode
  | preflight
  | passThrough
  | physicalRoute
  | disabled
  | invalid
deriving DecidableEq, Repr

/-- The value of `VCAM_BINDER_ROUTER_MODE`, `none` when it is not set. -/
def parseCameraServiceRouterMode : Option Text → CameraServiceRouterMode
  | none => .preflight
  | some value =>
    if value = [] ∨ value = "preflight" then .preflight
    else if value = "passthrough" then .passThrough
    else if value = "physical-route" then .physicalRoute
    else if value = "disabled" then .disabled
    else .invalid

/-! ## The protocol of the platform -/

inductive Android14CameraServiceProtocolConfidence
  | unsupported
  | probeCandidate
  | qualified
deriving DecidableEq, Repr

structure Android14CameraServiceProtocolSelection where
  recipe : AbiRecipe := ⟨[]⟩
  profileName : Text := "none"
  confidence : Android14CameraServiceProtocolConfidence := .unsupported
  observationAllowed : Bool := false
  routingAllowed : Bool := false

def nx769jAndroid14Fingerprint : Text :=
  "nubia/NX769J/NX769J:14/UKQ1.230917.001/20240417.145608:user/release-keys"

def aosp14AvdFingerprint : Text :=
  "Android/sdk_phone64_x86_64/emu64x:14/UE1A.230829.036.A1/11228894:userdebug/test-keys"

def nx769jAndroid14ProfileName : Text := "nx769j-ukq1-20240417"

def aosp14AvdProfileName : Text := "aosp14-api34-avd-11228894"

def android14InitialCandidateProfileName : Text := "android14-aosp-initial-candidate"

def selectAndroid14CameraServiceProtocol (sdk : ℤ) (fingerprint : Text) :
    Android14CameraServiceProtocolSelection :=
  if sdk ≠ 34 then {}
  else if fingerprint = nx769jAndroid14Fingerprint then
    ⟨makeAndroid14InitialCameraServiceRecipe, nx769jAndroid14ProfileName, .qualified, true, true⟩
  else if fingerprint = aosp14AvdFingerprint then
    ⟨makeAndroid14InitialCameraServiceRecipe, aosp14AvdProfileName, .qualified, true, true⟩
  else
    ⟨makeAndroid14InitialCameraServiceRecipe, android14InitialCandidateProfileName,
      .probeCandidate, true, false⟩

/-- `buildSdk`: the property as a number between 0 and 1000, or -1. -/
def buildSdk (property : Text) : ℤ :=
  if property = [] then -1
  else
    let parsed := strtol property
    if parsed.2 = [] ∧ 0 ≤ parsed.1 ∧ parsed.1 ≤ 1000 then parsed.1 else -1

/-! ## The monitor -/

/-- The Binder published as `media.camera`. -/
structure PublishedService where
  isLocal : Bool
  descriptor : Text

/-- The answers that the monitor gets from the platform. -/
structure MonitorAnswers where
  managerPresent : Bool
  /-- `checkService` at each attempt. -/
  checkService : ℕ → Option PublishedService
  sdkProperty : Text
  fingerprint : Text
  /-- `addService` returned `OK`. -/
  addService : Bool
  /-- `checkService` returns the router after the registration. -/
  routerObserved : Bool

def serviceWaitAttempts : ℕ := 3000

def cameraServiceDescriptor : Text := "android.hardware.ICameraService"

/-- The registration of the pass-through Binder, when the published service has been checked. -/
def registerRouter (mode : CameraServiceRouterMode) (answers : MonitorAnswers) : RouterState :=
  let protocol :=
    selectAndroid14CameraServiceProtocol (buildSdk answers.sdkProperty) answers.fingerprint
  if mode = .physicalRoute ∧ !protocol.routingAllowed then .protocolUnqualified
  else if !answers.addService then .registrationFailed
  else if !answers.routerObserved then .registrationVerificationFailed
  else if mode = .physicalRoute then .physicalRouteReady
  else .passThroughReady

def takeOver (mode : CameraServiceRouterMode) (original : PublishedService)
    (answers : MonitorAnswers) : RouterState :=
  if !original.isLocal then .originalServiceNotLocal
  else if original.descriptor ≠ cameraServiceDescriptor then .wrongInterface
  else if mode = .preflight then .preflightReady
  else registerRouter mode answers

/-- The terminal state of the monitor thread that finds `mode` in its environment. -/
def routerMonitor (mode : Option Text) (answers : MonitorAnswers) : RouterState :=
  match parseCameraServiceRouterMode mode with
  | .disabled => .disabled
  | .invalid => .invalidMode
  | mode =>
    if !answers.managerPresent then .serviceManagerUnavailable
    else match (List.range serviceWaitAttempts).findSome? answers.checkService with
      | none => .serviceTimeout
      | some original => takeOver mode original answers

variable {mode : Option Text} {a : MonitorAnswers}

theorem parseCameraServiceRouterMode_eq_physicalRoute
    (h : parseCameraServiceRouterMode mode = .physicalRoute) :
    mode = some "physical-route".toList := by
  cases mode with
  | none => cases h
  | some value =>
    rw [parseCameraServiceRouterMode] at h
    split_ifs at h with _ _ hv
    rw [hv]

theorem registerRouter_eq_physicalRouteReady {mode : CameraServiceRouterMode}
    (h : registerRouter mode a = .physicalRouteReady) :
    mode = .physicalRoute ∧
      (selectAndroid14CameraServiceProtocol (buildSdk a.sdkProperty)
        a.fingerprint).routingAllowed = true := by
  simp only [registerRouter] at h
  split_ifs at h with hq _ _ hm
  refine ⟨hm, ?_⟩
  simpa [hm] using hq

theorem takeOver_eq_physicalRouteReady {mode : CameraServiceRouterMode}
    {o : PublishedService} (h : takeOver mode o a = .physicalRouteReady) :
    registerRouter mode a = .physicalRouteReady := by
  rw [takeOver] at h
  split_ifs at h
  exact h

theorem takeOver_of_physicalRouteReady (h : routerMonitor mode a = .physicalRouteReady) :
    ∃ original,
      takeOver (parseCameraServiceRouterMode mode) original a = .physicalRouteReady := by
  rw [routerMonitor] at h
  split at h
  · cases h
  · cases h
  · split_ifs at h
    split at h
    · cases h
    · exact ⟨_, h⟩

/-- **The router is registered for routing only on a platform whose protocol is qualified.** -/
theorem routerMonitor_physicalRouteReady (h : routerMonitor mode a = .physicalRouteReady) :
    mode = some "physical-route".toList ∧
      (selectAndroid14CameraServiceProtocol (buildSdk a.sdkProperty)
        a.fingerprint).routingAllowed = true := by
  obtain ⟨original, ht⟩ := takeOver_of_physicalRouteReady h
  obtain ⟨hm, ha⟩ :=
    registerRouter_eq_physicalRouteReady (takeOver_eq_physicalRouteReady ht)
  exact ⟨parseCameraServiceRouterMode_eq_physicalRoute hm, ha⟩

end Vcam
