import AndroidVcam.Binder.AndroidFormat
import AndroidVcam.Binder.CameraIdRewriter
import AndroidVcam.Routing.ScopedCameraRouter

/-!
# The CameraService pass-through

`runtime/platform/AndroidCameraServiceRouter.cpp`: `CameraServicePassThrough::onTransact`, the
Binder method that stands in front of the original camera service. It observes a request, refuses
direct requests for internal cameras, attributes the request to a package of the caller, resolves
the route and forwards the request, unchanged or with another camera.

* **`outcome_single`**: the outcome of a single-camera request in physical-route mode;
* `androidPlatform`, `androidEnv`, `clientRequest`: a device and a request as a client sends it,
  with `observation_clientRequest`.

The listener requests are routed by another module of the source; their rewritten parcels are
parameters here.
-/

namespace Vcam

open TextFile ScopedCameraRouter

def kRuntimeRoutesPath : Text := "/data/vendor/camera/vcam/routes.tsv"

def kRuntimeRoutesDisabledPath : Text := "/data/vendor/camera/vcam/routes.tsv.disabled"

def kRuntimeProvidersPath : Text := "/data/vendor/camera/vcam/providers"

def kRuntimeTopologyPath : Text := "/data/vendor/camera/vcam/topology.conf"

inductive RouterCounter
  | verifiedPackageClaims
  | rejectedPackageClaims
  | unavailablePackageLookups
  | uniqueUidPackageResolutions
  | ambiguousUidPackageResolutions
  | unavailableUidPackageResolutions
  | packageRouteCandidates
  | globalRouteCandidates
  | physicalRouteDecisions
  | unavailableRouteProviders
  | physicalRewriteAttempts
  | physicalRewriteSuccesses
  | physicalRewriteFailures
  | internalCameraRequestsRejected
deriving DecidableEq, Repr

/-- The platform libraries: the wire format of libbinder and the UTF-16 to UTF-8 conversion of
libutils, which keeps ASCII text. -/
structure Platform (β ι : Type) where
  format : ParcelFormat β ι
  string8 : List Char16 → Text
  string8_ascii : ∀ {s : Text}, isAsciiText s → string8 (ascii16 s) = s

/-- What one call of `onTransact` sees besides its arguments. -/
structure RouterEnv (β : Type) where
  fs : FileSystem
  recipe : AbiRecipe
  physicalRoutingEnabled : Bool
  /-- `getPackagesForUid` of the permission controller -/
  packagesForUid : ℤ → List (List Char16)
  /-- `wrapAndroid14CameraListenerRequest`, when it wraps -/
  wrapListener : Parcel β → Option (Parcel β)
  /-- `wrapAndroid14CameraListenerRemovalRequest`, when it wraps -/
  wrapListenerRemoval : Parcel β → Option (Parcel β)
  writes : ParcelWriteResults

structure Request (β : Type) where
  code : ℕ
  data : Parcel β
  callingUid : ℤ
  callingPid : ℤ
  hasReply : Bool

/-- What the router does to the reply of a forwarded request. -/
inductive ReplyRoute
  | unchanged
  | filterCameraStatus
  | wrapDeviceUser (publicId deviceId : Text)

inductive Outcome (β : Type)
  | forwarded (data : Parcel β) (reply : ReplyRoute)
  | rejected (message : String)
  | badValue

structure Transacted (β : Type) where
  outcome : Outcome β
  counted : List RouterCounter

def Outcome.Refused {β : Type} (o : Outcome β) : Prop := ∀ data reply, o ≠ .forwarded data reply

def routingPolicyActive (fs : FileSystem) : Bool :=
  !fs.existsFile kRuntimeRoutesDisabledPath && fs.nonEmptyFile kRuntimeRoutesPath

def routingMapsReady (fs : FileSystem) : Bool :=
  fs.canRead kDefaultTargetMapPath &&
    fs.canRead kDefaultCamera1TargetMapPath &&
    fs.canRead kDefaultCamera1MapPath && fs.canRead kRuntimeTopologyPath

section Steps

variable {β ι : Type} (P : Platform β ι) (env : RouterEnv β) (req : Request β)
  (obs : ParcelObservation)

/-- `rejectCameraRequest`: an exception in the reply, when there is a reply. -/
def rejectCameraRequest (message : String) : Outcome β :=
  if req.hasReply then .rejected message else .badValue

/-- `verifiedPackage`: the claimed package when the caller's UID owns it, or the only package of
the UID when nothing is claimed. -/
def attributePackage (routesConfigured : Bool) : Text × List RouterCounter :=
  let identity := classifyCameraCallerIdentity obs.transaction.cameraScoped
    obs.transaction.carriesPackageName obs.callingUid obs.callingPid obs.packageName
  let packages := env.packagesForUid obs.callingUid
  if obs.status = .observed ∧ identity.kind = .claimedPackage then
    if packages = [] then ([], [.unavailablePackageLookups])
    -- `String16(observation.packageName.c_str())` ends at the first NUL
    else if ascii16 (cStr obs.packageName) ∈ packages then
      (obs.packageName, [.verifiedPackageClaims])
    else ([], [.rejectedPackageClaims])
  else if routesConfigured ∧ obs.status = .observed ∧ identity.kind = .uidOnly then
    match packages with
    | [] => ([], [.unavailableUidPackageResolutions])
    | [package] => (cStr (P.string8 package), [.uniqueUidPackageResolutions])
    | _ => ([], [.ambiguousUidPackageResolutions])
  else ([], [])

/-- The target map of a request: Camera1 indexes and Camera2 IDs have their own. -/
def targetMapFor (shape : BinderPayloadShape) : Text :=
  if shape.integerId then kDefaultCamera1TargetMapPath
  else kDefaultTargetMapPath

def routeFor (fs : FileSystem) (verifiedPackage : Text) : ScopedCameraRoute :=
  resolve fs verifiedPackage obs.cameraId kRuntimeRoutesPath
    kRuntimeProvidersPath (targetMapFor obs.transaction.payloadShape)

/-- `replacementCameraId`, empty for the requested camera, or the message of a rejection. -/
def decideReplacement (fs : FileSystem) (verifiedPackage : Text) :
    Except String Text × List RouterCounter :=
  let route := routeFor obs fs verifiedPackage
  if route.configured = true ∧ route.available = false then (.ok [], [.unavailableRouteProviders])
  else if route.redirected then
    (.ok route.effectiveCameraId,
      [if route.matched = .package then .packageRouteCandidates else .globalRouteCandidates])
  else if route.configured = true ∧
      0 ≤ RouteResolver.physicalIdFromProvider route.providerId then
    let physicalCameraId := physicalCameraIdForProvider fs route.providerId
      kDefaultTargetMapPath
    if physicalCameraId = [] then
      (.error "Physical camera source unavailable",
        [.physicalRouteDecisions, .physicalRewriteFailures])
    -- the Camera2 ID is compared with the requested text, a Camera1 index for integer IDs
    else if physicalCameraId ≠ obs.cameraId then (.ok physicalCameraId, [.physicalRouteDecisions])
    else (.ok [], [.physicalRouteDecisions])
  else (.ok [], [.physicalRouteDecisions])

/-- Rewrite the request and forward the copy; a failed rewrite forwards the original. -/
def rewriteAndForward (replacementCameraId : Text) : Transacted β :=
  match rewriteAndroid14CameraId P.format env.writes obs replacementCameraId req.data with
  | .ok rewritten =>
    ⟨.forwarded rewritten
      (if obs.transaction.payloadShape = .connectDevice then
        .wrapDeviceUser obs.cameraId replacementCameraId else .unchanged),
      [.physicalRewriteAttempts, .physicalRewriteSuccesses]⟩
  | .error _ =>
    ⟨.forwarded req.data .unchanged, [.physicalRewriteAttempts, .physicalRewriteFailures]⟩

/-- Integer IDs are replaced by the Camera1 index of the replacement. -/
def forwardReplaced (replacementCameraId : Text) : Transacted β :=
  if obs.transaction.payloadShape.integerId then
    let camera1Index := camera1IndexForId env.fs replacementCameraId
      kDefaultCamera1MapPath
    if camera1Index = [] then
      ⟨rejectCameraRequest req "Camera1 routing map unavailable",
        [.physicalRewriteAttempts, .physicalRewriteFailures]⟩
    else rewriteAndForward P env req obs camera1Index
  else rewriteAndForward P env req obs replacementCameraId

/-- The routed part of the method: attribution, route and rewrite. -/
def routeRequest (routesConfigured : Bool) : Transacted β :=
  let attributed := attributePackage P env obs routesConfigured
  if routesConfigured = true ∧ obs.status = .observed ∧ obs.transaction.cameraScoped = true ∧
      obs.cameraId ≠ [] then
    let decision := decideReplacement obs env.fs attributed.1
    match decision.1 with
    | .error message =>
      ⟨rejectCameraRequest req message, attributed.2 ++ decision.2⟩
    | .ok replacementCameraId =>
      if replacementCameraId = [] then
        ⟨.forwarded req.data .unchanged, attributed.2 ++ decision.2⟩
      else
        let routed := forwardReplaced P env req obs replacementCameraId
        ⟨routed.outcome, attributed.2 ++ decision.2 ++ routed.counted⟩
  else ⟨.forwarded req.data .unchanged, attributed.2⟩

def cameraRequest : Transacted β :=
  let cameraScoped := obs.status = .observed ∧ obs.transaction.cameraScoped = true
  if env.physicalRoutingEnabled = true ∧ cameraScoped ∧
      isInternalCameraId obs.cameraId = true then
    ⟨rejectCameraRequest req "Unknown camera ID",
      if req.hasReply then [.internalCameraRequestsRejected] else []⟩
  else if env.physicalRoutingEnabled = false then ⟨.forwarded req.data .unchanged, []⟩
  else
    let routesConfigured := routingPolicyActive env.fs
    if routesConfigured = true ∧ cameraScoped ∧ routingMapsReady env.fs = false then
      ⟨rejectCameraRequest req "Camera routing topology unavailable",
        [.unavailableRouteProviders]⟩
    else routeRequest P env req obs routesConfigured

def listenerRequest : Option (Transacted β) :=
  if env.physicalRoutingEnabled = true ∧ obs.status = .observed then
    match obs.transaction.payloadShape with
    | .listener => (env.wrapListener req.data).map fun p => ⟨.forwarded p .filterCameraStatus, []⟩
    | .listenerRemoval =>
      (env.wrapListenerRemoval req.data).map fun p => ⟨.forwarded p .unchanged, []⟩
    | _ => none
  else none

/-- The observation that `onTransact` starts with. -/
def observation : ParcelObservation :=
  observeAndroid14CameraServiceParcel P.format env.recipe req.code (some req.data) req.callingUid
    req.callingPid

def onTransact : Transacted β :=
  let obs := observation P env req
  (listenerRequest env req obs).getD (cameraRequest P env req obs)

end Steps

/-! ## Single-camera requests -/

variable {β ι : Type} {P : Platform β ι} {env : RouterEnv β} {req : Request β}

def Request.shape (env : RouterEnv β) (req : Request β) : BinderPayloadShape :=
  (classifyBinderTransaction env.recipe req.code).payloadShape

theorem observe_eq_observation : observeAndroid14CameraServiceParcel P.format env.recipe req.code
    (some req.data) req.callingUid req.callingPid = observation P env req := rfl

@[simp] theorem observation_transaction :
    (observation P env req).transaction = classifyBinderTransaction env.recipe req.code :=
  observe_transaction

theorem observation_shape : (observation P env req).transaction.payloadShape = req.shape env := by
  rw [observation_transaction, Request.shape]

theorem refused_rejectCameraRequest (m : String) :
    (rejectCameraRequest req m).Refused := by
  intro data reply h
  unfold rejectCameraRequest at h
  split_ifs at h

theorem listenerRequest_single {obs : ParcelObservation}
    (hsh : obs.transaction.payloadShape.singleCamera = true) :
    listenerRequest env req obs = none := by
  unfold listenerRequest
  split_ifs
  · cases hs : obs.transaction.payloadShape <;> rw [hs] at hsh <;>
      first | rfl | (exfalso; revert hsh; decide)
  · rfl

def verifiedPackage (P : Platform β ι) (env : RouterEnv β) (req : Request β) : Text :=
  (attributePackage P env (observation P env req) (routingPolicyActive env.fs)).1

/-- **The outcome of a single-camera request** in physical-route mode, branch by branch. -/
theorem outcome_single (hp : env.physicalRoutingEnabled = true)
    (hsh : (req.shape env).singleCamera = true) :
    (onTransact P env req).outcome =
      let obs := observation P env req
      if obs.status ≠ .observed then .forwarded req.data .unchanged
      else if isInternalCameraId obs.cameraId = true then
        rejectCameraRequest req "Unknown camera ID"
      else if routingPolicyActive env.fs = false then .forwarded req.data .unchanged
      else if routingMapsReady env.fs = false then
        rejectCameraRequest req "Camera routing topology unavailable"
      else if obs.cameraId = [] then .forwarded req.data .unchanged
      else match (decideReplacement obs env.fs (verifiedPackage P env req)).1 with
        | .error message => rejectCameraRequest req message
        | .ok replacement =>
          if replacement = [] then .forwarded req.data .unchanged
          else (forwardReplaced P env req obs replacement).outcome := by
  have hs : (observation P env req).transaction.cameraScoped = true := by
    rw [observation_transaction]
    exact cameraScoped_of_singleCamera hsh
  rw [← observation_shape (P := P)] at hsh
  dsimp only [onTransact]
  rw [listenerRequest_single hsh, Option.getD_none, cameraRequest]
  dsimp only [verifiedPackage]
  generalize observation P env req = obs at hs hsh ⊢
  by_cases hst : obs.status = .observed
  · by_cases hint : isInternalCameraId obs.cameraId = true
    · simp [hst, hint, hp, hs]
    · by_cases hact : routingPolicyActive env.fs = true
      · by_cases hr : routingMapsReady env.fs = true
        · by_cases hid : obs.cameraId = []
          · rw [hid] at hint
            simp [hst, hint, hp, hact, hr, hid, routeRequest]
          · simp only [hst, hint, hp, hs, hact, hr, hid, routeRequest, ne_eq,
              not_true_eq_false, not_false_eq_true, and_true, and_false, if_false, if_true,
              Bool.true_eq_false, Bool.false_eq_true]
            split
            · rfl
            · split_ifs <;> rfl
        · simp [hst, hint, hp, hs, hact, hr]
      · simp [hst, hint, hp, hact, routeRequest]
  · simp [hst, hp, routeRequest]

theorem outcome_passThrough (h : env.physicalRoutingEnabled = false) :
    (onTransact P env req).outcome = .forwarded req.data .unchanged := by
  unfold onTransact listenerRequest cameraRequest
  simp [h]

theorem attributePackage_of_no_packages {obs : ParcelObservation} {configured : Bool}
    (h : env.packagesForUid obs.callingUid = []) :
    (attributePackage P env obs configured).1 = [] := by
  unfold attributePackage
  simp only [h, if_true]
  split_ifs <;> rfl

/-! ## Clients of a device -/

/-- libbinder and libutils of Android 14; ASCII units are one UTF-8 byte each. -/
def androidPlatform : Platform AndroidFormat.Cell ℕ where
  format := androidFormat
  string8 := fun units => units.map asciiChar
  string8_ascii := fun h => map_asciiChar_ascii16 h

/-- The router on a device with these files and package lists, and memory for every copy. -/
def androidEnv (fs : FileSystem) (packagesForUid : ℤ → List (List Char16)) :
    RouterEnv AndroidFormat.Cell where
  fs := fs
  recipe := makeAndroid14InitialCameraServiceRecipe
  physicalRoutingEnabled := true
  packagesForUid := packagesForUid
  wrapListener := fun _ => none
  wrapListenerRemoval := fun _ => none
  writes := ⟨true, true, true, true⟩

theorem succeed_androidEnv (fs : FileSystem) (pf : ℤ → List (List Char16)) :
    (androidEnv fs pf).writes.Succeed := ⟨rfl, rfl, rfl, rfl⟩

/-- A request of the application with UID 10001, with the cursor at the front of the parcel. -/
def clientRequest (code : ℕ) (name : CameraName) (claim : List Char16) :
    Request AndroidFormat.Cell where
  code := code
  data := ⟨requestCells androidFormat
    (classifyBinderTransaction makeAndroid14InitialCameraServiceRecipe code).payloadShape 1 name
    claim, 0, Nat.zero_le _⟩
  callingUid := 10001
  callingPid := 2000
  hasReply := true

variable {fs : FileSystem} {pf : ℤ → List (List Char16)} {code : ℕ} {name : CameraName}
  {claim : List Char16} {s : BinderPayloadShape}

theorem cameraField_clientRequest
    (hs : (clientRequest code name claim).shape (androidEnv fs pf) = s)
    (hf : name.Fits androidFormat s) :
    cameraField androidFormat s (clientRequest code name claim).data.cells = some name := by
  subst hs
  exact cameraField_request trivial hf

/-- **What the router observes of a client request.** -/
theorem observation_clientRequest
    (hs : (clientRequest code name claim).shape (androidEnv fs pf) = s)
    (hsi : s.singleCamera = true) (hf : name.Fits androidFormat s)
    (hcl : claim.length < 2 ^ 31 - 1) {obs : ParcelObservation}
    (hobs : observation androidPlatform (androidEnv fs pf)
      (clientRequest code name claim) = obs) :
    (obs.status = .observed ↔
      name.observable = true ∧ (s.connect = true → observableString claim = true)) ∧
    obs.callingUid = 10001 ∧ obs.callingPid = 2000 ∧
    (obs.status = .observed → obs.cameraId = name.text ∧
      obs.packageName = if s.connect then claim.map asciiChar else []) := by
  have hc : s.connect = true →
      claimField androidFormat s (clientRequest code name claim).data.cells = some claim := by
    subst hs
    exact claimField_request trivial hf hcl
  exact observe_of_fields hs hsi (cameraField_clientRequest hs hf) hc hobs

end Vcam
