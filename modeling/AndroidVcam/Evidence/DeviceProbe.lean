import AndroidVcam.Evidence.CapabilityEvaluator

/-!
# The device probe

The decision part of `apmodule/device-probe.sh`: the build fingerprint and the hashes of the camera
libraries select a committed profile, a platform candidate describes every other build, and
`emit_profile` writes both with everything the probe has found, one `key=value` line for each.

* `CommittedBuild`, **`decideProfile_qualified_iff`**: the builds that are qualified.
-/

namespace Vcam

open TextFile

namespace DeviceProbe

/-- The variables that the decision and `emit_profile` read. -/
structure Probe where
  fingerprint : Text
  sdk : Text
  release : Text := []
  abi : Text := []
  manufacturer : Text := []
  brand : Text := []
  productDevice : Text := []
  boardPlatform : Text := []
  hardware : Text := []
  selinuxState : Text := []
  transport : Text := []
  providerVersion : Text := []
  providerInstance : Text := []
  allProviderInstances : Text := []
  declaredProviderInstances : Text := []
  hidlProviderInstances : Text := []
  hidlProviderVersions : Text := []
  aidlProviderInstances : Text := []
  aidlServiceLine : Text := []
  vcamInstanceConflict : Text := []
  oemVirtualProviderPresent : Text := []
  providerManifest : Text := []
  providerService : Text := []
  providerInitService : Text := []
  providerServiceContext : Text := []
  providerProcessContext : Text := []
  providerServiceHash : Text := []
  adapterHint : Text := []
  legacyModule : Text := []
  legacyModuleHash : Text := []
  legacyModuleArch : Text := []
  legacyModuleBits : Text := []
  oneplusGlobalShimCandidate : Text := []
  oneplusHalHash : Text := []
  proxySlotHash : Text := []
  cameraserverPid : Text := []
  cameraserverPath : Text := []
  cameraserverArch : Text := []
  cameraserverBits : Text := []
  cameraservicePath : Text := []
  cameraserviceHash : Text := []
  cameraClientPath : Text := []
  cameraClientHash : Text := []
  cameraCount : Text := []
  cameraIds : Text := []
  api1CameraIds : Text := []
  reportedPhysicalCameraCount : Text := []
  underScreenCamera : Text := []
  cameraServiceBinder : Text := []
  cameraServiceTransport : Text := []
  cameraServiceAidlInstances : Text := []
  cameraServiceHidlInstances : Text := []
  oplusLayout : Text := []
  oplusPartitions : Text := []
  probeUid : Text := []
  rootManager : Text := []
  /-- The hash of the bundled HAL, when it is readable. -/
  payloadHal : Option Text := none
  /-- The hash of the bundled proxy, when it is readable. -/
  payloadProxy : Option Text := none
  /-- The hash of the bundled camera service, when it is readable. -/
  payloadCameraservice : Option Text := none

/-! ## The committed profiles -/

def oneplus7ProFingerprint : Text :=
  "OnePlus/OnePlus7Pro_CH/OnePlus7Pro:12/SKQ1.211113.001/P.202303230244:user/release-keys"

def nx769jFingerprint : Text :=
  "nubia/NX769J/NX769J:14/UKQ1.230917.001/20240417.145608:user/release-keys"

def oneplusHalHashes : List Text :=
  ["dab50dfd0bde9f710c92097442d6451695f7ef82cb9e836b0af2b9369751daa6",
    "66d5f38e8a6f5a287a661a06e1224fef477bb41574ca61f7091b5682b9b587d5"]

def oneplusProxySlotHash : Text :=
  "6ac900f7c1b17fb5551a673ded1fc11469c53dac329bcbbb17b97dd57d2cc992"

def oneplusCameraserviceHash : Text :=
  "2108be5d63b385282d844f689e9f34740026072b8ef6daca2ed59b23612870af"

def nx769jCameraserviceHash : Text :=
  "a26f8ee10002769428871e042c7993e87ad769703897dd75a2fb93a725c64438"

def nx769jCameraClientHash : Text :=
  "1cf518e86a2e5461e585d8dbd7a1dbc93e7ba2bcc95c3e254ebdcc72ee0433c5"

/-- `hash_matches_file` with the hash of the candidate, when it is readable. -/
def hashMatchesFile (actual : Text) : Option Text → Bool
  | none => false
  | some hash => actual == hash

def oneplusPayloadMatches (probe : Probe) : Bool :=
  hashMatchesFile probe.oneplusHalHash probe.payloadHal &&
    hashMatchesFile probe.proxySlotHash probe.payloadProxy &&
    hashMatchesFile probe.cameraserviceHash probe.payloadCameraservice

/-- The hashes of the committed recipe for the OnePlus 7 Pro. -/
def oneplusRecipeMatches (probe : Probe) : Bool :=
  oneplusHalHashes.contains probe.oneplusHalHash &&
    probe.proxySlotHash == oneplusProxySlotHash &&
    probe.cameraserviceHash == oneplusCameraserviceHash

def nx769jRecipeMatches (probe : Probe) : Bool :=
  probe.cameraserviceHash == nx769jCameraserviceHash &&
    probe.cameraClientHash == nx769jCameraClientHash

structure ProfileDecision where
  profileId : Text := "none"
  profileStatus : Text := "unsupported"
  profileReason : Text := "no_qualified_recipe"
  profileAdapter : Text := "none"
  profileRouteScope : Text := "unavailable"
  profileVirtualCameraIds : Text := "none"
deriving DecidableEq

def oneplus7ProDecision (probe : Probe) : ProfileDecision :=
  let selected : ProfileDecision :=
    { profileId := "oneplus7pro-p202303230244"
      profileAdapter := "oneplus7pro-oem-hal"
      profileRouteScope := "per_app" }
  if oneplusRecipeMatches probe || oneplusPayloadMatches probe then
    { selected with
      profileStatus := "qualified"
      profileReason := "exact_fingerprint_and_oem_camera_abi" }
  else
    { selected with
      profileStatus := "abi_mismatch"
      profileReason := "qualified_fingerprint_with_unexpected_camera_abi" }

def nx769jDecision (probe : Probe) : ProfileDecision :=
  let selected : ProfileDecision :=
    { profileId := "nx769j-ukq1-20240417"
      profileAdapter := "nx769j-aidl-router"
      profileRouteScope := "per_app"
      profileVirtualCameraIds := "1000,1001" }
  if nx769jRecipeMatches probe then
    { selected with
      profileStatus := "qualified"
      profileReason := "exact_fingerprint_and_camera_abi" }
  else
    { selected with
      profileStatus := "abi_mismatch"
      profileReason := "qualified_fingerprint_with_unexpected_camera_abi" }

/-- The `case` over the fingerprint. -/
def decideProfile (probe : Probe) : ProfileDecision :=
  if probe.fingerprint = oneplus7ProFingerprint then oneplus7ProDecision probe
  else if "OnePlus/OnePlus7Pro_CH/OnePlus7Pro:12/".toList.isPrefixOf probe.fingerprint then
    { profileId := "oneplus7pro-android12-candidate"
      profileStatus := "build_mismatch"
      profileReason := "oneplus7pro_android12_build_not_qualified"
      profileAdapter := "oneplus7pro-oem-hal" }
  else if probe.fingerprint = nx769jFingerprint then nx769jDecision probe
  else if "nubia/NX769J/NX769J:14/".toList.isPrefixOf probe.fingerprint then
    { profileId := "nx769j-android14-candidate"
      profileStatus := "build_mismatch"
      profileReason := "nx769j_android14_build_not_qualified"
      profileAdapter := "nx769j-aidl-router" }
  else {}

/-! ## The platform candidate -/

structure CandidateDecision where
  platformFamily : Text := "unsupported"
  platformCandidateStatus : Text := "blocked"
  platformCandidateReason : Text := "android_version_not_supported_by_this_probe"
  recommendedRouteScope : Text := "unavailable"
  activationPolicy : Text := "blocked"
  routingAuthorized : Text := "false"
  qualificationBasis : Text := "none"
  candidateRequirements : Text := "none"
deriving DecidableEq

/-- Why the runtime of a build cannot be probed, as far as every SDK asks. -/
def runtimeObstacle (probe : Probe) : Option Text :=
  if probe.cameraServiceBinder = "0" then
    some "media_camera_service_unavailable"
  else if probe.transport = "unknown" then
    some "camera_provider_transport_unresolved"
  else if probe.vcamInstanceConflict = "true" then
    some "vcam_provider_instance_already_registered"
  else none

def android14Candidate (probe : Probe) : CandidateDecision :=
  let candidate : CandidateDecision :=
    { platformFamily := "android12-14-camera-service-64bit"
      recommendedRouteScope := "global_only"
      activationPolicy := "probe_only"
      qualificationBasis := "runtime_probe_required"
      candidateRequirements :=
        ("enforcing_provider_registration,pass_through_protocol,topology_maps,global_preview," ++
          "reboot_recovery").toList }
  if probe.cameraserverArch = "arm64" ∨ probe.cameraserverArch = "x86_64" then
    match runtimeObstacle probe with
    | some reason => { candidate with platformCandidateReason := reason }
    | none =>
      if probe.selinuxState ≠ "Enforcing" then
        { candidate with platformCandidateReason := "selinux_enforcing_required" }
      else
        { candidate with
          platformCandidateStatus := "probe_required"
          platformCandidateReason := "requires_non_authorizing_runtime_qualification" }
  else { candidate with platformCandidateReason := "unsupported_runtime_abi" }

def android12Candidate (probe : Probe) : CandidateDecision :=
  let candidate : CandidateDecision :=
    { platformFamily := "android12-14-camera-service-64bit"
      recommendedRouteScope := "global_only"
      activationPolicy := "probe_only"
      qualificationBasis := "runtime_probe_required"
      candidateRequirements :=
        "version_specific_protocol_probe,topology_maps,global_preview,reboot_recovery" }
  if probe.cameraserverArch ≠ "arm64" then
    { candidate with platformCandidateReason := "unsupported_runtime_abi" }
  else match runtimeObstacle probe with
    | some reason => { candidate with platformCandidateReason := reason }
    | none =>
      { candidate with
        platformCandidateStatus := "probe_required"
        platformCandidateReason := "version_specific_runtime_qualification_required" }

def android10Candidate (probe : Probe) : CandidateDecision :=
  { platformFamily := "android10-11-camera-service-arm32"
    candidateRequirements :=
      "arm32_patcher,arm32_trampoline,arm32_media_dependencies,device_qualification"
    platformCandidateReason :=
      if probe.cameraserverArch = "arm" then "arm32_runtime_not_implemented"
      else "unexpected_android10_11_cameraserver_abi" }

def decideCandidate (probe : Probe) (profile : ProfileDecision) : CandidateDecision :=
  if profile.profileStatus = "qualified" then
    { platformFamily := "exact-device-profile"
      platformCandidateStatus := "qualified"
      platformCandidateReason := "exact_profile_and_camera_abi_verified"
      recommendedRouteScope := profile.profileRouteScope
      activationPolicy := "exact_profile"
      routingAuthorized := "true"
      qualificationBasis := "committed_recipe" }
  else if probe.oneplusGlobalShimCandidate = "true" then
    { platformFamily := "oneplus-qcom-global-shim"
      platformCandidateStatus := "probe_required"
      platformCandidateReason := "oneplus_global_shim_runtime_qualification_required"
      recommendedRouteScope := "global_only"
      activationPolicy := "probe_only"
      routingAuthorized := "false"
      qualificationBasis := "runtime_probe_required"
      candidateRequirements :=
        ("hmi_runtime_validation,metamodule_overlay,physical_passthrough,global_preview," ++
          "reboot_recovery").toList }
  else if probe.sdk = "34" then android14Candidate probe
  else if probe.sdk = "31" ∨ probe.sdk = "32" ∨ probe.sdk = "33" then
    android12Candidate probe
  else if probe.sdk = "29" ∨ probe.sdk = "30" then android10Candidate probe
  else {}

/-! ## The profile file -/

def cleanValue (value : Text) : Text :=
  value.map fun c => if c = '\r' ∨ c = '\n' ∨ c = '\t' then ' ' else c

/-- `${value:-none}`. -/
def orNone (value : Text) : Text := if value = [] then "none" else value

def oneplusHalPath : Text := "/vendor/lib64/hw/camera.qcom.so"

def proxySlotPath : Text := "/vendor/lib64/hw/local_time.default.so"

def buildFields (probe : Probe) : List (Text × Text) :=
  [("schema_version", "7"),
    ("sdk", probe.sdk),
    ("release", probe.release),
    ("abi", probe.abi),
    ("fingerprint", probe.fingerprint),
    ("manufacturer", probe.manufacturer),
    ("brand", probe.brand),
    ("product_device", probe.productDevice),
    ("board_platform", probe.boardPlatform),
    ("hardware", probe.hardware),
    ("selinux", probe.selinuxState),
    ("provider_transport", probe.transport),
    ("provider_version", probe.providerVersion),
    ("provider_instance", probe.providerInstance),
    ("provider_instances", probe.allProviderInstances),
    ("declared_provider_instances", probe.declaredProviderInstances),
    ("hidl_provider_instances", probe.hidlProviderInstances),
    ("hidl_provider_versions", probe.hidlProviderVersions),
    ("aidl_provider_instances", probe.aidlProviderInstances),
    ("aidl_service_line", probe.aidlServiceLine),
    ("vcam_instance_conflict", probe.vcamInstanceConflict),
    ("oem_virtual_provider_present", probe.oemVirtualProviderPresent),
    ("provider_manifest", probe.providerManifest),
    ("provider_service", orNone probe.providerService),
    ("provider_init_service", probe.providerInitService),
    ("provider_service_context", probe.providerServiceContext),
    ("provider_process_context", probe.providerProcessContext),
    ("provider_service_hash", probe.providerServiceHash),
    ("adapter_hint", probe.adapterHint)]

def libraryFields (probe : Probe) (profile : ProfileDecision) : List (Text × Text) :=
  let oem := profile.profileAdapter = "oneplus7pro-oem-hal"
  [("legacy_module", orNone probe.legacyModule),
    ("legacy_module_hash", probe.legacyModuleHash),
    ("legacy_module_arch", probe.legacyModuleArch),
    ("legacy_module_bits", probe.legacyModuleBits),
    ("oneplus_global_shim_candidate", probe.oneplusGlobalShimCandidate),
    ("profile_camera_module_path",
      if oem then oneplusHalPath else orNone probe.legacyModule),
    ("profile_camera_module_hash",
      if oem then probe.oneplusHalHash else probe.legacyModuleHash),
    ("proxy_slot_path", proxySlotPath),
    ("proxy_slot_hash", probe.proxySlotHash),
    ("cameraserver_pid", orNone probe.cameraserverPid),
    ("cameraserver_path", probe.cameraserverPath),
    ("cameraserver_arch", probe.cameraserverArch),
    ("cameraserver_bits", probe.cameraserverBits),
    ("cameraservice_path", probe.cameraservicePath),
    ("cameraservice_hash", probe.cameraserviceHash),
    ("camera_client_path", probe.cameraClientPath),
    ("camera_client_hash", probe.cameraClientHash)]

def decisionFields (profile : ProfileDecision) (candidate : CandidateDecision) :
    List (Text × Text) :=
  let qualified := profile.profileStatus = "qualified"
  [("profile_id", profile.profileId),
    ("profile_status", profile.profileStatus),
    ("profile_reason", profile.profileReason),
    ("profile_adapter", profile.profileAdapter),
    ("route_scope", if qualified then profile.profileRouteScope else "unavailable"),
    ("virtual_camera_ids",
      if qualified then profile.profileVirtualCameraIds else "none"),
    ("platform_family", candidate.platformFamily),
    ("platform_candidate_status", candidate.platformCandidateStatus),
    ("platform_candidate_reason", candidate.platformCandidateReason),
    ("recommended_route_scope", candidate.recommendedRouteScope),
    ("activation_policy", candidate.activationPolicy),
    ("routing_authorized", candidate.routingAuthorized),
    ("qualification_basis", candidate.qualificationBasis),
    ("candidate_requirements", candidate.candidateRequirements)]

def serviceFields (probe : Probe) : List (Text × Text) :=
  [("camera_count", probe.cameraCount),
    ("camera_ids", probe.cameraIds),
    ("api1_camera_ids", probe.api1CameraIds),
    ("reported_physical_camera_count", probe.reportedPhysicalCameraCount),
    ("under_screen_camera", probe.underScreenCamera),
    ("camera_service_binder", probe.cameraServiceBinder),
    ("camera_service_transport", probe.cameraServiceTransport),
    ("camera_service_aidl_instances", probe.cameraServiceAidlInstances),
    ("camera_service_hidl_instances", probe.cameraServiceHidlInstances),
    ("oplus_layout", probe.oplusLayout),
    ("oplus_partitions", probe.oplusPartitions),
    ("probe_uid", probe.probeUid),
    ("root_manager", probe.rootManager)]

/-- The calls of `field`, in order. -/
def profileFields (probe : Probe) (profile : ProfileDecision) (candidate : CandidateDecision) :
    List (Text × Text) :=
  buildFields probe ++ libraryFields probe profile ++ decisionFields profile candidate ++
    serviceFields probe

/-- `field key value`. -/
def fieldText (field : Text × Text) : Text := fieldLine (field.1, cleanValue field.2)

def emitProfile (probe : Probe) : Text :=
  let profile := decideProfile probe
  ((profileFields probe profile (decideCandidate probe profile)).map fieldText).flatMap
    fun line => line ++ ['\n']

/-! ## The qualified builds -/

/-- A committed fingerprint with the camera libraries of its recipe, or of the bundled payload. -/
def CommittedBuild (probe : Probe) : Prop :=
  (probe.fingerprint = oneplus7ProFingerprint ∧
    ((probe.oneplusHalHash ∈ oneplusHalHashes ∧ probe.proxySlotHash = oneplusProxySlotHash ∧
        probe.cameraserviceHash = oneplusCameraserviceHash) ∨
      (probe.payloadHal = some probe.oneplusHalHash ∧
        probe.payloadProxy = some probe.proxySlotHash ∧
        probe.payloadCameraservice = some probe.cameraserviceHash))) ∨
  (probe.fingerprint = nx769jFingerprint ∧ probe.cameraserviceHash = nx769jCameraserviceHash ∧
    probe.cameraClientHash = nx769jCameraClientHash)

theorem hashMatchesFile_iff (actual : Text) (c : Option Text) :
    hashMatchesFile actual c = true ↔ c = some actual := by
  cases c with
  | none => exact iff_of_false Bool.false_ne_true nofun
  | some hash => rw [hashMatchesFile, beq_iff_eq, Option.some_inj, eq_comm]

theorem oneplus7ProDecision_qualified_iff (p : Probe) :
    (oneplus7ProDecision p).profileStatus = "qualified" ↔
      (p.oneplusHalHash ∈ oneplusHalHashes ∧ p.proxySlotHash = oneplusProxySlotHash ∧
        p.cameraserviceHash = oneplusCameraserviceHash) ∨
      (p.payloadHal = some p.oneplusHalHash ∧
        p.payloadProxy = some p.proxySlotHash ∧
        p.payloadCameraservice = some p.cameraserviceHash) := by
  rw [← hashMatchesFile_iff, ← hashMatchesFile_iff, ← hashMatchesFile_iff, ← List.contains_iff_mem,
    ← beq_iff_eq (a := p.proxySlotHash), ← beq_iff_eq (a := p.cameraserviceHash),
    ← and_assoc, ← and_assoc, ← Bool.and_eq_true, ← Bool.and_eq_true, ← Bool.and_eq_true,
    ← Bool.and_eq_true, ← Bool.or_eq_true]
  change _ ↔ (oneplusRecipeMatches p || oneplusPayloadMatches p) = true
  rw [oneplus7ProDecision]
  split_ifs with h
  · exact iff_of_true rfl h
  · exact iff_of_false (by decide) h

theorem nx769jDecision_qualified_iff (p : Probe) :
    (nx769jDecision p).profileStatus = "qualified" ↔
      p.cameraserviceHash = nx769jCameraserviceHash ∧
        p.cameraClientHash = nx769jCameraClientHash := by
  rw [nx769jDecision, nx769jRecipeMatches]
  split_ifs with h
  · rw [Bool.and_eq_true, beq_iff_eq, beq_iff_eq] at h
    exact iff_of_true rfl h
  · rw [Bool.and_eq_true, beq_iff_eq, beq_iff_eq] at h
    exact iff_of_false (by decide) h

theorem decideProfile_status (p : Probe) :
    (decideProfile p).profileStatus ∈ ["qualified".toList, "abi_mismatch".toList,
      "build_mismatch".toList, "unsupported".toList] := by
  rw [decideProfile]
  split_ifs
  · rw [oneplus7ProDecision]
    split_ifs <;> decide
  · decide
  · rw [nx769jDecision]
    split_ifs <;> decide
  · decide
  · decide

/-- **Only a committed build is qualified.** -/
theorem decideProfile_qualified_iff (probe : Probe) :
    (decideProfile probe).profileStatus = "qualified" ↔ CommittedBuild probe := by
  have hd : oneplus7ProFingerprint ≠ nx769jFingerprint := by decide
  have hs : ¬"OnePlus/OnePlus7Pro_CH/OnePlus7Pro:12/".toList.isPrefixOf nx769jFingerprint := by
    decide
  rw [decideProfile, CommittedBuild]
  split_ifs with hone hc hnx ho
  · refine (oneplus7ProDecision_qualified_iff probe).trans ⟨fun h => .inl ⟨hone, h⟩, ?_⟩
    exact fun h => h.elim And.right fun h => absurd (hone.symm.trans h.1) hd
  · refine iff_of_false (by decide) ?_
    rintro (h | h)
    · exact hone h.1
    · exact hs (h.1 ▸ hc)
  · rw [nx769jDecision_qualified_iff, or_iff_right fun h => hone h.1]
    exact (and_iff_right hnx).symm
  · exact iff_of_false (by decide) fun h => h.elim (fun h => hone h.1) fun h => hnx h.1
  · exact iff_of_false (by decide) fun h => h.elim (fun h => hone h.1) fun h => hnx h.1

end DeviceProbe

end Vcam
