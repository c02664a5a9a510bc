import AndroidVcam.Bootstrap.RouterMonitor
import AndroidVcam.Evidence.ProtocolEvidence
import AndroidVcam.Lib.PyText

/-!
# The statistics of the router

`statsPublisher` of `runtime/platform/AndroidCameraServiceRouter.cpp`: the router writes its state,
its protocol evidence and its counters to a file, one `key=value` line for each.

* **`statsPublisher_eq_some_iff`**: the texts that are written.
-/

namespace Vcam

open TextFile PyText ProtocolEvidence List

structure ShadowObservationStats where
  total : UInt64 := 0
  observed : UInt64 := 0
  ignored : UInt64 := 0
  rejected : UInt64 := 0
  unsupported : UInt64 := 0
  claimedPackage : UInt64 := 0
  uidOnly : UInt64 := 0
  identityUnavailable : UInt64 := 0
  protocolEvidence : ProtocolEvidenceSnapshot := {}

/-- The counters of the router library outside the observer. -/
structure RouterCounters where
  verifiedPackageClaims : UInt64 := 0
  rejectedPackageClaims : UInt64 := 0
  unavailablePackageLookups : UInt64 := 0
  uniqueUidPackageResolutions : UInt64 := 0
  ambiguousUidPackageResolutions : UInt64 := 0
  unavailableUidPackageResolutions : UInt64 := 0
  packageRouteCandidates : UInt64 := 0
  globalRouteCandidates : UInt64 := 0
  physicalRouteDecisions : UInt64 := 0
  unavailableRouteProviders : UInt64 := 0
  physicalRewriteAttempts : UInt64 := 0
  physicalRewriteSuccesses : UInt64 := 0
  physicalRewriteFailures : UInt64 := 0
  cameraDeviceUserWrappers : UInt64 := 0
  cameraRequestBatchesRewritten : UInt64 := 0
  cameraRequestsRewritten : UInt64 := 0
  cameraRequestBatchesSkipped : UInt64 := 0
  cameraListenerWrappers : UInt64 := 0
  cameraListenerCallbacksFiltered : UInt64 := 0
  cameraStatusRecordsFiltered : UInt64 := 0
  internalCameraRequestsRejected : UInt64 := 0

/-- The `%llu` lines. -/
def counterFields (stats : ShadowObservationStats) (counters : RouterCounters) :
    List (Text × UInt64) :=
  [("transactions_total", stats.total),
    ("transactions_observed", stats.observed),
    ("transactions_ignored", stats.ignored),
    ("transactions_rejected", stats.rejected),
    ("transactions_unsupported", stats.unsupported),
    ("identity_claimed_package", stats.claimedPackage),
    ("identity_uid_only", stats.uidOnly),
    ("identity_unavailable", stats.identityUnavailable),
    ("package_claims_verified", counters.verifiedPackageClaims),
    ("package_claims_rejected", counters.rejectedPackageClaims),
    ("package_lookups_unavailable", counters.unavailablePackageLookups),
    ("uid_packages_unique", counters.uniqueUidPackageResolutions),
    ("uid_packages_ambiguous", counters.ambiguousUidPackageResolutions),
    ("uid_packages_unavailable", counters.unavailableUidPackageResolutions),
    ("route_candidates_package", counters.packageRouteCandidates),
    ("route_candidates_global", counters.globalRouteCandidates),
    ("route_decisions_physical", counters.physicalRouteDecisions),
    ("route_providers_unavailable", counters.unavailableRouteProviders),
    ("physical_rewrite_attempts", counters.physicalRewriteAttempts),
    ("physical_rewrite_successes", counters.physicalRewriteSuccesses),
    ("physical_rewrite_failures", counters.physicalRewriteFailures),
    ("device_user_wrappers", counters.cameraDeviceUserWrappers),
    ("request_batches_rewritten", counters.cameraRequestBatchesRewritten),
    ("requests_rewritten", counters.cameraRequestsRewritten),
    ("request_batches_skipped", counters.cameraRequestBatchesSkipped),
    ("listener_wrappers", counters.cameraListenerWrappers),
    ("listener_callbacks_filtered", counters.cameraListenerCallbacksFiltered),
    ("listener_status_records_filtered", counters.cameraStatusRecordsFiltered),
    ("internal_camera_requests_rejected", counters.internalCameraRequestsRejected)]

/-- `0x%016llx`. -/
def maskText (mask : UInt64) : Text := '0' :: 'x' :: hexPadded 16 mask.toNat

def evidenceFields (state profile : Text) (evidence : ProtocolEvidenceSnapshot) :
    List (Text × Text) :=
  [("schema", "2"),
    ("state", state),
    ("profile", profile),
    ("protocol_verdict", evidence.verdict.name),
    ("protocol_required_mask", maskText evidence.requiredMask),
    ("protocol_seen_mask", maskText evidence.seenMask),
    ("protocol_valid_mask", maskText evidence.validMask),
    ("protocol_invalid_mask", maskText evidence.invalidMask),
    ("protocol_unsupported_mask", maskText evidence.unsupportedMask)]

def statsFields (state profile : Text) (stats : ShadowObservationStats)
    (counters : RouterCounters) : List (Text × Text) :=
  evidenceFields state profile stats.protocolEvidence ++
    (counterFields stats counters).map fun f => (f.1, decimal f.2.toNat)

def statsText (state profile : Text) (stats : ShadowObservationStats) (counters : RouterCounters) :
    Text :=
  ((statsFields state profile stats counters).map fieldLine).flatMap fun line => line ++ ['\n']

def payloadSize : ℕ := 1536

/-- One round of `statsPublisher`: the text that it writes to the statistics file. -/
def statsPublisher (state : RouterState) (profile : Text) (observer : Option ShadowObservationStats)
    (counters : RouterCounters) : Option Text :=
  let payload := statsText state.name profile (observer.getD {}) counters
  if 0 < payload.length ∧ payload.length < payloadSize then some payload else none

/-! ## How long the text is -/

def counterDigits (stats : ShadowObservationStats) (counters : RouterCounters) : ℕ :=
  ((counterFields stats counters).map fun f => (decimal f.2.toNat).length).sum

theorem length_maskText (mask : UInt64) : (maskText mask).length = 18 := by
  simp [maskText, length_hexPadded]

def statsKeys : List Text := (statsFields [] [] {} {}).map Prod.fst

/-- The length of the keys and what a reader asks of them. The literals are turned into lists before
the kernel evaluates, which would decode them byte by byte. -/
theorem statsKeys_spec : (statsKeys.map List.length).sum = 811 ∧ statsKeys.Nodup ∧
    ∀ key ∈ statsKeys, key ≠ [] ∧ key.head? ≠ some '#' ∧ '=' ∉ key ∧ Graphic key := by
  unfold statsKeys statsFields evidenceFields counterFields
  simp only [-String.reduceToList, map_cons, map_nil, cons_append, nil_append]
  repeat rw [String.toList_ofList]
  decide +kernel

theorem map_fst_statsFields (s p : Text) (stats : ShadowObservationStats)
    (c : RouterCounters) :
    (statsFields s p stats c).map Prod.fst = statsKeys := by
  simp only [statsKeys, statsFields, evidenceFields, counterFields, map_append, map_cons,
    map_nil]

theorem length_fieldLines (fi : List (Text × Text)) :
    ((fi.map fieldLine).flatMap fun line => line ++ ['\n']).length =
      ((fi.map Prod.fst).map List.length).sum + (fi.map fun f => f.2.length).sum +
        2 * fi.length := by
  induction fi with
  | nil => rfl
  | cons field fi ih =>
    simp only [map_cons, flatMap_cons, length_append, length_cons,
      sum_cons, length_nil, ih, fieldLine]
    omega

theorem sum_length_evidenceFields (s p : Text) (e : ProtocolEvidenceSnapshot) :
    ((evidenceFields s p e).map fun f => f.2.length).sum =
      91 + s.length + p.length + e.verdict.name.length := by
  simp [evidenceFields, length_maskText]
  omega

theorem length_statsText (state p : Text) (s : ShadowObservationStats)
    (counters : RouterCounters) :
    (statsText state p s counters).length =
      978 + state.length + p.length + s.protocolEvidence.verdict.name.length +
        counterDigits s counters := by
  have hc : (statsFields state p s counters).length = 38 := rfl
  have hv : ((statsFields state p s counters).map fun f => f.2.length).sum =
      91 + state.length + p.length + s.protocolEvidence.verdict.name.length +
        counterDigits s counters := by
    rw [statsFields, map_append, sum_append, sum_length_evidenceFields, map_map]
    rfl
  rw [statsText, length_fieldLines, map_fst_statsFields, statsKeys_spec.1, hc, hv]
  omega

/-- **The texts that are written**: the formatted fields, while they fit the buffer. -/
theorem statsPublisher_eq_some_iff {state : RouterState} {p : Text}
    {s : ShadowObservationStats} {c : RouterCounters} {text : Text} :
    statsPublisher state p (some s) c = some text ↔
      text = statsText state.name p s c ∧
        978 + state.name.length + p.length + s.protocolEvidence.verdict.name.length +
          counterDigits s c < payloadSize := by
  have hl := length_statsText state.name p s c
  rw [statsPublisher, Option.getD_some]
  constructor
  · intro h
    split_ifs at h with hf
    exact ⟨(Option.some.inj h).symm, hl ▸ hf.2⟩
  · rintro ⟨rfl, hf⟩
    exact if_pos ⟨by omega, hl ▸ hf⟩

end Vcam
