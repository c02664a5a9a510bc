import AndroidVcam.Evidence.CapabilityEvaluator
import AndroidVcam.Evidence.RouterStats

/-!
# The router statistics in the capability evaluator

What `evaluate` makes of the text that `statsPublisher` writes. The masks and the verdict are read
back as the router has them, so the evaluator comes to the verdict of the router exactly when the
text names the state that it asks for. The router never writes that name: it calls the state
`passthrough_ready`, and the evaluator asks for `pass_through_ready`.

* **`evaluateText_statsText`**: the whole way from a formatted text to the report;
* `RouterRun`, `Agrees`: a run of the router, and the evaluator confirming its verdict;
* **`agrees_iff`**: the runs for which the two agree.
-/

namespace Vcam

open TextFile PyText ProtocolEvidence CapabilityEvaluator List

namespace StatsAgreement

/-! ## The profile -/

/-- A profile of schema 7 that leaves the decision to the protocol evidence. -/
structure CandidateProfile where
  values : Properties
  complete : ∀ key ∈ profileFields, key ∈ values
  schema : item values "schema_version" = "7"
  sdk : item values "sdk" = "34"
  candidate : item values "platform_candidate_status" = "probe_required"
  noConflict : item values "vcam_instance_conflict" = "false"
  arch : item values "cameraserver_arch" = "arm64"

/-- The report before the router statistics are looked at. -/
def probeReport (profile : Properties) : Report :=
  { initialReport profile with
    evidenceStatus := "probe_required"
    activationPolicy := "probe_only"
    routingAuthorized := "false"
    reason := "runtime_protocol_evidence_required" }

theorem require_of_mem {v : Properties} {keys : List Text} (h : ∀ key ∈ keys, key ∈ v)
    (s : Text) : require v keys s = .ok () := by
  have hm : (keys.filter fun key => decide (key ∉ v)) = [] :=
    filter_eq_nil_iff.mpr fun key hkey => by simpa using h key hkey
  exact if_pos hm

theorem exactProfile_eq_false {p : Properties}
    (h : item p "platform_candidate_status" ≠ "qualified") :
    exactProfile p = false := by
  rw [exactProfile]
  split
  · rfl
  · rw [beq_eq_false_iff_ne.mpr h]
    simp only [Bool.and_false, Bool.false_and]

theorem evaluate_candidate (u : UnicodeDigits) (p : CandidateProfile)
    (r topology : Option Properties) :
    evaluate u p.values r topology =
      evaluateRouter u (probeReport p.values) r topology := by
  have he : exactProfile p.values = false :=
    exactProfile_eq_false (by rw [p.candidate]; decide)
  rw [evaluate, require_of_mem p.complete, if_neg (not_not.mpr p.schema),
    evaluateProfile, he, if_neg (by decide), if_neg, if_neg (not_not.mpr p.noConflict),
    if_neg]
  · rfl
  · rw [p.arch]
    decide
  · rw [p.sdk, p.candidate]
    decide

/-! ## The text -/

theorem plain_decimal (n : ℕ) : Plain (decimal n) := by
  have hd := isDigits_decimal n
  rw [isDigits, Bool.and_eq_true, all_eq_true] at hd
  intro c hc
  have hr : 48 ≤ c.toNat ∧ c.toNat ≤ 57 := by
    simpa [Char.isDigit, UInt32.le_iff_toNat_le] using hd.2 c hc
  exact isSpace_of_graphic ⟨by omega, by omega⟩

theorem plain_maskText (mask : UInt64) : Plain (maskText mask) := by
  rw [Plain, maskText, forall_mem_cons, forall_mem_cons]
  exact ⟨by decide, by decide, (graphic_hexPadded 16 mask.toNat).plain⟩

theorem plain_verdictName (v : Verdict) : Plain v.name := by
  apply Graphic.plain
  cases v <;> decide +kernel

variable {profile state : Text} {router : Properties}

theorem plain_evidenceFields (hs : Plain state) (hp : Plain profile)
    (e : ProtocolEvidenceSnapshot) :
    ∀ field ∈ evidenceFields state profile e, Plain field.2 := by
  simp only [evidenceFields, forall_mem_cons]
  exact ⟨Graphic.plain (by decide), hs, hp, plain_verdictName _, plain_maskText _,
    plain_maskText _, plain_maskText _, plain_maskText _, plain_maskText _, forall_mem_nil _⟩

theorem plainField_statsFields (hs : Plain state) (hp : Plain profile)
    (s : ShadowObservationStats) (c : RouterCounters) :
    ∀ field ∈ statsFields state profile s c, PlainField field := by
  intro field hf
  obtain ⟨hne, hh, hcut, hg⟩ := statsKeys_spec.2.2 field.1
    (map_fst_statsFields state profile s c ▸ mem_map_of_mem hf)
  refine ⟨hne, hh, hcut, hg.plain, ?_⟩
  rcases mem_append.mp hf with hf | hf
  · exact plain_evidenceFields hs hp _ field hf
  · obtain ⟨counter, -, rfl⟩ := mem_map.mp hf
    exact plain_decimal _

/-- The dictionary that holds the fields of a formatted text. -/
def Holds (router : Properties) (fields : List (Text × Text)) : Prop :=
  ∀ field ∈ fields, router.lookup field.1 = some field.2

theorem Holds.item {f : List (Text × Text)} (h : Holds router f) {key : String}
    {value : Text} (hmem : (key.toList, value) ∈ f) :
    item router key = value := by
  rw [CapabilityEvaluator.item, h _ hmem, Option.getD_some]

variable {s : ShadowObservationStats} {history : List ParcelObservation} (u : UnicodeDigits)
  (path : Text)

theorem readProperties_statsText (hs : Plain state) (hp : Plain profile)
    (s : ShadowObservationStats) (c : RouterCounters) :
    ∃ router, readProperties path (statsText state profile s c) = .ok router ∧
      Holds router (statsFields state profile s c) := by
  obtain ⟨router, hr, hf, -⟩ :=
    readProperties_fields path (plainField_statsFields hs hp s c)
      (map_fst_statsFields state profile s c ▸ statsKeys_spec.2.1)
  exact ⟨router, hr, hf⟩

/-! ## The masks -/

theorem parseMask_maskText (mask : UInt64) (key : Text) :
    parseMask u (maskText mask) key = .ok mask.toNat := by
  have hlt : mask.toNat < 16 ^ 16 := by
    have := mask.toNat_lt
    norm_num at this ⊢
    exact this
  rw [parseMask, maskText, intBase0_hexPadded u (by norm_num) hlt]
  refine (if_neg ?_).trans (by rw [Int.toNat_natCast])
  have hmax : maxMask = 16 ^ 16 - 1 := by norm_num [maxMask]
  rw [hmax]
  push_cast
  omega

/-- The masks of a snapshot as the evaluator computes with them. -/
def snapshotMasks (evidence : ProtocolEvidenceSnapshot) : Masks :=
  ⟨evidence.requiredMask.toNat, evidence.seenMask.toNat, evidence.validMask.toNat,
    evidence.invalidMask.toNat, evidence.unsupportedMask.toNat⟩

theorem parseMasks_of_holds {e : ProtocolEvidenceSnapshot}
    (h : Holds router (evidenceFields state profile e)) :
    parseMasks u router = .ok (snapshotMasks e) := by
  have hm : ∀ {key : String} {mask : UInt64},
      (key.toList, maskText mask) ∈ evidenceFields state profile e →
        routerMask u router key = .ok mask.toNat := fun {key mask} hmem => by
    rw [routerMask, h.item hmem, parseMask_maskText]
  have hr : routerMask u router "protocol_required_mask" = .ok e.requiredMask.toNat :=
    hm (by simp [evidenceFields])
  have hs : routerMask u router "protocol_seen_mask" = .ok e.seenMask.toNat :=
    hm (by simp [evidenceFields])
  have hv : routerMask u router "protocol_valid_mask" = .ok e.validMask.toNat :=
    hm (by simp [evidenceFields])
  have hi : routerMask u router "protocol_invalid_mask" = .ok e.invalidMask.toNat :=
    hm (by simp [evidenceFields])
  have hu :
      routerMask u router "protocol_unsupported_mask" = .ok e.unsupportedMask.toNat :=
    hm (by simp [evidenceFields])
  rw [parseMasks, hr, hs, hv, hi, hu]
  rfl

theorem and_toNat_beq {a b c : UInt64} : (a.toNat &&& b.toNat == c.toNat) = true ↔ a &&& b = c := by
  rw [beq_iff_eq, ← UInt64.toNat_and, UInt64.toNat_inj]

theorem verdictName_eq_iff (v : Verdict) :
    v.name = "probe_compatible" ↔ v = .probeCompatible := by
  cases v <;> decide

theorem protocolValid_recorded_iff (history : List ParcelObservation) :
    protocolValid (recorded history).verdict.name (snapshotMasks (recorded history).snapshot) =
      true ↔ (recorded history).verdict = .probeCompatible := by
  have hr : (kRequiredMask.toNat != 0) = true := by decide
  have hz : ∀ mask : UInt64,
      (mask.toNat &&& kRequiredMask.toNat == 0) = true ↔ mask &&& kRequiredMask = 0 :=
    fun mask => and_toNat_beq (c := 0)
  simp only [protocolValid, snapshotMasks, snapshot, Bool.and_eq_true, hr, true_and,
    and_toNat_beq, hz]
  rw [beq_iff_eq, verdictName_eq_iff, and_assoc, and_assoc, and_assoc,
    ← recorded_probeCompatible_iff, and_self]

/-! ## From the text to the report -/

def evaluateText (u : UnicodeDigits) (path : Text) (profile : CandidateProfile) (text : Text)
    (topology : Option Properties) : Except Text Report :=
  match readProperties path text with
  | .error message => .error message
  | .ok router => evaluate u profile.values (some router) topology

/-- Why a text that names `state` is refused. -/
def rejection (state : Text) : Text :=
  if state = "pass_through_ready" then "required_protocol_roles_not_validated"
  else "generic_probe_must_remain_pass_through"

theorem mem_of_holds {c : RouterCounters}
    (h : Holds router (statsFields state profile s c)) {key : Text}
    (hkey : key ∈ statsKeys) : key ∈ router := by
  rw [← map_fst_statsFields state profile s c] at hkey
  obtain ⟨field, hf, rfl⟩ := mem_map.mp hkey
  exact AList.lookup_isSome.mp (by rw [h field hf]; rfl)

theorem routerFields_subset : ∀ key ∈ routerFields, key ∈ statsKeys := by
  unfold statsKeys statsFields evidenceFields counterFields routerFields
  simp only [-String.reduceToList, map_cons, map_nil, cons_append, nil_append]
  repeat rw [String.toList_ofList]
  decide +kernel

theorem evaluateProtocol_of_holds
    (r : Report) (t : Option Properties)
    (h : Holds router (evidenceFields state profile (recorded history).snapshot)) :
    evaluateProtocol u r router t =
      if (recorded history).verdict = .probeCompatible then
        evaluateTopology u (protocolCompatible r) t
      else .ok (protocolRejected r "required_protocol_roles_not_validated") := by
  have hve : item router "protocol_verdict" = (recorded history).verdict.name :=
    h.item (by simp [evidenceFields, snapshot])
  have hiff := protocolValid_recorded_iff history
  rw [evaluateProtocol, parseMasks_of_holds u h, hve]
  by_cases hv : (recorded history).verdict = .probeCompatible
  · rw [if_pos hv]
    exact if_neg (by rw [hiff.mpr hv]; decide)
  · rw [if_neg hv]
    exact if_pos (by rw [Bool.eq_false_iff.mpr (mt hiff.mp hv)]; rfl)

/-- What the evaluator makes of a dictionary with the statistics of a history. -/
theorem evaluateRouter_of_holds {c : RouterCounters} (r : Report)
    (t : Option Properties) (hst : s.protocolEvidence = (recorded history).snapshot)
    (h : Holds router (statsFields state profile s c)) :
    evaluateRouter u r (some router) t =
      if state = "pass_through_ready" ∧ (recorded history).verdict = .probeCompatible then
        evaluateTopology u (protocolCompatible r) t
      else .ok (protocolRejected r (rejection state)) := by
  have he : Holds router (evidenceFields state profile (recorded history).snapshot) :=
    fun field hf => h field (mem_append_left _ (hst ▸ hf))
  have hsta : item router "state" = state := he.item (by simp [evidenceFields])
  have hk : ∀ key ∈ routerFields, key ∈ router := fun key hkey =>
    mem_of_holds h (routerFields_subset key hkey)
  rw [evaluateRouter, require_of_mem hk, hsta]
  by_cases hs : state = "pass_through_ready"
  · rw [if_neg (not_not.mpr hs), evaluateProtocol_of_holds u _ t he, rejection,
      if_pos hs]
    by_cases hv : (recorded history).verdict = .probeCompatible
    · rw [if_pos hv, if_pos ⟨hs, hv⟩]
    · rw [if_neg hv, if_neg fun hb => hv hb.2]
  · rw [if_pos hs, if_neg fun hb => hs hb.1, rejection, if_neg hs]

/-- **From the text of the router to the report.** The evaluator comes to the verdict of the router
when the text names the state it asks for, and rejects every other text. -/
theorem evaluateText_statsText (p : CandidateProfile)
    (t : Option Properties) {package : Text} (hst : Plain state)
    (hn : Plain package) (history : List ParcelObservation) (s : ShadowObservationStats)
    (hs : s.protocolEvidence = (recorded history).snapshot) (c : RouterCounters) :
    evaluateText u path p (statsText state package s c) t =
      if state = "pass_through_ready" ∧ (recorded history).verdict = .probeCompatible then
        evaluateTopology u (protocolCompatible (probeReport p.values)) t
      else .ok (protocolRejected (probeReport p.values) (rejection state)) := by
  obtain ⟨router, hr, hh⟩ := readProperties_statsText path hst hn s c
  rw [evaluateText, hr]
  exact (evaluate_candidate u p (some router) t).trans
    (evaluateRouter_of_holds u _ t hs hh)

/-! ## Runs of the router -/

/-- A router with the observations it has made. -/
structure RouterRun where
  state : RouterState
  history : List ParcelObservation
  /-- The counters of the observer. -/
  observation : ShadowObservationStats := {}
  counters : RouterCounters := {}
  sdk : ℤ
  fingerprint : Text

namespace RouterRun

variable (run : RouterRun)

def verdict : Verdict := (recorded run.history).verdict

def stats : ShadowObservationStats :=
  { run.observation with protocolEvidence := (recorded run.history).snapshot }

def profileName : Text := (selectAndroid14CameraServiceProtocol run.sdk run.fingerprint).profileName

def published : Option Text := statsPublisher run.state run.profileName (some run.stats) run.counters

theorem plain_profileName : Plain run.profileName := by
  apply Graphic.plain
  rw [profileName, selectAndroid14CameraServiceProtocol]
  split_ifs <;> decide +kernel

end RouterRun

theorem plain_stateName (s : RouterState) : Plain s.name := by
  apply Graphic.plain
  cases s <;> decide +kernel

theorem stateName_ne (s : RouterState) : s.name ≠ "pass_through_ready" := by
  cases s <;> decide

def protocolStatus (u : UnicodeDigits) (path : Text) (profile : CandidateProfile) (text : Text)
    (topology : Option Properties) : Except Text Text :=
  (evaluateText u path profile text topology).map (·.protocolStatus)

/-- The evaluator confirms a compatible router that passes transactions through, and no router whose
verdict is another one. -/
def Agrees (u : UnicodeDigits) (path : Text) (run : RouterRun) (profile : CandidateProfile)
    (topology : Option Properties) : Prop :=
  ∀ text, run.published = some text →
    (run.verdict = .probeCompatible → run.state = .passThroughReady →
      protocolStatus u path profile text topology = .ok "probe_compatible") ∧
    (run.verdict ≠ .probeCompatible →
      protocolStatus u path profile text topology = .ok "rejected")

theorem protocolStatus_of_published (p : CandidateProfile)
    (t : Option Properties) {run : RouterRun} {text : Text}
    (h : run.published = some text) :
    protocolStatus u path p text t = .ok "rejected" := by
  obtain ⟨rfl, -⟩ := statsPublisher_eq_some_iff.mp h
  rw [protocolStatus, evaluateText_statsText u path p t (plain_stateName run.state)
    run.plain_profileName run.history run.stats rfl run.counters,
    if_neg fun hb => stateName_ne run.state hb.1]
  rfl

theorem RouterRun.published_iff_of_compatible {run : RouterRun}
    (hv : run.verdict = .probeCompatible) (hst : run.state = .passThroughReady)
    {text : Text} :
    run.published = some text ↔
      text = statsText run.state.name run.profileName run.stats run.counters ∧
        run.profileName.length + counterDigits run.stats run.counters < 525 := by
  have hn : run.stats.protocolEvidence.verdict.name.length = 16 :=
    (congrArg (fun v => v.name.length) hv).trans rfl
  have hs : run.state.name.length = 17 := by rw [hst]; rfl
  rw [RouterRun.published, statsPublisher_eq_some_iff, hn, hs, payloadSize]
  refine and_congr_right fun _ => ?_
  omega

/-- **The evaluator agrees with every router but those it is meant for.** It rejects each text that
is written, so it is right as long as no compatible router in the pass-through state publishes one;
such a router publishes while its profile name and counters have fewer than 525 characters. -/
theorem agrees_iff (run : RouterRun) (profile : CandidateProfile)
    (topology : Option Properties) :
    Agrees u path run profile topology ↔
      ¬(run.verdict = .probeCompatible ∧ run.state = .passThroughReady ∧
        run.profileName.length + counterDigits run.stats run.counters < 525) := by
  constructor
  · rintro ha ⟨hv, hs, hf⟩
    have ht := (run.published_iff_of_compatible hv hs).mpr ⟨rfl, hf⟩
    have hc := (ha _ ht).1 hv hs
    rw [protocolStatus_of_published u path profile topology ht] at hc
    exact absurd (Except.ok.inj hc) (by decide)
  · intro hco text ht
    refine ⟨fun hv hs => ?_, fun _ =>
      protocolStatus_of_published u path profile topology ht⟩
    have hf := ((run.published_iff_of_compatible hv hs).mp ht).2
    exact absurd ⟨hv, hs, hf⟩ hco

def waitingValue (key : Text) : Text :=
  if key = "schema_version" then "7"
  else if key = "sdk" then "34"
  else if key = "platform_candidate_status" then "probe_required"
  else if key = "vcam_instance_conflict" then "false"
  else if key = "cameraserver_arch" then "arm64"
  else "unknown"

theorem waitingValues_spec {v : Properties}
    (h : v = profileFields.foldl (fun v key => v.insert key (waitingValue key)) ∅) :
    (∀ key ∈ profileFields, key ∈ v) ∧ item v "schema_version" = "7" ∧
      item v "sdk" = "34" ∧
      item v "platform_candidate_status" = "probe_required" ∧
      item v "vcam_instance_conflict" = "false" ∧
      item v "cameraserver_arch" = "arm64" := by
  rw [h]
  unfold profileFields waitingValue item
  repeat rw [String.toList_ofList]
  decide +kernel

def waitingProfile : CandidateProfile where
  values := profileFields.foldl (fun values key => values.insert key (waitingValue key)) ∅
  complete := (waitingValues_spec rfl).1
  schema := (waitingValues_spec rfl).2.1
  sdk := (waitingValues_spec rfl).2.2.1
  candidate := (waitingValues_spec rfl).2.2.2.1
  noConflict := (waitingValues_spec rfl).2.2.2.2.1
  arch := (waitingValues_spec rfl).2.2.2.2.2

/-- A pass-through router on an unknown Android 14 build that has decoded every transaction of the
template once. -/
def qualifiedRun : RouterRun where
  state := .passThroughReady
  history := makeAndroid14InitialCameraServiceRecipe.transactions.map fun transaction =>
    { status := .observed, transaction := classificationForRole transaction.code transaction.role }
  observation := { total := 12, observed := 12 }
  sdk := 34
  fingerprint := "vendor/device:14/release-keys"

theorem qualifiedRun_rejected :
    qualifiedRun.verdict = .probeCompatible ∧ qualifiedRun.state = .passThroughReady ∧
      (∃ text, qualifiedRun.published = some text ∧
        protocolStatus asciiDigits "router-stats" waitingProfile text none =
          .ok "rejected") ∧
      ¬Agrees asciiDigits "router-stats" qualifiedRun waitingProfile none := by
  have hv : qualifiedRun.verdict = .probeCompatible := by decide +kernel
  have ht : qualifiedRun.published = some (statsText qualifiedRun.state.name
      qualifiedRun.profileName qualifiedRun.stats qualifiedRun.counters) :=
    (RouterRun.published_iff_of_compatible hv rfl).mpr ⟨rfl, by decide +kernel⟩
  have hs := protocolStatus_of_published asciiDigits "router-stats" waitingProfile none
    ht
  refine ⟨hv, rfl, ⟨_, ht, hs⟩, fun ha => ?_⟩
  have hc := (ha _ ht).1 hv rfl
  rw [hs] at hc
  exact absurd (Except.ok.inj hc) (by decide)

end StatsAgreement

end Vcam
