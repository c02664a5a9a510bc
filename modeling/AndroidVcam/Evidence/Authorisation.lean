import AndroidVcam.Evidence.DeviceProbe

/-!
# Who authorises routing

The capability evaluator behind the device probe. The router statistics and the topology decide how
far the evidence goes, and none of them reaches the authorisation or the route scope: these depend on
the profile alone, and the profile of the probe is authorised on committed builds only.

* **`evaluate_authorisation`**: authorisation and scope of every report;
* **`routing_authorised_by_profile`**: no evidence authorises routing.
-/

namespace Vcam

open TextFile PyText CapabilityEvaluator DeviceProbe List

namespace Authorisation

/-! ## The report -/

/-- What the stages behind the profile leave of a report. -/
structure KeepsDecision (report result : Report) : Prop where
  authorised : result.routingAuthorized = report.routingAuthorized
  scope : result.recommendedRouteScope = report.recommendedRouteScope

variable {report result : Report} {topology : Option Properties} {u : UnicodeDigits}
  {profile v : Properties} {n : ℕ} {path : Text} {probe : Probe}

theorem evaluateTopology_keeps (hr : report.routingAuthorized = "false")
    (h : evaluateTopology u report topology = .ok result) : KeepsDecision report result := by
  cases topology with
  | none =>
    obtain rfl := Except.ok.inj h
    exact ⟨rfl, rfl⟩
  | some topology =>
    rw [evaluateTopology] at h
    split at h
    · cases h
    · split_ifs at h
      · obtain rfl := Except.ok.inj h
        exact ⟨rfl, rfl⟩
      · obtain rfl := Except.ok.inj h
        exact ⟨hr.symm, rfl⟩

theorem evaluateProtocol_keeps {r : Properties}
    (hr : report.routingAuthorized = "false")
    (h : evaluateProtocol u report r topology = .ok result) :
    KeepsDecision report result := by
  rw [evaluateProtocol] at h
  split at h
  · cases h
  · split_ifs at h
    · obtain rfl := Except.ok.inj h
      exact ⟨rfl, rfl⟩
    · have hn : KeepsDecision (protocolCompatible report) result :=
        evaluateTopology_keeps hr h
      exact ⟨hn.authorised, hn.scope⟩

theorem evaluateRouter_keeps {r : Option Properties}
    (hr : report.routingAuthorized = "false")
    (h : evaluateRouter u report r topology = .ok result) : KeepsDecision report result := by
  cases r with
  | none =>
    obtain rfl := Except.ok.inj h
    exact ⟨rfl, rfl⟩
  | some r =>
    rw [evaluateRouter] at h
    split at h
    · cases h
    · split_ifs at h
      · obtain rfl := Except.ok.inj h
        exact ⟨rfl, rfl⟩
      · exact evaluateProtocol_keeps hr h

def authorisation (profile : Properties) : Text :=
  if exactProfile profile then "true" else "false"

/-- **Authorisation and scope of a report depend on the profile alone.** -/
theorem evaluate_authorisation {r : Option Properties}
    (h : evaluate u profile r topology = .ok report) :
    report.routingAuthorized = authorisation profile ∧
      report.recommendedRouteScope = item profile "recommended_route_scope" := by
  rw [evaluate] at h
  split at h
  · cases h
  · split_ifs at h
    rw [evaluateProfile] at h
    rw [authorisation]
    split_ifs at h with he
    · obtain rfl := Except.ok.inj h
      exact ⟨(if_pos he).symm, rfl⟩
    · obtain rfl := Except.ok.inj h
      exact ⟨(if_neg he).symm, rfl⟩
    · obtain rfl := Except.ok.inj h
      exact ⟨(if_neg he).symm, rfl⟩
    · obtain rfl := Except.ok.inj h
      exact ⟨(if_neg he).symm, rfl⟩
    · have hk := evaluateRouter_keeps rfl h
      exact ⟨hk.authorised.trans (if_neg he).symm, hk.scope⟩

theorem exactProfile_known (h : exactProfile profile = true) :
    ∃ sdk scope, (item profile "profile_id", sdk, scope) ∈ knownExactProfiles ∧
      item profile "sdk" = sdk ∧ item profile "recommended_route_scope" = scope := by
  rw [exactProfile] at h
  split at h
  · cases h
  · rename_i sdk scope hl
    obtain ⟨before, behind, hk, -⟩ := lookup_eq_some_iff.mp hl
    have hmem : (item profile "profile_id", sdk, scope) ∈ knownExactProfiles := by
      rw [hk]
      exact mem_append_right _ mem_cons_self
    simp only [Bool.and_eq_true, beq_iff_eq] at h
    exact ⟨sdk, scope, hmem, h.1.2, h.2⟩

theorem exactProfile_status (h : exactProfile profile = true) :
    item profile "profile_status" = "qualified" := by
  rw [exactProfile] at h
  split at h
  · cases h
  · simp only [Bool.and_eq_true, beq_iff_eq] at h
    exact h.1.1.1.1.1.1

theorem authorisation_eq_true_iff (p : Properties) :
    authorisation p = "true" ↔ exactProfile p = true := by
  rw [authorisation]
  split_ifs with h
  · exact iff_of_true rfl h
  · exact iff_of_false (by decide) h

/-! ## The profile file -/

theorem readLine_ok {raw : Text} {r : Properties}
    (h : readLine path v n raw = .ok r) :
    r = v ∨ ∃ key value, key ∉ v ∧ r = v.insert key value := by
  simp only [readLine] at h
  split_ifs at h
  · exact .inl (Except.ok.inj h).symm
  · split at h
    · cases h
    · rename_i key value _
      split_ifs at h with hbad
      exact .inr ⟨key, value, fun hmem => hbad (.inr hmem), (Except.ok.inj h).symm⟩

theorem readLines_keeps {l : List Text} {r : Properties}
    (h : readLines path v n l = .ok r) {key value : Text}
    (hkey : v.lookup key = some value) : r.lookup key = some value := by
  induction l generalizing v n with
  | nil =>
    obtain rfl := Except.ok.inj h
    exact hkey
  | cons raw l ih =>
    rw [readLines] at h
    split at h
    · cases h
    · rename_i values' hl
      refine ih h ?_
      rcases readLine_ok hl with rfl | ⟨key', value', hnew, rfl⟩
      · exact hkey
      · have hne : key ≠ key' := by
          rintro rfl
          exact hnew (AList.lookup_isSome.mp (by rw [hkey]; rfl))
        rw [AList.lookup_insert_ne hne, hkey]

theorem readLines_lookup {l : List Text} {r : Properties}
    (h : readLines path v n l = .ok r) {f : Text × Text}
    (hp : PlainField f) (hl : fieldLine f ∈ l) :
    r.lookup f.1 = some f.2 := by
  induction l generalizing v n with
  | nil => exact absurd hl not_mem_nil
  | cons raw l ih =>
    rw [readLines] at h
    split at h
    · cases h
    · rename_i values' hr
      rcases mem_cons.mp hl with hraw | hl
      · rw [← hraw, readLine_fieldLine hp] at hr
        split_ifs at hr
        obtain rfl := Except.ok.inj hr
        exact readLines_keeps h (AList.lookup_insert _)
      · exact ih h hl

theorem lookup_of_emitted (h : readProperties path (emitProfile probe) = .ok profile)
    {f : Text × Text} (hp : PlainField (f.1, cleanValue f.2))
    (hf : f ∈ DeviceProbe.profileFields probe (decideProfile probe)
      (decideCandidate probe (decideProfile probe))) :
    profile.lookup f.1 = some (cleanValue f.2) := by
  have hl : fieldText f ∈ (DeviceProbe.profileFields probe (decideProfile probe)
      (decideCandidate probe (decideProfile probe))).map fieldText := mem_map_of_mem hf
  have hmem := mem_splitlines
    (fun c hc => isLineBreak_of_plain (hp.plain_fieldLine c hc)) hl
  exact readLines_lookup h hp hmem

theorem item_profile_status (h : readProperties path (emitProfile probe) = .ok profile) :
    item profile "profile_status" = (decideProfile probe).profileStatus := by
  have hs : ∀ status ∈ ["qualified".toList, "abi_mismatch".toList, "build_mismatch".toList,
      "unsupported".toList], cleanValue status = status ∧ Graphic status := by decide +kernel
  obtain ⟨hc, hg⟩ := hs _ (decideProfile_status probe)
  have hkey : PlainField ("profile_status", []) :=
    ⟨by decide, by decide, by decide, Graphic.plain (by decide +kernel), nofun⟩
  have hp : PlainField ("profile_status", cleanValue (decideProfile probe).profileStatus) :=
    ⟨hkey.key_ne_nil, hkey.key_head, hkey.key_cut, hkey.plain_key, hc.symm ▸ hg.plain⟩
  have hf : ("profile_status".toList, (decideProfile probe).profileStatus) ∈
      DeviceProbe.profileFields probe (decideProfile probe)
        (decideCandidate probe (decideProfile probe)) :=
    mem_append_left _ (mem_append_right _ (.tail _ (.head _)))
  rw [item, lookup_of_emitted h hp hf, Option.getD_some, hc]

/-! ## Non-interference -/

/-- **Runtime evidence never authorises routing.** Two evaluations of one profile agree on
authorisation and scope; a report is authorised only for a known profile with its SDK and scope; and
behind the probe only on a committed build. -/
theorem routing_authorised_by_profile (u : UnicodeDigits) :
    (∀ (profile : Properties) (router₁ topology₁ router₂ topology₂ : Option Properties)
        (report₁ report₂ : Report), evaluate u profile router₁ topology₁ = .ok report₁ →
      evaluate u profile router₂ topology₂ = .ok report₂ →
        report₁.routingAuthorized = report₂.routingAuthorized ∧
          report₁.recommendedRouteScope = report₂.recommendedRouteScope) ∧
    (∀ (profile : Properties) (router topology : Option Properties) (report : Report),
      evaluate u profile router topology = .ok report →
      report.routingAuthorized = "true" →
        ∃ sdk scope, (item profile "profile_id", sdk, scope) ∈ knownExactProfiles ∧
          item profile "sdk" = sdk ∧ report.recommendedRouteScope = scope) ∧
    (∀ (path : Text) (probe : Probe) (profile : Properties)
        (router topology : Option Properties) (report : Report),
      readProperties path (emitProfile probe) = .ok profile →
      evaluate u profile router topology = .ok report →
      report.routingAuthorized = "true" → CommittedBuild probe) := by
  refine ⟨?_, ?_, ?_⟩
  · intro profile router₁ topology₁ router₂ topology₂ report₁ report₂ h₁ h₂
    obtain ⟨ha₁, hs₁⟩ := evaluate_authorisation h₁
    obtain ⟨ha₂, hs₂⟩ := evaluate_authorisation h₂
    exact ⟨ha₁.trans ha₂.symm, hs₁.trans hs₂.symm⟩
  · intro profile router topology report h ht
    obtain ⟨ha, hsc⟩ := evaluate_authorisation h
    rw [hsc]
    exact exactProfile_known ((authorisation_eq_true_iff profile).mp (ha ▸ ht))
  · intro path probe profile router topology report hr h ht
    have he := (authorisation_eq_true_iff profile).mp ((evaluate_authorisation h).1 ▸ ht)
    have hs : item profile "profile_status" = "qualified" := exactProfile_status he
    rw [item_profile_status hr] at hs
    exact (decideProfile_qualified_iff probe).mp hs

/-! ## A committed build -/

theorem profileKeys_spec (probe : Probe) (p : ProfileDecision)
    (c : CandidateDecision) :
    ((DeviceProbe.profileFields probe p c).map Prod.fst).Nodup ∧
      (∀ key ∈ (DeviceProbe.profileFields probe p c).map Prod.fst,
        key ≠ [] ∧ key.head? ≠ some '#' ∧ '=' ∉ key ∧ Graphic key) ∧
      ∀ key ∈ CapabilityEvaluator.profileFields,
        key ∈ (DeviceProbe.profileFields probe p c).map Prod.fst := by
  unfold DeviceProbe.profileFields buildFields libraryFields decisionFields serviceFields
    CapabilityEvaluator.profileFields
  simp only [-String.reduceToList, map_cons, map_nil, cons_append, nil_append]
  repeat rw [String.toList_ofList]
  decide +kernel

theorem cleanValue_of_graphic {value : Text} (h : Graphic value) : cleanValue value = value := by
  refine (map_congr_left fun c hc => ?_).trans (map_id value)
  refine if_neg ?_
  rintro (rfl | rfl | rfl) <;> exact absurd (h _ hc).1 (by decide)

/-- What the probe emits is read back when its values have no blanks. -/
theorem readProperties_emitProfile (path : Text) {p : ProfileDecision}
    {c : CandidateDecision} (hp : decideProfile probe = p)
    (hc : decideCandidate probe p = c)
    (hv : ∀ field ∈ DeviceProbe.profileFields probe p c, Graphic field.2) :
    ∃ v, readProperties path (emitProfile probe) = .ok v ∧
      ∀ field ∈ DeviceProbe.profileFields probe p c,
        v.lookup field.1 = some field.2 := by
  obtain ⟨hn, hk, -⟩ := profileKeys_spec probe p c
  have hpl : ∀ field ∈ DeviceProbe.profileFields probe p c, PlainField field := by
    intro field hf
    obtain ⟨hne, hh, hcut, hg⟩ := hk field.1 (mem_map_of_mem hf)
    exact ⟨hne, hh, hcut, hg.plain, (hv field hf).plain⟩
  have he : emitProfile probe = ((DeviceProbe.profileFields probe p c).map
      fieldLine).flatMap fun line => line ++ ['\n'] := by
    rw [emitProfile, hp, hc]
    congr 1
    refine map_congr_left fun field hf => ?_
    rw [fieldText, cleanValue_of_graphic (hv field hf)]
  rw [he]
  obtain ⟨v, hr, hfi, -⟩ := readProperties_fields path hpl hn
  exact ⟨v, hr, hfi⟩

/-- A phone with the committed fingerprint and libraries of the NX769J profile. -/
def nx769jProbe : Probe :=
  { fingerprint := nx769jFingerprint, sdk := "34",
    cameraserviceHash := nx769jCameraserviceHash, cameraClientHash := nx769jCameraClientHash }

def nx769jProfile : ProfileDecision where
  profileId := "nx769j-ukq1-20240417"
  profileStatus := "qualified"
  profileReason := "exact_fingerprint_and_camera_abi"
  profileAdapter := "nx769j-aidl-router"
  profileRouteScope := "per_app"
  profileVirtualCameraIds := "1000,1001"

def nx769jCandidate : CandidateDecision where
  platformFamily := "exact-device-profile"
  platformCandidateStatus := "qualified"
  platformCandidateReason := "exact_profile_and_camera_abi_verified"
  recommendedRouteScope := "per_app"
  activationPolicy := "exact_profile"
  routingAuthorized := "true"
  qualificationBasis := "committed_recipe"

theorem decideProfile_nx769jProbe : decideProfile nx769jProbe = nx769jProfile := by
  have ho : nx769jFingerprint ≠ oneplus7ProFingerprint ∧
      "OnePlus/OnePlus7Pro_CH/OnePlus7Pro:12/".toList.isPrefixOf nx769jFingerprint = false := by
    unfold nx769jFingerprint oneplus7ProFingerprint
    repeat rw [String.toList_ofList]
    decide +kernel
  have hf : nx769jProbe.fingerprint = nx769jFingerprint := rfl
  have hm : nx769jRecipeMatches nx769jProbe = true := by
    simp [nx769jRecipeMatches, nx769jProbe]
  rw [decideProfile, hf, if_neg ho.1, ho.2, if_neg Bool.false_ne_true, if_pos rfl,
    nx769jDecision, if_pos hm]
  rfl

theorem adapter_nx769jProfile :
    nx769jProfile.profileAdapter ≠ "oneplus7pro-oem-hal" := by
  dsimp only [nx769jProfile]
  repeat rw [String.toList_ofList]
  decide +kernel

theorem graphic_nx769jProbe :
    ∀ field ∈ DeviceProbe.profileFields nx769jProbe nx769jProfile nx769jCandidate,
      Graphic field.2 := by
  have hq : nx769jProfile.profileStatus = "qualified" := rfl
  have hn : orNone [] = "none" := rfl
  unfold DeviceProbe.profileFields buildFields libraryFields decisionFields serviceFields
  simp only [-String.reduceToList, if_neg adapter_nx769jProfile, if_pos hq]
  dsimp only [nx769jProbe, nx769jProfile, nx769jCandidate, -String.reduceToList]
  rw [hn]
  unfold nx769jFingerprint nx769jCameraserviceHash nx769jCameraClientHash proxySlotPath
  repeat rw [String.toList_ofList]
  decide +kernel

theorem evaluate_of_exactProfile (u : UnicodeDigits)
    (hr : require profile CapabilityEvaluator.profileFields "device profile" = .ok ())
    (hs : item profile "schema_version" = "7") (he : exactProfile profile = true)
    (r t : Option Properties) :
    ∃ report, evaluate u profile r t = .ok report ∧
      report.routingAuthorized = "true" := by
  rw [evaluate, hr]
  dsimp only
  rw [if_neg (not_not_intro hs), evaluateProfile, if_pos he]
  exact ⟨_, rfl, rfl⟩

theorem exactProfile_of_nx769j
    (hv : ∀ field ∈ DeviceProbe.profileFields nx769jProbe nx769jProfile nx769jCandidate,
      profile.lookup field.1 = some field.2) :
    item profile "schema_version" = "7" ∧ exactProfile profile = true := by
  have hi : ∀ (key : String) (value : Text),
      (key.toList, value) ∈ DeviceProbe.profileFields nx769jProbe nx769jProfile nx769jCandidate →
        item profile key = value := by
    intro key value hmem
    rw [item, hv _ hmem, Option.getD_some]
  have hid := hi "profile_id" _ (mem_iff_getElem?.mpr ⟨46, rfl⟩)
  have hl : knownExactProfiles.lookup "nx769j-ukq1-20240417".toList =
      some ("34".toList, "per_app".toList) := by
    unfold knownExactProfiles
    repeat rw [String.toList_ofList]
    decide +kernel
  refine ⟨hi _ _ (mem_iff_getElem?.mpr ⟨0, rfl⟩), ?_⟩
  rw [exactProfile, hid, show nx769jProfile.profileId = "nx769j-ukq1-20240417" from rfl,
    hl]
  simp only [Bool.and_eq_true, beq_iff_eq]
  exact ⟨⟨⟨⟨⟨⟨hi _ _ (mem_iff_getElem?.mpr ⟨47, rfl⟩),
    hi _ _ (mem_iff_getElem?.mpr ⟨53, rfl⟩)⟩,
    hi _ _ (mem_iff_getElem?.mpr ⟨56, rfl⟩)⟩,
    hi _ _ (mem_iff_getElem?.mpr ⟨57, rfl⟩)⟩,
    hi _ _ (mem_iff_getElem?.mpr ⟨58, rfl⟩)⟩,
    hi _ _ (mem_iff_getElem?.mpr ⟨1, rfl⟩)⟩,
    hi _ _ (mem_iff_getElem?.mpr ⟨55, rfl⟩)⟩

/-- It is authorised without any evidence, for the SDK and the scope of its profile. -/
theorem nx769jProbe_authorised :
    CommittedBuild nx769jProbe ∧ ∃ profile without report,
      readProperties "profile" (emitProfile nx769jProbe) = .ok profile ∧
      evaluate asciiDigits profile none none = .ok without ∧
      evaluate asciiDigits profile (some ∅) (some ∅) = .ok report ∧
      without.routingAuthorized = "true" ∧
      without.recommendedRouteScope = report.recommendedRouteScope ∧
      ∃ sdk scope, (item profile "profile_id", sdk, scope) ∈ knownExactProfiles ∧
        item profile "sdk" = sdk ∧ without.recommendedRouteScope = scope := by
  have hca : decideCandidate nx769jProbe nx769jProfile = nx769jCandidate := by
    have hq : nx769jProfile.profileStatus = "qualified" := rfl
    rw [decideCandidate, if_pos hq]
    rfl
  obtain ⟨profile, hrd, hv⟩ := readProperties_emitProfile "profile"
    decideProfile_nx769jProbe hca graphic_nx769jProbe
  have hr : require profile CapabilityEvaluator.profileFields "device profile" =
      .ok () := by
    rw [require, if_pos]
    refine filter_eq_nil_iff.mpr fun key hkey => ?_
    obtain ⟨field, hf, rfl⟩ := mem_map.mp
      ((profileKeys_spec nx769jProbe nx769jProfile nx769jCandidate).2.2 key hkey)
    have hmem : field.1 ∈ profile :=
      AList.lookup_isSome.mp (by rw [hv field hf, Option.isSome_some])
    simpa using hmem
  obtain ⟨hs, he⟩ := exactProfile_of_nx769j hv
  obtain ⟨without, hw, ht⟩ :=
    evaluate_of_exactProfile asciiDigits hr hs he none none
  obtain ⟨report, hre, -⟩ :=
    evaluate_of_exactProfile asciiDigits hr hs he (some ∅) (some ∅)
  obtain ⟨hsa, hk, hc⟩ := routing_authorised_by_profile asciiDigits
  exact ⟨hc _ _ _ _ _ _ hrd hw ht, profile, without, report, hrd, hw,
    hre, ht, (hsa _ _ _ _ _ _ _ hw hre).2, hk _ _ _ _ hw ht⟩

end Authorisation

end Vcam
