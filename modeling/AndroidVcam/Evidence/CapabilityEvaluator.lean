import AndroidVcam.Lib.PyText

/-!
# The capability evaluator

`tools/evaluate-aosp14-capability.py`: the probe evidence of a device, read from `key=value` files,
is turned into a report. A dictionary is an `AList`; a `ValueError` is its message.

* `readProperties`, with **`readProperties_fields`**: the fields of a file written as whole lines;
* `evaluate` and its stages `evaluateRouter`, `evaluateProtocol`, `evaluateTopology`.
-/

namespace Vcam

open TextFile PyText List

namespace CapabilityEvaluator

/-- A `Dict[str, str]`. -/
abbrev Properties := AList fun _ : Text => Text

/-- `f"{path}:{number}: "` with a message behind it. -/
def lineError (path : Text) (number : ℕ) (message : Text) : Text :=
  path ++ ":" ++ decimal number ++ ": " ++ message

/-- The body of the loop of `read_properties`. -/
def readLine (path : Text) (values : Properties) (number : ℕ) (raw : Text) :
    Except Text Properties :=
  let line := strip raw
  if line = [] ∨ line.head? = some '#' then .ok values
  else match splitFirst '=' line with
    | none => .error (lineError path number "expected key=value")
    | some (key, value) =>
      if key = [] ∨ key ∈ values then
        .error (lineError path number "invalid or duplicate key")
      else .ok (values.insert key value)

def readLines (path : Text) (values : Properties) (number : ℕ) :
    List Text → Except Text Properties
  | [] => .ok values
  | raw :: lines =>
    match readLine path values number raw with
    | .error message => .error message
    | .ok values => readLines path values (number + 1) lines

/-- `read_properties` on the decoded text of the file. -/
def readProperties (path text : Text) : Except Text Properties :=
  readLines path ∅ 1 (splitlines (readText text))

/-! ## Files of whole lines -/

/-- A field that `read_properties` takes as it is written. -/
structure PlainField (field : Text × Text) : Prop where
  key_ne_nil : field.1 ≠ []
  key_head : field.1.head? ≠ some '#'
  key_cut : '=' ∉ field.1
  plain_key : Plain field.1
  plain_value : Plain field.2

theorem PlainField.plain_fieldLine {f : Text × Text} (h : PlainField f) :
    Plain (fieldLine f) := by
  intro c hc
  rcases mem_append.mp hc with hc | hc
  · exact h.plain_key c hc
  rcases mem_cons.mp hc with rfl | hc
  · decide
  · exact h.plain_value c hc

theorem readLine_fieldLine {f : Text × Text} (h : PlainField f) (path : Text)
    (v : Properties) (n : ℕ) :
    readLine path v n (fieldLine f) =
      if f.1 ∈ v then .error (lineError path n "invalid or duplicate key")
      else .ok (v.insert f.1 f.2) := by
  have hh : (fieldLine f).head? = f.1.head? := by
    obtain ⟨c, cs, hcs⟩ := exists_cons_of_ne_nil h.key_ne_nil
    rw [fieldLine, hcs]
    rfl
  have hgo : ¬(fieldLine f = [] ∨ (fieldLine f).head? = some '#') := by
    rintro (e | e)
    · simp [fieldLine] at e
    · exact h.key_head (hh ▸ e)
  simp only [readLine, strip_of_plain h.plain_fieldLine]
  rw [if_neg hgo, fieldLine, splitFirst_append h.key_cut]
  exact if_congr (or_iff_right h.key_ne_nil) rfl rfl

theorem readLines_fieldLines (path : Text) {fi : List (Text × Text)}
    (hp : ∀ field ∈ fi, PlainField field) (hn : (fi.map Prod.fst).Nodup)
    {v : Properties} (hnew : ∀ field ∈ fi, field.1 ∉ v) (n : ℕ) :
    ∃ result, readLines path v n (fi.map fieldLine) = .ok result ∧
      (∀ field ∈ fi, result.lookup field.1 = some field.2) ∧
      ∀ key ∉ fi.map Prod.fst, result.lookup key = v.lookup key := by
  induction fi generalizing v n with
  | nil => exact ⟨v, rfl, fun _ h => absurd h not_mem_nil, fun _ _ => rfl⟩
  | cons field fi ih =>
    obtain ⟨hfi, hr⟩ := nodup_cons.mp hn
    have ho : ∀ f ∈ fi, f.1 ≠ field.1 := fun f hf e =>
      hfi (e ▸ mem_map_of_mem hf)
    have hl := readLine_fieldLine (hp field mem_cons_self) path v n
    rw [if_neg (hnew field mem_cons_self)] at hl
    have hfr : ∀ f ∈ fi, f.1 ∉ v.insert field.1 field.2 := fun f hf => by
      rw [AList.mem_insert]
      exact not_or.mpr ⟨ho f hf, hnew f (mem_cons_of_mem _ hf)⟩
    obtain ⟨result, hre, hfl, hk⟩ :=
      ih (fun f hf => hp f (mem_cons_of_mem _ hf)) hr hfr (n + 1)
    refine ⟨result, ?_, ?_, ?_⟩
    · rw [map_cons, readLines, hl]
      exact hre
    · intro f hf
      rcases mem_cons.mp hf with rfl | hf
      · rw [hk f.1 hfi, AList.lookup_insert]
      · exact hfl f hf
    · intro key hkey
      obtain ⟨hne, hkey⟩ := not_or.mp (fun h => hkey (mem_cons.mpr h))
      rw [hk key hkey, AList.lookup_insert_ne hne]

/-- **A file of whole lines is read as its fields.** -/
theorem readProperties_fields (path : Text) {f : List (Text × Text)}
    (hp : ∀ field ∈ f, PlainField field) (hn : (f.map Prod.fst).Nodup) :
    ∃ values, readProperties path ((f.map fieldLine).flatMap fun line => line ++ ['\n']) =
        .ok values ∧
      (∀ field ∈ f, values.lookup field.1 = some field.2) ∧
      ∀ key ∉ f.map Prod.fst, values.lookup key = none := by
  have hl : ∀ line ∈ f.map fieldLine, ∀ c ∈ line, isLineBreak c = false := by
    intro line hli c hc
    obtain ⟨field, hf, rfl⟩ := mem_map.mp hli
    exact isLineBreak_of_plain ((hp field hf).plain_fieldLine c hc)
  obtain ⟨values, hr, hv, hk⟩ := readLines_fieldLines path hp hn
    (fun field _ => AList.notMem_empty field.1) 1
  refine ⟨values, ?_, hv, fun key hkey => ?_⟩
  · rw [readProperties, splitlines_lines _ hl]
    exact hr
  · rw [hk key hkey, AList.lookup_empty]

/-! ## The evaluation -/

/-- `values[key]` for a key that `require` has found. -/
def item (values : Properties) (key : String) : Text := (values.lookup key.toList).getD []

def require (values : Properties) (keys : List Text) (source : Text) : Except Text Unit :=
  let missing := keys.filter fun key => decide (key ∉ values)
  if missing = [] then .ok ()
  else .error (source ++ ": missing " ++ [','].intercalate missing)

def maxMask : ℤ := 0xFFFFFFFFFFFFFFFF

def parseMask (u : UnicodeDigits) (value key : Text) : Except Text ℕ :=
  match intBase0 u value with
  | none => .error ("router stats: invalid " ++ key)
  | some parsed =>
    if parsed < 0 ∨ maxMask < parsed then .error ("router stats: out-of-range " ++ key)
    else .ok parsed.toNat

/-- The report, in the order of `emit`. -/
structure Report where
  schemaVersion : Text
  profileId : Text
  profileStatus : Text
  platformFamily : Text
  staticStatus : Text
  protocolStatus : Text
  topologyStatus : Text
  evidenceStatus : Text
  recommendedRouteScope : Text
  activationPolicy : Text
  routingAuthorized : Text
  reason : Text
  remainingChecks : Text
  providerTransport : Text
  providerInstances : Text
  declaredProviderInstances : Text
  vcamInstanceConflict : Text
  oemVirtualProviderPresent : Text
  cameraserverArch : Text
  cameraserverBits : Text
  cameraServiceTransport : Text
  oplusLayout : Text
  oplusPartitions : Text
deriving DecidableEq

def profileFields : List Text :=
  ["schema_version", "sdk", "profile_id", "profile_status",
    "platform_family", "platform_candidate_status",
    "platform_candidate_reason", "recommended_route_scope",
    "activation_policy", "routing_authorized", "qualification_basis",
    "candidate_requirements", "provider_transport", "provider_instances",
    "declared_provider_instances", "vcam_instance_conflict",
    "oem_virtual_provider_present", "cameraserver_arch", "cameraserver_bits",
    "camera_service_transport", "oplus_layout", "oplus_partitions"]

def routerFields : List Text :=
  ["state", "protocol_verdict", "protocol_required_mask",
    "protocol_seen_mask", "protocol_valid_mask", "protocol_invalid_mask",
    "protocol_unsupported_mask"]

def topologyFields : List Text :=
  ["schema", "back_camera2_id", "back_camera1_index",
    "front_camera2_id", "front_camera1_index", "internal_back_camera1_index",
    "internal_front_camera1_index"]

def knownExactProfiles : List (Text × Text × Text) :=
  [("oneplus7pro-p202303230244", "31", "per_app"),
    ("nx769j-ukq1-20240417", "34", "per_app")]

def initialReport (profile : Properties) : Report where
  schemaVersion := "1"
  profileId := item profile "profile_id"
  profileStatus := item profile "profile_status"
  platformFamily := item profile "platform_family"
  staticStatus := item profile "platform_candidate_status"
  protocolStatus := "not_run"
  topologyStatus := "not_checked"
  evidenceStatus := "blocked"
  recommendedRouteScope := item profile "recommended_route_scope"
  activationPolicy := "blocked"
  routingAuthorized := "false"
  reason := item profile "platform_candidate_reason"
  remainingChecks := item profile "candidate_requirements"
  providerTransport := item profile "provider_transport"
  providerInstances := item profile "provider_instances"
  declaredProviderInstances := item profile "declared_provider_instances"
  vcamInstanceConflict := item profile "vcam_instance_conflict"
  oemVirtualProviderPresent := item profile "oem_virtual_provider_present"
  cameraserverArch := item profile "cameraserver_arch"
  cameraserverBits := item profile "cameraserver_bits"
  cameraServiceTransport := item profile "camera_service_transport"
  oplusLayout := item profile "oplus_layout"
  oplusPartitions := item profile "oplus_partitions"

def exactProfile (profile : Properties) : Bool :=
  match knownExactProfiles.lookup (item profile "profile_id") with
  | none => false
  | some (sdk, scope) =>
    item profile "profile_status" == "qualified" &&
    item profile "platform_candidate_status" == "qualified" &&
    item profile "activation_policy" == "exact_profile" &&
    item profile "routing_authorized" == "true" &&
    item profile "qualification_basis" == "committed_recipe" &&
    item profile "sdk" == sdk &&
    item profile "recommended_route_scope" == scope

def topologyValid (u : UnicodeDigits) (topology : Properties) : Bool :=
  item topology "schema" == "1" &&
  !(item topology "back_camera2_id" == [] || item topology "back_camera2_id" == "none") &&
  (u.isdigit (item topology "back_camera1_index") &&
    u.isdigit (item topology "internal_back_camera1_index") &&
    u.isdigit (item topology "internal_front_camera1_index")) &&
  item topology "internal_back_camera1_index" != item topology "internal_front_camera1_index" &&
  (item topology "front_camera1_index" == "none" ||
    u.isdigit (item topology "front_camera1_index")) &&
  ((item topology "front_camera2_id" == "none") ==
    (item topology "front_camera1_index" == "none"))

/-- `evaluate` behind a validated protocol. -/
def evaluateTopology (u : UnicodeDigits) (report : Report) :
    Option Properties → Except Text Report
  | none => .ok report
  | some topology =>
    match require topology topologyFields "topology" with
    | .error message => .error message
    | .ok () =>
      if !topologyValid u topology then
        .ok { report with
          topologyStatus := "rejected"
          evidenceStatus := "rejected"
          reason := "invalid_camera_topology" }
      else
        .ok { report with
          topologyStatus := "validated"
          evidenceStatus := "manual_review_required"
          activationPolicy := "manual_promotion_required"
          routingAuthorized := "false"
          reason := "runtime_evidence_cannot_self_authorize"
          remainingChecks := "global_preview,reboot_recovery,reviewed_recipe" }

/-- `masks` in the order in which the fields are parsed. -/
structure Masks where
  required : ℕ
  seen : ℕ
  valid : ℕ
  invalid : ℕ
  unsupported : ℕ

def routerMask (u : UnicodeDigits) (router : Properties) (key : String) : Except Text ℕ :=
  parseMask u (item router key) key.toList

def parseMasks (u : UnicodeDigits) (router : Properties) : Except Text Masks := do
  let required ← routerMask u router "protocol_required_mask"
  let seen ← routerMask u router "protocol_seen_mask"
  let valid ← routerMask u router "protocol_valid_mask"
  let invalid ← routerMask u router "protocol_invalid_mask"
  let unsupported ← routerMask u router "protocol_unsupported_mask"
  return ⟨required, seen, valid, invalid, unsupported⟩

def protocolValid (protocolVerdict : Text) (masks : Masks) : Bool :=
  masks.required != 0 &&
  protocolVerdict == "probe_compatible" &&
  masks.seen &&& masks.required == masks.required &&
  masks.valid &&& masks.required == masks.required &&
  masks.invalid &&& masks.required == 0 &&
  masks.unsupported &&& masks.required == 0

def protocolRejected (report : Report) (reason : Text) : Report :=
  { report with
    protocolStatus := "rejected"
    evidenceStatus := "rejected"
    reason := reason }

def protocolCompatible (report : Report) : Report :=
  { report with
    protocolStatus := "probe_compatible"
    evidenceStatus := "topology_required"
    reason := "validated_topology_required" }

/-- `evaluate` behind the check of the router state. -/
def evaluateProtocol (u : UnicodeDigits) (report : Report) (router : Properties)
    (topology : Option Properties) : Except Text Report :=
  match parseMasks u router with
  | .error message => .error message
  | .ok masks =>
    if !protocolValid (item router "protocol_verdict") masks then
      .ok (protocolRejected report "required_protocol_roles_not_validated")
    else evaluateTopology u (protocolCompatible report) topology

/-- `evaluate` behind the checks of the profile. -/
def evaluateRouter (u : UnicodeDigits) (report : Report) (router topology : Option Properties) :
    Except Text Report :=
  match router with
  | none => .ok report
  | some router =>
    match require router routerFields "router stats" with
    | .error message => .error message
    | .ok () =>
      if item router "state" ≠ "pass_through_ready" then
        .ok (protocolRejected report "generic_probe_must_remain_pass_through")
      else evaluateProtocol u report router topology

/-- `evaluate` for a profile that has its fields. -/
def evaluateProfile (u : UnicodeDigits) (profile : Properties)
    (router topology : Option Properties) : Except Text Report :=
  let report := initialReport profile
  if exactProfile profile then
    .ok { report with
      evidenceStatus := "exact_profile"
      activationPolicy := "exact_profile"
      routingAuthorized := "true"
      reason := "committed_recipe_verified"
      remainingChecks := "none" }
  else if item profile "sdk" ≠ "34" ∨
      item profile "platform_candidate_status" ≠ "probe_required" then
    .ok report
  else if item profile "vcam_instance_conflict" ≠ "false" then
    .ok { report with
      evidenceStatus := "rejected"
      reason := "vcam_provider_instance_already_registered" }
  else if item profile "cameraserver_arch" ≠ "arm64" ∧
      item profile "cameraserver_arch" ≠ "x86_64" then
    .ok { report with
      evidenceStatus := "rejected"
      reason := "unsupported_runtime_abi" }
  else
    evaluateRouter u { report with
      evidenceStatus := "probe_required"
      activationPolicy := "probe_only"
      routingAuthorized := "false"
      reason := "runtime_protocol_evidence_required" } router topology

def evaluate (u : UnicodeDigits) (profile : Properties) (router topology : Option Properties) :
    Except Text Report :=
  match require profile profileFields "device profile" with
  | .error message => .error message
  | .ok () =>
    if item profile "schema_version" ≠ "7" then
      .error "device profile: schema_version 7 required"
    else evaluateProfile u profile router topology

end CapabilityEvaluator

end Vcam
