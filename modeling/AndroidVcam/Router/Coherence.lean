import AndroidVcam.Router.Attribution

/-!
# Coherence of the requests of one application

An application asks for one camera through several transactions: it opens the camera, reads its
characteristics and drives its torch. The router decodes and attributes these requests in different
ways; for a UID with one package of at most 255 characters they all get the same camera.

* `gives_requestVerdict`: every request of the application gets this verdict;
* **`coherent_of_onePackage`**: all requests for one camera are refused or forwarded alike.
-/

namespace Vcam

open TextFile Wire ScopedCameraRouter

variable {β ι : Type} {P : Platform β ι} {env : RouterEnv β} {req : Request β}

/-- The original service gets this camera, or no request at all. -/
def Outcome.Gives (W : ParcelFormat β ι) (shape : BinderPayloadShape) :
    Option CameraName → Outcome β → Prop
  | none, o => o.Refused
  | some name, o => ∃ out reply, o = .forwarded out reply ∧
      cameraField W shape out.cells = some name

/-! ## The verdict on a routed request -/

instance (shape : BinderPayloadShape) (text : Text) : Decidable (Replaceable shape text) :=
  inferInstanceAs (Decidable (_ ∧ (_ → _)))

def routedVerdict (fs : FileSystem) (shape : BinderPayloadShape) (requested : Text) :
    RoutingDemand → Option CameraName
  | .unchanged => some (nameOfText shape requested)
  | .missing => none
  | .camera cameraId =>
    let text := wireText fs shape cameraId
    if cameraId = requested then some (nameOfText shape requested)
    else if shape.integerId = true ∧ text = [] then none
    else if Replaceable shape text then some (nameOfText shape (cStr text))
    else some (nameOfText shape requested)

/-- A routed request gets the verdict of the route table. -/
theorem Routed.gives_routedVerdict (h : Routed P env req) (hops : env.writes.Succeed) :
    (onTransact P env req).outcome.Gives P.format (req.shape env)
      (routedVerdict env.fs (req.shape env) (observation P env req).cameraId
        (demand P env req)) := by
  have hk : (Outcome.forwarded req.data .unchanged).Gives P.format (req.shape env)
      (some (nameOfText (req.shape env) (observation P env req).cameraId)) :=
    ⟨req.data, .unchanged, rfl, h.cameraField_data⟩
  rw [h.outcome_eq]
  cases demand P env req with
  | unchanged => exact hk
  | missing => exact refused_rejectCameraRequest _
  | camera cameraId =>
    dsimp only [routedVerdict]
    by_cases he : cameraId = (observation P env req).cameraId
    · rw [if_pos he, if_pos he]
      exact hk
    rw [if_neg he, if_neg he, forwardReplaced_eq, observation_shape]
    split_ifs with hc hr
    · exact refused_rejectCameraRequest _
    · exact h.rewriteAndForward_of_replaceable hops hr
    · rw [rewriteAndForward_of_not_replaceable hr]
      exact hk

/-! ## The verdict on a camera -/

def kindShape (integer : Bool) : BinderPayloadShape :=
  if integer then .integerCameraId else .stringCameraId

theorem routedVerdict_kindShape (fs : FileSystem) (s : BinderPayloadShape) :
    routedVerdict fs s = routedVerdict fs (kindShape s.integerId) := by
  cases s <;> rfl

/-- An observation of a camera with no more than its text and kind. -/
def bareObservation (integer : Bool) (cameraId : Text) : ParcelObservation :=
  { transaction := ⟨0, [], kindShape integer, true, false⟩, cameraId := cameraId }

theorem routingDemand_bare (obs : ParcelObservation) (fs : FileSystem) (package : Text) :
    routingDemand obs fs package =
      routingDemand (bareObservation obs.transaction.payloadShape.integerId obs.cameraId) fs
        package := by
  have hs : requestSlot obs fs =
      requestSlot (bareObservation obs.transaction.payloadShape.integerId obs.cameraId) fs := by
    unfold requestSlot bareObservation targetMapFor kindShape
    dsimp only
    cases obs.transaction.payloadShape.integerId <;> rfl
  unfold routingDemand requestSelection
  rw [hs]

/-- What becomes of the requests of an application for one camera. -/
def requestVerdict (physical : Bool) (fs : FileSystem) (integer : Bool) (package : Text)
    (name : CameraName) : Option CameraName :=
  if physical = false ∨ name.observable = false then some name
  else if isInternalCameraId name.text = true then none
  else if routingPolicyActive fs = false then some name
  else if routingMapsReady fs = false then none
  else if name.text = [] then some name
  else routedVerdict fs (kindShape integer) name.text
    (routingDemand (bareObservation integer name.text) fs package)

/-! ## The requests of an application -/

def stringCameraRoles : List Text :=
  ["connect_device", "get_camera_characteristics", "supports_camera_api", "set_torch_mode",
    "turn_on_torch_with_strength", "get_torch_strength"].map String.toList

def integerCameraRoles : List Text := ["connect_api1", "get_legacy_parameters"].map String.toList

/-- A request of the application `package` with this UID for one camera; a request that opens the
camera claims the package or nothing. -/
structure ApplicationRequest (P : Platform β ι) (env : RouterEnv β) (roles : List Text) (uid : ℤ)
    (package : Text) (name : CameraName) (req : Request β) : Prop where
  role : (classifyBinderTransaction env.recipe req.code).role ∈ roles
  uid : req.callingUid = uid
  pid : 0 ≤ req.callingPid
  camera : cameraField P.format (req.shape env) req.data.cells = some name
  claim : (req.shape env).connect = true → ∃ claimed, (claimed = package ∨ claimed = []) ∧
    claimField P.format (req.shape env) req.data.cells = some (ascii16 claimed)

variable {code : ℕ} {recipe : AbiRecipe}

theorem classify_of_role {role : Text} (hne : role ≠ [])
    (h : (classifyBinderTransaction recipe code).role = role) :
    classifyBinderTransaction recipe code = classificationForRole code role := by
  rcases classify_eq recipe code with e | ⟨r, e⟩
  · rw [e] at h
    exact absurd h.symm hne
  · rw [e, classificationForRole_role] at h
    rw [e, h]

theorem shape_of_stringCameraRoles
    (h : (classifyBinderTransaction recipe code).role ∈ stringCameraRoles) :
    (classifyBinderTransaction recipe code).payloadShape.singleCamera = true ∧
      (classifyBinderTransaction recipe code).payloadShape.integerId = false := by
  have hall : ∀ role ∈ stringCameraRoles, role ≠ [] ∧
      (classificationForRole 0 role).payloadShape.singleCamera = true ∧
      (classificationForRole 0 role).payloadShape.integerId = false := by decide
  obtain ⟨hne, hs⟩ := hall _ h
  rw [classify_of_role hne rfl, classificationForRole_shape code 0]
  exact hs

theorem shape_of_integerCameraRoles
    (h : (classifyBinderTransaction recipe code).role ∈ integerCameraRoles) :
    (classifyBinderTransaction recipe code).payloadShape.singleCamera = true ∧
      (classifyBinderTransaction recipe code).payloadShape.integerId = true := by
  have hall : ∀ role ∈ integerCameraRoles, role ≠ [] ∧
      (classificationForRole 0 role).payloadShape.singleCamera = true ∧
      (classificationForRole 0 role).payloadShape.integerId = true := by decide
  obtain ⟨hne, hs⟩ := hall _ h
  rw [classify_of_role hne rfl, classificationForRole_shape code 0]
  exact hs

section OnePackage

variable {r : List Text} {uid : ℤ} {package : Text} {name : CameraName}
  (hascii : isAsciiText package) (hlen : package.length ≤ kMaxObservedStringLength)

include hascii hlen in
/-- What the router observes of a request of the application. -/
theorem ApplicationRequest.observation_eq (h : ApplicationRequest P env r uid package name req)
    (hsi : (req.shape env).singleCamera = true) :
    ((observation P env req).status = .observed ↔ name.observable = true) ∧
    (observation P env req).callingUid = uid ∧ 0 ≤ (observation P env req).callingPid ∧
    (name.observable = true → (observation P env req).cameraId = name.text ∧
      ((observation P env req).packageName = package ∨
        (observation P env req).packageName = [])) := by
  obtain ⟨claimed, hcl, hfl⟩ : ∃ claimed, (claimed = package ∨ claimed = []) ∧
      ((req.shape env).connect = true →
        claimField P.format (req.shape env) req.data.cells = some (ascii16 claimed)) := by
    by_cases hc : (req.shape env).connect = true
    · obtain ⟨claimed, hor, hf⟩ := h.claim hc
      exact ⟨claimed, hor, fun _ => hf⟩
    · exact ⟨[], .inr rfl, fun hc' => absurd hc' hc⟩
  have hca : isAsciiText claimed := by
    rcases hcl with rfl | rfl
    · exact hascii
    · intro c hc
      cases hc
  have hco : observableString (ascii16 claimed) = true := by
    refine observableString_ascii16 hca ?_
    rcases hcl with rfl | rfl
    · exact hlen
    · exact Nat.zero_le _
  obtain ⟨hst, huid, hpid, hfi⟩ := observe_of_fields
    (show (classifyBinderTransaction env.recipe req.code).payloadShape = req.shape env from rfl)
    hsi h.camera hfl observe_eq_observation
  have hst' : (observation P env req).status = .observed ↔ name.observable = true :=
    hst.trans ⟨fun hs => hs.1, fun hs => ⟨hs, fun _ => hco⟩⟩
  refine ⟨hst', huid.trans h.uid, by rw [hpid]; exact h.pid, fun hobs => ?_⟩
  obtain ⟨hid, hpkg⟩ := hfi (hst'.mpr hobs)
  refine ⟨hid, ?_⟩
  rw [map_asciiChar_ascii16 hca] at hpkg
  split_ifs at hpkg
  · rcases hcl with rfl | rfl
    · exact .inl hpkg
    · exact .inr hpkg
  · exact .inr hpkg

include hascii in
/-- The claimed and the unclaimed requests are attributed to the same package. -/
theorem verifiedPackage_of_onePackage (hnul : '\x00' ∉ package) (h : Routed P env req)
    (hone : env.packagesForUid (observation P env req).callingUid = [ascii16 package])
    (hpid : 0 ≤ (observation P env req).callingPid)
    (hpkg : (observation P env req).packageName = package ∨
      (observation P env req).packageName = []) :
    verifiedPackage P env req =
      if 0 ≤ (observation P env req).callingUid then package else [] := by
  have hs := cameraScoped_of_singleCamera h.single
  rw [← observation_transaction (P := P)] at hs
  rw [verifiedPackage_eq h.observed h.active]
  have hp : callerPackages P env req = [ascii16 package] := hone
  by_cases huid : 0 ≤ (observation P env req).callingUid
  · rw [if_pos huid]
    by_cases hc : (observation P env req).transaction.carriesPackageName = true ∧
        (observation P env req).packageName ≠ []
    · have hn : (observation P env req).packageName = package :=
        hpkg.resolve_right hc.2
      rw [(callerKind_eq_claimed_iff hs).mpr ⟨⟨huid, hpid⟩, hc⟩, hn, hp,
        cStr_eq_self_iff.mpr hnul]
      exact if_pos (List.mem_singleton_self _)
    · rw [(callerKind_eq_uidOnly_iff hs).mpr ⟨⟨huid, hpid⟩, hc⟩, hp]
      change cStr (P.string8 (ascii16 package)) = package
      rw [P.string8_ascii hascii, cStr_eq_self_iff.mpr hnul]
  · have h₁ : callerKind (observation P env req) ≠ .claimedPackage :=
      fun hk => huid ((callerKind_eq_claimed_iff hs).mp hk).1.1
    have h₂ : callerKind (observation P env req) ≠ .uidOnly :=
      fun hk => huid ((callerKind_eq_uidOnly_iff hs).mp hk).1.1
    rw [if_neg huid]
    cases hk : callerKind (observation P env req) with
    | notApplicable => rfl
    | unavailable => rfl
    | claimedPackage => exact absurd hk h₁
    | uidOnly => exact absurd hk h₂

include hascii hlen in
/-- **Every request of the application for a camera gets the same verdict.** -/
theorem gives_requestVerdict (hnul : '\x00' ∉ package)
    (hone : env.packagesForUid uid = [ascii16 package]) (hops : env.writes.Succeed)
    (h : ApplicationRequest P env r uid package name req)
    (hsi : (req.shape env).singleCamera = true) {i : Bool}
    (hint : (req.shape env).integerId = i) :
    (onTransact P env req).outcome.Gives P.format (req.shape env)
      (requestVerdict env.physicalRoutingEnabled env.fs i
        (if 0 ≤ uid then package else []) name) := by
  have hk : (Outcome.forwarded req.data .unchanged).Gives P.format (req.shape env)
      (some name) := ⟨req.data, .unchanged, rfl, h.camera⟩
  cases hp : env.physicalRoutingEnabled with
  | false =>
    rw [outcome_passThrough hp]
    exact hk
  | true =>
    obtain ⟨hst, huid, hpid, hf⟩ := h.observation_eq hascii hlen hsi
    cases hobs : name.observable with
    | false =>
      have hno : (observation P env req).status ≠ .observed := fun hs => by
        rw [hst, hobs] at hs
        cases hs
      rw [outcome_single hp hsi, requestVerdict, if_pos (.inr hobs)]
      dsimp only
      rw [if_pos hno]
      exact hk
    | true =>
      obtain ⟨hid, hpkg⟩ := hf hobs
      have hst' := hst.mpr hobs
      unfold requestVerdict
      rw [if_neg (by simp [hobs])]
      by_cases hr : Routed P env req
      · have hpa := verifiedPackage_of_onePackage hascii hnul hr
          (by rw [huid]; exact hone) hpid hpkg
        have hg := hr.gives_routedVerdict hops
        have hext := hr.external
        have hn := hr.named
        rw [demand, routingDemand_bare, observation_shape, hint, hpa, huid, hid,
          routedVerdict_kindShape, hint] at hg
        rw [hid] at hext hn
        rw [if_neg (by rw [hext]; simp), if_neg (by rw [hr.active]; simp),
          if_neg (by rw [hr.ready]; simp), if_neg hn]
        exact hg
      · generalize (if 0 ≤ uid then package else []) = attributed
        rw [outcome_single hp hsi]
        dsimp only
        rw [if_neg (not_not.mpr hst'), hid]
        split_ifs with h₁ h₂ h₃ h₄
        · exact refused_rejectCameraRequest _
        · exact hk
        · exact refused_rejectCameraRequest _
        · exact hk
        · exact absurd ⟨hp, hsi, hst', by rw [hid]; simpa using h₁, by simpa using h₂,
            by simpa using h₃, by rw [hid]; exact h₄⟩ hr

end OnePackage

/-- **Coherence.** For a UID with one package of at most 255 characters, all requests for a
Camera2 ID are refused or forwarded with one ID, and likewise for a Camera1 index. -/
theorem coherent_of_onePackage (uid : ℤ) (package : Text) (hascii : isAsciiText package)
    (hnul : '\x00' ∉ package) (hlen : package.length ≤ kMaxObservedStringLength)
    (hone : env.packagesForUid uid = [ascii16 package]) (hops : env.writes.Succeed) :
    (∀ units, ∃ verdict, ∀ req,
      ApplicationRequest P env stringCameraRoles uid package (.id units) req →
        (onTransact P env req).outcome.Gives P.format (req.shape env) verdict) ∧
    (∀ index : ℕ, ∃ verdict, ∀ req,
      ApplicationRequest P env integerCameraRoles uid package (.index index) req →
        (onTransact P env req).outcome.Gives P.format (req.shape env) verdict) := by
  refine ⟨fun units => ⟨requestVerdict env.physicalRoutingEnabled env.fs false
    (if 0 ≤ uid then package else []) (.id units), fun req h => ?_⟩,
    fun index => ⟨requestVerdict env.physicalRoutingEnabled env.fs true
    (if 0 ≤ uid then package else []) (.index index), fun req h => ?_⟩⟩
  · obtain ⟨hs, hint⟩ := shape_of_stringCameraRoles h.role
    exact gives_requestVerdict hascii hlen hnul hone hops h hs hint
  · obtain ⟨hs, hint⟩ := shape_of_integerCameraRoles h.role
    exact gives_requestVerdict hascii hlen hnul hone hops h hs hint

/-- A client request with a claim of the package or of nothing is one of the application. -/
theorem applicationRequest_client {fs : FileSystem} {pf : ℤ → List (List Char16)}
    {r : List Text} {p c : Text} {name : CameraName} {s : BinderPayloadShape}
    (hs : (clientRequest code name (ascii16 c)).shape (androidEnv fs pf) =
      s)
    (hr : (classifyBinderTransaction (androidEnv fs pf).recipe code).role ∈ r)
    (hf : name.Fits androidFormat s) (hcl : c = p ∨ c = [])
    (hlen : c.length < 2 ^ 31 - 1) :
    ApplicationRequest androidPlatform (androidEnv fs pf) r 10001 p name
      (clientRequest code name (ascii16 c)) := by
  subst hs
  refine ⟨hr, rfl, show (0 : ℤ) ≤ 2000 by decide, cameraField_clientRequest rfl hf,
    fun hc => ?_⟩
  refine ⟨c, hcl, claimField_request trivial hf ?_ hc⟩
  change (ascii16 c).length < 2 ^ 31 - 1
  rw [ascii16, List.length_map]
  exact hlen

/-- Opening camera `0` and reading its characteristics get the same verdict. -/
theorem connect_characteristics_coherent :
    ∃ verdict,
      (onTransact androidPlatform onePackageEnv
        (clientRequest 4 (.id (ascii16 ['0'])) (ascii16 "com.a"))).outcome.Gives
          androidFormat .connectDevice verdict ∧
      (onTransact androidPlatform onePackageEnv
        (clientRequest 9 (.id (ascii16 ['0'])) (ascii16 []))).outcome.Gives
          androidFormat .stringCameraId verdict := by
  have hs₁ : (clientRequest 4 (.id (ascii16 ['0'])) (ascii16 "com.a")).shape
      onePackageEnv = .connectDevice := by decide
  have hs₂ : (clientRequest 9 (.id (ascii16 ['0'])) (ascii16 [])).shape
      onePackageEnv = .stringCameraId := by decide
  have hone : onePackageEnv.packagesForUid 10001 = [ascii16 "com.a"] := rfl
  have h := coherent_of_onePackage (P := androidPlatform) 10001 "com.a"
    (isAscii_iff.mp (by decide)).2.2 (by decide) (by decide) hone (succeed_androidEnv _ _)
  obtain ⟨verdict, hv⟩ := h.1 (ascii16 ['0'])
  refine ⟨verdict, ?_, ?_⟩
  · rw [← hs₁]
    exact hv _ (applicationRequest_client hs₁ (by decide)
      (fits_android ⟨rfl, by decide⟩) (.inl rfl) (by decide))
  · rw [← hs₂]
    exact hv _ (applicationRequest_client hs₂ (by decide)
      (fits_android ⟨rfl, by decide⟩) (.inr rfl) (by decide))

/-! ## A package that the observer does not take -/

def longPackage : Text := List.replicate 256 'a'

/-- A device without maps and routes, where every UID has the long package. -/
abbrev longPackageEnv : RouterEnv AndroidFormat.Cell :=
  androidEnv (.ofList []) fun _ => [ascii16 longPackage]

/-- **A package of 256 characters breaks coherence.** The claim does not decode, so the request to
open the internal camera is forwarded as it came; its characteristics are refused. -/
theorem longPackage_incoherent :
    isAsciiText longPackage ∧ '\x00' ∉ longPackage ∧
    ApplicationRequest androidPlatform longPackageEnv stringCameraRoles 10001 longPackage
      (.id (ascii16 kBackVirtualCameraId))
      (clientRequest 4 (.id (ascii16 kBackVirtualCameraId)) (ascii16 longPackage)) ∧
    ApplicationRequest androidPlatform longPackageEnv stringCameraRoles 10001 longPackage
      (.id (ascii16 kBackVirtualCameraId))
      (clientRequest 9 (.id (ascii16 kBackVirtualCameraId)) (ascii16 [])) ∧
    (onTransact androidPlatform longPackageEnv (clientRequest 4
      (.id (ascii16 kBackVirtualCameraId)) (ascii16 longPackage))).outcome =
        .forwarded (clientRequest 4 (.id (ascii16 kBackVirtualCameraId))
          (ascii16 longPackage)).data .unchanged ∧
    (onTransact androidPlatform longPackageEnv (clientRequest 9
      (.id (ascii16 kBackVirtualCameraId)) (ascii16 []))).outcome.Refused := by
  have hs₁ : (clientRequest 4 (.id (ascii16 kBackVirtualCameraId))
      (ascii16 longPackage)).shape longPackageEnv = .connectDevice := by decide
  have hs₂ : (clientRequest 9 (.id (ascii16 kBackVirtualCameraId)) (ascii16 [])).shape
      longPackageEnv = .stringCameraId := by decide
  have hlen : longPackage.length = 256 := List.length_replicate
  refine ⟨fun c hc => ?_, fun hm => ?_, ?_, ?_, ?_, ?_⟩
  · rw [List.eq_of_mem_replicate hc]
    decide
  · exact absurd (List.eq_of_mem_replicate hm) (by decide)
  · exact applicationRequest_client hs₁ (by decide) (fits_android ⟨rfl, by decide⟩)
      (.inl rfl) (by omega)
  · exact applicationRequest_client hs₂ (by decide) (fits_android ⟨rfl, by decide⟩)
      (.inr rfl) (by decide)
  · obtain ⟨hst, -⟩ := observation_clientRequest hs₁ rfl (fits_android ⟨rfl, by decide⟩)
      (by rw [ascii16, List.length_map]; omega) rfl
    rw [outcome_single rfl (by rw [hs₁]; rfl)]
    refine if_pos fun hs => ?_
    have hl := (observableString_iff.mp ((hst.mp hs).2 rfl)).1
    rw [ascii16, List.length_map, hlen] at hl
    exact absurd hl (by decide)
  · obtain ⟨hst, -, -, hf⟩ := observation_clientRequest hs₂ rfl
      (fits_android ⟨rfl, by decide⟩) (by decide) rfl
    have ho := hst.mpr ⟨by decide, by decide⟩
    rw [outcome_single rfl (by rw [hs₂]; rfl)]
    dsimp only
    rw [if_neg (not_not.mpr ho), if_pos (by rw [(hf ho).1]; decide)]
    exact refused_rejectCameraRequest _

end Vcam
