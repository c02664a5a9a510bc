import AndroidVcam.Router.Decision

/-!
# Package attribution

A route is resolved for the package that the router attributes to a request: the claimed package
when the caller's UID owns it, the only package of the UID when nothing is claimed, no package
otherwise. Claim and list are compared as `String16(packageName.c_str())`, but the claim is used
as a whole.

* `AttributionExact`: the attributed package is one that the UID owns;
* **`attributionExact_iff`**: attribution is exact unless a NUL cuts the compared text.
-/

namespace Vcam

open TextFile Wire ScopedCameraRouter

variable {β ι : Type} {P : Platform β ι} {env : RouterEnv β} {req : Request β}

/-- The kind of identity material of an observed request. -/
def callerKind (obs : ParcelObservation) : CameraCallerIdentityKind :=
  (classifyCameraCallerIdentity obs.transaction.cameraScoped obs.transaction.carriesPackageName
    obs.callingUid obs.callingPid obs.packageName).kind

def callerPackages (P : Platform β ι) (env : RouterEnv β) (req : Request β) :
    List (List Char16) := env.packagesForUid (observation P env req).callingUid

def onlyElement {α : Type} : List α → Option α
  | [a] => some a
  | _ => none

theorem onlyElement_eq_some_iff {α : Type} {l : List α} {a : α} :
    onlyElement l = some a ↔ l = [a] := by
  match l with
  | [] => simp [onlyElement]
  | [b] => simp [onlyElement]
  | b :: c :: l => simp [onlyElement]

/-- **The attributed package**, by the identity material of the caller. -/
theorem verifiedPackage_eq (hst : (observation P env req).status = .observed)
    (hact : routingPolicyActive env.fs = true) :
    verifiedPackage P env req =
      match callerKind (observation P env req) with
      | .claimedPackage =>
        if ascii16 (cStr (observation P env req).packageName) ∈ callerPackages P env req then
          (observation P env req).packageName else []
      | .uidOnly => ((onlyElement (callerPackages P env req)).map fun e => cStr (P.string8 e)).getD []
      | _ => [] := by
  unfold verifiedPackage attributePackage callerKind callerPackages
  dsimp only
  rw [hact]
  generalize observation P env req = obs at hst ⊢
  generalize (classifyCameraCallerIdentity _ _ _ _ _).kind = kind
  cases kind with
  | notApplicable => simp
  | unavailable => simp
  | claimedPackage =>
    simp only [hst, and_self, if_true]
    by_cases hnil : env.packagesForUid obs.callingUid = []
    · simp [hnil]
    · rw [if_neg hnil]
      split_ifs <;> rfl
  | uidOnly =>
    simp only [hst, reduceCtorEq, and_false, if_false, and_self, if_true]
    match env.packagesForUid obs.callingUid with
    | [] => rfl
    | [e] => rfl
    | e :: f :: l => rfl

section Kind

variable {obs : ParcelObservation}

theorem callerKind_eq_claimed_iff (hs : obs.transaction.cameraScoped = true) :
    callerKind obs = .claimedPackage ↔ (0 ≤ obs.callingUid ∧ 0 ≤ obs.callingPid) ∧
      obs.transaction.carriesPackageName = true ∧ obs.packageName ≠ [] := by
  unfold callerKind classifyCameraCallerIdentity
  rw [hs]
  split_ifs with h₁ h₂ h₃
  · cases h₁
  · constructor
    · intro h
      cases h
    · rintro ⟨h, -⟩
      omega
  · exact iff_of_true rfl ⟨by omega, h₃⟩
  · constructor
    · intro h
      cases h
    · rintro ⟨-, h⟩
      exact absurd h h₃

theorem callerKind_eq_uidOnly_iff (hs : obs.transaction.cameraScoped = true) :
    callerKind obs = .uidOnly ↔ (0 ≤ obs.callingUid ∧ 0 ≤ obs.callingPid) ∧
      ¬ (obs.transaction.carriesPackageName = true ∧ obs.packageName ≠ []) := by
  unfold callerKind classifyCameraCallerIdentity
  rw [hs]
  split_ifs with h₁ h₂ h₃
  · cases h₁
  · constructor
    · intro h
      cases h
    · rintro ⟨h, -⟩
      omega
  · constructor
    · intro h
      cases h
    · rintro ⟨-, h⟩
      exact absurd h₃ h
  · exact iff_of_true rfl ⟨by omega, h₃⟩

end Kind

/-! ## Exact attribution -/

/-- **What attribution is for.** A route is resolved for a package only if the caller owns exactly
this text, and for the only one if nothing is claimed; otherwise only `*` routes apply. -/
structure AttributionExact (P : Platform β ι) (env : RouterEnv β) (req : Request β) : Prop where
  owned : verifiedPackage P env req ≠ [] →
    ∃ e ∈ callerPackages P env req, P.string8 e = verifiedPackage P env req
  only : (observation P env req).packageName = [] → verifiedPackage P env req ≠ [] →
    ∃ e, callerPackages P env req = [e]
  unattributed : (callerPackages P env req = [] ∨
      ((observation P env req).packageName ≠ [] ∧
        ∀ e ∈ callerPackages P env req, P.string8 e ≠ (observation P env req).packageName) ∨
      ((observation P env req).packageName = [] ∧ 2 ≤ (callerPackages P env req).length)) →
    verifiedPackage P env req = []
  globalOnly : verifiedPackage P env req = [] →
    (routeFor (observation P env req) env.fs (verifiedPackage P env req)).matched ≠ .package

/-- The claim up to its first NUL is a package of the caller, the whole claim is not. -/
def TruncatedClaim (P : Platform β ι) (env : RouterEnv β) (req : Request β) : Prop :=
  callerKind (observation P env req) = .claimedPackage ∧
    ascii16 (cStr (observation P env req).packageName) ∈ callerPackages P env req ∧
    ∀ e ∈ callerPackages P env req, P.string8 e ≠ (observation P env req).packageName

/-- Nothing is claimed and the only package of the UID has a NUL behind its first character. -/
def TruncatedPackage (P : Platform β ι) (env : RouterEnv β) (req : Request β) : Prop :=
  callerKind (observation P env req) = .uidOnly ∧
    ∃ e, callerPackages P env req = [e] ∧ cStr (P.string8 e) ≠ [] ∧
      cStr (P.string8 e) ≠ P.string8 e

theorem matched_routeFor_nil (obs : ParcelObservation) (fs : FileSystem) :
    (routeFor obs fs []).matched ≠ .package := by
  by_cases ht : requestSlot obs fs < 0
  · have hr : routeFor obs fs [] =
        ⟨obs.cameraId, obs.cameraId, [], false, true, false, .none⟩ := resolve_of_neg ht
    rw [hr]
    simp
  · have hm : (requestSelection obs fs []).matched ≠ .package :=
      RouteResolver.resolve_empty_package fs _ _ _
    rw [routeFor_eq (not_lt.mp ht)]
    dsimp only
    split_ifs <;> exact hm

theorem carries_of_claim (hst : (observation P env req).status = .observed)
    (hs : (req.shape env).singleCamera = true)
    (h : (observation P env req).packageName ≠ []) :
    (observation P env req).transaction.carriesPackageName = true := by
  rw [observation_transaction, carriesPackageName_eq]
  by_contra hc
  apply h
  obtain ⟨payload, hp⟩ := exists_of_validHeader (validHeader_of_observed hst)
  have hc' : (classifyBinderTransaction env.recipe req.code).payloadShape.connect = false := by
    simpa using hc
  rw [observation, observe_single _ _ hs hp]
  dsimp only [decodePayload]
  rw [hc']
  rfl

theorem not_exact_of_truncatedClaim (h : Routed P env req) (ht : TruncatedClaim P env req) :
    ¬ AttributionExact P env req := by
  obtain ⟨hk, hmem, hne⟩ := ht
  intro hexa
  have hv := verifiedPackage_eq h.observed h.active
  rw [hk] at hv
  dsimp only at hv
  rw [if_pos hmem] at hv
  have hc : (observation P env req).packageName ≠ [] := by
    have hs := cameraScoped_of_singleCamera h.single
    rw [← observation_transaction (P := P)] at hs
    exact ((callerKind_eq_claimed_iff hs).mp hk).2.2
  obtain ⟨e, he, heq⟩ := hexa.owned (by rw [hv]; exact hc)
  exact hne e he (heq.trans hv)

theorem not_exact_of_truncatedPackage (h : Routed P env req) (ht : TruncatedPackage P env req) :
    ¬ AttributionExact P env req := by
  obtain ⟨hk, e, hpk, hne, hcut⟩ := ht
  intro he
  have hv := verifiedPackage_eq h.observed h.active
  rw [hk, hpk] at hv
  have hv' : verifiedPackage P env req = cStr (P.string8 e) := hv
  obtain ⟨e', he', heq⟩ := he.owned (by rw [hv']; exact hne)
  rw [hpk, List.mem_singleton] at he'
  subst he'
  exact hcut (heq.trans hv').symm

/-- Where an attributed package comes from when nothing is cut. -/
theorem attributed_cases (h : Routed P env req) (hc : ¬ TruncatedClaim P env req)
    (hp : ¬ TruncatedPackage P env req) (hne : verifiedPackage P env req ≠ []) :
    (callerKind (observation P env req) = .claimedPackage ∧
      verifiedPackage P env req = (observation P env req).packageName ∧
      ∃ e ∈ callerPackages P env req, P.string8 e = (observation P env req).packageName) ∨
    (callerKind (observation P env req) = .uidOnly ∧
      ∃ e, callerPackages P env req = [e] ∧ P.string8 e = verifiedPackage P env req) := by
  have hv := verifiedPackage_eq h.observed h.active
  cases hk : callerKind (observation P env req) with
  | notApplicable =>
    rw [hk] at hv
    exact absurd hv hne
  | unavailable =>
    rw [hk] at hv
    exact absurd hv hne
  | claimedPackage =>
    rw [hk] at hv
    dsimp only at hv
    split_ifs at hv with hmem
    · refine .inl ⟨rfl, hv, ?_⟩
      by_contra hno
      exact hc ⟨hk, hmem, fun e he heq => hno ⟨e, he, heq⟩⟩
    · exact absurd hv hne
  | uidOnly =>
    rw [hk] at hv
    cases ho : onlyElement (callerPackages P env req) with
    | none =>
      rw [ho] at hv
      exact absurd hv hne
    | some e =>
      rw [ho] at hv
      have hv' : verifiedPackage P env req = cStr (P.string8 e) := hv
      have hpk := onlyElement_eq_some_iff.mp ho
      refine .inr ⟨rfl, e, hpk, ?_⟩
      by_contra hcut
      rw [hv'] at hne hcut
      exact hp ⟨hk, e, hpk, hne, fun he => hcut he.symm⟩

/-- **Attribution is exact unless a NUL cuts the compared text**: the claim of the caller, or the
only package of a caller that claims nothing. -/
theorem attributionExact_iff (h : Routed P env req) :
    AttributionExact P env req ↔ ¬ TruncatedClaim P env req ∧ ¬ TruncatedPackage P env req := by
  constructor
  · exact fun hexa => ⟨fun ht => not_exact_of_truncatedClaim h ht hexa,
      fun ht => not_exact_of_truncatedPackage h ht hexa⟩
  · rintro ⟨hcl, hp⟩
    have hs := cameraScoped_of_singleCamera h.single
    rw [← observation_transaction (P := P)] at hs
    have hc := attributed_cases h hcl hp
    refine ⟨fun hne => ?_, fun hn hne => ?_, fun hca => ?_, fun hnil => ?_⟩
    · rcases hc hne with ⟨-, hv, ho⟩ | ⟨-, e, hpk, heq⟩
      · rw [hv]
        exact ho
      · exact ⟨e, by rw [hpk]; exact List.mem_singleton_self e, heq⟩
    · rcases hc hne with ⟨hk, -⟩ | ⟨-, e, hpk, -⟩
      · exact absurd hn ((callerKind_eq_claimed_iff hs).mp hk).2.2
      · exact ⟨e, hpk⟩
    · by_contra hne
      rcases hc hne with ⟨hk, -, e, he, heq⟩ | ⟨hk, e, hpk, -⟩
      · rcases hca with hnil | ⟨-, hno⟩ | ⟨hn, -⟩
        · rw [hnil] at he
          cases he
        · exact hno e he heq
        · exact ((callerKind_eq_claimed_iff hs).mp hk).2.2 hn
      · rcases hca with hnil | ⟨hso, -⟩ | ⟨-, htwo⟩
        · rw [hpk] at hnil
          cases hnil
        · exact ((callerKind_eq_uidOnly_iff hs).mp hk).2
            ⟨carries_of_claim h.observed h.single hso, hso⟩
        · rw [hpk] at htwo
          simp at htwo
    · rw [hnil]
      exact matched_routeFor_nil _ _

/-! ## A caller with one package -/

/-- A device where every UID has the package `com.a`. -/
abbrev onePackageEnv : RouterEnv AndroidFormat.Cell :=
  androidEnv swappedDevice fun _ => [ascii16 "com.a"]

/-- A caller that claims its own package gets it. -/
theorem ownClaim_exact : AttributionExact androidPlatform onePackageEnv
    (clientRequest 4 (.id (ascii16 ['0'])) (ascii16 "com.a")) := by
  have hs : (clientRequest 4 (.id (ascii16 ['0'])) (ascii16 "com.a")).shape
      onePackageEnv = .connectDevice := by decide
  obtain ⟨hr, -, huid, -, hpkg⟩ := routed_swapped hs rfl
    (fits_android ⟨rfl, by decide⟩) (by decide) (by decide) (by decide) (by decide) rfl
  refine (attributionExact_iff hr).mpr ⟨fun ht => ?_, fun ht => ?_⟩
  · refine ht.2.2 (ascii16 "com.a") (List.mem_singleton_self _) ?_
    rw [hpkg]
    decide
  · obtain ⟨-, e, hpk, -, hcut⟩ := ht
    obtain rfl : ascii16 "com.a" = e := List.singleton_inj.mp hpk
    exact hcut (by decide)

abbrev nulClaim : Request AndroidFormat.Cell :=
  clientRequest 4 (.id (ascii16 ['0'])) (ascii16 "com.a\x00x")

/-- **A claim with a NUL is attributed although the caller does not own it.** The caller owns
`com.a` and claims `com.a` followed by a NUL and an `x`; the route is resolved for the whole
claim. -/
theorem nulClaim_attributed :
    Routed androidPlatform onePackageEnv
      (clientRequest 4 (.id (ascii16 ['0'])) (ascii16 "com.a\x00x")) ∧
    callerPackages androidPlatform onePackageEnv
      (clientRequest 4 (.id (ascii16 ['0'])) (ascii16 "com.a\x00x")) =
        [ascii16 "com.a"] ∧
    verifiedPackage androidPlatform onePackageEnv
      (clientRequest 4 (.id (ascii16 ['0'])) (ascii16 "com.a\x00x")) =
        "com.a\x00x" ∧
    ¬ AttributionExact androidPlatform onePackageEnv
      (clientRequest 4 (.id (ascii16 ['0'])) (ascii16 "com.a\x00x")) := by
  have hs : nulClaim.shape onePackageEnv = .connectDevice := by decide
  obtain ⟨hr, -, huid, hpid, hpkg⟩ := routed_swapped hs rfl
    (fits_android ⟨rfl, by decide⟩) (by decide) (by decide) (by decide) (by decide) rfl
  have hn : (observation androidPlatform onePackageEnv nulClaim).packageName =
      "com.a\x00x" := hpkg.trans (by decide)
  have hc : (observation androidPlatform onePackageEnv nulClaim).transaction.cameraScoped =
      true := by
    rw [observation_transaction]
    exact cameraScoped_of_singleCamera hr.single
  have hk : callerKind (observation androidPlatform onePackageEnv nulClaim) =
      .claimedPackage := by
    refine (callerKind_eq_claimed_iff hc).mpr ⟨by rw [huid, hpid]; decide, ?_, ?_⟩
    · exact carries_of_claim hr.observed hr.single (by rw [hn]; decide)
    · rw [hn]
      decide
  have hv := verifiedPackage_eq hr.observed hr.active
  rw [hk, hn] at hv
  have hmem : ascii16 (cStr "com.a\x00x") ∈
      callerPackages androidPlatform onePackageEnv nulClaim := List.mem_singleton.mpr (by decide)
  refine ⟨hr, rfl, hv.trans (if_pos hmem), ?_⟩
  refine not_exact_of_truncatedClaim hr ⟨hk, by rw [hn]; exact hmem, fun e he => ?_⟩
  obtain rfl : e = ascii16 "com.a" := List.mem_singleton.mp he
  rw [hn]
  decide

end Vcam
