import AndroidVcam.Router.Decision

/-!
# Internal cameras

The internal cameras `1000` and `1001` are meant to be reached through the router's own redirect
only. The guard of `onTransact` looks at the observed text: it sees an internal ID in a request
that decodes as a whole, and nothing else.

* `NamesInternal`: a parcel names an internal camera, by ID or by its Camera1 index;
* `InternalOnlyByRedirect`: what the guard is for, on one request;
* `refused_iff`, `forwarded_cases`: the requests that the router refuses and what it forwards;
* **`internalOnlyByRedirect_iff`**: the requests on which the guard does its work.
-/

namespace Vcam

open TextFile Wire ScopedCameraRouter

variable {β ι : Type}

/-- The name is an internal ID or the index that `camera1-map.tsv` lists for one. -/
def CameraName.Internal (fs : FileSystem) : CameraName → Prop
  | .id units => ∃ cameraId, isInternalCameraId cameraId = true ∧ units = ascii16 cameraId
  | .index value => ∃ cameraId, isInternalCameraId cameraId = true ∧
      camera1IndexForId fs cameraId kDefaultCamera1MapPath ≠ [] ∧
      value = digitsValue (camera1IndexForId fs cameraId kDefaultCamera1MapPath)

def NamesInternal (W : ParcelFormat β ι) (fs : FileSystem) (shape : BinderPayloadShape)
    (cells : List β) : Prop :=
  ∃ name, cameraField W shape cells = some name ∧ name.Internal fs

/-- The router made the parcel itself: it rewrote the request, for a redirected route. -/
structure RewrittenByRedirect (P : Platform β ι) (env : RouterEnv β) (req : Request β)
    (out : Parcel β) : Prop where
  redirected :
    (routeFor (observation P env req) env.fs (verifiedPackage P env req)).redirected = true
  rewritten : ∃ replacement, rewriteAndroid14CameraId P.format env.writes (observation P env req)
    replacement req.data = .ok out
  counted : .physicalRewriteSuccesses ∈ (onTransact P env req).counted

/-- **What the guard is for.** A forwarded parcel for an internal camera comes from a redirect, and
a client that names an internal camera is refused. -/
structure InternalOnlyByRedirect (P : Platform β ι) (env : RouterEnv β) (req : Request β) :
    Prop where
  redirect : ∀ out reply, (onTransact P env req).outcome = .forwarded out reply →
    NamesInternal P.format env.fs (req.shape env) out.cells → RewrittenByRedirect P env req out
  direct : NamesInternal P.format env.fs (req.shape env) req.data.cells →
    (onTransact P env req).outcome.Refused

/-- The route of a request cannot be served: a map has no line for its camera. -/
def DemandRefused (fs : FileSystem) (shape : BinderPayloadShape) (requested : Text) :
    RoutingDemand → Prop
  | .unchanged => False
  | .missing => True
  | .camera cameraId =>
    cameraId ≠ requested ∧ shape.integerId = true ∧ wireText fs shape cameraId = []

/-- The router stops the request: it sees an internal ID, or a map is missing or incomplete. -/
def Stopped (P : Platform β ι) (env : RouterEnv β) (req : Request β) : Prop :=
  (observation P env req).status = .observed ∧
    (isInternalCameraId (observation P env req).cameraId = true ∨
      routingPolicyActive env.fs = true ∧ (routingMapsReady env.fs = false ∨
        (observation P env req).cameraId ≠ [] ∧ DemandRefused env.fs (req.shape env)
          (observation P env req).cameraId (demand P env req)))

/-- The maps send a physical route to an internal camera, and the copier takes its text. -/
def PhysicalToInternal (P : Platform β ι) (env : RouterEnv β) (req : Request β) : Prop :=
  Routed P env req ∧ ∃ cameraId, demand P env req = .camera cameraId ∧
    cameraId ≠ (observation P env req).cameraId ∧
    0 ≤ RouteResolver.physicalIdFromProvider (requestSelection (observation P env req) env.fs
      (verifiedPackage P env req)).providerId ∧
    (nameOfText (req.shape env) (cStr (wireText env.fs (req.shape env) cameraId))).Internal env.fs ∧
    ∃ out, rewriteAndroid14CameraId P.format env.writes (observation P env req)
      (wireText env.fs (req.shape env) cameraId) req.data = .ok out

variable {P : Platform β ι} {env : RouterEnv β} {req : Request β}

/-! ## What is refused and what is forwarded -/

theorem refused_rewriteAndForward (text : Text) :
    ¬ (rewriteAndForward P env req (observation P env req) text).outcome.Refused := by
  unfold rewriteAndForward
  split <;> exact not_refused_forwarded

/-- A routed request is refused when its demand cannot be served. -/
theorem Routed.refused_iff (h : Routed P env req) : (onTransact P env req).outcome.Refused ↔
    DemandRefused env.fs (req.shape env) (observation P env req).cameraId (demand P env req) := by
  rw [h.outcome_eq]
  cases demand P env req with
  | unchanged => simp [DemandRefused, not_refused_forwarded]
  | missing => simp [DemandRefused, refused_rejectCameraRequest]
  | camera cameraId =>
    dsimp only [DemandRefused]
    by_cases he : cameraId = (observation P env req).cameraId
    · rw [if_pos he]
      simp [he, not_refused_forwarded]
    · rw [if_neg he, forwardReplaced_eq, observation_shape]
      split_ifs with hc
      · simp [he, hc, refused_rejectCameraRequest]
      · simpa [he, refused_rewriteAndForward] using hc

/-- **The requests that the router refuses.** -/
theorem refused_iff (hp : env.physicalRoutingEnabled = true)
    (hs : (req.shape env).singleCamera = true) :
    (onTransact P env req).outcome.Refused ↔ Stopped P env req := by
  by_cases hst : (observation P env req).status = .observed
  · by_cases hint : isInternalCameraId (observation P env req).cameraId = true
    · rw [outcome_single hp hs]
      simp [Stopped, hst, hint, refused_rejectCameraRequest]
    · by_cases hact : routingPolicyActive env.fs = true
      · by_cases hr : routingMapsReady env.fs = true
        · by_cases hid : (observation P env req).cameraId = []
          · rw [outcome_single hp hs]
            rw [hid] at hint
            simp [Stopped, hst, hint, hact, hr, hid, not_refused_forwarded]
          · have hro : Routed P env req :=
              ⟨hp, hs, hst, by simpa using hint, hact, hr, hid⟩
            rw [hro.refused_iff]
            simp [Stopped, hst, hint, hact, hr, hid]
        · rw [outcome_single hp hs]
          simp [Stopped, hst, hint, hact, hr, refused_rejectCameraRequest]
      · rw [outcome_single hp hs]
        simp [Stopped, hst, hint, hact, not_refused_forwarded]
  · rw [outcome_single hp hs]
    simp [Stopped, hst, not_refused_forwarded]

theorem rewriteAndForward_cases {text : Text} {out : Parcel β} {r : ReplyRoute}
    (h : (rewriteAndForward P env req (observation P env req) text).outcome =
      .forwarded out r) :
    out = req.data ∨
      (rewriteAndroid14CameraId P.format env.writes (observation P env req) text req.data = .ok out ∧
        .physicalRewriteSuccesses ∈
          (rewriteAndForward P env req (observation P env req) text).counted) := by
  unfold rewriteAndForward at h ⊢
  split at h
  · rename_i rewritten hr
    obtain ⟨rfl, -⟩ := Outcome.forwarded.inj h
    rw [hr]
    exact .inr ⟨rfl, by simp⟩
  · obtain ⟨rfl, -⟩ := Outcome.forwarded.inj h
    exact .inl rfl

/-- **What the router forwards**: the original, or the rewrite for a demanded camera. -/
theorem forwarded_cases (hp : env.physicalRoutingEnabled = true)
    (hsh : (req.shape env).singleCamera = true) {out : Parcel β} {r : ReplyRoute}
    (hfwd : (onTransact P env req).outcome = .forwarded out r) :
    out = req.data ∨ (Routed P env req ∧ ∃ cameraId, demand P env req = .camera cameraId ∧
      cameraId ≠ (observation P env req).cameraId ∧
      rewriteAndroid14CameraId P.format env.writes (observation P env req)
        (wireText env.fs (req.shape env) cameraId) req.data = .ok out ∧
      .physicalRewriteSuccesses ∈ (onTransact P env req).counted) := by
  by_cases hro : Routed P env req
  · have hout := hro.outcome_eq
    cases hd : demand P env req with
    | unchanged =>
      rw [hd, hfwd] at hout
      exact .inl (Outcome.forwarded.inj hout).1
    | missing =>
      rw [hd, hfwd] at hout
      exact absurd hout.symm (refused_rejectCameraRequest _ out r)
    | camera cameraId =>
      rw [hd, hfwd] at hout
      dsimp only at hout
      split_ifs at hout with he
      · exact .inl (Outcome.forwarded.inj hout).1
      have hco := fun c => hro.counted_replaced (c := c) hd he
      rw [forwardReplaced_eq, observation_shape] at hout hco
      split_ifs at hout hco with hc
      · exact absurd hout.symm (refused_rejectCameraRequest _ out r)
      rcases rewriteAndForward_cases hout.symm with hr | ⟨hr, hs⟩
      · exact .inl hr
      · exact .inr ⟨hro, cameraId, rfl, he, hr, hco _ hs⟩
  · refine .inl ?_
    rw [outcome_single hp hsh] at hfwd
    dsimp only at hfwd
    split_ifs at hfwd with h₁ h₂ h₃ h₄ h₅
    · exact (Outcome.forwarded.inj hfwd).1.symm
    · exact absurd hfwd (refused_rejectCameraRequest _ out r)
    · exact (Outcome.forwarded.inj hfwd).1.symm
    · exact absurd hfwd (refused_rejectCameraRequest _ out r)
    · exact (Outcome.forwarded.inj hfwd).1.symm
    · exact absurd ⟨hp, hsh, not_not.mp h₁, by simpa using h₂, by simpa using h₃,
        by simpa using h₄, h₅⟩ hro

/-! ## The guard -/

theorem cameraField_rewritten {text : Text} {out : Parcel β}
    (h : rewriteAndroid14CameraId P.format env.writes (observation P env req) text req.data =
      .ok out) :
    cameraField P.format (req.shape env) out.cells =
      some (nameOfText (req.shape env) (cStr text)) := by
  have hf := cameraField_rewrite observe_eq_observation h
  rwa [observation_shape] at hf

/-- A physical route to an internal camera is forwarded without a redirect. -/
theorem not_redirect_of_physicalToInternal (h : PhysicalToInternal P env req) :
    ¬ InternalOnlyByRedirect P env req := by
  obtain ⟨hr, cameraId, hd, hne, hp, hint, out, hout⟩ := h
  intro hpr
  have hfwd : ∃ reply, (onTransact P env req).outcome = .forwarded out reply := by
    rw [hr.outcome_eq, hd]
    dsimp only
    rw [if_neg hne, forwardReplaced_eq, observation_shape, if_neg, rewriteAndForward, hout]
    · exact ⟨_, rfl⟩
    · rintro ⟨-, hnil⟩
      have ha := (rewrite_ok hout).1
      rw [hnil] at ha
      cases ha
  obtain ⟨reply, hfwd⟩ := hfwd
  have hred := (hpr.redirect out reply hfwd ⟨_, cameraField_rewritten hout, hint⟩).redirected
  have := (redirected_iff_demand.mp hred).2
  omega

/-- **The guard does its work exactly on these requests**: a client that names an internal camera
is stopped, and the maps send no physical route to an internal camera. -/
theorem internalOnlyByRedirect_iff (hphys : env.physicalRoutingEnabled = true)
    (hrole : (classifyBinderTransaction env.recipe req.code).role ∈ singleCameraRoles) :
    InternalOnlyByRedirect P env req ↔
      (NamesInternal P.format env.fs (req.shape env) req.data.cells → Stopped P env req) ∧
        ¬ PhysicalToInternal P env req := by
  have hsh : (req.shape env).singleCamera = true := singleCamera_iff_role.mpr hrole
  constructor
  · intro h
    exact ⟨fun hn => (refused_iff hphys hsh).mp (h.direct hn),
      fun hp => not_redirect_of_physicalToInternal hp h⟩
  · rintro ⟨hst, hph⟩
    have hdi : NamesInternal P.format env.fs (req.shape env) req.data.cells →
        (onTransact P env req).outcome.Refused :=
      fun hn => (refused_iff hphys hsh).mpr (hst hn)
    refine ⟨fun out reply hfwd hn => ?_, hdi⟩
    rcases forwarded_cases hphys hsh hfwd with rfl | ⟨hro, cameraId, hd, hne, hr, hs⟩
    · exact absurd hfwd (hdi hn _ _)
    · refine ⟨redirected_iff_demand.mpr ⟨⟨cameraId, hd⟩, ?_⟩, ⟨_, hr⟩, hs⟩
      by_contra hp
      obtain ⟨name, hna, hint⟩ := hn
      rw [cameraField_rewritten hr] at hna
      obtain rfl := Option.some.inj hna
      exact hph ⟨hro, cameraId, hd, hne, not_lt.mp hp, hint, out, hr⟩

/-- A request for the characteristics of camera `1000` is refused. -/
theorem characteristics_1000_guarded : InternalOnlyByRedirect androidPlatform swappedEnv
    (clientRequest 9 (.id (ascii16 kBackVirtualCameraId)) []) := by
  have hs : (clientRequest 9 (.id (ascii16 kBackVirtualCameraId)) []).shape swappedEnv =
      .stringCameraId := by decide
  obtain ⟨hst, -, -, hf⟩ := observation_clientRequest hs rfl
    (fits_android ⟨rfl, by decide⟩) (by decide) rfl
  have ho := hst.mpr ⟨by decide, by decide⟩
  have hint : isInternalCameraId (observation androidPlatform swappedEnv
      (clientRequest 9 (.id (ascii16 kBackVirtualCameraId)) [])).cameraId = true := by
    rw [(hf ho).1]
    decide
  refine (internalOnlyByRedirect_iff rfl (by decide)).mpr
    ⟨fun _ => ⟨ho, .inl hint⟩, fun h => ?_⟩
  exact absurd (h.1.external.symm.trans hint) Bool.false_ne_true

/-- **The guard does not look at Camera1 indexes.** `camera1-map.tsv` lists index 2 for camera
`1000`; a request for the legacy parameters of index 2 is forwarded as it came. -/
theorem legacyParameters_of_internal_forwarded :
    ValidHeader androidFormat (clientRequest 12 (.index 2) []).data.cells ∧
    (classifyBinderTransaction swappedEnv.recipe 12).role = "get_legacy_parameters" ∧
    NamesInternal androidFormat swappedDevice .integerCameraId
      (clientRequest 12 (.index 2) []).data.cells ∧
    (onTransact androidPlatform swappedEnv (clientRequest 12 (.index 2) [])).outcome =
      .forwarded (clientRequest 12 (.index 2) []).data .unchanged ∧
    ¬ InternalOnlyByRedirect androidPlatform swappedEnv (clientRequest 12 (.index 2) []) := by
  have hs : (clientRequest 12 (.index 2) []).shape swappedEnv = .integerCameraId := by
    decide
  obtain ⟨hr, hid, -⟩ := routed_swapped hs rfl (fits_android ⟨rfl, by decide⟩)
    (by decide) (by decide) (by decide) (by decide) rfl
  have hn : NamesInternal androidFormat swappedDevice .integerCameraId
      (clientRequest 12 (.index 2) []).data.cells :=
    ⟨.index 2, cameraField_clientRequest hs (fits_android ⟨rfl, by decide⟩),
      kBackVirtualCameraId, by decide, by decide, by decide⟩
  have hfwd : (onTransact androidPlatform swappedEnv (clientRequest 12 (.index 2) [])).outcome =
      .forwarded (clientRequest 12 (.index 2) []).data .unchanged := by
    have hd : demand androidPlatform swappedEnv (clientRequest 12 (.index 2) []) =
        .unchanged := by
      rw [demand_swappedEnv hid]
      decide
    rw [hr.outcome_eq, hd]
  refine ⟨validHeader_of_observed hr.observed, by decide, hn, hfwd, fun h => ?_⟩
  exact h.direct (by rw [hs]; exact hn) _ _ hfwd

end Vcam
