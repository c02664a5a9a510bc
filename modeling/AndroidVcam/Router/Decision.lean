import AndroidVcam.Binder.AndroidFormat
import AndroidVcam.Router.OnTransact

/-!
# Routing decisions

What the router does with a single-camera request, in terms of the maps and the route table.

* `Routed`: the requests that reach the route table, with `Routed.outcome_eq`;
* `Meets`: an outcome serves a demand; **`meets_iff_routeExact`**: the requests for which the router
  meets the demand.
-/

namespace Vcam

open TextFile Wire ScopedCameraRouter RouteResolver

section Selection

variable (obs : ParcelObservation) (fs : FileSystem) (package : Text)

def requestSlot : ℤ := targetSlot fs obs.cameraId (targetMapFor obs.transaction.payloadShape)

/-- The provider that the route table selects for the slot. -/
def requestSelection : ProviderSelection :=
  resolveProviderForPackage fs package (requestSlot obs fs) kRuntimeRoutesPath
    kRuntimeProvidersPath

def physicalVisibleId (provider : Text) : Text :=
  visibleIdForSlot fs (physicalIdFromProvider provider) kDefaultTargetMapPath

/-- What the route table asks the router to do. -/
inductive RoutingDemand
  | unchanged
  | camera (cameraId : Text)
  | missing
deriving DecidableEq

def routingDemand : RoutingDemand :=
  let selection := requestSelection obs fs package
  if requestSlot obs fs < 0 ∨ selection.configured = false ∨ selection.available = false then
    .unchanged
  else if physicalIdFromProvider selection.providerId < 0 then
    .camera (internalIdForSlot (requestSlot obs fs))
  else if physicalVisibleId fs selection.providerId = [] then .missing
  else .camera (physicalVisibleId fs selection.providerId)

variable {obs fs package}

theorem requestSlot_cases (h : 0 ≤ requestSlot obs fs) :
    requestSlot obs fs = 0 ∨ requestSlot obs fs = 1 := by
  rcases targetSlot_cases fs obs.cameraId (targetMapFor obs.transaction.payloadShape) with e | e
  · exact absurd (show requestSlot obs fs = -1 from e) (by omega)
  · exact e

theorem routeFor_eq (ht : 0 ≤ requestSlot obs fs) :
    routeFor obs fs package =
      let selection := requestSelection obs fs package
      if 0 ≤ physicalIdFromProvider selection.providerId then
        ⟨obs.cameraId, obs.cameraId, selection.providerId, selection.configured,
          selection.available, false, selection.matched⟩
      else
        ⟨obs.cameraId, internalIdForSlot (requestSlot obs fs), selection.providerId,
          selection.configured, selection.available, selection.available, selection.matched⟩ := by
  rw [routeFor, resolve]
  exact if_neg (not_lt.mpr ht)

/-- **The replacement picked for a request**: it serves the demand, except that a camera spelled
like the requested one is kept. -/
theorem decideReplacement_eq :
    (decideReplacement obs fs package).1 =
      match routingDemand obs fs package with
      | .unchanged => .ok []
      | .missing => .error "Physical camera source unavailable"
      | .camera cameraId =>
        if physicalIdFromProvider (requestSelection obs fs package).providerId < 0 ∨
          cameraId ≠ obs.cameraId then .ok cameraId else .ok [] := by
  unfold routingDemand decideReplacement
  dsimp only
  by_cases ht : requestSlot obs fs < 0
  · have hr : routeFor obs fs package =
        ⟨obs.cameraId, obs.cameraId, [], false, true, false, .none⟩ := resolve_of_neg ht
    simp [ht, hr]
  have ht' : 0 ≤ requestSlot obs fs := not_lt.mp ht
  rw [routeFor_eq ht']
  dsimp only
  by_cases hp : 0 ≤ physicalIdFromProvider (requestSelection obs fs package).providerId
  · have hph : ScopedCameraRouter.physicalCameraIdForProvider fs
        (requestSelection obs fs package).providerId kDefaultTargetMapPath =
          physicalVisibleId fs (requestSelection obs fs package).providerId := by
      rw [physicalCameraIdForProvider, if_neg (not_lt.mpr hp)]
      rfl
    rw [if_pos hp]
    dsimp only
    rw [hph]
    cases hc : (requestSelection obs fs package).configured <;>
      cases hav : (requestSelection obs fs package).available <;> simp [ht, hp, not_lt.mpr hp]
    split_ifs <;> simp_all
  · have hc : (requestSelection obs fs package).configured = true :=
      configured_of_not_physical (requestSlot_cases ht') (not_le.mp hp)
    rw [if_neg hp]
    cases hav : (requestSelection obs fs package).available <;> simp [ht, hc, not_le.mp hp]

theorem demand_camera {id : Text} (h : routingDemand obs fs package = .camera id) :
    (isInternalCameraId id = true ∧ physicalIdFromProvider
      (requestSelection obs fs package).providerId < 0) ∨
    (id ≠ [] ∧ 0 ≤ physicalIdFromProvider
      (requestSelection obs fs package).providerId ∧
      id = physicalVisibleId fs (requestSelection obs fs package).providerId) := by
  unfold routingDemand at h
  dsimp only at h
  split_ifs at h with h₁ h₂ h₃
  · obtain rfl := RoutingDemand.camera.inj h
    exact .inl ⟨isInternal_internalIdForSlot _, h₂⟩
  · obtain rfl := RoutingDemand.camera.inj h
    exact .inr ⟨h₃, not_lt.mp h₂, rfl⟩

/-- A route is redirected when the demanded camera is internal. -/
theorem redirected_iff_demand : (routeFor obs fs package).redirected = true ↔
    (∃ cameraId, routingDemand obs fs package = .camera cameraId) ∧
      physicalIdFromProvider (requestSelection obs fs package).providerId < 0 := by
  have hr : (routeFor obs fs package).redirected = true ↔ 0 ≤ requestSlot obs fs ∧
      (requestSelection obs fs package).available = true ∧
      physicalIdFromProvider (requestSelection obs fs package).providerId < 0 :=
    resolve_redirected_iff
  rw [hr]
  unfold routingDemand
  dsimp only
  constructor
  · rintro ⟨ht, hav, hp⟩
    have hco : (requestSelection obs fs package).configured = true :=
      configured_of_not_physical (requestSlot_cases ht) hp
    refine ⟨⟨internalIdForSlot (requestSlot obs fs), ?_⟩, hp⟩
    rw [if_neg (by rw [hco, hav]; simpa using ht), if_pos hp]
  · rintro ⟨⟨cameraId, hd⟩, hp⟩
    split_ifs at hd with hc
    simp only [not_or, not_lt, Bool.not_eq_false] at hc
    exact ⟨hc.1, hc.2.2, hp⟩

/-- The text that stands for a camera in a request: its ID, or its Camera1 index. -/
def wireText (fs : FileSystem) (shape : BinderPayloadShape) (cameraId : Text) : Text :=
  if shape.integerId then camera1IndexForId fs cameraId kDefaultCamera1MapPath else cameraId

theorem isDigits_wireText {s : BinderPayloadShape} {id : Text}
    (hs : s.integerId = true) (h : wireText fs s id ≠ []) :
    isDigits (wireText fs s id) = true := by
  unfold wireText at h ⊢
  rw [if_pos hs] at h ⊢
  exact isDigits_camera1IndexForId fs h

end Selection

/-! ## Names and texts -/

theorem isAsciiText_of_isDigits {s : Text} (h : isDigits s = true) : isAsciiText s := by
  intro c hc
  simp only [isDigits, Bool.and_eq_true] at h
  have hd := (Char.isDigit_iff_toNat.mp (List.all_eq_true.mp h.2 c hc)).2
  have h9 : '9'.toNat = 57 := rfl
  omega

theorem nul_notMem_of_isDigits {s : Text} (h : isDigits s = true) : '\x00' ∉ s := by
  intro hm
  simp only [isDigits, Bool.and_eq_true] at h
  exact absurd (List.all_eq_true.mp h.2 _ hm) (by decide)

theorem isAsciiText_cStr {s : Text} (h : isAsciiText s) : isAsciiText (cStr s) :=
  fun c hc => h c ((List.takeWhile_prefix _).subset hc)

theorem nameOfText_id_inj {shape : BinderPayloadShape} {s t : Text} (hs : shape.integerId = false)
    (h₁ : isAsciiText s) (h₂ : isAsciiText t) (h : nameOfText shape s = nameOfText shape t) :
    s = t := by
  simp only [nameOfText, hs, if_false, Bool.false_eq_true, CameraName.id.injEq] at h
  exact ascii16_injOn h₁ h₂ h

theorem nameOfText_index_iff {shape : BinderPayloadShape} {s t : Text}
    (hs : shape.integerId = true) :
    nameOfText shape s = nameOfText shape t ↔ digitsValue s = digitsValue t := by
  simp only [nameOfText, hs, if_true, CameraName.index.injEq, Nat.cast_inj]

theorem isAscii_of_isInternal {s : Text} (h : isInternalCameraId s = true) : isAscii s = true := by
  rcases isInternalCameraId_iff.mp h with rfl | rfl <;> decide

/-! ## What the rewrite forwards -/

variable {β ι : Type} {P : Platform β ι} {env : RouterEnv β} {req : Request β}

theorem forwardReplaced_eq {obs : ParcelObservation} (r : Text) :
    forwardReplaced P env req obs r =
      if obs.transaction.payloadShape.integerId = true ∧
          wireText env.fs obs.transaction.payloadShape r = [] then
        ⟨rejectCameraRequest req "Camera1 routing map unavailable",
          [.physicalRewriteAttempts, .physicalRewriteFailures]⟩
      else rewriteAndForward P env req obs (wireText env.fs obs.transaction.payloadShape r) := by
  unfold forwardReplaced wireText
  by_cases hs : obs.transaction.payloadShape.integerId = true
  · simp only [hs, if_true, true_and]
  · simp only [hs, if_false, false_and, Bool.false_eq_true]

theorem rewriteAndForward_of_not_replaceable {text : Text}
    (h : ¬ Replaceable (req.shape env) text) :
    (rewriteAndForward P env req (observation P env req) text).outcome =
      .forwarded req.data .unchanged := by
  unfold rewriteAndForward
  split
  · rename_i out hout
    have hr := replaceable_of_rewrite hout
    rw [observation_shape] at hr
    exact absurd hr h
  · rfl

def demand (P : Platform β ι) (env : RouterEnv β) (req : Request β) : RoutingDemand :=
  routingDemand (observation P env req) env.fs (verifiedPackage P env req)

/-- A request that reaches the route table: a single camera, observed, with a camera that is not
internal, on a device with routes and maps. -/
structure Routed (P : Platform β ι) (env : RouterEnv β) (req : Request β) : Prop where
  physical : env.physicalRoutingEnabled = true
  single : (req.shape env).singleCamera = true
  observed : (observation P env req).status = .observed
  external : isInternalCameraId (observation P env req).cameraId = false
  active : routingPolicyActive env.fs = true
  ready : routingMapsReady env.fs = true
  named : (observation P env req).cameraId ≠ []

namespace Routed

variable (h : Routed P env req)
include h

theorem single_observation :
    (observation P env req).transaction.payloadShape.singleCamera = true := by
  rw [observation_shape]
  exact h.single

theorem cameraField_data : cameraField P.format (req.shape env) req.data.cells =
    some (nameOfText (req.shape env) (observation P env req).cameraId) := by
  have hf := cameraField_of_observed observe_eq_observation h.single_observation h.observed
  rwa [observation_shape] at hf

/-- **A rewrite forwards a request for the replacement.** -/
theorem rewriteAndForward_of_replaceable (hops : env.writes.Succeed) {text : Text}
    (hr : Replaceable (req.shape env) text) :
    ∃ out reply, (rewriteAndForward P env req (observation P env req) text).outcome =
        .forwarded out reply ∧
      cameraField P.format (req.shape env) out.cells =
        some (nameOfText (req.shape env) (cStr text)) := by
  rw [← observation_shape (P := P)] at hr ⊢
  obtain ⟨out, hout, hf⟩ :=
    rewrite_observed observe_eq_observation h.single_observation h.observed h.named hops hr
  rw [rewriteAndForward, hout]
  exact ⟨out, _, rfl, hf⟩

/-- A demanded camera with the requested spelling is physical: an internal camera is not
requested. -/
theorem replaces_iff (id : Text) (hd : demand P env req = .camera id) :
    (physicalIdFromProvider (requestSelection (observation P env req) env.fs
      (verifiedPackage P env req)).providerId < 0 ∨ id ≠ (observation P env req).cameraId) ↔
      id ≠ (observation P env req).cameraId := by
  constructor
  · rintro (hp | hne) he
    · rcases demand_camera hd with ⟨hi, -⟩ | ⟨-, hp', -⟩
      · rw [he, h.external] at hi
        cases hi
      · omega
    · exact hne he
  · exact .inr

/-- **The outcome of a routed request**, by the demand of the route table. -/
theorem outcome_eq : (onTransact P env req).outcome =
    match demand P env req with
    | .unchanged => .forwarded req.data .unchanged
    | .missing => rejectCameraRequest req "Physical camera source unavailable"
    | .camera cameraId =>
      if cameraId = (observation P env req).cameraId then .forwarded req.data .unchanged
      else (forwardReplaced P env req (observation P env req) cameraId).outcome := by
  rw [outcome_single h.physical h.single]
  dsimp only
  rw [if_neg (not_not.mpr h.observed), if_neg (by rw [h.external]; simp),
    if_neg (by rw [h.active]; simp), if_neg (by rw [h.ready]; simp), if_neg h.named,
    decideReplacement_eq]
  have hiff := h.replaces_iff
  unfold demand at hiff ⊢
  cases hd : routingDemand (observation P env req) env.fs (verifiedPackage P env req) with
  | unchanged => simp
  | missing => rfl
  | camera cameraId =>
    dsimp only
    by_cases he : cameraId = (observation P env req).cameraId
    · rw [if_neg fun hr => (hiff cameraId hd).mp hr he, if_pos he]
      rfl
    · have hne : cameraId ≠ [] := by
        rcases demand_camera hd with ⟨hi, -⟩ | ⟨hv, -⟩
        · exact (isAscii_iff.mp (isAscii_of_isInternal hi)).1
        · exact hv
      rw [if_pos ((hiff cameraId hd).mpr he), if_neg he]
      exact if_neg hne

/-- The counters of a replaced request include those of its rewrite. -/
theorem counted_replaced {cameraId : Text} (hd : demand P env req = .camera cameraId)
    (hne : cameraId ≠ (observation P env req).cameraId) {c : RouterCounter}
    (hc : c ∈ (forwardReplaced P env req (observation P env req) cameraId).counted) :
    c ∈ (onTransact P env req).counted := by
  have hnil : cameraId ≠ [] := by
    rcases demand_camera hd with ⟨hi, -⟩ | ⟨hv, -⟩
    · exact (isAscii_iff.mp (isAscii_of_isInternal hi)).1
    · exact hv
  have hs : (observation P env req).transaction.cameraScoped = true := by
    rw [observation_transaction]
    exact cameraScoped_of_singleCamera h.single
  have hpkg : (attributePackage P env (observation P env req) true).1 =
      verifiedPackage P env req := by
    rw [verifiedPackage, h.active]
  have hdec : (decideReplacement (observation P env req) env.fs
      (attributePackage P env (observation P env req) true).1).1 = .ok cameraId := by
    rw [hpkg, decideReplacement_eq, show routingDemand (observation P env req) env.fs
      (verifiedPackage P env req) = .camera cameraId from hd]
    exact if_pos ((h.replaces_iff cameraId hd).mpr hne)
  unfold onTransact cameraRequest routeRequest
  dsimp only
  rw [listenerRequest_single h.single_observation, Option.getD_none, h.physical, h.external,
    h.active, h.ready, hs, h.observed, hdec]
  simp [h.named, hnil, hc]

end Routed

/-! ## Exact decisions -/

/-- The outcome serves a demand: the original parcel, a rejection when the camera has no visible
ID or no index, or a parcel that names the camera. -/
def Meets (P : Platform β ι) (env : RouterEnv β) (req : Request β) :
    RoutingDemand → Outcome β → Prop
  | .unchanged, o => o = .forwarded req.data .unchanged
  | .missing, o => o.Refused
  | .camera cameraId, o =>
    if wireText env.fs (req.shape env) cameraId = [] then o.Refused
    else ∃ out reply, o = .forwarded out reply ∧
      cameraField P.format (req.shape env) out.cells =
        some (nameOfText (req.shape env) (wireText env.fs (req.shape env) cameraId))

/-- The maps hold ASCII IDs of 1 to 255 characters and indexes below `2 ^ 31`. -/
structure MapsWellFormed (fs : FileSystem) : Prop where
  visibleId : ∀ slot, visibleIdForSlot fs slot kDefaultTargetMapPath ≠ [] →
    isAscii (visibleIdForSlot fs slot kDefaultTargetMapPath) = true
  index : ∀ cameraId, digitsValue (camera1IndexForId fs cameraId kDefaultCamera1MapPath) < 2 ^ 31

/-- The demanded camera is not confused with the requested text. A demanded ID that is spelled like
a requested index must also have this index; every other one must have a text that the copier takes
as a whole. -/
def RouteExact (fs : FileSystem) (shape : BinderPayloadShape) (requested : Text) :
    RoutingDemand → Prop
  | .camera cameraId =>
    let text := wireText fs shape cameraId
    if cameraId = requested then
      shape.integerId = true → text ≠ [] ∧ digitsValue text = digitsValue requested
    else text = [] ∨ (text.length ≤ 255 ∧ '\x00' ∉ text) ∨
      (255 < text.length ∧ digitsValue text = digitsValue requested)
  | _ => True

/-- The maps are well formed when each of their lines is. -/
theorem MapsWellFormed.of_lines {fs : FileSystem}
    (hr : routingMapsReady fs = true)
    (hids : ∀ content, fs.openText kDefaultTargetMapPath = some content →
      ∀ line ∈ getlines content, (parseTargetMapLine (popCR line)).all (fun p => isAscii p.1) = true)
    (hi : ∀ content, fs.openText kDefaultCamera1MapPath = some content →
      ∀ line ∈ getlines content, (parseCamera1MapLine (popCR line)).all
        (fun p => decide (digitsValue p.2 < 2 ^ 31)) = true) : MapsWellFormed fs := by
  simp only [routingMapsReady, Bool.and_eq_true] at hr
  constructor
  · intro slot hne
    obtain ⟨content, hc⟩ := FileSystem.openText_of_canRead _ _ hr.1.1.1
    simp only [visibleIdForSlot, hc] at hne ⊢
    obtain ⟨line, hl, s, hp⟩ := exists_line_of_visibleIdIn hne
    have := hids content hc line hl
    rw [hp] at this
    exact this
  · intro cameraId
    obtain ⟨content, hc⟩ := FileSystem.openText_of_canRead _ _ hr.1.2
    simp only [camera1IndexForId, hc]
    by_cases hne : camera1IndexIn content cameraId = []
    · rw [hne]
      decide
    · obtain ⟨line, hl, hp, -⟩ := exists_line_of_camera1IndexIn hne
      have := hi content hc line hl
      rw [hp] at this
      simpa using this

theorem not_refused_forwarded {data : Parcel β} {r : ReplyRoute} :
    ¬ (Outcome.forwarded data r).Refused := fun h => h data r rfl

theorem exists_forwarded_iff {data : Parcel β} {r : ReplyRoute} {p : Parcel β → Prop} :
    (∃ out reply', Outcome.forwarded data r = .forwarded out reply' ∧ p out) ↔ p data := by
  constructor
  · rintro ⟨out, reply', he, hp⟩
    obtain ⟨rfl, -⟩ := Outcome.forwarded.inj he
    exact hp
  · exact fun hp => ⟨data, r, rfl, hp⟩

namespace Routed

variable (h : Routed P env req)
include h

/-- The demanded camera has the requested spelling and the original is forwarded. -/
theorem meets_kept :
    Meets P env req (.camera (observation P env req).cameraId) (.forwarded req.data .unchanged) ↔
      ((req.shape env).integerId = true →
        wireText env.fs (req.shape env) (observation P env req).cameraId ≠ [] ∧
        digitsValue (wireText env.fs (req.shape env) (observation P env req).cameraId) =
          digitsValue (observation P env req).cameraId) := by
  rw [Meets]
  by_cases hi : (req.shape env).integerId = true
  · by_cases ht : wireText env.fs (req.shape env) (observation P env req).cameraId = []
    · rw [if_pos ht]
      simp [hi, ht, not_refused_forwarded]
    · rw [if_neg ht, exists_forwarded_iff, h.cameraField_data, Option.some.injEq,
        nameOfText_index_iff hi]
      simp [hi, ht, eq_comm]
  · have hte : wireText env.fs (req.shape env) (observation P env req).cameraId =
        (observation P env req).cameraId := if_neg hi
    rw [hte, if_neg h.named, exists_forwarded_iff, h.cameraField_data]
    simp [hi]

/-- An index is forwarded when the copier takes its text; otherwise the original is. -/
theorem meets_index (hops : env.writes.Succeed) (hm : MapsWellFormed env.fs)
    (hi : (req.shape env).integerId = true) (id : Text) :
    Meets P env req (.camera id)
        (forwardReplaced P env req (observation P env req) id).outcome ↔
      (wireText env.fs (req.shape env) id = [] ∨
      ((wireText env.fs (req.shape env) id).length ≤ 255 ∧
        '\x00' ∉ wireText env.fs (req.shape env) id) ∨
      (255 < (wireText env.fs (req.shape env) id).length ∧
        digitsValue (wireText env.fs (req.shape env) id) =
          digitsValue (observation P env req).cameraId)) := by
  rw [forwardReplaced_eq, observation_shape, Meets]
  by_cases ht : wireText env.fs (req.shape env) id = []
  · rw [if_pos ht, if_pos ⟨hi, ht⟩]
    simp [ht, refused_rejectCameraRequest]
  have hd := isDigits_wireText hi ht
  have hnul := nul_notMem_of_isDigits hd
  have hlt : digitsValue (wireText env.fs (req.shape env) id) < 2 ^ 31 := by
    rw [wireText, if_pos hi]
    exact hm.index id
  rw [if_neg ht, if_neg fun h => ht h.2]
  by_cases hl : (wireText env.fs (req.shape env) id).length ≤ 255
  · have hrep : Replaceable (req.shape env) (wireText env.fs (req.shape env) id) :=
      ⟨isAscii_iff.mpr ⟨ht, hl, isAsciiText_of_isDigits hd⟩, fun _ => ⟨hd, hlt⟩⟩
    obtain ⟨out, reply, hout, hf⟩ := h.rewriteAndForward_of_replaceable hops hrep
    rw [cStr_eq_self_iff.mpr hnul] at hf
    rw [hout, exists_forwarded_iff, hf]
    simp [hl, hnul]
  · have hrep : ¬ Replaceable (req.shape env) (wireText env.fs (req.shape env) id) :=
      fun hr => hl (isAscii_iff.mp hr.1).2.1
    rw [rewriteAndForward_of_not_replaceable hrep, exists_forwarded_iff, h.cameraField_data,
      Option.some.injEq, nameOfText_index_iff hi]
    simp [ht, hl, not_le.mp hl, eq_comm]

theorem meets_id (hops : env.writes.Succeed) (hi : (req.shape env).integerId = false)
    {cameraId : Text} (ha : isAscii cameraId = true) :
    Meets P env req (.camera cameraId)
        (forwardReplaced P env req (observation P env req) cameraId).outcome ↔
      '\x00' ∉ cameraId := by
  have hw : wireText env.fs (req.shape env) cameraId = cameraId := by
    rw [wireText, hi]
    rfl
  obtain ⟨hne, -, ht⟩ := isAscii_iff.mp ha
  have hrep : Replaceable (req.shape env) cameraId :=
    ⟨ha, fun hs => absurd (hi.symm.trans hs) Bool.false_ne_true⟩
  obtain ⟨out, reply, hout, hf⟩ := h.rewriteAndForward_of_replaceable hops hrep
  rw [forwardReplaced_eq, observation_shape, Meets, hw, if_neg hne, if_neg fun h => hne h.2, hout,
    exists_forwarded_iff, hf, Option.some.injEq, ← cStr_eq_self_iff]
  constructor
  · exact nameOfText_id_inj hi (isAsciiText_cStr ht) ht
  · exact fun he => by rw [he]

end Routed

/-- **The router meets the demand of the route table exactly when the demanded camera is not
confused with the requested one.** -/
theorem meets_iff_routeExact (h : Routed P env req) (hmaps : MapsWellFormed env.fs)
    (hops : env.writes.Succeed) :
    Meets P env req (demand P env req) (onTransact P env req).outcome ↔
      RouteExact env.fs (req.shape env) (observation P env req).cameraId (demand P env req) := by
  rw [h.outcome_eq]
  cases hd : demand P env req with
  | unchanged => simp [Meets, RouteExact]
  | missing => simp [Meets, RouteExact, refused_rejectCameraRequest]
  | camera cameraId =>
    dsimp only [RouteExact]
    by_cases he : cameraId = (observation P env req).cameraId
    · rw [if_pos he, if_pos he, he]
      exact h.meets_kept
    rw [if_neg he, if_neg he]
    cases hi : (req.shape env).integerId with
    | true => exact h.meets_index hops hmaps hi cameraId
    | false =>
      have ha : isAscii cameraId = true := by
        rcases demand_camera hd with ⟨h, -⟩ | ⟨h, -, hv⟩
        · exact isAscii_of_isInternal h
        · rw [hv] at h ⊢
          exact hmaps.visibleId _ h
      obtain ⟨hne, hlen, -⟩ := isAscii_iff.mp ha
      have hw : wireText env.fs (req.shape env) cameraId = cameraId := by
        rw [wireText, hi]
        rfl
      rw [h.meets_id hops hi ha, hw]
      simp [hne, hlen, not_lt.mpr hlen]

/-! ## A device whose Camera1 order is not its Camera2 order -/

/-- Camera `0` has index 1 and camera `1` has index 0; requests for the back camera go to the
physical front camera. -/
def swappedDevice : FileSystem := .ofList
  [(kRuntimeRoutesPath, "*\t0\tphysical-1\n"),
    (kDefaultTargetMapPath, "0\t0\n1\t1\n"),
    (kDefaultCamera1TargetMapPath, "1\t0\n0\t1\n"),
    (kDefaultCamera1MapPath, "0\t1\n1\t0\n1000\t2\n1001\t3\n"),
    (kRuntimeTopologyPath, "schema=1\n")]

theorem mapsWellFormed_swappedDevice : MapsWellFormed swappedDevice := by
  have ht : swappedDevice.openText kDefaultTargetMapPath = some "0\t0\n1\t1\n".toList := by
    decide
  have hmap : swappedDevice.openText kDefaultCamera1MapPath =
      some "0\t1\n1\t0\n1000\t2\n1001\t3\n" := by decide
  refine .of_lines (by decide) (fun content hc => ?_) fun content hc => ?_
  · obtain rfl := Option.some.inj (ht.symm.trans hc)
    decide
  · obtain rfl := Option.some.inj (hmap.symm.trans hc)
    decide

/-- The router on this device, with no package for any UID. -/
abbrev swappedEnv : RouterEnv AndroidFormat.Cell := androidEnv swappedDevice fun _ => []

theorem verifiedPackage_swappedEnv (req : Request AndroidFormat.Cell) :
    verifiedPackage androidPlatform swappedEnv req = [] :=
  attributePackage_of_no_packages rfl

theorem demand_swappedEnv {req : Request AndroidFormat.Cell} {cameraId : Text}
    (hid : (observation androidPlatform swappedEnv req).cameraId = cameraId) :
    demand androidPlatform swappedEnv req =
      routingDemand { transaction := classifyBinderTransaction swappedEnv.recipe req.code
                      cameraId := cameraId } swappedDevice [] := by
  subst hid
  rw [demand, verifiedPackage_swappedEnv, ← observation_transaction (P := androidPlatform)]
  rfl

/-- Every observable request for an external camera is routed on this device. -/
theorem routed_swapped {pf : ℤ → List (List Char16)} {code : ℕ} {name : CameraName}
    {c : List Char16} {s : BinderPayloadShape}
    (hsh : (clientRequest code name c).shape (androidEnv swappedDevice pf) =
      s)
    (hs : s.singleCamera = true) (hfi : name.Fits androidFormat s)
    (hobs : name.observable = true) (hn : name.text ≠ [])
    (hext : isInternalCameraId name.text = false) (hc : observableString c = true)
    {obs : ParcelObservation} (he : observation androidPlatform
      (androidEnv swappedDevice pf) (clientRequest code name c) = obs) :
    Routed androidPlatform (androidEnv swappedDevice pf)
      (clientRequest code name c) ∧
    obs.cameraId = name.text ∧ obs.callingUid = 10001 ∧ obs.callingPid = 2000 ∧
    obs.packageName = if s.connect then c.map asciiChar else [] := by
  have hlen : c.length < 2 ^ 31 - 1 :=
    lt_of_le_of_lt (observableString_iff.mp hc).1 (by decide)
  obtain ⟨hst, huid, hpid, hf⟩ := observation_clientRequest hsh hs hfi hlen he
  have ho := hst.mpr ⟨hobs, fun _ => hc⟩
  obtain ⟨hid, hpkg⟩ := hf ho
  subst he
  have ha : routingPolicyActive swappedDevice = true := by decide
  have hr : routingMapsReady swappedDevice = true := by decide
  exact ⟨⟨rfl, by rw [hsh]; exact hs, ho, by rw [hid]; exact hext, ha, hr,
    by rw [hid]; exact hn⟩, hid, huid, hpid, hpkg⟩

/-- A request for the characteristics of camera `0` is forwarded for camera `1`. -/
theorem swapped_characteristics_meet :
    Meets androidPlatform swappedEnv (clientRequest 9 (.id (ascii16 ['0'])) [])
      (demand androidPlatform swappedEnv (clientRequest 9 (.id (ascii16 ['0'])) []))
      (onTransact androidPlatform swappedEnv (clientRequest 9 (.id (ascii16 ['0'])) [])).outcome := by
  have hs : (clientRequest 9 (.id (ascii16 ['0'])) []).shape swappedEnv = .stringCameraId := by
    decide
  obtain ⟨hr, hid, -⟩ := routed_swapped hs rfl (fits_android ⟨rfl, by decide⟩)
    (by decide) (by decide) (by decide) (by decide) rfl
  refine (meets_iff_routeExact hr mapsWellFormed_swappedDevice ⟨rfl, rfl, rfl, rfl⟩).mpr ?_
  have hd : demand androidPlatform swappedEnv (clientRequest 9 (.id (ascii16 ['0'])) []) =
      .camera ['1'] := by
    rw [demand_swappedEnv hid]
    decide
  rw [hd, hid, hs, RouteExact]
  decide

/-- **A Camera1 request is not routed when the demanded camera is spelled like its index.** Index 1
is camera `0`; the route asks for camera `1`, whose index is 0; the request stays at index 1. -/
theorem swapped_legacyParameters_unrouted :
    Routed androidPlatform swappedEnv (clientRequest 12 (.index 1) []) ∧
    demand androidPlatform swappedEnv (clientRequest 12 (.index 1) []) = .camera ['1'] ∧
    wireText swappedDevice .integerCameraId ['1'] = ['0'] ∧
    (onTransact androidPlatform swappedEnv (clientRequest 12 (.index 1) [])).outcome =
      .forwarded (clientRequest 12 (.index 1) []).data .unchanged ∧
    ¬ Meets androidPlatform swappedEnv (clientRequest 12 (.index 1) [])
      (demand androidPlatform swappedEnv (clientRequest 12 (.index 1) []))
      (onTransact androidPlatform swappedEnv (clientRequest 12 (.index 1) [])).outcome := by
  have hs : (clientRequest 12 (.index 1) []).shape swappedEnv = .integerCameraId := by
    decide
  obtain ⟨hr, hid, -⟩ := routed_swapped hs rfl (fits_android ⟨rfl, by decide⟩)
    (by decide) (by decide) (by decide) (by decide) rfl
  have hd : demand androidPlatform swappedEnv (clientRequest 12 (.index 1) []) =
      .camera ['1'] := by
    rw [demand_swappedEnv hid]
    decide
  have hk : (onTransact androidPlatform swappedEnv (clientRequest 12 (.index 1) [])).outcome =
      .forwarded (clientRequest 12 (.index 1) []).data .unchanged := by
    rw [hr.outcome_eq, hd]
    exact if_pos hid.symm
  have hi : wireText swappedDevice .integerCameraId ['1'] = ['0'] := by decide
  refine ⟨hr, hd, hi, hk, ?_⟩
  have hme := hr.meets_kept
  rw [hid, hs] at hme
  rw [hk, hd]
  intro hm
  have hv := (hme.mp hm rfl).2
  rw [show wireText swappedEnv.fs .integerCameraId (CameraName.index 1).text = ['0'] from hi]
    at hv
  exact absurd hv (by decide)

end Vcam
