import AndroidVcam.Routing.RouteResolver

/-!
# Scoped camera routes

`hal/src/ScopedCameraRouter.cpp`: the maps written by `camera-map.sh` and the route of one
requested camera ID. `targets.tsv` and `camera1-targets.tsv` send a visible ID or a Camera1 index
to a logical slot (`0` back, `1` front); `camera1-map.tsv` sends a Camera2 ID to its Camera1 index.

* `targetSlotIn`, `visibleIdIn`, `camera1IndexIn`: the three readers on a file content; the
  functions of the source apply them to the file they open;
* `resolve`: the route of a request, with `resolve_redirected_iff`.
-/

namespace Vcam

open TextFile

structure ScopedCameraRoute where
  requestedCameraId : Text
  effectiveCameraId : Text
  providerId : Text
  configured : Bool
  available : Bool
  redirected : Bool
  matched : RouteMatchKind
deriving DecidableEq

namespace ScopedCameraRouter

def kBackVirtualCameraId : Text := "1000"

def kFrontVirtualCameraId : Text := "1001"

def kDefaultTargetMapPath : Text := "/data/vendor/camera/vcam/targets.tsv"

def kDefaultCamera1TargetMapPath : Text := "/data/vendor/camera/vcam/camera1-targets.tsv"

def kDefaultCamera1MapPath : Text := "/data/vendor/camera/vcam/camera1-map.tsv"

/-! ## The map readers -/

def legacyTargetSlot (cameraId : Text) : ℤ :=
  if cameraId = ['0'] then 0 else if cameraId = ['1'] then 1 else -1

/-- Visible ID and slot of a line with exactly one tab. -/
def parseTargetMapLine (line : Text) : Option (Text × ℤ) :=
  (splitFirst '\t' line).bind fun p =>
    if p.1 = [] ∨ '\t' ∈ p.2 then none
    else if p.2 = ['0'] then some (p.1, 0)
    else if p.2 = ['1'] then some (p.1, 1)
    else none

/-- The slot of the first line for `cameraId`, `-1` without one. -/
def targetSlotIn (content cameraId : Text) : ℤ :=
  ((getlines content).findSome? fun line =>
    (parseTargetMapLine (popCR line)).bind fun p =>
      if p.1 = cameraId then some p.2 else none).getD (-1)

/-- The visible ID of the first line for `wantedSlot`, empty without one. -/
def visibleIdIn (content : Text) (wantedSlot : ℤ) : Text :=
  ((getlines content).findSome? fun line =>
    (parseTargetMapLine (popCR line)).bind fun p =>
      if p.2 = wantedSlot then some p.1 else none).getD []

/-- Camera2 ID and Camera1 index of a line with exactly one tab. -/
def parseCamera1MapLine (line : Text) : Option (Text × Text) :=
  (splitFirst '\t' line).bind fun p => if p.1 = [] ∨ '\t' ∈ p.2 then none else some p

/-- The index of the first numeric line for `cameraId`, empty without one. -/
def camera1IndexIn (content cameraId : Text) : Text :=
  ((getlines content).findSome? fun line =>
    (parseCamera1MapLine (popCR line)).bind fun p =>
      if p.1 = cameraId ∧ isDigits p.2 then some p.2 else none).getD []

variable (fs : FileSystem)

def targetSlot (cameraId targetMapPath : Text) : ℤ :=
  match fs.openText targetMapPath with
  | none => legacyTargetSlot cameraId
  | some content => targetSlotIn content cameraId

def visibleIdForSlot (wantedSlot : ℤ) (targetMapPath : Text) : Text :=
  match fs.openText targetMapPath with
  | none => if wantedSlot = 0 then ['0'] else ['1']
  | some content => visibleIdIn content wantedSlot

def camera1IndexForId (cameraId camera1MapPath : Text) : Text :=
  match fs.openText camera1MapPath with
  | none => []
  | some content => camera1IndexIn content cameraId

/-! ## Routes -/

def isInternalCameraId (cameraId : Text) : Bool :=
  cameraId == kBackVirtualCameraId || cameraId == kFrontVirtualCameraId

def internalIdForSlot (target : ℤ) : Text :=
  if target = 0 then kBackVirtualCameraId else kFrontVirtualCameraId

def resolve (packageName requestedCameraId routesPath providersPath targetMapPath : Text) :
    ScopedCameraRoute :=
  let target := targetSlot fs requestedCameraId targetMapPath
  if target < 0 then
    ⟨requestedCameraId, requestedCameraId, [], false, true, false, .none⟩
  else
    let selection :=
      RouteResolver.resolveProviderForPackage fs packageName target routesPath providersPath
    if 0 ≤ RouteResolver.physicalIdFromProvider selection.providerId then
      ⟨requestedCameraId, requestedCameraId, selection.providerId, selection.configured,
        selection.available, false, selection.matched⟩
    else
      ⟨requestedCameraId, internalIdForSlot target, selection.providerId, selection.configured,
        selection.available, selection.available, selection.matched⟩

def visibleCameraId (cameraId targetMapPath : Text) : Text :=
  if cameraId = kBackVirtualCameraId then visibleIdForSlot fs 0 targetMapPath
  else if cameraId = kFrontVirtualCameraId then visibleIdForSlot fs 1 targetMapPath
  else cameraId

def physicalCameraIdForProvider (providerId targetMapPath : Text) : Text :=
  let physicalSlot := RouteResolver.physicalIdFromProvider providerId
  if physicalSlot < 0 then [] else visibleIdForSlot fs physicalSlot targetMapPath

/-! ## What the readers return -/

theorem parseTargetMapLine_slot {line id : Text} {slot : ℤ}
    (h : parseTargetMapLine line = some (id, slot)) : (slot = 0 ∨ slot = 1) ∧ id ≠ [] := by
  unfold parseTargetMapLine at h
  obtain ⟨⟨a, b⟩, -, h⟩ := Option.bind_eq_some_iff.mp h
  split_ifs at h with h1 h2 h3
  · obtain ⟨rfl, rfl⟩ : a = id ∧ 0 = slot := by simpa using h
    exact ⟨.inl rfl, fun e => h1 (.inl e)⟩
  · obtain ⟨rfl, rfl⟩ : a = id ∧ 1 = slot := by simpa using h
    exact ⟨.inr rfl, fun e => h1 (.inl e)⟩

theorem targetSlotIn_cases (c camera : Text) :
    targetSlotIn c camera = -1 ∨ targetSlotIn c camera = 0 ∨
      targetSlotIn c camera = 1 := by
  unfold targetSlotIn
  cases hf : (getlines c).findSome? _ with
  | none => exact .inl rfl
  | some slot =>
    obtain ⟨line, -, hl⟩ := List.exists_of_findSome?_eq_some hf
    obtain ⟨⟨id, s⟩, hp, hs⟩ := Option.bind_eq_some_iff.mp hl
    split_ifs at hs with hid
    obtain rfl : s = slot := by simpa using hs
    exact .inr (parseTargetMapLine_slot hp).1

theorem targetSlot_cases (camera targets : Text) :
    targetSlot fs camera targets = -1 ∨ targetSlot fs camera targets = 0 ∨
      targetSlot fs camera targets = 1 := by
  unfold targetSlot
  split
  · unfold legacyTargetSlot
    split_ifs <;> simp
  · exact targetSlotIn_cases ..

theorem exists_line_of_visibleIdIn {c : Text} {slot : ℤ} (h : visibleIdIn c slot ≠ []) :
    ∃ line ∈ getlines c, ∃ s,
      parseTargetMapLine (popCR line) = some (visibleIdIn c slot, s) := by
  unfold visibleIdIn at h ⊢
  cases hf : (getlines c).findSome? _ with
  | none => simp [hf] at h
  | some id =>
    obtain ⟨line, hmem, hl⟩ := List.exists_of_findSome?_eq_some hf
    obtain ⟨p, hpa, hp⟩ := Option.bind_eq_some_iff.mp hl
    split_ifs at hp
    obtain rfl : p.1 = id := by simpa using hp
    exact ⟨line, hmem, p.2, hpa⟩

theorem exists_line_of_camera1IndexIn {c id : Text}
    (h : camera1IndexIn c id ≠ []) :
    ∃ line ∈ getlines c,
      parseCamera1MapLine (popCR line) = some (id, camera1IndexIn c id) ∧
      isDigits (camera1IndexIn c id) = true := by
  unfold camera1IndexIn at h ⊢
  cases hf : (getlines c).findSome? _ with
  | none => simp [hf] at h
  | some index =>
    obtain ⟨line, hmem, hl⟩ := List.exists_of_findSome?_eq_some hf
    obtain ⟨p, hpa, hp⟩ := Option.bind_eq_some_iff.mp hl
    split_ifs at hp with hc
    obtain rfl : p.2 = index := by simpa using hp
    obtain ⟨rfl, hd⟩ := hc
    exact ⟨line, hmem, hpa, hd⟩

theorem isDigits_camera1IndexIn {c id : Text} (h : camera1IndexIn c id ≠ []) :
    isDigits (camera1IndexIn c id) = true :=
  (exists_line_of_camera1IndexIn h).elim fun _ h => h.2.2

theorem isDigits_camera1IndexForId {id indexes : Text}
    (h : camera1IndexForId fs id indexes ≠ []) :
    isDigits (camera1IndexForId fs id indexes) = true := by
  unfold camera1IndexForId at h ⊢
  split at h
  · exact absurd rfl h
  · exact isDigits_camera1IndexIn h

theorem isInternalCameraId_iff {id : Text} : isInternalCameraId id = true ↔
    id = kBackVirtualCameraId ∨ id = kFrontVirtualCameraId := by
  simp [isInternalCameraId]

theorem isInternal_internalIdForSlot (t : ℤ) :
    isInternalCameraId (internalIdForSlot t) = true := by
  unfold internalIdForSlot
  split_ifs <;> decide

/-! ## What a route says -/

variable {fs} {package requested routes providers targets : Text}

theorem resolve_of_neg (h : targetSlot fs requested targets < 0) :
    resolve fs package requested routes providers targets =
      ⟨requested, requested, [], false, true, false, .none⟩ := by
  simp only [resolve, if_pos h]

/-- **When a request is redirected**: its slot is known and the selected provider is available
and not physical. -/
theorem resolve_redirected_iff :
    (resolve fs package requested routes providers targets).redirected =
        true ↔
      0 ≤ targetSlot fs requested targets ∧
      (RouteResolver.resolveProviderForPackage fs package
        (targetSlot fs requested targets) routes providers).available = true ∧
      RouteResolver.physicalIdFromProvider (RouteResolver.resolveProviderForPackage fs package
        (targetSlot fs requested targets) routes providers).providerId < 0 := by
  unfold resolve
  dsimp only
  split_ifs with ht hp
  · simp [not_le.mpr ht]
  · simp [not_lt.mpr hp]
  · simp [not_lt.mp ht, not_le.mp hp]

theorem resolve_providerId (ht : 0 ≤ targetSlot fs requested targets) :
    (resolve fs package requested routes providers targets).providerId =
      (RouteResolver.resolveProviderForPackage fs package
        (targetSlot fs requested targets) routes providers).providerId := by
  unfold resolve
  dsimp only
  rw [if_neg (not_lt.mpr ht)]
  split_ifs <;> rfl

end ScopedCameraRouter

end Vcam
