import AndroidVcam.Lib.TextFile

/-!
# Classified transactions and callers

`runtime/BinderTransactionClassifier.cpp`, `runtime/CameraCallerIdentityClassifier.cpp` and the
recipe of `runtime/platform/Android14CameraServiceProfile.cpp`: a recipe names the role of a Binder
transaction code; the role fixes the shape of the payload and whether it names one camera and carries
a package. The caller is classified by the identity material that came with the request.

* `singleCamera_iff_role`: the eight single-camera roles have the four single-camera shapes.
-/

namespace Vcam

open TextFile

inductive BinderPayloadShape
  | passThrough
  | connectApi1
  | connectDevice
  | stringCameraId
  | integerCameraId
  | listener
  | listenerRemoval
  | concurrentIds
  | concurrentSessionConfiguration
deriving DecidableEq, Repr

namespace BinderPayloadShape

def singleCamera : BinderPayloadShape → Bool
  | connectApi1 | connectDevice | stringCameraId | integerCameraId => true
  | _ => false

def integerId : BinderPayloadShape → Bool
  | connectApi1 | integerCameraId => true
  | _ => false

/-- A callback binder stands before the camera and a package name after it. -/
def connect : BinderPayloadShape → Bool
  | connectApi1 | connectDevice => true
  | _ => false

end BinderPayloadShape

structure BinderTransactionClass where
  code : ℕ
  role : Text
  payloadShape : BinderPayloadShape
  cameraScoped : Bool
  carriesPackageName : Bool
deriving DecidableEq

/-- A line of a recipe: the code of a role. -/
structure BinderTransaction where
  role : Text
  code : ℕ

structure AbiRecipe where
  transactions : List BinderTransaction

def classificationForRole (code : ℕ) (role : Text) : BinderTransactionClass :=
  if role = "connect_api1" then ⟨code, role, .connectApi1, true, true⟩
  else if role = "connect_device" then ⟨code, role, .connectDevice, true, true⟩
  else if role = "get_camera_characteristics" ∨ role = "supports_camera_api" ∨
      role = "set_torch_mode" ∨ role = "turn_on_torch_with_strength" ∨
      role = "get_torch_strength" then ⟨code, role, .stringCameraId, true, false⟩
  else if role = "get_legacy_parameters" then ⟨code, role, .integerCameraId, true, false⟩
  else if role = "add_listener" then ⟨code, role, .listener, false, false⟩
  else if role = "remove_listener" then ⟨code, role, .listenerRemoval, false, false⟩
  else if role = "get_concurrent_camera_ids" then ⟨code, role, .concurrentIds, false, false⟩
  else if role = "concurrent_session_support" then
    ⟨code, role, .concurrentSessionConfiguration, true, false⟩
  else ⟨code, role, .passThrough, false, false⟩

def classifyBinderTransaction (recipe : AbiRecipe) (code : ℕ) : BinderTransactionClass :=
  match recipe.transactions.find? fun candidate => candidate.code == code with
  | none => ⟨code, [], .passThrough, false, false⟩
  | some transaction => classificationForRole code transaction.role

/-- The transaction codes of the initial Android 14 release. -/
def makeAndroid14InitialCameraServiceRecipe : AbiRecipe :=
  ⟨[⟨"connect_api1", 3⟩, ⟨"connect_device", 4⟩, ⟨"add_listener", 5⟩,
    ⟨"get_concurrent_camera_ids", 6⟩, ⟨"concurrent_session_support", 7⟩,
    ⟨"remove_listener", 8⟩, ⟨"get_camera_characteristics", 9⟩,
    ⟨"get_legacy_parameters", 12⟩, ⟨"supports_camera_api", 13⟩,
    ⟨"set_torch_mode", 16⟩, ⟨"turn_on_torch_with_strength", 17⟩,
    ⟨"get_torch_strength", 18⟩]⟩

def singleCameraRoles : List Text :=
  ["connect_api1", "connect_device", "get_camera_characteristics", "supports_camera_api",
    "set_torch_mode", "turn_on_torch_with_strength", "get_torch_strength",
    "get_legacy_parameters"].map String.toList

theorem classify_eq (r : AbiRecipe) (code : ℕ) :
    classifyBinderTransaction r code =
        ⟨code, [], .passThrough, false, false⟩ ∨
      ∃ role, classifyBinderTransaction r code = classificationForRole code role := by
  unfold classifyBinderTransaction
  split
  · exact .inl rfl
  · exact .inr ⟨_, rfl⟩

theorem classificationForRole_role (code : ℕ) (role : Text) :
    (classificationForRole code role).role = role := by
  unfold classificationForRole
  split_ifs <;> rfl

theorem classificationForRole_shape (code code' : ℕ) (role : Text) :
    (classificationForRole code role).payloadShape =
      (classificationForRole code' role).payloadShape := by
  unfold classificationForRole
  split_ifs <;> rfl

theorem cameraScoped_of_singleCamera_role (code : ℕ) (role : Text)
    (h : (classificationForRole code role).payloadShape.singleCamera = true) :
    (classificationForRole code role).cameraScoped = true := by
  unfold classificationForRole at h ⊢
  split_ifs at h ⊢ <;> first | rfl | cases h

theorem carriesPackageName_eq_connect (code : ℕ) (role : Text) :
    (classificationForRole code role).carriesPackageName =
      (classificationForRole code role).payloadShape.connect := by
  unfold classificationForRole
  split_ifs <;> rfl

/-- **A payload that names one camera is camera-scoped.** -/
theorem cameraScoped_of_singleCamera {r : AbiRecipe} {code : ℕ}
    (h : (classifyBinderTransaction r code).payloadShape.singleCamera = true) :
    (classifyBinderTransaction r code).cameraScoped = true := by
  rcases classify_eq r code with e | ⟨role, e⟩
  · rw [e] at h
    cases h
  · rw [e] at h ⊢
    exact cameraScoped_of_singleCamera_role code role h

theorem carriesPackageName_eq {r : AbiRecipe} {code : ℕ} :
    (classifyBinderTransaction r code).carriesPackageName =
      (classifyBinderTransaction r code).payloadShape.connect := by
  rcases classify_eq r code with e | ⟨role, e⟩
  · rw [e]
    rfl
  · rw [e, carriesPackageName_eq_connect]

/-- The eight single-camera roles are the ones with a single-camera shape. -/
theorem singleCamera_iff_role {r : AbiRecipe} {code : ℕ} :
    (classifyBinderTransaction r code).payloadShape.singleCamera = true ↔
      (classifyBinderTransaction r code).role ∈ singleCameraRoles := by
  rcases classify_eq r code with e | ⟨role, e⟩
  · rw [e]
    change (false = true) ↔ ([] : Text) ∈ singleCameraRoles
    decide
  · rw [e, classificationForRole_role]
    simp only [singleCameraRoles, List.map_cons, List.map_nil, List.mem_cons, List.not_mem_nil,
      or_false]
    unfold classificationForRole
    split_ifs with h1 h2 h3 h4 h5 h6 h7 h8 <;>
      simp only [BinderPayloadShape.singleCamera, true_iff, Bool.false_eq_true, false_iff, not_or]
    · exact .inl h1
    · exact .inr (.inl h2)
    · rcases h3 with h | h | h | h | h <;> simp [h]
    · simp [h4]
    · subst h5; decide
    · subst h6; decide
    · subst h7; decide
    · subst h8; decide
    · simp only [not_or] at h3
      exact ⟨h1, h2, h3.1, h3.2.1, h3.2.2.1, h3.2.2.2.1, h3.2.2.2.2, h4⟩

/-! ## Callers -/

inductive CameraCallerIdentityKind
  | notApplicable
  | claimedPackage
  | uidOnly
  | unavailable
deriving DecidableEq, Repr

structure CameraCallerIdentityClassification where
  kind : CameraCallerIdentityKind
  requiresPackageVerification : Bool
deriving DecidableEq

def classifyCameraCallerIdentity (cameraScoped carriesPackageName : Bool)
    (callingUid callingPid : ℤ) (packageName : Text) : CameraCallerIdentityClassification :=
  if !cameraScoped then ⟨.notApplicable, false⟩
  else if callingUid < 0 ∨ callingPid < 0 then ⟨.unavailable, false⟩
  else if carriesPackageName ∧ packageName ≠ [] then ⟨.claimedPackage, true⟩
  else ⟨.uidOnly, false⟩

end Vcam
