import AndroidVcam.Binder.ParcelObserver

/-!
# Protocol evidence

`runtime/Android14ProtocolEvidence.cpp`: for every transaction the router has observed one bit for
its role, in the masks of the roles that were seen, decoded, refused and not supported. The verdict
compares the masks with the roles that a qualification app exercises.

* **`recorded_probeCompatible_iff`**: what the masks of a compatible history are.
-/

namespace Vcam

open TextFile

namespace ProtocolEvidence

def bit (index : UInt64) : UInt64 := 1 <<< index

def kConnectApi1 : UInt64 := bit 0
def kConnectDevice : UInt64 := bit 1
def kAddListener : UInt64 := bit 2
def kConcurrentIds : UInt64 := bit 3
def kConcurrentSessionSupport : UInt64 := bit 4
def kRemoveListener : UInt64 := bit 5
def kGetCharacteristics : UInt64 := bit 6
def kGetLegacyParameters : UInt64 := bit 7
def kSupportsCameraApi : UInt64 := bit 8
def kSetTorchMode : UInt64 := bit 9
def kTurnOnTorchWithStrength : UInt64 := bit 10
def kGetTorchStrength : UInt64 := bit 11

def kRequiredMask : UInt64 :=
  kConnectApi1 ||| kConnectDevice ||| kAddListener ||| kConcurrentIds ||| kRemoveListener |||
    kGetCharacteristics ||| kSupportsCameraApi ||| kSetTorchMode ||| kTurnOnTorchWithStrength |||
    kGetTorchStrength

/-- The roles of the reviewed template with their bits. -/
def roleBits : List (Text × UInt64) :=
  [("connect_api1", kConnectApi1),
    ("connect_device", kConnectDevice),
    ("add_listener", kAddListener),
    ("get_concurrent_camera_ids", kConcurrentIds),
    ("concurrent_session_support", kConcurrentSessionSupport),
    ("remove_listener", kRemoveListener),
    ("get_camera_characteristics", kGetCharacteristics),
    ("get_legacy_parameters", kGetLegacyParameters),
    ("supports_camera_api", kSupportsCameraApi),
    ("set_torch_mode", kSetTorchMode),
    ("turn_on_torch_with_strength", kTurnOnTorchWithStrength),
    ("get_torch_strength", kGetTorchStrength)]

/-- `android14ProtocolRoleBit`: zero for a role outside the template. -/
def roleBit (role : Text) : UInt64 := (roleBits.lookup role).getD 0

inductive Verdict
  | pending
  | rejected
  | probeCompatible
deriving DecidableEq, Repr

def Verdict.name : Verdict → Text
  | pending => "pending"
  | rejected => "rejected"
  | probeCompatible => "probe_compatible"

end ProtocolEvidence

open ProtocolEvidence

structure ProtocolEvidence where
  seenMask : UInt64 := 0
  validMask : UInt64 := 0
  invalidMask : UInt64 := 0
  unsupportedMask : UInt64 := 0
deriving DecidableEq

structure ProtocolEvidenceSnapshot where
  requiredMask : UInt64 := 0
  seenMask : UInt64 := 0
  validMask : UInt64 := 0
  invalidMask : UInt64 := 0
  unsupportedMask : UInt64 := 0
  verdict : Verdict := .pending
deriving DecidableEq

namespace ProtocolEvidence

def mark (evidence : ProtocolEvidence) (roleBit : UInt64) :
    ParcelObservationStatus → ProtocolEvidence
  | .observed => { evidence with validMask := evidence.validMask ||| roleBit }
  | .unsupportedPayload => { evidence with unsupportedMask := evidence.unsupportedMask ||| roleBit }
  | .nullParcel | .malformedHeader | .wrongInterface | .malformedPayload =>
    { evidence with invalidMask := evidence.invalidMask ||| roleBit }
  | .notRoutedTransaction => evidence

def record (evidence : ProtocolEvidence) (observation : ParcelObservation) : ProtocolEvidence :=
  let roleBit := roleBit observation.transaction.role
  if roleBit = 0 then evidence
  else mark { evidence with seenMask := evidence.seenMask ||| roleBit } roleBit observation.status

def recorded (history : List ParcelObservation) : ProtocolEvidence := history.foldl record {}

def verdict (evidence : ProtocolEvidence) : Verdict :=
  if evidence.invalidMask &&& kRequiredMask ≠ 0 ∨ evidence.unsupportedMask &&& kRequiredMask ≠ 0 then
    .rejected
  else if evidence.validMask &&& kRequiredMask = kRequiredMask then .probeCompatible
  else .pending

def snapshot (evidence : ProtocolEvidence) : ProtocolEvidenceSnapshot :=
  ⟨kRequiredMask, evidence.seenMask, evidence.validMask, evidence.invalidMask,
    evidence.unsupportedMask, evidence.verdict⟩

/-! ## Along a history -/

def Counted (evidence : ProtocolEvidence) : Prop :=
  evidence.seenMask ||| evidence.validMask = evidence.seenMask

theorem counted_seen {evidence : ProtocolEvidence} (h : Counted evidence) (roleBit : UInt64) :
    Counted { evidence with seenMask := evidence.seenMask ||| roleBit } :=
  calc (evidence.seenMask ||| roleBit) ||| evidence.validMask
      = (evidence.seenMask ||| evidence.validMask) ||| roleBit := by ac_rfl
    _ = evidence.seenMask ||| roleBit := by rw [h]

theorem counted_valid {evidence : ProtocolEvidence} {roleBit : UInt64} (h : Counted evidence)
    (hs : evidence.seenMask ||| roleBit = evidence.seenMask) :
    Counted { evidence with validMask := evidence.validMask ||| roleBit } :=
  calc evidence.seenMask ||| (evidence.validMask ||| roleBit)
      = (evidence.seenMask ||| evidence.validMask) ||| roleBit := by ac_rfl
    _ = evidence.seenMask := by rw [h, hs]

theorem Counted.record {e : ProtocolEvidence} (h : Counted e)
    (o : ParcelObservation) : Counted (e.record o) := by
  rw [ProtocolEvidence.record]
  split_ifs with hbit
  · exact h
  · have hs := counted_seen h (roleBit o.transaction.role)
    cases o.status with
    | observed =>
      refine counted_valid hs ?_
      show (_ ||| _) ||| _ = _ ||| _
      rw [UInt64.or_assoc, UInt64.or_self]
    | _ => exact hs

theorem counted_recorded (history : List ParcelObservation) : Counted (recorded history) := by
  have hrun : ∀ (history : List ParcelObservation) (evidence : ProtocolEvidence),
      Counted evidence → Counted (history.foldl ProtocolEvidence.record evidence) := by
    intro history
    induction history with
    | nil => exact fun _ h => h
    | cons observation history ih => exact fun evidence h => ih _ (h.record observation)
  exact hrun history {} rfl

theorem and_eq_of_or_eq {a b r : UInt64} (h : b ||| a = b) (hr : a &&& r = r) : b &&& r = r := by
  apply UInt64.toBitVec_inj.mp
  replace h := congrArg UInt64.toBitVec h
  replace hr := congrArg UInt64.toBitVec hr
  rw [UInt64.toBitVec_or] at h
  rw [UInt64.toBitVec_and] at hr ⊢
  ext i hi
  have hbit := congrArg (fun v => v.getLsbD i) h
  have hrb := congrArg (fun v => v.getLsbD i) hr
  simp at hbit hrb ⊢
  grind

theorem verdict_probeCompatible_iff (e : ProtocolEvidence) :
    e.verdict = .probeCompatible ↔
      e.validMask &&& kRequiredMask = kRequiredMask ∧
      e.invalidMask &&& kRequiredMask = 0 ∧
      e.unsupportedMask &&& kRequiredMask = 0 := by
  rw [verdict]
  split_ifs with hbad hv
  · refine iff_of_false nofun fun h => ?_
    exact hbad.elim (fun hi => hi h.2.1) fun hu => hu h.2.2
  · rw [not_or, not_not, not_not] at hbad
    exact iff_of_true rfl ⟨hv, hbad⟩
  · exact iff_of_false nofun fun h => hv h.1

/-- **The masks of a compatible history**: every required role was seen and decoded, and none was
refused or not supported. -/
theorem recorded_probeCompatible_iff (history : List ParcelObservation) :
    (recorded history).verdict = .probeCompatible ↔
      (recorded history).seenMask &&& kRequiredMask = kRequiredMask ∧
      (recorded history).validMask &&& kRequiredMask = kRequiredMask ∧
      (recorded history).invalidMask &&& kRequiredMask = 0 ∧
      (recorded history).unsupportedMask &&& kRequiredMask = 0 := by
  rw [verdict_probeCompatible_iff]
  refine ⟨fun h => ⟨?_, h⟩, fun h => h.2⟩
  exact and_eq_of_or_eq (counted_recorded history) h.1

end ProtocolEvidence

end Vcam
