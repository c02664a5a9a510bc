import AndroidVcam.Lib.Masks
import AndroidVcam.Evidence.ProtocolEvidence

/-!
# Protocol evidence over whole histories

The masks of `Android14ProtocolEvidence` as sets of roles. After any history a mask holds the bits
of the roles that were observed with a status of its kind, in whatever order and however often:
the snapshot is a function of the set of pairs of role and status.

* **`marks_recorded`**: the masks after a history;
* **`evidence_of_pairs`**: order and repetition do not matter, a rejection is final, and what the
  verdict says.
-/

namespace Vcam

open TextFile List

namespace ProtocolEvidence

open Masks

/-! ## Roles and their bits -/

def positions (mask : UInt64) : Set ℕ := members mask.toBitVec

theorem positions_injective : Function.Injective positions := fun _ _ h =>
  UInt64.toBitVec_inj.mp (members_injective h)

@[simp]
theorem positions_zero : positions 0 = ∅ := members_zero

@[simp]
theorem positions_or (a b : UInt64) : positions (a ||| b) = positions a ∪ positions b := by
  rw [positions, UInt64.toBitVec_or, members_or]
  rfl

theorem and_eq_zero_iff (a b : UInt64) : a &&& b = 0 ↔ ∀ i ∈ positions b, i ∉ positions a := by
  rw [← UInt64.toBitVec_inj, UInt64.toBitVec_and]
  exact Masks.and_eq_zero_iff _ _

theorem and_eq_right_iff (a b : UInt64) : a &&& b = b ↔ ∀ i ∈ positions b, i ∈ positions a := by
  rw [← UInt64.toBitVec_inj, UInt64.toBitVec_and]
  exact Masks.and_eq_right_iff _ _

def Required (role : Text) : Prop := ∃ i ∈ positions kRequiredMask, i ∈ positions (roleBit role)

theorem nodup_roleBits : (roleBits.map Prod.fst).Nodup := by
  unfold roleBits
  simp only [-String.reduceToList, map_cons, map_nil]
  repeat rw [String.toList_ofList]
  decide

theorem roleBits_disjoint : roleBits.Pairwise fun p q => p.2 &&& q.2 = 0 := by
  decide

variable {i : ℕ} (kind : Set ParcelObservationStatus) (history : List ParcelObservation)

theorem mem_roleBits {role : Text} (h : i ∈ positions (roleBit role)) :
    (role, roleBit role) ∈ roleBits := by
  cases hl : roleBits.lookup role with
  | none =>
    rw [roleBit, hl, Option.getD_none, positions_zero] at h
    exact absurd h (Set.notMem_empty i)
  | some mask =>
    obtain ⟨before, behind, hr, -⟩ := lookup_eq_some_iff.mp hl
    rw [roleBit, hl, Option.getD_some, hr]
    exact mem_append_right _ mem_cons_self

theorem roleBit_of_mem {role : Text} {mask : UInt64} (h : (role, mask) ∈ roleBits) :
    roleBit role = mask := by
  obtain ⟨before, behind, hr⟩ := append_of_mem h
  have hn := nodup_roleBits
  rw [hr, map_append, map_cons] at hn
  have hb : role ∉ before.map Prod.fst := fun hmem =>
    (nodup_append.mp hn).2.2 role hmem role mem_cons_self rfl
  have hl : roleBits.lookup role = some mask := by
    refine lookup_eq_some_iff.mpr ⟨before, behind, hr, fun p hp => ?_⟩
    exact bne_iff_ne.mpr fun he => hb (he ▸ mem_map_of_mem hp)
  rw [roleBit, hl, Option.getD_some]

theorem role_unique {role other : Text} (h : i ∈ positions (roleBit role))
    (ho : i ∈ positions (roleBit other)) : role = other := by
  by_contra hne
  have : Std.Symm fun p q : Text × UInt64 => p.2 &&& q.2 = 0 :=
    ⟨fun p q he => (UInt64.and_comm q.2 p.2).trans he⟩
  have hd := roleBits_disjoint.forall (mem_roleBits h) (mem_roleBits ho)
    fun he => hne (congrArg Prod.fst he)
  exact (and_eq_zero_iff _ _).mp hd i ho h

theorem exists_required (h : i ∈ positions kRequiredMask) :
    ∃ role, Required role ∧ i ∈ positions (roleBit role) := by
  have hlt : i < 64 := BitVec.lt_of_getLsbD h
  have hb : ∀ i < 64, kRequiredMask.toBitVec.getLsbD i = true →
      ∃ p ∈ roleBits, p.2.toBitVec.getLsbD i = true := by decide
  obtain ⟨p, hp, hbit⟩ := hb i hlt h
  have hr : i ∈ positions (roleBit p.1) := by
    rw [roleBit_of_mem hp]
    exact hbit
  exact ⟨p.1, ⟨i, h, hr⟩, hr⟩

/-! ## The masks after a history -/

def invalidStatuses : Set ParcelObservationStatus :=
  {.nullParcel, .malformedHeader, .wrongInterface, .malformedPayload}

/-- The bits of the roles that were observed with a status of a kind. -/
def marked (kind : Set ParcelObservationStatus) (history : List ParcelObservation) : Set ℕ :=
  {i | ∃ observation ∈ history, observation.status ∈ kind ∧
    i ∈ positions (roleBit observation.transaction.role)}

theorem mem_marked_concat {kind : Set ParcelObservationStatus} {history : List ParcelObservation}
    {o : ParcelObservation} :
    i ∈ marked kind (history ++ [o]) ↔ i ∈ marked kind history ∨
      o.status ∈ kind ∧ i ∈ positions (roleBit o.transaction.role) := by
  simp [marked, or_and_right, exists_or]

/-- The masks hold the roles of a history, each with the statuses of its kind. -/
structure Marks (history : List ParcelObservation) (evidence : ProtocolEvidence) : Prop where
  seen : positions evidence.seenMask = marked Set.univ history
  valid : positions evidence.validMask = marked {.observed} history
  invalid : positions evidence.invalidMask = marked invalidStatuses history
  unsupported : positions evidence.unsupportedMask = marked {.unsupportedPayload} history

theorem marks_nil : Marks [] {} := by
  have hn : ∀ kind, positions 0 = marked kind [] := by
    intro kind
    ext i
    simp [marked]
  exact ⟨hn _, hn _, hn _, hn _⟩

section Mark

variable (e : ProtocolEvidence) (roleBit : UInt64) (s : ParcelObservationStatus) (i : ℕ)

theorem mem_mark_seenMask : i ∈ positions (mark e roleBit s).seenMask ↔
    i ∈ positions e.seenMask := by
  cases s <;> rfl

theorem mem_mark_validMask : i ∈ positions (mark e roleBit s).validMask ↔
    i ∈ positions e.validMask ∨ s ∈ ({.observed} : Set _) ∧ i ∈ positions roleBit := by
  cases s <;> simp [mark]

theorem mem_mark_invalidMask : i ∈ positions (mark e roleBit s).invalidMask ↔
    i ∈ positions e.invalidMask ∨ s ∈ invalidStatuses ∧ i ∈ positions roleBit := by
  cases s <;> simp [mark, invalidStatuses]

theorem mem_mark_unsupportedMask : i ∈ positions (mark e roleBit s).unsupportedMask ↔
    i ∈ positions e.unsupportedMask ∨
      s ∈ ({.unsupportedPayload} : Set _) ∧ i ∈ positions roleBit := by
  cases s <;> simp [mark]

end Mark

theorem Marks.record {history : List ParcelObservation} {e : ProtocolEvidence}
    (h : Marks history e) (o : ParcelObservation) :
    Marks (history ++ [o]) (e.record o) := by
  rw [ProtocolEvidence.record]
  split_ifs with hz
  · -- A role outside the template has no bit that the history could mark.
    have hs : ∀ kind, marked kind (history ++ [o]) = marked kind history := by
      intro kind
      ext i
      rw [mem_marked_concat, hz, positions_zero, or_iff_left fun ha => ha.2]
    constructor <;> rw [hs]
    exacts [h.seen, h.valid, h.invalid, h.unsupported]
  · constructor <;> ext i <;> rw [mem_marked_concat]
    · rw [mem_mark_seenMask, positions_or, h.seen, Set.mem_union, and_iff_right (Set.mem_univ _)]
    · rw [mem_mark_validMask, h.valid]
    · rw [mem_mark_invalidMask, h.invalid]
    · rw [mem_mark_unsupportedMask, h.unsupported]

/-- **The masks after a history.** -/
theorem marks_recorded : Marks history (recorded history) := by
  induction history using reverseRecOn with
  | nil => exact marks_nil
  | append_singleton history observation ih =>
    rw [recorded, foldl_append]
    exact ih.record observation

/-! ## The verdict -/

def pair (observation : ParcelObservation) : Text × ParcelObservationStatus :=
  (observation.transaction.role, observation.status)

theorem marked_congr {history other : List ParcelObservation}
    (h : ∀ p, p ∈ history.map pair ↔ p ∈ other.map pair) (kind : Set ParcelObservationStatus) :
    marked kind history = marked kind other := by
  have hp : ∀ (history : List ParcelObservation) (i : ℕ), i ∈ marked kind history ↔
      ∃ p ∈ history.map pair, p.2 ∈ kind ∧ i ∈ positions (roleBit p.1) := by
    intro history i
    simp [marked, pair]
  ext i
  rw [hp, hp]
  exact exists_congr fun p => and_congr_left' (h p)

attribute [ext] ProtocolEvidence

theorem recorded_congr {history other : List ParcelObservation}
    (h : ∀ p, p ∈ history.map pair ↔ p ∈ other.map pair) : recorded history = recorded other := by
  have hl := marks_recorded history
  have hr := marks_recorded other
  refine ProtocolEvidence.ext (positions_injective ?_) (positions_injective ?_)
    (positions_injective ?_) (positions_injective ?_)
  · rw [hl.seen, hr.seen, marked_congr h]
  · rw [hl.valid, hr.valid, marked_congr h]
  · rw [hl.invalid, hr.invalid, marked_congr h]
  · rw [hl.unsupported, hr.unsupported, marked_congr h]

theorem marked_required_iff :
    (∀ i ∈ positions kRequiredMask, i ∉ marked kind history) ↔
      ∀ observation ∈ history, Required observation.transaction.role → observation.status ∉ kind := by
  constructor
  · rintro h observation hmem ⟨i, hi, hbit⟩ hk
    exact h i hi ⟨observation, hmem, hk, hbit⟩
  · rintro h i hi ⟨observation, hmem, hk, hbit⟩
    exact h observation hmem ⟨i, hi, hbit⟩ hk

theorem required_marked_iff :
    (∀ i ∈ positions kRequiredMask, i ∈ marked kind history) ↔
      ∀ role, Required role → ∃ observation ∈ history,
        observation.transaction.role = role ∧ observation.status ∈ kind := by
  constructor
  · rintro h role ⟨i, hi, hbit⟩
    obtain ⟨observation, hmem, hk, ho⟩ := h i hi
    exact ⟨observation, hmem, role_unique ho hbit, hk⟩
  · intro h i hi
    obtain ⟨role, hr, hbit⟩ := exists_required hi
    obtain ⟨observation, hmem, rfl, hk⟩ := h role hr
    exact ⟨observation, hmem, hk, hbit⟩

/-- The statuses that reject a required role. -/
def Against (status : ParcelObservationStatus) : Prop :=
  status ∈ invalidStatuses ∨ status = .unsupportedPayload

theorem verdict_rejected_iff (e : ProtocolEvidence) :
    e.verdict = .rejected ↔ ¬ (e.invalidMask &&& kRequiredMask = 0 ∧
      e.unsupportedMask &&& kRequiredMask = 0) := by
  rw [verdict, not_and_or]
  split_ifs with hbad hv
  · exact iff_of_true rfl hbad
  · exact iff_of_false (by decide) hbad
  · exact iff_of_false (by decide) hbad

/-- No required role was recorded invalid or unsupported. -/
theorem not_against_iff :
    ((recorded history).invalidMask &&& kRequiredMask = 0 ∧
        (recorded history).unsupportedMask &&& kRequiredMask = 0) ↔
      ∀ observation ∈ history, Required observation.transaction.role →
        ¬ Against observation.status := by
  have hm := marks_recorded history
  rw [and_eq_zero_iff, and_eq_zero_iff, hm.invalid, hm.unsupported, marked_required_iff,
    marked_required_iff]
  constructor
  · rintro ⟨hi, hu⟩ observation hmem hr (ha | ha)
    · exact hi observation hmem hr ha
    · exact hu observation hmem hr ha
  · intro h
    exact ⟨fun observation hmem hr ha => h observation hmem hr (.inl ha),
      fun observation hmem hr ha => h observation hmem hr (.inr ha)⟩

theorem rejected_iff :
    (recorded history).verdict = .rejected ↔ ∃ observation ∈ history,
      Required observation.transaction.role ∧ Against observation.status := by
  rw [verdict_rejected_iff, not_against_iff]
  push Not
  rfl

theorem probeCompatible_iff :
    (recorded history).verdict = .probeCompatible ↔
      (∀ role, Required role → ∃ observation ∈ history,
        observation.transaction.role = role ∧ observation.status = .observed) ∧
      ∀ observation ∈ history, Required observation.transaction.role →
        ¬ Against observation.status := by
  rw [verdict_probeCompatible_iff, not_against_iff, and_eq_right_iff, (marks_recorded history).valid,
    required_marked_iff]
  rfl

/-- **Protocol evidence is the set of what was observed**: order and repetition of the observations
do not matter, a rejection is final, and a probe is compatible when every required role was observed
and none was ever recorded invalid or unsupported. -/
theorem evidence_of_pairs :
    (∀ history other : List ParcelObservation,
      (∀ p, p ∈ history.map pair ↔ p ∈ other.map pair) →
        (recorded history).snapshot = (recorded other).snapshot) ∧
    (∀ history later : List ParcelObservation,
      (recorded history).snapshot.verdict = .rejected →
        (recorded (history ++ later)).snapshot.verdict = .rejected) ∧
    ∀ history : List ParcelObservation,
      (recorded history).snapshot.verdict = .probeCompatible ↔
        (∀ role, Required role → ∃ observation ∈ history,
          observation.transaction.role = role ∧ observation.status = .observed) ∧
        ∀ observation ∈ history, Required observation.transaction.role →
          observation.status ∉ invalidStatuses ∧ observation.status ≠ .unsupportedPayload := by
  refine ⟨fun history other h => by rw [recorded_congr h], fun history later h => ?_,
    fun history => (probeCompatible_iff history).trans ?_⟩
  · obtain ⟨observation, hmem, hr⟩ := (rejected_iff history).mp h
    exact (rejected_iff _).mpr ⟨observation, mem_append_left _ hmem, hr⟩
  · simp only [Against, not_or, ne_eq]

end ProtocolEvidence

end Vcam
