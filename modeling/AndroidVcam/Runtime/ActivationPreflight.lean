import AndroidVcam.Runtime.ProcMaps
import AndroidVcam.Runtime.PlanShape
import AndroidVcam.Lib.Ranges

/-!
# The read-only preflight

`evaluateActivationPreflight` looks at a snapshot of the process before anything is written: at the
mappings, the bytes of the target and the threads.

* `Cleared`: what the target and the threads have to be like;
* **`preflight_exact`**: the answer is ready only when the request is cleared, and it is ready
  whenever a plan of the planner is.
-/

namespace Vcam.Runtime

open TextFile Ranges Transaction List

structure ActivationSnapshot where
  mappings : List ProcessMapEntry := []
  threadIds : List ℤ := []
  currentThreadId : ℤ := -1
  observedTargetBytes : Bytes := []
  collectionError : Text := []

inductive ActivationPreflightStatus
  | readyReadOnly
  | invalidPlan
  | snapshotError
  | targetMappingMissing
  | targetRangeSplit
  | targetPermissionMismatch
  | targetModuleMismatch
  | targetBytesMismatch
  | threadInventoryInvalid
  | currentThreadMissing
deriving DecidableEq

structure ActivationPreflightResult where
  status : ActivationPreflightStatus := .invalidPlan
  message : String := ""
  targetMapping : ProcessMapEntry := ⟨0, 0, false, false, false, false, []⟩
  threadCount : ℕ := 0

namespace Preflight

def basename (path : Text) : Text := (path.reverse.takeWhile (· ≠ '/')).reverse

def result (status : ActivationPreflightStatus) (message : String) : ActivationPreflightResult :=
  { status, message }

/-- The end of the range, when the plan, the address and the name of the module are valid. -/
def validRequest (plan : Arm64PatchPlan) (targetAddress : UInt64) (expectedModuleBasename : Text) :
    Option ℕ :=
  if plan.status ≠ .ready ∨ targetAddress = 0 ∨ targetAddress &&& 3 ≠ 0 ∨ plan.overwriteSize = 0 ∨
      plan.originalBytes.length ≠ plan.overwriteSize then none
  else
    match rangeEnd targetAddress plan.overwriteSize with
    | none => none
    | some targetEnd =>
      if plan.resumeAddress.toNat ≠ targetEnd ∨ expectedModuleBasename = [] ∨
        '/' ∈ expectedModuleBasename then none else some targetEnd

def targetPermitted (mapping : ProcessMapEntry) : Bool :=
  mapping.readable && !mapping.writable && mapping.executable && mapping.privateMapping

def validInventory (snapshot : ActivationSnapshot) : Bool :=
  snapshot.threadIds ≠ [] && decide (0 < snapshot.currentThreadId) &&
    decide (snapshot.threadIds.Pairwise (· ≤ ·)) &&
    !(snapshot.threadIds.any fun tid => decide (tid ≤ 0)) && !adjacentEqual snapshot.threadIds

end Preflight

open Preflight

def evaluateActivationPreflight (plan : Arm64PatchPlan) (targetAddress : UInt64)
    (expectedModuleBasename : Text) (snapshot : ActivationSnapshot) : ActivationPreflightResult :=
  match validRequest plan targetAddress expectedModuleBasename with
  | none => result .invalidPlan "plan, target address or expected module basename is invalid"
  | some targetEnd =>
    if snapshot.collectionError ≠ [] then
      result .snapshotError "current process snapshot collection failed"
    else
      match snapshot.mappings.find? fun entry =>
          decide (entry.start ≤ targetAddress.toNat) && decide (targetAddress.toNat < entry.stop) with
      | none => result .targetMappingMissing "target address is not present in the process map"
      | some mapping =>
        if targetEnd > mapping.stop then
          result .targetRangeSplit "entry patch would cross a process mapping boundary"
        else if !targetPermitted mapping then
          result .targetPermissionMismatch
            "target mapping must be private, readable, executable and not writable"
        else if basename mapping.path ≠ expectedModuleBasename then
          result .targetModuleMismatch "target mapping does not belong to the expected module"
        else if snapshot.observedTargetBytes ≠ plan.originalBytes then
          result .targetBytesMismatch "live target bytes do not match the reviewed ARM64 plan"
        else if !validInventory snapshot then
          result .threadInventoryInvalid "thread inventory is empty, duplicated or invalid"
        else if !binarySearch snapshot.threadIds snapshot.currentThreadId then
          result .currentThreadMissing "current thread is absent from the thread inventory"
        else
          { status := .readyReadOnly
            message :=
              "read-only activation preflight passed; no thread was stopped or memory changed"
            targetMapping := mapping
            threadCount := snapshot.threadIds.length }

/-! ## What is cleared -/

/-- The mapping at index `i` holds the whole range that is overwritten and nothing else does, and
it is private code of the module. -/
structure OwnMapping (mappings : List ProcessMapEntry) (i first size : ℕ)
    (expectedModuleBasename : Text) (mapping : ProcessMapEntry) : Prop where
  get : mappings[i]? = some mapping
  inside : mapping.start ≤ first ∧ first + size ≤ mapping.stop
  alone : ∀ j other, mappings[j]? = some other → j ≠ i →
    other.stop ≤ first ∨ first + size ≤ other.start
  permitted : mapping.privateMapping = true ∧ mapping.readable = true ∧ mapping.executable = true ∧
    mapping.writable = false
  module : basename mapping.path = expectedModuleBasename

/-- What has to hold before anything is written. -/
structure Cleared (plan : Arm64PatchPlan) (targetAddress : UInt64) (expectedModuleBasename : Text)
    (snapshot : ActivationSnapshot) : Prop where
  mapping : ∃ i entry, OwnMapping snapshot.mappings i targetAddress.toNat plan.overwriteSize
    expectedModuleBasename entry
  bytes : snapshot.observedTargetBytes = plan.originalBytes
  increasing : snapshot.threadIds.Pairwise (· < ·)
  positive : ∀ tid ∈ snapshot.threadIds, 0 < tid
  current : snapshot.currentThreadId ∈ snapshot.threadIds

section Evaluate

variable {plan : Arm64PatchPlan} {targetAddress : UInt64} {expectedModuleBasename : Text}
  {snapshot : ActivationSnapshot}

theorem validRequest_eq_some {targetEnd : ℕ}
    (h : validRequest plan targetAddress expectedModuleBasename = some targetEnd) :
    plan.overwriteSize ≠ 0 ∧ targetEnd = targetAddress.toNat + plan.overwriteSize := by
  unfold validRequest at h
  split at h
  · cases h
  · next hv =>
    split at h
    · cases h
    · next last hl =>
      split at h
      · cases h
      · cases h
        simp only [not_or] at hv
        exact ⟨hv.2.2.2.1, eq_add_of_rangeEnd hl⟩

/-- A plan of the planner is a valid request for its target. -/
theorem validRequest_of_ready {r : UInt64} {p : Bytes}
    (hpl : plan = planArm64InlineHook targetAddress r p)
    (hr : plan.status = .ready) (hn : expectedModuleBasename ≠ [])
    (hs : '/' ∉ expectedModuleBasename) :
    validRequest plan targetAddress expectedModuleBasename = some (targetAddress.toNat + 16) := by
  rw [hpl] at hr
  obtain ⟨hp, hsh⟩ := plan_of_ready hr
  have hf := hp.fits
  have hl := hp.long
  have hend : rangeEnd targetAddress (readyPlan targetAddress r p).overwriteSize =
      some (targetAddress.toNat + 16) := by
    rw [show (readyPlan targetAddress r p).overwriteSize = 16 from rfl, rangeEnd,
      if_neg (by omega)]
  rw [hpl, hsh, validRequest, if_neg, hend]
  · refine if_neg ?_
    rintro (h | h | h)
    · exact h (toNat_add_sixteen hf)
    · exact hn h
    · exact hs h
  · rintro (h | h | h | h | h)
    · exact h rfl
    · exact hp.target_ne h
    · exact h ((and_three_iff targetAddress).mpr hp.target_aligned)
    · cases h
    · exact h ((length_take ..).trans (min_eq_left hl))

theorem targetPermitted_iff {m : ProcessMapEntry} : targetPermitted m = true ↔
    m.privateMapping = true ∧ m.readable = true ∧ m.executable = true ∧
      m.writable = false := by
  simp only [targetPermitted, Bool.and_eq_true, Bool.not_eq_true']
  tauto

theorem inventory_iff : (validInventory snapshot = true ∧
      binarySearch snapshot.threadIds snapshot.currentThreadId = true) ↔
    snapshot.threadIds.Pairwise (· < ·) ∧ (∀ tid ∈ snapshot.threadIds, 0 < tid) ∧
      snapshot.currentThreadId ∈ snapshot.threadIds := by
  simp only [validInventory, Bool.and_eq_true, Bool.not_eq_true', any_eq_false,
    decide_eq_true_eq, not_le]
  constructor
  · rintro ⟨⟨⟨⟨⟨hne, hc⟩, hs⟩, hp⟩, hd⟩, hf⟩
    exact ⟨pairwise_lt_of_not_adjacentEqual hs hd, hp,
      (binarySearch_iff hs _).mp hf⟩
  · rintro ⟨hi, hp, hc⟩
    have hs := hi.imp le_of_lt
    exact ⟨⟨⟨⟨⟨ne_nil_of_mem hc, hp _ hc⟩, hs⟩, hp⟩,
      adjacentEqual_of_pairwise_lt hi⟩, (binarySearch_iff hs _).mpr hc⟩

theorem ready_iff_tests : (evaluateActivationPreflight plan targetAddress expectedModuleBasename
      snapshot).status = .readyReadOnly ↔
    ∃ targetEnd mapping, validRequest plan targetAddress expectedModuleBasename = some targetEnd ∧
      snapshot.collectionError = [] ∧
      snapshot.mappings.find? (fun entry => decide (entry.start ≤ targetAddress.toNat) &&
        decide (targetAddress.toNat < entry.stop)) = some mapping ∧
      targetEnd ≤ mapping.stop ∧ targetPermitted mapping = true ∧
      basename mapping.path = expectedModuleBasename ∧
      snapshot.observedTargetBytes = plan.originalBytes ∧ validInventory snapshot = true ∧
      binarySearch snapshot.threadIds snapshot.currentThreadId = true := by
  unfold evaluateActivationPreflight
  cases validRequest plan targetAddress expectedModuleBasename with
  | none => simp [result]
  | some targetEnd =>
    dsimp only
    cases snapshot.mappings.find? _ with
    | none => split_ifs <;> simp [result]
    | some mapping =>
      dsimp only
      split_ifs <;> simp_all [result]

/-- In ascending mappings, the entry found is the only one that meets the range. -/
theorem ownMapping_iff (ha : Ascending snapshot.mappings) {size : ℕ} (hsi : size ≠ 0)
    {f : ℕ} :
    (∃ mapping, snapshot.mappings.find? (fun entry => decide (entry.start ≤ f) &&
        decide (f < entry.stop)) = some mapping ∧ f + size ≤ mapping.stop ∧
        targetPermitted mapping = true ∧ basename mapping.path = expectedModuleBasename) ↔
      ∃ i entry, OwnMapping snapshot.mappings i f size expectedModuleBasename entry := by
  constructor
  · rintro ⟨mapping, hf, hs, hp, hm⟩
    obtain ⟨hh, i, hi, rfl, -⟩ := find?_eq_some_iff_getElem.mp hf
    simp only [Bool.and_eq_true, decide_eq_true_eq] at hh
    refine ⟨i, _, getElem?_eq_getElem hi, ⟨hh.1, hs⟩, ?_,
      targetPermitted_iff.mp hp, hm⟩
    intro j other hj hne
    obtain ⟨hj', rfl⟩ := List.getElem?_eq_some_iff.mp hj
    have hab := pairwise_iff_getElem.mp ha.above
    rcases Nat.lt_or_gt_of_ne hne with hlt | hlt
    · exact .inl ((hab j i hj' hi hlt).trans hh.1)
    · exact .inr (hs.trans (hab i j hi hj' hlt))
  · rintro ⟨i, mapping, hown⟩
    have hin := hown.inside
    have hh : mapping.start ≤ f ∧ f < mapping.stop := ⟨hin.1, by omega⟩
    refine ⟨mapping, ?_, hin.2, targetPermitted_iff.mpr hown.permitted, hown.module⟩
    -- the first entry that holds the address is the one at `i`, because no other does
    cases hf : snapshot.mappings.find? _ with
    | none =>
      have hn := find?_eq_none.mp hf mapping (mem_of_getElem? hown.get)
      simp [hh] at hn
    | some found =>
      obtain ⟨hfo, j, hj, rfl, -⟩ := find?_eq_some_iff_getElem.mp hf
      simp only [Bool.and_eq_true, decide_eq_true_eq] at hfo
      have hsa := ha.unique (getElem?_eq_getElem hj) hown.get hfo hh
      subst hsa
      exact (getElem?_eq_getElem hj).symm.trans hown.get

end Evaluate

/-- **The preflight.** For mappings that `parseProcMapsText` accepted, the answer is ready only when
the whole range lies in one mapping of private code of the module and in no other, the bytes are
those of the plan, and the threads increase, are positive and include the current one. For a plan of
the planner, a complete snapshot and a name of a file, it is ready whenever this holds. -/
theorem preflight_exact (text : Text) (haccepted : (parseProcMapsText text).accepted = true)
    (snapshot : ActivationSnapshot) (hmappings : snapshot.mappings = (parseProcMapsText text).mappings)
    (plan : Arm64PatchPlan) (targetAddress : UInt64) (expectedModuleBasename : Text) :
    ((evaluateActivationPreflight plan targetAddress expectedModuleBasename snapshot).status =
        .readyReadOnly → Cleared plan targetAddress expectedModuleBasename snapshot) ∧
    ∀ replacement prologue, plan = planArm64InlineHook targetAddress replacement prologue →
      plan.status = .ready → snapshot.collectionError = [] → expectedModuleBasename ≠ [] →
      '/' ∉ expectedModuleBasename → Cleared plan targetAddress expectedModuleBasename snapshot →
      (evaluateActivationPreflight plan targetAddress expectedModuleBasename snapshot).status =
        .readyReadOnly := by
  have ha : Ascending snapshot.mappings := hmappings ▸ (ascending_of_accepted haccepted).2
  constructor
  · intro hr
    obtain ⟨targetEnd, mapping, hre, -, hf, hs, hp, hm, hb, hi,
      hcu⟩ := ready_iff_tests.mp hr
    obtain ⟨hsi, rfl⟩ := validRequest_eq_some hre
    obtain ⟨hin, hpo, hme⟩ := inventory_iff.mp ⟨hi, hcu⟩
    exact ⟨(ownMapping_iff ha hsi).mp ⟨mapping, hf, hs, hp, hm⟩, hb,
      hin, hpo, hme⟩
  · intro replacement prologue hpl hr hco hn hsl hc
    have hsi : plan.overwriteSize = 16 := by
      have hsh := (plan_of_ready (hpl ▸ hr)).2
      rw [hpl, hsh]
      rfl
    have hma := hc.mapping
    rw [hsi] at hma
    obtain ⟨mapping, hf, hs, hp, hm⟩ :=
      (ownMapping_iff ha (by decide)).mpr hma
    obtain ⟨hi, hcu⟩ :=
      inventory_iff.mpr ⟨hc.increasing, hc.positive, hc.current⟩
    exact ready_iff_tests.mpr ⟨_, mapping, validRequest_of_ready hpl hr hn hsl, hco,
      hf, hs, hp, hm, hc.bytes, hi, hcu⟩

/-- Four times `NOP` in a private mapping, and two threads. -/
def nopSnapshot : ActivationSnapshot where
  mappings := printedEntries threeLines
  threadIds := [7, 9]
  currentThreadId := 9
  observedTargetBytes := nopPrologue

theorem ascending_threeLines : Ascending (printedEntries threeLines) := ⟨by decide, by decide⟩

theorem cleared_nopSnapshot : Cleared (planArm64InlineHook 0x1000 0x2000 nopPrologue) 0x1000
    "my lib.so" nopSnapshot where
  mapping := by
    refine ⟨0, _, rfl, by decide, fun j other hj hne => ?_, by decide, by decide⟩
    match j, hj with
    | 0, _ => exact absurd rfl hne
    | 1, hj =>
      cases hj
      decide
    | j + 2, hj => cases hj
  bytes := by decide
  increasing := by decide
  positive := by decide
  current := by decide

theorem preflight_exact_nopSnapshot :
    (evaluateActivationPreflight (planArm64InlineHook 0x1000 0x2000 nopPrologue) 0x1000
      "my lib.so" nopSnapshot).status = .readyReadOnly := by
  have hp := parse_mapsText wellFormed_threeLines (by decide) ascending_threeLines
  exact (preflight_exact (mapsText threeLines) (by rw [hp]) nopSnapshot (by rw [hp]; rfl) _ _
    _).2 0x2000 nopPrologue rfl (by decide) rfl (by decide) (by decide) cleared_nopSnapshot

end Vcam.Runtime
