import AndroidVcam.Lib.A64
import AndroidVcam.Lib.Wire

/-!
# Planning an inline hook

`planArm64InlineHook` steals the first four instructions of a function. It refuses those that cannot
be executed at another address; the test for conditional branches overlooks BC.cond.

* **`ready_iff_relocatable_iff`**: the planner is right exactly when it does not overlook one.
-/

namespace Vcam.Runtime

open A64 Wire

/-! ## The planner -/

inductive Arm64PlanStatus
  | ready
  | invalidAddress
  | insufficientPrologue
  | pcRelativeInstruction
  | controlFlowInstruction
deriving DecidableEq

structure Arm64PatchPlan where
  status : Arm64PlanStatus := .invalidAddress
  message : String := ""
  overwriteSize : ℕ := 0
  resumeAddress : UInt64 := 0
  originalBytes : Bytes := []
  entryPatch : Bytes := []
  trampoline : Bytes := []
deriving DecidableEq

def kOverwriteSize : ℕ := 16

def kBtiCall : ℕ := 0xd503245f

def kLoadIp1FromPcPlus8 : ℕ := 0x58000051

def kBranchIp1 : ℕ := 0xd61f0220

/-- `read32`: the little-endian word at an offset. -/
def read32 (bytes : Bytes) (offset : ℕ) : BitVec 32 :=
  BitVec.ofNat 32 (leValue ((bytes.drop offset).take 4))

def isPcRelative (instruction : BitVec 32) : Bool :=
  let address := instruction &&& 0x1f000000#32 == 0x10000000#32
  let literalLoad := instruction &&& 0x3b000000#32 == 0x18000000#32
  let directBranch := instruction &&& 0x7c000000#32 == 0x14000000#32
  let conditionalBranch := instruction &&& 0xff000010#32 == 0x54000000#32
  let compareBranch := instruction &&& 0x7e000000#32 == 0x34000000#32
  let testBranch := instruction &&& 0x7e000000#32 == 0x36000000#32
  address || literalLoad || directBranch || conditionalBranch || compareBranch || testBranch

def isRegisterControlFlow (instruction : BitVec 32) : Bool :=
  instruction &&& 0xfe000000#32 == 0xd6000000#32

def failure (status : Arm64PlanStatus) (message : String) : Arm64PatchPlan :=
  { status := status, message := message }

def absoluteBranch (address : UInt64) : Bytes :=
  leBytes 4 kLoadIp1FromPcPlus8 ++ leBytes 4 kBranchIp1 ++ leBytes 8 address.toNat

/-- The loop over the stolen instructions: the first one that is refused. -/
def refusal (bytes : Bytes) : List ℕ → Option Arm64PatchPlan
  | [] => none
  | offset :: offsets =>
    let instruction := read32 bytes offset
    if isPcRelative instruction then
      some (failure .pcRelativeInstruction
        "stolen ARM64 prologue contains a PC-relative instruction")
    else if isRegisterControlFlow instruction then
      some (failure .controlFlowInstruction
        "stolen ARM64 prologue contains a control-flow instruction")
    else refusal bytes offsets

def stolenOffsets : List ℕ := [0, 4, 8, 12]

def planArm64InlineHook (targetAddress replacementAddress : UInt64) (targetPrologue : Bytes) :
    Arm64PatchPlan :=
  if targetAddress = 0 ∨ replacementAddress = 0 ∨ targetAddress &&& 3 ≠ 0 ∨
      replacementAddress &&& 3 ≠ 0 ∨ targetAddress.toNat > 2 ^ 64 - 1 - kOverwriteSize then
    failure .invalidAddress "ARM64 target and replacement must be non-zero, aligned addresses"
  else if targetPrologue.length < kOverwriteSize then
    failure .insufficientPrologue "ARM64 hook requires at least 16 verified prologue bytes"
  else
    match refusal targetPrologue stolenOffsets with
    | some plan => plan
    | none =>
      let original := targetPrologue.take kOverwriteSize
      let resume := targetAddress + 16
      { status := .ready
        message := "ARM64 patch bytes are relocatable; no executable memory was modified"
        overwriteSize := kOverwriteSize
        resumeAddress := resume
        originalBytes := original
        entryPatch := absoluteBranch replacementAddress
        trampoline := leBytes 4 kBtiCall ++ original ++ absoluteBranch resume }

/-! ## Masks and encoding groups -/

variable {w : BitVec 32}

theorem isPcRelative_iff : isPcRelative w = true ↔ ∃ e ∈ [pcRelativeAddressing, loadRegisterLiteral,
    branchImmediate, branchConditional, compareAndBranch, testAndBranch], e.Matches w := by
  have hm (e : Encoding) (mask value : BitVec 32) (hm : e.mask = mask) (hv : e.value = value) :
      (w &&& mask == value) = true ↔ e.Matches w := by
    rw [beq_iff_eq, ← hm, ← hv, Encoding.and_mask_iff]
  simp only [isPcRelative, Bool.or_eq_true, List.mem_cons, List.not_mem_nil, or_false,
    exists_eq_or_imp, exists_eq_left]
  rw [hm pcRelativeAddressing _ _ (by decide +kernel) (by decide +kernel),
    hm loadRegisterLiteral _ _ (by decide +kernel) (by decide +kernel),
    hm branchImmediate _ _ (by decide +kernel) (by decide +kernel),
    hm branchConditional _ _ (by decide +kernel) (by decide +kernel),
    hm compareAndBranch _ _ (by decide +kernel) (by decide +kernel),
    hm testAndBranch _ _ (by decide +kernel) (by decide +kernel)]
  simp only [or_assoc]

theorem isRegisterControlFlow_iff : isRegisterControlFlow w = true ↔ branchRegister.Matches w := by
  have hm : branchRegister.mask = 0xfe000000#32 := by decide +kernel
  have hv : branchRegister.value = 0xd6000000#32 := by decide +kernel
  rw [isRegisterControlFlow, beq_iff_eq, ← hm, ← hv, Encoding.and_mask_iff]

/-! ## What a plan is for -/

/-- A word of a group that depends on its address. -/
def Immovable (w : BitVec 32) : Prop := ∃ e ∈ positionDependent, e.Matches w

/-- The two functions are where they can be, and the target reaches behind the stolen bytes. -/
structure Placed (target replacement : UInt64) (prologue : Bytes) : Prop where
  target_ne : target ≠ 0
  replacement_ne : replacement ≠ 0
  target_aligned : target.toNat % 4 = 0
  replacement_aligned : replacement.toNat % 4 = 0
  fits : target.toNat + 16 < 2 ^ 64
  long : 16 ≤ prologue.length

structure Relocatable (target replacement : UInt64) (prologue : Bytes) : Prop extends
    Placed target replacement prologue where
  movable : ∀ offset ∈ stolenOffsets, ¬ Immovable (read32 prologue offset)

/-- The only stolen instructions that cannot be moved are BC.cond. -/
structure Overlooks (target replacement : UInt64) (prologue : Bytes) : Prop extends
    Placed target replacement prologue where
  consistent : ∃ offset ∈ stolenOffsets, branchConsistent.Matches (read32 prologue offset)
  others : ∀ offset ∈ stolenOffsets, ∀ e ∈ positionDependent, e ≠ branchConsistent →
    ¬ e.Matches (read32 prologue offset)

theorem movable_iff : isPcRelative w = false ∧ isRegisterControlFlow w = false ↔
    ∀ e ∈ positionDependent, e ≠ branchConsistent → ¬ e.Matches w := by
  have hgr : positionDependent.filter (· ≠ branchConsistent) = [pcRelativeAddressing,
      loadRegisterLiteral, branchImmediate, branchConditional, compareAndBranch, testAndBranch] ++
      [branchRegister] := by decide
  have hmem (e : Encoding) : e ∈ positionDependent ∧ e ≠ branchConsistent ↔
      e ∈ [pcRelativeAddressing, loadRegisterLiteral, branchImmediate, branchConditional,
        compareAndBranch, testAndBranch] ∨ e = branchRegister := by
    rw [← List.mem_singleton, ← List.mem_append, ← hgr, List.mem_filter, decide_eq_true_iff]
  rw [← Bool.not_eq_true, ← Bool.not_eq_true, isPcRelative_iff, isRegisterControlFlow_iff]
  constructor
  · rintro ⟨hr, hre⟩ e he hne hm
    rcases (hmem e).mp ⟨he, hne⟩ with hg | rfl
    · exact hr ⟨e, hg, hm⟩
    · exact hre hm
  · intro h
    refine ⟨fun ⟨e, hg, hm⟩ => ?_, fun hm => ?_⟩
    · obtain ⟨he, hne⟩ := (hmem e).mpr (.inl hg)
      exact h e he hne hm
    · obtain ⟨he, hne⟩ := (hmem branchRegister).mpr (.inr rfl)
      exact h branchRegister he hne hm

theorem refusal_eq_none_iff {b : Bytes} {o : List ℕ} :
    refusal b o = none ↔ ∀ offset ∈ o, ∀ e ∈ positionDependent,
      e ≠ branchConsistent → ¬ e.Matches (read32 b offset) := by
  induction o with
  | nil => exact iff_of_true rfl nofun
  | cons offset o ih =>
    rw [List.forall_mem_cons, ← movable_iff, ← ih, refusal]
    cases isPcRelative (read32 b offset) <;>
      cases isRegisterControlFlow (read32 b offset) <;> simp

theorem status_refusal {b : Bytes} {o : List ℕ} {plan : Arm64PatchPlan}
    (h : refusal b o = some plan) : plan.status ≠ .ready := by
  induction o with
  | nil => cases h
  | cons offset o ih =>
    rw [refusal] at h
    split_ifs at h
    · obtain rfl := Option.some.inj h
      nofun
    · obtain rfl := Option.some.inj h
      nofun
    · exact ih h

theorem and_three_iff (a : UInt64) : a &&& 3 = 0 ↔ a.toNat % 4 = 0 := by
  rw [← UInt64.toNat_inj, UInt64.toNat_and]
  exact Eq.congr_left (Nat.and_two_pow_sub_one_eq_mod a.toNat 2)

variable {target replacement : UInt64} {prologue : Bytes}

theorem Placed.addresses (h : Placed target replacement prologue) :
    ¬(target = 0 ∨ replacement = 0 ∨ target &&& 3 ≠ 0 ∨ replacement &&& 3 ≠ 0 ∨
      target.toNat > 2 ^ 64 - 1 - kOverwriteSize) := by
  have hf := h.fits
  rintro (hz | hz | ha | ha | hw)
  · exact h.target_ne hz
  · exact h.replacement_ne hz
  · exact ha ((and_three_iff target).mpr h.target_aligned)
  · exact ha ((and_three_iff replacement).mpr h.replacement_aligned)
  · rw [kOverwriteSize] at hw
    omega

/-- **When the planner is ready.** -/
theorem ready_iff : (planArm64InlineHook target replacement prologue).status = .ready ↔
    Placed target replacement prologue ∧ ∀ offset ∈ stolenOffsets, ∀ e ∈ positionDependent,
      e ≠ branchConsistent → ¬ e.Matches (read32 prologue offset) := by
  rw [planArm64InlineHook, ← refusal_eq_none_iff]
  split_ifs with had hs
  · exact iff_of_false nofun fun ⟨h, _⟩ => h.addresses had
  · exact iff_of_false nofun fun ⟨h, _⟩ => absurd h.long (not_le.mpr hs)
  · have hp : Placed target replacement prologue := by
      simp only [not_or, not_not, not_lt] at had hs
      obtain ⟨ht, hr, ha, ha', hf⟩ := had
      refine ⟨ht, hr, (and_three_iff target).mp ha,
        (and_three_iff replacement).mp ha', ?_, hs⟩
      rw [kOverwriteSize] at hf
      omega
    cases hre : refusal prologue stolenOffsets with
    | none => exact iff_of_true rfl ⟨hp, rfl⟩
    | some plan => exact iff_of_false (status_refusal hre) fun h => nomatch h.2

/-- **The planner is right about a prologue exactly when it does not overlook a BC.cond in it.** -/
theorem ready_iff_relocatable_iff (target replacement : UInt64) (prologue : Bytes) :
    ((planArm64InlineHook target replacement prologue).status = .ready ↔
      Relocatable target replacement prologue) ↔ ¬ Overlooks target replacement prologue := by
  rw [ready_iff]
  constructor
  · intro h hov
    obtain ⟨offset, ho, hm⟩ := hov.consistent
    have hmo := (h.mp ⟨hov.toPlaced, hov.others⟩).movable offset ho
    exact hmo ⟨branchConsistent, by decide, hm⟩
  · intro h
    constructor
    · rintro ⟨hp, hot⟩
      refine ⟨hp, fun offset ho ⟨e, he, hm⟩ => ?_⟩
      by_cases heq : e = branchConsistent
      · exact h ⟨hp, ⟨offset, ho, heq ▸ hm⟩, hot⟩
      · exact hot offset ho e he heq hm
    · intro hr
      exact ⟨hr.toPlaced, fun offset ho e he _ hm =>
        hr.movable offset ho ⟨e, he, hm⟩⟩

/-- `BC.EQ` to itself and three `NOP`. -/
def consistentPrologue : Bytes :=
  leBytes 4 0x54000010 ++ leBytes 4 0xd503201f ++ leBytes 4 0xd503201f ++ leBytes 4 0xd503201f

/-- A conditional branch is copied into the trampoline. -/
theorem branchConsistent_planned :
    ¬ ((planArm64InlineHook 0x1000 0x2000 consistentPrologue).status = .ready ↔
      Relocatable 0x1000 0x2000 consistentPrologue) := by
  intro h
  have hr : (planArm64InlineHook 0x1000 0x2000 consistentPrologue).status = .ready := by
    decide
  exact (h.mp hr).movable 0 (by decide) ⟨branchConsistent, by decide, by decide⟩

end Vcam.Runtime
