import AndroidVcam.Runtime.PatchMemory

/-!
# Planner and installer agree on what a plan is

`planArm64InlineHook` appends the bytes of a plan, `Arm64PatchInstallTransaction::validPlan` reads
words out of them. The two are inverse: a plan of the planner is valid at every trampoline address
that fits, and a valid plan holds what the planner builds.

* `checked_of_validPlan`, `validPlan_of_checked`: what `validPlan` has checked;
* **`planner_installer_agree`**: a plan is valid exactly when the planner builds it.
-/

namespace Vcam.Runtime

open Wire List

/-! ## The plan that is built -/

/-- The plan that `planArm64InlineHook` returns when nothing is refused. -/
def readyPlan (targetAddress replacementAddress : UInt64) (targetPrologue : Bytes) :
    Arm64PatchPlan where
  status := .ready
  message := "ARM64 patch bytes are relocatable; no executable memory was modified"
  overwriteSize := kOverwriteSize
  resumeAddress := targetAddress + 16
  originalBytes := targetPrologue.take kOverwriteSize
  entryPatch := absoluteBranch replacementAddress
  trampoline := leBytes 4 kBtiCall ++ targetPrologue.take kOverwriteSize ++
    absoluteBranch (targetAddress + 16)

/-- `planArm64InlineHook` without the loop over the stolen instructions. -/
def planUnchecked (targetAddress replacementAddress : UInt64) (targetPrologue : Bytes) :
    Arm64PatchPlan :=
  if targetAddress = 0 ∨ replacementAddress = 0 ∨ targetAddress &&& 3 ≠ 0 ∨
      replacementAddress &&& 3 ≠ 0 ∨ targetAddress.toNat > 2 ^ 64 - 1 - kOverwriteSize then
    failure .invalidAddress "ARM64 target and replacement must be non-zero, aligned addresses"
  else if targetPrologue.length < kOverwriteSize then
    failure .insufficientPrologue "ARM64 hook requires at least 16 verified prologue bytes"
  else readyPlan targetAddress replacementAddress targetPrologue

variable {target replacement : UInt64} {prologue : Bytes}

theorem planArm64InlineHook_eq (h : refusal prologue stolenOffsets = none) :
    planArm64InlineHook target replacement prologue = planUnchecked target replacement prologue := by
  rw [planArm64InlineHook, planUnchecked, h]
  rfl

theorem planUnchecked_of_placed (h : Placed target replacement prologue) :
    planUnchecked target replacement prologue = readyPlan target replacement prologue := by
  rw [planUnchecked, if_neg h.addresses]
  exact if_neg (not_lt.mpr h.long)

theorem plan_of_ready (h : (planArm64InlineHook target replacement prologue).status = .ready) :
    Placed target replacement prologue ∧
      planArm64InlineHook target replacement prologue = readyPlan target replacement prologue := by
  obtain ⟨hp, hm⟩ := ready_iff.mp h
  refine ⟨hp, ?_⟩
  rw [planArm64InlineHook_eq (refusal_eq_none_iff.mpr hm), planUnchecked_of_placed hp]

/-! ## Words that are written and words that are read -/

theorem toNat_add_sixteen (h : target.toNat + 16 < 2 ^ 64) :
    (target + 16).toNat = target.toNat + 16 := by
  rw [UInt64.toNat_add]
  exact Nat.mod_eq_of_lt h

theorem read32_eq_iff {b : Bytes} {o word : ℕ} (hlen : o + 4 ≤ b.length)
    (h : word < 2 ^ 32) :
    read32 b o = BitVec.ofNat 32 word ↔ (b.drop o).take 4 = leBytes 4 word := by
  have ht : ((b.drop o).take 4).length = 4 := by simp; omega
  have hlt : leValue ((b.drop o).take 4) < 2 ^ 32 := by
    have := leValue_lt ((b.drop o).take 4)
    rwa [ht] at this
  rw [read32, ← BitVec.toNat_inj, BitVec.toNat_ofNat, BitVec.toNat_ofNat, Nat.mod_eq_of_lt hlt,
    Nat.mod_eq_of_lt h, leValue_eq_iff ht h]

theorem read64_eq_iff {b : Bytes} {o : ℕ} {word : UInt64}
    (hlen : o + 8 ≤ b.length) :
    read64 b o = word.toNat ↔ (b.drop o).take 8 = leBytes 8 word.toNat :=
  leValue_eq_iff (by simp; omega) word.toNat_lt

/-- **The branch that is written is the branch that is read.** -/
theorem eq_absoluteBranch_iff {b : Bytes} {a : UInt64} (hlen : b.length = 16) :
    b = absoluteBranch a ↔
      read32 b 0 = BitVec.ofNat 32 kLoadIp1FromPcPlus8 ∧
      read32 b 4 = BitVec.ofNat 32 kBranchIp1 ∧ read64 b 8 = a.toNat := by
  rw [read32_eq_iff (by omega) (by decide), read32_eq_iff (by omega) (by decide),
    read64_eq_iff (by omega), absoluteBranch, drop_zero]
  have hl : (b.drop 8).take 8 = b.drop 8 := take_of_length_le (by simp; omega)
  have hr : (b.drop 4).take 4 ++ b.drop 8 = b.drop 4 := by
    have h := take_append_drop 4 (b.drop 4)
    rwa [drop_drop] at h
  constructor
  · rintro rfl
    simp [leBytes]
  · rintro ⟨h₀, h₄, h₈⟩
    rw [← h₀, ← h₄, ← h₈, hl, append_assoc, hr, take_append_drop]

theorem length_absoluteBranch (a : UInt64) : (absoluteBranch a).length = 16 := by
  simp [absoluteBranch]

theorem read32_drop (b : Bytes) (s o : ℕ) :
    read32 (b.drop s) o = read32 b (s + o) := by
  rw [read32, read32, drop_drop]

theorem read64_drop (b : Bytes) (s o : ℕ) :
    read64 (b.drop s) o = read64 b (s + o) := by
  rw [read64, read64, drop_drop]

namespace Transaction

variable {tx : Transaction}

def encodedReplacement (tx : Transaction) : UInt64 := UInt64.ofNat (read64 tx.plan.entryPatch 8)

theorem toNat_encodedReplacement (h : tx.plan.entryPatch.length = 16) :
    tx.encodedReplacement.toNat = read64 tx.plan.entryPatch 8 := by
  have hlt := leValue_lt ((tx.plan.entryPatch.drop 8).take 8)
  have hlen : ((tx.plan.entryPatch.drop 8).take 8).length = 8 := by simp [h]
  rw [hlen] at hlt
  exact UInt64.toNat_ofNat_of_lt' hlt

/-- What `exactPlannerShape` reads, as bytes. -/
structure Shaped (tx : Transaction) : Prop where
  replacement_ne : tx.encodedReplacement ≠ 0
  replacement_aligned : tx.encodedReplacement.toNat % 4 = 0
  entry : tx.plan.entryPatch = absoluteBranch tx.encodedReplacement
  trampoline : tx.plan.trampoline =
    leBytes 4 kBtiCall ++ tx.plan.originalBytes ++ absoluteBranch tx.plan.resumeAddress

theorem trampoline_eq_iff {t o branch : Bytes}
    (ho : o.length = 16) :
    t = leBytes 4 kBtiCall ++ o ++ branch ↔
      t.take 4 = leBytes 4 kBtiCall ∧ o = (t.drop 4).take 16 ∧
        t.drop 20 = branch := by
  constructor
  · rintro rfl
    refine ⟨by simp [append_assoc], by simp [append_assoc, ho], ?_⟩
    exact drop_left' (by simp [ho])
  · rintro ⟨hbti, hm, rfl⟩
    have hr := take_append_drop 16 (t.drop 4)
    rw [drop_drop] at hr
    rw [← hbti, hm, append_assoc, hr, take_append_drop]

theorem exactPlannerShape_iff (hs : tx.plan.overwriteSize = 16)
    (he : tx.plan.entryPatch.length = 16) (ho : tx.plan.originalBytes.length = 16)
    (ht : tx.plan.trampoline.length = 36) :
    tx.exactPlannerShape = true ↔ tx.Shaped := by
  have hr := toNat_encodedReplacement he
  have hz : read64 tx.plan.entryPatch 8 = 0 ↔ tx.encodedReplacement = 0 := by
    rw [← hr, ← UInt64.toNat_inj]
    rfl
  have hb : tx.plan.trampoline.drop 20 = absoluteBranch tx.plan.resumeAddress ↔ _ :=
    eq_absoluteBranch_iff (by simp [ht])
  rw [read32_drop, read32_drop, read64_drop] at hb
  have hbti : read32 tx.plan.trampoline 0 = BitVec.ofNat 32 kBtiCall ↔ _ :=
    read32_eq_iff (by omega) (by decide)
  simp only [exactPlannerShape, hs, ho, Bool.and_eq_true, beq_iff_eq, decide_eq_true_iff]
  constructor
  · rintro ⟨⟨⟨⟨⟨⟨⟨⟨hl, hj⟩, hne⟩, ha⟩, hpad⟩, hm⟩, hl'⟩, hj'⟩, hre⟩
    refine ⟨mt hz.mpr hne, hr ▸ ha, ?_, ?_⟩
    · exact (eq_absoluteBranch_iff he).mpr ⟨hl, hj, hr.symm⟩
    · exact (trampoline_eq_iff ho).mpr ⟨hbti.mp hpad, hm,
        hb.mpr ⟨hl', hj', hre⟩⟩
  · intro h
    obtain ⟨hl, hj, -⟩ := (eq_absoluteBranch_iff he).mp h.entry
    obtain ⟨hpad, hm, hrs⟩ := (trampoline_eq_iff ho).mp h.trampoline
    obtain ⟨hl', hj', hre⟩ := hb.mp hrs
    exact ⟨⟨⟨⟨⟨⟨⟨⟨hl, hj⟩, mt hz.mp h.replacement_ne⟩,
      hr ▸ h.replacement_aligned⟩, hbti.mpr hpad⟩, hm⟩, hl'⟩, hj'⟩, hre⟩

/-- What `validPlan` has checked but for the place of the trampoline. -/
structure Checked (tx : Transaction) : Prop extends Shaped tx where
  ready : tx.plan.status = .ready
  target_ne : tx.targetAddress ≠ 0
  trampoline_ne : tx.trampolineAddress ≠ 0
  target_aligned : tx.targetAddress.toNat % 4 = 0
  trampoline_aligned : tx.trampolineAddress.toNat % 4 = 0
  overwrite : tx.plan.overwriteSize = 16
  original : tx.plan.originalBytes.length = 16
  fits : tx.targetAddress.toNat + 16 < 2 ^ 64
  resume : tx.plan.resumeAddress = tx.targetAddress + 16

theorem rangeEnd_target (hf : tx.targetAddress.toNat + 16 < 2 ^ 64) :
    rangeEnd tx.targetAddress 16 = some (tx.targetAddress.toNat + 16) := by
  rw [rangeEnd, if_neg (by omega)]

theorem fits_of_rangeEnd {a : UInt64} {last : ℕ} (h : rangeEnd a 16 = some last) :
    a.toNat + 16 < 2 ^ 64 := by
  by_contra hw
  rw [rangeEnd, if_pos (.inr (by omega))] at h
  cases h

theorem checked_of_validPlan (h : tx.validPlan = true) : tx.Checked := by
  unfold validPlan at h
  split at h
  · cases h
  rename_i hs
  push Not at hs
  obtain ⟨hre, hta, ht, ha, ha', ho, he, hor, hlen⟩ :=
    hs
  rw [ho] at he hor hlen
  split at h
  · cases h
  rename_i targetEnd hend
  rw [ho] at hend
  split_ifs at h with hr hsh
  rw [Bool.not_eq_true', Bool.not_eq_false] at hsh
  have hf : tx.targetAddress.toNat + 16 < 2 ^ 64 := fits_of_rangeEnd hend
  refine ⟨(exactPlannerShape_iff ho he hor hlen).mp hsh, hre, hta,
    ht, (and_three_iff _).mp ha, (and_three_iff _).mp ha', ho,
    hor, hf, ?_⟩
  rw [← UInt64.toNat_inj, toNat_add_sixteen hf, not_not.mp hr, eq_add_of_rangeEnd hend]
  rfl

theorem validPlan_of_checked (h : tx.Checked) (hn : tx.precompiled = none)
    (ha : tx.apart (tx.targetAddress.toNat + 16) 36 = true) : tx.validPlan = true := by
  have he : tx.plan.entryPatch.length = 16 := by rw [h.entry, length_absoluteBranch]
  have hlen : tx.plan.trampoline.length = 36 := by
    rw [h.trampoline]
    simp [h.original, length_absoluteBranch]
  have hr : tx.plan.resumeAddress.toNat = tx.targetAddress.toNat + 16 := by
    rw [h.resume, toNat_add_sixteen h.fits]
  have hs : ¬ (tx.plan.status ≠ .ready ∨ tx.targetAddress = 0 ∨ tx.trampolineAddress = 0 ∨
      tx.targetAddress &&& 3 ≠ 0 ∨ tx.trampolineAddress &&& 3 ≠ 0 ∨
      tx.plan.overwriteSize ≠ kOverwriteSize ∨
      tx.plan.entryPatch.length ≠ tx.plan.overwriteSize ∨
      tx.plan.originalBytes.length ≠ tx.plan.overwriteSize ∨
      tx.plan.trampoline.length ≠ 4 + tx.plan.overwriteSize + kAbsoluteBranchSize) := by
    rw [h.overwrite]
    push Not
    exact ⟨h.ready, h.target_ne, h.trampoline_ne, (and_three_iff _).mpr h.target_aligned,
      (and_three_iff _).mpr h.trampoline_aligned, rfl, he, h.original, hlen⟩
  rw [validPlan, if_neg hs, h.overwrite, rangeEnd_target h.fits]
  dsimp only
  rw [if_neg (not_not_intro hr),
    (exactPlannerShape_iff h.overwrite he h.original hlen).mpr h.toShaped, hn, hlen]
  exact ha

end Transaction

open Transaction

theorem encodedReplacement_readyPlan (t : UInt64) (c : Bool) :
    (Transaction.mk target t none (readyPlan target replacement prologue)
      c).encodedReplacement = replacement := by
  have hr : read64 (absoluteBranch replacement) 8 = replacement.toNat :=
    ((eq_absoluteBranch_iff (length_absoluteBranch _)).mp rfl).2.2
  rw [encodedReplacement, readyPlan, hr, UInt64.ofNat_toNat]

/-- A plan of the planner has the checked shape at every address. -/
theorem checked_readyPlan (h : Placed target replacement prologue) {trampoline : UInt64}
    (hne : trampoline ≠ 0) (ha : trampoline.toNat % 4 = 0) (c : Bool) :
    (Transaction.mk target trampoline none (readyPlan target replacement prologue)
      c).Checked where
  replacement_ne := by
    rw [encodedReplacement_readyPlan]
    exact h.replacement_ne
  replacement_aligned := by
    rw [encodedReplacement_readyPlan]
    exact h.replacement_aligned
  entry := by
    rw [encodedReplacement_readyPlan]
    rfl
  trampoline := rfl
  ready := rfl
  target_ne := h.target_ne
  trampoline_ne := hne
  target_aligned := h.target_aligned
  trampoline_aligned := ha
  overwrite := rfl
  original := length_take_of_le h.long
  fits := h.fits
  resume := rfl

theorem validPlan_of_ready (h : (planArm64InlineHook target replacement prologue).status = .ready)
    {t : UInt64} (hne : t ≠ 0) (ha : t.toNat % 4 = 0) (hf : t.toNat + 36 < 2 ^ 64)
    (hd : Disjoint (Set.Ico t.toNat (t.toNat + 36)) (Set.Ico target.toNat (target.toNat + 16)))
    (c : Bool) :
    (Transaction.mk target t none (planArm64InlineHook target replacement prologue)
      c).validPlan = true := by
  obtain ⟨hp, hpl⟩ := plan_of_ready h
  rw [hpl]
  refine validPlan_of_checked (checked_readyPlan hp hne ha c) rfl ?_
  have hap : target.toNat + 16 ≤ t.toNat ∨ t.toNat + 36 ≤ target.toNat := by
    have := Set.Ico_disjoint_Ico.mp hd
    omega
  rw [apart, rangeEnd, if_neg (by change ¬ (_ ∨ t.toNat > _); omega)]
  simpa using hap

/-- **Planner and installer agree on what a plan is.** -/
theorem planner_installer_agree :
    (∀ (target replacement : UInt64) (prologue : Bytes),
      (planArm64InlineHook target replacement prologue).status = .ready →
      ∀ (trampoline : UInt64) (complete : Bool), trampoline ≠ 0 → trampoline.toNat % 4 = 0 →
        trampoline.toNat + 36 < 2 ^ 64 →
        Disjoint (Set.Ico trampoline.toNat (trampoline.toNat + 36))
          (Set.Ico target.toNat (target.toNat + 16)) →
        (Transaction.mk target trampoline none (planArm64InlineHook target replacement prologue)
          complete).validPlan = true) ∧
    ∀ tx : Transaction, tx.validPlan = true →
      let built := planUnchecked tx.targetAddress tx.encodedReplacement tx.plan.originalBytes
      tx.plan.entryPatch = built.entryPatch ∧ tx.plan.trampoline = built.trampoline ∧
        tx.plan.originalBytes = built.originalBytes ∧
        tx.plan.overwriteSize = built.overwriteSize ∧
        tx.plan.resumeAddress = built.resumeAddress := by
  constructor
  · exact fun _ _ _ hr _ complete hne ha hf hd => validPlan_of_ready hr hne ha hf hd complete
  · intro tx h
    have hc := checked_of_validPlan h
    have hp : Placed tx.targetAddress tx.encodedReplacement tx.plan.originalBytes :=
      ⟨hc.target_ne, hc.replacement_ne, hc.target_aligned,
        hc.replacement_aligned, hc.fits, hc.original.ge⟩
    have ht : tx.plan.originalBytes.take kOverwriteSize = tx.plan.originalBytes :=
      take_of_length_le hc.original.le
    rw [planUnchecked_of_placed hp]
    refine ⟨hc.entry, ?_, ht.symm, hc.overwrite, hc.resume⟩
    rw [hc.trampoline, hc.resume, readyPlan, ht]

theorem planner_installer_agree_nopHook : nopHook.validPlan = true ∧
    nopHook.plan.trampoline = (planUnchecked 0x1000 0x2000 nopPrologue).trampoline := by
  have hv : nopHook.validPlan = true :=
    planner_installer_agree.1 0x1000 0x2000 nopPrologue (by decide) 0x3000 true (by decide)
      (by decide) (by decide) (Set.Ico_disjoint_Ico.mpr (by decide))
  have he : nopHook.encodedReplacement = 0x2000 := by decide
  have ho : nopHook.plan.originalBytes = nopPrologue := by decide
  refine ⟨hv, ?_⟩
  rw [(planner_installer_agree.2 nopHook hv).2.1, he, ho]
  rfl

end Vcam.Runtime
