import AndroidVcam.Runtime.PatchTransaction

/-!
# What a patch transaction leaves in memory

The backend may fail at every call. A read that succeeds returns the bytes in memory, a write that
succeeds stores its bytes, and one that fails may leave anything inside its own range. Nobody else
writes the target or the trampoline.

* `Transaction.Committing`, `Transaction.Removing`: what the two windows end in, with
  `committing_of_installs` and `removing_of_removes`;
* `Transaction.Reaches`: what a sequence of calls can lead to;
* **`state_tells_memory`**: the state says what the target holds;
* **`status_tells_memory`**: so does the status of a call.
-/

namespace Vcam.Runtime

open Dialogue Dialogue.Program List Follows

/-! ## Memory -/

abbrev Memory := ℕ → UInt8

def bytesAt (memory : Memory) (address : UInt64) (size : ℕ) : Bytes :=
  (range size).map fun offset => memory (address.toNat + offset)

def InRange (address : UInt64) (size place : ℕ) : Prop :=
  address.toNat ≤ place ∧ place < address.toNat + size

theorem bytesAt_congr {m m' : Memory} {a : UInt64} {size : ℕ}
    (h : ∀ place, InRange a size place → m' place = m place) :
    bytesAt m' a size = bytesAt m a size := by
  refine map_congr_left fun offset ho => h _ ⟨Nat.le_add_right _ _, ?_⟩
  exact Nat.add_lt_add_left (mem_range.mp ho) _

namespace Transaction

variable (tx : Transaction)

/-- The size of the code at the address of the trampoline. -/
def trampolineSize : ℕ :=
  match tx.precompiled with
  | some trampoline => trampoline.codeSize.toNat
  | none => tx.plan.trampoline.length

def Guarded (place : ℕ) : Prop :=
  InRange tx.targetAddress kOverwriteSize place ∨
    InRange tx.trampolineAddress tx.trampolineSize place

/-- The guarded places outside of `changed` stay as they are. -/
def Keeps (changed : ℕ → Prop) (memory memory' : Memory) : Prop :=
  ∀ place, tx.Guarded place → ¬ changed place → memory' place = memory place

def Effect (memory : Memory) (event : PatchEvent) (memory' : Memory) : Prop :=
  match event with
  | ⟨.read address size, answer⟩ =>
    (∀ bytes, answer = some bytes → bytes = bytesAt memory address size) ∧
      tx.Keeps (fun _ => False) memory memory'
  | ⟨.write address bytes, written⟩ =>
    (written = true → bytesAt memory' address bytes.length = bytes) ∧
      tx.Keeps (InRange address bytes.length) memory memory'
  | _ => tx.Keeps (fun _ => False) memory memory'

def target (memory : Memory) : Bytes := bytesAt memory tx.targetAddress kOverwriteSize

/-- A trampoline that the transaction writes itself is in its place. -/
def Staged (memory : Memory) : Prop :=
  tx.precompiled = none →
    bytesAt memory tx.trampolineAddress tx.plan.trampoline.length = tx.plan.trampoline

/-- What `validPlan` has checked about sizes and ranges. -/
structure Fits : Prop where
  overwrite : tx.plan.overwriteSize = kOverwriteSize
  entry : tx.plan.entryPatch.length = kOverwriteSize
  original : tx.plan.originalBytes.length = kOverwriteSize
  trampoline : tx.plan.trampoline.length = 4 + kOverwriteSize + kAbsoluteBranchSize
  apart : tx.precompiled = none →
    tx.targetAddress.toNat + kOverwriteSize ≤ tx.trampolineAddress.toNat ∨
      tx.trampolineAddress.toNat + tx.plan.trampoline.length ≤ tx.targetAddress.toNat

variable {tx} {memory memory' : Memory} {events : List PatchEvent}
  {status : PatchInstallStatus} {state : PatchInstallState}

theorem of_apart {targetEnd size : ℕ} (h : tx.apart targetEnd size = true) :
    targetEnd ≤ tx.trampolineAddress.toNat ∨
      tx.trampolineAddress.toNat + size ≤ tx.targetAddress.toNat := by
  unfold apart at h
  split at h
  · cases h
  · rename_i trampolineEnd hend
    rw [← eq_add_of_rangeEnd hend]
    simpa using h

theorem fits_of_validPlan (h : tx.validPlan = true) : tx.Fits := by
  unfold validPlan at h
  split at h
  · cases h
  rename_i hs
  push Not at hs
  obtain ⟨-, -, -, -, -, ho, he, hor, ht⟩ := hs
  rw [ho] at he hor ht
  refine ⟨ho, he, hor, ht, fun hn => ?_⟩
  split at h
  · cases h
  rename_i targetEnd hend
  split_ifs at h
  rw [hn] at h
  rw [← ho, ← eq_add_of_rangeEnd hend]
  exact of_apart h

/-! ## Single calls -/

theorem Keeps.target (h : tx.Keeps (fun _ => False) memory memory') :
    tx.target memory' = tx.target memory :=
  bytesAt_congr fun place hp => h place (.inl hp) id

theorem Keeps.staged (h : tx.Keeps (fun _ => False) memory memory') (hs : tx.Staged memory) :
    tx.Staged memory' := by
  intro hn
  refine (bytesAt_congr fun place hp => h place (.inr ?_) id).trans (hs hn)
  rwa [trampolineSize, hn]

theorem Effect.writeTarget (hf : tx.Fits) {b : Bytes} {w : Bool}
    (hb : b.length = kOverwriteSize)
    (h : tx.Effect memory ⟨.write tx.targetAddress b, w⟩ memory') :
    (w = true → tx.target memory' = b) ∧ (tx.Staged memory → tx.Staged memory') := by
  obtain ⟨hw, hk⟩ := h
  rw [hb] at hw hk
  refine ⟨hw, fun hs hn => ?_⟩
  have ha := hf.apart hn
  refine (bytesAt_congr fun place hp => hk place (.inr ?_) ?_).trans (hs hn)
  · rwa [trampolineSize, hn]
  · unfold InRange at hp ⊢
    omega

theorem Effect.writeTrampoline (hf : tx.Fits) {w : Bool} (hn : tx.precompiled = none)
    (h : tx.Effect memory ⟨.write tx.trampolineAddress tx.plan.trampoline, w⟩ memory') :
    (w = true → tx.Staged memory') ∧ tx.target memory' = tx.target memory := by
  obtain ⟨hw, hk⟩ := h
  refine ⟨fun ht _ => hw ht, bytesAt_congr fun place hp => ?_⟩
  have ha := hf.apart hn
  refine hk place (.inl hp) ?_
  unfold InRange at hp ⊢
  omega

/-! ## Inside the window -/

theorem target_of_stages {f : Option PatchInstallStatus} (hf : tx.Fits)
    (hst : tx.Stages events f) (h : Follows tx.Effect memory events memory') :
    tx.target memory' = tx.target memory ∧ (f = none → tx.Staged memory') := by
  cases hst with
  | unbound hso | bound hso =>
    simp only [cons_iff, nil_iff] at h
    obtain ⟨memory₁, hb, rfl⟩ := h
    refine ⟨Keeps.target hb, fun _ hn => ?_⟩
    rw [hso] at hn
    cases hn
  | unwritten hn =>
    simp only [cons_iff, nil_iff] at h
    obtain ⟨memory₁, hw, rfl⟩ := h
    exact ⟨(hw.writeTrampoline hf hn).2, nofun⟩
  | unsynchronized hn =>
    simp only [cons_iff, nil_iff] at h
    obtain ⟨memory₁, hw, memory₂, hs, rfl⟩ := h
    exact ⟨(Keeps.target hs).trans (hw.writeTrampoline hf hn).2, nofun⟩
  | written hn =>
    simp only [cons_iff, nil_iff] at h
    obtain ⟨memory₁, hw, memory₂, hs, rfl⟩ := h
    obtain ⟨hsta, ht⟩ := hw.writeTrampoline hf hn
    exact ⟨(Keeps.target hs).trans ht, fun _ => Keeps.staged hs (hsta rfl)⟩

variable (tx) in
/-- What the window of `commit` ends in: the patch is in memory, nobody knows what is, or the target
is as before. -/
inductive Committing : PatchInstallStatus → PatchInstallState → Memory → Prop
  | done {memory : Memory} (htarget : tx.target memory = tx.plan.entryPatch)
      (hstaged : tx.Staged memory) : Committing .ok .committed memory
  | lost {memory : Memory} : Committing .rollbackFailed .failed memory
  | undone {status : PatchInstallStatus} {state : PatchInstallState} {memory : Memory}
      (hstatus : status ∉ [.ok, .invalidState, .coordinationFailed])
      (hstate : state = .rolledBack ∨ state = .failed)
      (htarget : tx.target memory = tx.plan.originalBytes) : Committing status state memory

theorem committing_of_restores (hf : tx.Fits) (hr : tx.Restores events status state)
    (h : Follows tx.Effect memory events memory') : tx.Committing status state memory' := by
  cases hr with
  | unwritten | unsynchronized => exact .lost
  | restored =>
    simp only [cons_iff, nil_iff] at h
    obtain ⟨memory₁, hw, memory₂, hs, rfl⟩ := h
    obtain ⟨ht, -⟩ := hw.writeTarget hf hf.original
    exact .undone (by decide) (.inl rfl) ((Keeps.target hs).trans (ht rfl))

theorem committing_of_patches (hf : tx.Fits) (hpa : tx.Patches events status state)
    (h : Follows tx.Effect memory events memory') (hst : tx.Staged memory)
    (ht : tx.target memory = tx.plan.originalBytes) : tx.Committing status state memory' := by
  cases hpa with
  | unpublished =>
    simp only [cons_iff, nil_iff] at h
    obtain ⟨memory₁, hp, rfl⟩ := h
    exact .undone (by decide) (.inr rfl) ((Keeps.target hp).trans ht)
  | unwritten hr =>
    simp only [cons_iff] at h
    obtain ⟨-, -, memory₂, -, hre⟩ := h
    exact committing_of_restores hf hr hre
  | unsynchronized hr =>
    simp only [cons_iff] at h
    obtain ⟨-, -, -, -, memory₃, -, hre⟩ := h
    exact committing_of_restores hf hr hre
  | patched =>
    simp only [cons_iff, nil_iff] at h
    obtain ⟨memory₁, hp, memory₂, hw, memory₃, hs, rfl⟩ := h
    obtain ⟨he, hk⟩ := hw.writeTarget hf hf.entry
    exact .done ((Keeps.target hs).trans (he rfl))
      (Keeps.staged hs (hk (Keeps.staged hp hst)))

theorem committing_of_installs (hf : tx.Fits) (hi : tx.Installs events status state)
    (h : Follows tx.Effect memory events memory')
    (ht : tx.target memory = tx.plan.originalBytes) : tx.Committing status state memory' := by
  cases hi with
  | unread | mismatch =>
    simp only [cons_iff, nil_iff] at h
    obtain ⟨memory₁, hr, rfl⟩ := h
    exact .undone (by decide) (.inr rfl) ((Keeps.target hr.2).trans ht)
  | unstaged hs =>
    obtain ⟨memory₁, hr, hre⟩ := cons_iff.mp h
    obtain ⟨hk, -⟩ := target_of_stages hf hs hre
    refine .undone ?_ (.inr rfl) (hk.trans ((Keeps.target hr.2).trans ht))
    cases hs <;> decide
  | staged hrd hp =>
    obtain ⟨memory₁, hr, hre⟩ := cons_iff.mp h
    obtain ⟨memory₂, hfi, hl⟩ := append_iff.mp hre
    obtain ⟨hk, hst⟩ := target_of_stages hf hrd hfi
    exact committing_of_patches hf hp hl (hst rfl)
      (hk.trans ((Keeps.target hr.2).trans ht))

variable (tx) in
/-- What the window of `rollback` ends in. -/
inductive Removing : PatchInstallStatus → PatchInstallState → Memory → Prop
  | done {memory : Memory} (htarget : tx.target memory = tx.plan.originalBytes) :
      Removing .ok .rolledBack memory
  | lost {status : PatchInstallStatus} {memory : Memory}
      (hstatus : status = .rollbackWriteFailed ∨ status = .rollbackFailed) :
      Removing status .failed memory
  | undone {status : PatchInstallStatus} {state : PatchInstallState} {memory : Memory}
      (hstatus : status ∉ [.ok, .invalidState, .coordinationFailed])
      (hstate : state = .committed ∨ state = .failed)
      (htarget : tx.target memory = tx.plan.entryPatch) (hstaged : tx.Staged memory) :
      Removing status state memory

theorem removing_of_removes (hf : tx.Fits) (hre : tx.Removes events status state)
    (h : Follows tx.Effect memory events memory')
    (ht : tx.target memory = tx.plan.entryPatch) (hs : tx.Staged memory) :
    tx.Removing status state memory' := by
  cases hre with
  | unread =>
    simp only [cons_iff, nil_iff] at h
    obtain ⟨memory₁, hr, rfl⟩ := h
    exact .undone (by decide) (.inl rfl) ((Keeps.target hr.2).trans ht)
      (Keeps.staged hr.2 hs)
  | mismatch =>
    simp only [cons_iff, nil_iff] at h
    obtain ⟨memory₁, hr, rfl⟩ := h
    exact .undone (by decide) (.inr rfl) ((Keeps.target hr.2).trans ht)
      (Keeps.staged hr.2 hs)
  | unwritten => exact .lost (.inl rfl)
  | unsynchronized => exact .lost (.inr rfl)
  | removed =>
    simp only [cons_iff, nil_iff] at h
    obtain ⟨memory₁, hr, memory₂, hw, memory₃, hsy, rfl⟩ := h
    obtain ⟨ho, -⟩ := hw.writeTarget hf hf.original
    exact .done ((Keeps.target hsy).trans (ho rfl))

/-! ## Whole runs -/

/-- What can hold of the state, of a `prepare` that succeeded and of memory after some calls. Between
them memory may change outside of the guarded ranges. -/
inductive Reaches (tx : Transaction) : PatchInstallState → Bool → Memory → Prop
  | start (memory : Memory) : Reaches tx .empty false memory
  | others {state : PatchInstallState} {prepared : Bool} {memory memory' : Memory}
      (h : Reaches tx state prepared memory) (hkeeps : tx.Keeps (fun _ => False) memory memory') :
      Reaches tx state prepared memory'
  | call {state : PatchInstallState} {prepared : Bool} {memory memory' : Memory} (method : Method)
      {events : List PatchEvent} {outcome : Outcome} (h : Reaches tx state prepared memory)
      (hpath : (method.program tx state).Path events outcome)
      (hfollows : Follows tx.Effect memory events memory') :
      Reaches tx outcome.2 (prepared || decide (method = .prepare ∧ outcome.1.status = .ok)) memory'

/-- What the state says about the plan and about memory. -/
structure Sound (tx : Transaction) (state : PatchInstallState) (memory : Memory) : Prop where
  fits : state = .prepared ∨ state = .committed → tx.Fits
  original : state = .prepared ∨ state = .rolledBack → tx.target memory = tx.plan.originalBytes
  entry : state = .committed → tx.target memory = tx.plan.entryPatch ∧ tx.Staged memory

theorem sound_failed : Sound tx .failed memory := ⟨nofun, nofun, nofun⟩

theorem Sound.keeps (h : Sound tx state memory) (hk : tx.Keeps (fun _ => False) memory memory') :
    Sound tx state memory' where
  fits := h.fits
  original hs := hk.target.trans (h.original hs)
  entry hs :=
    ⟨hk.target.trans (h.entry hs).1, hk.staged (h.entry hs).2⟩

theorem Committing.sound (hf : tx.Fits) (h : tx.Committing status state memory) :
    Sound tx state memory := by
  cases h with
  | done ht hs => exact ⟨fun _ => hf, nofun, fun _ => ⟨ht, hs⟩⟩
  | lost => exact sound_failed
  | undone _ hst ht =>
    obtain rfl | rfl := hst
    · exact ⟨nofun, fun _ => ht, nofun⟩
    · exact sound_failed

theorem Removing.sound (hf : tx.Fits) (h : tx.Removing status state memory) :
    Sound tx state memory := by
  cases h with
  | done ht => exact ⟨nofun, fun _ => ht, nofun⟩
  | lost => exact sound_failed
  | undone _ hst ht hs =>
    obtain rfl | rfl := hst
    · exact ⟨fun _ => hf, nofun, fun _ => ⟨ht, hs⟩⟩
    · exact sound_failed

theorem follows_window {body l : List PatchEvent} (hl : ∀ event ∈ l, event.request = .leave)
    (h : Follows tx.Effect memory (⟨.enter, true⟩ :: (body ++ l)) memory') :
    ∃ memory₁ memory₂, tx.Keeps (fun _ => False) memory memory₁ ∧
      Follows tx.Effect memory₁ body memory₂ ∧ tx.Keeps (fun _ => False) memory₂ memory' := by
  obtain ⟨memory₁, hen, hr⟩ := cons_iff.mp h
  obtain ⟨memory₂, hb, hla⟩ := append_iff.mp hr
  refine ⟨memory₁, memory₂, hen, hb, ?_⟩
  refine hla.invariant (I := tx.Keeps (fun _ => False) memory₂) ?_ fun _ _ _ => rfl
  rintro ⟨request, answer⟩ hev m m' he hk place hg hf
  obtain rfl : request = .leave := hl _ hev
  exact (he place hg hf).trans (hk place hg hf)

variable (tx) in
/-- What a method with a window ends in, when its part ends in one of `ends`. -/
inductive Ending (ends : PatchInstallStatus → PatchInstallState → Memory → Prop)
    (needed before : PatchInstallState) (memory : Memory) :
    List PatchEvent → PatchInstallStatus → PatchInstallState → Memory → Prop
  | refused (h : before ≠ needed) : Ending ends needed before memory [] .invalidState before memory
  | closed {memory' : Memory} (h : before = needed)
      (hkeeps : tx.Keeps (fun _ => False) memory memory') :
      Ending ends needed before memory [⟨.enter, false⟩] .coordinationFailed before memory'
  | ended {events : List PatchEvent} {status : PatchInstallStatus} {state : PatchInstallState}
      {memory' : Memory} (h : before = needed) (hends : ends status state memory') :
      Ending ends needed before memory events status state memory'
  | stuck {events : List PatchEvent} {memory' : Memory} (h : before = needed) :
      Ending ends needed before memory events .coordinationReleaseFailed .failed memory'

variable {ends : PatchInstallStatus → PatchInstallState → Memory → Prop}
  {n : PatchInstallState}

theorem ending_of_windowed {s : List PatchEvent → PatchInstallStatus → PatchInstallState → Prop}
    {b : PatchInstallState} (h : Windowed s n b events status state)
    (hf : Follows tx.Effect memory events memory')
    (hk : ∀ {status state memory memory'}, ends status state memory →
      tx.Keeps (fun _ => False) memory memory' → ends status state memory')
    (hs : ∀ {body status state memory₁ memory₂}, b = n → s body status state →
      tx.Keeps (fun _ => False) memory memory₁ → Follows tx.Effect memory₁ body memory₂ →
      ends status state memory₂) :
    tx.Ending ends n b memory events status state memory' := by
  cases h with
  | refused hb =>
    obtain rfl := nil_iff.mp hf
    exact .refused hb
  | closed hb =>
    simp only [cons_iff, nil_iff] at hf
    obtain ⟨memory₁, he, rfl⟩ := hf
    exact .closed hb he
  | left hb hbo =>
    obtain ⟨memory₁, memory₂, he, hi, hl⟩ := follows_window (by simp) hf
    exact .ended hb (hk (hs hb hbo he hi) hl)
  | stuck hb hbo => exact .stuck hb

theorem Committing.keeps (h : tx.Committing status state memory)
    (hk : tx.Keeps (fun _ => False) memory memory') : tx.Committing status state memory' := by
  cases h with
  | done ht hst => exact .done (hk.target.trans ht) (hk.staged hst)
  | lost => exact .lost
  | undone hs hsta ht => exact .undone hs hsta (hk.target.trans ht)

theorem Removing.keeps (h : tx.Removing status state memory)
    (hk : tx.Keeps (fun _ => False) memory memory') : tx.Removing status state memory' := by
  cases h with
  | done ht => exact .done (hk.target.trans ht)
  | lost hs => exact .lost hs
  | undone hs hsta ht hst =>
    exact .undone hs hsta (hk.target.trans ht) (hk.staged hst)

variable {before : PatchInstallState} {outcome : Outcome}

theorem ending_of_commit (hs : Sound tx before memory)
    (hp : (tx.commit before).Path events outcome)
    (hf : Follows tx.Effect memory events memory') :
    tx.Ending tx.Committing .prepared before memory events outcome.1.status outcome.2 memory' := by
  refine ending_of_windowed (path_commit hp).1 hf Committing.keeps ?_
  intro body status state memory₁ memory₂ hb hi hk hin
  exact committing_of_installs (hs.fits (.inl hb)) hi hin
    (hk.target.trans (hs.original (.inl hb)))

theorem ending_of_rollback (hs : Sound tx before memory)
    (hp : (tx.rollback before).Path events outcome)
    (hf : Follows tx.Effect memory events memory') :
    tx.Ending tx.Removing .committed before memory events outcome.1.status outcome.2 memory' := by
  refine ending_of_windowed (path_rollback hp).1 hf Removing.keeps ?_
  intro body status state memory₁ memory₂ hb hr hk hi
  obtain ⟨ht, hst⟩ := hs.entry hb
  exact removing_of_removes (hs.fits (.inr hb)) hr hi
    (hk.target.trans ht) (hk.staged hst)

theorem Ending.sound (h : tx.Ending ends n before memory events status state memory')
    (hs : Sound tx before memory)
    (he : before = n → ends status state memory' → Sound tx state memory') :
    Sound tx state memory' := by
  cases h with
  | refused => exact hs
  | closed _ hk => exact hs.keeps hk
  | ended hb hend => exact he hb hend
  | stuck => exact sound_failed

theorem sound_prepare (hs : Sound tx before memory)
    (hpa : (tx.prepare before).Path events outcome)
    (hf : Follows tx.Effect memory events memory') : Sound tx outcome.2 memory' := by
  have hp := (path_prepare hpa).1
  generalize outcome.1.status = status at hp
  generalize outcome.2 = state at hp ⊢
  cases hp with
  | refused =>
    obtain rfl := nil_iff.mp hf
    exact hs
  | rejected | unread | mismatch => exact sound_failed
  | prepared he hpl =>
    have hfi := fits_of_validPlan hpl
    simp only [cons_iff, nil_iff] at hf
    obtain ⟨memory₁, ⟨hr, hk⟩, rfl⟩ := hf
    refine ⟨fun _ => hfi, fun _ => hk.target.trans ?_, nofun⟩
    rw [hr _ rfl, hfi.overwrite]
    rfl

/-- **Every call keeps the state in step with memory.** -/
theorem sound_call {m : Method} (hs : Sound tx before memory)
    (hp : (m.program tx before).Path events outcome)
    (hf : Follows tx.Effect memory events memory') : Sound tx outcome.2 memory' := by
  cases m with
  | prepare => exact sound_prepare hs hp hf
  | commit =>
    refine (ending_of_commit hs hp hf).sound hs fun hb he => ?_
    exact he.sound (hs.fits (.inl hb))
  | rollback =>
    refine (ending_of_rollback hs hp hf).sound hs fun hb he => ?_
    exact he.sound (hs.fits (.inr hb))

theorem sound_of_reaches {p : Bool} (h : Reaches tx state p memory) :
    Sound tx state memory := by
  induction h with
  | start memory => exact ⟨nofun, nofun, nofun⟩
  | others _ hk ih => exact ih.keeps hk
  | call method _ hp hf ih => exact sound_call ih hp hf

theorem Ending.ne_empty (h : tx.Ending ends n before memory events status state memory')
    (hb : before ≠ .empty) (he : ends status state memory' → state ≠ .empty) :
    state ≠ .empty := by
  cases h with
  | refused | closed => exact hb
  | ended _ hend => exact he hend
  | stuck => decide

/-- A transaction with a successful `prepare` behind it is not empty again. -/
theorem ne_empty_of_reaches (h : Reaches tx state true memory) : state ≠ .empty := by
  generalize hp : true = prepared at h
  induction h with
  | start => cases hp
  | others _ _ ih => exact ih hp
  | @call before prepared memory memory' method events outcome hr hpa hf ih =>
    have hs := sound_of_reaches hr
    cases method with
    | prepare =>
      have hpr := (path_prepare hpa).1
      generalize outcome.1.status = status at hpr hp
      generalize outcome.2 = state at hpr ⊢
      cases hpr with
      | refused hb => exact hb
      | rejected | unread | mismatch | prepared => decide
    | commit =>
      refine (ending_of_commit hs hpa hf).ne_empty (ih (by simpa using hp)) ?_
      generalize outcome.1.status = status
      generalize outcome.2 = state
      rintro (_ | _ | ⟨-, rfl | rfl, -⟩) <;> decide
    | rollback =>
      refine (ending_of_rollback hs hpa hf).ne_empty (ih (by simpa using hp)) ?_
      generalize outcome.1.status = status
      generalize outcome.2 = state
      rintro (_ | _ | ⟨-, rfl | rfl, -, -⟩) <;> decide

/-- **The state tells what the target holds.** -/
theorem state_tells_memory {tx : Transaction} {state : PatchInstallState} {prepared : Bool}
    {memory : Memory} (h : Reaches tx state prepared memory) :
    (state = .prepared → bytesAt memory tx.targetAddress 16 = tx.plan.originalBytes) ∧
    (state = .committed → bytesAt memory tx.targetAddress 16 = tx.plan.entryPatch ∧
      (tx.precompiled = none →
        bytesAt memory tx.trampolineAddress tx.plan.trampoline.length = tx.plan.trampoline)) ∧
    (state = .rolledBack → bytesAt memory tx.targetAddress 16 = tx.plan.originalBytes) ∧
    (prepared = true → bytesAt memory tx.targetAddress 16 ≠ tx.plan.originalBytes →
      bytesAt memory tx.targetAddress 16 ≠ tx.plan.entryPatch → state = .failed) := by
  have hs := sound_of_reaches h
  refine ⟨fun hst => hs.original (.inl hst), hs.entry,
    fun hst => hs.original (.inr hst), ?_⟩
  rintro rfl ho he
  cases state with
  | empty => exact absurd rfl (ne_empty_of_reaches h)
  | prepared => exact absurd (hs.original (.inl rfl)) ho
  | committed => exact absurd (hs.entry rfl).1 he
  | rolledBack => exact absurd (hs.original (.inr rfl)) ho
  | failed => rfl

def nopPrologue : Bytes := (replicate 4 (Wire.leBytes 4 0xd503201f)).flatten

def nopHook : Transaction := ⟨0x1000, 0x3000, none, planArm64InlineHook 0x1000 0x2000 nopPrologue, true⟩

def nopMemory : Memory := fun place => nopPrologue.getD (place - 0x1000) 0

/-- A write at an address. -/
def written (memory : Memory) (address : UInt64) (bytes : Bytes) : Memory := fun place =>
  if address.toNat ≤ place ∧ place < address.toNat + bytes.length then
    bytes.getD (place - address.toNat) 0
  else memory place

/-- Memory behind some calls that all succeeded. -/
def obey (memory : Memory) (events : List PatchEvent) : Memory :=
  events.foldl (fun memory event => match event.request with
    | .write address bytes => written memory address bytes
    | _ => memory) memory

/-- A backend that does what it is asked for. -/
def serving (memory : Memory) : List PatchEvent → (request : Call) → request.Answer
  | past, .read address size => some (bytesAt (obey memory past) address size)
  | _, .write _ _ => true
  | _, .sync _ _ => true
  | _, .enter => true
  | _, .leave => true
  | _, .publish _ => true
  | _, .bind _ => true

theorem bytesAt_written (m : Memory) (a : UInt64) (bytes : Bytes) :
    bytesAt (written m a bytes) a bytes.length = bytes := by
  refine ext_getElem (by simp [bytesAt]) fun i _ hi => ?_
  simp [bytesAt, written, hi]

theorem effect_serving (m : Memory) (past : List PatchEvent) (request : Call) :
    tx.Effect (obey m past) ⟨request, serving m past request⟩
      (obey m (past ++ [⟨request, serving m past request⟩])) := by
  rw [obey, obey, foldl_append]
  cases request with
  | read address size => exact ⟨fun bytes h => (Option.some.inj h).symm, fun _ _ _ => rfl⟩
  | write address bytes => exact ⟨fun _ => bytesAt_written _ _ _, fun _ _ h => if_neg h⟩
  | sync | enter | leave | publish | bind => exact fun _ _ _ => rfl

theorem follows_serving_behind {α : Type} (p : Patch α) (m : Memory) (past : List PatchEvent) :
    Follows tx.Effect (obey m past) (p.run (serving m) past).2
      (obey m (past ++ (p.run (serving m) past).2)) := by
  induction p generalizing past with
  | done value => exact (append_nil past).symm ▸ .nil _
  | call request next ih =>
    refine .cons (effect_serving m past request) ?_
    have hr := ih (serving m past request) (past ++ [⟨request, serving m past request⟩])
    rwa [append_assoc] at hr

theorem follows_serving {α : Type} (p : Patch α) (m : Memory) :
    Follows tx.Effect m (p.run (serving m) []).2 (obey m (p.run (serving m) []).2) :=
  follows_serving_behind p m []

theorem Reaches.serve {p : Bool} (h : Reaches tx state p memory) (m : Method) :
    let served := (m.program tx state).run (serving memory) []
    Reaches tx served.1.2 (p || decide (m = .prepare ∧ served.1.1.status = .ok))
      (obey memory served.2) :=
  .call m h (path_run _ _ _) (follows_serving _ memory)

def prepareNop : Outcome × List PatchEvent :=
  (Method.program nopHook .empty .prepare).run (serving nopMemory) []

def preparedMemory : Memory := obey nopMemory prepareNop.2

def commitNop : Outcome × List PatchEvent :=
  (Method.program nopHook .prepared .commit).run (serving preparedMemory) []

def patchedMemory : Memory := obey preparedMemory commitNop.2

def rollbackNop : Outcome × List PatchEvent :=
  (Method.program nopHook .committed .rollback).run (serving patchedMemory) []

theorem reaches_nopHook : Reaches nopHook .prepared true preparedMemory := by
  have hr : Reaches nopHook prepareNop.1.2 (false || decide (Method.prepare = .prepare ∧
      prepareNop.1.1.status = .ok)) preparedMemory := (Reaches.start nopMemory).serve .prepare
  rwa [show prepareNop.1.2 = .prepared by decide +kernel,
    show prepareNop.1.1.status = .ok by decide +kernel] at hr

theorem reaches_patchedMemory : Reaches nopHook .committed true patchedMemory :=
  have hs : commitNop.1.2 = .committed := by decide +kernel
  hs ▸ reaches_nopHook.serve .commit

/-- The memory of a patch that was committed, and of one that was taken out again. -/
theorem state_tells_memory_nopHook :
    bytesAt patchedMemory nopHook.targetAddress 16 = nopHook.plan.entryPatch ∧
      bytesAt (obey patchedMemory rollbackNop.2) nopHook.targetAddress 16 =
        nopHook.plan.originalBytes := by
  have hs : rollbackNop.1.2 = .rolledBack := by decide +kernel
  exact ⟨((state_tells_memory reaches_patchedMemory).2.1 rfl).1,
    (state_tells_memory (reaches_patchedMemory.serve .rollback)).2.2.1 hs⟩

/-- **The status of a call tells what the target holds.** -/
theorem status_tells_memory {tx : Transaction} {before : PatchInstallState} {prepared : Bool}
    {memory memory' : Memory} {method : Method} {events : List PatchEvent} {outcome : Outcome}
    (h : Reaches tx before prepared memory)
    (hpath : (method.program tx before).Path events outcome)
    (hfollows : Follows tx.Effect memory events memory') :
    (method = .commit → before = .prepared →
      (outcome.1.status = .ok → bytesAt memory' tx.targetAddress 16 = tx.plan.entryPatch) ∧
      (outcome.1.status ∉ [.ok, .rollbackFailed, .coordinationReleaseFailed] →
        bytesAt memory' tx.targetAddress 16 = tx.plan.originalBytes)) ∧
    (method = .rollback → before = .committed →
      (outcome.1.status = .ok → bytesAt memory' tx.targetAddress 16 = tx.plan.originalBytes) ∧
      (outcome.1.status ∉
          [.ok, .rollbackWriteFailed, .rollbackFailed, .coordinationReleaseFailed] →
        bytesAt memory' tx.targetAddress 16 = tx.plan.entryPatch)) ∧
    (outcome.1.status = .coordinationFailed → outcome.2 = before ∧
      events = [⟨.enter, false⟩] ∧ tx.Keeps (fun _ => False) memory memory') ∧
    (outcome.1.status = .invalidState → events = []) ∧
    outcome.1.state = outcome.2 := by
  have hso := sound_of_reaches h
  cases method with
  | prepare =>
    obtain ⟨hp, hs⟩ := path_prepare hpath
    generalize outcome.1.status = status at hp ⊢
    generalize outcome.2 = state at hp hs ⊢
    cases hp with
    | refused => exact ⟨nofun, nofun, nofun, fun _ => rfl, hs⟩
    | rejected _ hst =>
      obtain rfl | rfl := hst <;> exact ⟨nofun, nofun, nofun, fun _ => rfl, hs⟩
    | unread | mismatch | prepared => exact ⟨nofun, nofun, nofun, nofun, hs⟩
  | commit =>
    have he := ending_of_commit hso hpath hfollows
    have hs := (path_commit hpath).2
    generalize outcome.1.status = status at he ⊢
    generalize outcome.2 = state at he hs ⊢
    cases he with
    | refused hb =>
      exact ⟨fun _ hn => absurd hn hb, nofun, nofun, fun _ => rfl, hs⟩
    | closed hb hk =>
      refine ⟨fun _ _ => ⟨nofun, fun _ => ?_⟩, nofun, fun _ => ⟨rfl, rfl, hk⟩, nofun, hs⟩
      exact hk.target.trans (hso.original (.inl hb))
    | ended hb hen =>
      cases hen with
      | done ht _ =>
        exact ⟨fun _ _ => ⟨fun _ => ht, by simp⟩, nofun, nofun, nofun, hs⟩
      | lost => exact ⟨fun _ _ => ⟨nofun, by simp⟩, nofun, nofun, nofun, hs⟩
      | undone hst _ ht =>
        simp only [mem_cons, not_mem_nil, or_false, not_or] at hst
        exact ⟨fun _ _ => ⟨fun hok => absurd hok hst.1, fun _ => ht⟩, nofun,
          fun hc => absurd hc hst.2.2, fun hi => absurd hi hst.2.1, hs⟩
    | stuck => exact ⟨fun _ _ => ⟨nofun, by simp⟩, nofun, nofun, nofun, hs⟩
  | rollback =>
    have he := ending_of_rollback hso hpath hfollows
    have hs := (path_rollback hpath).2
    generalize outcome.1.status = status at he ⊢
    generalize outcome.2 = state at he hs ⊢
    cases he with
    | refused hb =>
      exact ⟨nofun, fun _ hn => absurd hn hb, nofun, fun _ => rfl, hs⟩
    | closed hb hk =>
      refine ⟨nofun, fun _ _ => ⟨nofun, fun _ => ?_⟩, fun _ => ⟨rfl, rfl, hk⟩, nofun, hs⟩
      exact hk.target.trans (hso.entry hb).1
    | ended hb hen =>
      cases hen with
      | done ht =>
        exact ⟨nofun, fun _ _ => ⟨fun _ => ht, by simp⟩, nofun, nofun, hs⟩
      | lost hst =>
        obtain rfl | rfl := hst <;>
          exact ⟨nofun, fun _ _ => ⟨nofun, by simp⟩, nofun, nofun, hs⟩
      | undone hst _ ht _ =>
        simp only [mem_cons, not_mem_nil, or_false, not_or] at hst
        exact ⟨nofun, fun _ _ => ⟨fun hok => absurd hok hst.1, fun _ => ht⟩,
          fun hc => absurd hc hst.2.2, fun hi => absurd hi hst.2.1, hs⟩
    | stuck => exact ⟨nofun, fun _ _ => ⟨nofun, by simp⟩, nofun, nofun, hs⟩

theorem status_tells_memory_nopHook :
    bytesAt patchedMemory nopHook.targetAddress 16 = nopHook.plan.entryPatch ∧
      bytesAt (obey patchedMemory rollbackNop.2) nopHook.targetAddress 16 =
        nopHook.plan.originalBytes := by
  have hc := status_tells_memory reaches_nopHook (path_run (serving preparedMemory) []
    (Method.program nopHook .prepared .commit)) (follows_serving _ preparedMemory)
  have hr := status_tells_memory reaches_patchedMemory (path_run (serving patchedMemory) []
    (Method.program nopHook .committed .rollback)) (follows_serving _ patchedMemory)
  have hcs : commitNop.1.1.status = .ok := by decide +kernel
  have hrs : rollbackNop.1.1.status = .ok := by decide +kernel
  exact ⟨(hc.1 rfl rfl).1 hcs, (hr.2.1 rfl rfl).1 hrs⟩

end Transaction

end Vcam.Runtime
