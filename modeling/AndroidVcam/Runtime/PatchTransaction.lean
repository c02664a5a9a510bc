import AndroidVcam.Lib.Dialogue
import AndroidVcam.Runtime.PatchPlanner

/-!
# Installing a patch

`Arm64PatchInstallTransaction` checks a plan, and puts it into memory and takes it out again inside an
exclusive window. Memory, instruction cache and window belong to a backend whose callbacks may fail.

* `Stages`, `Restores`, `Installs`, `Removes`, `Leaves`: all ways through their parts, with the calls
  on each;
* **`path_commit`**, **`path_rollback`**, **`path_prepare`**.
-/

namespace Vcam.Runtime

open Dialogue Dialogue.Program Wire

/-! ## The backend -/

inductive Call
  | read (address : UInt64) (size : ℕ)
  | write (address : UInt64) (bytes : Bytes)
  | sync (address : UInt64) (size : ℕ)
  | enter
  | leave
  | publish (address : UInt64)
  | bind (resumeAddress : UInt64)
deriving DecidableEq

/-- Success or failure; a read that succeeds has filled the buffer. -/
def Call.Answer : Call → Type
  | read _ _ => Option Bytes
  | _ => Bool

abbrev Patch := Program Call Call.Answer

abbrev PatchEvent := Event Call Call.Answer

def readMemory (address : UInt64) (size : ℕ) : Patch (Option Bytes) :=
  ask (Call.read address size)

def writeMemory (address : UInt64) (bytes : Bytes) : Patch Bool :=
  ask (Call.write address bytes)

def synchronizeInstructionCache (address : UInt64) (size : ℕ) : Patch Bool :=
  ask (Call.sync address size)

def enterExclusiveWindow : Patch Bool := ask Call.enter

def leaveExclusiveWindow : Patch Bool := ask Call.leave

def publishOriginalTrampoline (address : UInt64) : Patch Bool := ask (Call.publish address)

def bindResumeAddress (resumeAddress : UInt64) : Patch Bool := ask (Call.bind resumeAddress)

/-! ## The transaction -/

inductive PatchInstallState
  | empty
  | prepared
  | committed
  | rolledBack
  | failed
deriving DecidableEq

inductive PatchInstallStatus
  | ok
  | invalidState
  | invalidPlan
  | invalidBackend
  | readFailed
  | targetMismatch
  | coordinationFailed
  | coordinationReleaseFailed
  | trampolineWriteFailed
  | trampolineBindFailed
  | cacheSyncFailed
  | publishFailed
  | entryWriteFailed
  | commitRolledBack
  | rollbackTargetMismatch
  | rollbackWriteFailed
  | rollbackFailed
deriving DecidableEq

structure PatchInstallResult where
  status : PatchInstallStatus
  state : PatchInstallState
  message : String

/-- A trampoline in the text of the agent; `bindable` says that it has a function to bind it. -/
structure PrecompiledTrampoline where
  codeSize : UInt64
  relocatedOriginalBytes : { bytes : Bytes // bytes.length = 16 }
  bindable : Bool

/-- The fields that a constructor sets. With a precompiled trampoline the address is its entry, and
`backendComplete` says that no required callback is null. -/
structure Transaction where
  targetAddress : UInt64
  trampolineAddress : UInt64
  precompiled : Option PrecompiledTrampoline
  plan : Arm64PatchPlan
  backendComplete : Bool

def kAbsoluteBranchSize : ℕ := 16

def read64 (bytes : Bytes) (offset : ℕ) : ℕ := leValue ((bytes.drop offset).take 8)

def rangeEnd (address : UInt64) (size : ℕ) : Option ℕ :=
  if size = 0 ∨ address.toNat > 2 ^ 64 - 1 - size then none else some (address.toNat + size)

theorem eq_add_of_rangeEnd {a : UInt64} {size last : ℕ} (h : rangeEnd a size = some last) :
    last = a.toNat + size := by
  unfold rangeEnd at h
  split_ifs at h
  exact (Option.some.inj h).symm

namespace Transaction

variable (tx : Transaction)

/-- The bytes are those of `planArm64InlineHook`. -/
def exactPlannerShape : Bool :=
  let branch := 4 + tx.plan.overwriteSize
  let replacement := read64 tx.plan.entryPatch 8
  read32 tx.plan.entryPatch 0 == BitVec.ofNat 32 kLoadIp1FromPcPlus8 &&
    read32 tx.plan.entryPatch 4 == BitVec.ofNat 32 kBranchIp1 &&
    decide (replacement ≠ 0) && decide (replacement % 4 = 0) &&
    read32 tx.plan.trampoline 0 == BitVec.ofNat 32 kBtiCall &&
    tx.plan.originalBytes == (tx.plan.trampoline.drop 4).take tx.plan.originalBytes.length &&
    read32 tx.plan.trampoline branch == BitVec.ofNat 32 kLoadIp1FromPcPlus8 &&
    read32 tx.plan.trampoline (branch + 4) == BitVec.ofNat 32 kBranchIp1 &&
    read64 tx.plan.trampoline (branch + 8) == tx.plan.resumeAddress.toNat

def apart (targetEnd : ℕ) (trampolineSize : ℕ) : Bool :=
  match rangeEnd tx.trampolineAddress trampolineSize with
  | none => false
  | some trampolineEnd =>
    decide (targetEnd ≤ tx.trampolineAddress.toNat) ||
      decide (trampolineEnd ≤ tx.targetAddress.toNat)

def validPlan : Bool :=
  if tx.plan.status ≠ .ready ∨ tx.targetAddress = 0 ∨ tx.trampolineAddress = 0 ∨
      tx.targetAddress &&& 3 ≠ 0 ∨ tx.trampolineAddress &&& 3 ≠ 0 ∨
      tx.plan.overwriteSize ≠ kOverwriteSize ∨
      tx.plan.entryPatch.length ≠ tx.plan.overwriteSize ∨
      tx.plan.originalBytes.length ≠ tx.plan.overwriteSize ∨
      tx.plan.trampoline.length ≠ 4 + tx.plan.overwriteSize + kAbsoluteBranchSize then false
  else
    match rangeEnd tx.targetAddress tx.plan.overwriteSize with
    | none => false
    | some targetEnd =>
      if tx.plan.resumeAddress.toNat ≠ targetEnd then false
      else if !tx.exactPlannerShape then false
      else
        match tx.precompiled with
        | some trampoline =>
          trampoline.bindable && tx.plan.originalBytes == trampoline.relocatedOriginalBytes.val &&
            tx.apart targetEnd trampoline.codeSize.toNat
        | none => tx.apart targetEnd tx.plan.trampoline.length

/-! ## The methods -/

/-- The result of a method and the state behind it. -/
abbrev Outcome := PatchInstallResult × PatchInstallState

def report (state : PatchInstallState) (status : PatchInstallStatus) (message : String) : Outcome :=
  (⟨status, state, message⟩, state)

def prepare (state : PatchInstallState) : Patch Outcome := do
  if state ≠ .empty then
    return report state .invalidState "patch transaction can only be prepared once"
  else if !tx.validPlan then
    return report .failed .invalidPlan "patch plan or target/trampoline range is invalid"
  else if !tx.backendComplete then
    return report .failed .invalidBackend "patch backend is missing a required operation"
  else
    match ← readMemory tx.targetAddress tx.plan.overwriteSize with
    | none => return report .failed .readFailed "could not snapshot target bytes during prepare"
    | some bytes =>
      if bytes ≠ tx.plan.originalBytes then
        return report .failed .targetMismatch "target bytes no longer match the reviewed plan"
      else return report .prepared .ok "patch transaction prepared without writing memory"

def automaticRollback (restoredMessage failedMessage : String) : Patch Outcome := do
  let wroteOriginal ← writeMemory tx.targetAddress tx.plan.originalBytes
  if !wroteOriginal then return report .failed .rollbackFailed failedMessage
  else if !(← synchronizeInstructionCache tx.targetAddress tx.plan.originalBytes.length) then
    return report .failed .rollbackFailed failedMessage
  else return report .rolledBack .commitRolledBack restoredMessage

/-- The part of `commit` about the trampoline, `none` when it is ready. -/
def stageTrampoline : Patch (Option Outcome) := do
  match tx.precompiled with
  | some _ =>
    if !(← bindResumeAddress tx.plan.resumeAddress) then
      return some (report .failed .trampolineBindFailed
        "precompiled trampoline rejected the resume address")
    else return none
  | none =>
    if !(← writeMemory tx.trampolineAddress tx.plan.trampoline) then
      return some (report .failed .trampolineWriteFailed
        "trampoline write failed before target modification")
    else if !(← synchronizeInstructionCache tx.trampolineAddress tx.plan.trampoline.length) then
      return some (report .failed .cacheSyncFailed
        "trampoline cache synchronization failed before target modification")
    else return none

/-- The part of `commit` behind the trampoline. -/
def patchEntry : Patch Outcome := do
  if !(← publishOriginalTrampoline tx.trampolineAddress) then
    return report .failed .publishFailed
      "original trampoline publication failed before target modification"
  else if !(← writeMemory tx.targetAddress tx.plan.entryPatch) then
    tx.automaticRollback "entry patch write failed; original bytes restored"
      "entry patch write failed and automatic rollback failed"
  else if !(← synchronizeInstructionCache tx.targetAddress tx.plan.entryPatch.length) then
    tx.automaticRollback "entry cache synchronization failed; original bytes restored"
      "entry cache synchronization and automatic rollback failed"
  else return report .committed .ok "entry patch committed inside the exclusive window"

/-- `commit` inside its window; every way out goes through `finishExclusive`. -/
def commitExclusive : Patch Outcome := do
  match ← readMemory tx.targetAddress tx.plan.overwriteSize with
  | none =>
    return report .failed .readFailed "could not revalidate target bytes inside exclusive window"
  | some bytes =>
    if bytes ≠ tx.plan.originalBytes then
      return report .failed .targetMismatch "target changed between prepare and commit"
    else
      match ← tx.stageTrampoline with
      | some outcome => return outcome
      | none => tx.patchEntry

/-- `finishExclusive`. When the window cannot be left, its destructor tries once more. -/
def finishExclusive (message : String) (outcome : Outcome) : Patch Outcome := do
  if ← leaveExclusiveWindow then return outcome
  else
    let _ ← leaveExclusiveWindow
    return report .failed .coordinationReleaseFailed message

def commit (state : PatchInstallState) : Patch Outcome := do
  if state ≠ .prepared then return report state .invalidState "patch transaction is not prepared"
  else if !(← enterExclusiveWindow) then
    return report state .coordinationFailed "exclusive patch window was not acquired"
  else
    finishExclusive "exclusive patch window could not release every peer thread"
      (← tx.commitExclusive)

/-- `rollback` inside its window. -/
def rollbackExclusive (state : PatchInstallState) : Patch Outcome := do
  match ← readMemory tx.targetAddress tx.plan.overwriteSize with
  | none => return report state .readFailed "could not verify entry patch before rollback"
  | some bytes =>
    if bytes ≠ tx.plan.entryPatch then
      return report .failed .rollbackTargetMismatch
        "target no longer contains this transaction's entry patch"
    else if !(← writeMemory tx.targetAddress tx.plan.originalBytes) then
      return report .failed .rollbackWriteFailed "rollback write failed or may be partial"
    else if !(← synchronizeInstructionCache tx.targetAddress tx.plan.originalBytes.length) then
      return report .failed .rollbackFailed "rollback cache synchronization failed"
    else
      return report .rolledBack .ok "original target bytes restored inside the exclusive window"

def rollback (state : PatchInstallState) : Patch Outcome := do
  if state ≠ .committed then
    return report state .invalidState "only a committed patch can be rolled back"
  else if !(← enterExclusiveWindow) then
    return report state .coordinationFailed "exclusive rollback window was not acquired"
  else
    finishExclusive "exclusive rollback window could not release every peer thread"
      (← tx.rollbackExclusive state)

/-! ## The ways through them -/

/-- The ways through `stageTrampoline`. -/
inductive Stages : List PatchEvent → Option PatchInstallStatus → Prop
  | unbound {trampoline : PrecompiledTrampoline} (h : tx.precompiled = some trampoline) :
      Stages [⟨.bind tx.plan.resumeAddress, false⟩] (some .trampolineBindFailed)
  | bound {trampoline : PrecompiledTrampoline} (h : tx.precompiled = some trampoline) :
      Stages [⟨.bind tx.plan.resumeAddress, true⟩] none
  | unwritten (h : tx.precompiled = none) :
      Stages [⟨.write tx.trampolineAddress tx.plan.trampoline, false⟩] (some .trampolineWriteFailed)
  | unsynchronized (h : tx.precompiled = none) :
      Stages [⟨.write tx.trampolineAddress tx.plan.trampoline, true⟩,
        ⟨.sync tx.trampolineAddress tx.plan.trampoline.length, false⟩] (some .cacheSyncFailed)
  | written (h : tx.precompiled = none) :
      Stages [⟨.write tx.trampolineAddress tx.plan.trampoline, true⟩,
        ⟨.sync tx.trampolineAddress tx.plan.trampoline.length, true⟩] none

inductive Restores : List PatchEvent → PatchInstallStatus → PatchInstallState → Prop
  | unwritten : Restores [⟨.write tx.targetAddress tx.plan.originalBytes, false⟩] .rollbackFailed .failed
  | unsynchronized : Restores [⟨.write tx.targetAddress tx.plan.originalBytes, true⟩,
      ⟨.sync tx.targetAddress tx.plan.originalBytes.length, false⟩] .rollbackFailed .failed
  | restored : Restores [⟨.write tx.targetAddress tx.plan.originalBytes, true⟩,
      ⟨.sync tx.targetAddress tx.plan.originalBytes.length, true⟩] .commitRolledBack .rolledBack

inductive Patches : List PatchEvent → PatchInstallStatus → PatchInstallState → Prop
  | unpublished : Patches [⟨.publish tx.trampolineAddress, false⟩] .publishFailed .failed
  | unwritten {events : List PatchEvent} {status : PatchInstallStatus} {state : PatchInstallState}
      (h : tx.Restores events status state) :
      Patches (⟨.publish tx.trampolineAddress, true⟩ ::
        ⟨.write tx.targetAddress tx.plan.entryPatch, false⟩ :: events) status state
  | unsynchronized {events : List PatchEvent} {status : PatchInstallStatus}
      {state : PatchInstallState} (h : tx.Restores events status state) :
      Patches (⟨.publish tx.trampolineAddress, true⟩ ::
        ⟨.write tx.targetAddress tx.plan.entryPatch, true⟩ ::
        ⟨.sync tx.targetAddress tx.plan.entryPatch.length, false⟩ :: events) status state
  | patched : Patches [⟨.publish tx.trampolineAddress, true⟩,
      ⟨.write tx.targetAddress tx.plan.entryPatch, true⟩,
      ⟨.sync tx.targetAddress tx.plan.entryPatch.length, true⟩] .ok .committed

inductive Installs : List PatchEvent → PatchInstallStatus → PatchInstallState → Prop
  | unread : Installs [⟨.read tx.targetAddress tx.plan.overwriteSize, none⟩] .readFailed .failed
  | mismatch {bytes : Bytes} (h : bytes ≠ tx.plan.originalBytes) :
      Installs [⟨.read tx.targetAddress tx.plan.overwriteSize, some bytes⟩] .targetMismatch .failed
  | unstaged {events : List PatchEvent} {status : PatchInstallStatus}
      (h : tx.Stages events (some status)) :
      Installs (⟨.read tx.targetAddress tx.plan.overwriteSize, some tx.plan.originalBytes⟩ :: events)
        status .failed
  | staged {ready events : List PatchEvent} {status : PatchInstallStatus} {state : PatchInstallState}
      (hready : tx.Stages ready none) (h : tx.Patches events status state) :
      Installs (⟨.read tx.targetAddress tx.plan.overwriteSize, some tx.plan.originalBytes⟩ ::
        (ready ++ events)) status state

/-- The ways through `rollbackExclusive`, which is entered with a committed patch. -/
inductive Removes : List PatchEvent → PatchInstallStatus → PatchInstallState → Prop
  | unread : Removes [⟨.read tx.targetAddress tx.plan.overwriteSize, none⟩] .readFailed .committed
  | mismatch {bytes : Bytes} (h : bytes ≠ tx.plan.entryPatch) :
      Removes [⟨.read tx.targetAddress tx.plan.overwriteSize, some bytes⟩]
        .rollbackTargetMismatch .failed
  | unwritten :
      Removes [⟨.read tx.targetAddress tx.plan.overwriteSize, some tx.plan.entryPatch⟩,
        ⟨.write tx.targetAddress tx.plan.originalBytes, false⟩] .rollbackWriteFailed .failed
  | unsynchronized :
      Removes [⟨.read tx.targetAddress tx.plan.overwriteSize, some tx.plan.entryPatch⟩,
        ⟨.write tx.targetAddress tx.plan.originalBytes, true⟩,
        ⟨.sync tx.targetAddress tx.plan.originalBytes.length, false⟩] .rollbackFailed .failed
  | removed :
      Removes [⟨.read tx.targetAddress tx.plan.overwriteSize, some tx.plan.entryPatch⟩,
        ⟨.write tx.targetAddress tx.plan.originalBytes, true⟩,
        ⟨.sync tx.targetAddress tx.plan.originalBytes.length, true⟩] .ok .rolledBack

/-- The ways through a method that needs one state and works inside the exclusive window. -/
inductive Windowed (body : List PatchEvent → PatchInstallStatus → PatchInstallState → Prop)
    (needed state : PatchInstallState) :
    List PatchEvent → PatchInstallStatus → PatchInstallState → Prop
  | refused (h : state ≠ needed) : Windowed body needed state [] .invalidState state
  | closed (h : state = needed) :
      Windowed body needed state [⟨.enter, false⟩] .coordinationFailed state
  | left {events : List PatchEvent} {status : PatchInstallStatus} {after : PatchInstallState}
      (h : state = needed) (hbody : body events status after) :
      Windowed body needed state (⟨.enter, true⟩ :: (events ++ [⟨.leave, true⟩])) status after
  | stuck {events : List PatchEvent} {status : PatchInstallStatus} {after : PatchInstallState}
      {second : Bool} (h : state = needed) (hbody : body events status after) :
      Windowed body needed state
        (⟨.enter, true⟩ :: (events ++ [⟨.leave, false⟩, ⟨.leave, second⟩]))
        .coordinationReleaseFailed .failed

inductive Prepares (state : PatchInstallState) :
    List PatchEvent → PatchInstallStatus → PatchInstallState → Prop
  | refused (h : state ≠ .empty) : Prepares state [] .invalidState state
  | rejected {status : PatchInstallStatus} (h : state = .empty)
      (hstatus : status = .invalidPlan ∨ status = .invalidBackend) : Prepares state [] status .failed
  | unread (h : state = .empty) :
      Prepares state [⟨.read tx.targetAddress tx.plan.overwriteSize, none⟩] .readFailed .failed
  | mismatch {bytes : Bytes} (h : state = .empty) (hbytes : bytes ≠ tx.plan.originalBytes) :
      Prepares state [⟨.read tx.targetAddress tx.plan.overwriteSize, some bytes⟩]
        .targetMismatch .failed
  | prepared (h : state = .empty) (hplan : tx.validPlan = true) :
      Prepares state [⟨.read tx.targetAddress tx.plan.overwriteSize, some tx.plan.originalBytes⟩]
        .ok .prepared

/-- The outcome of a run is one of a shape, and its result carries the state. -/
def Outcome.Is (shape : List PatchEvent → PatchInstallStatus → PatchInstallState → Prop)
    (events : List PatchEvent) (outcome : Outcome) : Prop :=
  shape events outcome.1.status outcome.2 ∧ outcome.1.state = outcome.2

variable {tx} {events : List PatchEvent} {outcome : Outcome}

variable {state : PatchInstallState}

theorem Outcome.is_report {shape : List PatchEvent → PatchInstallStatus → PatchInstallState → Prop}
    {s : PatchInstallStatus} {m : String}
    (h : shape events s state) : Outcome.Is shape events (report state s m) := ⟨h, rfl⟩

theorem path_automaticRollback {r f : String}
    (h : (tx.automaticRollback r f).Path events outcome) :
    outcome.Is tx.Restores events := by
  obtain ⟨wrote, rest, rfl, h⟩ := h
  cases wrote with
  | false =>
    obtain ⟨rfl, rfl⟩ := h
    exact Outcome.is_report .unwritten
  | true =>
    obtain ⟨synchronized, rest, rfl, h⟩ := h
    cases synchronized with
    | false =>
      obtain ⟨rfl, rfl⟩ := h
      exact Outcome.is_report .unsynchronized
    | true =>
      obtain ⟨rfl, rfl⟩ := h
      exact Outcome.is_report .restored

theorem path_stageTrampoline {s : Option Outcome}
    (h : tx.stageTrampoline.Path events s) :
    (s = none ∧ tx.Stages events none) ∨
      ∃ outcome, s = some outcome ∧ outcome.2 = .failed ∧ outcome.1.state = outcome.2 ∧
        tx.Stages events (some outcome.1.status) := by
  unfold stageTrampoline at h
  cases hp : tx.precompiled with
  | some trampoline =>
    rw [hp] at h
    obtain ⟨bound, rest, rfl, h⟩ := h
    cases bound with
    | false =>
      obtain ⟨rfl, rfl⟩ := h
      exact .inr ⟨_, rfl, rfl, rfl, .unbound hp⟩
    | true =>
      obtain ⟨rfl, rfl⟩ := h
      exact .inl ⟨rfl, .bound hp⟩
  | none =>
    rw [hp] at h
    obtain ⟨wrote, rest, rfl, h⟩ := h
    cases wrote with
    | false =>
      obtain ⟨rfl, rfl⟩ := h
      exact .inr ⟨_, rfl, rfl, rfl, .unwritten hp⟩
    | true =>
      obtain ⟨synchronized, rest, rfl, h⟩ := h
      cases synchronized with
      | false =>
        obtain ⟨rfl, rfl⟩ := h
        exact .inr ⟨_, rfl, rfl, rfl, .unsynchronized hp⟩
      | true =>
        obtain ⟨rfl, rfl⟩ := h
        exact .inl ⟨rfl, .written hp⟩

theorem path_patchEntry (h : tx.patchEntry.Path events outcome) : outcome.Is tx.Patches events := by
  obtain ⟨published, rest, rfl, h⟩ := h
  cases published with
  | false =>
    obtain ⟨rfl, rfl⟩ := h
    exact Outcome.is_report .unpublished
  | true =>
    obtain ⟨wrote, rest, rfl, h⟩ := h
    cases wrote with
    | false =>
      obtain ⟨hr, hs⟩ := path_automaticRollback h
      exact ⟨.unwritten hr, hs⟩
    | true =>
      obtain ⟨synchronized, rest, rfl, h⟩ := h
      cases synchronized with
      | false =>
        obtain ⟨hr, hs⟩ := path_automaticRollback h
        exact ⟨.unsynchronized hr, hs⟩
      | true =>
        obtain ⟨rfl, rfl⟩ := h
        exact Outcome.is_report .patched

theorem path_commitExclusive (h : tx.commitExclusive.Path events outcome) :
    outcome.Is tx.Installs events := by
  obtain ⟨answer, rest, rfl, h⟩ := h
  cases answer with
  | none =>
    obtain ⟨rfl, rfl⟩ := h
    exact Outcome.is_report .unread
  | some bytes =>
    obtain ⟨hb, hr⟩ | ⟨hb, hr⟩ := path_ite.mp h
    · obtain ⟨rfl, rfl⟩ := hr
      exact Outcome.is_report (.mismatch hb)
    · obtain rfl := not_not.mp hb
      obtain ⟨ready, staged, last, rfl, hsta, hl⟩ :=
        (path_bind (p := tx.stageTrampoline)).mp hr
      obtain ⟨rfl, hs⟩ | ⟨failure, rfl, hf, hst, hs⟩ :=
        path_stageTrampoline hsta
      · obtain ⟨hp, hst⟩ := path_patchEntry hl
        exact ⟨.staged hs hp, hst⟩
      · obtain ⟨rfl, rfl⟩ := hl
        refine ⟨?_, hst⟩
        rw [List.append_nil, hf]
        exact .unstaged hs

theorem path_rollbackExclusive (h : (tx.rollbackExclusive .committed).Path events outcome) :
    outcome.Is tx.Removes events := by
  obtain ⟨answer, rest, rfl, h⟩ := h
  cases answer with
  | none =>
    obtain ⟨rfl, rfl⟩ := h
    exact Outcome.is_report .unread
  | some bytes =>
    obtain ⟨hb, hr⟩ | ⟨hb, hr⟩ := path_ite.mp h
    · obtain ⟨rfl, rfl⟩ := hr
      exact Outcome.is_report (.mismatch hb)
    · obtain rfl := not_not.mp hb
      obtain ⟨wrote, rest, rfl, hw⟩ := hr
      cases wrote with
      | false =>
        obtain ⟨rfl, rfl⟩ := hw
        exact Outcome.is_report .unwritten
      | true =>
        obtain ⟨synchronized, rest, rfl, hl⟩ := hw
        cases synchronized with
        | false =>
          obtain ⟨rfl, rfl⟩ := hl
          exact Outcome.is_report .unsynchronized
        | true =>
          obtain ⟨rfl, rfl⟩ := hl
          exact Outcome.is_report .removed

theorem path_window {body : Patch Outcome} {r c message : String}
    {n : PatchInstallState}
    {s : List PatchEvent → PatchInstallStatus → PatchInstallState → Prop}
    (hb : ∀ {events outcome}, body.Path events outcome → state = n →
      Outcome.Is s events outcome) (h : Path (do
      if state ≠ n then return report state .invalidState r
      else if !(← enterExclusiveWindow) then return report state .coordinationFailed c
      else finishExclusive message (← body)) events outcome) :
    outcome.Is (Windowed s n state) events := by
  by_cases hs : state = n
  · rw [if_neg (not_not_intro hs)] at h
    obtain ⟨entered, rest, rfl, h⟩ := h
    cases entered with
    | false =>
      obtain ⟨rfl, rfl⟩ := h
      exact Outcome.is_report (.closed hs)
    | true =>
      obtain ⟨inside, result, last, rfl, hi, hl⟩ := (path_bind (p := body)).mp h
      obtain ⟨hsh, hr⟩ := hb hi hs
      obtain ⟨left, rest, rfl, hl⟩ := hl
      cases left with
      | false =>
        obtain ⟨second, rest, rfl, rfl, rfl⟩ := hl
        exact Outcome.is_report (.stuck hs hsh)
      | true =>
        obtain ⟨rfl, rfl⟩ := hl
        exact ⟨.left hs hsh, hr⟩
  · rw [if_pos hs] at h
    obtain ⟨rfl, rfl⟩ := h
    exact Outcome.is_report (.refused hs)

/-- **Every run of `commit`.** -/
theorem path_commit (h : (tx.commit state).Path events outcome) :
    outcome.Is (Windowed tx.Installs .prepared state) events :=
  path_window (fun h _ => path_commitExclusive h) h

/-- **Every run of `rollback`.** -/
theorem path_rollback (h : (tx.rollback state).Path events outcome) :
    outcome.Is (Windowed tx.Removes .committed state) events := by
  refine path_window ?_ h
  rintro events outcome h rfl
  exact path_rollbackExclusive h

/-- **Every run of `prepare`.** -/
theorem path_prepare (h : (tx.prepare state).Path events outcome) :
    outcome.Is (tx.Prepares state) events := by
  obtain ⟨hs, hend⟩ | ⟨hs, hn⟩ := path_ite.mp h
  · obtain ⟨rfl, rfl⟩ := hend
    exact Outcome.is_report (.refused hs)
  have he := not_not.mp hs
  obtain ⟨-, hend⟩ | ⟨hp, hn⟩ := path_ite.mp hn
  · obtain ⟨rfl, rfl⟩ := hend
    exact Outcome.is_report (.rejected he (.inl rfl))
  obtain ⟨-, hend⟩ | ⟨-, answer, rest, rfl, hr⟩ := path_ite.mp hn
  · obtain ⟨rfl, rfl⟩ := hend
    exact Outcome.is_report (.rejected he (.inr rfl))
  cases answer with
  | none =>
    obtain ⟨rfl, rfl⟩ := hr
    exact Outcome.is_report (.unread he)
  | some bytes =>
    obtain ⟨hb, hend⟩ | ⟨hb, hend⟩ := path_ite.mp hr
    · obtain ⟨rfl, rfl⟩ := hend
      exact Outcome.is_report (.mismatch he hb)
    · obtain rfl := not_not.mp hb
      obtain ⟨rfl, rfl⟩ := hend
      exact Outcome.is_report (.prepared he (by simpa using hp))

end Transaction

inductive Method
  | prepare
  | commit
  | rollback
deriving DecidableEq

def Method.program (tx : Transaction) (state : PatchInstallState) : Method → Patch Transaction.Outcome
  | prepare => tx.prepare state
  | commit => tx.commit state
  | rollback => tx.rollback state

end Vcam.Runtime
