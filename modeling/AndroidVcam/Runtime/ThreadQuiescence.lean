import AndroidVcam.Lib.Dialogue
import AndroidVcam.Lib.Ranges
import AndroidVcam.Runtime.PatchTransaction

/-!
# Stopping the other threads

`ThreadQuiescenceCoordinator` asks every peer thread to park, checks where it parked, and repeats the
enumeration until no new thread shows up. The callbacks of the backend may answer anything, but write
only into the buffers they are given.

* `prepare`, `enter`, `leave`, `destroy`: the methods as programs over the callbacks.
-/

namespace Vcam.Runtime

open Dialogue Dialogue.Program Ranges

/-! ## The backend -/

structure ParkedThreadSnapshot where
  threadId : ℤ := -1
  programCounter : UInt64 := 0
  epoch : UInt32 := 0
deriving DecidableEq

/-- What a callback leaves behind that fills a buffer and counts. The count is what it says. -/
structure Filled (α : Type) (capacity : ℕ) where
  ok : Bool
  count : ℕ
  buffer : { values : List α // values.length = capacity }

inductive QuiesceCall
  | enumerateThreads (capacity : ℕ)
  | requestThreadPark (threadId : ℤ) (epoch : UInt32)
  | waitForParkedThreads (epoch : UInt32) (requested : List ℤ) (capacity : ℕ) (timeout : UInt32)
  | resumeParkedThreads (epoch : UInt32)
  | stray
deriving DecidableEq

def QuiesceCall.Answer : QuiesceCall → Type
  | enumerateThreads capacity => Filled ℤ capacity
  | requestThreadPark _ _ => Bool
  | waitForParkedThreads _ _ capacity _ => Filled ParkedThreadSnapshot capacity
  | resumeParkedThreads _ => Bool
  | stray => Unit

abbrev Quiesce := Program QuiesceCall QuiesceCall.Answer

abbrev QuiesceEvent := Event QuiesceCall QuiesceCall.Answer

def enumerateThreads (capacity : ℕ) : Quiesce (Filled ℤ capacity) :=
  ask (QuiesceCall.enumerateThreads capacity)

def requestThreadPark (threadId : ℤ) (epoch : UInt32) : Quiesce Bool :=
  ask (QuiesceCall.requestThreadPark threadId epoch)

def waitForParkedThreads (epoch : UInt32) (requested : List ℤ) (capacity : ℕ) (timeout : UInt32) :
    Quiesce (Filled ParkedThreadSnapshot capacity) :=
  ask (QuiesceCall.waitForParkedThreads epoch requested capacity timeout)

def resumeParkedThreads (epoch : UInt32) : Quiesce Bool := ask (QuiesceCall.resumeParkedThreads epoch)

def stray : Quiesce Unit := ask QuiesceCall.stray

/-! ## Vectors -/

section Vectors

variable {α : Type}

/-- The elements from `begin()` to `begin() + count`. -/
def front (values : List α) (count : ℕ) : Quiesce (List α) :=
  if count ≤ values.length then return values.take count
  else do
    stray
    return values.take count

def itemAt (values : List α) (index : ℕ) (default : α) : Quiesce α :=
  match values[index]? with
  | some value => return value
  | none => do
    stray
    return default

def store (values : List α) (index : ℕ) (value : α) : Quiesce (List α) :=
  if index < values.length then return values.set index value
  else do
    stray
    return values

def sortFront {lt : α → α → Prop} (sorter : Sorter lt) (values : List α) (count : ℕ) :
    Quiesce (List α) := do
  let range ← front values count
  return sorter.sort range ++ values.drop count

/-- `std::copy` of the elements from `begin()` to `begin() + count` to another vector. -/
def copyFront (source target : List α) (count : ℕ) : Quiesce (List α) := do
  let copied ← front source count
  let _ ← front target count
  return copied ++ target.drop count

variable {c : ℕ} {values : List α}

theorem front_eq (h : c ≤ values.length) :
    front values c = pure (values.take c) := if_pos h

theorem itemAt_eq {i : ℕ} {value d : α}
    (h : values[i]? = some value) : itemAt values i d = pure value := by
  rw [itemAt, h]

theorem store_eq {i : ℕ} {v : α} (h : i < values.length) :
    store values i v = pure (values.set i v) := if_pos h

theorem sortFront_eq {lt : α → α → Prop} {s : Sorter lt} (h : c ≤ values.length) :
    sortFront s values c = pure (s.sort (values.take c) ++ values.drop c) := by
  rw [sortFront, front_eq h]
  rfl

theorem copyFront_eq {s t : List α} (hs : c ≤ s.length)
    (ht : c ≤ t.length) :
    copyFront s t c = pure (s.take c ++ t.drop c) := by
  rw [copyFront, front_eq hs, front_eq ht]
  rfl

end Vectors

/-! ## The coordinator -/

inductive ThreadQuiescenceState
  | empty
  | prepared
  | exclusive
  | released
  | failed
deriving DecidableEq

inductive ThreadQuiescenceStatus
  | ok
  | invalidState
  | invalidConfiguration
  | invalidBackend
  | enumerationFailed
  | threadCapacityExceeded
  | threadInventoryInvalid
  | parkRequestFailed
  | parkWaitFailed
  | parkedInventoryMismatch
  | parkedProgramCounterInvalid
  | threadInTargetRange
  | threadInventoryChanged
  | threadSetUnstable
  | resumeFailed
deriving DecidableEq

structure ThreadQuiescenceResult where
  status : ThreadQuiescenceStatus
  state : ThreadQuiescenceState
  message : String
  parkedThreadCount : ℕ
  unsafeThreadId : ℤ := -1
  unsafeProgramCounter : UInt64 := 0

structure ThreadQuiescenceConfiguration where
  targetAddress : UInt64
  targetSize : ℕ
  currentThreadId : ℤ
  epoch : UInt32
  maximumThreads : ℕ
  maximumStabilizationPasses : ℕ
  waitTimeoutMilliseconds : UInt32

structure ThreadQuiescenceBackend where
  enumerates : Bool
  requests : Bool
  waits : Bool
  resumes : Bool

structure Coordinator where
  inventory : List ℤ := []
  finalInventory : List ℤ := []
  requestedThreadIds : List ℤ := []
  parkedThreads : List ParkedThreadSnapshot := []
  requestedThreadCount : ℕ := 0
  parkedThreadCount : ℕ := 0
  parkAttempted : Bool := false
  state : ThreadQuiescenceState := .empty

/-- What a coordinator is made with, and how `std::sort` orders thread IDs and snapshots. -/
structure ThreadQuiescence where
  configuration : ThreadQuiescenceConfiguration
  backend : ThreadQuiescenceBackend
  sortIds : Sorter ((· < ·) : ℤ → ℤ → Prop)
  sortSnapshots : Sorter fun left right : ParkedThreadSnapshot => left.threadId < right.threadId

def kMaximumSupportedThreads : ℕ := 4096

def kMaximumSupportedStabilizationPasses : ℕ := 16

namespace ThreadQuiescence

variable (q : ThreadQuiescence)

/-- The result of a method and the members behind it. -/
abbrev Outcome := ThreadQuiescenceResult × Coordinator

def report (c : Coordinator) (status : ThreadQuiescenceStatus) (message : String) : Outcome :=
  (⟨status, c.state, message, c.parkedThreadCount, -1, 0⟩, c)

/-- Whether the first `count` elements are an inventory; they are sorted on the way. -/
def validInventory (buffer : List ℤ) (count : ℕ) : Quiesce (Bool × List ℤ) := do
  if count = 0 ∨ count > buffer.length then return (false, buffer)
  else
    let buffer ← sortFront q.sortIds buffer count
    let first ← itemAt buffer 0 0
    let range ← front buffer count
    if first ≤ 0 ∨ adjacentEqual range ∨ range.any (fun threadId => threadId ≤ 0) then
      return (false, buffer)
    else return (binarySearch range q.configuration.currentThreadId, buffer)

/-- The loop of `finalInventoryContainsEveryRequested`. -/
def containsEveryRequested (c : Coordinator) (finalCount : ℕ) : ℕ → ℕ → Quiesce Bool
  | 0, _ => return true
  | rest + 1, index => do
    let final ← front c.finalInventory finalCount
    let threadId ← itemAt c.requestedThreadIds index 0
    if !binarySearch final threadId then return false
    else containsEveryRequested c finalCount rest (index + 1)

def finalInventoryContainsEveryRequested (c : Coordinator) (finalCount : ℕ) : Quiesce Bool :=
  containsEveryRequested c finalCount c.requestedThreadCount 0

/-- The loop of `finalInventoryIsExact`. -/
def matchesRequested (c : Coordinator) : ℕ → ℕ → ℕ → Quiesce Bool
  | 0, _, requestedIndex => return decide (requestedIndex = c.requestedThreadCount)
  | rest + 1, index, requestedIndex => do
    let threadId ← itemAt c.finalInventory index 0
    if threadId = q.configuration.currentThreadId then
      matchesRequested c rest (index + 1) requestedIndex
    else if requestedIndex ≥ c.requestedThreadCount then return false
    else
      let requested ← itemAt c.requestedThreadIds requestedIndex 0
      if requested ≠ threadId then return false
      else matchesRequested c rest (index + 1) (requestedIndex + 1)

def finalInventoryIsExact (c : Coordinator) (finalCount : ℕ) : Quiesce Bool :=
  if finalCount ≠ c.requestedThreadCount + 1 then return false
  else q.matchesRequested c finalCount 0 0

/-- The checks of `prepare` that need no callback. -/
def validConfiguration : Bool :=
  decide (q.configuration.targetAddress ≠ 0) && decide (q.configuration.targetAddress &&& 3 = 0) &&
    (rangeEnd q.configuration.targetAddress q.configuration.targetSize).isSome &&
    decide (0 < q.configuration.currentThreadId) && decide (q.configuration.epoch ≠ 0) &&
    decide (q.configuration.maximumThreads ≠ 0) &&
    decide (q.configuration.maximumThreads ≤ kMaximumSupportedThreads) &&
    decide (q.configuration.maximumStabilizationPasses ≠ 0) &&
    decide (q.configuration.maximumStabilizationPasses ≤ kMaximumSupportedStabilizationPasses) &&
    decide (q.configuration.waitTimeoutMilliseconds ≠ 0)

def backendComplete : Bool :=
  q.backend.enumerates && q.backend.requests && q.backend.waits && q.backend.resumes

def prepare (c : Coordinator) : Quiesce Outcome := do
  if c.state ≠ .empty then
    return report c .invalidState "thread quiescence can only be prepared once"
  else if !q.validConfiguration then
    return report { c with state := .failed } .invalidConfiguration
      "target range, epoch, limits or current thread is invalid"
  else if !q.backendComplete then
    return report { c with state := .failed } .invalidBackend
      "thread quiescence backend is incomplete"
  else
    let size := q.configuration.maximumThreads
    let read ← enumerateThreads size
    let c := { c with
      inventory := read.buffer
      finalInventory := List.replicate size 0
      requestedThreadIds := List.replicate size 0
      parkedThreads := List.replicate size {} }
    if !read.ok then
      if read.count > size then
        return report { c with state := .failed } .threadCapacityExceeded
          "thread inventory exceeds the prepared capacity"
      else
        return report { c with state := .failed } .enumerationFailed
          "initial thread enumeration failed"
    else
      let (valid, inventory) ← q.validInventory c.inventory read.count
      let c := { c with inventory }
      if !valid then
        return report { c with state := .failed } .threadInventoryInvalid
          "initial thread inventory is empty, duplicated or missing the caller"
      else
        return report { c with state := .prepared } .ok
          "thread quiescence buffers prepared without stopping a thread"

def abortEnter (c : Coordinator) (status : ThreadQuiescenceStatus) (message : String) :
    Quiesce Outcome := do
  if c.parkAttempted then
    if !(← resumeParkedThreads q.configuration.epoch) then
      return report { c with state := .failed } .resumeFailed
        "thread quiescence failed and parked threads could not be resumed"
    else return report { c with parkAttempted := false, state := .failed } status message
  else return report { c with state := .failed } status message

/-- A part of `enter`, which may return early. -/
abbrev Entering := ExceptT Outcome Quiesce

/-- Add a thread to the sorted front of `requestedThreadIds_`. -/
def noteRequested (c : Coordinator) (threadId : ℤ) : Quiesce Coordinator := do
  let stored ← store c.requestedThreadIds c.requestedThreadCount threadId
  let sorted ← sortFront q.sortIds stored (c.requestedThreadCount + 1)
  return { c with requestedThreadIds := sorted, requestedThreadCount := c.requestedThreadCount + 1 }

/-- The loop that asks the peers in the inventory to park. -/
def requestPeers : ℕ → ℕ → Coordinator → Entering Coordinator
  | 0, _, c => return c
  | rest + 1, index, c => do
    let threadId ← itemAt (α := ℤ) c.inventory index 0
    if threadId = q.configuration.currentThreadId then requestPeers rest (index + 1) c
    else
      let requested ← front (α := ℤ) c.requestedThreadIds c.requestedThreadCount
      if binarySearch requested threadId then requestPeers rest (index + 1) c
      else if c.requestedThreadCount = c.requestedThreadIds.length then
        throw (← q.abortEnter c .threadCapacityExceeded
          "park request set exceeds the prepared capacity")
      else
        let c := { c with parkAttempted := true }
        if !(← requestThreadPark threadId q.configuration.epoch) then
          throw (← q.abortEnter c .parkRequestFailed
            "a peer thread park request failed or was uncertain")
        else
          requestPeers rest (index + 1) (← q.noteRequested c threadId)

def awaitParked (c : Coordinator) : Entering Coordinator := do
  let c := { c with parkedThreadCount := 0 }
  if c.requestedThreadCount ≠ 0 then
    let requested ← front (α := ℤ) c.requestedThreadIds c.requestedThreadCount
    let waited ← waitForParkedThreads q.configuration.epoch requested c.parkedThreads.length
      q.configuration.waitTimeoutMilliseconds
    let c := { c with parkedThreads := waited.buffer, parkedThreadCount := waited.count }
    if !waited.ok then
      throw (← q.abortEnter c .parkWaitFailed
        "not every requested thread parked before the timeout")
    else return c
  else return c

def targetEnd : ℕ := (rangeEnd q.configuration.targetAddress q.configuration.targetSize).getD 0

def inspectParked (c : Coordinator) : ℕ → ℕ → Entering Unit
  | 0, _ => return ()
  | rest + 1, index => do
    let parked ← itemAt (α := ParkedThreadSnapshot) c.parkedThreads index {}
    let requested ← itemAt (α := ℤ) c.requestedThreadIds index 0
    if parked.threadId ≠ requested ∨ parked.epoch ≠ q.configuration.epoch then
      throw (← q.abortEnter c .parkedInventoryMismatch
        "parked snapshots do not exactly match the request epoch")
    else if parked.programCounter = 0 ∨ parked.programCounter &&& 3 ≠ 0 then
      let (failure, c) ← q.abortEnter c .parkedProgramCounterInvalid
        "a parked thread reported an invalid ARM64 program counter"
      throw ({ failure with
        unsafeThreadId := parked.threadId
        unsafeProgramCounter := parked.programCounter }, c)
    else if q.configuration.targetAddress ≤ parked.programCounter ∧
        parked.programCounter.toNat < q.targetEnd then
      let (failure, c) ← q.abortEnter c .threadInTargetRange
        "a parked thread is executing inside the entry patch range"
      throw ({ failure with
        unsafeThreadId := parked.threadId
        unsafeProgramCounter := parked.programCounter }, c)
    else inspectParked c rest (index + 1)

def checkParked (c : Coordinator) : Entering Coordinator := do
  if c.parkedThreadCount ≠ c.requestedThreadCount then
    throw (← q.abortEnter c .parkedInventoryMismatch
      "parked snapshot count does not match the request set")
  else
    let parkedThreads ← sortFront (α := ParkedThreadSnapshot) q.sortSnapshots c.parkedThreads
      c.parkedThreadCount
    let c := { c with parkedThreads }
    q.inspectParked c c.parkedThreadCount 0
    return c

def readFinal (c : Coordinator) : Entering (ℕ × Coordinator) := do
  let read ← enumerateThreads c.finalInventory.length
  let c := { c with finalInventory := read.buffer }
  if !read.ok then
    if read.count > q.configuration.maximumThreads then
      throw (← q.abortEnter c .threadCapacityExceeded
        "final thread inventory exceeds the prepared capacity")
    else
      throw (← q.abortEnter c .enumerationFailed
        "thread enumeration failed while peers were parked")
  else
    let (valid, finalInventory) ← q.validInventory c.finalInventory read.count
    let c := { c with finalInventory }
    if !valid then
      throw (← q.abortEnter c .threadInventoryInvalid
        "final thread inventory is invalid while peers are parked")
    else if !(← finalInventoryContainsEveryRequested c read.count) then
      throw (← q.abortEnter c .threadInventoryChanged
        "a requested parked thread disappeared from the final inventory")
    else return (read.count, c)

/-- The passes of `enter` that are left, over an inventory of some length. -/
def stabilize : ℕ → ℕ → Coordinator → Entering Outcome
  | 0, _, c => do return (← q.abortEnter c .threadSetUnstable "thread set did not stabilize")
  | rest + 1, inventoryCount, c => do
    let c ← q.requestPeers inventoryCount 0 c
    let c ← q.awaitParked c
    let c ← q.checkParked c
    let (finalCount, c) ← q.readFinal c
    if ← q.finalInventoryIsExact c finalCount then
      return report { c with state := .exclusive } .ok
        "all peer threads are parked outside the target range"
    else if rest = 0 then
      throw (← q.abortEnter c .threadSetUnstable
        "thread set did not stabilize within the configured passes")
    else
      let inventory ← copyFront (α := ℤ) c.finalInventory c.inventory finalCount
      stabilize rest finalCount { c with inventory }

def readFirst (c : Coordinator) : Entering (ℕ × Coordinator) := do
  let read ← enumerateThreads c.inventory.length
  let c := { c with inventory := read.buffer }
  if !read.ok then
    if read.count > q.configuration.maximumThreads then
      throw (← q.abortEnter c .threadCapacityExceeded
        "thread inventory exceeds the prepared capacity")
    else throw (← q.abortEnter c .enumerationFailed "thread enumeration failed before parking")
  else
    let (valid, inventory) ← q.validInventory c.inventory read.count
    let c := { c with inventory }
    if !valid then
      throw (← q.abortEnter c .threadInventoryInvalid
        "thread inventory became invalid before parking")
    else return (read.count, c)

def enterPrepared (c : Coordinator) : Entering Outcome := do
  let (inventoryCount, c) ← q.readFirst { c with requestedThreadCount := 0, parkedThreadCount := 0 }
  q.stabilize q.configuration.maximumStabilizationPasses inventoryCount c

def enter (c : Coordinator) : Quiesce Outcome := do
  if c.state ≠ .prepared then return report c .invalidState "thread quiescence is not prepared"
  else
    match ← (q.enterPrepared c).run with
    | .error outcome => return outcome
    | .ok outcome => return outcome

def leave (c : Coordinator) : Quiesce Outcome := do
  if c.state ≠ .exclusive then return report c .invalidState "thread quiescence is not exclusive"
  else if c.parkAttempted then
    if !(← resumeParkedThreads q.configuration.epoch) then
      return report { c with state := .failed } .resumeFailed "parked threads could not be resumed"
    else
      return report { c with parkAttempted := false, state := .released } .ok
        "all parked threads were released from the exclusive window"
  else
    return report { c with parkAttempted := false, state := .released } .ok
      "all parked threads were released from the exclusive window"

def destroy (c : Coordinator) : Quiesce Unit := do
  if c.parkAttempted && q.backend.resumes then
    let _ ← resumeParkedThreads q.configuration.epoch

end ThreadQuiescence

end Vcam.Runtime
