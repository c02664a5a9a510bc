import AndroidVcam.Binder.MessageFormat

/-!
# The camera status reply

`runtime/platform/Android14CameraListenerFilter.cpp`: the answer to `addListener` lists every
camera with its status. The filter takes the internal cameras out of it.

* `StatusReply`: the replies that list cameras, and the list;
* **`filter_exact`**: exactly the internal cameras are taken out, and every other reply stays as it
  was.
-/

namespace Vcam

open TextFile Wire List Reader

variable {β ι : Type}

/-! ## Records -/

structure CameraStatusRecord where
  cameraId : List Char16
  status : ℤ
  unavailablePhysicalIds : List (List Char16)
  clientPackage : List Char16
deriving DecidableEq

def kParcelablePresent : ℤ := 1

def kMaxCameraStatusCount : ℤ := 1024

def kMaxCameraIdLength : ℕ := 255

def isInternalId (value : List Char16) : Bool :=
  decide (value = ascii16 "1000" ∨ value = ascii16 "1001")

def CameraStatusRecord.internal (record : CameraStatusRecord) : Bool :=
  isInternalId record.cameraId

section Record

variable (F : MessageFormat β ι)

def readCameraStatusRecord : Reader β CameraStatusRecord := do
  let present ← .field F.int32.toDecoder
  .require (present = kParcelablePresent)
  let cameraId ← .given (← .field F.nullableString16)
  .require (cameraId.length ≤ kMaxCameraIdLength)
  let status ← .field F.int32.toDecoder
  let unavailablePhysicalIds ← .field F.string16Vector.toDecoder
  let clientPackage ← .given (← .field F.nullableString16)
  pure ⟨cameraId, status, unavailablePhysicalIds, clientPackage⟩

def writeCameraStatusRecord (record : CameraStatusRecord) : List β :=
  F.int32.write kParcelablePresent ++ (F.string16.write record.cameraId ++
    (F.int32.write record.status ++ (F.string16Vector.write record.unavailablePhysicalIds ++
      F.string16.write record.clientPackage)))

/-- The record can be written so that it is read back. -/
structure CameraStatusRecord.Storable (record : CameraStatusRecord) : Prop where
  cameraId : record.cameraId.length ≤ kMaxCameraIdLength
  status : F.int32.Writable record.status
  unavailablePhysicalIds : F.string16Vector.Writable record.unavailablePhysicalIds
  clientPackage : F.string16.Writable record.clientPackage

end Record

variable {F : MessageFormat β ι}

variable {base : ℕ} {record : CameraStatusRecord}

theorem reads_record_iff {l : List β} :
    (readCameraStatusRecord F).Reads base l record ↔
      ∃ a b c d e, l = a ++ (b ++ (c ++ (d ++ e))) ∧
        F.int32.read a = some (kParcelablePresent, a.length) ∧
        F.string16.read b = some (record.cameraId, b.length) ∧
        record.cameraId.length ≤ kMaxCameraIdLength ∧
        F.int32.read c = some (record.status, c.length) ∧
        F.string16Vector.read d = some (record.unavailablePhysicalIds, d.length) ∧
        F.string16.read e = some (record.clientPackage, e.length) := by
  simp only [readCameraStatusRecord, reads_field_bind, reads_require_bind,
    reads_given_bind, reads_pure]
  constructor
  · rintro ⟨present, a, -, rfl, ha, rfl, id, b, -, rfl, hb, cameraId, rfl, hid, status, c, -, rfl, hc,
      ids, d, -, rfl, hd, package, e, -, rfl, he, clientPackage, rfl, rfl, rfl⟩
    exact ⟨a, b, c, d, e, by rw [append_nil], ha, F.nullableString16_iff.mp hb, hid, hc, hd,
      F.nullableString16_iff.mp he⟩
  · rintro ⟨a, b, c, d, e, rfl, ha, hb, hid, hc, hd, he⟩
    exact ⟨_, a, _, rfl, ha, rfl, _, b, _, rfl, F.nullableString16_iff.mpr hb, _, rfl, hid, _, c, _,
      rfl, hc, _, d, _, rfl, hd, _, e, [], (append_nil e).symm, F.nullableString16_iff.mpr he,
      _, rfl, rfl, rfl⟩

theorem storable_of_reads {l : List β}
    (h : (readCameraStatusRecord F).Reads base l record) : record.Storable F := by
  obtain ⟨a, b, c, d, e, -, -, -, hid, hc, hd, he⟩ := reads_record_iff.mp h
  have hr := F.int32_range hc
  exact ⟨hid, F.int32_writable hr.1 hr.2, F.string16Vector_of_read hd,
    F.string16_of_read he⟩

theorem reads_writeCameraStatusRecord (h : record.Storable F) (base : ℕ) :
    (readCameraStatusRecord F).Reads base (writeCameraStatusRecord F record) record := by
  have hid : F.string16.Writable record.cameraId :=
    F.string16_writable (lt_of_le_of_lt h.cameraId (by decide))
  have hp : F.int32.Writable kParcelablePresent :=
    F.int32_writable (by decide) (by decide)
  exact reads_record_iff.mpr ⟨_, _, _, _, _, rfl, Codec.read_write_self hp,
    Codec.read_write_self hid, h.cameraId, Codec.read_write_self h.status,
    Codec.read_write_self h.unavailablePhysicalIds, Codec.read_write_self h.clientPackage⟩

/-! ## The filter -/

inductive CameraStatusReplyFilterStatus
  | filtered
  | unchanged
  | malformedReply
  | serviceError
  | writeFailed
deriving DecidableEq, Repr

/-- A reply with its read cursor, which libbinder lets stand anywhere. -/
structure Reply (β : Type) where
  cells : List β
  dataPosition : ℕ

/-- The answers of libbinder while the replacement is written; `record` has those of
`writeCameraStatusRecord`, by the index of the record. -/
structure ReplyWriteResults where
  status : Bool
  count : Bool
  record : ℕ → Bool
  append : Bool

def ReplyWriteResults.Succeed (ops : ReplyWriteResults) : Prop :=
  ops.status = true ∧ ops.count = true ∧ (∀ index, ops.record index = true) ∧ ops.append = true

structure StatusReplyResult (β : Type) where
  status : CameraStatusReplyFilterStatus
  reply : Reply β
  /-- What is added to `gStatusRecordsFiltered`. -/
  recordsFiltered : ℕ := 0

variable (F)

/-- The loop over the records, with `visible` and `filtered` as accumulators. -/
def readVisible : ℕ → List CameraStatusRecord → ℕ → Reader β (List CameraStatusRecord × ℕ)
  | 0, visible, filtered => pure (visible, filtered)
  | n + 1, visible, filtered => do
    let record ← readCameraStatusRecord F
    if isInternalId record.cameraId then readVisible n visible (filtered + 1)
    else readVisible n (visible ++ [record]) filtered

def readStatusList : Reader β (List CameraStatusRecord × ℕ) := do
  let count ← .field F.int32.toDecoder
  .require (0 ≤ count ∧ count ≤ kMaxCameraStatusCount)
  readVisible F count.toNat [] 0

/-- The loop that writes the records, from `index` on. -/
def writeRecords (ops : ReplyWriteResults) : ℕ → List CameraStatusRecord → Option (List β)
  | _, [] => some []
  | index, record :: records =>
    if ops.record index then
      (writeRecords ops (index + 1) records).map (writeCameraStatusRecord F record ++ ·)
    else none

def filterAndroid14CameraStatusReply (ops : ReplyWriteResults) (reply : Reply β) :
    StatusReplyResult β :=
  match F.readStatus reply.cells with
  | none => { status := .malformedReply, reply := reply }
  | some (false, _) => { status := .serviceError, reply := reply }
  | some (true, position) =>
    match (readStatusList F).run position (reply.cells.drop position) with
    | none => { status := .malformedReply, reply := reply }
    | some ((visible, filtered), used) =>
      if position + used ≠ reply.cells.length then { status := .malformedReply, reply := reply }
      else if filtered = 0 then { status := .unchanged, reply := reply }
      else if ops.status = false ∨ ops.count = false then { status := .writeFailed, reply := reply }
      else match writeRecords F ops 0 visible with
        | none => { status := .writeFailed, reply := reply }
        | some records =>
          -- the reply is freed before the replacement is copied
          if ops.append = false then { status := .writeFailed, reply := ⟨[], 0⟩ }
          else
            { status := .filtered
              reply := ⟨F.okStatus ++ (F.int32.write visible.length ++ records), 0⟩
              recordsFiltered := filtered }

/-! ## The replies that list cameras -/

def statusList : Reader β (List CameraStatusRecord) := do
  let count ← .field F.int32.toDecoder
  .require (0 ≤ count ∧ count ≤ kMaxCameraStatusCount)
  (readCameraStatusRecord F).times count.toNat

/-- The cells are an OK status, the records and nothing else. -/
def StatusReply (cells : List β) (records : List CameraStatusRecord) : Prop :=
  ∃ position, F.readStatus cells = some (true, position) ∧
    (statusList F).Reads position (cells.drop position) records

variable {F} {c : List β} {records : List CameraStatusRecord}

theorem reads_statusList_iff {l : List β} :
    (statusList F).Reads base l records ↔ ∃ count x y, l = x ++ y ∧
      F.int32.read x = some (count, x.length) ∧ (0 ≤ count ∧ count ≤ kMaxCameraStatusCount) ∧
      ((readCameraStatusRecord F).times count.toNat).Reads (base + x.length) y records := by
  simp only [statusList, reads_field_bind, reads_require_bind]

theorem StatusReply.storable (h : StatusReply F c records) :
    records.length ≤ 1024 ∧ ∀ record ∈ records, record.Storable F := by
  obtain ⟨position, -, hl⟩ := h
  obtain ⟨count, x, y, -, -, hc, hr⟩ := reads_statusList_iff.mp hl
  refine ⟨?_, forall_of_reads_times hr fun h => storable_of_reads h⟩
  rw [length_of_reads_times hr]
  unfold kMaxCameraStatusCount at hc
  omega

def writeStatusReply (F : MessageFormat β ι) (records : List CameraStatusRecord) : List β :=
  F.okStatus ++ (F.int32.write records.length ++ records.flatMap (writeCameraStatusRecord F))

/-- **A written reply lists its records.** -/
theorem statusReply_write (hlen : records.length ≤ 1024)
    (h : ∀ record ∈ records, record.Storable F) :
    StatusReply F (writeStatusReply F records) records := by
  have hc : F.int32.Writable records.length := F.int32_writable (by omega) (by omega)
  refine ⟨F.okStatus.length, F.readStatus_ok _, ?_⟩
  rw [writeStatusReply, drop_left]
  refine reads_statusList_iff.mpr ⟨records.length, _, _, rfl, Codec.read_write_self hc, ?_, ?_⟩
  · unfold kMaxCameraStatusCount
    omega
  · rw [Int.toNat_natCast]
    exact reads_times_flatMap fun record hr =>
      reads_writeCameraStatusRecord (h record hr)

/-! ## What the filter does -/

/-- The records of the cameras that an application may see. -/
def visibleRecords (records : List CameraStatusRecord) : List CameraStatusRecord :=
  records.filter fun record => !record.internal

/-- **The loop keeps the visible records and counts the others.** -/
theorem reads_readVisible_iff {n f : ℕ} {l : List β} {v : List CameraStatusRecord}
    {out : List CameraStatusRecord × ℕ} :
    (readVisible F n v f).Reads base l out ↔ ∃ records,
      ((readCameraStatusRecord F).times n).Reads base l records ∧
      (v ++ visibleRecords records, f + records.countP CameraStatusRecord.internal) =
        out := by
  induction n generalizing base f l v with
  | zero =>
    rw [readVisible, reads_pure]
    constructor
    · rintro ⟨rfl, rfl⟩
      exact ⟨[], reads_times_zero.mpr ⟨rfl, rfl⟩, by simp [visibleRecords]⟩
    · rintro ⟨records, h, rfl⟩
      obtain ⟨rfl, rfl⟩ := reads_times_zero.mp h
      exact ⟨rfl, by simp [visibleRecords]⟩
  | succ n ih =>
    have hs : ∀ {record : CameraStatusRecord} {x y : List β},
        (if isInternalId record.cameraId then readVisible F n v (f + 1)
          else readVisible F n (v ++ [record]) f).Reads (base + x.length) y out ↔
        ∃ records, ((readCameraStatusRecord F).times n).Reads (base + x.length) y records ∧
          (v ++ visibleRecords (record :: records),
            f + (record :: records).countP CameraStatusRecord.internal) = out := by
      intro record x y
      by_cases hr : isInternalId record.cameraId = true
      · have hi : record.internal = true := hr
        rw [if_pos hr, ih]
        simp [visibleRecords, hi, Nat.add_assoc, Nat.add_comm 1]
      · have hi : record.internal = false := Bool.eq_false_iff.mpr hr
        rw [if_neg hr, ih]
        simp [visibleRecords, hi]
    rw [readVisible, reads_bind]
    constructor
    · rintro ⟨record, x, y, rfl, hx, hy⟩
      obtain ⟨records, hre, hout⟩ := hs.mp hy
      exact ⟨record :: records, reads_times_succ.mpr ⟨record, records, x, y, rfl, rfl, hx,
        hre⟩, hout⟩
    · rintro ⟨records, h, hout⟩
      obtain ⟨record, records, x, y, rfl, rfl, hx, hy⟩ := reads_times_succ.mp h
      exact ⟨record, x, y, rfl, hx, hs.mpr ⟨records, hy, hout⟩⟩

theorem reads_readStatusList_iff {l : List β} {out : List CameraStatusRecord × ℕ} :
    (readStatusList F).Reads base l out ↔ ∃ records, (statusList F).Reads base l records ∧
      (visibleRecords records, records.countP CameraStatusRecord.internal) = out := by
  simp only [readStatusList, reads_field_bind, reads_require_bind,
    reads_readVisible_iff, reads_statusList_iff, nil_append, Nat.zero_add]
  constructor
  · rintro ⟨count, x, y, hl, hx, hc, records, hr, hout⟩
    exact ⟨records, ⟨count, x, y, hl, hx, hc, hr⟩, hout⟩
  · rintro ⟨records, ⟨count, x, y, hl, hx, hc, hr⟩, hout⟩
    exact ⟨count, x, y, hl, hx, hc, records, hr, hout⟩

theorem position_lt_of_reads {p : ℕ}
    (h : (statusList F).Reads p (c.drop p) records) : p < c.length := by
  by_contra hle
  rw [drop_of_length_le (not_lt.mp hle)] at h
  exact not_reads_field_bind_nil h

theorem writeRecords_succeed {ops : ReplyWriteResults} (hops : ∀ i, ops.record i = true)
    (i : ℕ) : writeRecords F ops i records =
      some (records.flatMap (writeCameraStatusRecord F)) := by
  induction records generalizing i with
  | nil => rfl
  | cons record records ih =>
    rw [writeRecords, if_pos (hops i), ih, Option.map_some, flatMap_cons]

variable {ops : ReplyWriteResults} {d : ℕ}

/-- **What becomes of a reply that lists cameras.** -/
theorem filter_of_statusReply (hops : ops.Succeed) (h : StatusReply F c records) :
    filterAndroid14CameraStatusReply F ops ⟨c, d⟩ =
      if records.countP CameraStatusRecord.internal = 0 then
        { status := .unchanged, reply := ⟨c, d⟩ }
      else
        { status := .filtered
          reply := ⟨writeStatusReply F (visibleRecords records), 0⟩
          recordsFiltered := records.countP CameraStatusRecord.internal } := by
  obtain ⟨position, hok, hl⟩ := h
  obtain ⟨hs, hc, hr, ha⟩ := hops
  have hlt := position_lt_of_reads hl
  have hrun : (readStatusList F).run position (c.drop position) = some (_, _) :=
    reads_readStatusList_iff.mpr ⟨records, hl, rfl⟩
  have hend : ¬ (position + (c.drop position).length ≠ c.length) := by
    rw [length_drop]
    omega
  simp only [filterAndroid14CameraStatusReply, hok, hrun, hs, hc, ha, if_neg hend,
    writeRecords_succeed hr, writeStatusReply, Bool.true_eq_false, or_self, if_false]

/-- **Every other reply stays as it was.** -/
theorem filter_of_not_statusReply (h : ∀ records, ¬ StatusReply F c records) :
    (filterAndroid14CameraStatusReply F ops ⟨c, d⟩).reply = ⟨c, d⟩ := by
  unfold filterAndroid14CameraStatusReply
  dsimp only
  split
  · rfl
  · rfl
  · rename_i position hok
    split
    · rfl
    · rename_i out used hrun
      obtain ⟨x, r, hc, rfl, hx⟩ := run_eq_some_iff.mp hrun
      rw [if_pos]
      intro hend
      -- nothing is left behind the list, so the reply is one that lists cameras
      have hlen : x.length = (c.drop position).length := by
        rw [length_drop]
        omega
      obtain rfl : r = [] := by
        rw [hc, length_append] at hlen
        exact length_eq_zero_iff.mp (by omega)
      rw [append_nil] at hc
      obtain ⟨records, hl, -⟩ := reads_readStatusList_iff.mp hx
      exact h records ⟨position, hok, hc ▸ hl⟩

theorem countP_visibleRecords (r : List CameraStatusRecord) :
    (visibleRecords r).countP CameraStatusRecord.internal = 0 := by
  refine countP_eq_zero.mpr fun record h => ?_
  have := (mem_filter.mp h).2
  simpa using this

theorem statusReply_visible (h : StatusReply F c records) :
    StatusReply F (writeStatusReply F (visibleRecords records)) (visibleRecords records) := by
  obtain ⟨hlen, hs⟩ := h.storable
  exact statusReply_write ((length_filter_le _ _).trans hlen)
    fun record hr => hs record (mem_filter.mp hr).1

/-- **Status-list filtering is exact.** The records that are left are those whose ID is neither
`1000` nor `1001`, and a second call finds nothing to do. -/
theorem filter_exact (hops : ops.Succeed) (reply : Reply β) :
    (∀ records, StatusReply F reply.cells records →
      StatusReply F (filterAndroid14CameraStatusReply F ops reply).reply.cells
        (records.filter fun record =>
          record.cameraId ≠ ascii16 "1000" ∧ record.cameraId ≠ ascii16 "1001") ∧
      ((filterAndroid14CameraStatusReply F ops reply).status = .filtered ↔
        ∃ record ∈ records, record.cameraId = ascii16 "1000" ∨
          record.cameraId = ascii16 "1001") ∧
      (filterAndroid14CameraStatusReply F ops
        (filterAndroid14CameraStatusReply F ops reply).reply).status = .unchanged) ∧
    ((∀ records, ¬ StatusReply F reply.cells records) →
      (filterAndroid14CameraStatusReply F ops reply).reply = reply) := by
  refine ⟨fun records h => ?_, filter_of_not_statusReply⟩
  have hv : visibleRecords records = records.filter fun record =>
      record.cameraId ≠ ascii16 "1000" ∧ record.cameraId ≠ ascii16 "1001" := by
    refine filter_congr fun record _ => ?_
    simp [CameraStatusRecord.internal, isInternalId]
  have hi : records.countP CameraStatusRecord.internal ≠ 0 ↔
      ∃ record ∈ records, record.cameraId = ascii16 "1000" ∨
        record.cameraId = ascii16 "1001" := by
    rw [← Nat.pos_iff_ne_zero, countP_pos_iff]
    simp only [CameraStatusRecord.internal, isInternalId, decide_eq_true_eq]
  rw [← hv, ← hi, filter_of_statusReply hops h]
  split_ifs with hz
  · have hall : visibleRecords records = records := by
      refine filter_eq_self.mpr fun record hr => ?_
      simpa using countP_eq_zero.mp hz record hr
    refine ⟨by rwa [hall], by simp [hz], ?_⟩
    rw [filter_of_statusReply hops h, if_pos hz]
  · refine ⟨statusReply_visible h, by simp [hz], ?_⟩
    rw [filter_of_statusReply hops (statusReply_visible h), if_pos (countP_visibleRecords records)]

/-- A present camera without physical cameras that no client has open. -/
def presentCamera (cameraId : Text) : CameraStatusRecord := ⟨ascii16 cameraId, 1, [], []⟩

theorem storable_presentCamera {id : Text} (h : id.length ≤ 255) :
    (presentCamera id).Storable androidMessages := by
  have hid : (ascii16 id).length ≤ 255 := by rwa [ascii16, length_map]
  have hs : androidMessages.int32.Writable 1 := ⟨by decide, by decide⟩
  have hids : androidMessages.string16Vector.Writable [] :=
    ⟨by decide, forall_mem_nil _⟩
  have hp : androidMessages.string16.Writable [] :=
    androidMessages.string16_writable (by decide)
  exact ⟨hid, hs, hids, hp⟩

theorem filter_exact_two :
    (filterAndroid14CameraStatusReply androidMessages ⟨true, true, fun _ => true, true⟩
      ⟨writeStatusReply androidMessages [presentCamera "0", presentCamera "1000"],
        0⟩).status = .filtered ∧
    StatusReply androidMessages
      (filterAndroid14CameraStatusReply androidMessages ⟨true, true, fun _ => true, true⟩
        ⟨writeStatusReply androidMessages [presentCamera "0", presentCamera "1000"],
          0⟩).reply.cells [presentCamera "0"] := by
  have hr : StatusReply androidMessages (writeStatusReply androidMessages
      [presentCamera "0", presentCamera "1000"])
      [presentCamera "0", presentCamera "1000"] := by
    refine statusReply_write (by decide) (forall_mem_cons.mpr
      ⟨storable_presentCamera (by decide), forall_mem_singleton.mpr
        (storable_presentCamera (by decide))⟩)
  have hops : ReplyWriteResults.Succeed ⟨true, true, fun _ => true, true⟩ :=
    ⟨rfl, rfl, fun _ => rfl, rfl⟩
  obtain ⟨hl, hs, -⟩ := (filter_exact hops ⟨_, 0⟩).1 _ hr
  exact ⟨hs.mpr ⟨presentCamera "1000", by decide, by decide⟩, hl⟩

end Vcam
