import AndroidVcam.Lib.Wire

/-!
# Enumerating the threads of the process

`enumerateThreadsRaw` reads the records of `/proc/self/task` out of the buffers of `getdents64`. It
refuses a record that is not longer than its own structure, which with the padding behind its members
is longer than the records of short names.

* `parseName`, `scan`, `enumerateThreadsRaw`: the loops over names, records and buffers; a read outside
  of the buffer is `none`;
* `scanEntries`, `scan_records`, **`enumerateThreadsRaw_eq`**: what the loops make of it;
* `Complete`: the threads are found, or too many are reported;
* **`complete_iff`**: only directories without threads or with too many long IDs at their beginning
  are enumerated as they should be.
-/

namespace Vcam.Runtime

open Wire List

/-! ## The loops -/

/-- The members of `LinuxDirectoryEntry64` end at byte 19, and the structure is aligned to 8. -/
def sizeOfDirectoryEntry : ℕ := (19 + 7) / 8 * 8

/-- The digits of a name up to its end: the number, or `none` for another name. -/
def parseName : Bytes → ℕ → Option (Option ℕ)
  | [], _ => none
  | character :: rest, parsed =>
    if character = 0 then some (some parsed)
    else if character < 48 ∨ character > 57 ∨ parsed > (2 ^ 31 - 1 - 9) / 10 then some none
    else parseName rest (parsed * 10 + (character.toNat - 48))

/-- The number that a name is, with `none` for an empty name. -/
def threadOfName (name : Bytes) : Option (Option ℕ) := do
  let first ← name[0]?
  if first = 0 then return none
  else
    match ← parseName name 0 with
    | some parsed => return if parsed > 0 then some parsed else none
    | none => return none

/-- What the callers see: the return value so far, the count and the IDs stored. -/
structure Enumeration where
  success : Bool
  count : ℕ
  output : List ℕ
deriving DecidableEq

/-- The loop over the records of a buffer, from an offset on. -/
def scan (capacity : ℕ) (bytes : Bytes) (found : Enumeration) : Option Enumeration :=
  if bytes = [] then some found
  else
    match bytes[16]?, bytes[17]? with
    | some low, some high =>
      let recordLength := low.toNat + 256 * high.toNat
      if _ : recordLength < sizeOfDirectoryEntry + 1 ∨ recordLength > bytes.length then
        some { found with success := false }
      else
        match threadOfName (bytes.drop 19) with
        | none => none
        | some none => scan capacity (bytes.drop recordLength) found
        | some (some threadId) =>
          if found.count = capacity then
            some { found with success := false, count := capacity + 1 }
          else
            scan capacity (bytes.drop recordLength)
              { found with count := found.count + 1, output := found.output ++ [threadId] }
    | _, _ => none
termination_by bytes.length
decreasing_by all_goals simp only [length_drop, sizeOfDirectoryEntry] at *; omega

/-- A result of `getdents64`: an error, or the bytes in the buffer. -/
inductive Getdents
  | failed
  | read (bytes : Bytes)

def readDirectory (capacity : ℕ) : List Getdents → Enumeration → Option Enumeration
  | [], found => some found
  | .failed :: _, found => some { found with success := false }
  | .read bytes :: rest, found =>
    if bytes = [] then some found
    else do
      let found ← scan capacity bytes found
      if !found.success then return found else readDirectory capacity rest found

/-- The return value, the count and the IDs, for a directory that may not be opened. -/
def enumerateThreadsRaw (opened : Bool) (results : List Getdents) (capacity : ℕ) :
    Option (Bool × ℕ × List ℕ) :=
  if !opened then some (false, 0, [])
  else do
    let found ← readDirectory capacity results ⟨true, 0, []⟩
    return (found.success && decide (found.count ≠ 0), found.count, found.output)

/-! ## Directories -/

/-- An entry of `/proc/self/task`. -/
inductive Entry
  | dot
  | dotDot
  | thread (threadId : { id : ℕ // 1 ≤ id ∧ id ≤ 4194304 })

def digitByte (digit : ℕ) : UInt8 := UInt8.ofNat (48 + digit)

namespace Entry

def name : Entry → Bytes
  | dot => [46]
  | dotDot => [46, 46]
  | thread threadId => (Nat.digits 10 threadId.val).reverse.map digitByte

/-- The length of the record: the name with its end behind 19 bytes, rounded up to 8. -/
def recordLength (entry : Entry) : ℕ := (19 + entry.name.length + 1 + 7) / 8 * 8

def threadId? : Entry → Option ℕ
  | thread threadId => some threadId.val
  | _ => none

end Entry

def threadIds (directory : List Entry) : List ℕ := directory.filterMap Entry.threadId?

/-- A `linux_dirent64` of the kernel. What is behind the end of the name is not specified. -/
structure Record where
  entry : Entry
  inode : { bytes : Bytes // bytes.length = 8 }
  offset : { bytes : Bytes // bytes.length = 8 }
  type : UInt8
  padding : { bytes : Bytes //
    19 + entry.name.length + 1 + bytes.length = entry.recordLength }

def Record.bytes (r : Record) : Bytes :=
  r.inode.val ++ (r.offset.val ++ (leBytes 2 r.entry.recordLength ++
    (r.type :: (r.entry.name ++ (0 :: r.padding.val)))))

/-- The results of `getdents64` for some buffers of records; the end is the 0 behind them. -/
def results (buffers : List (List Record)) : List Getdents :=
  buffers.map fun records => .read (records.flatMap Record.bytes)

/-! ## Names -/

theorem toNat_digitByte {digit : ℕ} (h : digit < 10) : (digitByte digit).toNat = 48 + digit := by
  rw [digitByte, UInt8.toNat_ofNat']
  omega

theorem digitByte_ne_zero {d : ℕ} (h : d < 10) : digitByte d ≠ 0 := by
  intro hz
  have hv := toNat_digitByte h
  rw [hz, UInt8.toNat_zero] at hv
  omega

def readDigits (digits : List ℕ) (parsed : ℕ) : ℕ :=
  digits.foldl (fun value digit => value * 10 + digit) parsed

theorem le_readDigits (d : List ℕ) (parsed : ℕ) : parsed ≤ readDigits d parsed := by
  induction d generalizing parsed with
  | nil => exact le_rfl
  | cons digit d ih =>
    have := ih (parsed * 10 + digit)
    simp only [readDigits, foldl_cons] at this ⊢
    omega

theorem readDigits_digits (n : ℕ) : readDigits (Nat.digits 10 n).reverse 0 = n := by
  rw [readDigits, foldl_reverse]
  conv_rhs => rw [← Nat.ofDigits_digits 10 n, Nat.ofDigits_eq_foldr]
  congr 1
  funext digit value
  rw [Nat.cast_id]
  ring

theorem parseName_digits {d : List ℕ} (hd : ∀ digit ∈ d, digit < 10) {p : ℕ}
    (hl : readDigits d p ≤ 4194304) (rest : Bytes) :
    parseName (d.map digitByte ++ 0 :: rest) p = some (some (readDigits d p)) := by
  induction d generalizing p with
  | nil => simp [parseName, readDigits]
  | cons digit d ih =>
    have hdi := hd digit mem_cons_self
    have hv := toNat_digitByte hdi
    have hp : p * 10 + digit ≤ 4194304 := (le_readDigits d _).trans hl
    have hn : ¬ (digitByte digit < 48 ∨ digitByte digit > 57 ∨
        p > (2 ^ 31 - 1 - 9) / 10) := by
      have hlow : ((48 : UInt8)).toNat = 48 := rfl
      have hh : ((57 : UInt8)).toNat = 57 := rfl
      rw [UInt8.lt_iff_toNat_lt, gt_iff_lt, UInt8.lt_iff_toNat_lt]
      omega
    rw [map_cons, cons_append, parseName, if_neg (digitByte_ne_zero hdi),
      if_neg hn, hv, Nat.add_sub_cancel_left]
    exact ih (fun other ho => hd other (mem_cons_of_mem _ ho)) hl

theorem threadOfName_thread (ti : { id : ℕ // 1 ≤ id ∧ id ≤ 4194304 }) (rest : Bytes) :
    threadOfName ((Entry.thread ti).name ++ 0 :: rest) = some (some ti.val) := by
  obtain ⟨id, hpo, hl⟩ := ti
  have hd : ∀ digit ∈ (Nat.digits 10 id).reverse, digit < 10 := fun digit hdi =>
    Nat.digits_lt_base (by decide) (mem_reverse.mp hdi)
  have hb : readDigits (Nat.digits 10 id).reverse 0 ≤ 4194304 := by rwa [readDigits_digits]
  have hp := parseName_digits hd hb rest
  rw [readDigits_digits] at hp
  obtain ⟨digit, digits, hc⟩ : ∃ digit digits, (Nat.digits 10 id).reverse = digit :: digits := by
    refine exists_cons_of_ne_nil ?_
    rw [Ne, reverse_eq_nil_iff, Nat.digits_eq_nil_iff_eq_zero]
    omega
  have hf : digitByte digit ≠ 0 :=
    digitByte_ne_zero (hd digit (hc ▸ mem_cons_self))
  change (do
    let first ← ((Nat.digits 10 id).reverse.map digitByte ++ 0 :: rest)[0]?
    if first = 0 then pure none
    else
      match ← parseName ((Nat.digits 10 id).reverse.map digitByte ++ 0 :: rest) 0 with
      | some parsed => return if parsed > 0 then some parsed else none
      | none => return none : Option (Option ℕ)) = some (some id)
  rw [hp, hc]
  simp [hf, Nat.pos_iff_ne_zero.mp hpo]

/-! ## Records -/

namespace Entry

def Long (entry : Entry) : Prop := ∃ threadId, entry = thread threadId ∧ 10000 ≤ threadId.val

theorem recordLength_thread (ti : { id : ℕ // 1 ≤ id ∧ id ≤ 4194304 }) :
    (thread ti).recordLength = if ti.val < 10000 then 24 else 32 := by
  obtain ⟨id, hp, hli⟩ := ti
  have hm : (Nat.digits 10 id).length ≤ 7 :=
    (Nat.digits_length_le_iff (by decide) id).mpr (by omega)
  have hs := Nat.digits_length_le_iff (k := 4) (b := 10) (by decide) id
  rw [recordLength, name, length_map, length_reverse]
  dsimp only
  split_ifs with hl
  · have := hs.mpr (by omega)
    omega
  · have : ¬ (Nat.digits 10 id).length ≤ 4 := fun h => hl (by have := hs.mp h; omega)
    omega

/-- **Only the records of long IDs pass.** -/
theorem recordLength_gt_iff {e : Entry} :
    sizeOfDirectoryEntry < e.recordLength ↔ e.Long := by
  have hs : sizeOfDirectoryEntry = 24 := rfl
  cases e with
  | dot => exact iff_of_false (by decide) nofun
  | dotDot => exact iff_of_false (by decide) nofun
  | thread threadId =>
    rw [recordLength_thread, hs]
    constructor
    · intro h
      refine ⟨threadId, rfl, not_lt.mp fun hle => ?_⟩
      rw [if_pos hle] at h
      exact lt_irrefl _ h
    · rintro ⟨other, heq, hl⟩
      cases heq
      rw [if_neg (not_lt.mpr hl)]
      decide

theorem recordLength_lt (e : Entry) : e.recordLength < 256 ^ 2 := by
  cases e with
  | dot => decide
  | dotDot => decide
  | thread threadId =>
    rw [recordLength_thread]
    split_ifs <;> decide

end Entry

namespace Record

variable (r : Record) (rest : Bytes)

theorem length_bytes : r.bytes.length = r.entry.recordLength := by
  have hp := r.padding.property
  simp only [bytes, length_append, length_cons, length_leBytes, r.inode.property,
    r.offset.property]
  omega

theorem recordLength_read : ∃ low high, (r.bytes ++ rest)[16]? = some low ∧
    (r.bytes ++ rest)[17]? = some high ∧ low.toNat + 256 * high.toNat = r.entry.recordLength := by
  obtain ⟨low, high, hb⟩ : ∃ low high, leBytes 2 r.entry.recordLength = [low, high] :=
    ⟨_, _, rfl⟩
  have hv := leValue_leBytes r.entry.recordLength_lt
  rw [hb] at hv
  have hs : (r.inode.val ++ r.offset.val).length = 16 := by
    rw [length_append, r.inode.property, r.offset.property]
  have hsp : r.bytes ++ rest = (r.inode.val ++ r.offset.val) ++
      (low :: high :: (r.type :: (r.entry.name ++ (0 :: r.padding.val)) ++ rest)) := by
    simp [bytes, hb]
  refine ⟨low, high, ?_, ?_, by simpa [leValue] using hv⟩
  · rw [hsp, getElem?_append_right (by omega), hs]
    rfl
  · rw [hsp, getElem?_append_right (by omega), hs]
    rfl

theorem drop_name : (r.bytes ++ rest).drop 19 = r.entry.name ++ 0 :: (r.padding.val ++ rest) := by
  have hs : r.bytes ++ rest = (r.inode.val ++ (r.offset.val ++
      (leBytes 2 r.entry.recordLength ++ [r.type]))) ++
      (r.entry.name ++ 0 :: (r.padding.val ++ rest)) := by
    simp [bytes]
  rw [hs]
  refine drop_left' ?_
  simp [r.inode.property, r.offset.property]

end Record

/-! ## The loops over a directory -/

def scanEntries (capacity : ℕ) : List Entry → Enumeration → Enumeration
  | [], found => found
  | .thread threadId :: rest, found =>
    if threadId.val < 10000 then { found with success := false }
    else if found.count = capacity then { found with success := false, count := capacity + 1 }
    else
      scanEntries capacity rest
        { found with count := found.count + 1, output := found.output ++ [threadId.val] }
  | _ :: _, found => { found with success := false }

variable {capacity : ℕ} {found : Enumeration} {directory : List Entry}

theorem scan_short {r : Record} (rest : Bytes)
    (h : ¬ r.entry.Long) : scan capacity (r.bytes ++ rest) found =
      some { found with success := false } := by
  obtain ⟨low, high, hlow, hh, hl⟩ := r.recordLength_read rest
  have hs : r.entry.recordLength < sizeOfDirectoryEntry + 1 :=
    Nat.lt_succ_of_le (not_lt.mp fun hgt => h (Entry.recordLength_gt_iff.mp hgt))
  have hne : r.bytes ++ rest ≠ [] := fun hnil => by
    rw [hnil] at hlow
    cases hlow
  rw [scan, if_neg hne, hlow, hh]
  dsimp only
  rw [hl, dif_pos (.inl hs)]

theorem scan_long {r : Record} (rest : Bytes) {ti : { id : ℕ // 1 ≤ id ∧ id ≤ 4194304 }}
    (he : r.entry = .thread ti)
    (hlo : 10000 ≤ ti.val) : scan capacity (r.bytes ++ rest) found =
      if found.count = capacity then some { found with success := false, count := capacity + 1 }
      else scan capacity rest
        { found with count := found.count + 1, output := found.output ++ [ti.val] } := by
  obtain ⟨low, high, hlow, hh, hl⟩ := r.recordLength_read rest
  have hgt : sizeOfDirectoryEntry < r.entry.recordLength :=
    Entry.recordLength_gt_iff.mpr ⟨ti, he, hlo⟩
  have hb := r.length_bytes
  have hf : ¬ (r.entry.recordLength < sizeOfDirectoryEntry + 1 ∨
      r.entry.recordLength > (r.bytes ++ rest).length) := by
    rw [length_append, hb]
    omega
  have hne : r.bytes ++ rest ≠ [] := fun hnil => by
    rw [hnil] at hlow
    cases hlow
  have hn : threadOfName ((r.bytes ++ rest).drop 19) = some (some ti.val) := by
    rw [r.drop_name rest]
    generalize r.padding.val ++ rest = tail
    rw [he]
    exact threadOfName_thread ti tail
  rw [scan, if_neg hne, hlow, hh]
  dsimp only
  rw [hl, dif_neg hf, hn, drop_left' hb]

/-- **The bytes of a buffer are read as its entries.** -/
theorem scan_records (records : List Record) (f : Enumeration) :
    scan capacity (records.flatMap Record.bytes) f =
      some (scanEntries capacity (records.map Record.entry) f) := by
  induction records generalizing f with
  | nil => simp [scan, scanEntries]
  | cons r records ih =>
    rw [flatMap_cons, map_cons]
    by_cases hl : r.entry.Long
    · obtain ⟨threadId, he, hl⟩ := hl
      rw [scan_long _ he hl, he, scanEntries, if_neg (not_lt.mpr hl)]
      split_ifs
      · rfl
      · exact ih _
    · rw [scan_short _ hl]
      cases he : r.entry with
      | dot => rfl
      | dotDot => rfl
      | thread threadId =>
        have hls : threadId.val < 10000 := not_le.mp fun hle => hl ⟨threadId, he, hle⟩
        rw [scanEntries, if_pos hls]

theorem scanEntries_append {f s : List Entry}
    (h : found.success = true) : scanEntries capacity (f ++ s) found =
      if (scanEntries capacity f found).success then
        scanEntries capacity s (scanEntries capacity f found)
      else scanEntries capacity f found := by
  induction f generalizing found with
  | nil => simp [scanEntries, h]
  | cons entry f ih =>
    cases entry with
    | dot => simp [scanEntries]
    | dotDot => simp [scanEntries]
    | thread threadId =>
      by_cases hl : threadId.val < 10000
      · simp [scanEntries, hl]
      by_cases hf : found.count = capacity
      · simp [scanEntries, hl, hf]
      · simp only [cons_append, scanEntries, if_neg hl, if_neg hf]
        exact ih h

/-- **The code reads the directory entry by entry,** wherever its buffers end. -/
theorem enumerateThreadsRaw_eq {b : List (List Record)}
    (hb : ∀ records ∈ b, records ≠ []) :
    enumerateThreadsRaw true (results b) capacity =
      let found := scanEntries capacity (b.flatten.map Record.entry) ⟨true, 0, []⟩
      some (found.success && decide (found.count ≠ 0), found.count, found.output) := by
  have hre (found : Enumeration) (hs : found.success = true) :
      readDirectory capacity (results b) found =
        some (scanEntries capacity (b.flatten.map Record.entry) found) := by
    induction b generalizing found with
    | nil => rfl
    | cons records b ih =>
      obtain ⟨hr, hb⟩ := forall_mem_cons.mp hb
      have hne : records.flatMap Record.bytes ≠ [] := by
        obtain ⟨r, rest, rfl⟩ := exists_cons_of_ne_nil hr
        rw [flatMap_cons, Record.bytes]
        simp
      rw [results, map_cons, readDirectory, if_neg hne, scan_records, flatten_cons,
        map_append, scanEntries_append hs]
      generalize scanEntries capacity (records.map Record.entry) found = next
      change (if !next.success then some next else readDirectory capacity (results b) next) = _
      cases hn : next.success with
      | false => rfl
      | true => exact ih hb next hn
  rw [enumerateThreadsRaw, hre _ rfl]
  rfl

/-! ## Completeness -/

/-- With IDs of five digits and more in front, the capacity is exceeded before anything is refused. -/
theorem scanEntries_many (hc : found.count ≤ capacity)
    (hl : capacity + 1 ≤ found.count + directory.length)
    (hlo : ∀ entry ∈ directory.take (capacity + 1 - found.count), entry.Long) :
    (scanEntries capacity directory found).success = false ∧
      (scanEntries capacity directory found).count = capacity + 1 := by
  induction directory generalizing found with
  | nil =>
    rw [length_nil] at hl
    omega
  | cons entry directory ih =>
    have hf : capacity + 1 - found.count = (capacity - found.count) + 1 := by omega
    rw [hf, take_succ_cons] at hlo
    obtain ⟨⟨threadId, rfl, ht⟩, hr⟩ := forall_mem_cons.mp hlo
    rw [scanEntries, if_neg (not_lt.mpr ht)]
    split_ifs with hfu
    · exact ⟨rfl, rfl⟩
    · refine ih ?_ ?_ ?_
      · change found.count + 1 ≤ capacity
        omega
      · change capacity + 1 ≤ found.count + 1 + directory.length
        rw [length_cons] at hl
        omega
      · change ∀ entry ∈ directory.take (capacity + 1 - (found.count + 1)), entry.Long
        rwa [Nat.add_sub_add_right]

theorem scanEntries_short (hc : found.count ≤ capacity)
    (hs : ∃ entry ∈ directory, ¬ entry.Long)
    (hfew : capacity + 1 ≤ found.count + directory.length →
      ∃ entry ∈ directory.take (capacity + 1 - found.count), ¬ entry.Long) :
    (scanEntries capacity directory found).success = false ∧
      (scanEntries capacity directory found).count ≤ capacity := by
  induction directory generalizing found with
  | nil => simp at hs
  | cons entry directory ih =>
    cases entry with
    | dot => exact ⟨rfl, hc⟩
    | dotDot => exact ⟨rfl, hc⟩
    | thread threadId =>
      rw [scanEntries]
      split_ifs with hl hfu
      · exact ⟨rfl, hc⟩
      · -- The capacity is full, so this entry would have to be short.
        obtain ⟨entry, he, hnot⟩ := hfew (by rw [length_cons]; omega)
        rw [hfu, Nat.add_sub_cancel_left] at he
        obtain rfl := mem_singleton.mp he
        exact absurd ⟨threadId, rfl, not_lt.mp hl⟩ hnot
      · have ht : (Entry.thread threadId).Long := ⟨threadId, rfl, not_lt.mp hl⟩
        refine ih ?_ ?_ fun hm => ?_
        · change found.count + 1 ≤ capacity
          omega
        · obtain ⟨entry, he, hnot⟩ := hs
          obtain rfl | he := mem_cons.mp he
          · exact absurd ht hnot
          · exact ⟨entry, he, hnot⟩
        · change capacity + 1 ≤ found.count + 1 + directory.length at hm
          obtain ⟨entry, he, hnot⟩ := hfew (by rw [length_cons]; omega)
          have hf : capacity + 1 - found.count = (capacity - found.count) + 1 := by omega
          rw [hf, take_succ_cons] at he
          obtain rfl | he := mem_cons.mp he
          · exact absurd ht hnot
          · refine ⟨entry, ?_, hnot⟩
            change entry ∈ directory.take (capacity + 1 - (found.count + 1))
            rwa [Nat.add_sub_add_right]

/-- The result for a directory: all IDs in order if there are any and they fit, too many otherwise,
and no read outside of a buffer. -/
def Complete (capacity : ℕ) (directory : List Entry) (result : Option (Bool × ℕ × List ℕ)) : Prop :=
  ∃ ok count output, result = some (ok, count, output) ∧
    (0 < (threadIds directory).length ∧ (threadIds directory).length ≤ capacity →
      ok = true ∧ count = (threadIds directory).length ∧ output.take count = threadIds directory) ∧
    (capacity < (threadIds directory).length → ok = false ∧ count = capacity + 1) ∧
    (ok = true → output.take count = threadIds directory)

theorem length_threadIds_of_long (h : ∀ entry ∈ directory, entry.Long) :
    (threadIds directory).length = directory.length := by
  induction directory with
  | nil => rfl
  | cons entry directory ih =>
    obtain ⟨⟨threadId, rfl, -⟩, hr⟩ := forall_mem_cons.mp h
    exact congrArg (· + 1) (ih hr)

/-- **Which directories are enumerated as they should be.** -/
theorem complete_iff {capacity : ℕ} {buffers : List (List Record)} {directory : List Entry}
    (hbuffers : ∀ records ∈ buffers, records ≠ [])
    (hdirectory : directory = buffers.flatten.map Record.entry) (hdot : Entry.dot ∈ directory) :
    Complete capacity directory (enumerateThreadsRaw true (results buffers) capacity) ↔
      threadIds directory = [] ∨ (capacity + 1 ≤ directory.length ∧
        ∀ entry ∈ directory.take (capacity + 1), entry.Long) := by
  rw [enumerateThreadsRaw_eq hbuffers, ← hdirectory]
  have hsh : ∃ entry ∈ directory, ¬ entry.Long := ⟨.dot, hdot, nofun⟩
  have hst : (⟨true, 0, []⟩ : Enumeration).count ≤ capacity := Nat.zero_le capacity
  by_cases hm : capacity + 1 ≤ directory.length ∧
      ∀ entry ∈ directory.take (capacity + 1), entry.Long
  · refine iff_of_true ?_ (.inr hm)
    obtain ⟨hs, hc⟩ := scanEntries_many hst (by simpa using hm.1)
      (by simpa using hm.2)
    have hids : capacity < (threadIds directory).length := by
      have ht := length_threadIds_of_long hm.2
      rw [length_take_of_le hm.1] at ht
      have hsu : (threadIds (directory.take (capacity + 1))).Sublist (threadIds directory) :=
        (take_sublist _ _).filterMap _
      have := hsu.length_le
      omega
    refine ⟨_, _, _, rfl, fun h => absurd h.2 (not_le.mpr hids), fun _ => ⟨?_, hc⟩, fun hok => ?_⟩
    · rw [hs]
      rfl
    · rw [hs] at hok
      cases hok
  · obtain ⟨hs, hc⟩ := scanEntries_short hst hsh fun hl => by
      rw [Nat.zero_add] at hl
      simpa [hl] using hm
    constructor
    · rintro ⟨ok, count, output, heq, hf, he, -⟩
      obtain ⟨rfl, rfl, rfl⟩ : _ ∧ _ ∧ _ := by simpa using heq
      refine .inl (eq_nil_of_length_eq_zero ?_)
      by_contra hne
      obtain hle | hlt := le_or_gt (threadIds directory).length capacity
      · obtain ⟨hok, -⟩ := hf ⟨Nat.pos_of_ne_zero hne, hle⟩
        rw [hs] at hok
        cases hok
      · have := (he hlt).2
        omega
    · rintro (hn | h)
      · refine ⟨_, _, _, rfl, fun h => ?_, fun h => ?_, fun hok => ?_⟩
        · rw [hn] at h
          exact absurd h.1 (lt_irrefl 0)
        · rw [hn] at h
          exact absurd h (Nat.not_lt_zero _)
        · rw [hs] at hok
          cases hok
      · exact absurd h hm

def zeroRecord (entry : Entry) : Record where
  entry := entry
  inode := ⟨replicate 8 0, rfl⟩
  offset := ⟨replicate 8 0, rfl⟩
  type := 4
  padding := ⟨replicate (entry.recordLength - (19 + entry.name.length + 1)) 0, by
    rw [length_replicate, Entry.recordLength]
    omega⟩

def fiveDigits : Entry := .thread ⟨10000, by decide⟩

def fourDigits : Entry := .thread ⟨1234, by decide⟩

/-- Two threads are too many for one place. -/
theorem complete_iff_fiveDigits : Complete 1 [fiveDigits, fiveDigits, .dot, .dotDot]
    (enumerateThreadsRaw true (results [[fiveDigits, fiveDigits].map zeroRecord,
      [.dot, .dotDot].map zeroRecord]) 1) := by
  refine (complete_iff (by simp) rfl (.tail _ (.tail _ (.head _)))).mpr (.inr ⟨by decide, ?_⟩)
  have hl : fiveDigits.Long := ⟨_, rfl, le_rfl⟩
  exact forall_mem_cons.mpr ⟨hl, forall_mem_singleton.mpr hl⟩

/-- The first record is 24 bytes long and ends the enumeration. -/
theorem shortRecord_refused : ¬ Complete 8 [.dot, .dotDot, fourDigits]
    (enumerateThreadsRaw true (results [[.dot, .dotDot, fourDigits].map zeroRecord]) 8) := by
  rintro ⟨ok, count, output, heq, hf, -⟩
  rw [enumerateThreadsRaw_eq (by simp)] at heq
  obtain ⟨hok, -⟩ := hf (by decide)
  obtain ⟨rfl, -⟩ := Prod.mk.inj (Option.some.inj heq)
  cases hok

end Vcam.Runtime
