import AndroidVcam.Lib.Tokens

/-!
# The mappings of the process

`parseProcMapsText` reads the text of `/proc/self/maps` line by line.

* `Ascending`: non-empty ranges, each above the one before, which a step keeps
  (`ascending_readMapLine`) and so the loop (`ascending_parse`);
* **`procMaps_parse`**: printed entries are read back, and whatever is accepted is ascending.
-/

namespace Vcam.Runtime

open TextFile List

structure ProcessMapEntry where
  start : ℕ
  stop : ℕ
  readable : Bool
  writable : Bool
  executable : Bool
  privateMapping : Bool
  path : Text
deriving DecidableEq

/-- The address that a whole text denotes for `strtoull`. -/
def parseHexAddress (value : Text) : Option ℕ :=
  if value = [] then none
  else
    let s := cStr value
    let parsed := strtoull16 s
    if parsed.2 = s ∨ parsed.2 ≠ [] then none else parsed.1

def validPermissions (permissions : Text) : Bool :=
  match permissions with
  | [r, w, x, p] =>
    (r == 'r' || r == '-') && (w == 'w' || w == '-') && (x == 'x' || x == '-') &&
      (p == 'p' || p == 's')
  | _ => false

def trimLeadingSpaces (value : Text) : Text := value.dropWhile (· == ' ')

inductive MapsFault
  | malformed
  | invalid
  | overlapping
deriving DecidableEq

def MapsFault.message (lineNumber : ℕ) : MapsFault → Text
  | .malformed => "malformed /proc maps line " ++ decimal lineNumber
  | .invalid => "invalid /proc maps range or permissions on line " ++ decimal lineNumber
  | .overlapping =>
    "/proc maps entries are unsorted or overlapping on line " ++ decimal lineNumber

/-- The five words of a line: the range and the permissions, and what follows the inode. -/
def readFields (line : Text) : Option (Text × Text × Text) := do
  let (range, rest) ← word line
  let (permissions, rest) ← word rest
  let (_, rest) ← word rest
  let (_, rest) ← word rest
  let (_, rest) ← word rest
  return (range, permissions, rest)

def readRange (range : Text) : Option (ℕ × ℕ) := do
  let (low, high) ← splitFirst '-' range
  let start ← parseHexAddress low
  let stop ← parseHexAddress high
  if stop ≤ start then none else return (start, stop)

def readEntry (range permissions rest : Text) : Option ProcessMapEntry := do
  let (start, stop) ← readRange range
  if validPermissions permissions then
    return { start, stop
             readable := permissions[0]? = some 'r', writable := permissions[1]? = some 'w'
             executable := permissions[2]? = some 'x', privateMapping := permissions[3]? = some 'p'
             path := trimLeadingSpaces rest }
  else none

def readMapLine (mappings : List ProcessMapEntry) (line : Text) :
    Except MapsFault (List ProcessMapEntry) :=
  match readFields line with
  | none => .error .malformed
  | some (range, permissions, rest) =>
    match readEntry range permissions rest with
    | none => .error .invalid
    | some entry =>
      if mappings.getLast?.any fun last => entry.start < last.stop then .error .overlapping
      else .ok (mappings ++ [entry])

/-- The answer, the list at `mappings` and the text at `error`. -/
structure MapsResult where
  accepted : Bool
  mappings : List ProcessMapEntry
  error : Text
deriving DecidableEq

def parseMapLines (lineNumber : ℕ) (mappings : List ProcessMapEntry) : List Text → MapsResult
  | [] =>
    if mappings = [] then ⟨false, mappings, "/proc maps contained no entries"⟩
    else ⟨true, mappings, []⟩
  | line :: lines =>
    if line = [] then parseMapLines (lineNumber + 1) mappings lines
    else
      match readMapLine mappings line with
      -- the list is cleared before a failure is reported
      | .error fault => ⟨false, [], fault.message (lineNumber + 1)⟩
      | .ok mappings => parseMapLines (lineNumber + 1) mappings lines

def parseProcMapsText (text : Text) : MapsResult := parseMapLines 0 [] (getlines text)

/-! ## What is accepted -/

/-- Non-empty ranges of addresses, each above the one before. -/
structure Ascending (mappings : List ProcessMapEntry) : Prop where
  range : ∀ entry ∈ mappings, entry.start < entry.stop ∧ entry.stop < 2 ^ 64
  above : mappings.Pairwise fun a b => a.stop ≤ b.start

theorem ascending_nil : Ascending [] := ⟨nofun, .nil⟩

variable {m : List ProcessMapEntry}

theorem Ascending.concat (h : Ascending m) {entry : ProcessMapEntry}
    (hr : entry.start < entry.stop ∧ entry.stop < 2 ^ 64)
    (hab : ∀ last ∈ m.getLast?, last.stop ≤ entry.start) :
    Ascending (m ++ [entry]) := by
  constructor
  · intro e he
    rcases mem_append.mp he with he | he
    · exact h.range e he
    · rw [mem_singleton.mp he]
      exact hr
  · refine pairwise_append.mpr ⟨h.above, pairwise_singleton _ _, ?_⟩
    intro a ha b hb
    rw [mem_singleton.mp hb]
    -- either `a` is the last entry, or the last entry is above it
    obtain rfl | ⟨front, last, rfl⟩ := eq_nil_or_concat m
    · cases ha
    · rw [concat_eq_append] at *
      have hl := hab last (by simp)
      rcases mem_append.mp ha with ha | ha
      · have hbe := (pairwise_append.mp h.above).2.2 a ha last mem_cons_self
        have hw := (h.range last (by simp)).1
        omega
      · rw [mem_singleton.mp ha]
        exact hl

theorem Ascending.unique (h : Ascending m) {i j address : ℕ} {a b : ProcessMapEntry}
    (hi : m[i]? = some a) (hj : m[j]? = some b)
    (ha : a.start ≤ address ∧ address < a.stop) (hb : b.start ≤ address ∧ address < b.stop) :
    i = j := by
  obtain ⟨hi', rfl⟩ := List.getElem?_eq_some_iff.mp hi
  obtain ⟨hj', rfl⟩ := List.getElem?_eq_some_iff.mp hj
  have hab := pairwise_iff_getElem.mp h.above
  rcases Nat.lt_trichotomy i j with hlt | heq | hlt
  · have := hab i j hi' hj' hlt
    omega
  · exact heq
  · have := hab j i hj' hi' hlt
    omega

theorem parseHexAddress_lt {v : Text} {a : ℕ} (h : parseHexAddress v = some a) :
    a < 2 ^ 64 := by
  unfold parseHexAddress at h
  dsimp only at h
  split_ifs at h
  exact strtoull16_lt h

theorem range_of_readEntry {r p rest : Text} {e : ProcessMapEntry}
    (h : readEntry r p rest = some e) :
    e.start < e.stop ∧ e.stop < 2 ^ 64 := by
  simp only [readEntry, readRange, Option.bind_eq_bind, Option.bind_eq_some_iff] at h
  obtain ⟨⟨start, stop⟩, ⟨⟨low, high⟩, -, a, -, b, hb, hlt⟩, he⟩ := h
  dsimp only at hb he
  split_ifs at hlt with hle
  cases hlt
  split_ifs at he
  cases he
  exact ⟨Nat.lt_of_not_le hle, parseHexAddress_lt hb⟩

theorem ascending_readMapLine {after : List ProcessMapEntry} (hinv : Ascending m)
    {line : Text} (h : readMapLine m line = .ok after) : Ascending after := by
  unfold readMapLine at h
  split at h
  · cases h
  · split at h
    · cases h
    · next entry he =>
      split at h
      · cases h
      · next hl =>
        cases h
        refine hinv.concat (range_of_readEntry he) fun last hmem => ?_
        rw [Option.mem_def.mp hmem] at hl
        simpa using hl

/-- Accepted mappings are ascending, and a refusal leaves none. -/
theorem ascending_parse (l : List Text) {n : ℕ} (hinv : Ascending m) :
    let result := parseMapLines n m l
    (result.accepted = true → result.mappings ≠ [] ∧ Ascending result.mappings) ∧
      (result.accepted = false → result.mappings = []) := by
  induction l generalizing n m with
  | nil =>
    dsimp only
    rw [parseMapLines]
    split_ifs with he
    · exact ⟨nofun, fun _ => he⟩
    · exact ⟨fun _ => ⟨he, hinv⟩, nofun⟩
  | cons line l ih =>
    dsimp only
    rw [parseMapLines]
    split_ifs with he
    · exact ih hinv
    · cases hl : readMapLine m line with
      | error fault => exact ⟨nofun, fun _ => rfl⟩
      | ok after => exact ih (ascending_readMapLine hinv hl)

/-! ## What is printed -/

def ProcessMapEntry.permissions (entry : ProcessMapEntry) : Text :=
  [if entry.readable then 'r' else '-', if entry.writable then 'w' else '-',
    if entry.executable then 'x' else '-', if entry.privateMapping then 'p' else 's']

/-- A line of the file: an entry, the texts of its addresses, the words that are not kept and the
number of spaces before the path, beyond the first. -/
structure MapLine where
  entry : ProcessMapEntry
  startText : Text
  stopText : Text
  offset : Text
  device : Text
  inode : Text
  spaces : ℕ

def MapLine.text (line : MapLine) : Text :=
  line.startText ++ '-' :: line.stopText ++ (' ' :: line.entry.permissions ++ (' ' :: line.offset ++
    (' ' :: line.device ++ (' ' :: line.inode ++
      (replicate (line.spaces + 1) ' ' ++ line.entry.path)))))

structure MapLine.WellFormed (line : MapLine) : Prop where
  start : PrintsHex line.startText line.entry.start
  stop : PrintsHex line.stopText line.entry.stop
  offset : IsWord line.offset
  device : IsWord line.device
  inode : IsWord line.inode
  path : '\n' ∉ line.entry.path ∧ line.entry.path.head? ≠ some ' '

theorem permissions_isWord (e : ProcessMapEntry) : IsWord e.permissions := by
  have hf (b : Bool) {set clear : Char} (hset : isCSpace set = false)
      (hc : isCSpace clear = false) : isCSpace (if b then set else clear) = false := by
    cases b <;> assumption
  refine ⟨cons_ne_nil _ _, ?_⟩
  simp only [ProcessMapEntry.permissions, forall_mem_cons]
  exact ⟨hf _ (by decide) (by decide), hf _ (by decide) (by decide),
    hf _ (by decide) (by decide), hf _ (by decide) (by decide), nofun⟩

theorem validPermissions_permissions (e : ProcessMapEntry) :
    validPermissions e.permissions = true := by
  obtain ⟨_, _, r, w, x, p, _⟩ := e
  cases r <;> cases w <;> cases x <;> cases p <;> rfl

theorem trimLeadingSpaces_replicate {path : Text} (h : path.head? ≠ some ' ') (n : ℕ) :
    trimLeadingSpaces (replicate n ' ' ++ path) = path := by
  rw [trimLeadingSpaces, dropWhile_append_of_pos fun c hc => by
    rw [eq_of_mem_replicate hc]; rfl]
  cases path with
  | nil => rfl
  | cons c path =>
    rw [dropWhile_cons, if_neg]
    exact fun hc => h (by rw [head?_cons, beq_iff_eq.mp hc])

theorem parseHexAddress_prints {s : Text} {n : ℕ} (h : PrintsHex s n) (hn : n < 2 ^ 64) :
    parseHexAddress s = some n := by
  have hnul : cStr s = s := cStr_eq_self_iff.mpr fun hmem => absurd (h.2.1 _ hmem) (by decide)
  rw [parseHexAddress, if_neg h.1, hnul]
  dsimp only
  rw [strtoull16_digits h hn, if_neg]
  rintro (he | he)
  · exact h.1 he.symm
  · exact he rfl

section Printed

variable {line : MapLine} (h : line.WellFormed)
include h

theorem dash_notMem_startText : '-' ∉ line.startText := fun hmem =>
  absurd (h.start.2.1 _ hmem) (by decide)

theorem isWord_range : IsWord (line.startText ++ '-' :: line.stopText) := by
  refine ⟨by simp, fun c hc => ?_⟩
  rcases mem_append.mp hc with hc | hc
  · exact isCSpace_of_isHexDigit (h.start.2.1 c hc)
  · rcases mem_cons.mp hc with rfl | hc
    · decide
    · exact isCSpace_of_isHexDigit (h.stop.2.1 c hc)

theorem readFields_text : readFields line.text =
    some (line.startText ++ '-' :: line.stopText, line.entry.permissions,
      replicate (line.spaces + 1) ' ' ++ line.entry.path) := by
  have hn (s rest : Text) : ∀ c ∈ (' ' :: s ++ rest).head?, isCSpace c = true := by
    rintro c ⟨⟩
    decide
  have hw {s rest : Text} (hs : IsWord s) (hr : ∀ c ∈ rest.head?, isCSpace c = true) :
      word (' ' :: s ++ rest) = some (s, rest) :=
    @word_append [' '] s rest (forall_mem_singleton.mpr (by decide)) hs hr
  have hf {s rest : Text} (hs : IsWord s) (hr : ∀ c ∈ rest.head?, isCSpace c = true) :
      word (s ++ rest) = some (s, rest) := @word_append [] s rest nofun hs hr
  have hsp : ∀ c ∈ (replicate (line.spaces + 1) ' ' ++ line.entry.path).head?,
      isCSpace c = true := hn _ _
  simp only [readFields, MapLine.text, hf (isWord_range h) (hn _ _),
    hw (permissions_isWord line.entry) (hn _ _), hw h.offset (hn _ _),
    hw h.device (hn _ _), hw h.inode hsp, Option.bind_eq_bind, Option.bind_some,
    Option.pure_def]

theorem readEntry_text (hr : line.entry.start < line.entry.stop) (hs : line.entry.stop < 2 ^ 64) :
    readEntry (line.startText ++ '-' :: line.stopText) line.entry.permissions
      (replicate (line.spaces + 1) ' ' ++ line.entry.path) = some line.entry := by
  have ha : readRange (line.startText ++ '-' :: line.stopText) =
      some (line.entry.start, line.entry.stop) := by
    rw [readRange, splitFirst_append (dash_notMem_startText h)]
    simp only [Option.bind_eq_bind, Option.bind_some, parseHexAddress_prints h.start (hr.trans hs),
      parseHexAddress_prints h.stop hs, if_neg (Nat.not_le.mpr hr), Option.pure_def]
  rw [readEntry, ha]
  simp only [Option.bind_eq_bind, Option.bind_some, validPermissions_permissions, if_true,
    trimLeadingSpaces_replicate h.path.2]
  obtain ⟨⟨_, _, r, w, x, p, _⟩, _⟩ := line
  cases r <;> cases w <;> cases x <;> cases p <;> rfl

theorem readMapLine_text {m : List ProcessMapEntry}
    (hr : line.entry.start < line.entry.stop) (hs : line.entry.stop < 2 ^ 64)
    (ha : ∀ entry ∈ m, entry.stop ≤ line.entry.start) :
    readMapLine m line.text = .ok (m ++ [line.entry]) := by
  have hl : (m.getLast?.any fun last => decide (line.entry.start < last.stop)) = false := by
    cases hget : m.getLast? with
    | none => rfl
    | some last => simpa using ha last (mem_of_getLast? hget)
  rw [readMapLine, readFields_text h]
  dsimp only
  rw [readEntry_text h hr hs]
  dsimp only
  rw [hl, if_neg Bool.false_ne_true]

theorem newline_notMem_text : '\n' ∉ line.text := by
  have hw {s : Text} (hs : IsWord s) : '\n' ∉ s := fun hmem => absurd (hs.2 _ hmem) (by decide)
  have hspa : '\n' ∉ replicate (line.spaces + 1) ' ' := fun hmem =>
    absurd (eq_of_mem_replicate hmem) (by decide)
  have hp := hw (permissions_isWord line.entry)
  have ho := hw h.offset
  have hd := hw h.device
  have hi := hw h.inode
  have hb := hw (isWord_range h)
  have hsp : '\n' ≠ ' ' := by decide
  unfold MapLine.text
  simp only [mem_append, mem_cons, not_or] at hb ⊢
  exact ⟨hb, ⟨hsp, hp⟩, ⟨hsp, ho⟩, ⟨hsp, hd⟩, ⟨hsp, hi⟩, hspa,
    h.path.1⟩

end Printed

/-- The lines of a file, where nothing stands for an empty line. -/
def lineText (line : Option MapLine) : Text := (line.map MapLine.text).getD []

def mapsText (lines : List (Option MapLine)) : Text :=
  (lines.map fun line => lineText line ++ ['\n']).flatten

def printedEntries (lines : List (Option MapLine)) : List ProcessMapEntry :=
  (lines.filterMap id).map MapLine.entry

theorem parseMapLines_printed (lines : List (Option MapLine))
    (hl : ∀ line ∈ lines.filterMap id, line.WellFormed)
    (hall : Ascending (m ++ printedEntries lines))
    (hne : m ++ printedEntries lines ≠ [])
    (n : ℕ) : parseMapLines n m (lines.map lineText) =
      ⟨true, m ++ printedEntries lines, []⟩ := by
  induction lines generalizing m n with
  | nil =>
    rw [show printedEntries [] = [] from rfl, append_nil] at *
    rw [map_nil, parseMapLines, if_neg hne]
  | cons line lines ih =>
    rw [map_cons, parseMapLines]
    cases line with
    | none =>
      rw [show lineText none = [] from rfl, if_pos rfl]
      exact ih hl hall hne _
    | some line =>
      have hf : line.WellFormed := hl line (by simp)
      have ht : line.text ≠ [] := by
        unfold MapLine.text
        simp
      have hc : m ++ printedEntries (some line :: lines) =
          (m ++ [line.entry]) ++ printedEntries lines := by simp [printedEntries]
      rw [hc] at hall hne ⊢
      have hr := hall.range line.entry (by simp)
      have ha : ∀ entry ∈ m, entry.stop ≤ line.entry.start := fun entry he =>
        (pairwise_append.mp (pairwise_append.mp hall.above).1).2.2 entry he _
          mem_cons_self
      rw [show lineText (some line) = line.text from rfl, if_neg ht,
        readMapLine_text hf hr.1 hr.2 ha]
      exact ih (fun other ho => hl other (by simp_all)) hall hne _

theorem getlines_mapsText {li : List (Option MapLine)}
    (hli : ∀ line ∈ li.filterMap id, line.WellFormed) :
    getlines (mapsText li) = li.map lineText := by
  have hf := getlines_flatten (li.map lineText) fun l hl => by
    obtain ⟨line, hln, rfl⟩ := mem_map.mp hl
    cases line with
    | none => exact not_mem_nil
    | some line =>
      exact newline_notMem_text (hli line (mem_filterMap.mpr ⟨some line, hln, rfl⟩))
  rw [map_map] at hf
  exact hf

theorem parse_mapsText {l : List (Option MapLine)}
    (hl : ∀ line ∈ l.filterMap id, line.WellFormed) (hne : printedEntries l ≠ [])
    (ha : Ascending (printedEntries l)) :
    parseProcMapsText (mapsText l) = ⟨true, printedEntries l, []⟩ := by
  rw [parseProcMapsText, getlines_mapsText hl]
  exact parseMapLines_printed l hl ha hne 0

theorem ascending_of_accepted {text : Text} (h : (parseProcMapsText text).accepted = true) :
    (parseProcMapsText text).mappings ≠ [] ∧ Ascending (parseProcMapsText text).mappings :=
  (ascending_parse (getlines text) ascending_nil).1 h

/-- **Reading the mappings.** Well-formed lines of ascending ranges are accepted with exactly their
entries; and for every text, the mappings of an accepted one are non-empty ranges, each above the
one before, so that at most one of them contains an address, and a refused one leaves none. -/
theorem procMaps_parse (lines : List (Option MapLine))
    (hlines : ∀ line ∈ lines.filterMap id, line.WellFormed) (hne : printedEntries lines ≠ [])
    (hrange : ∀ entry ∈ printedEntries lines, entry.start < entry.stop ∧ entry.stop < 2 ^ 64)
    (habove : (printedEntries lines).Pairwise fun a b => a.stop ≤ b.start) :
    parseProcMapsText (mapsText lines) = ⟨true, printedEntries lines, []⟩ ∧
    ∀ text, let result := parseProcMapsText text
      (result.accepted = true → result.mappings ≠ [] ∧
        (∀ entry ∈ result.mappings, entry.start < entry.stop) ∧
        result.mappings.Pairwise (fun a b => a.stop ≤ b.start) ∧
        ∀ (address i j : ℕ) (a b : ProcessMapEntry),
          result.mappings[i]? = some a → result.mappings[j]? = some b →
          a.start ≤ address ∧ address < a.stop → b.start ≤ address ∧ address < b.stop → i = j) ∧
      (result.accepted = false → result.mappings = []) := by
  refine ⟨parse_mapsText hlines hne ⟨hrange, habove⟩, fun text => ⟨fun h => ?_, ?_⟩⟩
  · obtain ⟨hn, hasc⟩ := ascending_of_accepted h
    exact ⟨hn, fun entry he => (hasc.range entry he).1, hasc.above,
      fun address i j a b hi hj ha hb => hasc.unique hi hj ha hb⟩
  · exact (ascending_parse (getlines text) ascending_nil).2

/-- A library below the linker, with a space in its path and an anonymous mapping. -/
def threeLines : List (Option MapLine) :=
  [some ⟨⟨0x1000, 0x2000, true, false, true, true, "/data/my lib.so"⟩, "00001000",
      "00002000", "00000000", "fd:01", "17", 3⟩,
    none,
    some ⟨⟨0x2000, 0x2fff, true, true, false, true, []⟩, "2000", "2fff", "0",
      "00:00", "0", 0⟩]

theorem wellFormed_threeLines : ∀ line ∈ threeLines.filterMap id, line.WellFormed := by
  intro line hl
  rcases (mem_cons.mp hl).imp id mem_singleton.mp with rfl | rfl <;>
    exact ⟨by decide, by decide, by decide, by decide, by decide, by decide⟩

theorem procMaps_parse_threeLines :
    parseProcMapsText (mapsText threeLines) = ⟨true, printedEntries threeLines, []⟩ :=
  (procMaps_parse threeLines wellFormed_threeLines (by decide) (by decide) (by decide)).1

end Vcam.Runtime
