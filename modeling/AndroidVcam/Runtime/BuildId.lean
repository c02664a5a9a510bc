import AndroidVcam.Lib.Checked
import AndroidVcam.Lib.Hex
import AndroidVcam.Lib.Wire

/-!
# Three readers of the build ID

The build ID of a module is read from its note segments by `readBuildId` of the runtime, by
`read_build_id` of the recipe generator and by `elf_identity` of the firmware analyser.

* `Note`, `notesFrom`: the notes that a part of a file consists of; `readNotes_eq` and
  `walkNotes_eq` say that each reader searches them, by a name of its own;
* **`buildIds_agree_iff`**: they agree when the first note whose name begins with `GNU` is called
  `GNU`, or tells the same ID as the first that is.
-/

namespace Vcam.Runtime.BuildId

open Wire Checked List Option

def ntGnuBuildId : ℕ := 3

def gnu : Bytes := [0x47, 0x4e, 0x55]

/-- `(value + 3) & ~3`. -/
def align4 (value : ℕ) : ℕ := (value + 3) / 4 * 4

/-! ## The runtime -/

def wordAt (segment : Bytes) (offset : ℕ) : Option ℕ := (copy segment offset 4).map leValue

/-- The loop over the notes of a segment: the descriptor of the build ID, if there is one. -/
def readNotes (segment : Bytes) (cursor : ℕ) : Option (Option Bytes) :=
  if _h : cursor + 12 ≤ segment.length then
    (wordAt segment cursor).bind fun nameSize =>
    (wordAt segment (cursor + 4)).bind fun descriptorSize =>
    (wordAt segment (cursor + 8)).bind fun type =>
    let name := cursor + 12
    if segment.length - name < align4 nameSize then some none
    else
      let descriptor := name + align4 nameSize
      if segment.length - descriptor < align4 descriptorSize then some none
      else if type = ntGnuBuildId ∧ 3 ≤ nameSize then
        (copy segment name 3).bind fun start =>
          if start = gnu then (copy segment descriptor descriptorSize).map some
          else readNotes segment (descriptor + align4 descriptorSize)
      else readNotes segment (descriptor + align4 descriptorSize)
  else some none
termination_by segment.length - cursor

/-- `readBuildId` on the contents of the note segments. -/
def readBuildId : List Bytes → Option (List Char)
  | [] => some []
  | segment :: segments =>
    if segment.length < 12 then readBuildId segments
    else (readNotes segment 0).bind fun found =>
      match found with
      | some descriptor => some (Hex.encode descriptor)
      | none => readBuildId segments

/-! ## The tools -/

/-- `name.rstrip(b"\0")`. -/
def rstripNul (name : Bytes) : Bytes := name.rdropWhile (· == 0)

def slice (data : Bytes) (offset size : ℕ) : Bytes := (data.drop offset).take size

/-- A word that `struct.unpack_from` reads. -/
def word (data : Bytes) (offset : ℕ) : ℕ := leValue (slice data offset 4)

/-- The loop of both tools over the notes in a part of `data`. -/
def walkNotes (data : Bytes) (cursor stop : ℕ) : Option Bytes :=
  if _h : cursor + 12 ≤ stop then
    let nameSize := word data cursor
    let descriptorSize := word data (cursor + 4)
    let name := slice data (cursor + 12) nameSize
    let next := cursor + 12 + align4 nameSize
    let descriptor := slice data next descriptorSize
    if stop < next + align4 descriptorSize then none
    else if word data (cursor + 8) = ntGnuBuildId ∧ rstripNul name = gnu then some descriptor
    else walkNotes data (next + align4 descriptorSize) stop
  else none
termination_by stop - cursor

/-- `read_build_id` of the generator, on the offsets and sizes of the note segments; without a
result it raises `ElfError`. -/
def generatorBuildId (data : Bytes) (headers : List (ℕ × ℕ)) : Option Bytes :=
  headers.findSome? fun header => walkNotes data header.1 (header.1 + header.2)

/-- The field `build_id` of `elf_identity`. -/
def elfIdentity (data : Bytes) (headers : List (ℕ × ℕ)) : List Char :=
  (headers.findSome? fun header =>
    let notes := slice data header.1 header.2
    if 16 * 1024 * 1024 < header.2 then none else walkNotes notes 0 notes.length).elim [] Hex.encode

/-! ## Notes -/

structure Note where
  type : ℕ
  name : Bytes
  descriptor : Bytes

/-- The notes in a part of `data`, up to the first that does not fit. -/
def notesFrom (data : Bytes) (cursor stop : ℕ) : List Note :=
  if _h : cursor + 12 ≤ stop then
    let next := cursor + 12 + align4 (word data cursor)
    if stop < next + align4 (word data (cursor + 4)) then []
    else ⟨word data (cursor + 8), slice data (cursor + 12) (word data cursor),
      slice data next (word data (cursor + 4))⟩ ::
        notesFrom data (next + align4 (word data (cursor + 4))) stop
  else []
termination_by stop - cursor

def Note.prefixed (note : Note) : Bool :=
  decide (note.type = ntGnuBuildId ∧ 3 ≤ note.name.length ∧ note.name.take 3 = gnu)

def Note.named (note : Note) : Bool :=
  decide (note.type = ntGnuBuildId ∧ rstripNul note.name = gnu)

theorem prefixed_of_named {note : Note} (h : note.named = true) : note.prefixed = true := by
  obtain ⟨ht, hn⟩ := of_decide_eq_true h
  obtain ⟨zeros, hz⟩ : gnu <+: note.name := hn ▸ rdropWhile_prefix _ _
  refine decide_eq_true ⟨ht, ?_, ?_⟩ <;> rw [← hz]
  · simp [gnu]
  · exact @take_left _ gnu zeros

theorem slice_slice {data : Bytes} {o size at_ count : ℕ} (h : at_ + count ≤ size) :
    slice (slice data o size) at_ count = slice data (o + at_) count := by
  rw [slice, slice, slice, drop_take, drop_drop, take_take]
  congr 1
  omega

theorem length_slice {data : Bytes} {header : ℕ × ℕ} (h : header.1 + header.2 ≤ data.length) :
    (slice data header.1 header.2).length = header.2 := by
  rw [slice, length_take, length_drop]
  omega

theorem word_slice {data : Bytes} {o size c : ℕ} (h : c + 4 ≤ size) :
    word (slice data o size) c = word data (o + c) := by
  rw [word, slice_slice h, word]

theorem le_align4 (value : ℕ) : value ≤ align4 value := by
  rw [align4]
  omega

/-- The notes of a part of a file are those of its content. -/
theorem notesFrom_slice (data : Bytes) (o size c : ℕ) :
    notesFrom (slice data o size) c size =
      notesFrom data (o + c) (o + size) := by
  fun_induction notesFrom (slice data o size) c size with
  | case1 c hf next hl =>
    simp only [next, word_slice (show c + 4 ≤ size by omega),
      word_slice (show c + 4 + 4 ≤ size by omega), ← Nat.add_assoc] at hl
    rw [notesFrom, dif_pos (by omega)]
    exact (if_pos (by omega)).symm
  | case2 c hf next hl ih =>
    have hn := le_align4 (word data (o + c))
    have hd := le_align4 (word data (o + c + 4))
    simp only [next, word_slice (show c + 4 ≤ size by omega),
      word_slice (show c + 4 + 4 ≤ size by omega), ← Nat.add_assoc] at hl ih ⊢
    rw [word_slice (by omega), slice_slice (by omega), slice_slice (by omega), ih]
    conv_rhs => rw [notesFrom, dif_pos (show o + c + 12 ≤ o + size by omega)]
    simp only [← Nat.add_assoc]
    exact (if_neg (by omega)).symm
  | case3 c hs => rw [notesFrom, dif_neg (by omega)]

/-- The runtime searches the notes, and reads nothing outside them. -/
theorem readNotes_eq (s : Bytes) (cursor : ℕ) : readNotes s cursor =
    some (((notesFrom s cursor s.length).find? Note.prefixed).map Note.descriptor) := by
  have hc {offset count : ℕ} (h : offset + count ≤ s.length) :
      copy s offset count = some (slice s offset count) := if_pos h
  have hw {offset : ℕ} (h : offset + 4 ≤ s.length) :
      wordAt s offset = some (word s offset) := by rw [wordAt, hc h]; rfl
  fun_induction notesFrom s cursor s.length with
  | case1 cursor hf next hla =>
    rw [readNotes, dif_pos hf, hw (by omega), hw (by omega), hw (by omega)]
    simp only [bind_some]
    split_ifs
    all_goals first | rfl | omega
  | case2 cursor hf next hla ih =>
    have hn := le_align4 (word s cursor)
    have hd := le_align4 (word s (cursor + 4))
    rw [readNotes, dif_pos hf, hw (by omega), hw (by omega), hw (by omega)]
    simp only [bind_some]
    rw [if_neg (by omega), if_neg (by omega), ih, find?_cons]
    have hl : (slice s (cursor + 12) (word s cursor)).length = word s cursor := by
      rw [slice, length_take, length_drop]
      omega
    by_cases ht : word s (cursor + 8) = ntGnuBuildId ∧ 3 ≤ word s cursor
    · have hs : (slice s (cursor + 12) (word s cursor)).take 3 =
          slice s (cursor + 12) 3 := by
        rw [slice, take_take, min_eq_left ht.2, slice]
      rw [if_pos ht, hc (by omega), hc (by omega), bind_some, Note.prefixed]
      simp only [hl, hs, ht, true_and]
      by_cases hgnu : slice s (cursor + 12) 3 = gnu
      · simp only [hgnu, if_true, decide_true]
        rfl
      · simp only [hgnu, if_false, decide_false]
    · rw [if_neg ht, show Note.prefixed _ = false from decide_eq_false fun h =>
        ht ⟨h.1, h.2.1.trans hl.le⟩]
  | case3 cursor hsh =>
    rw [readNotes, dif_neg hsh]
    rfl

theorem walkNotes_eq (data : Bytes) (c stop : ℕ) : walkNotes data c stop =
    ((notesFrom data c stop).find? Note.named).map Note.descriptor := by
  fun_induction notesFrom data c stop with
  | case1 c hf next hl =>
    unfold walkNotes
    rw [dif_pos hf]
    exact if_pos hl
  | case2 c hf next hl ih =>
    unfold walkNotes
    rw [dif_pos hf, find?_cons]
    dsimp only
    rw [if_neg hl, ih]
    by_cases hn : word data (c + 8) = ntGnuBuildId ∧
        rstripNul (slice data (c + 12) (word data c)) = gnu
    · rw [if_pos hn, show Note.named _ = true from decide_eq_true hn]
      rfl
    · rw [if_neg hn, show Note.named _ = false from decide_eq_false hn]
  | case3 c hs =>
    unfold walkNotes
    rw [dif_neg hs]
    rfl

/-! ## Agreement -/

def allNotes (contents : List Bytes) : List Note :=
  contents.flatMap fun content => notesFrom content 0 content.length

theorem find?_allNotes_cons (test : Note → Bool) (c : Bytes)
    (contents : List Bytes) : (allNotes (c :: contents)).find? test =
      ((notesFrom c 0 c.length).find? test).or ((allNotes contents).find? test) := by
  rw [allNotes, flatMap_cons, find?_append]
  rfl

def foundId (test : Note → Bool) (notes : List Note) : Bytes :=
  (notes.find? test).elim [] Note.descriptor

/-- The runtime reads the descriptor of the first note with its name, from any content. -/
theorem readBuildId_eq (c : List Bytes) :
    readBuildId c = some (Hex.encode (foundId Note.prefixed (allNotes c))) := by
  induction c with
  | nil => rfl
  | cons content c ih =>
    rw [readBuildId, readNotes_eq, ih, foundId, foundId, find?_allNotes_cons]
    by_cases hs : content.length < 12
    · rw [if_pos hs, notesFrom, dif_neg (by omega)]
      rfl
    · rw [if_neg hs]
      cases (notesFrom content 0 content.length).find? Note.prefixed <;> rfl

def contentsOf (data : Bytes) (headers : List (ℕ × ℕ)) : List Bytes :=
  headers.map fun header => slice data header.1 header.2

variable {data : Bytes} {headers : List (ℕ × ℕ)}

theorem generatorBuildId_eq (hi : ∀ header ∈ headers, header.1 + header.2 ≤ data.length) :
    generatorBuildId data headers =
      ((allNotes (contentsOf data headers)).find? Note.named).map Note.descriptor := by
  induction headers with
  | nil => rfl
  | cons header headers ih =>
    have hr := ih fun h hmem => hi h (mem_cons_of_mem _ hmem)
    rw [generatorBuildId] at hr ⊢
    rw [findSome?_cons, walkNotes_eq, hr, contentsOf, contentsOf, map_cons,
      find?_allNotes_cons, length_slice (hi header mem_cons_self), notesFrom_slice]
    cases (notesFrom data (header.1 + 0) _).find? Note.named <;> rfl

theorem elfIdentity_eq (hs : ∀ header ∈ headers, header.2 ≤ 16 * 1024 * 1024) :
    elfIdentity data headers = Hex.encode (foundId Note.named (allNotes (contentsOf data headers))) := by
  rw [elfIdentity, foundId]
  induction headers with
  | nil => rfl
  | cons header headers ih =>
    have hr := ih fun h hmem => hs h (mem_cons_of_mem _ hmem)
    rw [findSome?_cons, if_neg (Nat.not_lt.mpr (hs header mem_cons_self)), walkNotes_eq,
      contentsOf, map_cons, find?_allNotes_cons]
    cases (notesFrom (slice data header.1 header.2) 0 _).find? Note.named with
    | none => exact hr
    | some note => rfl

/-- The three readers report one ID, where an empty one and `ElfError` mean that there is none. -/
def Agree (data : Bytes) (headers : List (ℕ × ℕ)) : Prop :=
  readBuildId (contentsOf data headers) = some (elfIdentity data headers) ∧
    elfIdentity data headers = Hex.encode ((generatorBuildId data headers).getD [])

/-- The first note whose name begins with `GNU` is called `GNU`, or has the descriptor of the first
one that is, which counts as empty when there is none. -/
def Unambiguous (notes : List Note) : Prop :=
  ∀ note ∈ notes.find? Note.prefixed, note.named = true ∨ foundId Note.named notes = note.descriptor

/-- Both searches find one ID exactly in unambiguous notes. -/
theorem foundId_eq_iff (notes : List Note) :
    foundId Note.prefixed notes = foundId Note.named notes ↔ Unambiguous notes := by
  unfold Unambiguous
  cases hf : notes.find? Note.prefixed with
  | none =>
    have hno : notes.find? Note.named = none := find?_eq_none.mpr fun note hmem hn =>
      find?_eq_none.mp hf note hmem (prefixed_of_named hn)
    simp [foundId, hf, hno]
  | some first =>
    have hfo : foundId Note.prefixed notes = first.descriptor := by rw [foundId, hf]; rfl
    simp only [mem_def, some.injEq, forall_eq', hfo]
    refine ⟨fun h => .inr h.symm, ?_⟩
    rintro (hn | hsa)
    · -- what comes before is not even prefixed
      obtain ⟨-, before, after, hsp, hb⟩ := find?_eq_some_iff_append.mp hf
      have hs : notes.find? Note.named = some first := by
        refine find?_eq_some_iff_append.mpr ⟨hn, before, after, hsp, fun note hmem => ?_⟩
        have hnot := hb note hmem
        simp only [Bool.not_eq_true'] at hnot ⊢
        exact Bool.eq_false_iff.mpr fun h => Bool.eq_false_iff.mp hnot (prefixed_of_named h)
      rw [foundId, hs]
      rfl
    · exact hsa.symm

theorem agree_iff (hin : ∀ header ∈ headers, header.1 + header.2 ≤ data.length ∧
      header.2 < 16 * 1024 * 1024) :
    Agree data headers ↔ Unambiguous (allNotes (contentsOf data headers)) := by
  have hg := generatorBuildId_eq fun header h => (hin header h).1
  have helf := @elfIdentity_eq data headers fun header h => (hin header h).2.le
  have hs : elfIdentity data headers = Hex.encode ((generatorBuildId data headers).getD []) := by
    rw [helf, hg, foundId]
    cases (allNotes (contentsOf data headers)).find? Note.named <;> rfl
  rw [← foundId_eq_iff, Agree, and_iff_left hs, readBuildId_eq, helf, some.injEq]
  refine ⟨fun h => ?_, fun h => by rw [h]⟩
  have hd := congrArg Hex.decode h
  rwa [Hex.decode_encode, Hex.decode_encode, some.injEq] at hd

/-- It is enough that no name only begins with `GNU`. -/
theorem agree_of_named (hin : ∀ header ∈ headers, header.1 + header.2 ≤ data.length ∧
      header.2 < 16 * 1024 * 1024)
    (h : ∀ note ∈ allNotes (contentsOf data headers), note.prefixed = true → note.named = true) :
    Agree data headers :=
  (agree_iff hin).mpr fun note hn =>
    .inl (h note (mem_of_find?_eq_some hn) (find?_some hn))

/-- **Build IDs.** For note segments inside a file, below sixteen mebibytes, the three readers agree
exactly when the notes are unambiguous; and the runtime's returns without a read outside the
segments, whatever they hold. -/
theorem buildIds_agree_iff (data : Bytes) (headers : List (ℕ × ℕ))
    (hinside : ∀ header ∈ headers, header.1 + header.2 ≤ data.length ∧
      header.2 < 16 * 1024 * 1024) :
    (Agree data headers ∧ ∀ contents, (readBuildId contents).isSome = true) ↔
      Unambiguous (allNotes (contentsOf data headers)) := by
  rw [and_iff_left fun contents => by rw [readBuildId_eq]; rfl]
  exact agree_iff hinside

/-- A file that is one note of the type of a build ID, called `GNU` and another byte. -/
def oneNote (last : UInt8) : Bytes :=
  leBytes 4 4 ++ leBytes 4 4 ++ leBytes 4 3 ++ gnu ++ [last, 1, 2, 3, 4]

theorem allNotes_oneNote (last : UInt8) :
    allNotes (contentsOf (oneNote last) [(0, 20)]) = [⟨3, gnu ++ [last], [1, 2, 3, 4]⟩] := by
  have hw : contentsOf (oneNote last) [(0, 20)] = [oneNote last] := rfl
  have hl : (oneNote last).length = 20 := rfl
  have hn : word (oneNote last) 0 = 4 := rfl
  have hd : word (oneNote last) 4 = 4 := rfl
  have hend : notesFrom (oneNote last) 20 20 = [] := by rw [notesFrom, dif_neg (by decide)]
  rw [hw, allNotes, flatMap_singleton, hl, notesFrom, dif_pos (by decide)]
  dsimp only [Nat.zero_add]
  rw [hn, hd, if_neg (by decide), show 12 + align4 4 + align4 4 = 20 from rfl, hend]
  rfl

theorem buildIds_agree_iff_oneNote : Agree (oneNote 0) [(0, 20)] := by
  refine ((buildIds_agree_iff (oneNote 0) [(0, 20)] (by decide)).mpr ?_).1
  rw [allNotes_oneNote]
  exact fun note hn => .inl (by cases hn; rfl)

/-- A note called `GNUX` is a build ID for the runtime alone. -/
theorem gnuX_disagree : ¬ (Agree (oneNote 0x58) [(0, 20)] ∧
    ∀ contents, (readBuildId contents).isSome = true) := by
  rintro ⟨⟨h, -⟩, -⟩
  rw [readBuildId_eq, elfIdentity_eq (by decide), allNotes_oneNote] at h
  exact absurd h (by decide)

end Vcam.Runtime.BuildId
