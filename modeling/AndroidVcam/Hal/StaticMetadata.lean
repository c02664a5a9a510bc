import AndroidVcam.Lib.Keyed

/-!
# The static metadata of the virtual cameras

`AddHighResolutionMetadata` of `aosp/provider/aidl/VcamCameraProviderHwl.cpp` adds nine stream
configurations and their durations to the static metadata of the delegate. `AppendMetadataTuples`
takes a tuple for present when its first three values are. The fourth value of a configuration is
its direction, so that an input configuration hides the output configuration of its size.

* `augment`: the metadata after a call that succeeds;
* **`augmented_iff`**: all that is required is there exactly when no input configuration hides one.
-/

namespace Vcam.StaticMetadata

open Keyed

/-! ## Tuples -/

/-- Format, width, height, and a direction or a duration. -/
abbrev Tuple := ℤ × ℤ × ℤ × ℤ

def tupleKey (t : Tuple) : ℤ × ℤ × ℤ := (t.1, t.2.1, t.2.2.1)

def flatten (ts : List Tuple) : List ℤ := ts.flatMap fun (a, b, c, d) => [a, b, c, d]

def tuples : List ℤ → List Tuple
  | a :: b :: c :: d :: rest => (a, b, c, d) :: tuples rest
  | _ => []

/-- The inner loop of `AppendMetadataTuples`. -/
def found (x y z : ℤ) : List ℤ → Bool
  | a :: b :: c :: _ :: rest => (a == x && b == y && c == z) || found x y z rest
  | _ => false

def mergeValues (values : List ℤ) : List ℤ → List ℤ
  | a :: b :: c :: d :: rest =>
    mergeValues (if found a b c values then values else values ++ [a, b, c, d]) rest
  | _ => values

theorem tuples_flatten (ts : List Tuple) : tuples (flatten ts) = ts := by
  induction ts with
  | nil => rfl
  | cons t ts ih => exact congrArg (t :: ·) ih

theorem found_flatten (t : Tuple) (ts : List Tuple) :
    found t.1 t.2.1 t.2.2.1 (flatten ts) = true ↔ tupleKey t ∈ ts.map tupleKey := by
  induction ts with
  | nil => exact iff_of_false nofun nofun
  | cons e ts ih =>
    rw [List.map_cons, List.mem_cons, ← ih, eq_comm (a := tupleKey t)]
    change ((e.1 == t.1 && e.2.1 == t.2.1 && e.2.2.1 == t.2.2.1) || found _ _ _ (flatten ts)) = true ↔ _
    simp only [tupleKey, Bool.or_eq_true, Bool.and_eq_true, beq_iff_eq, Prod.mk.injEq, and_assoc]

theorem mergeValues_flatten (ts a : List Tuple) :
    mergeValues (flatten ts) (flatten a) = flatten (merge tupleKey ts a) := by
  induction a generalizing ts with
  | nil => rfl
  | cons t a ih =>
    have hs : (if found t.1 t.2.1 t.2.2.1 (flatten ts) then flatten ts
        else flatten ts ++ [t.1, t.2.1, t.2.2.1, t.2.2.2]) = flatten (add tupleKey ts t) := by
      by_cases h : tupleKey t ∈ ts.map tupleKey
      · rw [add_of_mem h, if_pos ((found_flatten t ts).mpr h)]
      · rw [add_of_notMem h, if_neg ((found_flatten t ts).not.mpr h), flatten, flatten,
          List.flatMap_append]
        rfl
    change mergeValues (ite _ _ _) (flatten a) = _
    rw [hs, ih]
    rfl

theorem length_flatten (ts : List Tuple) : (flatten ts).length = 4 * ts.length := by
  rw [flatten, List.length_flatMap]
  simp [Nat.mul_comm]

/-! ## Metadata -/

inductive MetadataTag
  | streamConfigurations
  | minFrameDurations
  | stallDurations
  | jpegMaxSize
  | maxFrameDuration
  | other (tag : ℕ)
deriving DecidableEq

inductive EntryType
  | int32
  | int64
  | other (type : ℕ)
deriving DecidableEq

structure Entry where
  type : EntryType
  values : List ℤ

abbrev Metadata := MetadataTag → Option Entry

inductive Status
  | ok
  | badValue
  | refused (code : ℤ)
deriving DecidableEq

/-- `HalCameraMetadata::Set`, which may refuse an entry with a status and then changes nothing. -/
def set (refusal : Metadata → MetadataTag → Entry → Option ℤ) (tag : MetadataTag) (entry : Entry)
    (m : Metadata) : Metadata × Status :=
  match refusal m tag entry with
  | some code => (m, .refused code)
  | none => (Function.update m tag (some entry), .ok)

def appendMetadataTuples (refusal : Metadata → MetadataTag → Entry → Option ℤ) (type : EntryType)
    (tag : MetadataTag) (additions : List ℤ) (m : Metadata) : Metadata × Status :=
  if additions.length % 4 ≠ 0 then (m, .badValue)
  else
    match m tag with
    | none => set refusal tag ⟨type, mergeValues [] additions⟩ m
    | some entry =>
      if entry.values.length = 0 then set refusal tag ⟨type, mergeValues [] additions⟩ m
      else if entry.type ≠ type ∨ entry.values.length % 4 ≠ 0 then (m, .badValue)
      else set refusal tag ⟨type, mergeValues entry.values additions⟩ m

def andThen (result : Metadata × Status) (next : Metadata → Metadata × Status) :
    Metadata × Status :=
  if result.2 ≠ .ok then result else next result.1

/-- The sizes with their minimum frame durations and the stall durations of a blob. -/
def resolutions : List (ℤ × ℤ × ℤ × ℤ) :=
  [(2560, 1440, 33333333, 500000000), (3840, 2160, 66666666, 800000000),
    (4096, 3072, 111111111, 1200000000)]

/-- `IMPLEMENTATION_DEFINED`, `YCBCR_420_888`, `BLOB`. -/
def formats : List ℤ := [34, 35, 33]

def output : ℤ := 0

def configs : List Tuple :=
  formats.flatMap fun format => resolutions.map fun (w, h, _, _) => (format, w, h, output)

def minDurations : List Tuple :=
  formats.flatMap fun format => resolutions.map fun (w, h, duration, _) => (format, w, h, duration)

def stallDurations : List Tuple :=
  formats.flatMap fun format =>
    resolutions.map fun (w, h, _, stall) => (format, w, h, if format = 33 then stall else 0)

def kJpegMaxSize : ℤ := 16 * 1024 * 1024

def addHighResolutionMetadata (refusal : Metadata → MetadataTag → Entry → Option ℤ)
    (m : Metadata) : Metadata × Status :=
  andThen (appendMetadataTuples refusal .int32 .streamConfigurations (flatten configs) m) fun m =>
  andThen (appendMetadataTuples refusal .int64 .minFrameDurations (flatten minDurations) m) fun m =>
  andThen (appendMetadataTuples refusal .int64 .stallDurations (flatten stallDurations) m) fun m =>
  andThen (set refusal .jpegMaxSize ⟨.int32, [kJpegMaxSize]⟩ m)
    (set refusal .maxFrameDuration ⟨.int64, [120000000]⟩)

/-! ## What is required -/

def tuplesAt (m : Metadata) (tag : MetadataTag) : List Tuple := tuples ((m tag).elim [] (·.values))

/-- The entry is absent or a list of tuples of its type. -/
def TuplesOf (m : Metadata) (type : EntryType) (tag : MetadataTag) : Prop :=
  m tag = none ∨ ∃ ts, m tag = some ⟨type, flatten ts⟩

structure WellFormed (m : Metadata) : Prop where
  configs : TuplesOf m .int32 .streamConfigurations
  minimum : TuplesOf m .int64 .minFrameDurations
  stall : TuplesOf m .int64 .stallDurations

/-- What a call that succeeds is for. -/
structure Augmented (m m' : Metadata) : Prop where
  kept : ∀ tag ∈ [MetadataTag.streamConfigurations, .minFrameDurations, .stallDurations],
    tuplesAt m tag <+: tuplesAt m' tag
  outputs : ∀ t ∈ configs, t ∈ tuplesAt m' .streamConfigurations
  durations : ∀ tag ∈ [MetadataTag.minFrameDurations, .stallDurations], ∀ t ∈ configs,
    tupleKey t ∈ (tuplesAt m' tag).map tupleKey
  stable : ∀ refusal, (addHighResolutionMetadata refusal m').1 = m'

/-- No required configuration is there only with another direction. -/
def Unhidden (m : Metadata) : Prop :=
  ∀ t ∈ configs, tupleKey t ∈ (tuplesAt m .streamConfigurations).map tupleKey →
    t ∈ tuplesAt m .streamConfigurations

def augment (m : Metadata) : Metadata
  | .streamConfigurations =>
    some ⟨.int32, flatten (merge tupleKey (tuplesAt m .streamConfigurations) configs)⟩
  | .minFrameDurations =>
    some ⟨.int64, flatten (merge tupleKey (tuplesAt m .minFrameDurations) minDurations)⟩
  | .stallDurations =>
    some ⟨.int64, flatten (merge tupleKey (tuplesAt m .stallDurations) stallDurations)⟩
  | .jpegMaxSize => some ⟨.int32, [kJpegMaxSize]⟩
  | .maxFrameDuration => some ⟨.int64, [120000000]⟩
  | .other tag => m (.other tag)

variable {m : Metadata} {refusal : Metadata → MetadataTag → Entry → Option ℤ} {tag : MetadataTag}
  {type : EntryType} {entry : Entry}

theorem append_eq (h : TuplesOf m type tag) (a : List Tuple) :
    appendMetadataTuples refusal type tag (flatten a) m =
      set refusal tag ⟨type, flatten (merge tupleKey (tuplesAt m tag) a)⟩ m := by
  have hl (ts : List Tuple) : (flatten ts).length % 4 = 0 := by
    rw [length_flatten, Nat.mul_mod_right]
  rw [appendMetadataTuples, if_neg (not_not.mpr (hl a)), tuplesAt]
  rcases h with hn | ⟨ts, hs⟩
  · rw [hn]
    exact congrArg (fun values => set refusal tag ⟨type, values⟩ m) (mergeValues_flatten [] a)
  · rw [hs]
    dsimp only [Option.elim]
    rw [tuples_flatten, if_neg (not_or.mpr ⟨not_not.mpr rfl, not_not.mpr (hl ts)⟩),
      mergeValues_flatten, ite_eq_right_iff, length_flatten]
    intro he
    obtain rfl : ts = [] := List.length_eq_zero_iff.mp (by omega)
    exact congrArg (fun values => set refusal tag ⟨type, values⟩ m) (mergeValues_flatten [] a)

theorem set_fst_of_same (h : m tag = some entry) : (set refusal tag entry m).1 = m := by
  rw [set]
  split
  · rfl
  · exact Function.update_eq_self_iff.mpr h.symm

theorem set_of_ok (h : (set refusal tag entry m).2 = .ok) :
    set refusal tag entry m = (Function.update m tag (some entry), .ok) := by
  rw [set] at h ⊢
  split at h
  · cases h
  · rfl

theorem andThen_fst {r : Metadata × Status} {next : Metadata → Metadata × Status}
    (h : r.1 = m) (hn : (next m).1 = m) : (andThen r next).1 = m := by
  rw [andThen]
  split_ifs
  · exact h
  · rw [h, hn]

/-- A sequence that succeeds goes on behind its first entry. -/
theorem andThen_set {next : Metadata → Metadata × Status}
    (h : (andThen (set refusal tag entry m) next).2 = .ok) :
    andThen (set refusal tag entry m) next = next (Function.update m tag (some entry)) := by
  rw [andThen] at h ⊢
  split_ifs at h ⊢ with hr
  · exact absurd h hr
  · rw [set_of_ok (not_not.mp hr)]

theorem TuplesOf.update (h : TuplesOf m type tag) {o : MetadataTag} (ho : tag ≠ o)
    (e : Option Entry) : TuplesOf (Function.update m o e) type tag ∧
      tuplesAt (Function.update m o e) tag = tuplesAt m tag := by
  rw [TuplesOf, tuplesAt, Function.update_of_ne ho]
  exact ⟨h, rfl⟩

theorem fst_of_ok (h : WellFormed m) (hok : (addHighResolutionMetadata refusal m).2 = .ok) :
    (addHighResolutionMetadata refusal m).1 = augment m := by
  rw [addHighResolutionMetadata, append_eq h.configs] at hok ⊢
  have e₁ := andThen_set hok
  obtain ⟨hm, em⟩ := h.minimum.update (show _ ≠ MetadataTag.streamConfigurations by decide)
    (some ⟨.int32, flatten (merge tupleKey (tuplesAt m .streamConfigurations) configs)⟩)
  obtain ⟨hs, es⟩ := h.stall.update (show _ ≠ MetadataTag.streamConfigurations by decide)
    (some ⟨.int32, flatten (merge tupleKey (tuplesAt m .streamConfigurations) configs)⟩)
  rw [append_eq hm, em] at e₁
  rw [e₁] at hok ⊢
  have e₂ := andThen_set hok
  obtain ⟨hs', es'⟩ := hs.update (show _ ≠ MetadataTag.minFrameDurations by decide)
    (some ⟨.int64, flatten (merge tupleKey (tuplesAt m .minFrameDurations) minDurations)⟩)
  rw [append_eq hs', es', es] at e₂
  rw [e₂] at hok ⊢
  have e₃ := andThen_set hok
  rw [e₃] at hok ⊢
  have e₄ := andThen_set hok
  rw [e₄] at hok ⊢
  rw [set_of_ok hok]
  funext tag
  cases tag <;> simp [Function.update, augment]

theorem tuplesAt_of_eq {ts : List Tuple} (h : m tag = some ⟨type, flatten ts⟩) :
    tuplesAt m tag = ts := by
  rw [tuplesAt, h]
  exact tuples_flatten ts

theorem tuplesAt_augment (m : Metadata) :
    tuplesAt (augment m) .streamConfigurations =
        merge tupleKey (tuplesAt m .streamConfigurations) configs ∧
      tuplesAt (augment m) .minFrameDurations =
        merge tupleKey (tuplesAt m .minFrameDurations) minDurations ∧
      tuplesAt (augment m) .stallDurations =
        merge tupleKey (tuplesAt m .stallDurations) stallDurations :=
  ⟨tuplesAt_of_eq rfl, tuplesAt_of_eq rfl, tuplesAt_of_eq rfl⟩

theorem augment_stable (m : Metadata) (r : Metadata → MetadataTag → Entry → Option ℤ) :
    (addHighResolutionMetadata r (augment m)).1 = augment m := by
  obtain ⟨hc, hm, hs⟩ := tuplesAt_augment m
  rw [addHighResolutionMetadata]
  refine andThen_fst ?_ (andThen_fst ?_ (andThen_fst ?_ (andThen_fst ?_ ?_)))
  · rw [append_eq (.inr ⟨_, rfl⟩), hc, merge_merge]
    exact set_fst_of_same rfl
  · rw [append_eq (.inr ⟨_, rfl⟩), hm, merge_merge]
    exact set_fst_of_same rfl
  · rw [append_eq (.inr ⟨_, rfl⟩), hs, merge_merge]
    exact set_fst_of_same rfl
  · exact set_fst_of_same rfl
  · exact set_fst_of_same rfl

/-- **All that is required is there exactly when no configuration hides a required one**, and the
rest is so in any case. -/
theorem augmented_iff (h : WellFormed m) (hok : (addHighResolutionMetadata refusal m).2 = .ok) :
    Augmented m (addHighResolutionMetadata refusal m).1 ↔ Unhidden m := by
  rw [fst_of_ok h hok]
  obtain ⟨hc, hm, hs⟩ := tuplesAt_augment m
  have hn : (configs.map tupleKey).Nodup := by decide
  have hu : (∀ t ∈ configs, t ∈ tuplesAt (augment m) .streamConfigurations) ↔ Unhidden m := by
    rw [hc, Unhidden]
    exact forall₂_congr fun t ht => mem_merge_iff hn ht
  rw [← hu]
  refine ⟨fun ha => ha.outputs, fun ha => ⟨?_, ha, ?_, augment_stable m⟩⟩
  · simp only [List.forall_mem_cons, hc, hm, hs]
    exact ⟨prefix_merge _ _, prefix_merge _ _, prefix_merge _ _, nofun⟩
  · have hk (additions ts : List Tuple) (hall : additions.map tupleKey = configs.map tupleKey)
        (t : Tuple) (ht : t ∈ configs) : tupleKey t ∈ (merge tupleKey ts additions).map tupleKey := by
      have hmem := List.mem_map_of_mem (f := tupleKey) ht
      rw [← hall] at hmem
      obtain ⟨a, ha, he⟩ := List.mem_map.mp hmem
      rw [← he]
      exact key_mem_merge ha
    simp only [List.forall_mem_cons, hm, hs]
    exact ⟨hk _ _ (by decide), hk _ _ (by decide), nofun⟩

def inputOnly : Metadata
  | .streamConfigurations => some ⟨.int32, flatten [(34, 2560, 1440, 1)]⟩
  | _ => none

theorem wellFormed_inputOnly : WellFormed inputOnly := ⟨.inr ⟨_, rfl⟩, .inl rfl, .inl rfl⟩

theorem inputOnly_hides :
    WellFormed inputOnly ∧ (addHighResolutionMetadata (fun _ _ _ => none) inputOnly).2 = .ok ∧
      ¬Augmented inputOnly (addHighResolutionMetadata (fun _ _ _ => none) inputOnly).1 := by
  refine ⟨wellFormed_inputOnly, rfl, fun h => ?_⟩
  have ho := h.outputs (34, 2560, 1440, 0) (by decide)
  exact absurd ho (by decide)

/-- A camera that has one of the required sizes already, and another one of its own. -/
def smallCamera : Metadata
  | .streamConfigurations => some ⟨.int32, flatten [(35, 640, 480, 0), (34, 2560, 1440, 0)]⟩
  | .minFrameDurations => some ⟨.int64, flatten [(35, 640, 480, 33333333)]⟩
  | .stallDurations => some ⟨.int64, flatten [(33, 640, 480, 200000000)]⟩
  | _ => none

theorem wellFormed_smallCamera : WellFormed smallCamera :=
  ⟨.inr ⟨_, rfl⟩, .inr ⟨_, rfl⟩, .inr ⟨_, rfl⟩⟩

theorem augmented_iff_smallCamera : WellFormed smallCamera ∧
    (addHighResolutionMetadata (fun _ _ _ => none) smallCamera).2 = .ok ∧
      Augmented smallCamera (addHighResolutionMetadata (fun _ _ _ => none) smallCamera).1 :=
  ⟨wellFormed_smallCamera, rfl, (augmented_iff wellFormed_smallCamera rfl).mpr
    (show ∀ t ∈ configs, _ by decide)⟩

end Vcam.StaticMetadata
