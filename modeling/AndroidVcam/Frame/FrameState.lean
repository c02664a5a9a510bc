import AndroidVcam.Controller.FramePublisher

/-!
# The frame of a camera

`RgbFrame` of `hal/src/RgbFrame.cpp` as an object: `load` replaces the frame it holds, and
`reloadIfChanged` reads the frame file of a provider when its header has changed.

* `RgbFrame.encode`, `RgbFrame.Loadable`; **`load_eq_some_iff`**: the bytes that `load` accepts are
  the encodings of loadable frames;
* `FrameState.Reached.holds`: a valid object holds a loadable frame, whatever was loaded before;
* **`reload_refines_load`**: the incremental reload has the effect of a full load.
-/

namespace Vcam

open Wire List

/-! ## The bytes of a frame -/

def FrameFormat.magic : FrameFormat → Bytes
  | .rgb888 => literal "VCAMRGB1"
  | .i420 => literal "VCAMYUV1"

namespace RgbFrame

def encode (frame : RgbFrame) : Bytes :=
  frame.format.magic ++ (leBytes 4 frame.width ++ (leBytes 4 frame.height ++
    (leBytes 4 frame.pixels.length ++ (leBytes 4 frame.sequence ++ frame.pixels))))

/-- What `load` asks of a frame. -/
structure Loadable (frame : RgbFrame) : Prop where
  width_pos : 0 < frame.width
  height_pos : 0 < frame.height
  width_le : frame.width ≤ maxDimension
  height_le : frame.height ≤ maxDimension
  pixels_le : frame.width * frame.height ≤ maxPixels
  sequence_lt : frame.sequence < 2 ^ 32
  payload : frame.pixels.length = expectedPayload frame.format frame.width frame.height

end RgbFrame

variable {frame : RgbFrame} {bytes : Bytes}

@[simp] theorem length_magic (f : FrameFormat) : f.magic.length = 8 := by
  cases f <;> decide

@[simp] theorem formatFromMagic_magic (format : FrameFormat) (rest : Bytes) :
    formatFromMagic (format.magic ++ rest) = some format := by
  have ht : (format.magic ++ rest).take 8 = format.magic := take_left' (length_magic format)
  rw [formatFromMagic, ht]
  cases format <;> decide

variable {format : FrameFormat} {height w : ℕ}

theorem take_of_formatFromMagic (h : formatFromMagic bytes = some format) :
    bytes.take 8 = format.magic := by
  rw [formatFromMagic] at h
  split_ifs at h with hrgb hyuv
  · cases h
    exact hrgb
  · cases h
    exact hyuv

theorem readLe32_append {b a : Bytes} {o n : ℕ} (ho : b.length = o)
    (hn : n < 2 ^ 32) : readLe32 (b ++ (leBytes 4 n ++ a)) o = n := by
  rw [readLe32, drop_left' ho, take_left' (length_leBytes 4 n),
    leValue_leBytes (by simpa using hn)]

theorem leBytes_readLe32 {o : ℕ} (h : o + 4 ≤ bytes.length) :
    leBytes 4 (readLe32 bytes o) = (bytes.drop o).take 4 := by
  have hl : ((bytes.drop o).take 4).length = 4 := by
    rw [length_take, length_drop]
    omega
  have hb := leBytes_leValue ((bytes.drop o).take 4)
  rwa [hl] at hb

theorem drop_eq_readLe32 {o : ℕ} (h : o + 4 ≤ bytes.length) :
    bytes.drop o = leBytes 4 (readLe32 bytes o) ++ bytes.drop (o + 4) := by
  rw [leBytes_readLe32 h, ← drop_drop, take_append_drop]

theorem expectedPayload_lt
    (h : w * height ≤ maxPixels) : expectedPayload format w height < 2 ^ 32 := by
  have hmax : maxPixels = 12582912 := rfl
  cases format with
  | rgb888 =>
    rw [expectedPayload]
    omega
  | i420 =>
    rw [expectedPayload]
    split_ifs <;> omega

namespace RgbFrame.Loadable

theorem pixels_lt (h : frame.Loadable) : frame.pixels.length < 2 ^ 32 := by
  rw [h.payload]
  exact expectedPayload_lt h.pixels_le

theorem width_lt (h : frame.Loadable) : frame.width < 2 ^ 32 := by
  have hmax : maxDimension = 4096 := rfl
  have := h.width_le
  omega

theorem height_lt (h : frame.Loadable) : frame.height < 2 ^ 32 := by
  have hmax : maxDimension = 4096 := rfl
  have := h.height_le
  omega

end RgbFrame.Loadable

theorem length_encode (f : RgbFrame) :
    f.encode.length = headerSize + f.pixels.length := by
  simp only [RgbFrame.encode, length_append, length_magic, length_leBytes, headerSize]
  omega

theorem header_encode (h : frame.Loadable) :
    formatFromMagic frame.encode = some frame.format ∧ readLe32 frame.encode 8 = frame.width ∧
      readLe32 frame.encode 12 = frame.height ∧ readLe32 frame.encode 16 = frame.pixels.length ∧
      readLe32 frame.encode 20 = frame.sequence ∧ frame.encode.drop headerSize = frame.pixels := by
  refine ⟨formatFromMagic_magic _ _, readLe32_append (length_magic _) h.width_lt, ?_, ?_, ?_, ?_⟩
  · rw [RgbFrame.encode, ← append_assoc]
    exact readLe32_append (by simp) h.height_lt
  · rw [RgbFrame.encode, ← append_assoc, ← append_assoc]
    exact readLe32_append (by simp) h.pixels_lt
  · rw [RgbFrame.encode, ← append_assoc, ← append_assoc, ← append_assoc]
    exact readLe32_append (by simp) h.sequence_lt
  · rw [RgbFrame.encode, ← append_assoc, ← append_assoc, ← append_assoc,
      ← append_assoc]
    exact drop_left' (by simp [headerSize])

theorem load_encode (h : frame.Loadable) : RgbFrame.load frame.encode = some frame := by
  obtain ⟨hformat, hwi, hhe, hp, hs, hpi⟩ := header_encode h
  have hl := length_encode frame
  have hlt : expectedPayload frame.format frame.width frame.height < 2 ^ 32 :=
    expectedPayload_lt h.pixels_le
  have hw := h.width_pos
  have hh := h.height_pos
  have hd : ¬(frame.width = 0 ∨ frame.height = 0 ∨ frame.width > maxDimension ∨
      frame.height > maxDimension ∨ frame.width * frame.height > maxPixels) := by
    have := h.width_le
    have := h.height_le
    have := h.pixels_le
    omega
  rw [RgbFrame.load, if_neg (by omega), hformat, hwi, hhe, hp, hs, hpi]
  dsimp only
  rw [if_neg hd, if_neg (by have := h.payload; omega)]

theorem encode_of_header (hformat : formatFromMagic bytes = some format)
    (hl : headerSize ≤ bytes.length)
    (hp : readLe32 bytes 16 = (bytes.drop headerSize).length) :
    bytes = RgbFrame.encode ⟨format, readLe32 bytes 8, readLe32 bytes 12, readLe32 bytes 20,
      bytes.drop headerSize⟩ := by
  have hsi : headerSize = 24 := rfl
  rw [hsi] at hl hp ⊢
  have hs : bytes = bytes.take 8 ++ bytes.drop 8 := (take_append_drop 8 bytes).symm
  rw [RgbFrame.encode, ← hp, ← take_of_formatFromMagic hformat]
  conv_lhs => rw [hs, drop_eq_readLe32 (show 8 + 4 ≤ bytes.length by omega),
    drop_eq_readLe32 (show 12 + 4 ≤ bytes.length by omega),
    drop_eq_readLe32 (show 16 + 4 ≤ bytes.length by omega),
    drop_eq_readLe32 (show 20 + 4 ≤ bytes.length by omega)]

/-- **The bytes that `load` accepts are the encodings of loadable frames.** -/
theorem load_eq_some_iff : RgbFrame.load bytes = some frame ↔ frame.Loadable ∧ bytes = frame.encode := by
  refine ⟨fun h => ?_, fun ⟨hf, e⟩ => e ▸ load_encode hf⟩
  rw [RgbFrame.load] at h
  split_ifs at h with hheader
  split at h
  · cases h
  · rename_i format hformat
    dsimp only at h
    split_ifs at h with hd hs
    obtain rfl := Option.some.inj h
    push Not at hd hs
    obtain ⟨hw, hh, hm, hma, hpi⟩ := hd
    obtain ⟨-, hp, hl⟩ := hs
    have hr : (bytes.drop headerSize).length =
        expectedPayload format (readLe32 bytes 8) (readLe32 bytes 12) := by
      rw [length_drop]
      omega
    exact ⟨⟨Nat.pos_of_ne_zero hw, Nat.pos_of_ne_zero hh, hm, hma, hpi, readLe32_lt _ _,
      hr⟩, encode_of_header hformat (not_lt.mp hheader) (hp.trans hr.symm)⟩

/-! ## The object -/

/-- The members of an `RgbFrame`; `none` is `PixelFormat::kNone`. -/
structure FrameState where
  format : Option FrameFormat
  width : ℕ
  height : ℕ
  sequence : ℕ
  pixels : Bytes
deriving DecidableEq

def RgbFrame.stored (frame : RgbFrame) : FrameState :=
  ⟨some frame.format, frame.width, frame.height, frame.sequence, frame.pixels⟩

/-- What is behind the path that `reloadIfChanged` gets. -/
inductive FrameFile
  /-- No path at all. -/
  | nullPath
  /-- The file cannot be opened. -/
  | missing
  | content (bytes : Bytes)

namespace FrameState

def valid (state : FrameState) : Bool := !state.pixels.isEmpty

def reset : FrameState := ⟨none, 0, 0, 0, []⟩

/-- The method `load`: whether it returns true, and the members afterwards. -/
def load (state : FrameState) (bytes : Bytes) : Bool × FrameState :=
  match RgbFrame.load bytes with
  | none => (false, state)
  | some frame => (true, frame.stored)

def unchanged (state : FrameState) (format : FrameFormat) (width height sequence : ℕ) : Bool :=
  state.valid && decide (state.format = some format ∧ width = state.width ∧
    height = state.height ∧ sequence = state.sequence)

def reloadIfChanged (state : FrameState) : FrameFile → Bool × FrameState
  | .nullPath => (state.valid, state)
  | .missing => (false, reset)
  | .content bytes =>
    if bytes.length < headerSize then (state.valid, state)
    else match formatFromMagic bytes with
      | none => (state.valid, state)
      | some format =>
        let width := readLe32 bytes 8
        let height := readLe32 bytes 12
        let payloadSize := readLe32 bytes 16
        if state.unchanged format width height (readLe32 bytes 20) then (true, state)
        else if width = 0 ∨ height = 0 ∨ width > maxDimension ∨ height > maxDimension ∨
            width * height > maxPixels ∨ expectedPayload format width height ≠ payloadSize then
          (state.valid, state)
        else
          let payload := (bytes.drop headerSize).take payloadSize
          let trailing := bytes.drop (headerSize + payloadSize)
          if payload.length ≠ payloadSize ∨ trailing ≠ [] then (state.valid, state)
          else
            let loaded := state.load (bytes.take headerSize ++ payload)
            (loaded.1 || loaded.2.valid, loaded.2)

/-- The states of a frame object in a camera. -/
inductive Reached : FrameState → Prop
  | created : Reached reset
  | loaded {state : FrameState} (bytes : Bytes) : Reached state → Reached (state.load bytes).2
  | reloaded {state : FrameState} (file : FrameFile) : Reached state →
    Reached (state.reloadIfChanged file).2

/-- An object with pixels holds a frame that `load` has accepted. -/
def Holds (state : FrameState) : Prop :=
  state.valid = true → ∃ frame : RgbFrame, frame.Loadable ∧ state = frame.stored

end FrameState

open FrameState

variable {state : FrameState}

theorem load_of_eq_none (h : RgbFrame.load bytes = none) : state.load bytes = (false, state) := by
  rw [FrameState.load, h]

theorem load_of_eq_some (h : RgbFrame.load bytes = some frame) :
    state.load bytes = (true, frame.stored) := by
  rw [FrameState.load, h]

/-- The header fields do not describe a frame. -/
def BadHeader (format : FrameFormat) (bytes : Bytes) : Prop :=
  readLe32 bytes 8 = 0 ∨ readLe32 bytes 12 = 0 ∨ readLe32 bytes 8 > maxDimension ∨
    readLe32 bytes 12 > maxDimension ∨ readLe32 bytes 8 * readLe32 bytes 12 > maxPixels ∨
    expectedPayload format (readLe32 bytes 8) (readLe32 bytes 12) ≠ readLe32 bytes 16

section Header

variable {format : FrameFormat} (hheader : ¬bytes.length < headerSize)
  (hformat : formatFromMagic bytes = some format)

include hheader hformat

theorem load_of_badHeader (hbad : BadHeader format bytes) : RgbFrame.load bytes = none := by
  rw [RgbFrame.load, if_neg hheader, hformat]
  dsimp only
  rcases or_assoc.mpr (or_assoc.mpr (or_assoc.mpr (or_assoc.mpr hbad))) with hd | hp
  · exact if_pos (by tauto)
  · split_ifs with _ hs
    · rfl
    · rfl
    · exact absurd (.inr (.inl (Ne.symm hp))) hs

theorem load_of_length (hl : bytes.length ≠ headerSize + readLe32 bytes 16) :
    RgbFrame.load bytes = none := by
  rw [RgbFrame.load, if_neg hheader, hformat]
  dsimp only
  split_ifs
  · rfl
  · rfl
  · omega

/-- A changed file is loaded when it has a good header and the length that the header says. -/
theorem reload_changed (hc : state.unchanged format (readLe32 bytes 8) (readLe32 bytes 12)
      (readLe32 bytes 20) = false) : state.reloadIfChanged (.content bytes) =
    ((state.load bytes).1 || (state.load bytes).2.valid, (state.load bytes).2) := by
  rw [reloadIfChanged, if_neg hheader, hformat]
  dsimp only
  rw [hc, if_neg Bool.false_ne_true]
  by_cases hbad : BadHeader format bytes
  · rw [load_of_eq_none (load_of_badHeader hheader hformat hbad)]
    exact if_pos hbad
  · refine (if_neg hbad).trans ?_
    by_cases hl : bytes.length = headerSize + readLe32 bytes 16
    · have hr : (bytes.drop headerSize).length = readLe32 bytes 16 := by
        rw [length_drop]
        omega
      have hw : bytes.take headerSize ++ (bytes.drop headerSize).take (readLe32 bytes 16) =
          bytes := by
        rw [← hr, take_length, take_append_drop]
      rw [if_neg, hw]
      rw [length_take, hr, drop_eq_nil_of_le (by omega)]
      simp
    · rw [load_of_eq_none (load_of_length hheader hformat hl)]
      refine if_pos ?_
      rw [length_take, length_drop, ne_eq, ne_eq, drop_eq_nil_iff]
      omega

end Header

/-- **The ways through the reload of a file**: the header is the one of the frame in memory, or the
file is loaded. -/
theorem reload_cases (s : FrameState) (b : Bytes) :
    (∃ format, formatFromMagic b = some format ∧ s.unchanged format (readLe32 b 8)
        (readLe32 b 12) (readLe32 b 20) = true ∧
      s.reloadIfChanged (.content b) = (true, s)) ∨
    s.reloadIfChanged (.content b) =
      ((s.load b).1 || (s.load b).2.valid, (s.load b).2) := by
  by_cases hheader : b.length < headerSize
  · have hl : RgbFrame.load b = none := by rw [RgbFrame.load, if_pos hheader]
    rw [reloadIfChanged, if_pos hheader, load_of_eq_none hl]
    exact .inr rfl
  · cases hformat : formatFromMagic b with
    | none =>
      have hl : RgbFrame.load b = none := by rw [RgbFrame.load, if_neg hheader, hformat]
      rw [reloadIfChanged, if_neg hheader, hformat, load_of_eq_none hl]
      exact .inr rfl
    | some format =>
      cases hs : s.unchanged format (readLe32 b 8) (readLe32 b 12)
          (readLe32 b 20) with
      | false => exact .inr (reload_changed hheader hformat hs)
      | true =>
        refine .inl ⟨format, rfl, hs, ?_⟩
        rw [reloadIfChanged, if_neg hheader, hformat]
        exact if_pos hs

theorem unchanged_iff {s : ℕ} :
    state.unchanged format w height s = true ↔ state.valid = true ∧
      state.format = some format ∧ w = state.width ∧ height = state.height ∧
      s = state.sequence := by
  rw [unchanged, Bool.and_eq_true, decide_eq_true_iff]

/-! ## Reached states -/

theorem Holds.load (h : state.Holds) (b : Bytes) : (state.load b).2.Holds := by
  cases hl : RgbFrame.load b with
  | none => rwa [load_of_eq_none hl]
  | some frame =>
    rw [load_of_eq_some hl]
    exact fun _ => ⟨frame, (load_eq_some_iff.mp hl).1, rfl⟩

theorem Holds.reload (h : state.Holds) (file : FrameFile) : (state.reloadIfChanged file).2.Holds := by
  cases file with
  | nullPath => exact h
  | missing => exact nofun
  | content bytes =>
    rcases reload_cases state bytes with ⟨-, -, -, e⟩ | e
    · rwa [e]
    · rw [e]
      exact Holds.load h bytes

theorem FrameState.Reached.holds (h : state.Reached) : state.Holds := by
  induction h with
  | created => exact nofun
  | loaded bytes _ ih => exact Holds.load ih bytes
  | reloaded file _ ih => exact Holds.reload ih file

/-! ## The reload of a file -/

structure RgbFrame.Documented (frame : RgbFrame) : Prop where
  width : 1 ≤ frame.width ∧ frame.width ≤ 4096
  height : 1 ≤ frame.height ∧ frame.height ≤ 4096
  area : frame.width * frame.height ≤ 4096 * 3072
  even : frame.format = .i420 → Even frame.width ∧ Even frame.height
  payload : frame.pixels.length = match frame.format with
    | .rgb888 => frame.width * frame.height * 3
    | .i420 => frame.width * frame.height * 3 / 2
  sequence : frame.sequence < 2 ^ 32

theorem expectedPayload_even (hw : Even w) (hh : Even height) :
    expectedPayload .i420 w height = w * height * 3 / 2 := by
  rw [expectedPayload, if_pos ⟨Nat.even_iff.mp hw, Nat.even_iff.mp hh⟩]
  omega

/-- A frame is a documented one when it can be loaded and has pixels. -/
theorem documented_iff : frame.Documented ↔ frame.Loadable ∧ frame.pixels ≠ [] := by
  constructor
  · intro h
    have hpo : 0 < frame.width * frame.height := Nat.mul_pos h.width.1 h.height.1
    have hp : frame.pixels.length = expectedPayload frame.format frame.width frame.height := by
      rw [h.payload]
      cases hformat : frame.format with
      | rgb888 => rfl
      | i420 => exact (expectedPayload_even (h.even hformat).1 (h.even hformat).2).symm
    refine ⟨⟨h.width.1, h.height.1, h.width.2, h.height.2, h.area, h.sequence, hp⟩, ?_⟩
    intro hem
    have hl := h.payload
    rw [hem, length_nil] at hl
    split at hl <;> omega
  · rintro ⟨h, hpi⟩
    have he : frame.format = .i420 → Even frame.width ∧ Even frame.height := by
      intro hformat
      have hp := h.payload
      rw [hformat, expectedPayload] at hp
      split_ifs at hp with he
      · exact ⟨Nat.even_iff.mpr he.1, Nat.even_iff.mpr he.2⟩
      · exact absurd (eq_nil_of_length_eq_zero hp) hpi
    refine ⟨⟨h.width_pos, h.width_le⟩, ⟨h.height_pos, h.height_le⟩, h.pixels_le, he, ?_,
      h.sequence_lt⟩
    rw [h.payload]
    cases hformat : frame.format with
    | rgb888 => rfl
    | i420 => exact expectedPayload_even (he hformat).1 (he hformat).2

/-- A well-formed file with the header of the frame in memory has its payload too. -/
def SamePayload (state : FrameState) (bytes : Bytes) : Prop :=
  ∀ frame : RgbFrame, frame.Documented → bytes = frame.encode → state.valid = true →
    state.format = some frame.format → state.width = frame.width → state.height = frame.height →
    state.sequence = frame.sequence → frame.pixels = state.pixels

/-- With the header of the frame in memory, a load would change nothing. -/
theorem load_unchanged (hho : state.Holds) (hsa : SamePayload state bytes)
    (hformat : formatFromMagic bytes = some format)
    (h : state.unchanged format (readLe32 bytes 8) (readLe32 bytes 12) (readLe32 bytes 20) = true) :
    (state.load bytes).2 = state := by
  obtain ⟨hv, hst, hw, hh, hs⟩ := unchanged_iff.mp h
  cases hlo : RgbFrame.load bytes with
  | none => rw [load_of_eq_none hlo]
  | some frame =>
    obtain ⟨hl, rfl⟩ := load_eq_some_iff.mp hlo
    obtain ⟨hf', hw', hh', -, hs', -⟩ := header_encode hl
    rw [hf'] at hformat
    rw [hw'] at hw
    rw [hh'] at hh
    rw [hs'] at hs
    rw [← Option.some.inj hformat] at hst
    -- The payload of the file is as long as the one in memory, which is not empty.
    obtain ⟨held, hheld, rfl⟩ := hho hv
    have hpi : frame.pixels ≠ [] := by
      intro hem
      have hp := hl.payload
      rw [hem, hw, hh, ← Option.some.inj hst] at hp
      rw [FrameState.valid, RgbFrame.stored,
        eq_nil_of_length_eq_zero (hheld.payload.trans hp.symm)] at hv
      cases hv
    have he := hsa frame (documented_iff.mpr ⟨hl, hpi⟩) rfl hv hst
      hw.symm hh.symm hs.symm
    rw [load_of_eq_some hlo, RgbFrame.stored, he, hw, hh, hs, ← hst]

/-- **The incremental reload of a file has the effect of a full load.** -/
theorem reload_refines_load (hreached : state.Reached) (hsame : SamePayload state bytes) :
    (state.reloadIfChanged (.content bytes)).2 = (state.load bytes).2 ∧
      ((state.reloadIfChanged (.content bytes)).1 = true ↔ (state.load bytes).1 = true ∨
        (state.reloadIfChanged (.content bytes)).2.valid = true) ∧
      (state.reloadIfChanged .missing).1 = false ∧
      (state.reloadIfChanged .missing).2.valid = false := by
  refine ⟨?_, ?_, rfl, rfl⟩
  · rcases reload_cases state bytes with ⟨format, hformat, h, e⟩ | e
    · rw [e, load_unchanged hreached.holds hsame hformat h]
    · rw [e]
  · rcases reload_cases state bytes with ⟨format, hformat, h, e⟩ | e
    · rw [e]
      exact iff_of_true rfl (.inr (unchanged_iff.mp h).1)
    · rw [e]
      exact Bool.or_eq_true _ _ ▸ Iff.rfl

def onePixel : RgbFrame := ⟨.rgb888, 1, 1, 7, [1, 2, 3]⟩

/-- A file that is the frame in memory is not read again. -/
theorem reload_same_file :
    (onePixel.stored.reloadIfChanged (.content onePixel.encode)).2 =
      (onePixel.stored.load onePixel.encode).2 := by
  have hl : RgbFrame.load onePixel.encode = some onePixel := by decide
  have hr : onePixel.stored.Reached :=
    (show (FrameState.reset.load onePixel.encode).2 = onePixel.stored by decide) ▸
      FrameState.Reached.loaded onePixel.encode .created
  refine (reload_refines_load hr ?_).1
  intro frame hf hb _ _ _ _ _
  have hf' := load_encode (documented_iff.mp hf).1
  rw [← hb, hl] at hf'
  exact congrArg RgbFrame.pixels (Option.some.inj hf').symm

end Vcam
