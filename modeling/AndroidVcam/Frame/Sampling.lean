import AndroidVcam.Frame.Streamer

/-!
# The samples of a frame

`RgbFrame::sampleYuv` and `RgbFrame::sampleRgb` read the pixels of the frame in memory by flat
offsets and check none of them. What keeps the offsets inside is the state of the object: after any
calls of `load` and `reloadIfChanged` it holds nothing, or a frame that `load` has accepted.

* `sampleIndexes_lt`: the offsets are inside the payload of the frame;
* **`sampling_in_bounds`**: no sample of a valid object is read outside its pixels.
-/

namespace Vcam

/-! ## Samples -/

structure Rgb where
  r : UInt8
  g : UInt8
  b : UInt8
deriving DecidableEq

def toRgb (value : Yuv) : Rgb :=
  let y : ℤ := max 0 ((value.y.toNat : ℤ) - 16)
  let cb : ℤ := (value.cb.toNat : ℤ) - 128
  let cr : ℤ := (value.cr.toNat : ℤ) - 128
  ⟨clamp ((298 * y + 409 * cr + 128) >>> 8),
    clamp ((298 * y - 100 * cb - 208 * cr + 128) >>> 8),
    clamp ((298 * y + 516 * cb + 128) >>> 8)⟩

namespace RgbFrame

/-- `sampleRgb` with the result of `mapCoordinate`; `none` is a read outside the pixels. -/
def sampleRgb (frame : RgbFrame) (mapped : Option (ℕ × ℕ)) : Option Rgb :=
  match frame.format with
  | .i420 => (frame.sampleYuv mapped).map toRgb
  | .rgb888 =>
    match mapped with
    | none => some ⟨0, 0, 0⟩
    | some (sourceX, sourceY) => do
      let offset := (sourceY * frame.width + sourceX) * 3
      return ⟨← frame.pixels[offset]?, ← frame.pixels[offset + 1]?, ← frame.pixels[offset + 2]?⟩

/-- The offsets at which both functions read for a source coordinate. -/
def sampleIndexes (frame : RgbFrame) (sourceX sourceY : ℕ) : List ℕ :=
  let pixel := sourceY * frame.width + sourceX
  match frame.format with
  | .i420 =>
    let ySize := frame.width * frame.height
    let chromaOffset := sourceY / 2 * (frame.width / 2) + sourceX / 2
    [pixel, ySize + chromaOffset, ySize + ySize / 4 + chromaOffset]
  | .rgb888 => [pixel * 3, pixel * 3 + 1, pixel * 3 + 2]

end RgbFrame

variable {frame : RgbFrame} {sourceX sourceY : ℕ}

theorem quarter_of_even {width height : ℕ} (hw : width % 2 = 0) (hh : height % 2 = 0) :
    width / 2 * (height / 2) = width * height / 4 := by
  obtain ⟨w, rfl⟩ := Nat.dvd_of_mod_eq_zero hw
  obtain ⟨h, rfl⟩ := Nat.dvd_of_mod_eq_zero hh
  have hp : 2 * w * (2 * h) = 4 * (w * h) := by ring
  rw [hp, Nat.mul_div_cancel_left _ (by norm_num), Nat.mul_div_cancel_left _ (by norm_num),
    Nat.mul_div_cancel_left _ (by norm_num)]

theorem even_of_expectedPayload {w height : ℕ} (h : expectedPayload .i420 w height ≠ 0) :
    w % 2 = 0 ∧ height % 2 = 0 := by
  by_contra hodd
  exact h (if_neg hodd)

/-- The offsets of a sample are inside a payload of the frame's size. -/
theorem sampleIndexes_lt (hp : frame.pixels.length =
      expectedPayload frame.format frame.width frame.height) (hpi : frame.pixels ≠ [])
    (hx : sourceX < frame.width) (hy : sourceY < frame.height) :
    ∀ index ∈ frame.sampleIndexes sourceX sourceY, index < frame.pixels.length := by
  have hpx := Checked.grid_lt hx hy
  have hpo : frame.pixels.length ≠ 0 := List.length_eq_zero_iff.not.mpr hpi
  intro index hi
  rw [RgbFrame.sampleIndexes] at hi
  cases hf : frame.format with
  | rgb888 =>
    rw [hf] at hp hi
    rw [hp, expectedPayload]
    simp only [List.mem_cons, List.not_mem_nil, or_false] at hi
    omega
  | i420 =>
    rw [hf] at hp hi
    obtain ⟨hw, hh⟩ := even_of_expectedPayload (hp ▸ hpo)
    have hc := Checked.grid_lt (show sourceX / 2 < frame.width / 2 by omega)
      (show sourceY / 2 < frame.height / 2 by omega)
    have hq := quarter_of_even hw hh
    rw [hp, expectedPayload, if_pos ⟨hw, hh⟩]
    simp only [List.mem_cons, List.not_mem_nil, or_false] at hi
    omega

/-- A sample whose offsets are inside the pixels is read. -/
theorem isSome_sample (h : ∀ index ∈ frame.sampleIndexes sourceX sourceY, index < frame.pixels.length) :
    (frame.sampleYuv (some (sourceX, sourceY))).isSome = true ∧
      (frame.sampleRgb (some (sourceX, sourceY))).isSome = true := by
  rw [RgbFrame.sampleIndexes] at h
  cases hf : frame.format with
  | rgb888 =>
    rw [hf] at h
    simp only [List.forall_mem_cons] at h
    obtain ⟨hr, hg, hb, -⟩ := h
    simp [RgbFrame.sampleYuv, RgbFrame.sampleRgb, hf, hr, hg, hb]
  | i420 =>
    rw [hf] at h
    simp only [List.forall_mem_cons] at h
    obtain ⟨hl, hbl, hred, -⟩ := h
    simp [RgbFrame.sampleYuv, RgbFrame.sampleRgb, hf, hl, hbl, hred]

/-! ## The object in memory -/

namespace FrameState

/-- The members as the two functions see them: what is not I420 is sampled as RGB. -/
def sampled (state : FrameState) : RgbFrame :=
  ⟨state.format.getD .rgb888, state.width, state.height, state.sequence, state.pixels⟩

def sampleYuv (state : FrameState) (mapped : Option (ℕ × ℕ)) : Option Yuv :=
  state.sampled.sampleYuv mapped

def sampleRgb (state : FrameState) (mapped : Option (ℕ × ℕ)) : Option Rgb :=
  state.sampled.sampleRgb mapped

def sampleIndexes (state : FrameState) (sourceX sourceY : ℕ) : List ℕ :=
  state.sampled.sampleIndexes sourceX sourceY

end FrameState

open FrameState

variable {state : FrameState}

/-- **No sample of a valid object is read outside its pixels**, whatever was loaded before. -/
theorem sampling_in_bounds (hreached : state.Reached) (hvalid : state.valid = true) :
    ∃ format, state.format = some format ∧
      state.pixels.length = expectedPayload format state.width state.height ∧
      (1 ≤ state.width ∧ state.width ≤ 4096) ∧ (1 ≤ state.height ∧ state.height ≤ 4096) ∧
      (format = .i420 → Even state.width ∧ Even state.height) ∧
      ∀ sourceX < state.width, ∀ sourceY < state.height,
        (∀ index ∈ state.sampleIndexes sourceX sourceY, index < state.pixels.length) ∧
        (state.sampleYuv (some (sourceX, sourceY))).isSome = true ∧
        (state.sampleRgb (some (sourceX, sourceY))).isSome = true := by
  obtain ⟨frame, hf, rfl⟩ := hreached.holds hvalid
  have hp : frame.pixels ≠ [] := by
    rintro e
    rw [FrameState.valid, RgbFrame.stored, e] at hvalid
    cases hvalid
  refine ⟨frame.format, rfl, hf.payload, ⟨hf.width_pos, hf.width_le⟩,
    ⟨hf.height_pos, hf.height_le⟩, ?_, ?_⟩
  · exact (documented_iff.mpr ⟨hf, hp⟩).even
  · intro sourceX hx sourceY hy
    have hi := sampleIndexes_lt hf.payload hp hx hy
    exact ⟨hi, isSome_sample hi⟩

/-- Three planes with different bytes. -/
def wideFrame : RgbFrame := ⟨.i420, 32, 2, 7, (List.range 96).map Nat.toUInt8⟩

theorem sampling_in_bounds_wideFrame :
    (reset.load wideFrame.encode).2.Reached ∧ (reset.load wideFrame.encode).2.valid = true ∧
      (∀ index ∈ (reset.load wideFrame.encode).2.sampleIndexes 31 1, index < 96) ∧
      ((reset.load wideFrame.encode).2.sampleYuv (some (31, 1))).isSome = true := by
  have hl : (reset.load wideFrame.encode).2 = wideFrame.stored := by decide +kernel
  have hr : (reset.load wideFrame.encode).2.Reached := .loaded _ .created
  have hv : (reset.load wideFrame.encode).2.valid = true := by rw [hl]; rfl
  obtain ⟨-, -, -, -, -, -, hall⟩ := sampling_in_bounds hr hv
  obtain ⟨hi, hs, -⟩ := hall 31 (by rw [hl]; decide) 1 (by rw [hl]; decide)
  exact ⟨hr, hv, fun index h => lt_of_lt_of_eq (hi index h) (by rw [hl]; rfl), hs⟩

end Vcam
