import AndroidVcam.Frame.Sampling

/-!
# Rotations and layouts

`RgbFrame::mapCoordinate` first turns a target coordinate into a coordinate of the unrotated image.
`RgbFrame::fillYuv420` and `PatternGenerator::fillYuv420` write the samples of an image into three
planes, at offsets that they take from a layout of the graphics buffer. They check that the rows of
the luma plane do not overlap and ask nothing of the kind of the chroma planes.

* **`rotation_exact`**: every rotation is one-to-one, and the opposite rotation undoes it;
* `injOn_offset_iff`: when the samples of a grid have distinct offsets;
* **`distinct_iff_spread`**: no sample is overwritten exactly when the chroma planes are wide or
  flat enough for their strides.
-/

namespace Vcam

/-! ## Rotation -/

/-- The beginning of `mapCoordinate`: the logical size and the logical coordinate. -/
def mapLogical (rotationDegrees : ℤ) (target point : UInt32 × UInt32) :
    (UInt32 × UInt32) × (UInt32 × UInt32) :=
  let (targetWidth, targetHeight) := target
  let (x, y) := point
  if rotationDegrees = -90 ∨ rotationDegrees = 270 then
    ((targetHeight, targetWidth), (targetHeight - 1 - y, x))
  else if rotationDegrees = 90 ∨ rotationDegrees = -270 then
    ((targetHeight, targetWidth), (y, targetWidth - 1 - x))
  else if rotationDegrees = 180 ∨ rotationDegrees = -180 then
    (target, (targetWidth - 1 - x, targetHeight - 1 - y))
  else (target, point)

def grid (size : UInt32 × UInt32) : Set (UInt32 × UInt32) := {p | p.1 < size.1 ∧ p.2 < size.2}

/-- The logical size, which does not depend on the coordinate. -/
def logicalSize (rotationDegrees : ℤ) (target : UInt32 × UInt32) : UInt32 × UInt32 :=
  (mapLogical rotationDegrees target (0, 0)).1

def rotate (rotationDegrees : ℤ) (target point : UInt32 × UInt32) : UInt32 × UInt32 :=
  (mapLogical rotationDegrees target point).2

theorem toNat_flip {n x : UInt32} (h : x < n) : (n - 1 - x).toNat = n.toNat - 1 - x.toNat := by
  have hx := UInt32.lt_iff_toNat_lt.mp h
  have hn : (n - 1).toNat = n.toNat - 1 :=
    UInt32.toNat_sub_of_le _ _ (UInt32.le_iff_toNat_le.mpr (show 1 ≤ n.toNat by omega))
  rw [UInt32.toNat_sub_of_le _ _ (UInt32.le_iff_toNat_le.mpr (by omega)), hn]

theorem flip_lt {n x : UInt32} (h : x < n) : n - 1 - x < n := by
  have hx := UInt32.lt_iff_toNat_lt.mp h
  rw [UInt32.lt_iff_toNat_lt, toNat_flip h]
  omega

theorem flip_flip {n x : UInt32} (h : x < n) : n - 1 - (n - 1 - x) = x := by
  have hx := UInt32.lt_iff_toNat_lt.mp h
  rw [← UInt32.toNat_inj, toNat_flip (flip_lt h), toNat_flip h]
  omega

/-- A rotation is one of four maps, and the opposite rotation one that undoes it. -/
theorem mapLogical_cases (r : ℤ) :
    ((∀ t p, mapLogical r t p = ((t.2, t.1), (t.2 - 1 - p.2, p.1))) ∧
      ∀ t p, mapLogical (-r) t p = ((t.2, t.1), (p.2, t.1 - 1 - p.1))) ∨
    ((∀ t p, mapLogical r t p = ((t.2, t.1), (p.2, t.1 - 1 - p.1))) ∧
      ∀ t p, mapLogical (-r) t p = ((t.2, t.1), (t.2 - 1 - p.2, p.1))) ∨
    ((∀ t p, mapLogical r t p = (t, (t.1 - 1 - p.1, t.2 - 1 - p.2))) ∧
      ∀ t p, mapLogical (-r) t p = (t, (t.1 - 1 - p.1, t.2 - 1 - p.2))) ∨
    ((∀ t p, mapLogical r t p = (t, p)) ∧ ∀ t p, mapLogical (-r) t p = (t, p)) := by
  by_cases h1 : r = -90 ∨ r = 270
  · refine .inl ⟨fun t p => if_pos h1, fun t p => ?_⟩
    rw [mapLogical, if_neg (by omega), if_pos (by omega)]
  by_cases h2 : r = 90 ∨ r = -270
  · refine .inr (.inl ⟨fun t p => ?_, fun t p => if_pos (by omega)⟩)
    rw [mapLogical, if_neg h1, if_pos h2]
  by_cases h3 : r = 180 ∨ r = -180
  · refine .inr (.inr (.inl ⟨fun t p => ?_, fun t p => ?_⟩))
    · rw [mapLogical, if_neg h1, if_neg h2, if_pos h3]
    · rw [mapLogical, if_neg (by omega), if_neg (by omega), if_pos (by omega)]
  · refine .inr (.inr (.inr ⟨fun t p => ?_, fun t p => ?_⟩))
    · rw [mapLogical, if_neg h1, if_neg h2, if_neg h3]
    · rw [mapLogical, if_neg (by omega), if_neg (by omega), if_neg (by omega)]

theorem mapsTo_rotate (r : ℤ) (t : UInt32 × UInt32) :
    Set.MapsTo (rotate r t) (grid t) (grid (logicalSize r t)) := by
  rintro p ⟨hx, hy⟩
  obtain ⟨hr, -⟩ | ⟨hr, -⟩ | ⟨hr, -⟩ | ⟨hr, -⟩ := mapLogical_cases r <;>
    rw [rotate, logicalSize, hr, hr]
  · exact ⟨flip_lt hy, hx⟩
  · exact ⟨hy, flip_lt hx⟩
  · exact ⟨flip_lt hx, flip_lt hy⟩
  · exact ⟨hx, hy⟩

theorem logicalSize_neg (r : ℤ) (t : UInt32 × UInt32) :
    logicalSize (-r) (logicalSize r t) = t := by
  obtain ⟨hr, hn⟩ | ⟨hr, hn⟩ | ⟨hr, hn⟩ | ⟨hr, hn⟩ := mapLogical_cases r <;>
    rw [logicalSize, logicalSize, hr, hn]

theorem leftInvOn_rotate (r : ℤ) (t : UInt32 × UInt32) :
    Set.LeftInvOn (rotate (-r) (logicalSize r t)) (rotate r t) (grid t) := by
  rintro p ⟨hx, hy⟩
  obtain ⟨hr, hn⟩ | ⟨hr, hn⟩ | ⟨hr, hn⟩ | ⟨hr, hn⟩ := mapLogical_cases r <;>
    rw [rotate, rotate, logicalSize, hn, hr, hr]
  · exact Prod.ext rfl (flip_flip hy)
  · exact Prod.ext (flip_flip hx) rfl
  · exact Prod.ext (flip_flip hx) (flip_flip hy)

/-- **Every rotation is one-to-one onto the logical grid**, the opposite rotation undoes it, and a
whole turn less is the same rotation. -/
theorem rotation_exact (r : ℤ) (t : UInt32 × UInt32) :
    Set.BijOn (rotate r t) (grid t) (grid (logicalSize r t)) ∧
      (∀ p, (mapLogical r t p).1 = logicalSize r t) ∧
      logicalSize (-r) (logicalSize r t) = t ∧
      Set.LeftInvOn (rotate (-r) (logicalSize r t)) (rotate r t) (grid t) ∧
      mapLogical 90 = mapLogical (90 - 360) ∧ mapLogical 180 = mapLogical (180 - 360) ∧
      mapLogical 270 = mapLogical (270 - 360) := by
  have hl := leftInvOn_rotate r t
  have hb := leftInvOn_rotate (-r) (logicalSize r t)
  have hm := mapsTo_rotate (-r) (logicalSize r t)
  rw [neg_neg, logicalSize_neg] at hb
  rw [logicalSize_neg] at hm
  refine ⟨Set.InvOn.bijOn ⟨hl, hb⟩ (mapsTo_rotate r t) hm, fun p => ?_, logicalSize_neg r t, hl,
    rfl, rfl, rfl⟩
  obtain ⟨hr, -⟩ | ⟨hr, -⟩ | ⟨hr, -⟩ | ⟨hr, -⟩ := mapLogical_cases r <;> rw [logicalSize, hr, hr]

/-! ## Layouts -/

/-- `Yuv420Layout`; a pointer is an address, zero for null. -/
structure Yuv420Layout where
  y : ℕ
  cb : ℕ
  cr : ℕ
  yStride : ℕ
  cStride : ℕ
  chromaStep : ℕ
  yStep : ℕ := 1

def acceptsLayout (width height : ℕ) (layout : Yuv420Layout) : Bool :=
  !(width == 0 || height == 0 || layout.y == 0 || layout.cb == 0 || layout.cr == 0 ||
    layout.yStep == 0 || decide (layout.yStride < ((width - 1) * layout.yStep + 1) % 2 ^ 64) ||
    layout.cStride == 0 || layout.chromaStep == 0)

/-- The offset of a sample in a plane, from the pointer of the plane on. -/
def planeOffset (stride step : ℕ) (place : ℕ × ℕ) : ℕ :=
  (place.1 * stride + place.2 * step) % 2 ^ 64

/-- What is written to a plane, row by row; `none` is a sample that was read outside its frame. -/
def fillPlane (width height stride step : ℕ) (value : ℕ → ℕ → Option UInt8) :
    List (ℕ × Option UInt8) :=
  (List.range height ×ˢ List.range width).map fun place =>
    (planeOffset stride step place, value place.2 place.1)

structure PlaneWrites where
  luma : List (ℕ × Option UInt8)
  cb : List (ℕ × Option UInt8)
  cr : List (ℕ × Option UInt8)

def fillPlanes (width height : ℕ) (layout : Yuv420Layout) (sample : ℕ → ℕ → Option Yuv) :
    PlaneWrites where
  luma := fillPlane width height layout.yStride layout.yStep fun x y => (sample x y).map (·.y)
  cb := fillPlane (width / 2) (height / 2) layout.cStride layout.chromaStep fun x y =>
    (sample (x * 2) (y * 2)).map (·.cb)
  cr := fillPlane (width / 2) (height / 2) layout.cStride layout.chromaStep fun x y =>
    (sample (x * 2) (y * 2)).map (·.cr)

/-- `RgbFrame::fillYuv420` with what `mapCoordinate` makes of a coordinate. -/
def FrameState.fillYuv420 (state : FrameState) (mapped : ℕ → ℕ → Option (ℕ × ℕ))
    (width height : ℕ) (layout : Yuv420Layout) : Option PlaneWrites :=
  if !state.valid || !acceptsLayout width height layout then none
  else some (fillPlanes width height layout fun x y => state.sampleYuv (mapped x y))

namespace PatternGenerator

def kBars : List (ℤ × ℤ × ℤ) :=
  [(255, 255, 255), (255, 255, 0), (0, 255, 255), (0, 255, 0), (255, 0, 255), (255, 0, 0),
    (0, 0, 255), (0, 0, 0)]

def colorAt (width height x y frameNumber : ℕ) (cameraId : ℤ) : ℤ × ℤ × ℤ :=
  let shiftedX := if width = 0 then 0 else (x + frameNumber * 3 % 2 ^ 64 % width) % 2 ^ 32 % width
  let bar := if width = 0 then 0 else min 7 (shiftedX * 8 % 2 ^ 32 / width)
  let stripHeight := max 1 (height / 12)
  let stripTop := if height = 0 then 0 else frameNumber * 2 % 2 ^ 64 % height
  let gray : ℤ := (x + frameNumber) % 256
  if cameraId = 1 ∧ x < width / 16 then (255, 96, 32)
  else if stripTop ≤ y ∧ y < min height ((stripTop + stripHeight) % 2 ^ 32) then (gray, gray, gray)
  else kBars.getD bar (0, 0, 0)

/-- The three values that the loops of `fillYuv420` compute from a color. -/
def toYuv : ℤ × ℤ × ℤ → Yuv
  | (r, g, b) => ⟨clamp ((77 * r + 150 * g + 29 * b) >>> 8),
      clamp (128 + (-43 * r - 85 * g + 128 * b) >>> 8),
      clamp (128 + (128 * r - 107 * g - 21 * b) >>> 8)⟩

def fillYuv420 (width height frameNumber : ℕ) (cameraId : ℤ) (layout : Yuv420Layout) :
    Option PlaneWrites :=
  if !acceptsLayout width height layout then none
  else some (fillPlanes width height layout fun x y =>
    some (toYuv (colorAt width height x y frameNumber cameraId)))

end PatternGenerator

/-! ## Offsets -/

/-- No two samples of a plane are written to one offset. -/
structure PlaneWrites.Distinct (writes : PlaneWrites) : Prop where
  luma : (writes.luma.map Prod.fst).Nodup
  cb : (writes.cb.map Prod.fst).Nodup
  cr : (writes.cr.map Prod.fst).Nodup

/-- The arithmetic on sizes and offsets does not overflow. -/
structure NoOverflow (width height : ℕ) (layout : Yuv420Layout) : Prop where
  row : (width - 1) * layout.yStep + 1 < 2 ^ 64
  luma : (height - 1) * layout.yStride + (width - 1) * layout.yStep < 2 ^ 64
  chroma : (height / 2 - 1) * layout.cStride + (width / 2 - 1) * layout.chromaStep < 2 ^ 64

/-- A chroma row ends before the next one that can meet it, or there are fewer rows. -/
def Spread (width height : ℕ) (layout : Yuv420Layout) : Prop :=
  width / 2 ≤ layout.cStride / layout.cStride.gcd layout.chromaStep ∨
    height / 2 ≤ layout.chromaStep / layout.cStride.gcd layout.chromaStep

variable {width height stride step : ℕ}

/-- Two samples with one offset, the second `k` rows below the first. -/
theorem eq_of_offset_eq (hs : 0 < stride) (ht : 0 < step)
    (h : width ≤ stride / stride.gcd step ∨ height ≤ step / stride.gcd step) {x x' k : ℕ}
    (hx : x < width) (hk : k < height) (he : x * step = k * stride + x' * step) :
    k = 0 ∧ x = x' := by
  have hg := Nat.gcd_pos_of_pos_left step hs
  have hc := Nat.coprime_div_gcd_div_gcd hg
  obtain ⟨s, hs'⟩ := stride.gcd_dvd_left step
  obtain ⟨t, ht'⟩ := stride.gcd_dvd_right step
  generalize stride.gcd step = g at *
  subst hs' ht'
  rw [Nat.mul_div_cancel_left _ hg, Nat.mul_div_cancel_left _ hg] at h hc
  have he : x * t = k * s + x' * t := by
    refine Nat.eq_of_mul_eq_mul_left hg ?_
    rw [Nat.mul_add, Nat.mul_left_comm, he, Nat.mul_left_comm, Nat.mul_left_comm g x']
  have hs := Nat.pos_of_mul_pos_left hs
  have ht := Nat.pos_of_mul_pos_left ht
  have hd : (x - x') * t = k * s := by
    rw [Nat.sub_mul]
    omega
  have hle : x' ≤ x := Nat.le_of_mul_le_mul_right (by omega) ht
  rcases h with hw | hh
  · have hz := Nat.eq_zero_of_dvd_of_lt (hc.dvd_of_dvd_mul_right ⟨k, by rw [hd, Nat.mul_comm]⟩)
      (show x - x' < s by omega)
    rw [hz, Nat.zero_mul, eq_comm, Nat.mul_eq_zero] at hd
    omega
  · have hz := Nat.eq_zero_of_dvd_of_lt (hc.symm.dvd_of_dvd_mul_right ⟨x - x', by
      rw [← hd, Nat.mul_comm]⟩) (show k < t by omega)
    rw [hz, Nat.zero_mul, Nat.mul_eq_zero] at hd
    omega

/-- **The samples of a grid have distinct offsets exactly when it is narrow or flat enough.** -/
theorem injOn_offset_iff (hs : 0 < stride) (ht : 0 < step) :
    Set.InjOn (fun p : ℕ × ℕ => p.1 * stride + p.2 * step) {p | p.1 < height ∧ p.2 < width} ↔
      width ≤ stride / stride.gcd step ∨ height ≤ step / stride.gcd step := by
  constructor
  · intro h
    by_contra hn
    rw [not_or, not_le, not_le] at hn
    have hg := Nat.gcd_pos_of_pos_left step hs
    have hm : step / stride.gcd step * stride + 0 * step =
        0 * stride + stride / stride.gcd step * step := by
      rw [Nat.zero_mul, Nat.zero_mul, Nat.add_zero, Nat.zero_add,
        Nat.div_mul_right_comm (stride.gcd_dvd_right step), Nat.mul_comm step,
        Nat.div_mul_right_comm (stride.gcd_dvd_left step)]
    have he := h (show (step / stride.gcd step, 0) ∈ {p : ℕ × ℕ | _} from
      ⟨hn.2, Nat.zero_lt_of_lt hn.1⟩)
      (show (0, stride / stride.gcd step) ∈ {p : ℕ × ℕ | _} from
      ⟨Nat.zero_lt_of_lt hn.2, hn.1⟩) hm
    have hz := Nat.div_pos (Nat.le_of_dvd hs (stride.gcd_dvd_left step)) hg
    exact hz.ne (Prod.mk.inj he).2
  · rintro h ⟨y, x⟩ ⟨hy, hx⟩ ⟨y', x'⟩ ⟨hy', hx'⟩ he
    dsimp only at he hy hx hy' hx'
    rcases le_total y y' with hle | hle
    · obtain ⟨k, rfl⟩ := Nat.exists_eq_add_of_le hle
      have hs' : x * step = k * stride + x' * step := by
        rw [Nat.add_mul] at he
        omega
      obtain ⟨rfl, rfl⟩ := eq_of_offset_eq hs ht h hx (by omega) hs'
      rfl
    · obtain ⟨k, rfl⟩ := Nat.exists_eq_add_of_le hle
      have hs' : x' * step = k * stride + x * step := by
        rw [Nat.add_mul] at he
        omega
      obtain ⟨rfl, rfl⟩ := eq_of_offset_eq hs ht h hx' (by omega) hs'
      rfl

theorem nodup_fillPlane_iff (hs : 0 < stride) (ht : 0 < step) (v : ℕ → ℕ → Option UInt8)
    (hb : (height - 1) * stride + (width - 1) * step < 2 ^ 64) :
    ((fillPlane width height stride step v).map Prod.fst).Nodup ↔
      width ≤ stride / stride.gcd step ∨ height ≤ step / stride.gcd step := by
  rw [← injOn_offset_iff hs ht, fillPlane, List.map_map,
    List.nodup_map_iff_inj_on (List.nodup_range.product List.nodup_range)]
  have hmem (p : ℕ × ℕ) : p ∈ List.range height ×ˢ List.range width ↔
      p ∈ {p : ℕ × ℕ | p.1 < height ∧ p.2 < width} := by
    rw [List.mem_product, List.mem_range, List.mem_range, Set.mem_ofPred_eq]
  have ho (p : ℕ × ℕ) (hp : p ∈ {p : ℕ × ℕ | p.1 < height ∧ p.2 < width}) :
      planeOffset stride step p = p.1 * stride + p.2 * step := by
    refine Nat.mod_eq_of_lt (lt_of_le_of_lt (Nat.add_le_add ?_ ?_) hb)
    · exact Nat.mul_le_mul_right _ (Nat.le_sub_one_of_lt hp.1)
    · exact Nat.mul_le_mul_right _ (Nat.le_sub_one_of_lt hp.2)
  constructor
  · intro h p hp q hq he
    refine h p ((hmem p).mpr hp) q ((hmem q).mpr hq) ?_
    exact (ho p hp).trans (he.trans (ho q hq).symm)
  · intro h p hp q hq he
    rw [hmem] at hp hq
    exact h hp hq ((ho p hp).symm.trans (he.trans (ho q hq)))

theorem le_of_row (ht : 0 < step) (h : (width - 1) * step + 1 ≤ stride) :
    width ≤ stride / stride.gcd step := by
  have hg := Nat.gcd_pos_of_pos_right stride ht
  have hw : (width - 1) * stride.gcd step < stride / stride.gcd step * stride.gcd step := by
    rw [Nat.div_mul_cancel (stride.gcd_dvd_left step)]
    exact (Nat.mul_le_mul_left _ (Nat.le_of_dvd ht (stride.gcd_dvd_right step))).trans_lt h
  have hl := Nat.lt_of_mul_lt_mul_right hw
  omega

/-- **An accepted layout is not overwritten by itself exactly when its chroma rows are spread.** -/
theorem distinct_iff_spread (state : FrameState) (mapped : ℕ → ℕ → Option (ℕ × ℕ))
    (frameNumber : ℕ) (cameraId : ℤ) {layout : Yuv420Layout} {writes : PlaneWrites}
    (h : state.fillYuv420 mapped width height layout = some writes ∨
      PatternGenerator.fillYuv420 width height frameNumber cameraId layout = some writes)
    (hn : NoOverflow width height layout) : writes.Distinct ↔ Spread width height layout := by
  obtain ⟨ha, sample, rfl⟩ : acceptsLayout width height layout = true ∧
      ∃ sample, fillPlanes width height layout sample = writes := by
    rcases h with h | h
    · rw [FrameState.fillYuv420] at h
      split_ifs at h with hc
      rw [Bool.or_eq_true, not_or] at hc
      exact ⟨by simpa using hc.2, _, Option.some.inj h⟩
    · rw [PatternGenerator.fillYuv420] at h
      split_ifs at h with hc
      exact ⟨by simpa using hc, _, Option.some.inj h⟩
  simp only [acceptsLayout, Bool.not_eq_true', Bool.or_eq_false_iff, beq_eq_false_iff_ne,
    decide_eq_false_iff_not, not_lt, Nat.mod_eq_of_lt hn.row] at ha
  obtain ⟨⟨⟨⟨-, hy⟩, hw⟩, hs⟩, hc⟩ := ha
  have hst := Nat.pos_of_ne_zero hs
  have hct := Nat.pos_of_ne_zero hc
  have hys := Nat.pos_of_ne_zero hy
  have hl := nodup_fillPlane_iff (by omega) hys (fun x y => (sample x y).map (·.y)) hn.luma
  have hb := nodup_fillPlane_iff hst hct (fun x y => (sample (x * 2) (y * 2)).map (·.cb)) hn.chroma
  have hr := nodup_fillPlane_iff hst hct (fun x y => (sample (x * 2) (y * 2)).map (·.cr)) hn.chroma
  exact ⟨fun hd => hb.mp hd.cb, fun hp => ⟨hl.mpr (.inl (le_of_row hys hw)), hb.mpr hp, hr.mpr hp⟩⟩

def tightLayout : Yuv420Layout := ⟨1, 100, 200, 4, 1, 1, 1⟩

theorem tightLayout_overwritten :
    acceptsLayout 4 4 tightLayout = true ∧ NoOverflow 4 4 tightLayout ∧
      ∀ writes, PatternGenerator.fillYuv420 4 4 0 0 tightLayout = some writes →
        ¬writes.Distinct := by
  refine ⟨by decide, ⟨by decide, by decide, by decide⟩, fun writes h hd => ?_⟩
  obtain rfl := Option.some.inj h
  exact absurd hd.cb (by decide)

/-- The layout of an interleaved chroma plane. -/
theorem distinct_iff_spread_interleaved :
    ∃ writes, PatternGenerator.fillYuv420 4 4 0 0 ⟨1, 100, 101, 4, 4, 2, 1⟩ = some writes ∧
      (writes.Distinct ↔ Spread 4 4 ⟨1, 100, 101, 4, 4, 2, 1⟩) :=
  ⟨_, rfl, distinct_iff_spread FrameState.reset (fun _ _ => none) 0 0 (.inr rfl)
    ⟨by decide, by decide, by decide⟩⟩

end Vcam
