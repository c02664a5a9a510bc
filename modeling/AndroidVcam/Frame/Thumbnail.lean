import AndroidVcam.Frame.Grammar
import AndroidVcam.Frame.Sampling

/-!
# Thumbnails

`thumbnail_frame` of `native/frame_publisher.c` shrinks a frame to given bounds, row after row, and
converts it to RGB on the way. The model checks every operation: an overflow, a division by zero or an
access outside a buffer makes the result `none`.

* `thumbnailOf`, **`thumbnail_correct`**.
-/

namespace Vcam

open TextFile Wire Checked FramePublisher List

/-! ## The program -/

def isProviderPath (path : Text) : Bool :=
  kProviderPrefix.isPrefixOf path && decide (kProviderPrefix.length < path.length) &&
    !path.tails.any ("..".toList.isPrefixOf ·)

def clampByte (value : ℤ) : UInt8 :=
  if value < 0 then 0 else if 255 < value then 255 else value.toNat.toUInt8

namespace Thumbnail

/-- `(uint32_t)(((uint64_t)a * b) / c)`. -/
def proportion (a b c : ℕ) : Option ℕ := do unsigned 32 (← quotient (← unsigned 64 (a * b)) c)

/-- The size of the output: first the width is made to fit, then the height. -/
def scaled (width height maxWidth maxHeight : ℕ) : Option (ℕ × ℕ) := do
  let (outputWidth, outputHeight) ←
    if maxWidth < width then do pure (maxWidth, ← proportion height maxWidth width)
    else pure (width, height)
  let (outputWidth, outputHeight) ←
    if maxHeight < outputHeight then do
      pure (← proportion outputWidth maxHeight outputHeight, maxHeight)
    else pure (outputWidth, outputHeight)
  return (if outputWidth = 0 then 1 else outputWidth, if outputHeight = 0 then 1 else outputHeight)

/-- The conversion of one sample, in the order of its operations. -/
def convert (luma blue red : UInt8) : Option Bytes := do
  let yValue : ℤ := if 16 < luma.toNat then (luma.toNat : ℤ) - 16 else 0
  let cb : ℤ := (blue.toNat : ℤ) - 128
  let cr : ℤ := (red.toNat : ℤ) - 128
  return [clampByte ((← sum 32 [298 * yValue, 409 * cr, 128]) >>> 8),
    clampByte ((← sum 32 [298 * yValue, -(100 * cb), -(208 * cr), 128]) >>> 8),
    clampByte ((← sum 32 [298 * yValue, 516 * cb, 128]) >>> 8)]

def pixelBytes (format : FrameFormat) (width height : ℕ) (payload : Bytes)
    (sourceX sourceY : ℕ) : Option Bytes := do
  let pixel ← unsigned 64 ((← unsigned 64 (sourceY * width)) + sourceX)
  match format with
  | .rgb888 => copy payload (← unsigned 64 (pixel * 3)) 3
  | .i420 => do
    let ySize ← unsigned 64 (width * height)
    let chroma ← unsigned 64 ((← unsigned 64 (sourceY / 2 * (width / 2))) + sourceX / 2)
    let luma ← payload[pixel]?
    let blue ← payload[← unsigned 64 (ySize + chroma)]?
    let red ← payload[← unsigned 64 ((← unsigned 64 (ySize + ySize / 4)) + chroma)]?
    convert luma blue red

/-- Column `x` of a row: one pixel is put into the row buffer. -/
def putPixel (format : FrameFormat) (width height : ℕ) (payload : Bytes)
    (outputWidth sourceY : ℕ) (row : Bytes) (x : ℕ) : Option Bytes := do
  let sourceX ← proportion x width outputWidth
  store row (← unsigned 64 (x * 3)) (← pixelBytes format width height payload sourceX sourceY)

/-- Row `y`: the row buffer is filled again and written behind the rows before. -/
def putRow (format : FrameFormat) (width height : ℕ) (payload : Bytes)
    (outputWidth outputHeight : ℕ) (done : Bytes × Bytes) (y : ℕ) :
    Option (Bytes × Bytes) := do
  let sourceY ← proportion y height outputHeight
  let row ← (range outputWidth).foldlM
    (putPixel format width height payload outputWidth sourceY) done.1
  return (row, done.2 ++ row)

/-- The part behind the checks: the bytes that are written. `scratch` is what `malloc` left in the
row buffer. -/
def output (scratch : ℕ → UInt8) (source : Bytes) (format : FrameFormat)
    (maxWidth maxHeight : ℕ) : Option Bytes := do
  let width := readLe32 source 8
  let height := readLe32 source 12
  let payload := (source.drop headerSize).take (readLe32 source 16)
  let (outputWidth, outputHeight) ← scaled width height maxWidth maxHeight
  let outputPayload ← unsigned 32 ((← unsigned 32 (outputWidth * outputHeight)) * 3)
  let header := literal "VCAMRGB1" ++ (leBytes 4 outputWidth ++ (leBytes 4 outputHeight ++
    (leBytes 4 outputPayload ++ (source.take headerSize).drop 20)))
  let row := (range (← unsigned 64 (outputWidth * 3))).map scratch
  let done ← (range outputHeight).foldlM
    (putRow format width height payload outputWidth outputHeight) (row, header)
  return done.2

end Thumbnail

/-- `thumbnail_frame` on a regular source file, with file operations that succeed: the exit status and
the bytes that were moved to the destination. -/
def thumbnailFrame (scratch : ℕ → UInt8) (sourcePath destinationPath : Text) (source : Bytes)
    (maxWidth maxHeight : ℕ) : Option (ℕ × Option Bytes) :=
  if !isProviderPath sourcePath || !isProviderPath destinationPath || decide (maxWidth < 16) ||
      decide (maxHeight < 16) || decide (1024 < maxWidth) || decide (1024 < maxHeight) then
    some (64, none)
  else if 512 ≤ destinationPath.length + 4 then some (64, none)
  else
    match thumbnailSource source, formatFromMagic source with
    | 0, some format => do return (0, some (← Thumbnail.output scratch source format maxWidth maxHeight))
    | status, _ => some (status, none)

/-! ## The size -/

def thumbnailSize (width height maxWidth maxHeight : ℕ) : ℕ × ℕ :=
  let fitted := if maxWidth < width then height * maxWidth / width else height
  (max 1 (if maxHeight < fitted then min width maxWidth * maxHeight / fitted
      else min width maxWidth), max 1 (min fitted maxHeight))

structure ThumbnailBounds (maxWidth maxHeight : ℕ) : Prop where
  width_ge : 16 ≤ maxWidth
  height_ge : 16 ≤ maxHeight
  width_le : maxWidth ≤ 1024
  height_le : maxHeight ≤ 1024

variable {width height maxWidth maxHeight : ℕ}

theorem fitted_le (hw : 0 < width) :
    (if maxWidth < width then height * maxWidth / width else height) ≤ height := by
  split_ifs with h
  · calc height * maxWidth / width ≤ height * width / width :=
        Nat.div_le_div_right (Nat.mul_le_mul_left height h.le)
      _ = height := Nat.mul_div_cancel height hw
  · exact le_rfl

theorem max_one (n : ℕ) : (if n = 0 then 1 else n) = max 1 n := by
  split_ifs <;> omega

theorem unsigned_product {a b : ℕ} (ha : a ≤ 4096) (hb : b ≤ 4096) :
    unsigned 64 (a * b) = some (a * b) := by
  have hp := Nat.mul_le_mul ha hb
  exact unsigned_of_lt (by omega)

theorem proportion_eq {a b c : ℕ} (ha : a ≤ 4096) (hb : b ≤ 4096) (hc : 0 < c) :
    Thumbnail.proportion a b c = some (a * b / c) := by
  have hp := Nat.mul_le_mul ha hb
  have hq := Nat.div_le_self (a * b) c
  rw [Thumbnail.proportion, unsigned_product ha hb, Option.bind_eq_bind, Option.bind_some,
    quotient_of_pos hc]
  exact unsigned_of_lt (by omega)

/-- **The size is computed without overflow and without a division by zero.** -/
theorem scaled_eq (hb : ThumbnailBounds maxWidth maxHeight) (hw : 0 < width)
    (hma : width ≤ 4096) (hm : height ≤ 4096) :
    Thumbnail.scaled width height maxWidth maxHeight =
      some (thumbnailSize width height maxWidth maxHeight) := by
  obtain ⟨-, -, hwd, hh⟩ := hb
  have hf := @fitted_le width height maxWidth hw
  rw [Thumbnail.scaled, thumbnailSize]
  by_cases hwi : maxWidth < width
  on_goal 1 =>
    rw [if_pos hwi] at hf
    rw [if_pos hwi, if_pos hwi, proportion_eq hm (by omega) hw, min_eq_right hwi.le]
  on_goal 2 => rw [if_neg hwi, if_neg hwi, min_eq_left (by omega)]
  -- The height is fitted in the same way, whatever became of the width.
  all_goals
    simp only [Option.pure_def, Option.bind_eq_bind, Option.bind_some, max_one]
    split_ifs with ht
    · rw [proportion_eq (by omega) (by omega) (by omega), min_eq_right ht.le]
      rfl
    · rw [min_eq_left (Nat.le_of_not_lt ht)]

/-- The size is positive, inside the bounds and not larger than the source. -/
theorem thumbnailSize_le (hb : ThumbnailBounds maxWidth maxHeight) (hw : 0 < width)
    (hh : 0 < height) {w h : ℕ} (hs : thumbnailSize width height maxWidth maxHeight = (w, h)) :
    1 ≤ w ∧ w ≤ maxWidth ∧ w ≤ width ∧ 1 ≤ h ∧ h ≤ maxHeight ∧ h ≤ height := by
  obtain ⟨hwi, hhe, -, -⟩ := hb
  have hf := @fitted_le width height maxWidth hw
  obtain ⟨rfl, rfl⟩ := Prod.mk.inj hs
  generalize (if maxWidth < width then height * maxWidth / width else height) = fitted at *
  have hsh : (if maxHeight < fitted then min width maxWidth * maxHeight / fitted
      else min width maxWidth) ≤ min width maxWidth := by
    split_ifs with ht
    · calc min width maxWidth * maxHeight / fitted ≤ min width maxWidth * fitted / fitted :=
          Nat.div_le_div_right (Nat.mul_le_mul_left _ ht.le)
        _ = min width maxWidth := Nat.mul_div_cancel _ (by omega)
    · exact le_rfl
  omega

/-! ## The pixels -/

theorem clampByte_eq (value : ℤ) : clampByte value = clamp value := by
  rw [clampByte, clamp]
  split_ifs with hneg hbig
  · rw [max_eq_left (by omega)]
    rfl
  · rw [min_eq_left (by omega)]
    rfl
  · rw [min_eq_right (by omega), max_eq_right (by omega)]

def Rgb.bytes (value : Rgb) : Bytes := [value.r, value.g, value.b]

theorem convert_eq (luma blue red : UInt8) :
    Thumbnail.convert luma blue red = some (toRgb ⟨luma, blue, red⟩).bytes := by
  have hl := luma.toNat_lt
  have hb := blue.toNat_lt
  have hred := red.toNat_lt
  have hv : (if 16 < luma.toNat then (luma.toNat : ℤ) - 16 else 0) =
      max 0 ((luma.toNat : ℤ) - 16) := by
    split_ifs <;> omega
  rw [Thumbnail.convert, hv, sum_of_bound, sum_of_bound, sum_of_bound]
  · simp only [Option.pure_def, Option.bind_eq_bind, Option.bind_some, clampByte_eq, sum_cons,
      sum_nil, add_zero, toRgb, Rgb.bytes, ← add_assoc, sub_eq_add_neg]
  all_goals
    simp only [map_cons, map_nil, sum_cons, sum_nil]
    omega

variable {frame : RgbFrame} {sourceX sourceY : ℕ}

/-- **A pixel of the output is the sample of the source**, converted as the camera converts it. -/
theorem pixelBytes_eq (hframe : frame.Loadable) (hpixels : frame.pixels ≠ [])
    (hx : sourceX < frame.width) (hy : sourceY < frame.height) :
    ∃ value, frame.sampleRgb (some (sourceX, sourceY)) = some value ∧
      Thumbnail.pixelBytes frame.format frame.width frame.height frame.pixels sourceX sourceY =
        some value.bytes := by
  have hw : frame.width ≤ 4096 := hframe.width_le
  have hh : frame.height ≤ 4096 := hframe.height_le
  have hp := grid_lt hx hy
  have ha : frame.width * frame.height ≤ 4096 * 4096 := Nat.mul_le_mul hw hh
  have hi := sampleIndexes_lt hframe.payload hpixels hx hy
  have hle := hframe.pixels_lt
  rw [RgbFrame.sampleIndexes] at hi
  rw [RgbFrame.sampleRgb, Thumbnail.pixelBytes]
  cases hf : frame.format with
  | rgb888 =>
    rw [hf] at hi
    simp only [forall_mem_cons] at hi
    obtain ⟨hr, hg, hb, -⟩ := hi
    have hr' := getElem?_eq_getElem hr
    have hg' := getElem?_eq_getElem hg
    have hb' := getElem?_eq_getElem hb
    simp (disch := omega) only [unsigned_of_lt, Option.bind_eq_bind, Option.bind_some,
      copy_three hr' hg' hb', hr', hg', hb']
    exact ⟨_, rfl, rfl⟩
  | i420 =>
    rw [hf] at hi
    simp only [forall_mem_cons] at hi
    obtain ⟨hl, hbl, hred, -⟩ := hi
    have hl' := getElem?_eq_getElem hl
    have hbl' := getElem?_eq_getElem hbl
    have hre' := getElem?_eq_getElem hred
    simp (disch := omega) only [unsigned_of_lt, Option.bind_eq_bind, Option.bind_some, hl',
      hbl', hre', convert_eq, RgbFrame.sampleYuv, hf]
    exact ⟨_, rfl, rfl⟩

/-! ## The output -/

def thumbnailPixel (frame : RgbFrame) (width height x y : ℕ) : Rgb :=
  (frame.sampleRgb (some (x * frame.width / width, y * frame.height / height))).getD ⟨0, 0, 0⟩

def thumbnailRow (frame : RgbFrame) (width height y : ℕ) : Bytes :=
  (range width).flatMap fun x => (thumbnailPixel frame width height x y).bytes

/-- The frame that a thumbnail of the given size holds. -/
def thumbnailOf (frame : RgbFrame) (width height : ℕ) : RgbFrame where
  format := .rgb888
  width := width
  height := height
  sequence := frame.sequence
  pixels := (range height).flatMap (thumbnailRow frame width height)

@[simp] theorem Rgb.length_bytes (v : Rgb) : v.bytes.length = 3 := rfl

@[simp] theorem length_thumbnailRow (width height y : ℕ) :
    (thumbnailRow frame width height y).length = width * 3 :=
  length_rows fun _ _ => Rgb.length_bytes _

@[simp] theorem length_thumbnailOf (width height : ℕ) :
    (thumbnailOf frame width height).pixels.length = height * (width * 3) :=
  length_rows fun y _ => length_thumbnailRow width height y

theorem proportion_lt {x size t : ℕ} (hx : x < t) (hs : 0 < size) :
    x * size / t < size := by
  rw [Nat.div_lt_iff_lt_mul (by omega), Nat.mul_comm]
  exact Nat.mul_lt_mul_of_pos_left hx hs

section Output

variable {w h : ℕ} (hframe : frame.Loadable) (hpixels : frame.pixels ≠ [])

include hframe hpixels

theorem sampleRgb_thumbnailPixel {x y : ℕ} (hx : x < w) (hy : y < h) :
    frame.sampleRgb (some (x * frame.width / w, y * frame.height / h)) =
      some (thumbnailPixel frame w h x y) ∧
    Thumbnail.pixelBytes frame.format frame.width frame.height frame.pixels (x * frame.width / w)
      (y * frame.height / h) = some (thumbnailPixel frame w h x y).bytes := by
  obtain ⟨value, hs, hb⟩ := pixelBytes_eq hframe hpixels
    (proportion_lt hx hframe.width_pos) (proportion_lt hy hframe.height_pos)
  rw [thumbnailPixel, hs]
  exact ⟨rfl, hb⟩

/-- One column puts the next pixel behind those that are in place. -/
theorem putPixel_eq {k y : ℕ} {row : Bytes} (hw : w ≤ 1024) (hk : k < w) (hy : y < h)
    (hrow : row.length = w * 3) :
    Thumbnail.putPixel frame.format frame.width frame.height frame.pixels w (y * frame.height / h)
      ((range k).flatMap (fun x => (thumbnailPixel frame w h x y).bytes) ++ row.drop (k * 3)) k =
      some ((range (k + 1)).flatMap (fun x => (thumbnailPixel frame w h x y).bytes) ++
        row.drop ((k + 1) * 3)) := by
  have hm : frame.width ≤ 4096 := hframe.width_le
  have hd : ((range k).flatMap fun x => (thumbnailPixel frame w h x y).bytes).length =
      k * 3 := length_rows fun _ _ => Rgb.length_bytes _
  have hs := @store_append _ ((range k).flatMap fun x =>
    (thumbnailPixel frame w h x y).bytes) (row.drop (k * 3)) (thumbnailPixel frame w h k y).bytes
    (by rw [length_drop, Rgb.length_bytes]; omega)
  rw [hd, drop_drop, Rgb.length_bytes] at hs
  rw [Thumbnail.putPixel, proportion_eq (by omega) hm (by omega), Option.bind_eq_bind,
    Option.bind_some, unsigned_of_lt (by omega), Option.bind_eq_bind, Option.bind_some,
    (sampleRgb_thumbnailPixel hframe hpixels hk hy).2, range_succ, flatMap_append,
    flatMap_singleton, Nat.succ_mul]
  exact hs

/-- One row is written behind the rows before, whatever was in the row buffer. -/
theorem putRow_eq {y : ℕ} {row written : Bytes} (hw : w ≤ 1024) (hh : h ≤ 1024) (hy : y < h)
    (hrow : row.length = w * 3) :
    Thumbnail.putRow frame.format frame.width frame.height frame.pixels w h (row, written) y =
      some (thumbnailRow frame w h y, written ++ thumbnailRow frame w h y) := by
  have hm : frame.height ≤ 4096 := hframe.height_le
  -- After `k` columns the first `k` pixels are in place.
  obtain ⟨filled, hrun, rfl⟩ := @foldlM_range _ (Thumbnail.putPixel frame.format frame.width
      frame.height frame.pixels w (y * frame.height / h))
    (fun k filled => filled = (range k).flatMap
      (fun x => (thumbnailPixel frame w h x y).bytes) ++ row.drop (k * 3)) w row (by simp)
    (fun k hk filled e => ⟨_, e ▸ putPixel_eq hframe hpixels hw hk hy hrow, rfl⟩)
  rw [drop_eq_nil_of_le (by omega), append_nil] at hrun
  rw [Thumbnail.putRow, proportion_eq (by omega) hm (by omega), Option.bind_eq_bind,
    Option.bind_some, hrun]
  rfl

omit hpixels in
theorem loadable_thumbnailOf (hw : 1 ≤ w) (hw' : w ≤ 1024) (hh : 1 ≤ h) (hh' : h ≤ 1024) :
    (thumbnailOf frame w h).Loadable := by
  have ha : w * h ≤ 1024 * 1024 := Nat.mul_le_mul hw' hh'
  refine ⟨hw, hh, hw'.trans (by decide), hh'.trans (by decide), ha.trans (by decide),
    hframe.sequence_lt, ?_⟩
  rw [length_thumbnailOf, thumbnailOf, expectedPayload]
  ring

omit hframe hpixels in
theorem take_encode (f : RgbFrame) : f.encode.take headerSize = f.format.magic ++
    (leBytes 4 f.width ++ (leBytes 4 f.height ++ (leBytes 4 f.pixels.length ++
      leBytes 4 f.sequence))) := by
  have hs : f.encode = (f.format.magic ++ (leBytes 4 f.width ++
      (leBytes 4 f.height ++ (leBytes 4 f.pixels.length ++ leBytes 4 f.sequence)))) ++
        f.pixels := by
    simp only [RgbFrame.encode, append_assoc]
  rw [hs]
  exact take_left' (by simp [headerSize])

/-- **The bytes that are written are those of the thumbnail.** -/
theorem output_eq (hb : ThumbnailBounds maxWidth maxHeight)
    (hsi : thumbnailSize frame.width frame.height maxWidth maxHeight = (w, h))
    (s : ℕ → UInt8) :
    Thumbnail.output s frame.encode frame.format maxWidth maxHeight =
      some (thumbnailOf frame w h).encode := by
  obtain ⟨hf, hwi, hhe, hp, hs, hd⟩ := header_encode hframe
  obtain ⟨hw, hw', -, hh, hh', -⟩ :=
    thumbnailSize_le hb hframe.width_pos hframe.height_pos hsi
  have hm := hb.width_le
  have hma := hb.height_le
  have ha : w * h ≤ 1024 * 1024 := Nat.mul_le_mul (by omega) (by omega)
  have hla : (frame.encode.take headerSize).drop 20 = leBytes 4 frame.sequence := by
    have hl := length_encode frame
    have hby := @leBytes_readLe32 frame.encode 20 (by rw [hl, headerSize]; omega)
    rw [← hs, hby, drop_take]
    rfl
  have hrow : ((range (w * 3)).map s).length = w * 3 := by simp
  -- After `k` rows the header and the first `k` rows are written.
  obtain ⟨done, hrun, -, hdo⟩ := @foldlM_range _ (Thumbnail.putRow frame.format frame.width
      frame.height frame.pixels w h)
    (fun k done => done.1.length = w * 3 ∧ done.2 = (thumbnailOf frame w h).encode.take headerSize ++
      (range k).flatMap (thumbnailRow frame w h)) h
    ((range (w * 3)).map s, (thumbnailOf frame w h).encode.take headerSize)
    ⟨hrow, by simp⟩ (by
      rintro k hk ⟨row, written⟩ ⟨hl, rfl⟩
      refine ⟨_, putRow_eq hframe hpixels (by omega) (by omega) hk hl, length_thumbnailRow _ _ _,
        ?_⟩
      rw [range_succ, flatMap_append, flatMap_singleton, append_assoc])
  have ht : (thumbnailOf frame w h).encode.drop headerSize =
      (range h).flatMap (thumbnailRow frame w h) :=
    (header_encode (loadable_thumbnailOf hframe hw (by omega) hh (by omega))).2.2.2.2.2
  have hhd : (thumbnailOf frame w h).encode.take headerSize = literal "VCAMRGB1" ++
      (leBytes 4 w ++ (leBytes 4 h ++ (leBytes 4 (w * h * 3) ++ leBytes 4 frame.sequence))) := by
    rw [take_encode, length_thumbnailOf, show h * (w * 3) = w * h * 3 by ring]
    rfl
  rw [Thumbnail.output, hwi, hhe, hp, hd, take_length, hla,
    scaled_eq hb hframe.width_pos hframe.width_le hframe.height_le, hsi]
  simp (disch := omega) only [unsigned_of_lt, Option.bind_eq_bind, Option.bind_some]
  rw [← hhd, hrun, Option.bind_some, hdo]
  rw [← ht, take_append_drop]
  rfl

end Output

/-! ## The thumbnail of a frame -/

theorem sampleRgb_thumbnailOf {w h x y : ℕ} (hx : x < w) (hy : y < h) :
    (thumbnailOf frame w h).sampleRgb (some (x, y)) = some (thumbnailPixel frame w h x y) := by
  have hce (c : ℕ) (hc : c < 3) : (thumbnailOf frame w h).pixels[(y * w + x) * 3 + c]? =
      (thumbnailPixel frame w h x y).bytes[c]? := by
    have hrow := @getElem?_rows _ (thumbnailRow frame w h) (w * 3) h y (x * 3 + c)
      (fun k _ => length_thumbnailRow w h k) hy (by omega)
    have hp := @getElem?_rows _ (fun x => (thumbnailPixel frame w h x y).bytes) 3 w x c
      (fun _ _ => Rgb.length_bytes _) hx hc
    rw [show (y * w + x) * 3 + c = y * (w * 3) + (x * 3 + c) by ring]
    exact hrow.trans hp
  have hred := hce 0 (by omega)
  rw [Nat.add_zero] at hred
  simp only [RgbFrame.sampleRgb, show (thumbnailOf frame w h).format = .rgb888 from rfl]
  rw [show (thumbnailOf frame w h).width = w from rfl, hred, hce 1 (by omega), hce 2 (by omega)]
  rfl

variable {source : Bytes} {sourcePath destinationPath : Text}

structure ThumbnailPaths (sourcePath destinationPath : Text) : Prop where
  source : isProviderPath sourcePath = true
  destination : isProviderPath destinationPath = true
  short : destinationPath.length + 4 < 512

theorem thumbnailFrame_eq (hp : ThumbnailPaths sourcePath destinationPath)
    (hb : ThumbnailBounds maxWidth maxHeight) (hframe : frame.Loadable)
    (hpixels : frame.pixels ≠ []) {w h : ℕ}
    (hsi : thumbnailSize frame.width frame.height maxWidth maxHeight = (w, h))
    (s : ℕ → UInt8) :
    thumbnailFrame s sourcePath destinationPath frame.encode maxWidth maxHeight =
      some (0, some (thumbnailOf frame w h).encode) := by
  obtain ⟨hw, hh, hw', hh'⟩ := hb
  have hs : thumbnailSource frame.encode = 0 := thumbnailSource_eq_zero_iff.mpr
    ⟨frame, documented_iff.mpr ⟨hframe, hpixels⟩, rfl⟩
  rw [thumbnailFrame, hp.source, hp.destination, if_neg, if_neg (not_le.mpr hp.short),
    hs, (header_encode hframe).1]
  · have ho := output_eq hframe hpixels ⟨hw, hh, hw', hh'⟩ hsi s
    exact congrArg (·.bind fun bytes => some (0, some bytes)) ho
  · simp only [Bool.not_true, Bool.false_or, Bool.or_eq_true, decide_eq_true_eq]
    omega

/-- **Thumbnails.** A source that passes the checks gives a frame inside the bounds, not larger than
the source, whose pixels are samples of the source; no operation overflows, divides by zero or leaves
its buffer. -/
theorem thumbnail_correct (hpaths : ThumbnailPaths sourcePath destinationPath)
    (hbounds : ThumbnailBounds maxWidth maxHeight) (hsource : thumbnailSource source = 0)
    (scratch : ℕ → UInt8) :
    ∃ frame out : RgbFrame, RgbFrame.load source = some frame ∧
      thumbnailFrame scratch sourcePath destinationPath source maxWidth maxHeight =
        some (0, some out.encode) ∧
      RgbFrame.load out.encode = some out ∧ out.format = .rgb888 ∧
      (1 ≤ out.width ∧ out.width ≤ maxWidth ∧ out.width ≤ frame.width) ∧
      (1 ≤ out.height ∧ out.height ≤ maxHeight ∧ out.height ≤ frame.height) ∧
      ∀ x < out.width, ∀ y < out.height, ∃ value : Rgb, out.sampleRgb (some (x, y)) = some value ∧
        frame.sampleRgb (some (x * frame.width / out.width, y * frame.height / out.height)) =
          some value := by
  obtain ⟨frame, hd, rfl⟩ := thumbnailSource_eq_zero_iff.mp hsource
  obtain ⟨hframe, hpixels⟩ := documented_iff.mp hd
  obtain ⟨w, h, hs⟩ : ∃ w h, thumbnailSize frame.width frame.height maxWidth maxHeight = (w, h) :=
    ⟨_, _, rfl⟩
  obtain ⟨hw, hm, hlew, hh, hma, hleh⟩ :=
    thumbnailSize_le hbounds hframe.width_pos hframe.height_pos hs
  have hwi := hbounds.width_le
  have hhe := hbounds.height_le
  refine ⟨frame, thumbnailOf frame w h, load_encode hframe,
    thumbnailFrame_eq hpaths hbounds hframe hpixels hs scratch,
    load_encode (loadable_thumbnailOf hframe hw (by omega) hh (by omega)), rfl, ⟨hw, hm, hlew⟩,
    ⟨hh, hma, hleh⟩, fun x hx y hy => ?_⟩
  exact ⟨_, sampleRgb_thumbnailOf hx hy, (sampleRgb_thumbnailPixel hframe hpixels hx hy).1⟩

/-- A frame of three planes is shrunk to half its width. -/
theorem thumbnail_correct_wideFrame :
    ThumbnailPaths (kProviderPrefix ++ ['a']) (kProviderPrefix ++ ['b']) ∧
      ThumbnailBounds 16 16 ∧ thumbnailSource wideFrame.encode = 0 ∧
      ∃ out : RgbFrame, thumbnailFrame (fun _ => 0) (kProviderPrefix ++ ['a'])
        (kProviderPrefix ++ ['b']) wideFrame.encode 16 16 = some (0, some out.encode) ∧
        out.width ≤ 16 := by
  have hp : ThumbnailPaths (kProviderPrefix ++ ['a']) (kProviderPrefix ++ ['b']) :=
    ⟨by decide, by decide, by decide⟩
  have hb : ThumbnailBounds 16 16 := ⟨by decide, by decide, by decide, by decide⟩
  have hs : thumbnailSource wideFrame.encode = 0 := by decide +kernel
  obtain ⟨-, out, -, hout, -, -, ⟨-, hw, -⟩, -⟩ := thumbnail_correct hp hb hs fun _ => 0
  exact ⟨hp, hb, hs, out, hout, hw⟩

end Vcam
