import AndroidVcam.Frame.FrameState
import AndroidVcam.Lib.Checked

/-!
# Frames of the streamer

`publish_frame` of `native/stream_provider.c` writes the three planes of a decoded picture, row after
row, behind a `VCAMYUV1` header. `RgbFrame::sampleYuv` finds the planes again by flat offsets.

* **`faithful_iff`**: the samples are those of the planes exactly when no row offset overflows.
-/

namespace Vcam

open TextFile Wire List

/-! ## Planes -/

structure StreamSize where
  width : ℕ
  height : ℕ
  width_ge : 2 ≤ width
  height_ge : 2 ≤ height
  width_le : width ≤ 4096
  height_le : height ≤ 4096
  width_even : Even width
  height_even : Even height
  area : width * height ≤ 4096 * 3072

/-- The product of two values of type `int`, as the machine computes it. -/
def intMul (a b : ℤ) : ℤ := (a * b).bmod (2 ^ 32)

/-- A plane of a picture: the bytes around its data pointer, and the distance of its rows. -/
structure Plane where
  memory : ℤ → UInt8
  linesize : ℕ

namespace Plane

def sample (plane : Plane) (row column : ℕ) : UInt8 :=
  plane.memory ((row : ℤ) * plane.linesize + column)

/-- The bytes that are written for a row: `count` of them from `data + row * linesize`. -/
def rowBytes (plane : Plane) (count row : ℕ) : Bytes :=
  (range count).map fun (column : ℕ) =>
    plane.memory (intMul (row : ℤ) plane.linesize + column)

end Plane

/-- `data` and `linesize` of a picture in the format I420. -/
structure Picture where
  y : Plane
  cb : Plane
  cr : Plane

/-! ## The writer -/

/-- The outcome of each system call. A write that fails has written some first bytes. -/
structure SystemCalls where
  opens : Bool
  /-- `fchmod` and `fchown`. -/
  attributes : Bool
  header : Option ℕ
  row : Fin 3 → ℕ → Option ℕ
  closes : Bool
  renames : Bool
  unlinks : Bool
  /-- The error number of a call that failed. -/
  errno : ℕ+
  /-- The one after a write that failed; a write of no byte leaves it alone. -/
  writeErrno : ℕ

structure StreamFiles where
  destination : Option Bytes
  temporary : Option Bytes

namespace Streamer

def ENAMETOOLONG : ℤ := 36

def EOVERFLOW : ℤ := 75

def EIO : ℤ := 5

/-- `write_exact` at the end of a file: the file, and whether everything was written. -/
def writeExact (content bytes : Bytes) : Option ℕ → Bytes × Bool
  | none => (content ++ bytes, true)
  | some written => (content ++ bytes.take written, false)

/-- The loop over the rows of a plane, with the number of rows left. -/
def writeRows (plane : Plane) (count : ℕ) (outcome : ℕ → Option ℕ) :
    ℕ → ℕ → Bytes → Bytes × Bool
  | 0, _, content => (content, true)
  | rows + 1, row, content =>
    let written := writeExact content (plane.rowBytes count row) (outcome row)
    if written.2 then writeRows plane count outcome rows (row + 1) written.1 else written

def header (width height payload : ℕ) (sequence : UInt32) : Bytes :=
  literal "VCAMYUV1" ++ (leBytes 4 width ++ (leBytes 4 height ++ (leBytes 4 payload ++
    leBytes 4 sequence.toNat)))

def writePicture (calls : SystemCalls) (picture : Picture) (width height : ℕ)
    (head : Bytes) : Bytes × Bool :=
  if !calls.attributes then ([], false)
  else
    let started := writeExact [] head calls.header
    if !started.2 then started
    else
      let luma := writeRows picture.y width (calls.row 0) height 0 started.1
      if !luma.2 then luma
      else
        let blue := writeRows picture.cb (width / 2) (calls.row 1) (height / 2) 0 luma.1
        if !blue.2 then blue
        else writeRows picture.cr (width / 2) (calls.row 2) (height / 2) 0 blue.1

/-- `publish_frame`: its result and the two files. -/
def publishFrame (calls : SystemCalls) (outputPath : Text) (picture : Picture) (width height : ℕ)
    (sequence : UInt32) (files : StreamFiles) : ℤ × StreamFiles :=
  if 512 ≤ outputPath.length + 4 then (-ENAMETOOLONG, files)
  else
    let pixels := width * height
    let payload64 := pixels + pixels / 2
    if payload64 > 2 ^ 32 - 1 then (-EOVERFLOW, files)
    else if !calls.opens then (-(calls.errno : ℤ), files)
    else
      let written := writePicture calls picture width height
        (header width height payload64 sequence)
      let left := if calls.unlinks then none else some written.1
      if !written.2 then
        (-(if calls.writeErrno = 0 then EIO else calls.writeErrno), { files with temporary := left })
      else if !calls.closes || !calls.renames then
        (-(calls.errno : ℤ), { files with temporary := left })
      else (0, ⟨some written.1, none⟩)

end Streamer

/-! ## The reader -/

structure Yuv where
  y : UInt8
  cb : UInt8
  cr : UInt8
deriving DecidableEq

def clamp (value : ℤ) : UInt8 := (max 0 (min 255 value)).toNat.toUInt8

/-- `sampleYuv` with the result of `mapCoordinate`; `none` is a read outside the pixels. -/
def RgbFrame.sampleYuv (frame : RgbFrame) (mapped : Option (ℕ × ℕ)) : Option Yuv :=
  match mapped with
  | none => some ⟨0, 128, 128⟩
  | some (sourceX, sourceY) =>
    let pixel := sourceY * frame.width + sourceX
    match frame.format with
    | .i420 => do
      let ySize := frame.width * frame.height
      let chromaOffset := sourceY / 2 * (frame.width / 2) + sourceX / 2
      return ⟨← frame.pixels[pixel]?, ← frame.pixels[ySize + chromaOffset]?,
        ← frame.pixels[ySize + ySize / 4 + chromaOffset]?⟩
    | .rgb888 => do
      let r : ℤ := (← frame.pixels[pixel * 3]?).toNat
      let g : ℤ := (← frame.pixels[pixel * 3 + 1]?).toNat
      let b : ℤ := (← frame.pixels[pixel * 3 + 2]?).toNat
      return ⟨clamp (16 + (66 * r + 129 * g + 25 * b + 128) >>> 8),
        clamp (128 + (-38 * r - 74 * g + 112 * b + 128) >>> 8),
        clamp (128 + (112 * r - 94 * g - 18 * b + 128) >>> 8)⟩

/-! ## The written frame -/

def planeBytes (plane : Plane) (count rows : ℕ) : Bytes :=
  (range rows).flatMap (plane.rowBytes count)

@[simp] theorem length_rowBytes (p : Plane) (count row : ℕ) :
    (p.rowBytes count row).length = count := by
  rw [Plane.rowBytes, length_map, length_range]

@[simp] theorem length_planeBytes (p : Plane) (count rows : ℕ) :
    (planeBytes p count rows).length = rows * count := by
  simp [planeBytes, length_flatMap]

theorem getElem?_planeBytes (p : Plane) {columns rows row c : ℕ} (hrow : row < rows)
    (hc : c < columns) : (planeBytes p columns rows)[row * columns + c]? =
      some (p.memory (intMul (row : ℤ) p.linesize + c)) := by
  rw [planeBytes, Checked.getElem?_rows (fun k _ => length_rowBytes p columns k) hrow hc,
    Plane.rowBytes, getElem?_map, getElem?_range hc]
  rfl

variable {p : Plane} {count row : ℕ} {o : ℕ → Option ℕ}

open Streamer

theorem writeExact_ok {c bytes : Bytes} {o : Option ℕ}
    (h : (writeExact c bytes o).2 = true) :
    (writeExact c bytes o).1 = c ++ bytes := by
  cases o with
  | none => rfl
  | some written => cases h

theorem writeRows_ok (rows row : ℕ) (c : Bytes)
    (h : (writeRows p count o rows row c).2 = true) :
    (writeRows p count o rows row c).1 =
      c ++ (range' row rows).flatMap (p.rowBytes count) := by
  induction rows generalizing row c with
  | zero => simp [writeRows]
  | succ rows ih =>
    rw [writeRows] at h ⊢
    by_cases hrow : (writeExact c (p.rowBytes count row) (o row)).2 = true
    · rw [if_pos hrow] at h ⊢
      rw [ih _ _ h, writeExact_ok hrow, range'_succ, flatMap_cons, append_assoc]
    · rw [if_neg hrow] at h
      exact absurd h hrow

theorem writePlane_ok {rows : ℕ} {c : Bytes}
    (h : (writeRows p count o rows 0 c).2 = true) :
    (writeRows p count o rows 0 c).1 = c ++ planeBytes p count rows := by
  rw [writeRows_ok rows 0 c h, ← range_eq_range', planeBytes]

/-- The frame that `publish_frame` is to write. -/
def writtenFrame (size : StreamSize) (picture : Picture) (sequence : UInt32) : RgbFrame where
  format := .i420
  width := size.width
  height := size.height
  sequence := sequence.toNat
  pixels := planeBytes picture.y size.width size.height ++
    (planeBytes picture.cb (size.width / 2) (size.height / 2) ++
      planeBytes picture.cr (size.width / 2) (size.height / 2))

variable {size : StreamSize} {picture : Picture} {sequence : UInt32} {calls : SystemCalls}
  {files : StreamFiles} {outputPath : Text}

theorem chroma_size (size : StreamSize) :
    size.height / 2 * (size.width / 2) = size.width * size.height / 4 := by
  obtain ⟨a, ha⟩ := size.width_even
  obtain ⟨b, hb⟩ := size.height_even
  have hw : size.width = 2 * a := by omega
  have hh : size.height = 2 * b := by omega
  have har : size.width * size.height = 4 * (b * a) := by rw [hw, hh]; ring
  rw [har, Nat.mul_div_cancel_left _ (by norm_num), hw, hh, Nat.mul_div_cancel_left _ (by norm_num),
    Nat.mul_div_cancel_left _ (by norm_num)]

theorem half_area (size : StreamSize) :
    size.width * size.height / 2 = 2 * (size.width * size.height / 4) := by
  have hc := chroma_size size
  obtain ⟨a, ha⟩ := size.width_even
  obtain ⟨b, hb⟩ := size.height_even
  have har : size.width * size.height = 4 * (a * b) := by rw [ha, hb]; ring
  omega

theorem length_writtenFrame (size : StreamSize) (p : Picture) (s : UInt32) :
    (writtenFrame size p s).pixels.length =
      size.width * size.height + size.width * size.height / 2 := by
  have hh := half_area size
  simp only [writtenFrame, length_append, length_planeBytes, chroma_size]
  rw [mul_comm size.height size.width]
  omega

theorem loadable_writtenFrame (size : StreamSize) (p : Picture) (s : UInt32) :
    (writtenFrame size p s).Loadable where
  width_pos := by have := size.width_ge; simp only [writtenFrame]; omega
  height_pos := by have := size.height_ge; simp only [writtenFrame]; omega
  width_le := size.width_le
  height_le := size.height_le
  pixels_le := size.area
  sequence_lt := s.toNat_lt
  payload := by
    rw [length_writtenFrame]
    exact (if_pos ⟨Nat.even_iff.mp size.width_even, Nat.even_iff.mp size.height_even⟩).symm

theorem encode_writtenFrame : (writtenFrame size picture sequence).encode =
    header size.width size.height (size.width * size.height + size.width * size.height / 2) sequence ++
      (writtenFrame size picture sequence).pixels := by
  rw [RgbFrame.encode, length_writtenFrame]
  simp only [header, append_assoc]
  rfl

theorem writePicture_ok {head : Bytes}
    (h : (writePicture calls picture size.width size.height head).2 = true) :
    (writePicture calls picture size.width size.height head).1 =
      head ++ (writtenFrame size picture sequence).pixels := by
  rw [writePicture] at h ⊢
  cases ha : calls.attributes with
  | false =>
    rw [ha] at h
    cases h
  | true =>
    rw [ha] at h
    -- Each stage is reached because the one before it has written everything.
    cases hh : (writeExact [] head calls.header).2 with
    | false => simp [hh] at h
    | true =>
      simp only [hh, writeExact_ok hh, nil_append, Bool.not_true, Bool.false_eq_true,
        if_false] at h ⊢
      cases hl : (writeRows picture.y size.width (calls.row 0) size.height 0 head).2 with
      | false => simp [hl] at h
      | true =>
        simp only [hl, writePlane_ok hl, Bool.not_true, Bool.false_eq_true, if_false] at h ⊢
        cases hb : (writeRows picture.cb (size.width / 2) (calls.row 1) (size.height / 2) 0
            (head ++ planeBytes picture.y size.width size.height)).2 with
        | false => simp [hb] at h
        | true =>
          simp only [hb, writePlane_ok hb, Bool.not_true, Bool.false_eq_true, if_false] at h ⊢
          rw [writePlane_ok h]
          simp [writtenFrame]

/-- **A call that returns 0 has put the frame into the file**; any other leaves the file alone. -/
theorem destination_publishFrame :
    ((publishFrame calls outputPath picture size.width size.height sequence files).1 = 0 →
      (publishFrame calls outputPath picture size.width size.height sequence files).2.destination =
        some (writtenFrame size picture sequence).encode) ∧
    ((publishFrame calls outputPath picture size.width size.height sequence files).1 ≠ 0 →
      (publishFrame calls outputPath picture size.width size.height sequence files).2.destination =
        files.destination) := by
  have he : (calls.errno : ℤ) ≠ 0 := by exact_mod_cast calls.errno.ne_zero
  rw [publishFrame]
  have hl : -ENAMETOOLONG ≠ 0 := by decide
  have ho : -EOVERFLOW ≠ 0 := by decide
  have hwr : -(if calls.writeErrno = 0 then Streamer.EIO else calls.writeErrno) ≠ 0 := by
    split_ifs with hz
    · decide
    · omega
  by_cases hpa : 512 ≤ outputPath.length + 4
  · rw [if_pos hpa]
    exact ⟨fun h => absurd h hl, fun _ => rfl⟩
  · rw [if_neg hpa]
    dsimp only
    by_cases hp : size.width * size.height + size.width * size.height / 2 > 2 ^ 32 - 1
    · rw [if_pos hp]
      exact ⟨fun h => absurd h ho, fun _ => rfl⟩
    · rw [if_neg hp]
      cases calls.opens with
      | false => exact ⟨fun h => absurd h (neg_ne_zero.mpr he), fun _ => rfl⟩
      | true =>
        rw [Bool.not_true, if_neg Bool.false_ne_true]
        cases hw : (writePicture calls picture size.width size.height (header size.width
            size.height (size.width * size.height + size.width * size.height / 2) sequence)).2 with
        | false => exact ⟨fun h => absurd h hwr, fun _ => rfl⟩
        | true =>
          rw [Bool.not_true, if_neg Bool.false_ne_true]
          by_cases hend : (!calls.closes || !calls.renames) = true
          · rw [if_pos hend]
            exact ⟨fun h => absurd h (neg_ne_zero.mpr he), fun _ => rfl⟩
          · rw [if_neg hend]
            refine ⟨fun _ => ?_, fun h => absurd rfl h⟩
            rw [encode_writtenFrame]
            exact congrArg some (writePicture_ok hw)

theorem sampleYuv_writtenFrame {x y : ℕ} (hx : x < size.width) (hy : y < size.height) :
    (writtenFrame size picture sequence).sampleYuv (some (x, y)) =
      some ⟨picture.y.memory (intMul (y : ℤ) picture.y.linesize + x),
        picture.cb.memory (intMul ((y / 2 : ℕ) : ℤ) picture.cb.linesize + (x / 2 : ℕ)),
        picture.cr.memory (intMul ((y / 2 : ℕ) : ℤ) picture.cr.linesize + (x / 2 : ℕ))⟩ := by
  have hx₂ : x / 2 < size.width / 2 := by
    have := Nat.even_iff.mp size.width_even
    omega
  have hy₂ : y / 2 < size.height / 2 := by
    have := Nat.even_iff.mp size.height_even
    omega
  have hl := getElem?_planeBytes picture.y hy hx
  have hb := getElem?_planeBytes picture.cb hy₂ hx₂
  have hred := getElem?_planeBytes picture.cr hy₂ hx₂
  have hi {p : Plane} {count rows r c : ℕ} {b : UInt8}
      (h : (planeBytes p count rows)[r * count + c]? = some b) : r * count + c < rows * count := by
    have := (List.getElem?_eq_some_iff.mp h).1
    rwa [length_planeBytes] at this
  have hbi := hi hb
  -- The offsets of the two chroma planes, seen from the end of the plane before.
  have hc := chroma_size size
  have hr' : size.width * size.height + size.width * size.height / 4 +
      (y / 2 * (size.width / 2) + x / 2) - size.width * size.height -
      size.width * size.height / 4 = y / 2 * (size.width / 2) + x / 2 := by omega
  simp only [RgbFrame.sampleYuv, writtenFrame]
  rw [getElem?_append_left (by rw [length_planeBytes]; exact hi hl), hl,
    getElem?_append_right (by rw [length_planeBytes, mul_comm]; omega), length_planeBytes,
    mul_comm size.height size.width, Nat.add_sub_cancel_left,
    getElem?_append_left (by rw [length_planeBytes]; exact hbi), hb,
    getElem?_append_right (by rw [length_planeBytes, mul_comm]; omega), length_planeBytes,
    mul_comm size.height size.width, getElem?_append_right (by rw [length_planeBytes]; omega),
    length_planeBytes, hc, hr', hred]
  rfl

/-! ## Row offsets -/

theorem intMul_eq {a b : ℕ} (h : a * b < 2 ^ 31) : intMul a b = (a : ℤ) * b := by
  have hc : ((a * b : ℕ) : ℤ) = (a : ℤ) * b := Nat.cast_mul a b
  exact Int.bmod_eq_of_le (by omega) (by omega)

theorem intMul_ne {a b : ℕ} (h : 2 ^ 31 ≤ a * b) : intMul a b ≠ (a : ℤ) * b := by
  have hc : ((a * b : ℕ) : ℤ) = (a : ℤ) * b := Nat.cast_mul a b
  have hlt : intMul a b < 2 ^ 31 := by
    have := @Int.bmod_lt ((a : ℤ) * b) (2 ^ 32) (by norm_num)
    rw [intMul]
    omega
  omega

/-- The distances of the rows of the three planes, at least the widths of the planes. -/
structure LineSizes (size : StreamSize) where
  y : ℕ
  cb : ℕ
  cr : ℕ
  y_ge : size.width ≤ y
  cb_ge : size.width / 2 ≤ cb
  cr_ge : size.width / 2 ≤ cr
  y_int : y < 2 ^ 31
  cb_int : cb < 2 ^ 31
  cr_int : cr < 2 ^ 31

structure Contents where
  y : ℤ → UInt8
  cb : ℤ → UInt8
  cr : ℤ → UInt8

def LineSizes.filled (lines : LineSizes size) (contents : Contents) : Picture :=
  ⟨⟨contents.y, lines.y⟩, ⟨contents.cb, lines.cb⟩, ⟨contents.cr, lines.cr⟩⟩

/-- What the camera samples from the published file is what the planes hold, and a call that fails
leaves the file alone. -/
def FaithfulOutput (size : StreamSize) (picture : Picture) : Prop :=
  ∀ (calls : SystemCalls) (outputPath : Text) (sequence : UInt32) (files : StreamFiles),
    ((publishFrame calls outputPath picture size.width size.height sequence files).1 = 0 →
      ∃ bytes frame,
        (publishFrame calls outputPath picture size.width size.height sequence files).2.destination =
          some bytes ∧
        RgbFrame.load bytes = some frame ∧
        ∀ x < size.width, ∀ y < size.height, frame.sampleYuv (some (x, y)) =
          some ⟨picture.y.sample y x, picture.cb.sample (y / 2) (x / 2),
            picture.cr.sample (y / 2) (x / 2)⟩) ∧
    ((publishFrame calls outputPath picture size.width size.height sequence files).1 ≠ 0 →
      (publishFrame calls outputPath picture size.width size.height sequence files).2.destination =
        files.destination)

/-- The offset of every row is a value of type `int`. -/
def OffsetsFit (size : StreamSize) (lines : LineSizes size) : Prop :=
  (size.height - 1) * lines.y < 2 ^ 31 ∧ (size.height / 2 - 1) * lines.cb < 2 ^ 31 ∧
    (size.height / 2 - 1) * lines.cr < 2 ^ 31

theorem intMul_of_fit {rows row line : ℕ} (h : (rows - 1) * line < 2 ^ 31) (hrow : row < rows) :
    intMul row line = (row : ℤ) * line :=
  intMul_eq (lt_of_le_of_lt (Nat.mul_le_mul_right line (by omega)) h)

def allCalls : SystemCalls := ⟨true, true, none, fun _ _ => none, true, true, true, 1, 0⟩

theorem writeRows_all (rows row : ℕ) (c : Bytes) :
    (writeRows p count (fun _ => none) rows row c).2 = true := by
  induction rows generalizing row c with
  | zero => rfl
  | succ rows ih => exact ih _ _

theorem publishFrame_allCalls : (publishFrame allCalls [] picture size.width size.height sequence
    files).1 = 0 := by
  have hp := (loadable_writtenFrame size picture sequence).pixels_lt
  rw [length_writtenFrame] at hp
  have hw (head : Bytes) :
      (writePicture allCalls picture size.width size.height head).2 = true := by
    simp [writePicture, allCalls, writeExact, writeRows_all]
  rw [publishFrame, if_neg (by simp)]
  dsimp only
  rw [if_neg (by omega)]
  simp only [hw]
  rfl

/-- The samples of a faithful picture are those at the offsets that were computed. -/
theorem samples_of_faithful (h : FaithfulOutput size picture) {x y : ℕ} (hx : x < size.width)
    (hy : y < size.height) :
    picture.y.memory (intMul (y : ℤ) picture.y.linesize + x) = picture.y.sample y x ∧
      picture.cb.memory (intMul ((y / 2 : ℕ) : ℤ) picture.cb.linesize + (x / 2 : ℕ)) =
        picture.cb.sample (y / 2) (x / 2) ∧
      picture.cr.memory (intMul ((y / 2 : ℕ) : ℤ) picture.cr.linesize + (x / 2 : ℕ)) =
        picture.cr.sample (y / 2) (x / 2) := by
  have hr : (publishFrame allCalls [] picture size.width size.height 0 ⟨none, none⟩).1 = 0 :=
    publishFrame_allCalls
  obtain ⟨bytes, frame, hb, hl, hsa⟩ := (h allCalls [] 0 ⟨none, none⟩).1 hr
  rw [destination_publishFrame.1 hr] at hb
  obtain rfl := Option.some.inj hb
  rw [load_encode (loadable_writtenFrame size picture 0)] at hl
  obtain rfl := Option.some.inj hl
  have hs := hsa x hx y hy
  rw [sampleYuv_writtenFrame hx hy] at hs
  simpa using hs

def mark (place : ℤ) : ℤ → UInt8 := fun offset => if offset = place then 1 else 0

theorem mark_ne {place o : ℤ} (h : mark place o = mark place place) : o = place := by
  by_contra hne
  rw [mark, mark, if_neg hne, if_pos rfl] at h
  cases h

/-- **The camera samples the planes of every picture exactly when every row offset fits.** -/
theorem faithful_iff (lines : LineSizes size) :
    (∀ contents : Contents, FaithfulOutput size (lines.filled contents)) ↔ OffsetsFit size lines := by
  have hh := size.height_ge
  have hw := size.width_ge
  have he := Nat.even_iff.mp size.height_even
  constructor
  · intro h
    -- A mark in the first column of the last row is found at the place where it was put.
    have hy := (samples_of_faithful (h ⟨mark ((size.height - 1 : ℕ) * lines.y), fun _ => 0, fun _ => 0⟩)
      (show 0 < size.width by omega) (show size.height - 1 < size.height by omega)).1
    have hcb := (samples_of_faithful (h ⟨fun _ => 0, mark ((size.height / 2 - 1 : ℕ) * lines.cb),
      fun _ => 0⟩) (show 0 < size.width by omega)
      (show 2 * (size.height / 2 - 1) < size.height by omega)).2.1
    have hcr := (samples_of_faithful (h ⟨fun _ => 0, fun _ => 0,
      mark ((size.height / 2 - 1 : ℕ) * lines.cr)⟩) (show 0 < size.width by omega)
      (show 2 * (size.height / 2 - 1) < size.height by omega)).2.2
    rw [Nat.mul_div_cancel_left _ (by norm_num)] at hcb hcr
    simp only [LineSizes.filled, Plane.sample, Nat.zero_div, Nat.cast_zero, add_zero] at hy hcb hcr
    refine ⟨?_, ?_, ?_⟩
    · by_contra ho
      exact intMul_ne (not_lt.mp ho) (mark_ne hy)
    · by_contra ho
      exact intMul_ne (not_lt.mp ho) (mark_ne hcb)
    · by_contra ho
      exact intMul_ne (not_lt.mp ho) (mark_ne hcr)
  · rintro ⟨hy, hcb, hcr⟩ contents calls outputPath sequence files
    refine ⟨fun hr => ?_, destination_publishFrame.2⟩
    refine ⟨_, _, destination_publishFrame.1 hr, load_encode (loadable_writtenFrame _ _ _), ?_⟩
    intro x hx y hyr
    rw [sampleYuv_writtenFrame hx hyr]
    simp only [LineSizes.filled, Plane.sample]
    rw [intMul_of_fit hy hyr, intMul_of_fit hcb (by omega), intMul_of_fit hcr (by omega)]

def fourRows : StreamSize := ⟨2, 4, by decide, by decide, by decide, by decide, by decide, by decide,
  by decide⟩

def wideLines : LineSizes fourRows := ⟨2 ^ 30, 1, 1, by decide, by decide, by decide, by decide,
  by decide, by decide⟩

/-- The third luma row is read two gigabytes before the plane. -/
theorem wideLines_misread : ¬FaithfulOutput fourRows
    (wideLines.filled ⟨mark (2 * 2 ^ 30), fun _ => 0, fun _ => 0⟩) := by
  intro h
  have hy := (samples_of_faithful h (show 0 < fourRows.width by decide)
    (show 2 < fourRows.height by decide)).1
  exact absurd hy (by decide)

end Vcam
