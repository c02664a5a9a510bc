import AndroidVcam.Controller.Providers
import AndroidVcam.Daemon.Transfer
import AndroidVcam.Frame.Thumbnail
import AndroidVcam.Lib.Base64

/-!
# Thumbnails in the manager

`provider_frame` and `preview_source` of `vcamctl` print a thumbnail as Base64 text, the daemon sends
the text to the manager, and `decodeBackendFrame` of `MainActivity.java` makes a bitmap of it. The
manager wants at least two rows and two columns; the publisher rounds down to one.

* **`displayed_iff`**: the thumbnails of a frame are displayed exactly when its sides are not too far
  apart.
-/

namespace Vcam.BackendFrame

open TextFile Wire Checked FileTree Shell Script ByteChannel Controller Daemon FramePublisher

/-! ## The manager -/

/-- What `decodeBackendFrame` throws. -/
inductive FrameError
  | invalid
  | incomplete
  | formatInvalid
  | sizeInvalid
  /-- An index outside the array. -/
  | index
deriving DecidableEq

structure Bitmap where
  width : ℕ
  height : ℕ
  pixels : List ℕ
deriving DecidableEq

def colorRgb (red green blue : UInt8) : ℕ :=
  0xff000000 + red.toNat * 65536 + green.toNat * 256 + blue.toNat

def getInt (bytes : Bytes) (offset : ℕ) : ℤ := Int.bmod (readLe32 bytes offset) (2 ^ 32)

def pixelAt (frame : Bytes) (index : ℕ) : Option ℕ := do
  let offset := 24 + 3 * index
  return colorRgb (← frame[offset]?) (← frame[offset + 1]?) (← frame[offset + 2]?)

def decodeBackendFrame (decode : Text → Option Bytes) (encoded : Text) :
    Except FrameError Bitmap :=
  match decode encoded with
  | none => .error .invalid
  | some frame =>
    if frame.length < 24 then .error .incomplete
    else if frame.take 8 ≠ literal "VCAMRGB1" then .error .formatInvalid
    else
      let width := getInt frame 8
      let height := getInt frame 12
      let payload := getInt frame 16
      let expected : ℤ := Int.bmod (width * height * 3) (2 ^ 64)
      if width < 2 ∨ width > 1920 ∨ height < 2 ∨ height > 1920 ∨ payload ≠ expected ∨
          (frame.length : ℤ) ≠ 24 + expected then .error .sizeInvalid
      else
        match (List.range (width * height).toNat).mapM (pixelAt frame) with
        | none => .error .index
        | some pixels => .ok ⟨width.toNat, height.toNat, pixels⟩

def colorOf (value : Rgb) : ℕ := colorRgb value.r value.g value.b

/-- A bitmap has the size and the pixels of a frame. -/
structure Bitmap.Shows (bitmap : Bitmap) (frame : RgbFrame) : Prop where
  width : bitmap.width = frame.width
  height : bitmap.height = frame.height
  pixels : ∀ x < frame.width, ∀ y < frame.height, ∃ value,
    frame.sampleRgb (some (x, y)) = some value ∧
      bitmap.pixels[y * frame.width + x]? = some (colorOf value)

def Shown (width height : ℕ) : Prop := (2 ≤ width ∧ width ≤ 1920) ∧ 2 ≤ height ∧ height ≤ 1920

variable {frame : RgbFrame} {decode : Text → Option Bytes} {e : Text}

theorem bmod_natCast {n : ℕ} (hn : n < 2 ^ 31) : Int.bmod (n : ℤ) (2 ^ 32) = n := by
  have hb : (n : ℤ) < 2147483648 := by exact_mod_cast hn
  exact Int.bmod_eq_of_le (by omega) (by omega)

theorem getInt_eq {b : Bytes} {o n : ℕ} (h : readLe32 b o = n)
    (hn : n < 2 ^ 31) : getInt b o = n := by
  unfold getInt
  rw [h, bmod_natCast hn]

section Decode

variable (hframe : frame.Loadable) (hformat : frame.format = .rgb888)

include hframe hformat

theorem length_rgb : frame.pixels.length = frame.width * frame.height * 3 := by
  rw [hframe.payload, hformat, expectedPayload]

theorem pixelAt_encode {x y : ℕ} (hx : x < frame.width) (hy : y < frame.height) :
    ∃ value, frame.sampleRgb (some (x, y)) = some value ∧
      pixelAt frame.encode (y * frame.width + x) = some (colorOf value) := by
  have hl := length_rgb hframe hformat
  have hi := grid_lt hx hy
  have hd (k : ℕ) : frame.encode[24 + k]? = frame.pixels[k]? := by
    rw [← (header_encode hframe).2.2.2.2.2, List.getElem?_drop]
    rfl
  have hce (c : ℕ) (hc : c < 3) : frame.encode[24 + 3 * (y * frame.width + x) + c]? =
      frame.pixels[(y * frame.width + x) * 3 + c]? := by
    rw [Nat.add_assoc, hd, Nat.mul_comm 3]
  have hr := List.getElem?_eq_getElem
    (show (y * frame.width + x) * 3 < frame.pixels.length by omega)
  have hg := List.getElem?_eq_getElem
    (show (y * frame.width + x) * 3 + 1 < frame.pixels.length by omega)
  have hb := List.getElem?_eq_getElem
    (show (y * frame.width + x) * 3 + 2 < frame.pixels.length by omega)
  have hred := hce 0 (by omega)
  rw [Nat.add_zero, Nat.add_zero, hr] at hred
  simp only [RgbFrame.sampleRgb, hformat, hr, hg, hb, pixelAt, hred, hce 1 (by omega),
    hce 2 (by omega)]
  exact ⟨_, rfl, rfl⟩

/-- **The bitmap of an RGB frame**: the manager takes it or not by its size. -/
theorem decodeBackendFrame_encode (hd : decode e = some frame.encode) :
    (Shown frame.width frame.height →
      ∃ bitmap, decodeBackendFrame decode e = .ok bitmap ∧ bitmap.Shows frame) ∧
    (¬Shown frame.width frame.height →
      decodeBackendFrame decode e = .error .sizeInvalid) := by
  have hl := length_rgb hframe hformat
  have hsi := length_encode frame
  have hhd : headerSize = 24 := rfl
  have hma : frame.width ≤ 4096 := hframe.width_le
  have hmx : frame.height ≤ 4096 := hframe.height_le
  have ha : frame.width * frame.height ≤ 4096 * 4096 := Nat.mul_le_mul hma hmx
  obtain ⟨-, hwi, hhe, hpa, -, -⟩ := header_encode hframe
  have hm : frame.encode.take 8 = literal "VCAMRGB1" := by
    have ht : frame.encode.take 8 = frame.format.magic := List.take_left' (length_magic _)
    rw [ht, hformat]
    rfl
  have he : Int.bmod ((frame.width : ℤ) * frame.height * 3) (2 ^ 64) =
      (frame.width * frame.height * 3 : ℕ) := by
    push_cast
    exact Int.bmod_eq_of_le (by omega) (by omega)
  rw [decodeBackendFrame, hd]
  dsimp only
  rw [if_neg (by omega), if_neg (not_not_intro hm), getInt_eq hwi (by omega),
    getInt_eq hhe (by omega), getInt_eq hpa (by omega), he]
  refine ⟨fun hs => ?_, fun hs => if_pos ?_⟩
  · obtain ⟨⟨hw, hw'⟩, hh, hh'⟩ := hs
    have hmap := @mapM_of_forall _ _ (pixelAt frame.encode)
      (fun i => (pixelAt frame.encode i).getD 0) (List.range (frame.width * frame.height)) (by
        intro i hi
        have hi := List.mem_range.mp hi
        obtain ⟨value, -, hp⟩ := pixelAt_encode hframe hformat
          (Nat.mod_lt i (show 0 < frame.width by omega)) (Nat.div_lt_of_lt_mul hi)
        rw [Nat.div_add_mod'] at hp
        rw [hp]
        rfl)
    rw [if_neg (by omega), show ((frame.width : ℤ) * frame.height).toNat =
      frame.width * frame.height by exact_mod_cast Int.toNat_natCast _, hmap]
    refine ⟨_, rfl, rfl, rfl, fun x hx y hy => ?_⟩
    obtain ⟨value, hsa, hp⟩ := pixelAt_encode hframe hformat hx hy
    refine ⟨value, hsa, ?_⟩
    rw [List.getElem?_map, List.getElem?_range (grid_lt hx hy), Option.map_some, hp]
    rfl
  · unfold Shown at hs
    omega

end Decode

/-! ## The two commands -/

/-- The bytes that the publisher leaves at the destination, as the content of a file. -/
def thumbnailText : Option (ℕ × Option Bytes) → Option Text
  | some (0, some bytes) => some (byteText bytes)
  | _ => none

/-- What the publisher writes for `provider_frame`. -/
def providerFramePreview (env : Env) (scratch : ℕ → UInt8) (id : Text) (source : Bytes) :
    Preview where
  media := none
  bundle := none
  frame := none
  thumbnail := thumbnailText (thumbnailFrame scratch (frameFile id "frame.rgb")
    (framePreviewDirectory env ++ "/frame.rgb") source 640 640)

/-- What the programs behind `preview_source` write when the streamer writes `source`. -/
def sourcePreview (env : Env) (scratch : ℕ → UInt8) (media bundle : Option Text)
    (source : Bytes) : Preview where
  media := media
  bundle := bundle
  frame := some (byteText source)
  thumbnail := thumbnailText (thumbnailFrame scratch (previewDirectory env ++ "/frame.rgb")
    (previewDirectory env ++ "/preview.rgb") source 576 324)

/-- A reply with status 0 is the encoded thumbnail. -/
def PrintsThumbnail (env : Env) (preview : Preview) (reply : Controller.Reply) : Prop :=
  reply.status = 0 → ∃ thumbnail, preview.thumbnail = some thumbnail ∧
    reply.message = env.encode64 thumbnail

variable {env : Env} {p : Preview}

theorem refused {s : ℕ} {m : String} {c : Prop} (h : s ≠ 0) :
    c → (pure (refuse s m) : Script Controller.Reply).Returns (PrintsThumbnail env p) :=
  fun _ e => absurd e h

theorem printed_of_isSome (h : p.thumbnail.isSome = true) :
    ∃ thumbnail, p.thumbnail = some thumbnail ∧
      env.encode64 (p.thumbnail.getD []) = env.encode64 thumbnail := by
  obtain ⟨thumbnail, e⟩ := Option.isSome_iff_exists.mp h
  exact ⟨thumbnail, e, by rw [e]; rfl⟩

theorem returns_writePreview (path : Text) (c : Option Text) :
    (writePreview path c).Returns fun ok => ok = true → c.isSome = true := by
  cases c with
  | none => exact nofun
  | some c => exact fun ok _ => rfl

theorem returns_previewThumbnail (d : Text) :
    (previewThumbnail env d p).Returns (PrintsThumbnail env p) := by
  refine (returns_any _).bind fun made _ => returns_ite (refused (by decide)) fun _ => ?_
  refine (returns_writePreview _ _).bind fun written hw => returns_ite (refused (by decide)) fun hok => ?_
  refine (returns_any _).bind fun t _ => returns_ite (refused (by decide)) fun _ => ?_
  exact fun _ => printed_of_isSome (hw (by simpa using hok))

theorem returns_providerFrame (id : Text) :
    (providerFrame env id p).Returns (PrintsThumbnail env p) := by
  refine (returns_any _).bind fun t _ => returns_ite (refused (by decide)) fun _ => ?_
  refine returns_ite (refused (by decide)) fun _ => ?_
  refine returns_ite (refused (by decide)) fun _ => ?_
  refine returns_ite (refused (by decide)) fun _ => ?_
  exact (returns_previewThumbnail _).bind fun reply hr => (returns_any _).bind fun _ _ => hr

theorem returns_previewStream (type d : Text) :
    (previewStream env type d p).Returns (PrintsThumbnail env p) := by
  refine (returns_any _).bind fun made _ => returns_ite (refused (by decide)) fun _ => ?_
  refine (returns_any _).bind fun input _ => returns_ite (refused (by decide)) fun _ => ?_
  refine (returns_any _).bind fun frame _ => returns_ite (refused (by decide)) fun _ => ?_
  refine (returns_any _).bind fun t _ => returns_ite (refused (by decide)) fun _ => ?_
  refine (returns_writePreview _ _).bind fun written hw => returns_ite (refused (by decide)) fun hok => ?_
  exact fun _ => printed_of_isSome (hw (by simpa using hok))

theorem returns_previewSource (type sourceB64 : Text) :
    (previewSource env type sourceB64 p).Returns (PrintsThumbnail env p) := by
  refine returns_ite (refused (by decide)) fun _ => ?_
  refine returns_ite (refused (by decide)) fun _ => ?_
  split
  · exact refused (by decide) trivial
  refine returns_ite (refused (by decide)) fun _ => ?_
  refine (returns_any _).bind fun made _ => returns_ite (refused (by decide)) fun _ => ?_
  refine returns_ite (refused (by decide)) fun _ => ?_
  refine returns_ite (refused (by decide)) fun _ => ?_
  exact (returns_previewStream _ _).bind fun reply hr => (returns_any _).bind fun _ _ => hr

/-! ## Both sides -/

variable {maxWidth maxHeight : ℕ}

def boundedThumbnail (frame : RgbFrame) (maxWidth maxHeight : ℕ) : RgbFrame :=
  thumbnailOf frame (thumbnailSize frame.width frame.height maxWidth maxHeight).1
    (thumbnailSize frame.width frame.height maxWidth maxHeight).2

/-- What the publisher leaves of a frame is its thumbnail, when it takes the paths. -/
theorem thumbnailText_eq (hframe : frame.Documented) (hb : ThumbnailBounds maxWidth maxHeight)
    {s : ℕ → UInt8} {source destination text : Text}
    (h : thumbnailText (thumbnailFrame s source destination frame.encode maxWidth
      maxHeight) = some text) :
    text = byteText (boundedThumbnail frame maxWidth maxHeight).encode := by
  obtain ⟨hl, hpi⟩ := documented_iff.mp hframe
  by_cases hp : ThumbnailPaths source destination
  · rw [thumbnailFrame_eq hp hb hl hpi rfl s] at h
    exact (Option.some.inj h).symm
  · exfalso
    rw [thumbnailFrame] at h
    split_ifs at h with ha hlo
    · cases h
    · cases h
    · refine hp ⟨?_, ?_, not_le.mp hlo⟩ <;> simp_all

theorem two_le_thumbnailSize {width height : ℕ} (hw : 1 ≤ width) (hh : 1 ≤ height)
    (hh' : height ≤ 4096) (hm : 2 ≤ maxWidth) (hma : 2 ≤ maxHeight)
    (hl : 2 * 4096 ≤ maxWidth * maxHeight) :
    2 ≤ (thumbnailSize width height maxWidth maxHeight).1 ∧
        2 ≤ (thumbnailSize width height maxWidth maxHeight).2 ↔
      2 ≤ width ∧ 2 ≤ height ∧ 2 * width ≤ height * maxWidth ∧ 2 * height ≤ width * maxHeight := by
  rw [thumbnailSize]
  by_cases hwi : maxWidth < width
  · -- A wide source: its height is scaled first, and then only a very high one again.
    have hf := @fitted_le width height maxWidth hw
    rw [if_pos hwi] at hf
    simp only [if_pos hwi, min_eq_right hwi.le]
    have hr : 2 ≤ height * maxWidth / width ↔ 2 * width ≤ height * maxWidth :=
      Nat.le_div_iff_mul_le hw
    have hc : 2 * height ≤ width * maxHeight := calc
      2 * height ≤ maxWidth * maxHeight := by omega
      _ ≤ width * maxHeight := Nat.mul_le_mul_right maxHeight hwi.le
    have hfi : 2 ≤ (if maxHeight < height * maxWidth / width then
        maxWidth * maxHeight / (height * maxWidth / width) else maxWidth) := by
      split_ifs with ht
      · rw [Nat.le_div_iff_mul_le (by omega)]
        omega
      · exact hm
    omega
  · simp only [if_neg hwi, min_eq_left (not_lt.mp hwi)]
    have hr (h : 2 ≤ height) : 2 * width ≤ height * maxWidth :=
      Nat.mul_le_mul h (not_lt.mp hwi)
    by_cases ht : maxHeight < height
    · rw [if_pos ht]
      have hc : 2 ≤ width * maxHeight / height ↔ 2 * height ≤ width * maxHeight :=
        Nat.le_div_iff_mul_le (by omega)
      have hwd (h : 2 * height ≤ width * maxHeight) : 2 ≤ width := by
        by_contra hone
        obtain rfl : width = 1 := by omega
        omega
      omega
    · rw [if_neg ht]
      have hc (h : 2 ≤ width) : 2 * height ≤ width * maxHeight :=
        Nat.mul_le_mul h (not_lt.mp ht)
      omega

/-- The text that is printed for a thumbnail fits into a response, and the manager makes the bitmap of
the thumbnail out of it. -/
structure Displayed (decode : Text → Option Bytes) (text : Text) (thumbnail : RgbFrame) :
    Prop where
  fits : ∀ output : Source, .failed ∉ output → available output = textBytes text →
    (collectOutput output 0).ok = true ∧ (collectOutput output 0).output = textBytes text
  shown : ∃ bitmap, decodeBackendFrame decode text = .ok bitmap ∧ bitmap.Shows thumbnail

/-- A thumbnail is displayed exactly when it has two rows and two columns. -/
theorem displayed_boundedThumbnail (hframe : frame.Documented) (hb : ThumbnailBounds maxWidth
      maxHeight) (hla : 2 * 4096 ≤ maxWidth * maxHeight)
    (hsm : maxWidth * maxHeight ≤ 640 * 640)
    (hd : ∀ bytes, decode (Base64.encode bytes) = some bytes) :
    Displayed decode (Base64.encode (boundedThumbnail frame maxWidth maxHeight).encode)
        (boundedThumbnail frame maxWidth maxHeight) ↔
      2 ≤ frame.width ∧ 2 ≤ frame.height ∧ 2 * frame.width ≤ frame.height * maxWidth ∧
        2 * frame.height ≤ frame.width * maxHeight := by
  obtain ⟨hl, -⟩ := documented_iff.mp hframe
  obtain ⟨w, h, hs⟩ : ∃ w h, thumbnailSize frame.width frame.height maxWidth maxHeight = (w, h) :=
    ⟨_, _, rfl⟩
  obtain ⟨hw, hw', -, hh, hh', -⟩ :=
    thumbnailSize_le hb hl.width_pos hl.height_pos hs
  obtain ⟨hm, hmi, hma, hmx⟩ := hb
  rw [← two_le_thumbnailSize hl.width_pos hl.height_pos hl.height_le (by omega)
    (by omega) hla, boundedThumbnail, hs]
  have ht := loadable_thumbnailOf hl hw (by omega) hh (by omega)
  obtain ⟨hsh, hr⟩ := decodeBackendFrame_encode ht rfl
    (hd (thumbnailOf frame w h).encode)
  have hsi : Shown w h ↔ 2 ≤ w ∧ 2 ≤ h := by
    unfold Shown
    omega
  constructor
  · rintro ⟨-, bitmap, hbi, -⟩
    by_contra hth
    rw [hr (hsi.not.mpr hth)] at hbi
    cases hbi
  · refine fun hs => ⟨fun output hf ha => ?_, hsh (hsi.mpr hs)⟩
    rw [← ha]
    refine collectOutput_of_available hf ?_
    have har : w * h ≤ maxWidth * maxHeight := Nat.mul_le_mul hw' hh'
    have hle : (thumbnailOf frame w h).pixels.length = w * h * 3 := by
      rw [length_thumbnailOf]
      ring
    rw [ha, textBytes, List.length_map, Base64.length_encode, length_encode, hle,
      headerSize, maxOutput]
    omega

/-- **The thumbnails of a published frame are displayed exactly when neither side is one pixel and
none is more than 288 times as wide as high or 162 times as high as wide.** The first two parts say
what the two commands print. -/
theorem displayed_iff {source : Bytes} (hpublished : Publishes source)
    (hframe : RgbFrame.load source = some frame)
    (hencode : ∀ bytes, env.encode64 (byteText bytes) = Base64.encode bytes)
    (hdecode : ∀ bytes, decode (Base64.encode bytes) = some bytes) (scratch : ℕ → UInt8) :
    (∀ (id : Text) (oracle : Op → Outcome) (t : Tree),
      t.content (frameFile id "frame.rgb") = some (byteText source) →
      ((providerFrame env id (providerFramePreview env scratch id source)).run oracle
        t).value.status = 0 →
      ((providerFrame env id (providerFramePreview env scratch id source)).run oracle
        t).value.message = Base64.encode (boundedThumbnail frame 640 640).encode) ∧
    (∀ (type sourceB64 : Text) (media bundle : Option Text) (oracle : Op → Outcome) (t : Tree),
      ((previewSource env type sourceB64 (sourcePreview env scratch media bundle
        source)).run oracle t).value.status = 0 →
      ((previewSource env type sourceB64 (sourcePreview env scratch media bundle
        source)).run oracle t).value.message =
          Base64.encode (boundedThumbnail frame 576 324).encode) ∧
    (Displayed decode (Base64.encode (boundedThumbnail frame 640 640).encode)
        (boundedThumbnail frame 640 640) ∧
      Displayed decode (Base64.encode (boundedThumbnail frame 576 324).encode)
        (boundedThumbnail frame 576 324) ↔
      2 ≤ frame.width ∧ 2 ≤ frame.height ∧ frame.width ≤ 288 * frame.height ∧
        frame.height ≤ 162 * frame.width) := by
  have hd : frame.Documented := by
    obtain ⟨other, ho, hp⟩ := isFrame_iff_load.mp (publishes_iff.mp hpublished)
    obtain rfl := Option.some.inj (hframe.symm.trans ho)
    exact documented_iff.mpr ⟨(load_eq_some_iff.mp hframe).1, hp⟩
  obtain rfl := (load_eq_some_iff.mp hframe).2
  have hl : ThumbnailBounds 640 640 := ⟨by decide, by decide, by decide, by decide⟩
  have hsm : ThumbnailBounds 576 324 := ⟨by decide, by decide, by decide, by decide⟩
  refine ⟨fun id oracle t _ hs => ?_, fun type sourceB64 media bundle oracle t hs => ?_, ?_⟩
  · obtain ⟨text, ht, hm⟩ := (returns_providerFrame id).value t hs
    rw [hm, thumbnailText_eq hd hl ht, hencode]
  · obtain ⟨text, ht, hm⟩ := (returns_previewSource type sourceB64).value t hs
    rw [hm, thumbnailText_eq hd hsm ht, hencode]
  · rw [displayed_boundedThumbnail hd hl (by decide) (by decide) hdecode,
      displayed_boundedThumbnail hd hsm (by decide) (by decide) hdecode]
    omega

/-- A device whose `base64` is the standard one. -/
def base64Env : Env := { plainEnv with
  publisher := true
  streamer := true
  encode64 := fun text => Base64.encode (textBytes text) }

theorem documented_onePixel : onePixel.Documented := by
  refine documented_iff.mpr ⟨⟨?_, ?_, ?_, ?_, ?_, ?_, ?_⟩, ?_⟩ <;> decide

theorem displayed_iff_onePixel : Publishes onePixel.encode ∧
    RgbFrame.load onePixel.encode = some onePixel ∧
    ¬(Displayed Base64.decode (Base64.encode (boundedThumbnail onePixel 640 640).encode)
        (boundedThumbnail onePixel 640 640) ∧
      Displayed Base64.decode (Base64.encode (boundedThumbnail onePixel 576 324).encode)
        (boundedThumbnail onePixel 576 324)) := by
  have hp : Publishes onePixel.encode :=
    publishes_iff.mpr ⟨onePixel, documented_onePixel, rfl⟩
  have hl : RgbFrame.load onePixel.encode = some onePixel := by decide
  have he (bytes : Bytes) : base64Env.encode64 (byteText bytes) = Base64.encode bytes :=
    congrArg Base64.encode (textBytes_byteText bytes)
  obtain ⟨-, -, hiff⟩ := displayed_iff hp hl he Base64.decode_encode fun _ => 0
  exact ⟨hp, hl, fun h => absurd (hiff.mp h) (by decide)⟩

/-- The thumbnail of one pixel is one pixel, which the manager does not take. -/
theorem onePixel_not_displayed : Publishes onePixel.encode ∧
    thumbnailFrame (fun _ => 0) (kProviderPrefix ++ ['a']) (kProviderPrefix ++ ['b'])
      onePixel.encode 640 640 = some (0, some (boundedThumbnail onePixel 640 640).encode) ∧
    decodeBackendFrame Base64.decode (Base64.encode (boundedThumbnail onePixel 640 640).encode) =
      .error .sizeInvalid := by
  obtain ⟨hl, hp⟩ := documented_iff.mp documented_onePixel
  have hpa : ThumbnailPaths (kProviderPrefix ++ ['a']) (kProviderPrefix ++ ['b']) :=
    ⟨by decide, by decide, by decide⟩
  have hb : ThumbnailBounds 640 640 := ⟨by decide, by decide, by decide, by decide⟩
  have ht : (boundedThumbnail onePixel 640 640).Loadable :=
    loadable_thumbnailOf hl (by decide) (by decide) (by decide) (by decide)
  refine ⟨publishes_iff.mpr ⟨onePixel, documented_onePixel, rfl⟩,
    thumbnailFrame_eq hpa hb hl hp rfl _, ?_⟩
  refine (decodeBackendFrame_encode ht rfl (Base64.decode_encode _)).2 ?_
  unfold Shown
  decide

end Vcam.BackendFrame
