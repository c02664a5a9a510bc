import AndroidVcam.Frame.FrameState

/-!
# One grammar for frames

Three programs check a frame: the camera (`RgbFrame::load`), the publisher on its standard input and
the publisher on the source file of a thumbnail. They agree with the documented format on every byte
string but one kind: a bare `VCAMYUV1` header with an odd dimension and an empty payload, which only
the camera accepts.

* `IsFrame`, **`isFrame_iff_header`**: the documented format, and its header check;
* `OneGrammar`, `Degenerate`, **`oneGrammar_iff`**.
-/

namespace Vcam

open TextFile FileTree Shell FramePublisher List

variable {bytes : Bytes}

def IsFrame (bytes : Bytes) : Prop := ∃ frame : RgbFrame, frame.Documented ∧ bytes = frame.encode

theorem isFrame_iff_load : IsFrame bytes ↔
    ∃ frame, RgbFrame.load bytes = some frame ∧ frame.pixels ≠ [] := by
  simp only [IsFrame, documented_iff, load_eq_some_iff]
  exact exists_congr fun frame => by tauto

/-- **A frame is a good header and a payload of the length it says.** -/
theorem isFrame_iff_header : IsFrame bytes ↔ ∃ format, formatFromMagic bytes = some format ∧
    ¬BadHeader format bytes ∧ 0 < readLe32 bytes 16 ∧
    bytes.length = headerSize + readLe32 bytes 16 := by
  constructor
  · rintro ⟨frame, hfr, rfl⟩
    obtain ⟨h, hpi⟩ := documented_iff.mp hfr
    obtain ⟨hf, hwi, hhe, hp, -, -⟩ := header_encode h
    refine ⟨frame.format, hf, ?_, ?_, ?_⟩
    · rw [BadHeader, hwi, hhe, hp, h.payload]
      have := h.width_pos
      have := h.height_pos
      have := h.width_le
      have := h.height_le
      have := h.pixels_le
      omega
    · rw [hp]
      exact length_pos_iff.mpr hpi
    · rw [hp, length_encode]
  · rintro ⟨format, hf, hg, hpo, hl⟩
    unfold BadHeader at hg
    push Not at hg
    obtain ⟨hw, hh, hm, hma, ha, hp⟩ := hg
    have hr : (bytes.drop headerSize).length = readLe32 bytes 16 := by
      rw [length_drop]
      omega
    refine ⟨_, documented_iff.mpr ⟨?_, ?_⟩, encode_of_header hf (by omega) hr.symm⟩
    · exact ⟨Nat.pos_of_ne_zero hw, Nat.pos_of_ne_zero hh, hm, hma, ha, readLe32_lt _ _,
        hr.trans hp.symm⟩
    · exact length_pos_iff.mp (hr ▸ hpo)

/-! ## The source of a thumbnail -/

/-- The check of `thumbnail_frame` on the bytes of a regular file: its exit status so far. -/
def thumbnailSource (bytes : Bytes) : ℕ :=
  if bytes.length < headerSize then 2
  else
    let width := readLe32 bytes 8
    let height := readLe32 bytes 12
    let payloadSize := readLe32 bytes 16
    let expected := ((formatFromMagic bytes).map fun f => expectedPayload f width height).getD 0
    if width = 0 ∨ height = 0 ∨ width > maxDimension ∨ height > maxDimension ∨
        width * height > maxPixels ∨ expected = 0 ∨ expected ≠ payloadSize ∨
        bytes.length ≠ headerSize + expected then 3
    else 0

theorem thumbnailSource_eq_zero_iff : thumbnailSource bytes = 0 ↔ IsFrame bytes := by
  rw [isFrame_iff_header, thumbnailSource]
  by_cases hh : bytes.length < headerSize
  · rw [if_pos hh]
    refine iff_of_false (by decide) ?_
    rintro ⟨format, -, -, -, hl⟩
    omega
  · rw [if_neg hh]
    cases hf : formatFromMagic bytes with
    | none => simp
    | some format =>
      simp only [Option.map_some, Option.getD_some, Option.some.injEq, exists_eq_left']
      rw [ite_eq_right_iff]
      unfold BadHeader
      omega

/-! ## The standard input of the publisher -/

theorem readFrame_eq_whole : readFrame bytes = .frame bytes [] ↔ IsFrame bytes := by
  rw [isFrame_iff_header]
  constructor
  · intro h
    obtain ⟨format, hf, hd, hpa, hp, hl, hb, hr⟩ :=
      readFrame_eq_frame h
    refine ⟨format, hf, ?_, hp, ?_⟩
    · unfold BadHeader
      tauto
    · have hend := drop_eq_nil_iff.mp hr.symm
      omega
  · rintro ⟨format, hf, hg, hp, hl⟩
    have hn : bytes ≠ [] := by
      rintro rfl
      rw [length_nil] at hl
      omega
    unfold BadHeader at hg
    rw [readFrame, if_neg hn, if_neg (by omega), hf]
    dsimp only
    rw [if_neg, if_neg (by omega), ← hl, take_length, drop_length]
    omega

/-- A frame of an input is the whole input only when the input begins with it. -/
theorem mem_framesIn {r : ℕ} {i : Bytes} (h : bytes ∈ framesIn r i) :
    bytes.length ≤ i.length ∧
      (bytes.length = i.length → ∃ rest, readFrame i = .frame bytes rest) := by
  induction r generalizing i with
  | zero => cases h
  | succ r ih =>
    rw [framesIn] at h
    split at h
    · rename_i first rest hr
      rcases mem_cons.mp h with rfl | hmem
      · obtain ⟨-, -, -, -, -, -, hb, -⟩ := readFrame_eq_frame hr
        refine ⟨?_, fun _ => ⟨rest, hr⟩⟩
        rw [hb]
        exact length_take_le' _ _
      · have hl := (ih hmem).1
        have hs := length_of_readFrame hr
        exact ⟨by omega, fun e => by omega⟩
    · cases h

theorem isFrame_of_mem_framesIn {r : ℕ} (h : bytes ∈ framesIn r bytes) : IsFrame bytes := by
  obtain ⟨rest, hre⟩ := (mem_framesIn h).2 rfl
  obtain ⟨-, -, -, -, -, hl, hb, hr⟩ := readFrame_eq_frame hre
  have hall := congrArg List.length hb
  rw [length_take] at hall
  rw [drop_eq_nil_of_le (by omega)] at hr
  exact readFrame_eq_whole.mp (hr ▸ hre)

/-- The destinations that the publisher takes. -/
def AdmittedDestination (destination : Text) : Prop :=
  ¬(destination ≠ kDefaultDestinationPath ∧ !(kProviderPrefix.isPrefixOf destination)) ∧
    ¬512 ≤ destination.length + 4

/-- The publisher puts these bytes, as its whole input, into the frame file. -/
def Publishes (bytes : Bytes) : Prop :=
  ∀ (destination : Text) (t : Tree), AdmittedDestination destination →
    Ready t destination (destination ++ ".new") →
    ((publisherMain destination bytes).run noFailure t).value = 0 ∧
      ((publisherMain destination bytes).run noFailure t).tree.content destination =
        some (byteText bytes)

theorem byteText_injective {other : Bytes} (h : byteText bytes = byteText other) :
    bytes = other := by
  rw [← textBytes_byteText bytes, h, textBytes_byteText]

def deskTree : Tree := buildTree [.mkdir "/data/vendor/camera/vcam/providers/desk"]

def deskFrame : Text := "/data/vendor/camera/vcam/providers/desk/frame.rgb"

theorem ready_deskTree : Ready deskTree deskFrame (deskFrame ++ ".new") where
  writable := ⟨"frame.rgb", location "/data/vendor/camera/vcam/providers/desk",
    by decide, by decide, by decide⟩
  draft := ⟨"frame.rgb.new", location "/data/vendor/camera/vcam/providers/desk",
    by decide, by decide, by decide⟩
  apart := by decide

theorem publishes_iff : Publishes bytes ↔ IsFrame bytes := by
  constructor
  · intro h
    have ha : AdmittedDestination deskFrame := by
      unfold AdmittedDestination
      decide
    have hc := (h deskFrame deskTree ha ready_deskTree).2
    rw [publisherMain, if_neg ha.1, if_neg ha.2,
      (run_publishFrames ready_deskTree _ _).2,
      show deskTree.content deskFrame = none by decide, Option.or_none,
      Option.map_eq_some_iff] at hc
    obtain ⟨last, hl, ht⟩ := hc
    obtain rfl := byteText_injective ht
    exact isFrame_of_mem_framesIn (mem_of_getLast? hl)
  · intro h destination t ha hre
    have hr := readFrame_eq_whole.mpr h
    have hp := length_of_readFrame hr
    rw [publisherMain, if_neg ha.1, if_neg ha.2]
    obtain ⟨hv, hc⟩ := run_publishFrames hre (bytes.length + 1) bytes
    -- One round publishes the frame, the next one finds the end of the input.
    obtain ⟨rounds, hro⟩ := Nat.exists_eq_succ_of_ne_zero (Nat.ne_of_gt hp)
    have hf : readFrame [] = .finished := rfl
    rw [hv, hc, hro]
    simp [exitStatus, framesIn, hr, hf]

/-! ## Agreement -/

/-- The documented format is what every program takes, and the camera shows it. -/
structure OneGrammar (bytes : Bytes) : Prop where
  load : ∀ state : FrameState, (state.load bytes).1 = true ↔ IsFrame bytes
  publisher : Publishes bytes ↔ IsFrame bytes
  thumbnail : thumbnailSource bytes = 0 ↔ IsFrame bytes
  accepted : ∀ state : FrameState, (state.load bytes).1 = true →
    (state.load bytes).2.valid = true ∧ ∃ frame : RgbFrame, frame.Documented ∧
      bytes = frame.encode ∧ (state.load bytes).2 = frame.stored
  refused : ∀ state : FrameState, (state.load bytes).1 = false → (state.load bytes).2 = state

/-- A bare I420 header with an odd dimension and an empty payload. -/
def Degenerate (bytes : Bytes) : Prop :=
  bytes.length = headerSize ∧ formatFromMagic bytes = some .i420 ∧
    (1 ≤ readLe32 bytes 8 ∧ readLe32 bytes 8 ≤ maxDimension) ∧
    (1 ≤ readLe32 bytes 12 ∧ readLe32 bytes 12 ≤ maxDimension) ∧
    readLe32 bytes 8 * readLe32 bytes 12 ≤ maxPixels ∧
    (readLe32 bytes 8 % 2 = 1 ∨ readLe32 bytes 12 % 2 = 1) ∧ readLe32 bytes 16 = 0

theorem degenerate_iff : Degenerate bytes ↔
    ∃ frame, RgbFrame.load bytes = some frame ∧ frame.pixels = [] := by
  constructor
  · rintro ⟨hl, hf, hw, hh, ha, hodd, hp⟩
    have hr : bytes.drop headerSize = [] := drop_eq_nil_of_le hl.le
    have hen := encode_of_header hf hl.ge (by rw [hr, hp]; rfl)
    have hexp : expectedPayload .i420 (readLe32 bytes 8) (readLe32 bytes 12) = 0 :=
      if_neg (by omega)
    have hlo : RgbFrame.Loadable ⟨.i420, readLe32 bytes 8, readLe32 bytes 12,
        readLe32 bytes 20, bytes.drop headerSize⟩ :=
      ⟨hw.1, hh.1, hw.2, hh.2, ha, readLe32_lt _ _, by rw [hr, hexp]; rfl⟩
    exact ⟨_, load_eq_some_iff.mpr ⟨hlo, hen⟩, hr⟩
  · rintro ⟨frame, hld, he⟩
    obtain ⟨h, rfl⟩ := load_eq_some_iff.mp hld
    obtain ⟨hf, hwi, hhe, hp, -, -⟩ := header_encode h
    have ha : 0 < frame.width * frame.height := Nat.mul_pos h.width_pos h.height_pos
    have hl := h.payload
    rw [he, length_nil] at hl
    rw [Degenerate, length_encode, hf, hwi, hhe, hp, he]
    cases hc : frame.format with
    | rgb888 =>
      rw [hc, expectedPayload] at hl
      omega
    | i420 =>
      rw [hc, expectedPayload] at hl
      refine ⟨rfl, rfl, ⟨h.width_pos, h.width_le⟩, ⟨h.height_pos, h.height_le⟩, h.pixels_le, ?_, rfl⟩
      split_ifs at hl with hev <;> omega

/-- **The programs and the format agree on everything but degenerate headers.** -/
theorem oneGrammar_iff : OneGrammar bytes ↔ ¬Degenerate bytes := by
  constructor
  · intro h hd
    obtain ⟨frame, hl, he⟩ := degenerate_iff.mp hd
    have hv := (h.accepted .reset (by rw [load_of_eq_some hl])).1
    rw [load_of_eq_some hl, FrameState.valid, RgbFrame.stored, he] at hv
    cases hv
  · intro h
    refine ⟨fun state => ?_, publishes_iff, thumbnailSource_eq_zero_iff, fun state hl => ?_,
      fun state hl => ?_⟩
    · rw [isFrame_iff_load]
      cases hl : RgbFrame.load bytes with
      | none => simp [load_of_eq_none hl]
      | some frame =>
        refine iff_of_true (by rw [load_of_eq_some hl]) ⟨frame, rfl, fun he => ?_⟩
        exact h (degenerate_iff.mpr ⟨frame, hl, he⟩)
    · cases hf : RgbFrame.load bytes with
      | none =>
        rw [load_of_eq_none hf] at hl
        cases hl
      | some frame =>
        have hp : frame.pixels ≠ [] := fun he => h (degenerate_iff.mpr ⟨frame, hf, he⟩)
        obtain ⟨hlo, hen⟩ := load_eq_some_iff.mp hf
        rw [load_of_eq_some hf]
        refine ⟨?_, frame, documented_iff.mpr ⟨hlo, hp⟩, hen, rfl⟩
        rw [FrameState.valid, RgbFrame.stored, Bool.not_eq_true', isEmpty_eq_false_iff]
        exact hp
    · cases hf : RgbFrame.load bytes with
      | none => rw [load_of_eq_none hf]
      | some frame =>
        rw [load_of_eq_some hf] at hl
        cases hl

/-- The header of an I420 frame of one pixel, which has no payload. -/
def bareHeader : Bytes := RgbFrame.encode ⟨.i420, 1, 1, 0, []⟩

/-- The camera takes it over the frame it has and shows nothing; the publisher refuses it. -/
theorem bareHeader_disagrees : (onePixel.stored.load bareHeader).1 = true ∧
    (onePixel.stored.load bareHeader).2.valid = false ∧ thumbnailSource bareHeader = 3 ∧
    readFrame bareHeader = .refused 3 ∧ ¬OneGrammar bareHeader := by
  refine ⟨by decide, by decide, by decide, by decide, fun h => ?_⟩
  have hv := (h.accepted onePixel.stored (by decide)).1
  exact absurd hv (by decide)

end Vcam
