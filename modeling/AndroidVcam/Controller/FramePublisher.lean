import AndroidVcam.Lib.Wire
import AndroidVcam.Controller.Checks

/-!
# Publishing frames

`native/frame_publisher.c` reads frames from its standard input and replaces the frame file of a
provider with each of them; `RgbFrame::load` of `hal/src/RgbFrame.cpp` reads the file.

* `FrameFormat`, `expectedPayload`: the two pixel formats, which both programs know;
* `RgbFrame.load`; `readFrame_eq_frame`: the frames that the publisher takes;
* `Ready`, **`run_publishFrames`**: what a run of the publisher leaves in the frame file.
-/

namespace Vcam

open TextFile FileTree Shell Wire

/-! ## Bytes in files -/

def byteChar (b : UInt8) : Char := Char.ofNat b.toNat

def charByte (c : Char) : UInt8 := c.toNat.toUInt8

theorem charByte_byteChar (b : UInt8) : charByte (byteChar b) = b := by
  have hv : b.toNat.isValidChar := .inl (by have := b.toNat_lt; omega)
  rw [charByte, byteChar, Char.toNat_ofNat, if_pos hv]
  exact UInt8.ofNat_toNat

def byteText (bytes : Bytes) : Text := bytes.map byteChar

def textBytes (text : Text) : Bytes := text.map charByte

theorem textBytes_byteText (bytes : Bytes) : textBytes (byteText bytes) = bytes := by
  rw [textBytes, byteText, List.map_map]
  exact (List.map_congr_left fun b _ => charByte_byteChar b).trans (List.map_id bytes)

/-! ## Frames -/

def headerSize : ℕ := 24

def maxDimension : ℕ := 4096

def maxPixels : ℕ := 4096 * 3072

def literal (s : String) : Bytes := s.toList.map charByte

inductive FrameFormat
  | rgb888
  | i420
deriving DecidableEq

def formatFromMagic (bytes : Bytes) : Option FrameFormat :=
  if bytes.take 8 = literal "VCAMRGB1" then some .rgb888
  else if bytes.take 8 = literal "VCAMYUV1" then some .i420
  else none

/-- `expected_payload`, `RgbFrame::expectedPayload`; 0 for odd I420 dimensions. -/
def expectedPayload (format : FrameFormat) (width height : ℕ) : ℕ :=
  match format with
  | .rgb888 => width * height * 3
  | .i420 => if width % 2 = 0 ∧ height % 2 = 0 then width * height + width * height / 2 else 0

def readLe32 (bytes : Bytes) (offset : ℕ) : ℕ := leValue ((bytes.drop offset).take 4)

namespace FramePublisher

/-- What the publisher finds at the start of its input. -/
inductive FrameRead
  /-- The input has ended. -/
  | finished
  /-- No header, or one with other dimensions. -/
  | refused (status : ℕ)
  /-- The input ends inside the frame. -/
  | truncated
  | frame (bytes rest : Bytes)
deriving DecidableEq

def readFrame (input : Bytes) : FrameRead :=
  if input = [] then .finished
  else if input.length < headerSize then .refused 2
  else match formatFromMagic input with
    | none => .refused 2
    | some format =>
      let width := readLe32 input 8
      let height := readLe32 input 12
      let payloadSize := readLe32 input 16
      let expected := expectedPayload format width height
      if width = 0 ∨ height = 0 ∨ width > maxDimension ∨ height > maxDimension ∨
          width * height > maxPixels ∨ expected = 0 ∨ expected ≠ payloadSize then .refused 3
      else if input.length < headerSize + payloadSize then .truncated
      else .frame (input.take (headerSize + payloadSize)) (input.drop (headerSize + payloadSize))

/-- The loop of `main`. Every frame is shorter than its input, so the rounds are enough. One `write`
stands for `open`, the writes and `close`: it fails as `open` does, and the statuses 5 and 7 of the
other calls are those of `Frame.PublisherStream`, which has each call. -/
def publishFrames (destination temporary : Text) : ℕ → Bytes → Script ℕ
  | 0, _ => return 0
  | rounds + 1, input =>
    match readFrame input with
    | .finished => return 0
    | .refused status => return status
    | .truncated => do
      if !(← Script.status (.write temporary (byteText input))) then return 4
      else
        Script.exec_ (.remove temporary)
        return 6
    | .frame bytes rest => do
      if !(← Script.status (.write temporary (byteText bytes))) then return 4
      else if !(← Script.status (.rename temporary destination)) then
        Script.exec_ (.remove temporary)
        return 8
      else publishFrames destination temporary rounds rest

def kProviderPrefix : Text := "/data/vendor/camera/vcam/providers/"

def kDefaultDestinationPath : Text := "/data/vendor/camera/vcam/source.rgb"

def publisherMain (destination : Text) (input : Bytes) : Script ℕ :=
  if destination ≠ kDefaultDestinationPath ∧ !(kProviderPrefix.isPrefixOf destination) then return 64
  else if 512 ≤ destination.length + 4 then return 64
  else publishFrames destination (destination ++ ".new") (input.length + 1) input

def framesIn : ℕ → Bytes → List Bytes
  | 0, _ => []
  | rounds + 1, input =>
    match readFrame input with
    | .frame bytes rest => bytes :: framesIn rounds rest
    | _ => []

end FramePublisher

/-! ## The reader of a frame file -/

structure RgbFrame where
  format : FrameFormat
  width : ℕ
  height : ℕ
  sequence : ℕ
  pixels : Bytes
deriving DecidableEq

namespace RgbFrame

def load (bytes : Bytes) : Option RgbFrame :=
  if bytes.length < headerSize then none
  else
    let width := readLe32 bytes 8
    let height := readLe32 bytes 12
    let payloadSize := readLe32 bytes 16
    match formatFromMagic bytes with
    | none => none
    | some format =>
      if width = 0 ∨ height = 0 ∨ width > maxDimension ∨ height > maxDimension ∨
          width * height > maxPixels then none
      else
        let expected := expectedPayload format width height
        if expected > 2 ^ 32 - 1 ∨ payloadSize ≠ expected ∨
            bytes.length ≠ headerSize + expected then none
        else some ⟨format, width, height, readLe32 bytes 20, bytes.drop headerSize⟩

def valid (frame : RgbFrame) : Bool := !frame.pixels.isEmpty

end RgbFrame

variable {bytes input rest : Bytes}

theorem readLe32_take {offset l : ℕ} (h : offset + 4 ≤ l) :
    readLe32 (bytes.take l) offset = readLe32 bytes offset := by
  rw [readLe32, readLe32, List.drop_take, List.take_take, min_eq_left (by omega)]

theorem formatFromMagic_take {bytes : Bytes} {l : ℕ} (h : 8 ≤ l) :
    formatFromMagic (bytes.take l) = formatFromMagic bytes := by
  rw [formatFromMagic, formatFromMagic, List.take_take, min_eq_left h]

theorem readFrame_eq_frame (h : FramePublisher.readFrame input = .frame bytes rest) :
    ∃ format, formatFromMagic input = some format ∧
      ¬(readLe32 input 8 = 0 ∨ readLe32 input 12 = 0 ∨ readLe32 input 8 > maxDimension ∨
        readLe32 input 12 > maxDimension ∨ readLe32 input 8 * readLe32 input 12 > maxPixels) ∧
      expectedPayload format (readLe32 input 8) (readLe32 input 12) = readLe32 input 16 ∧
      0 < readLe32 input 16 ∧ headerSize + readLe32 input 16 ≤ input.length ∧
      bytes = input.take (headerSize + readLe32 input 16) ∧
      rest = input.drop (headerSize + readLe32 input 16) := by
  rw [FramePublisher.readFrame] at h
  split_ifs at h with hem hhe
  split at h
  · cases h
  · rename_i format hf
    dsimp only at h
    split_ifs at h with hbad hs
    obtain ⟨rfl, rfl⟩ := FramePublisher.FrameRead.frame.inj h
    push Not at hbad
    obtain ⟨hw, hh, hm, hma, hpi, hp, he⟩ := hbad
    refine ⟨format, hf, ?_, he, ?_, not_lt.mp hs, rfl, rfl⟩
    · push Not
      exact ⟨hw, hh, hm, hma, hpi⟩
    · exact Nat.pos_of_ne_zero (he ▸ hp)

theorem readLe32_lt (b : Bytes) (o : ℕ) : readLe32 b o < 2 ^ 32 := by
  have hlt := leValue_lt ((b.drop o).take 4)
  have hl : ((b.drop o).take 4).length ≤ 4 := List.length_take_le 4 _
  calc readLe32 b o < 256 ^ ((b.drop o).take 4).length := hlt
    _ ≤ 256 ^ 4 := Nat.pow_le_pow_right (by norm_num) hl
    _ = 2 ^ 32 := by norm_num

theorem length_of_readFrame
    (h : FramePublisher.readFrame input = .frame bytes rest) : rest.length < input.length := by
  obtain ⟨format, -, -, -, hp, hl, -, rfl⟩ := readFrame_eq_frame h
  rw [List.length_drop]
  omega

/-! ## Runs of the publisher -/

namespace FramePublisher

structure Ready (t : Tree) (destination temporary : Text) : Prop where
  writable : Writable t destination
  draft : Writable t temporary
  apart : location temporary ≠ location destination

theorem Ready.congr {t t' : Tree} {d temporary : Text} (h : Ready t d temporary)
    (hs : t.SameDirectories t') : Ready t' d temporary :=
  ⟨h.writable.congr hs, h.draft.congr hs, h.apart⟩

def exitStatus : ℕ → Bytes → ℕ
  | 0, _ => 0
  | rounds + 1, input =>
    match readFrame input with
    | .finished => 0
    | .refused status => status
    | .truncated => 6
    | .frame _ rest => exitStatus rounds rest

variable {t : Tree} {destination temporary : Text}

theorem exec_publish (h : Ready t destination temporary) (content : Text) :
    ∃ t₁ t₂, exec t (.write temporary content) .ok = (t₁, true) ∧
      exec t₁ (.rename temporary destination) .ok = (t₂, true) ∧ t.SameDirectories t₂ ∧
      t₂.content destination = some content := by
  obtain ⟨t₁, hwr, hw⟩ := exec_write h.draft content .ok
  obtain ⟨t₂, hre, hr⟩ :=
    exec_rename (h.writable.congr hw.directories) h.apart hw.content_self
  exact ⟨t₁, t₂, hwr, hre, hw.directories.trans hr.directories,
    hr.content_self⟩

theorem exec_discard (h : Ready t destination temporary) (c : Text) :
    ∃ t₁, exec t (.write temporary c) .ok = (t₁, true) ∧
      (exec t₁ (.remove temporary) .ok).1.content destination = t.content destination := by
  obtain ⟨t₁, hwr, hw⟩ := exec_write h.draft c .ok
  refine ⟨t₁, hwr, ?_⟩
  exact (@content_exec (.remove temporary) rfl _ h.apart.symm t₁ .ok).trans
    (hw.content_other h.apart.symm)

/-- **The frame file holds the last frame of the input afterwards**, or what it held before. -/
theorem run_publishFrames (h : Ready t destination temporary) (r : ℕ) (i : Bytes) :
    ((publishFrames destination temporary r i).run noFailure t).value =
        exitStatus r i ∧
      ((publishFrames destination temporary r i).run noFailure t).tree.content destination =
        ((framesIn r i).getLast?.map byteText).or (t.content destination) := by
  induction r generalizing t i with
  | zero => exact ⟨rfl, rfl⟩
  | succ r ih =>
    rw [publishFrames, exitStatus, framesIn]
    cases hre : readFrame i with
    | finished => exact ⟨rfl, rfl⟩
    | refused status => exact ⟨rfl, rfl⟩
    | truncated =>
      obtain ⟨t₁, hw, hc⟩ := exec_discard h (byteText i)
      simp only [Script.run_bind, Script.run_status, noFailure, hw]
      exact ⟨rfl, hc⟩
    | frame bytes rest =>
      obtain ⟨t₁, t₂, hw, hr, hs, hc⟩ := exec_publish h (byteText bytes)
      simp only [Script.run_bind, Script.run_status, noFailure, hw, hr, Bool.not_true,
        Bool.false_eq_true, if_false, List.getLast?_cons]
      refine ⟨(ih (h.congr hs) rest).1, ((ih (h.congr hs) rest).2).trans ?_⟩
      rw [hc]
      cases (framesIn r rest).getLast? <;> rfl

end FramePublisher

end Vcam
