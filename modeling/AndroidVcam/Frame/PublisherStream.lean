import AndroidVcam.Frame.Grammar
import AndroidVcam.Frame.Streamer
import AndroidVcam.Lib.Machine

/-!
# The publisher, call by call

`main` of `native/frame_publisher.c` as a machine that takes one system call at a time: its reads
deliver any number of bytes or are interrupted, and so do its writes. What the publisher leaves behind
depends on the bytes of its standard input only.

* `LongestFrames`, **`publisher_stream`**: how every run ends, and what it leaves of an older
  temporary file (`stale_temporary_remains`);
* **`publisher_refines`**: the run ends as that of `FramePublisher.publisherMain`.
-/

namespace Vcam.PublisherStream

open TextFile FileTree Shell FramePublisher List Machine

/-! ## The program -/

def bufferSize : ℕ := 256 * 1024

inductive Answer
  /-- It succeeds; a `read` or `write` transfers up to `count + 1` bytes. -/
  | done (count : ℕ)
  /-- It fails with `EINTR`. -/
  | interrupted
  | failed
deriving DecidableEq

/-- The next system call, with the variables that are in use. -/
inductive Location
  /-- `read` in the `read_exact` of the header; `got` is in the buffer. -/
  | readHeader (got : Bytes)
  | openTemporary (header : Bytes)
  | setMode (header : Bytes)
  | setOwner (header : Bytes)
  /-- `write` in the `write_exact` of the header; `left` is not written yet. -/
  | writeHeader (header left : Bytes)
  /-- `read` in the `read_exact` of a chunk of the `remaining` payload. -/
  | readChunk (remaining : ℕ) (got : Bytes)
  /-- `write` in the `write_exact` of a chunk, behind which `remaining` bytes follow. -/
  | writeChunk (remaining : ℕ) (left : Bytes)
  | close
  | rename
  /-- `close(output)` before a failure. -/
  | closeFailed (status : ℕ)
  /-- `unlink(temporary_path)` before a failure. -/
  | unlink (status : ℕ)
  | exited (status : ℕ)
deriving DecidableEq

structure State where
  location : Location
  /-- The bytes of standard input that were not read. -/
  input : Bytes
  files : StreamFiles

def headerStatus (header : Bytes) : ℕ :=
  match formatFromMagic header with
  | none => 2
  | some format =>
    let width := readLe32 header 8
    let height := readLe32 header 12
    let payloadSize := readLe32 header 16
    let expected := expectedPayload format width height
    if width = 0 ∨ height = 0 ∨ width > maxDimension ∨ height > maxDimension ∨
        width * height > maxPixels ∨ expected = 0 ∨ expected ≠ payloadSize then 3
    else 0

def headerRead (header : Bytes) : Location :=
  if headerStatus header = 0 then .openTemporary header else .exited (headerStatus header)

def nextChunk (remaining : ℕ) : Location := if remaining = 0 then .close else .readChunk remaining []

def chunkSize (remaining : ℕ) : ℕ := min remaining bufferSize

def append (files : StreamFiles) (bytes : Bytes) : StreamFiles :=
  { files with temporary := files.temporary.map (· ++ bytes) }

def step (s : State) (answer : Answer) : State :=
  match s.location, answer with
  | .readHeader _, .interrupted => s
  | .readHeader _, .failed => { s with location := .exited 2 }
  | .readHeader got, .done count =>
    -- `read_exact` tells the end of the input between two frames from one inside a header.
    if s.input = [] then { s with location := .exited (if got = [] then 0 else 2) }
    else
      let count := min (count + 1) (headerSize - got.length)
      let got := got ++ s.input.take count
      { s with
        location := if got.length < headerSize then .readHeader got else headerRead got
        input := s.input.drop count }
  | .openTemporary header, .done _ =>
    { s with location := .setMode header, files := { s.files with temporary := some [] } }
  | .openTemporary _, _ => { s with location := .exited 4 }
  | .setMode header, .done _ => { s with location := .setOwner header }
  | .setMode _, _ => { s with location := .closeFailed 5 }
  | .setOwner header, .done _ => { s with location := .writeHeader header header }
  | .setOwner _, _ => { s with location := .closeFailed 5 }
  | .writeHeader _ _, .interrupted => s
  | .writeHeader _ _, .failed => { s with location := .closeFailed 5 }
  | .writeHeader header left, .done count =>
    { s with
      location := if left.drop (count + 1) = [] then nextChunk (readLe32 header 16)
        else .writeHeader header (left.drop (count + 1))
      files := append s.files (left.take (count + 1)) }
  | .readChunk _ _, .interrupted => s
  | .readChunk _ _, .failed => { s with location := .closeFailed 6 }
  | .readChunk remaining got, .done count =>
    if s.input = [] then { s with location := .closeFailed 6 }
    else
      let count := min (count + 1) (chunkSize remaining - got.length)
      let got := got ++ s.input.take count
      { s with
        location := if got.length < chunkSize remaining then .readChunk remaining got
          else .writeChunk (remaining - chunkSize remaining) got
        input := s.input.drop count }
  | .writeChunk _ _, .interrupted => s
  | .writeChunk _ _, .failed => { s with location := .closeFailed 6 }
  | .writeChunk remaining left, .done count =>
    { s with
      location := if left.drop (count + 1) = [] then nextChunk remaining
        else .writeChunk remaining (left.drop (count + 1))
      files := append s.files (left.take (count + 1)) }
  | .close, .done _ => { s with location := .rename }
  | .close, _ => { s with location := .unlink 7 }
  | .rename, .done _ => ⟨.readHeader [], s.input, ⟨s.files.temporary, none⟩⟩
  | .rename, _ => { s with location := .unlink 8 }
  | .closeFailed status, _ => { s with location := .unlink status }
  | .unlink status, .done _ => ⟨.exited status, s.input, { s.files with temporary := none }⟩
  | .unlink status, _ => { s with location := .exited status }
  | .exited _, _ => s

/-- The start of `main` with a destination. -/
def start (destination : Text) (input : Bytes) (files : StreamFiles) : State where
  location :=
    if destination ≠ kDefaultDestinationPath ∧ !(kProviderPrefix.isPrefixOf destination) then
      .exited 64
    else if 512 ≤ destination.length + 4 then .exited 64
    else .readHeader []
  input := input
  files := files

/-! ## Inputs -/

variable {current first rest header : Bytes}

theorem headerStatus_append (h : headerSize ≤ first.length) :
    headerStatus (first ++ rest) = headerStatus first ∧
      readLe32 (first ++ rest) 16 = readLe32 first 16 := by
  have ht : (first ++ rest).take headerSize = first.take headerSize :=
    take_append_of_le_length h
  have hs : headerSize = 24 := rfl
  have hr (offset : ℕ) (ho : offset + 4 ≤ headerSize) :
      readLe32 (first ++ rest) offset = readLe32 first offset := by
    rw [← readLe32_take ho, ht, readLe32_take ho]
  have hf : formatFromMagic (first ++ rest) = formatFromMagic first := by
    rw [← @formatFromMagic_take _ headerSize (by omega), ht, formatFromMagic_take (by omega)]
  refine ⟨?_, hr 16 (by omega)⟩
  rw [headerStatus, headerStatus, hf, hr 8 (by omega), hr 12 (by omega),
    hr 16 (by omega)]

theorem isFrame_iff_status : IsFrame current ↔
    headerStatus current = 0 ∧ current.length = headerSize + readLe32 current 16 := by
  rw [isFrame_iff_header, headerStatus]
  cases hf : formatFromMagic current with
  | none => simp
  | some format =>
    simp only [Option.some.injEq, exists_eq_left']
    rw [ite_eq_right_iff]
    unfold BadHeader
    omega

def HasFrame (current : Bytes) : Prop := ∃ frame rest, IsFrame frame ∧ current = frame ++ rest

theorem hasFrame_iff : HasFrame current ↔ headerSize ≤ current.length ∧ headerStatus current = 0 ∧
    headerSize + readLe32 current 16 ≤ current.length := by
  constructor
  · rintro ⟨frame, rest, hf, rfl⟩
    obtain ⟨hs, hl⟩ := isFrame_iff_status.mp hf
    obtain ⟨hsa, hp⟩ := @headerStatus_append frame rest (by omega)
    rw [hsa, hp, length_append]
    exact ⟨by omega, hs, by omega⟩
  · rintro ⟨hh, hs, hl⟩
    have hsp := (take_append_drop (headerSize + readLe32 current 16) current).symm
    have hfi : (current.take (headerSize + readLe32 current 16)).length =
        headerSize + readLe32 current 16 := length_take_of_le hl
    obtain ⟨hsa, hp⟩ := @headerStatus_append (current.take (headerSize + readLe32 current 16))
      (current.drop (headerSize + readLe32 current 16)) (by omega)
    rw [← hsp] at hsa hp
    exact ⟨_, _, isFrame_iff_status.mpr ⟨hsa.symm.trans hs,
      hfi.trans (congrArg (headerSize + ·) hp)⟩, hsp⟩

/-- The first bytes are a header that passes the checks. -/
def AcceptedHeader (bytes : Bytes) : Prop :=
  headerSize ≤ bytes.length ∧ headerStatus bytes = 0

instance (bytes : Bytes) : Decidable (AcceptedHeader bytes) :=
  inferInstanceAs (Decidable (_ ∧ _))

theorem readFrame_eq : readFrame current =
    if current = [] then .finished
    else if current.length < headerSize then .refused 2
    else if headerStatus current ≠ 0 then .refused (headerStatus current)
    else if current.length < headerSize + readLe32 current 16 then .truncated
    else .frame (current.take (headerSize + readLe32 current 16))
      (current.drop (headerSize + readLe32 current 16)) := by
  rw [readFrame]
  by_cases hn : current = []
  · rw [if_pos hn, if_pos hn]
  by_cases hl : current.length < headerSize
  · rw [if_neg hn, if_neg hn, if_pos hl, if_pos hl]
  rw [if_neg hn, if_neg hn, if_neg hl, if_neg hl, headerStatus]
  cases formatFromMagic current with
  | none => rfl
  | some format =>
    dsimp only
    split_ifs <;> first | rfl | omega

theorem readFrame_append {frame : Bytes} (h : IsFrame frame) (rest : Bytes) :
    readFrame (frame ++ rest) = .frame frame rest := by
  obtain ⟨hs, hl⟩ := isFrame_iff_status.mp h
  obtain ⟨hst, hp⟩ := @headerStatus_append frame rest (by omega)
  have hsi : headerSize = 24 := rfl
  have hne : frame ++ rest ≠ [] := by
    intro he
    rw [(append_eq_nil_iff.mp he).1, length_nil] at hl
    omega
  rw [readFrame_eq, if_neg hne, if_neg (by rw [length_append]; omega), hst, hs,
    if_neg (by decide), hp, ← hl, if_neg (by rw [length_append]; omega), take_left,
    drop_left]

/-- The status with which the loop is left at this input; a frame keeps it going. -/
def roundStatus (current : Bytes) : Option ℕ :=
  match readFrame current with
  | .finished => some 0
  | .refused status => some status
  | .truncated => some 6
  | .frame _ _ => none

theorem of_roundStatus {status : ℕ} (h : roundStatus current = some status) :
    (status = 0 ↔ current = []) ∧ ¬HasFrame current := by
  rw [roundStatus, readFrame_eq] at h
  rw [hasFrame_iff]
  split_ifs at h with hn hl hs ht <;> cases h
  · exact ⟨iff_of_true rfl hn, fun hf => by rw [hn] at hf; exact absurd hf.1 (by decide)⟩
  · exact ⟨iff_of_false (by decide) hn, fun hf => by omega⟩
  · exact ⟨iff_of_false hs hn, fun hf => hs hf.2.1⟩
  · exact ⟨iff_of_false (by decide) hn, fun hf => by omega⟩

theorem isFrame_append_inj {f o rest rest' : Bytes} (hf : IsFrame f)
    (ho : IsFrame o) (h : f ++ rest = o ++ rest') : f = o ∧ rest = rest' := by
  obtain ⟨-, hl⟩ := isFrame_iff_status.mp hf
  obtain ⟨-, hl'⟩ := isFrame_iff_status.mp ho
  have hs := (@headerStatus_append f rest (by omega)).2
  have hs' := (@headerStatus_append o rest' (by omega)).2
  rw [h] at hs
  exact append_inj h (by omega)

/-! ## One round -/

/-- The calls succeed; only `read` and `write` may be interrupted. -/
def Succeeds (s : State) (answer : Answer) : Prop :=
  answer ≠ .failed ∧ (answer = .interrupted → match s.location with
    | .readHeader _ | .writeHeader _ _ | .readChunk _ _ | .writeChunk _ _ => True
    | _ => False)

/-- A complete header that passed the checks. -/
def Checked (header : Bytes) : Prop := header.length = headerSize ∧ headerStatus header = 0

/-- The temporary file holds the beginning of a frame of which `missing` bytes are to come. -/
structure Draft (files : StreamFiles) (written : Bytes) (missing : ℕ) : Prop where
  content : files.temporary = some written
  header : headerSize ≤ written.length
  status : headerStatus written = 0
  length : written.length + missing = headerSize + readLe32 written 16

/-- What a round has made of `current`, the input from the end of the last frame on; `settled` says
what there is of a temporary file before the round opens it. -/
def Progress (settled : Prop) (current : Bytes) (s : State) : Prop :=
  match s.location with
  | .readHeader got => got.length < headerSize ∧ current = got ++ s.input ∧ settled
  | .openTemporary header => Checked header ∧ current = header ++ s.input ∧ settled
  | .setMode header | .setOwner header =>
    Checked header ∧ current = header ++ s.input ∧ s.files.temporary = some []
  | .writeHeader header left => Checked header ∧ current = header ++ s.input ∧ left ≠ [] ∧
    ∃ written, s.files.temporary = some written ∧ written ++ left = header
  | .readChunk remaining got => got.length < chunkSize remaining ∧
    ∃ written, Draft s.files written remaining ∧ current = written ++ (got ++ s.input)
  | .writeChunk remaining left => left ≠ [] ∧
    ∃ written, Draft s.files written (left.length + remaining) ∧ current = written ++ (left ++ s.input)
  | .close | .rename => ∃ frame, s.files.temporary = some frame ∧ IsFrame frame ∧
    current = frame ++ s.input
  | .closeFailed status | .unlink status =>
    roundStatus current = some status ∧ AcceptedHeader current
  | .exited status => roundStatus current = some status ∧
    (settled ∧ ¬AcceptedHeader current ∨ AcceptedHeader current ∧ s.files.temporary = none)

section Round

variable {settled s' : Prop} {input got left written : Bytes} {files : StreamFiles}
  {c remaining : ℕ}

theorem step_readHeader {n : ℕ} (hn : min (c + 1) (headerSize - got.length) = n) :
    step ⟨.readHeader got, input, files⟩ (.done c) =
      if input = [] then ⟨.exited (if got = [] then 0 else 2), input, files⟩
      else
        ⟨if (got ++ input.take n).length < headerSize then .readHeader (got ++ input.take n)
          else headerRead (got ++ input.take n), input.drop n, files⟩ := by
  subst hn
  rfl

theorem step_writeHeader : step ⟨.writeHeader header left, input, files⟩ (.done c) =
    ⟨if left.drop (c + 1) = [] then nextChunk (readLe32 header 16)
        else .writeHeader header (left.drop (c + 1)),
      input, append files (left.take (c + 1))⟩ := rfl

theorem step_readChunk {n : ℕ} (hn : min (c + 1) (chunkSize remaining - got.length) = n) :
    step ⟨.readChunk remaining got, input, files⟩ (.done c) =
      if input = [] then ⟨.closeFailed 6, input, files⟩
      else
        ⟨if (got ++ input.take n).length < chunkSize remaining then
            .readChunk remaining (got ++ input.take n)
          else .writeChunk (remaining - chunkSize remaining) (got ++ input.take n),
          input.drop n, files⟩ := by
  subst hn
  rfl

theorem step_writeChunk : step ⟨.writeChunk remaining left, input, files⟩ (.done c) =
    ⟨if left.drop (c + 1) = [] then nextChunk remaining
        else .writeChunk remaining (left.drop (c + 1)),
      input, append files (left.take (c + 1))⟩ := rfl

theorem Draft.isFrame (h : Draft files written 0) : IsFrame written :=
  isFrame_iff_status.mpr ⟨h.status, h.length⟩

/-- Behind a transfer into the temporary file the next chunk follows, or the end of the frame. -/
theorem progress_nextChunk (h : Draft files written remaining)
    (hc : current = written ++ input) :
    Progress settled current ⟨nextChunk remaining, input, files⟩ := by
  rw [nextChunk]
  split_ifs with hz
  · subst hz
    exact ⟨written, h.content, h.isFrame, hc⟩
  · refine ⟨?_, written, h, hc⟩
    rw [length_nil, chunkSize, bufferSize]
    omega

theorem progress_readHeader (h : Progress settled current ⟨.readHeader got, input, files⟩) :
    Progress settled current (step ⟨.readHeader got, input, files⟩ (.done c)) := by
  obtain ⟨hgot, hc, hs⟩ := h
  rw [step_readHeader rfl]
  split_ifs with hend hn hm
  · -- The input ends between two frames.
    subst hend hn
    rw [hc]
    exact ⟨rfl, .inl ⟨hs, show ¬AcceptedHeader [] by decide⟩⟩
  · subst hend
    rw [append_nil] at hc
    subst hc
    refine ⟨?_, .inl ⟨hs, fun ha => ?_⟩⟩
    · rw [roundStatus, readFrame_eq, if_neg hn, if_pos hgot]
    · have := ha.1
      omega
  · refine ⟨hm, ?_, hs⟩
    rw [hc, append_assoc, take_append_drop]
  · -- The header is complete.
    have hl : (got ++ input.take (min (c + 1) (headerSize - got.length))).length =
        headerSize := by
      rw [length_append, length_take] at hm ⊢
      omega
    have hc' : current = (got ++ input.take (min (c + 1) (headerSize - got.length))) ++
        input.drop (min (c + 1) (headerSize - got.length)) := by
      rw [hc, append_assoc, take_append_drop]
    generalize got ++ input.take (min (c + 1) (headerSize - got.length)) = header at hl hc' ⊢
    rw [headerRead]
    split_ifs with hst
    · exact ⟨⟨hl, hst⟩, hc', hs⟩
    · have hsa : headerStatus current = headerStatus header := by
        rw [hc', (headerStatus_append hl.ge).1]
      have hlen : headerSize ≤ current.length := by
        rw [hc', length_append]
        omega
      refine ⟨?_, .inl ⟨hs, fun ha => hst (hsa ▸ ha.2)⟩⟩
      have hne : current ≠ [] := by
        rintro rfl
        cases hlen
      rw [roundStatus, readFrame_eq, if_neg hne, if_neg (by omega), if_pos (hsa ▸ hst), hsa]

theorem progress_writeHeader (h : Progress settled current ⟨.writeHeader header left, input, files⟩) :
    Progress s' current (step ⟨.writeHeader header left, input, files⟩ (.done c)) := by
  obtain ⟨hc, hcu, hl, written, ht, hw⟩ := h
  have ha : (append files (left.take (c + 1))).temporary =
      some (written ++ left.take (c + 1)) := by
    rw [append, ht]
    rfl
  rw [step_writeHeader]
  split_ifs with hd
  · have hall : written ++ left.take (c + 1) = header := by
      rw [← hw, ← take_append_drop (c + 1) left, hd, append_nil,
        take_take, min_self]
    refine progress_nextChunk ⟨ha, ?_, ?_, ?_⟩ (hall.symm ▸ hcu)
    · rw [hall, hc.1]
    · rw [hall, hc.2]
    · rw [hall, hc.1]
  · refine ⟨hc, hcu, hd, _, ha, ?_⟩
    rw [append_assoc, take_append_drop, hw]

theorem progress_readChunk (h : Progress settled current ⟨.readChunk remaining got, input, files⟩) :
    Progress s' current (step ⟨.readChunk remaining got, input, files⟩ (.done c)) := by
  obtain ⟨hgot, written, hd, hc⟩ := h
  have hch : chunkSize remaining ≤ remaining := min_le_left _ _
  rw [step_readChunk rfl]
  split_ifs with hend hm
  · -- The input ends inside the payload.
    subst hend
    rw [append_nil] at hc
    obtain ⟨hs, hp⟩ := @headerStatus_append written got hd.header
    have hh := hd.header
    have hl := hd.length
    have hcl := congrArg List.length hc
    rw [length_append] at hcl
    rw [← hc] at hs hp
    have hne : current ≠ [] := by
      rintro rfl
      rw [headerSize] at hh
      rw [length_nil] at hcl
      omega
    refine ⟨?_, by omega, hs.trans hd.status⟩
    rw [roundStatus, readFrame_eq, if_neg hne, if_neg (by omega), hs, hd.status,
      if_neg (by decide), if_pos (by omega)]
  · refine ⟨hm, written, hd, ?_⟩
    rw [hc, append_assoc, take_append_drop]
  · have hl : (got ++ input.take (min (c + 1) (chunkSize remaining - got.length))).length =
        chunkSize remaining := by
      rw [length_append, length_take] at hm ⊢
      omega
    refine ⟨fun e => ?_, written, ⟨hd.content, hd.header, hd.status, ?_⟩, ?_⟩
    · rw [e, length_nil] at hl
      omega
    · have := hd.length
      omega
    · rw [hc, append_assoc, take_append_drop]

theorem progress_writeChunk (h : Progress settled current ⟨.writeChunk remaining left, input, files⟩) :
    Progress s' current (step ⟨.writeChunk remaining left, input, files⟩ (.done c)) := by
  obtain ⟨hle, written, hd, hc⟩ := h
  have hs := (take_append_drop (c + 1) left).symm
  have hl := congrArg List.length hs
  rw [length_append] at hl
  obtain ⟨hst, hp⟩ := @headerStatus_append written (left.take (c + 1)) hd.header
  have hn : Draft (append files (left.take (c + 1))) (written ++ left.take (c + 1))
      ((left.drop (c + 1)).length + remaining) := by
    refine ⟨?_, ?_, hst.trans hd.status, ?_⟩
    · rw [append, hd.content]
      rfl
    · have := hd.header
      rw [length_append]
      omega
    · have := hd.length
      rw [length_append, hp]
      omega
  rw [step_writeChunk]
  split_ifs with hdo
  · rw [hdo, length_nil, Nat.zero_add] at hn
    rw [hdo, append_nil] at hs
    refine progress_nextChunk hn ?_
    rw [hc, ← hs, append_assoc]
  · refine ⟨hdo, _, hn, ?_⟩
    rw [hc, append_assoc, ← append_assoc (left.take (c + 1)), ← hs]

end Round

/-! ## Whole runs -/

/-- The input is cut into the frames that were published and the rest. -/
def Invariant (old : StreamFiles) (input : Bytes) (s : State) : Prop :=
  ∃ published current, (∀ frame ∈ published, IsFrame frame) ∧
    input = published.flatten ++ current ∧
    s.files.destination = published.getLast?.or old.destination ∧
    Progress (published = [] ∧ s.files.temporary = old.temporary ∨
      published ≠ [] ∧ s.files.temporary = none) current s

variable {old : StreamFiles} {input : Bytes} {s : State} {a : Answer}

/-- **One call keeps the invariant.** -/
theorem invariant_step (h : Invariant old input s) (hs : Succeeds s a) :
    Invariant old input (step s a) := by
  obtain ⟨published, current, hf, hi, hd, hp⟩ := h
  obtain ⟨hfa, hin⟩ := hs
  obtain ⟨location, rest, files⟩ := s
  cases a with
  | failed => exact absurd rfl hfa
  | interrupted =>
    cases location with
    | readHeader | writeHeader | readChunk | writeChunk =>
      exact ⟨published, current, hf, hi, hd, hp⟩
    | _ => exact absurd (hin rfl) id
  | done c =>
    cases location with
    | readHeader got =>
      have hn := @progress_readHeader _ _ _ _ _ c hp
      have hfi : (step ⟨.readHeader got, rest, files⟩ (.done c)).files = files := by
        rw [step_readHeader rfl]
        split_ifs <;> rfl
      refine ⟨published, current, hf, hi, ?_, ?_⟩
      · rw [hfi]
        exact hd
      · rw [hfi]
        exact hn
    | openTemporary header =>
      obtain ⟨hch, hc, -⟩ := hp
      exact ⟨published, current, hf, hi, hd, hch, hc, rfl⟩
    | setMode header => exact ⟨published, current, hf, hi, hd, hp⟩
    | setOwner header =>
      obtain ⟨hch, hc, ht⟩ := hp
      refine ⟨published, current, hf, hi, hd, hch, hc, ?_, [],
        ht, rfl⟩
      rintro rfl
      cases hch.1
    | writeHeader header left =>
      exact ⟨published, current, hf, hi, hd, progress_writeHeader hp⟩
    | readChunk remaining got =>
      refine ⟨published, current, hf, hi, ?_, progress_readChunk hp⟩
      rw [step_readChunk rfl]
      split_ifs <;> exact hd
    | writeChunk remaining left =>
      exact ⟨published, current, hf, hi, hd, progress_writeChunk hp⟩
    | close => exact ⟨published, current, hf, hi, hd, hp⟩
    | rename =>
      -- The frame is published, and the next round begins behind it.
      obtain ⟨frame, ht, hfr, hc⟩ := hp
      refine ⟨published ++ [frame], rest, ?_, ?_, ?_, by decide, rfl, .inr ⟨by simp, rfl⟩⟩
      · intro other ho
        rcases mem_append.mp ho with ho | ho
        · exact hf other ho
        · exact mem_singleton.mp ho ▸ hfr
      · rw [hi, hc, flatten_append, flatten_singleton, append_assoc]
      · rw [getLast?_append, getLast?_singleton]
        exact ht
    | closeFailed status => exact ⟨published, current, hf, hi, hd, hp⟩
    | unlink status =>
      exact ⟨published, current, hf, hi, hd, hp.1, .inr ⟨hp.2, rfl⟩⟩
    | exited status => exact ⟨published, current, hf, hi, hd, hp⟩

/-- A bound on the calls that are left: a byte of input is read once and written once, and a frame
takes a few calls besides. -/
def callsLeft (s : State) : ℕ := 5 * s.input.length + match s.location with
  | .readHeader got => 4 * got.length + 20
  | .openTemporary header => 3 * header.length + 43
  | .setMode header => 3 * header.length + 42
  | .setOwner header => 3 * header.length + 41
  | .writeHeader _ left => 3 * left.length + 40
  | .readChunk _ got => 3 * got.length + 30
  | .writeChunk _ left => 3 * left.length + 29
  | .close => 25
  | .rename => 24
  | .closeFailed _ => 2
  | .unlink _ => 1
  | .exited _ => 0

def Exited (s : State) : Prop := ∃ status, s.location = .exited status

theorem callsLeft_headerRead (header rest : Bytes) (f : StreamFiles) :
    callsLeft ⟨headerRead header, rest, f⟩ ≤ 5 * rest.length + (3 * header.length + 43) := by
  rw [headerRead]
  split_ifs
  · exact le_rfl
  · exact Nat.add_le_add_left (Nat.zero_le _) _

theorem callsLeft_nextChunk (r : ℕ) (rest : Bytes) (f : StreamFiles) :
    callsLeft ⟨nextChunk r, rest, f⟩ ≤ 5 * rest.length + 30 := by
  rw [nextChunk]
  split_ifs
  · exact Nat.add_le_add_left (show 25 ≤ 30 by decide) _
  · exact le_rfl

/-- **Every call that is not interrupted comes nearer to the end.** -/
theorem callsLeft_step (h : Invariant old input s) (hs : Succeeds s a)
    (hd : a ≠ .interrupted) (hr : ¬Exited s) : callsLeft (step s a) < callsLeft s := by
  obtain ⟨published, current, -, -, -, hpr⟩ := h
  obtain ⟨location, rest, files⟩ := s
  cases a with
  | failed => exact absurd rfl hs.1
  | interrupted => exact absurd rfl hd
  | done c =>
    cases location with
    | readHeader got =>
      obtain ⟨hgot, -, -⟩ := hpr
      rw [step_readHeader rfl]
      split_ifs with hend hn hm
      · simp [callsLeft]
      · simp [callsLeft]
      · have hp := length_pos_iff.mpr hend
        simp only [callsLeft, length_append, length_take, length_drop]
        omega
      · have hp := length_pos_iff.mpr hend
        have hsi : headerSize = 24 := rfl
        refine lt_of_le_of_lt (callsLeft_headerRead _ _ _) ?_
        simp only [callsLeft, length_append, length_take, length_drop] at hm ⊢
        omega
    | writeHeader header left =>
      obtain ⟨-, -, hl, -⟩ := hpr
      have hp := length_pos_iff.mpr hl
      rw [step_writeHeader]
      split_ifs
      · refine lt_of_le_of_lt (callsLeft_nextChunk _ _ _) ?_
        simp only [callsLeft]
        omega
      · simp only [callsLeft, length_drop]
        omega
    | readChunk remaining got =>
      obtain ⟨hgot, -⟩ := hpr
      rw [step_readChunk rfl]
      split_ifs with hend hm
      · simp [callsLeft]
      · have hp := length_pos_iff.mpr hend
        simp only [callsLeft, length_append, length_take, length_drop]
        omega
      · have hp := length_pos_iff.mpr hend
        simp only [callsLeft, length_append, length_take, length_drop]
        omega
    | writeChunk remaining left =>
      obtain ⟨hl, -⟩ := hpr
      have hp := length_pos_iff.mpr hl
      rw [step_writeChunk]
      split_ifs
      · refine lt_of_le_of_lt (callsLeft_nextChunk _ _ _) ?_
        simp only [callsLeft]
        omega
      · simp only [callsLeft, length_drop]
        omega
    | exited status => exact absurd ⟨status, rfl⟩ hr
    | openTemporary | setMode | setOwner | close | rename | closeFailed | unlink =>
      simp [callsLeft, step]

/-! ## The stream -/

/-- A list of frames at the beginning of the input. -/
def Frames (input : Bytes) (frames : List Bytes) : Prop :=
  (∀ frame ∈ frames, IsFrame frame) ∧ frames.flatten <+: input

/-- The frames of the longest beginning of the input that consists of frames. -/
def LongestFrames (input : Bytes) (frames : List Bytes) : Prop :=
  Frames input frames ∧ ∀ other, Frames input other → other.flatten.length ≤ frames.flatten.length

/-- Frames behind which no frame follows are the longest beginning. -/
theorem longestFrames_of_not_hasFrame {published : List Bytes} {c : Bytes}
    (hfr : ∀ frame ∈ published, IsFrame frame) (hend : ¬HasFrame c) :
    LongestFrames (published.flatten ++ c) published := by
  refine ⟨⟨hfr, prefix_append _ _⟩, ?_⟩
  rintro other ⟨ho, rest, hr⟩
  induction published generalizing other with
  | nil =>
    cases other with
    | nil => exact le_rfl
    | cons frame other =>
      obtain ⟨hf, -⟩ := forall_mem_cons.mp ho
      refine absurd ⟨frame, other.flatten ++ rest, hf, ?_⟩ hend
      rw [← append_assoc, ← flatten_cons]
      exact hr.symm
  | cons first published ih =>
    cases other with
    | nil => exact Nat.zero_le _
    | cons frame other =>
      obtain ⟨hf, ho⟩ := forall_mem_cons.mp ho
      obtain ⟨hfi, hb⟩ := forall_mem_cons.mp hfr
      rw [flatten_cons, flatten_cons, append_assoc, append_assoc] at hr
      obtain ⟨rfl, ht⟩ := isFrame_append_inj hf hfi hr
      have := ih hb other ho ht
      rw [flatten_cons, flatten_cons, length_append, length_append]
      omega

/-- The destination holds what it held before, or one frame of the input. -/
def OldOrFrame (old : StreamFiles) (input : Bytes) (files : StreamFiles) : Prop :=
  files.destination = old.destination ∨
    ∃ before frame, Frames input (before ++ [frame]) ∧ files.destination = some frame

/-- What the program leaves behind when it ends with a status. -/
structure Ended (old : StreamFiles) (input : Bytes) (files : StreamFiles) (status : ℕ) :
    Prop where
  destination : ∃ frames, LongestFrames input frames ∧
    files.destination = frames.getLast?.or old.destination
  status : status = 0 ↔ ∃ frames, Frames input frames ∧ frames.flatten = input
  temporary : files.temporary = if AcceptedHeader input then none else old.temporary

theorem oldOrFrame_of_invariant (h : Invariant old input s) : OldOrFrame old input s.files := by
  obtain ⟨published, current, hf, rfl, hd, -⟩ := h
  rcases eq_nil_or_concat' published with rfl | ⟨before, frame, rfl⟩
  · exact .inl hd
  · refine .inr ⟨before, frame, ⟨hf, prefix_append _ _⟩, ?_⟩
    rw [hd, getLast?_append, getLast?_singleton]
    rfl

/-- An input that begins with frames begins with a header that passes the checks. -/
theorem acceptedHeader_append {frame : Bytes} (h : IsFrame frame) (rest : Bytes) :
    AcceptedHeader (frame ++ rest) := by
  obtain ⟨hs, hl⟩ := isFrame_iff_status.mp h
  have hst := (@headerStatus_append frame rest (by omega)).1
  exact ⟨by rw [length_append]; omega, hst.trans hs⟩

theorem ended_of_invariant {status : ℕ} (h : Invariant old input s)
    (he : s.location = .exited status) : Ended old input s.files status := by
  obtain ⟨published, current, hf, rfl, hd, hp⟩ := h
  rw [Progress, he] at hp
  obtain ⟨hr, hs⟩ := hp
  obtain ⟨hst, hend⟩ := of_roundStatus hr
  have hl := longestFrames_of_not_hasFrame hf hend
  refine ⟨⟨published, hl, hd⟩, ?_, ?_⟩
  · rw [hst]
    constructor
    · rintro rfl
      exact ⟨published, hl.1, (append_nil _).symm⟩
    · rintro ⟨frames, hall, hw⟩
      have hle := hl.2 frames hall
      rw [hw, length_append] at hle
      exact length_eq_zero_iff.mp (by omega)
  · cases published with
    | nil =>
      rw [flatten_nil, nil_append]
      rcases hs with ⟨⟨-, ht⟩ | ⟨hne, -⟩, hn⟩ | ⟨ha, ht⟩
      · rw [if_neg hn, ht]
      · exact absurd rfl hne
      · rw [if_pos ha, ht]
    | cons frame published =>
      rw [flatten_cons, append_assoc,
        if_pos (acceptedHeader_append (hf frame mem_cons_self) _)]
      rcases hs with ⟨⟨he, -⟩ | ⟨-, ht⟩, -⟩ | ⟨-, ht⟩
      · cases he
      · exact ht
      · exact ht

section Run

variable {destination : Text} {answers : ℕ → Answer}

theorem invariant_start (hd : AdmittedDestination destination) (input : Bytes)
    (old : StreamFiles) : Invariant old input (start destination input old) := by
  rw [start, if_neg hd.1, if_neg hd.2]
  exact ⟨[], input, nofun, rfl, rfl, by decide, rfl, .inl ⟨rfl, rfl⟩⟩

/-- **What the publisher makes of its standard input**, however the input arrives and the writes are
split: it ends; the destination then holds the last frame of the longest beginning that consists of
frames; and before that it holds its old content or one frame of the input. -/
theorem publisher_stream (hdestination : AdmittedDestination destination)
    (input : Bytes) (old : StreamFiles)
    (hanswers : ∀ n, Succeeds (trace step (start destination input old) answers n) (answers n))
    (hfinite : {n | answers n = .interrupted}.Finite) :
    (∃ n, Exited (trace step (start destination input old) answers n)) ∧
    (∀ n, OldOrFrame old input (trace step (start destination input old) answers n).files) ∧
    ∀ n status, (trace step (start destination input old) answers n).location =
      .exited status →
      Ended old input (trace step (start destination input old) answers n).files status := by
  have hs := invariant_start hdestination input old
  have hi := trace_invariant hanswers hs fun s a => invariant_step
  refine ⟨?_, fun n => oldOrFrame_of_invariant (hi n),
    fun n status => ended_of_invariant (hi n)⟩
  exact trace_stops hanswers hs (fun s a => invariant_step) callsLeft hfinite
    fun s a h hsu => callsLeft_step h hsu

/-- One frame that arrives byte by byte. -/
theorem publisher_stream_onePixel : AdmittedDestination kDefaultDestinationPath ∧
    ∃ n, Exited (trace step (start kDefaultDestinationPath onePixel.encode ⟨none, none⟩)
      (fun _ => .done 0) n) := by
  have ha : AdmittedDestination kDefaultDestinationPath := by
    unfold AdmittedDestination
    decide
  have hs (n : ℕ) : Succeeds (trace step (start kDefaultDestinationPath
      onePixel.encode ⟨none, none⟩) (fun _ => .done 0) n) (.done 0) := ⟨nofun, nofun⟩
  have hf : {_n : ℕ | Answer.done 0 = .interrupted}.Finite :=
    Set.finite_empty.subset fun n hn => by cases hn
  exact ⟨ha, (publisher_stream ha _ _ hs hf).1⟩

/-- A temporary file that an earlier run has left stays where no header is accepted. -/
theorem stale_temporary_remains : ¬ ∀ (destination : Text) (input : Bytes)
    (old : StreamFiles) (answers : ℕ → Answer), AdmittedDestination destination →
    (∀ n, Succeeds (trace step (start destination input old) answers n) (answers n)) →
    {n | answers n = .interrupted}.Finite → ∀ n status,
    (trace step (start destination input old) answers n).location = .exited status →
    (trace step (start destination input old) answers n).files.temporary = none := by
  intro h
  have hf : {_n : ℕ | Answer.done 0 = .interrupted}.Finite :=
    Set.finite_empty.subset fun n hn => by cases hn
  have ht := h kDefaultDestinationPath [] ⟨none, some [0]⟩ (fun _ => .done 0)
    (by unfold AdmittedDestination; decide) (fun _ => ⟨nofun, nofun⟩) hf 1 0 (by decide)
  exact absurd ht (by decide)

/-! ## The same run in one go -/

theorem framesIn_append {published : List Bytes} {status r : ℕ}
    (hf : ∀ frame ∈ published, IsFrame frame) (hs : roundStatus current = some status)
    (hr : (published.flatten ++ current).length < r) :
    framesIn r (published.flatten ++ current) = published ∧
      exitStatus r (published.flatten ++ current) = status := by
  obtain ⟨r, rfl⟩ := Nat.exists_eq_succ_of_ne_zero (Nat.ne_zero_of_lt hr)
  induction published generalizing r with
  | nil =>
    rw [flatten_nil, nil_append, framesIn, exitStatus]
    rw [roundStatus] at hs
    cases hre : readFrame current with
    | frame bytes rest =>
      rw [hre] at hs
      cases hs
    | finished | refused | truncated =>
      rw [hre] at hs
      exact ⟨rfl, Option.some.inj hs⟩
  | cons frame published ih =>
    obtain ⟨hfr, hf⟩ := forall_mem_cons.mp hf
    have hl := (isFrame_iff_status.mp hfr).2
    have hsi : headerSize = 24 := rfl
    rw [flatten_cons, append_assoc] at hr ⊢
    rw [length_append] at hr
    obtain ⟨r, rfl⟩ := Nat.exists_eq_succ_of_ne_zero (show r ≠ 0 by omega)
    obtain ⟨hfs, hst⟩ := ih hf r (by omega)
    rw [framesIn, exitStatus, readFrame_append hfr]
    exact ⟨congrArg (frame :: ·) hfs, hst⟩

/-- **Call by call the publisher ends as the script of it does**: with the same status, and with the
same content of the destination. -/
theorem publisher_refines {t : Tree} (hd : AdmittedDestination destination)
    (hr : Ready t destination (destination ++ ".new"))
    (ho : t.content destination = old.destination.map byteText)
    (ha : ∀ n, Succeeds (trace step (start destination input old) answers n) (answers n))
    {n status : ℕ} (he : (trace step (start destination input old) answers n).location =
      .exited status) :
    ((publisherMain destination input).run noFailure t).value = status ∧
      ((publisherMain destination input).run noFailure t).tree.content destination =
        (trace step (start destination input old) answers n).files.destination.map
          byteText := by
  have hi := trace_invariant ha (invariant_start hd input old)
    (fun s a => invariant_step) n
  generalize trace step (start destination input old) answers n = s at hi he ⊢
  obtain ⟨published, current, hf, rfl, hde, hp⟩ := hi
  rw [Progress, he] at hp
  obtain ⟨hfs, hst⟩ := framesIn_append hf hp.1 (Nat.lt_succ_self _)
  obtain ⟨hv, hc⟩ := run_publishFrames hr ((published.flatten ++ current).length + 1)
    (published.flatten ++ current)
  rw [publisherMain, if_neg hd.1, if_neg hd.2, hv, hc, hfs, hst, ho, hde]
  refine ⟨rfl, ?_⟩
  cases published.getLast? <;> rfl

end Run

end Vcam.PublisherStream
