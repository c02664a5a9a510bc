import AndroidVcam.Lib.Machine
import AndroidVcam.Frame.Streamer

/-!
# Streamed frames and the frame in memory

Streamer runs write the frame file of a provider one after the other; the camera reloads it at any
moment in between. A run counts its frames from the second in which it starts, so two runs can use
one sequence number, and the camera compares nothing else.

* `publish_of_publishFrame`: a call of `publish_frame` is a `publish` step;
* `InStep`: the frame in memory has the payload of the file when it has its sequence number, kept by
  every step that is not a `Reuse` (`inStep_step`);
* **`reloads_show_file`**: in every run without a reuse, every reload shows the file.
-/

namespace Vcam

namespace Freshness

/-- A payload of the size that all runs publish. -/
abbrev Payload (size : StreamSize) : Type :=
  {pixels : Bytes // pixels.length = expectedPayload .i420 size.width size.height}

structure Provider where
  /-- The second in which the current run started. -/
  second : ℕ
  /-- `sequence` of the current run. -/
  sequence : UInt32
  /-- The bytes of `frame.rgb`. -/
  file : Option Bytes
  /-- The frame of the camera. -/
  memory : FrameState

def started (second : ℕ) : Provider := ⟨second, UInt32.ofNat second, none, .reset⟩

inductive Step (size : StreamSize)
  /-- The next run starts, some seconds after the last one. -/
  | restart (later : ℕ)
  /-- The run publishes its next frame. -/
  | publish (payload : Payload size)
  /-- The camera calls `reloadIfChanged`. -/
  | reload

variable {size : StreamSize}

def nextFrame (provider : Provider) (payload : Payload size) : RgbFrame :=
  ⟨.i420, size.width, size.height, (provider.sequence + 1).toNat, payload.1⟩

/-- What `reloadIfChanged` finds. -/
def frameFile : Option Bytes → FrameFile
  | none => .missing
  | some bytes => .content bytes

def filePayload (provider : Provider) : Bytes :=
  match provider.file with
  | none => []
  | some bytes => bytes.drop headerSize

/-- The pixels in memory and in the file after a reload. -/
structure Reloaded where
  memory : Bytes
  file : Bytes
deriving DecidableEq

def step (provider : Provider) : Step size → Provider × List Reloaded
  | .restart later =>
    ({ provider with second := provider.second + later,
                     sequence := UInt32.ofNat (provider.second + later) }, [])
  | .publish payload =>
    ({ provider with sequence := provider.sequence + 1,
                     file := some (nextFrame provider payload).encode }, [])
  | .reload =>
    let memory := (provider.memory.reloadIfChanged (frameFile provider.file)).2
    ({ provider with memory := memory }, [⟨memory.pixels, filePayload provider⟩])

/-- The reloads of a run whose first streamer starts in this second. -/
def reloads (second : ℕ) (steps : List (Step size)) : List Reloaded :=
  (Machine.run step (started second) steps).2

/-- A frame is published under the sequence number of the frame in memory, with other pixels. -/
def Reuse (provider : Provider) : Step size → Prop
  | .publish payload => provider.memory.valid = true ∧
      provider.memory.sequence = (provider.sequence + 1).toNat ∧ provider.memory.pixels ≠ payload.1
  | _ => False

instance (provider : Provider) (action : Step size) : Decidable (Reuse provider action) := by
  cases action <;> unfold Reuse <;> infer_instance

end Freshness

open Freshness

variable {size : StreamSize} {provider : Provider}

theorem loadable_nextFrame (p : Provider) (payload : Payload size) :
    (nextFrame p payload).Loadable where
  width_pos := by have := size.width_ge; simp only [nextFrame]; omega
  height_pos := by have := size.height_ge; simp only [nextFrame]; omega
  width_le := size.width_le
  height_le := size.height_le
  pixels_le := size.area
  sequence_lt := (p.sequence + 1).toNat_lt
  payload := payload.2

theorem publish_of_publishFrame {c : SystemCalls} {op : TextFile.Text} {p : Picture}
    {f : StreamFiles} (h : (Streamer.publishFrame c op p size.width size.height
      (provider.sequence + 1) f).1 = 0) :
    ∃ payload : Payload size, (Streamer.publishFrame c op p size.width size.height
      (provider.sequence + 1) f).2.destination = (step provider (.publish payload)).1.file :=
  ⟨⟨(writtenFrame size p (provider.sequence + 1)).pixels,
    (loadable_writtenFrame size p (provider.sequence + 1)).payload⟩,
    destination_publishFrame.1 h⟩

def Freshness.Streamed (size : StreamSize) (memory : FrameState) : Prop :=
  memory.valid = true → memory.format = some .i420 ∧ memory.width = size.width ∧
    memory.height = size.height

/-- The file holds a frame of the stream, and one with the sequence number of the frame in memory has
its pixels. -/
inductive Freshness.InStep (size : StreamSize) : Provider → Prop
  | nothing {provider : Provider} (hfile : provider.file = none)
    (hmemory : provider.memory.valid = false) : InStep size provider
  | frame {provider : Provider} {frame : RgbFrame} (hfile : provider.file = some frame.encode)
    (hloadable : frame.Loadable) (hformat : frame.format = .i420)
    (hwidth : frame.width = size.width) (hheight : frame.height = size.height)
    (hmemory : Streamed size provider.memory)
    (hsame : provider.memory.valid = true → provider.memory.sequence = frame.sequence →
      provider.memory.pixels = frame.pixels) : InStep size provider

theorem inStep_started (s : ℕ) : InStep size (started s) := .nothing rfl rfl

theorem inStep_restart (h : InStep size provider) (l : ℕ) :
    InStep size (step provider (.restart l : Step size)).1 := by
  cases h with
  | nothing hf hm => exact .nothing hf hm
  | frame hf hl hfo hw hh hm hs =>
    exact .frame hf hl hfo hw hh hm hs

theorem streamed_of_inStep (h : InStep size provider) : Streamed size provider.memory := by
  cases h with
  | nothing hf hm => exact fun hv => absurd (hm.symm.trans hv) Bool.false_ne_true
  | frame _ _ _ _ _ hm _ => exact hm

theorem inStep_publish (h : InStep size provider) {p : Payload size}
    (hf : ¬Reuse provider (.publish p)) :
    InStep size (step provider (.publish p)).1 := by
  have hm := streamed_of_inStep h
  refine .frame rfl (loadable_nextFrame provider p) rfl rfl rfl hm ?_
  intro hv hs
  by_contra hp
  exact hf ⟨hv, hs, hp⟩

/-- **A reload in step takes over the frame of the file.** -/
theorem reload_inStep {f : RgbFrame} {m : FrameState} (hl : f.Loadable)
    (hf : f.format = .i420) (hw : f.width = size.width)
    (hh : f.height = size.height) (hm : Streamed size m)
    (hsa : m.valid = true → m.sequence = f.sequence → m.pixels = f.pixels) :
    (m.reloadIfChanged (.content f.encode)).2 = f.stored := by
  rcases reload_cases m f.encode with ⟨format, -, hu, e⟩ | e
  · obtain ⟨hv, -, -, -, hs⟩ := unchanged_iff.mp hu
    obtain ⟨-, -, -, -, he, -⟩ := header_encode hl
    rw [he] at hs
    obtain ⟨hf', hw', hh'⟩ := hm hv
    have hp := hsa hv hs.symm
    rw [e, RgbFrame.stored, hf, hw, hh, hs, ← hp, ← hf', ← hw',
      ← hh']
  · rw [e, load_of_eq_some (load_encode hl)]

theorem inStep_reload (h : InStep size provider) :
    InStep size (step provider (.reload : Step size)).1 ∧
      ∀ event ∈ (step provider (.reload : Step size)).2, event.memory = event.file := by
  cases h with
  | nothing hfi hm =>
    simp only [step, hfi, Freshness.frameFile, filePayload, List.forall_mem_singleton]
    exact ⟨.nothing rfl rfl, rfl⟩
  | frame hfi hl hf hw hh hm hs =>
    have hr := reload_inStep hl hf hw hh hm hs
    have hp := (header_encode hl).2.2.2.2.2
    simp only [step, hfi, Freshness.frameFile, filePayload, List.forall_mem_singleton, hr,
      hp]
    exact ⟨.frame rfl hl hf hw hh
      (fun _ => ⟨congrArg some hf, hw, hh⟩) fun _ _ => rfl, rfl⟩

theorem inStep_step (h : InStep size provider) {a : Step size} (hf : ¬Reuse provider a) :
    InStep size (step provider a).1 ∧
      ∀ event ∈ (step provider a).2, event.memory = event.file := by
  cases a with
  | restart later => exact ⟨inStep_restart h later, nofun⟩
  | publish payload => exact ⟨inStep_publish h hf, nofun⟩
  | reload => exact inStep_reload h

/-- **Every reload shows the file** in a run in which no publication reuses the sequence number of
the frame in memory for other pixels. -/
theorem reloads_show_file (second : ℕ) (steps : List (Step size))
    (hfresh : Machine.Along step (fun provider action => ¬Reuse provider action) (started second)
      steps) : ∀ event ∈ reloads second steps, event.memory = event.file := by
  have hrun := Machine.run_history_along step
    (P := fun events provider => InStep size provider ∧
      ∀ event ∈ events, event.memory = event.file)
    (fun events provider action hs ha =>
      have hn := inStep_step hs.1 ha
      ⟨hn.1, List.forall_mem_append.mpr ⟨hs.2, hn.2⟩⟩)
    steps [] (started second) hfresh ⟨inStep_started second, nofun⟩
  exact hrun.2

def smallest : StreamSize := ⟨2, 2, fourRows.width_ge, fourRows.width_ge, fourRows.width_le,
  fourRows.width_le, fourRows.width_even, fourRows.width_even, by decide⟩

def grey (level : UInt8) : Payload smallest :=
  ⟨List.replicate 6 level, by simp [smallest, expectedPayload]⟩

/-- A run publishes two frames, the next one starts some seconds later and publishes one. -/
def twoRuns (later : ℕ) : List (Step smallest) :=
  [.publish (grey 10), .publish (grey 20), .reload, .restart later, .publish (grey 30), .reload]

/-- After one second, the frame of the second run has the sequence number of the frame in memory. -/
theorem twoRuns_stale : reloads 0 (twoRuns 1) =
    [⟨(grey 20).1, (grey 20).1⟩, ⟨(grey 20).1, (grey 30).1⟩] ∧ (grey 20).1 ≠ (grey 30).1 := by
  decide

/-- After two seconds it is shown. -/
theorem twoRuns_shown : (reloads 0 (twoRuns 2)).length = 2 ∧
    ∀ event ∈ reloads 0 (twoRuns 2), event.memory = event.file :=
  ⟨by decide, reloads_show_file 0 (twoRuns 2) (by decide)⟩

end Vcam
