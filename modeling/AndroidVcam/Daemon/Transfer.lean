import AndroidVcam.Daemon.Protocol

/-!
# Payload, output and response

The bytes behind a request go to the controller in chunks, what the controller prints is collected,
and both come back to the client as a response.

* **`transferPayload_spec`**: the controller gets the payload, or, when the client ends early, the
  full chunks that arrived;
* **`runController_of_available`**: a controller that can be run gets its input, and its status and
  output are the answer; `serve_of_available`: so for a whole request.
-/

namespace Vcam.Daemon

open ByteChannel Wire Traced List

/-! ## The payload -/

theorem chunkLength_eq {p : ℕ} (h : transferSize ≤ p) :
    chunkLength p = transferSize := if_neg (not_lt.mpr h)

theorem chunkLength_le_payload (payload : ℕ) : chunkLength payload ≤ payload := by
  unfold chunkLength
  split_ifs <;> omega

/-- The input of the controller when `n` bytes are asked for and `bytes` arrive. -/
def forwarded (n : ℕ) (bytes : Bytes) : Bytes :=
  if n ≤ bytes.length then bytes.take n
  else bytes.take (bytes.length / transferSize * transferSize)

variable {sink : List Acceptance}

/-- **The transfer depends on the bytes that arrive only.** When they are too few, what is behind
the last full chunk is lost. -/
theorem transferPayload_spec (n : ℕ) (c : Source) (hsi : .failed ∉ sink) :
    (transferPayload n c sink).ok = decide (n ≤ (available c).length) ∧
      (transferPayload n c sink).input = forwarded n (available c) := by
  induction n using Nat.strong_induction_on generalizing c sink with
  | h n ih =>
    by_cases hn : n = 0
    · subst hn
      unfold transferPayload
      simp [forwarded]
    have hpos := chunkLength_pos hn
    have hle := chunkLength_le_payload n
    obtain ⟨hs, hno⟩ := readExact_spec c 0 (chunkLength n)
    unfold transferPayload
    rw [if_neg hn]
    dsimp only
    cases hr : (readInto .transfer (chunkLength n) c).result with
    | none =>
      have hlt : (available c).length < chunkLength n := hno hr
      have hsz := chunkLength_le n
      have hz : (available c).length / transferSize = 0 := Nat.div_eq_of_lt (by omega)
      rw [forwarded, if_neg (by omega), hz, Nat.zero_mul, take_zero]
      exact ⟨by simp; omega, rfl⟩
    | some p =>
      obtain ⟨bytes, rest⟩ := p
      obtain ⟨hb, ha⟩ := hs bytes rest hr
      obtain ⟨hok, -, hne⟩ := writeExact_of_unfailing hsi 0 (chunkLength n)
      obtain ⟨ihok, ihinput⟩ := ih (n - chunkLength n) (by omega) rest hne
      simp only [hok, Bool.not_true, Bool.false_eq_true, if_false, ihok, ihinput, ha,
        length_append, hb]
      refine ⟨by rw [decide_eq_decide]; omega, ?_⟩
      have ht : ∀ k, (bytes ++ available rest).take (chunkLength n + k) =
          bytes ++ (available rest).take k := by
        intro k
        rw [← hb, take_length_add_append]
      unfold forwarded
      rw [length_append, hb]
      by_cases he : n ≤ chunkLength n + (available rest).length
      · rw [if_pos (by omega), if_pos he, ← ht, Nat.add_sub_cancel' hle]
      · -- A chunk that is not the last one is full.
        have hf : chunkLength n = transferSize := by
          refine chunkLength_eq (not_lt.mp fun hlt => ?_)
          have : chunkLength n = n := if_pos hlt
          omega
        rw [if_neg (by omega), if_neg he, ← ht, hf,
          Nat.add_div_left _ (by decide : 0 < transferSize), Nat.succ_mul, Nat.add_comm _ transferSize]

theorem transferPayload_of_available {payload : Bytes} {c : Source}
    (h : available c = payload) (hs : .failed ∉ sink) :
    (transferPayload payload.length c sink).ok = true ∧
      (transferPayload payload.length c sink).input = payload := by
  obtain ⟨hok, hi⟩ := transferPayload_spec payload.length c hs
  rw [hok, hi, h, forwarded, if_pos le_rfl, take_length]
  exact ⟨decide_eq_true le_rfl, rfl⟩

/-! ## The output -/

/-- An output that is short enough and read without an error is collected. -/
theorem collectOutput_of_available {source : Source} (hf : .failed ∉ source) {used : ℕ}
    (hs : used + (available source).length < maxOutput) :
    (collectOutput source used).ok = true ∧
      (collectOutput source used).output = available source := by
  induction source generalizing used with
  | nil => exact ⟨rfl, rfl⟩
  | cons segment source ih =>
    have hr : .failed ∉ source := fun hmem => hf (mem_cons_of_mem _ hmem)
    cases segment with
    | failed => exact absurd mem_cons_self hf
    | interrupted => exact ih hr hs
    | data bytes =>
      rw [available, length_append] at hs
      have ht : bytes.take (maxOutput - used) = bytes := take_of_length_le (by omega)
      have hm : used + bytes.length ≠ maxOutput := by omega
      obtain ⟨hok, ho⟩ := @ih hr (used + bytes.length) (by omega)
      simp only [collectOutput, ht, if_neg hm, hok, ho, available, and_self]

def printed : Source → Bytes
  | [] => []
  | .data bytes :: rest => bytes ++ printed rest
  | .interrupted :: rest => printed rest
  | .failed :: rest => printed rest

/-- A short output is collected exactly when no read fails. -/
theorem ok_collectOutput {s : Source} {used : ℕ}
    (hs : used + (printed s).length < maxOutput) :
    (collectOutput s used).ok = decide (.failed ∉ s) := by
  induction s generalizing used with
  | nil => rfl
  | cons segment s ih =>
    cases segment with
    | failed => simp [collectOutput]
    | interrupted =>
      simp only [collectOutput, ih hs]
      simp
    | data bytes =>
      rw [printed, length_append] at hs
      have ht : bytes.take (maxOutput - used) = bytes := take_of_length_le (by omega)
      have hm : used + bytes.length ≠ maxOutput := by omega
      have hr : used + bytes.length + (printed s).length < maxOutput := by omega
      simp only [collectOutput, ht, if_neg hm, ih hr]
      simp

/-! ## The response -/

/-- The bytes of a buffer that reach a descriptor, and how it takes the next ones. -/
def writeBytes (bytes : Bytes) (sink : List Acceptance) :
    Traced UInt8 (List Acceptance) :=
  let written := writeExact sink 0 bytes.length
  ⟨if written.ok then some written.sink else none, bytes.take written.count⟩

def responseBytes (sink : List Acceptance) (response : Response) :
    Traced UInt8 (List Acceptance) := do
  let sink ← writeBytes responseMagic sink
  let sink ← writeBytes (beBytes 4 response.code) sink
  let sink ← writeBytes (beBytes 4 response.output.length) sink
  if 0 < response.output.length then writeBytes response.output sink else pure sink

def encodeResponse (response : Response) : Bytes :=
  responseMagic ++ (beBytes 4 response.code ++
    (beBytes 4 response.output.length ++ response.output))

theorem writeBytes_of_unfailing (b : Bytes) (h : .failed ∉ sink) :
    ∃ next, .failed ∉ next ∧ writeBytes b sink = ⟨some next, b⟩ := by
  obtain ⟨hok, hc, hn⟩ := writeExact_of_unfailing h 0 b.length
  refine ⟨_, hn, ?_⟩
  simp only [writeBytes, hok, hc, if_true, take_length]

theorem events_responseBytes (h : .failed ∉ sink) (response : Response) :
    (responseBytes sink response).events = encodeResponse response := by
  obtain ⟨s1, hs1, h1⟩ := writeBytes_of_unfailing responseMagic h
  obtain ⟨s2, hs2, h2⟩ := writeBytes_of_unfailing (beBytes 4 response.code) hs1
  obtain ⟨s3, hs3, h3⟩ := writeBytes_of_unfailing (beBytes 4 response.output.length) hs2
  obtain ⟨s4, -, h4⟩ := writeBytes_of_unfailing response.output hs3
  unfold responseBytes encodeResponse
  rw [h1, events_bind_of_some rfl, h2, events_bind_of_some rfl, h3, events_bind_of_some rfl, h4]
  by_cases hl : 0 < response.output.length
  · rw [if_pos hl]
  · rw [if_neg hl, length_eq_zero_iff.mp (Nat.eq_zero_of_not_pos hl)]
    rfl

/-! ## A run of the controller -/

/-- The client is the manager, the allocations succeed, the controller can be started, and neither
its pipes nor the socket report an error. -/
structure DaemonEnv.Works (env : DaemonEnv) : Prop where
  authorised : env.authorised = true
  allocated : ∀ i, env.allocated i = true
  forks : env.Forks
  outputAllocated : env.outputAllocated = true
  controllerInput : .failed ∉ env.controllerInput
  controllerOutput : .failed ∉ env.controllerOutput
  client : .failed ∉ env.client

variable {env : DaemonEnv}

/-- The input, the output and the status of the controller reach their ends. -/
def DaemonEnv.Completes (env : DaemonEnv) (payload : ℕ) (client : Source) : Prop :=
  payload ≤ (available client).length ∧ env.outputAllocated = true ∧
    .failed ∉ env.controllerOutput

/-- **The code of a controller that was started**: its status, and 74 for a status of 0 with an
input or output that did not get through. -/
theorem code_runController (hfo : env.Forks) {call : Invocation} {client : Source}
    (hsi : .failed ∉ env.controllerInput)
    (hsh : (printed env.controllerOutput).length < maxOutput) :
    (runController env call client).code = 0 ↔
      env.exitStatus = some 0 ∧ env.Completes call.payloadLength client := by
  obtain ⟨hi, ho, hf⟩ := hfo
  obtain ⟨hok, -⟩ := transferPayload_spec call.payloadLength client hsi
  have hc := @ok_collectOutput env.controllerOutput 0 (by omega)
  unfold runController DaemonEnv.Completes
  simp only [hi, ho, hf, Bool.not_true, Bool.false_eq_true, or_self, if_false, hok,
    hc]
  cases env.exitStatus with
  | none => cases env.outputAllocated <;> simp
  | some status =>
    by_cases hs : status = 0
    · subst hs
      cases env.outputAllocated with
      | false => simp
      | true =>
        by_cases ha : call.payloadLength ≤ (available client).length <;>
          by_cases hfa : Segment.failed ∈ env.controllerOutput <;> simp [ha, hfa]
    · cases env.outputAllocated <;> simp [hs]

theorem input_runController (hf : env.Forks) {call : Invocation} {c : Source}
    (hs : .failed ∉ env.controllerInput) :
    (runController env call c).input = forwarded call.payloadLength (available c) := by
  rw [← (transferPayload_spec call.payloadLength c hs).2]
  unfold runController
  simp only [hf.1, hf.2.1, hf.2.2, Bool.not_true, Bool.false_eq_true, or_self, if_false]
  split_ifs <;> rfl

/-- **A controller that can be run gets the payload, and its status and output are returned.** -/
theorem runController_of_available (henv : env.Works) {call : Invocation} {p : Bytes}
    (hl : call.payloadLength = p.length) {c : Source}
    (h : available c = p) :
    (runController env call c).input = p ∧
      ∀ status, env.exitStatus = some status →
        (available env.controllerOutput).length < maxOutput →
        (runController env call c).code = status ∧
          (runController env call c).output = some (available env.controllerOutput) := by
  obtain ⟨hok, hi⟩ := transferPayload_of_available h henv.controllerInput
  rw [← hl] at hok hi
  unfold runController
  simp only [henv.forks.1, henv.forks.2.1, henv.forks.2.2, henv.outputAllocated, Bool.not_true,
    Bool.false_eq_true, or_self, if_false, hi, hok, Bool.true_and, true_and]
  intro status hs hsh
  obtain ⟨hc, ho⟩ :=
    @collectOutput_of_available _ henv.controllerOutput 0 (by omega)
  simp [hc, ho, hs]

/-- **A request whose arguments and payload arrive is run as it stands**, and answered with the
status and the output of the controller. -/
theorem serve_of_available (henv : env.Works) (c : Bytes) {values : List Bytes}
    (hc : values.length ≤ maxArguments) (hsh : ∀ v ∈ values, v.length ≤ maxArgument)
    {p : Bytes} {client : Source}
    (h : available client = encodeArguments values ++ p) (header : Header)
    (ha : header.argumentCount = values.length)
    (hp : header.payloadLength = p.length) :
    ∃ call : Invocation, (serve env header c client).run = some (call, p) ∧
      call.command = c ∧ call.values = values ∧
      call.arguments = (.controller :: .command :: argumentPointers 0 values).map some ++
        replicate (maxArguments - values.length) none ∧
      ∀ status, env.exitStatus = some status →
        (available env.controllerOutput).length < maxOutput →
        (serve env header c client).response =
          some ⟨status, available env.controllerOutput⟩ := by
  obtain ⟨rest, hr, hav, hv⟩ :=
    readArguments_of_available initialArguments hsh (fun i _ _ => henv.allocated i) h
  rw [← ha] at hr hv hc ⊢
  have har := (arguments_invocation c hc hr).2
  obtain ⟨hi, han⟩ :=
    @runController_of_available _ henv (invocation env header c client) _ hp _
      hav
  have hs : (serve env header c client).run =
      some (invocation env header c client,
        (runController env (invocation env header c client) rest).input) ∧
      (serve env header c client).response =
        some (answer env (runController env (invocation env header c client) rest)).1 := by
    unfold serve
    dsimp only
    rw [hr]
    exact ⟨rfl, rfl⟩
  refine ⟨invocation env header c client, ?_, rfl, hv, ?_, ?_⟩
  · rw [hs.1, hi]
  · rw [har]
    change (_ :: _ :: argumentPointers 0
      (readArguments env header.argumentCount 0 initialArguments client).values).map some ++ _ = _
    rw [hv]
  · intro status hst hl
    obtain ⟨hco, ho⟩ := han status hst hl
    rw [hs.2, answer, ho, hco]

end Vcam.Daemon
