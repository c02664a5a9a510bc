import AndroidVcam.Daemon.Transfer

/-!
# The manager's side of the control protocol

`BackendClient.requestWithTimeout` writes a request to the socket of the daemon and reads the
response. The two programs agree on the format: the daemon decodes what the manager writes and runs
its controller with exactly that command, those arguments and that payload, and the manager decodes
the status and the output of the controller.

* **`request_round_trip`**: both directions, whatever the sockets and pipes split or interrupt.
-/

namespace Vcam.Manager

open ByteChannel Wire Traced Vcam.Daemon List

inductive Failure
  | missingCommand
  | connect
  | mediaEnded
  | invalidResponse
  | responseTooLarge
deriving DecidableEq

inductive Thrown
  | client (failure : Failure)
  /-- An error of the socket, or its end. -/
  | io
deriving DecidableEq

structure Reply where
  code : ℤ
  bytes : Bytes
deriving DecidableEq

/-- `getBytes(UTF_8)` of a string without lone surrogates. -/
def getBytes (text : String) : Bytes := text.toList.flatMap String.utf8EncodeChar

/-- `DataOutputStream.writeInt` of a length. -/
def writeInt (n : ℕ) : Bytes := beBytes 4 n

/-- `DataOutputStream.writeLong` of a length. -/
def writeLong (n : ℕ) : Bytes := beBytes 8 n

/-- The length of the buffer between the media and the socket. -/
def bufferSize : ℕ := 64 * 1024

/-- The loop over the media, of which the reads give `stream` in order: the bytes it writes, and
whether the media was long enough. -/
def writePayload : List Bytes → ℕ → Bytes × Bool
  | _, 0 => ([], true)
  | [], _ + 1 => ([], false)
  | bytes :: stream, n + 1 =>
    let wanted := min bufferSize (n + 1)
    if bytes.length ≤ wanted then
      let next := writePayload stream (n + 1 - bytes.length)
      (bytes ++ next.1, next.2)
    else
      let next := writePayload (bytes.drop wanted :: stream) (n + 1 - wanted)
      (bytes.take wanted ++ next.1, next.2)
termination_by stream remaining => (stream.length, remaining)
decreasing_by
  · exact Prod.Lex.left _ _ (Nat.lt_succ_self _)
  · have : 0 < bufferSize := by decide
    exact Prod.Lex.right _ (by omega)

def readFully (length : ℕ) (socket : Source) : Except Thrown (Bytes × Source) :=
  match (readExact socket 0 length).1 with
  | none => .error .io
  | some read => .ok read

/-- `DataInputStream.readInt`: four bytes in two's complement. -/
def readInt (socket : Source) : Except Thrown (ℤ × Source) := do
  let (bytes, socket) ← readFully 4 socket
  pure (Int.bmod (beValue bytes) (2 ^ 32), socket)

def readResponse (socket : Source) : Except Thrown Reply := do
  let (magic, socket) ← readFully 8 socket
  if magic ≠ responseMagic then throw (.client .invalidResponse)
  let (code, socket) ← readInt socket
  let (length, socket) ← readInt socket
  if length < 0 ∨ (maxOutput : ℤ) < length then throw (.client .responseTooLarge)
  let (bytes, _) ← readFully length.toNat socket
  pure ⟨code, bytes⟩

structure Exchange where
  written : Bytes
  result : Except Thrown Reply

/-- `payload` is null or the reads of the media; `socket` is what the daemon answers. -/
def requestWithTimeout (connects : Bool) (payload : Option (List Bytes)) (payloadLength : ℕ)
    (values : List String) (socket : Source) : Exchange :=
  match values with
  | [] => ⟨[], .error (.client .missingCommand)⟩
  | command :: arguments =>
    if !connects then ⟨[], .error (.client .connect)⟩
    else
      let head := requestMagic ++ writeInt (getBytes command).length ++ writeInt arguments.length ++
        writeLong payloadLength ++ getBytes command ++
        arguments.flatMap fun argument =>
          writeInt (getBytes argument).length ++ getBytes argument
      match payload with
      | none => ⟨head, readResponse socket⟩
      | some stream =>
        let media := writePayload stream payloadLength
        ⟨head ++ media.1,
          if media.2 then readResponse socket else .error (.client .mediaEnded)⟩

/-! ## Writing -/

/-- Media of the declared length is written, however it is read. -/
theorem writePayload_flatten (s : List Bytes) :
    writePayload s s.flatten.length = (s.flatten, true) := by
  generalize hn : s.flatten.length = n
  fun_induction writePayload s n with
  | case1 s => rw [length_eq_zero_iff.mp hn]
  | case2 n => simp at hn
  | case3 bytes s n wanted hle next ih =>
    rw [flatten_cons, length_append] at hn
    simp only [next, ih (by omega), flatten_cons]
  | case4 bytes s n wanted hl next ih =>
    rw [flatten_cons, length_append] at hn
    have hr : (bytes.drop wanted :: s).flatten.length = n + 1 - wanted := by
      rw [flatten_cons, length_append, length_drop]
      omega
    simp only [next, ih hr, flatten_cons, ← append_assoc, take_append_drop]

/-- **What the manager writes is the request and its payload.** -/
theorem written_requestWithTimeout {p : Option (List Bytes)} {data : Bytes}
    (h : (p.getD []).flatten = data) (c : String) (a : List String)
    (s : Source) :
    (requestWithTimeout true p data.length (c :: a) s).written =
      encodeRequest (getBytes c) (a.map getBytes) data.length ++ data := by
  have hh : requestMagic ++ writeInt (getBytes c).length ++ writeInt a.length ++
      writeLong data.length ++ getBytes c ++
      (a.flatMap fun argument =>
        writeInt (getBytes argument).length ++ getBytes argument) =
      encodeRequest (getBytes c) (a.map getBytes) data.length := by
    simp only [encodeRequest, encodeHeader, encodeArguments, length_map, flatMap_map,
      append_assoc, writeInt, writeLong]
  subst h
  rw [← hh]
  cases p with
  | none => exact (append_nil _).symm
  | some stream =>
    simp only [requestWithTimeout, Option.getD_some, writePayload_flatten]
    rfl

theorem result_requestWithTimeout {p : Option (List Bytes)} {data : Bytes}
    (h : (p.getD []).flatten = data) (c : String) (a : List String)
    (socket : Source) :
    (requestWithTimeout true p data.length (c :: a) socket).result =
      readResponse socket := by
  subst h
  cases p with
  | none => rfl
  | some stream =>
    simp only [requestWithTimeout, Option.getD_some, writePayload_flatten]
    rfl

/-! ## Strings -/

theorem utf8EncodeChar_no_nul {c : Char} (h : c ≠ '\x00') : 0 ∉ String.utf8EncodeChar c := by
  have hval : c.toNat ≠ 0 := by
    intro hz
    exact h (Char.ext (UInt32.toNat_inj.mp hz))
  unfold String.utf8EncodeChar
  dsimp only
  split_ifs with h1 h2 h3
  · have hb : c.toNat % 256 = c.toNat := Nat.mod_eq_of_lt (Nat.lt_succ_of_le (h1.trans (by decide)))
    simp [← UInt8.toNat_inj, hb, hval.symm]
  all_goals
    simp [← UInt8.toNat_inj]
    omega

theorem getBytes_no_nul {text : String} (h : '\x00' ∉ text.toList) : 0 ∉ getBytes text := by
  intro hz
  obtain ⟨c, hc, hb⟩ := mem_flatMap.mp hz
  exact utf8EncodeChar_no_nul (fun he => h (he ▸ hc)) hb

theorem cString_of_no_nul {bytes : Bytes} (h : 0 ∉ bytes) : cString bytes = bytes :=
  takeWhile_eq_self_iff.mpr fun _ hb => decide_eq_true fun he => h (he ▸ hb)

/-! ## Reading -/

theorem readFully_of_available {s : Source} {b tail : Bytes} {l : ℕ}
    (hl : b.length = l) (h : available s = b ++ tail) :
    ∃ rest, readFully l s = .ok (b, rest) ∧ available rest = tail := by
  subst hl
  obtain ⟨rest, hr, ha⟩ := readExact_of_available h 0
  exact ⟨rest, by rw [readFully, hr], ha⟩

theorem readInt_of_available {s : Source} {n : ℕ} (hn : n < 2 ^ 31) {tail : Bytes}
    (h : available s = beBytes 4 n ++ tail) :
    ∃ rest, readInt s = .ok ((n : ℤ), rest) ∧ available rest = tail := by
  obtain ⟨rest, hr, ha⟩ := readFully_of_available (length_beBytes 4 n) h
  have hv : beValue (beBytes 4 n) = n := beValue_beBytes (hn.trans (by decide))
  have hs : Int.bmod (n : ℤ) (2 ^ 32) = n := Int.bmod_eq_of_le (by omega) (by omega)
  refine ⟨rest, ?_, ha⟩
  simp only [readInt, hr, hv, bind, Except.bind, pure, Except.pure, hs]

/-- **The manager decodes every response with a small status and an output within the limit.** -/
theorem readResponse_of_available {r : Response} (hc : r.code < 2 ^ 31)
    (hs : r.output.length ≤ maxOutput) {s : Source}
    (h : available s = encodeResponse r) :
    readResponse s = .ok ⟨r.code, r.output⟩ := by
  have hl : maxOutput < 2 ^ 31 := by decide
  obtain ⟨c1, h1, a1⟩ := readFully_of_available (show responseMagic.length = 8 by decide) h
  obtain ⟨c2, h2, a2⟩ := readInt_of_available hc a1
  obtain ⟨c3, h3, a3⟩ := readInt_of_available (lt_of_le_of_lt hs hl) a2
  rw [← append_nil r.output] at a3
  obtain ⟨c4, h4, -⟩ := readFully_of_available (show _ = ((_ : ℕ) : ℤ).toNat from rfl) a3
  have hf : ¬ ((r.output.length : ℤ) < 0 ∨ (maxOutput : ℤ) < r.output.length) := by
    omega
  simp only [readResponse, h1, h2, h3, h4, bind, Except.bind, ne_eq, not_true_eq_false, if_false,
    hf, pure, Except.pure]

/-! ## Both directions -/

/-- The string behind an element of `argv`. -/
def argvString (env : DaemonEnv) (call : Invocation) : Pointer → Bytes
  | .controller => cString env.controller
  | .command => cString call.command
  | .argument index _ => cString (call.values.getD index [])

theorem map_argumentPointers (env : DaemonEnv) (call : Invocation) {i : ℕ}
    {values : List Bytes} (h : call.values.drop i = values) :
    (argumentPointers i values).map (argvString env call) = values.map cString := by
  induction values generalizing i with
  | nil => rfl
  | cons value values ih =>
    have hv : call.values.getD i [] = value := by
      rw [getD_eq_getElem?_getD, ← head?_drop, h]
      rfl
    have hr : call.values.drop (i + 1) = values := by
      rw [← tail_drop, h, tail_cons]
    rw [argumentPointers, map_cons, map_cons, ih hr, argvString, hv]

theorem kRules_fit : ∀ rule ∈ kRules, rule.name.length ≤ maxCommand ∧ 0 ∉ rule.name ∧
    rule.arguments ≤ maxArguments ∧ rule.maximumPayload < 256 ^ 8 ∧
    kRules.find? (fun other => rule.name = other.name) = some rule := by
  decide

/-- **Round trip of the control protocol.** A request of the table is decoded into exactly its
command and arguments, the controller gets exactly the payload, and the manager gets exactly the
status and the output of the controller, however `request`, `reply` and the pipes are split. -/
theorem request_round_trip {env : DaemonEnv} (henv : env.Works) {rule : CommandRule}
    (hrule : rule ∈ kRules) {command : String} (hcommand : getBytes command = rule.name)
    {arguments : List String} (hcount : arguments.length = rule.arguments)
    (hnul : ∀ a ∈ arguments, '\x00' ∉ a.toList)
    (hshort : ∀ a ∈ arguments, (getBytes a).length ≤ maxArgument) {payload : Bytes}
    (hlimit : payload.length ≤ rule.maximumPayload) {media : Option (List Bytes)}
    (hmedia : (media.getD []).flatten = payload) {request reply : Source}
    (hrequest : available request =
      (requestWithTimeout true media payload.length (command :: arguments) reply).written) :
    (∃ call : Invocation, (handleClient env request).run = some (call, payload) ∧
      ((call.arguments.drop 1).take (arguments.length + 1)).map (Option.map (argvString env call)) =
        (command :: arguments).map (some ∘ getBytes)) ∧
    ∀ status ≤ 255, env.exitStatus = some status →
      (available env.controllerOutput).length < maxOutput →
      (handleClient env request).response = some ⟨status, available env.controllerOutput⟩ ∧
        (available reply =
            (responseBytes env.client ⟨status, available env.controllerOutput⟩).events →
          (requestWithTimeout true media payload.length (command :: arguments) reply).result =
            .ok ⟨status, available env.controllerOutput⟩) := by
  obtain ⟨hl, hn, hf, hpa, hfn⟩ := kRules_fit rule hrule
  have hna : cString rule.name = rule.name := cString_of_no_nul hn
  have hv : (arguments.map getBytes).length = rule.arguments := by
    rw [length_map, hcount]
  rw [written_requestWithTimeout hmedia, hcommand] at hrequest
  have hfo : (findRule rule.name kRules).result = some rule := by
    rw [result_findRule, hna, hfn]
  have had : rule.admits ⟨rule.name.length, (arguments.map getBytes).length, payload.length⟩ :=
    ⟨hv.symm, hlimit, fun hz => hz.2 (by have := hz.1; dsimp only; omega)⟩
  obtain ⟨events, rest, har, hse⟩ := handleClient_of_available henv.authorised hl
    (hv.trans_le hf) (lt_of_le_of_lt hlimit hpa) hfo had hrequest
  obtain ⟨call, hrun, hca, hs, harg, hre⟩ := serve_of_available henv rule.name
    (hv.trans_le hf) (by simpa using hshort) har
    ⟨rule.name.length, (arguments.map getBytes).length, payload.length⟩ rfl rfl
  rw [hse, result_requestWithTimeout hmedia]
  refine ⟨⟨call, hrun, ?_⟩, fun status hst he ho => ?_⟩
  · have hp : (argumentPointers 0 (arguments.map getBytes)).map (argvString env call) =
        (arguments.map getBytes).map cString := map_argumentPointers env call hs
    have hc : (arguments.map getBytes).map cString = arguments.map getBytes := by
      rw [map_map]
      exact map_congr_left fun a ha => cString_of_no_nul (getBytes_no_nul (hnul a ha))
    have hli : (call.arguments.drop 1).take (arguments.length + 1) =
        (.command :: argumentPointers 0 (arguments.map getBytes)).map some := by
      rw [harg, map_cons, cons_append, drop_succ_cons, drop_zero]
      exact take_left' (by simp)
    have hfi : argvString env call .command = getBytes command := by
      rw [argvString, hca, hna, hcommand]
    rw [hli, map_map]
    change (_ :: argumentPointers 0 _).map (some ∘ argvString env call) = _
    rw [← map_map, ← map_map, map_cons, hp, hc, hfi]
    rfl
  · refine ⟨hre status he ho, fun hr => ?_⟩
    rw [events_responseBytes henv.client] at hr
    exact readResponse_of_available (lt_of_le_of_lt hst (by decide)) ho.le hr

/-- A daemon whose controller prints two bytes and exits with status 3. -/
def deskEnv : DaemonEnv where
  authorised := true
  controller := literalBytes "vcamctl"
  allocated _ := true
  inputPipe := true
  outputPipe := true
  forked := true
  outputAllocated := true
  messageAllocated := true
  controllerOutput := [.data [111], .interrupted, .data [107]]
  controllerInput := [.accepted 1, .interrupted]
  client := [.accepted 5, .accepted 0]
  exitStatus := some 3

theorem works_deskEnv : deskEnv.Works :=
  ⟨rfl, fun _ => rfl, ⟨rfl, rfl, rfl⟩, rfl, by decide, by decide, by decide⟩

/-- The manager publishes three bytes that it reads in three parts. -/
def deskExchange (reply : Source) : Exchange :=
  requestWithTimeout true (some [[1], [], [2, 3]]) 3 ["provider-publish-stdin", "desk"] reply

theorem publish_round_trip :
    (∃ call, (handleClient deskEnv [.interrupted, .data (deskExchange []).written]).run =
      some (call, [1, 2, 3])) ∧
    ∀ reply, available reply = encodeResponse ⟨3, [111, 107]⟩ →
      (deskExchange reply).result = .ok ⟨3, [111, 107]⟩ := by
  have h (reply : Source) := @request_round_trip deskEnv works_deskEnv
    ⟨literalBytes "provider-publish-stdin", 1, maxImagePayload⟩ (by decide)
    "provider-publish-stdin" (by decide) ["desk"] rfl (by decide) (by decide) [1, 2, 3]
    (by decide) (some [[1], [], [2, 3]]) rfl [.interrupted, .data (deskExchange reply).written] reply
    (append_nil _)
  refine ⟨?_, fun reply hr => ?_⟩
  · obtain ⟨⟨call, hrun, -⟩, -⟩ := h []
    exact ⟨call, hrun⟩
  · obtain ⟨-, ha⟩ := h reply
    have hd := (ha 3 (by decide) rfl (by decide)).2
    rw [events_responseBytes works_deskEnv.client] at hd
    exact hd hr

end Vcam.Manager
