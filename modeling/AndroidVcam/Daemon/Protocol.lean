import AndroidVcam.Daemon.ControlDaemon

/-!
# The request format

The bytes of a request are the magic, the length of the command, the number of arguments and the
length of the payload as big-endian numbers, the command, and every argument behind its length. The
reading functions of the daemon decode exactly these bytes, however the socket splits them.

* **`handleClient_of_available`**: a well-formed request that arrives is served.
-/

namespace Vcam.Daemon

open ByteChannel Wire Traced List

def encodeArguments (values : List Bytes) : Bytes :=
  values.flatMap fun value => beBytes 4 value.length ++ value

theorem encodeArguments_cons (value : Bytes) (v : List Bytes) :
    encodeArguments (value :: v) =
      beBytes 4 value.length ++ (value ++ encodeArguments v) := by
  rw [encodeArguments, flatMap_cons, append_assoc, encodeArguments]

def encodeHeader (header : Header) : Bytes :=
  requestMagic ++ (beBytes 4 header.commandLength ++
    (beBytes 4 header.argumentCount ++ beBytes 8 header.payloadLength))

def encodeRequest (command : Bytes) (values : List Bytes) (payloadLength : ℕ) :
    Bytes :=
  encodeHeader ⟨command.length, values.length, payloadLength⟩ ++ (command ++ encodeArguments values)

variable {bytes tail command : Bytes} {rest client : Source} {header : Header}
  {env : DaemonEnv}

theorem be64ToHost_eq (h : bytes.length = 8) :
    be64ToHost bytes = beValue bytes := by
  have ha := beValue_append (bytes.take 4) (bytes.drop 4)
  rw [take_append_drop, length_drop, h] at ha
  rw [ha, be64ToHost]
  norm_num

/-! ## Fields -/

theorem readInto_spec {o : Object} {l : ℕ} {s : Source}
    (h : (readInto o l s).result = some (bytes, rest)) :
    bytes.length = l ∧ available s = bytes ++ available rest :=
  (readExact_spec s 0 l).1 bytes rest h

theorem readInto_of_available (o : Object) {s : Source} {l : ℕ}
    (hl : bytes.length = l) (h : available s = bytes ++ tail) :
    ∃ rest, (readInto o l s).result = some (bytes, rest) ∧
      available rest = tail := by
  subst hl
  exact readExact_of_available h 0

/-! ## The header and the command -/

theorem readHeader_spec (h : (readHeader client).result = some (header, rest)) :
    available client = encodeHeader header ++ available rest := by
  obtain ⟨⟨magic, c1⟩, hm, h⟩ := bind_eq_some.mp h
  obtain ⟨-, -, h⟩ := bind_eq_some.mp h
  obtain ⟨_, hr, h⟩ := bind_eq_some.mp h
  obtain ⟨⟨commandLength, c2⟩, hc, h⟩ := bind_eq_some.mp h
  obtain ⟨⟨argumentCount, c3⟩, hco, h⟩ := bind_eq_some.mp h
  obtain ⟨⟨payloadLength, c4⟩, hp, h⟩ := bind_eq_some.mp h
  obtain ⟨rfl, rfl⟩ : _ = header ∧ c4 = rest := by simpa using h
  obtain rfl : magic = requestMagic := by
    rw [result_require] at hr
    by_contra hne
    simp [hne] at hr
  obtain ⟨-, a1⟩ := readInto_spec hm
  obtain ⟨l2, a2⟩ := readInto_spec hc
  obtain ⟨l3, a3⟩ := readInto_spec hco
  obtain ⟨l4, a4⟩ := readInto_spec hp
  rw [encodeHeader, be64ToHost_eq l4, beBytes_beValue l2, beBytes_beValue l3, beBytes_beValue l4,
    a1, a2, a3, a4]
  simp only [append_assoc]

theorem readHeader_of_available (hc : header.commandLength < 256 ^ 4)
    (hco : header.argumentCount < 256 ^ 4) (hp : header.payloadLength < 256 ^ 8)
    (h : available client = encodeHeader header ++ tail) :
    ∃ rest, (readHeader client).result = some (header, rest) ∧ available rest = tail := by
  simp only [encodeHeader, append_assoc] at h
  obtain ⟨c1, h1, a1⟩ := readInto_of_available .magic (show requestMagic.length = 8 by decide) h
  obtain ⟨c2, h2, a2⟩ := readInto_of_available .commandLength (length_beBytes 4 _) a1
  obtain ⟨c3, h3, a3⟩ := readInto_of_available .argumentCount (length_beBytes 4 _) a2
  obtain ⟨c4, h4, a4⟩ := readInto_of_available .payloadLength (length_beBytes 8 _) a3
  refine ⟨c4, ?_, a4⟩
  refine bind_eq_some.mpr ⟨_, h1, bind_eq_some.mpr ⟨_, rfl, bind_eq_some.mpr ⟨(), ?_, ?_⟩⟩⟩
  · rw [result_require, if_pos rfl]
  · refine bind_eq_some.mpr ⟨_, h2, bind_eq_some.mpr ⟨_, h3, bind_eq_some.mpr ⟨_, h4, ?_⟩⟩⟩
    simp only [result_pure, be64ToHost_eq (length_beBytes 8 _), beValue_beBytes hc,
      beValue_beBytes hco, beValue_beBytes hp]

theorem readCommand_spec (h : (readCommand header client).result = some (command, rest)) :
    command.length = header.commandLength ∧ available client = command ++ available rest := by
  obtain ⟨⟨bytes, c⟩, hr, h⟩ := bind_eq_some.mp h
  obtain ⟨-, -, h⟩ := bind_eq_some.mp h
  obtain ⟨rfl, rfl⟩ : bytes = command ∧ c = rest := by simpa using h
  exact readInto_spec hr

theorem readCommand_of_available (header : Header) (hl : command.length = header.commandLength)
    (h : available client = command ++ tail) :
    ∃ rest, (readCommand header client).result = some (command, rest) ∧ available rest = tail := by
  obtain ⟨c, hr, ha⟩ := readInto_of_available .command hl h
  exact ⟨c, bind_eq_some.mpr ⟨_, hr, bind_eq_some.mpr ⟨(), rfl, rfl⟩⟩, ha⟩

/-! ## The arguments -/

def argumentPointers : ℕ → List Bytes → List Pointer
  | _, [] => []
  | index, value :: values => .argument index value.length :: argumentPointers (index + 1) values

@[simp] theorem length_argumentPointers (i : ℕ) (v : List Bytes) :
    (argumentPointers i v).length = v.length := by
  induction v generalizing i with
  | nil => rfl
  | cons value v ih => simp [argumentPointers, ih]

/-- **The loop over the arguments, when it is not left.** The values are those that arrived, they are
short enough and allocated, and the array has a pointer to each of them. -/
theorem readArguments_spec {todo index : ℕ} {f : List (Option Pointer)} {s : ℕ}
    {a : List (Option Pointer)} (hf : f.length = index + 2)
    (ha : a = f ++ replicate (todo + s) none)
    (h : (readArguments env todo index a client).client = some rest) :
    ∃ values : List Bytes, values.length = todo ∧ (∀ v ∈ values, v.length ≤ maxArgument) ∧
      (∀ i, index ≤ i → i < index + todo → env.allocated i = true) ∧
      available client = encodeArguments values ++ available rest ∧
      (readArguments env todo index a client).values = values ∧
      (readArguments env todo index a client).arguments =
        f ++ (argumentPointers index values).map some ++ replicate s none := by
  induction todo generalizing index f client a with
  | zero =>
    obtain rfl : client = rest := by simpa [readArguments] using h
    refine ⟨[], rfl, by simp, by omega, by simp [encodeArguments], rfl, ?_⟩
    simp [readArguments, ha, argumentPointers]
  | succ todo ih =>
    rw [readArguments] at h ⊢
    dsimp only at h ⊢
    cases hlen : (readInto .argumentLength 4 client).result with
    | none => simp [hlen] at h
    | some p =>
      obtain ⟨lengthBytes, c1⟩ := p
      obtain ⟨hl, hava⟩ := readInto_spec hlen
      simp only [hlen] at h ⊢
      split_ifs at h ⊢ with hlo halloc
      cases hval : (readInto (.argument index (beValue lengthBytes)) (beValue lengthBytes)
          c1).result with
      | none => simp [hval] at h
      | some q =>
        obtain ⟨bytes, c2⟩ := q
        obtain ⟨hb, hav⟩ := readInto_spec hval
        simp only [hval] at h ⊢
        have hset : a.set (index + 2) (some (.argument index (beValue lengthBytes))) =
            (f ++ [some (.argument index (beValue lengthBytes))]) ++
              replicate (todo + s) none := by
          rw [ha, ← hf, show todo + 1 + s = todo + s + 1 by omega]
          simp [replicate_succ]
        obtain ⟨values, hc, hs, hall, hr, hva, hp⟩ :=
          ih (by rw [length_append, hf]; rfl) hset h
        refine ⟨bytes :: values, by simp [hc], ?_, ?_, ?_, by rw [hva], ?_⟩
        · intro v hv
          rcases mem_cons.mp hv with rfl | hv
          · omega
          · exact hs v hv
        · intro i hi hlt
          by_cases he : i = index
          · subst he
            simpa using halloc
          · exact hall i (by omega) (by omega)
        · rw [hava, hav, hr, encodeArguments_cons, hb, beBytes_beValue hl]
          simp only [append_assoc]
        · rw [hp, argumentPointers, hb]
          simp

/-- Arguments that arrive, are short enough and can be allocated are all read. -/
theorem readArguments_of_available {index : ℕ} {values : List Bytes}
    (a : List (Option Pointer)) (hs : ∀ v ∈ values, v.length ≤ maxArgument)
    (ha : ∀ i, index ≤ i → i < index + values.length → env.allocated i = true)
    (h : available client = encodeArguments values ++ tail) :
    ∃ rest, (readArguments env values.length index a client).client = some rest ∧
      available rest = tail ∧
      (readArguments env values.length index a client).values = values := by
  induction values generalizing index client a with
  | nil => exact ⟨client, rfl, h, rfl⟩
  | cons value values ih =>
    have hva : value.length ≤ maxArgument := hs value mem_cons_self
    have hsm : value.length < 256 ^ 4 := lt_of_le_of_lt hva (by decide)
    rw [encodeArguments_cons, append_assoc, append_assoc] at h
    obtain ⟨c1, h1, a1⟩ := readInto_of_available .argumentLength (length_beBytes 4 _) h
    obtain ⟨c2, h2, a2⟩ := readInto_of_available (.argument index value.length) rfl a1
    have hall : env.allocated index = true := ha index le_rfl (by simp)
    have hn := @ih c2 (index + 1)
      (a.set (index + 2) (some (.argument index value.length)))
    obtain ⟨rest, hr, hav, hvl⟩ := hn
      (fun v hv => hs v (mem_cons_of_mem _ hv))
      (fun i hi hlt => ha i (by omega) (by rw [length_cons]; omega)) a2
    refine ⟨rest, ?_, hav, ?_⟩ <;> rw [length_cons, readArguments] <;>
      simp only [h1, beValue_beBytes hsm, not_lt.mpr hva, hall, h2]
    · exact hr
    · exact congrArg (value :: ·) hvl

/-! ## A whole request -/

/-- The call that a request comes to when all arguments are read. -/
def invocation (env : DaemonEnv) (header : Header) (command : Bytes) (client : Source) :
    Invocation :=
  let read := readArguments env header.argumentCount 0 initialArguments client
  ⟨header.argumentCount, header.payloadLength, command, read.arguments, read.values⟩

/-- **The array behind the loop**: the controller, the command, the arguments and what is left of
the null pointers. -/
theorem arguments_invocation (c : Bytes) (hc : header.argumentCount ≤ maxArguments)
    (hr : (readArguments env header.argumentCount 0 initialArguments client).client =
      some rest) :
    (invocation env header c client).values.length = header.argumentCount ∧
      (invocation env header c client).arguments =
        (.controller :: .command ::
          argumentPointers 0 (invocation env header c client).values).map some ++
        replicate (maxArguments - header.argumentCount) none := by
  have hi : initialArguments = [some .controller, some .command] ++
      replicate (header.argumentCount + (maxArguments - header.argumentCount)) none := by
    rw [Nat.add_sub_cancel' hc]
    rfl
  obtain ⟨values, hl, -, -, -, hv, ha⟩ :=
    readArguments_spec (by rfl) hi hr
  refine ⟨by rw [invocation, hv, hl], ?_⟩
  rw [invocation, ha, hv]
  rfl

theorem result_findRule (c : Bytes) (r : List CommandRule) :
    (findRule c r).result = r.find? fun rule => cString c = rule.name := by
  induction r with
  | nil => rfl
  | cons rule r ih =>
    rw [findRule, find?_cons]
    split_ifs with hn
    · simp [hn]
    · simp [hn, result_bind, ih]

/-- **A request that arrives and is admitted is served**, with its arguments still to be read. -/
theorem handleClient_of_available (ha : env.authorised = true) {v : List Bytes}
    {payload : ℕ} {rule : CommandRule} (hl : command.length ≤ maxCommand)
    (hco : v.length ≤ maxArguments) (hp : payload < 256 ^ 8)
    (hr : (findRule command kRules).result = some rule)
    (had : rule.admits ⟨command.length, v.length, payload⟩)
    (h : available client = encodeRequest command v payload ++ tail) :
    ∃ events rest, available rest = encodeArguments v ++ tail ∧
      handleClient env client =
        (serve env ⟨command.length, v.length, payload⟩ command rest).after events := by
  have hne : command.length ≠ 0 := by
    intro hz
    have hn : (kRules.find? fun rule => cString [] = rule.name) = none := by decide
    rw [length_eq_zero_iff.mp hz, result_findRule, hn] at hr
    cases hr
  rw [encodeRequest, append_assoc, append_assoc] at h
  have hs : command.length < 256 ^ 4 := lt_of_le_of_lt hl (by decide)
  have hc : v.length < 256 ^ 4 := lt_of_le_of_lt hco (by decide)
  obtain ⟨c1, hh, a1⟩ := readHeader_of_available hs hc hp h
  obtain ⟨c2, hcm, a2⟩ :=
    readCommand_of_available ⟨command.length, v.length, payload⟩ rfl a1
  refine ⟨(readHeader client).events ++
    (readCommand ⟨command.length, v.length, payload⟩ c1).events ++
    (findRule command kRules).events, c2, a2, ?_⟩
  unfold handleClient
  simp only [ha, hh, hcm, hr, hne, not_lt.mpr hl, not_lt.mpr hco,
    had, Bool.not_true, Bool.false_eq_true, or_self, if_false, if_true]

end Vcam.Daemon
