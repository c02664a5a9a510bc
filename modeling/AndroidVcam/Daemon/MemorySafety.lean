import AndroidVcam.Daemon.Protocol

/-!
# Memory safety of the control daemon

Every access of `handle_client` and `run_controller` is inside the array or allocation it is made
to, nothing is used after it was freed, and the array handed to `execv` ends with a null pointer,
with one exception: `arguments` has room for the controller, the command and eight arguments, but
then none for the null pointer behind them.

* `Overruns`: a `provider-update` request that gets as far as `execv`;
* **`memorySafe_iff`**: a connection is memory safe exactly when it does not overrun;
* `provider_update_overruns`: one that does.
-/

namespace Vcam.Daemon

open ByteChannel Wire Traced List

/-- `count + 2` pointers and a null pointer behind them, all inside `arguments`. -/
def WellFormedArgv (count : ℕ) (argv : List (Option Pointer)) : Prop :=
  argv.length = maxArguments + 2 ∧ ∃ (pointers : List Pointer) (rest : List (Option Pointer)),
    pointers.length = count + 2 ∧ argv = pointers.map some ++ none :: rest

/-- The event is an access inside its object. -/
def Event.Inside : Event → Prop
  | access object range => range.offset + range.length ≤ object.size
  | _ => False

def Event.Fine : Event → Prop
  | access object range => range.offset + range.length ≤ object.size
  | free _ => True
  | exec count argv => WellFormedArgv count argv

def Live (events : List Event) : Prop :=
  events.Pairwise fun e f => ∀ o, e = .free o → f ≠ .free o ∧ ∀ r, f ≠ .access o r

structure MemorySafe (events : List Event) : Prop where
  fine : ∀ e ∈ events, e.Fine
  live : Live events

variable {e : Event} {l index count : ℕ} {object : Object} {env : DaemonEnv} {as : List Event}
  {a : List (Option Pointer)}

theorem Event.Inside.fine (h : e.Inside) : e.Fine := by
  cases e with
  | access object range => exact h
  | free object => trivial
  | exec count argv => exact h.elim

/-! ## Accesses of the parts -/

theorem inside_of_ranges {ranges : List Range}
    (hra : ∀ r ∈ ranges, 0 ≤ r.offset ∧ r.offset + r.length = 0 + l)
    (hs : l ≤ object.size) : ∀ e ∈ ranges.map (Event.access object), e.Inside := by
  intro e he
  obtain ⟨r, hr, rfl⟩ := mem_map.mp he
  have hend := (hra r hr).2
  change r.offset + r.length ≤ object.size
  omega

theorem emits_readInto {s : Source} (hs : l ≤ object.size) :
    Emits Event.Inside (fun p => p.1.length = l) (readInto object l s) where
  events := inside_of_ranges (readExact_ranges s 0 l) hs
  result := fun _ hp => (readInto_spec hp).1

theorem emits_writeFrom {sink : List Acceptance} (hs : l ≤ object.size) :
    Emits Event.Inside (fun _ => True) (writeFrom object l sink) where
  events := inside_of_ranges (writeExact_ranges sink 0 l) hs
  result := fun _ _ => trivial

theorem emits_readHeader (c : Source) :
    Emits Event.Inside (fun _ => True) (readHeader c) := by
  have hm : ∀ e ∈ [Event.access .magic ⟨0, 8⟩, .access (.text requestMagic) ⟨0, 8⟩],
      e.Inside := by
    intro e he
    rcases mem_pair.mp he with rfl | rfl
    · exact le_refl 8
    · exact (by decide : 0 + 8 ≤ (Object.text requestMagic).size)
  exact (emits_readInto le_rfl).bind fun _ _ => (emits_emit hm).bind fun _ _ =>
    (emits_require _).bind fun _ _ => (emits_readInto le_rfl).bind fun _ _ =>
    (emits_readInto le_rfl).bind fun _ _ => (emits_readInto le_rfl).bind fun _ _ =>
    emits_pure trivial

theorem emits_readCommand {header : Header} (hh : header.commandLength ≤ maxCommand)
    (c : Source) : Emits Event.Inside (fun _ => True) (readCommand header c) := by
  refine (emits_readInto (by rw [Object.size]; omega)).bind fun _ _ =>
    (emits_emit ?_).bind fun _ _ => emits_pure trivial
  intro e he
  obtain rfl := mem_singleton.mp he
  exact Nat.succ_le_succ hh

theorem length_cString_le (b : Bytes) : (cString b).length ≤ b.length :=
  (List.takeWhile_prefix _).length_le

theorem compared_le (as bs : Bytes) :
    compared as bs ≤ as.length + 1 ∧ compared as bs ≤ bs.length + 1 := by
  induction as generalizing bs with
  | nil => simp [compared]
  | cons a as ih =>
    cases bs with
    | nil => simp [compared]
    | cons b bs =>
      have := ih bs
      rw [compared]
      split_ifs <;> simp only [length_cons] <;> omega

theorem emits_findRule {c : Bytes} (hc : c.length ≤ maxCommand)
    (rules : List CommandRule) :
    Emits Event.Inside (fun rule => rule ∈ rules ∧ cString c = rule.name)
      (findRule c rules) := by
  induction rules with
  | nil => exact ⟨by simp [findRule, stop], by simp [findRule, stop]⟩
  | cons rule rules ih =>
    have hre : ∀ e ∈ [Event.access .command ⟨0, compared (cString c) rule.name⟩,
        .access (.text rule.name) ⟨0, compared (cString c) rule.name⟩], e.Inside := by
      have hle := compared_le (cString c) rule.name
      have hl := length_cString_le c
      intro e he
      rcases mem_pair.mp he with rfl | rfl
      · change 0 + compared (cString c) rule.name ≤ maxCommand + 1
        omega
      · change 0 + compared (cString c) rule.name ≤ rule.name.length + 1
        omega
    rw [findRule]
    split_ifs with hn
    · exact ⟨hre, fun r hr => by
        obtain rfl : rule = r := by simpa using hr
        exact ⟨mem_cons_self, hn⟩⟩
    · refine (emits_emit hre).bind fun _ _ => ?_
      exact ⟨ih.events, fun r hr => ⟨mem_cons_of_mem _ (ih.result r hr).1, (ih.result r hr).2⟩⟩

theorem emits_sendResponse {sink : List Acceptance} {body : Object} (hs : l ≤ body.size) :
    Emits Event.Inside (fun _ => True) (sendResponse sink body l) := by
  have hm : 8 ≤ (Object.text responseMagic).size := by decide
  refine (emits_writeFrom hm).bind fun _ _ => (emits_writeFrom le_rfl).bind fun _ _ =>
    (emits_writeFrom le_rfl).bind fun _ _ => ?_
  split_ifs
  · exact emits_writeFrom hs
  · exact emits_pure trivial

theorem inside_refuse (env : DaemonEnv) {code : ℕ} {m : String}
    (hl : l ≤ (literalBytes m).length + 1) :
    ∀ e ∈ (refuse env code m l).events, e.Inside :=
  (emits_sendResponse (show l ≤ (Object.text _).size from hl)).events

theorem inside_readArguments (env : DaemonEnv) {todo : ℕ} (h : index + todo ≤ maxArguments)
    (a : List (Option Pointer)) (c : Source) :
    ∀ e ∈ (readArguments env todo index a c).events, e.Inside := by
  induction todo generalizing index a c with
  | zero => simp [readArguments]
  | succ todo ih =>
    have hl : ∀ e ∈ (readInto .argumentLength 4 c).events, e.Inside :=
      (emits_readInto le_rfl).events
    have hsl : Event.Inside (.access .arguments ⟨index + 2, 1⟩) := by
      change index + 2 + 1 ≤ maxArguments + 2
      omega
    have hs : ∀ e ∈ (readInto .argumentLength 4 c).events ++
        [.access .arguments ⟨index + 2, 1⟩], e.Inside := by
      intro e he
      rcases mem_append.mp he with he | he
      · exact hl e he
      · rwa [mem_singleton.mp he]
    rw [readArguments]
    dsimp only
    split
    · exact hl
    · rename_i lengthBytes c1 hr
      have hv : ∀ e ∈ (readInto (.argument index (beValue lengthBytes)) (beValue lengthBytes)
          c1).events, e.Inside :=
        (emits_readInto (Nat.le_succ _)).events
      split_ifs
      · exact hl
      · exact hs
      · split
        · exact fun e he => (mem_append.mp he).elim (hs e) (hv e)
        · intro e he
          rcases mem_append.mp he with he | he
          · exact (mem_append.mp he).elim (hs e) (hv e)
          · exact ih (by omega) _ _ e he

theorem inside_transferPayload (payload : ℕ) (c : Source) (sink : List Acceptance) :
    ∀ e ∈ (transferPayload payload c sink).events, e.Inside := by
  induction payload using Nat.strong_induction_on generalizing c sink with
  | _ payload ih =>
    rw [transferPayload]
    split_ifs with hz
    · simp
    · have hs : chunkLength payload ≤ Object.transfer.size := chunkLength_le payload
      have hpos : 0 < chunkLength payload := chunkLength_pos hz
      have hr : ∀ e ∈ (readInto .transfer (chunkLength payload) c).events, e.Inside :=
        (emits_readInto hs).events
      have hse : ∀ e ∈ (writeExact sink 0 (chunkLength payload)).ranges.map
          (Event.access .transfer), e.Inside := inside_of_ranges (writeExact_ranges sink 0 _) hs
      dsimp only
      split
      · exact hr
      · split_ifs
        · exact fun e he => (mem_append.mp he).elim (hr e) (hse e)
        · intro e he
          rcases mem_append.mp he with he | he
          · exact (mem_append.mp he).elim (hr e) (hse e)
          · exact ih _ (by omega) _ _ e he

theorem inside_collectOutput (s : Source) {used : ℕ} (h : used ≤ maxOutput) :
    (∀ e ∈ (collectOutput s used).events, e.Inside) ∧
      used + (collectOutput s used).output.length ≤ maxOutput := by
  have hr : Event.Inside (.access .output ⟨used, maxOutput - used⟩) := by
    change used + (maxOutput - used) ≤ maxOutput + 1
    omega
  induction s generalizing used with
  | nil => simpa [collectOutput] using ⟨hr, h⟩
  | cons segment s ih =>
    cases segment with
    | failed => simpa [collectOutput] using ⟨hr, h⟩
    | interrupted =>
      obtain ⟨hev, hl⟩ := ih h hr
      refine ⟨fun e he => ?_, hl⟩
      rcases mem_cons.mp he with rfl | he
      · exact hr
      · exact hev e he
    | data bytes =>
      have ht : used + (bytes.take (maxOutput - used)).length ≤ maxOutput := by
        rw [length_take]
        omega
      rw [collectOutput]
      dsimp only
      split_ifs
      · exact ⟨by simpa using hr, ht⟩
      · have hn : Event.Inside (.access .output
            ⟨used + (bytes.take (maxOutput - used)).length,
              maxOutput - (used + (bytes.take (maxOutput - used)).length)⟩) := by
          change used + (bytes.take (maxOutput - used)).length +
            (maxOutput - (used + (bytes.take (maxOutput - used)).length)) ≤ maxOutput + 1
          omega
        obtain ⟨hev, hl⟩ := ih ht hn
        refine ⟨fun e he => ?_, ?_⟩
        · rcases mem_cons.mp he with rfl | he
          · exact hr
          · exact hev e he
        · rw [length_append]
          omega

/-! ## The array for `execv` -/

theorem inside_argvScan {call : Invocation} {pointers : List Pointer} (rest : List (Option Pointer))
    (hs : ∀ p ∈ pointers, (stringAccess env call p).Inside)
    (hsi : index + pointers.length < maxArguments + 2) :
    ∀ e ∈ argvScan env call index (pointers.map some ++ none :: rest), e.Inside := by
  induction pointers generalizing index with
  | nil =>
    have hend : Event.Inside (.access .arguments ⟨index, 1⟩) := hsi
    simpa [argvScan] using hend
  | cons p pointers ih =>
    rw [length_cons] at hsi
    have hc : argvScan env call index ((p :: pointers).map some ++ none :: rest) =
        .access .arguments ⟨index, 1⟩ :: stringAccess env call p ::
          argvScan env call (index + 1) (pointers.map some ++ none :: rest) := rfl
    rw [hc]
    intro e he
    rcases mem_cons.mp he with rfl | he
    · change index + 1 ≤ maxArguments + 2
      omega
    · rcases mem_cons.mp he with rfl | he
      · exact hs p mem_cons_self
      · exact ih (fun q hq => hs q (mem_cons_of_mem _ hq)) (by omega) e he

theorem argvScan_behind (env : DaemonEnv) (call : Invocation) (i : ℕ)
    (pointers : List Pointer) :
    .access .arguments ⟨i + pointers.length, 1⟩ ∈
      argvScan env call i (pointers.map some) := by
  induction pointers generalizing i with
  | nil => simp [argvScan]
  | cons p pointers ih =>
    have hn := ih (i + 1)
    rw [show i + 1 + pointers.length = i + (p :: pointers).length by
      rw [length_cons]; omega] at hn
    exact mem_cons_of_mem _ (mem_cons_of_mem _ hn)

theorem mem_argumentPointers {k : ℕ} {v : List Bytes} {p : Pointer}
    (h : p ∈ argumentPointers k v) :
    ∃ i, p = .argument (k + i) (v.getD i []).length := by
  induction v generalizing k with
  | nil => simp [argumentPointers] at h
  | cons value v ih =>
    rcases mem_cons.mp h with rfl | h
    · exact ⟨0, by simp⟩
    · obtain ⟨i, rfl⟩ := ih h
      exact ⟨i + 1, by simp; omega⟩

/-! ## The controller and its answer -/

theorem inside_pipes : ∀ e ∈ [Event.access .inputPipe ⟨0, 2⟩, .access .outputPipe ⟨0, 2⟩],
    e.Inside := by
  intro e he
  rcases mem_pair.mp he with rfl | rfl <;> exact le_refl 2

theorem inside_runController (hf : ¬ env.Forks) (call : Invocation)
    (c : Source) : ∀ e ∈ (runController env call c).events, e.Inside := by
  unfold runController
  split_ifs with hi hfo ha
  · intro e he
    exact inside_pipes e (mem_pair.mpr (.inl (mem_singleton.mp he)))
  · exact inside_pipes
  · exact absurd ⟨by simpa using hi, by simpa using hfo⟩ hf
  · exact absurd ⟨by simpa using hi, by simpa using hfo⟩ hf

/-- With a child there are its events besides accesses that are inside. -/
theorem mem_runController (hf : env.Forks) (call : Invocation) (c : Source) :
    (∀ e ∈ (runController env call c).events, e.Inside ∨ e ∈ childEvents env call) ∧
      ∀ e ∈ childEvents env call, e ∈ (runController env call c).events := by
  obtain ⟨hi, ho, hfo⟩ := hf
  obtain ⟨hc, hle⟩ := inside_collectOutput env.controllerOutput (Nat.zero_le maxOutput)
  have hl : Event.Inside
      (.access .output ⟨(collectOutput env.controllerOutput 0).output.length, 1⟩) := by
    change _ + 1 ≤ maxOutput + 1
    simp only
    omega
  have ht := inside_transferPayload call.payloadLength c env.controllerInput
  have hs : ∀ e ∈ [Event.access .inputPipe ⟨0, 2⟩, .access .outputPipe ⟨0, 2⟩] ++
      childEvents env call ++
      (transferPayload call.payloadLength c env.controllerInput).events,
      e.Inside ∨ e ∈ childEvents env call := by
    intro e he
    rcases mem_append.mp he with he | he
    · exact (mem_append.mp he).imp (inside_pipes e) id
    · exact .inl (ht e he)
  unfold runController
  simp only [hi, ho, hfo, Bool.not_true, Bool.false_eq_true, or_self, if_false]
  cases env.outputAllocated with
  | false => exact ⟨hs, fun e he => by simp [he]⟩
  | true =>
    refine ⟨fun e he => ?_, fun e he => by simp [he]⟩
    rcases mem_append.mp he with he | he
    · exact (mem_append.mp he).elim (hs e) fun he => .inl (hc e he)
    · rw [mem_singleton.mp he]
      exact .inl hl

theorem length_output_runController {call : Invocation} {c : Source} {o : Bytes}
    (h : (runController env call c).output = some o) :
    o.length ≤ maxOutput := by
  have hl := (inside_collectOutput env.controllerOutput (Nat.zero_le maxOutput)).2
  unfold runController at h
  split_ifs at h
  obtain rfl := Option.some.inj h
  omega

theorem answer_events (env : DaemonEnv) {run : ControllerRun}
    (h : ∀ output, run.output = some output → output.length ≤ maxOutput) :
    ∃ sent frees, (answer env run).2 = sent ++ frees ∧ (∀ e ∈ sent, e.Inside) ∧
      (frees = [] ∨ frees = [.free .output] ∨ frees = [.free .transportMessage]) := by
  unfold answer
  split
  · rename_i output ho
    have hs : output.length ≤ Object.output.size := Nat.le_succ_of_le (h output ho)
    exact ⟨_, _, rfl, (emits_sendResponse hs).events, .inr (.inl rfl)⟩
  · split_ifs
    · have hs : 28 ≤ Object.transportMessage.size := by decide
      exact ⟨_, _, rfl, (emits_sendResponse hs).events, .inr (.inr rfl)⟩
    · exact ⟨_, [], (append_nil _).symm, (emits_sendResponse (Nat.zero_le _)).events, .inl rfl⟩

/-! ## Released memory -/

theorem live_append {bs : List Event} (has : ∀ e ∈ as, ∀ o, e ≠ .free o) (hbs : Live bs) :
    Live (as ++ bs) := by
  induction as with
  | nil => exact hbs
  | cons a as ih =>
    refine pairwise_cons.mpr ⟨fun f _ o ho => ?_, ih fun e he => has e (.tail _ he)⟩
    exact absurd ho (has a mem_cons_self o)

theorem live_of_no_free (has : ∀ e ∈ as, ∀ o, e ≠ .free o) : Live as := by
  have h := live_append has List.Pairwise.nil
  rwa [append_nil] at h

theorem Event.Inside.ne_free (h : e.Inside) (o : Object) : e ≠ .free o := by
  rintro rfl
  exact h

/-- Behind the first two elements stand pointers to the arguments of their index. -/
def Slots (arguments : List (Option Pointer)) : Prop :=
  ∀ i p, arguments.getD (i + 2) none = some p → ∃ n, p = .argument i n

theorem slots_initialArguments : Slots initialArguments := by
  intro i p h
  have hn : initialArguments.getD (i + 2) none = none := by
    simp [initialArguments, getD_eq_getElem?_getD, getElem?_replicate]
    split_ifs <;> rfl
  rw [hn] at h
  cases h

theorem Slots.set (h : Slots a) (index n : ℕ) :
    Slots (a.set (index + 2) (some (.argument index n))) := by
  intro i p hp
  rw [getD_eq_getElem?_getD, getElem?_set] at hp
  split_ifs at hp with he hlt
  · obtain rfl : index = i := by omega
    exact ⟨n, by simpa using hp.symm⟩
  · simp at hp
  · exact h i p (by rw [getD_eq_getElem?_getD, hp])

theorem slots_readArguments (env : DaemonEnv) {todo : ℕ} (h : Slots a) (c : Source) :
    Slots (readArguments env todo index a c).arguments := by
  induction todo generalizing index a c with
  | zero => exact h
  | succ todo ih =>
    rw [readArguments]
    dsimp only
    split
    · exact h
    · split_ifs
      · exact h
      · exact h
      · split
        · exact h.set _ _
        · exact ih (h.set _ _) _

theorem mem_release (h : Slots a) (he : e ∈ release a index) :
    e = .access .arguments ⟨index + 2, 1⟩ ∨ ∃ n, e = .free (.argument index n) := by
  rcases mem_cons.mp he with rfl | he
  · exact .inl rfl
  · split at he
    · rename_i i l hs
      obtain ⟨n, hn⟩ := h index _ hs
      cases hn
      exact .inr ⟨_, mem_singleton.mp he⟩
    · cases he

theorem mem_cleanup (h : Slots a) (he : e ∈ cleanup count a) :
    (∃ i < count, e = .access .arguments ⟨i + 2, 1⟩) ∨ ∃ i n, e = .free (.argument i n) := by
  obtain ⟨i, hi, he⟩ := mem_flatMap.mp he
  rcases mem_release h he with rfl | ⟨n, rfl⟩
  · exact .inl ⟨i, mem_range.mp hi, rfl⟩
  · exact .inr ⟨i, n, rfl⟩

theorem live_cleanup (h : Slots a) :
    Live (cleanup count a) := by
  refine pairwise_flatMap.mpr ⟨fun i _ => ?_, ?_⟩
  · refine pairwise_cons.mpr ⟨fun _ _ _ he => (by cases he), ?_⟩
    split
    · exact pairwise_singleton _ _
    · exact List.Pairwise.nil
  · -- Two indexes release two different allocations.
    refine List.Pairwise.imp (fun {i j} hij x hx y hy o ho => ?_) pairwise_lt_range
    subst ho
    obtain ⟨n, rfl⟩ : ∃ n, o = .argument i n := by
      rcases mem_release h hx with he | ⟨n, he⟩
      · cases he
      · exact ⟨n, Event.free.inj he⟩
    rcases mem_release h hy with rfl | ⟨m, rfl⟩
    · exact ⟨nofun, nofun⟩
    · refine ⟨fun he => ?_, nofun⟩
      cases he
      omega

/-- The output and the arguments are released one after the other. -/
theorem live_frees (h : Slots a) {freed : List Event}
    (hfr : freed = [] ∨ freed = [.free .output] ∨ freed = [.free .transportMessage]) :
    Live (freed ++ cleanup count a) := by
  have hc : ∀ o, (∀ i n, o ≠ .argument i n) → o ≠ .arguments →
      Live ([.free o] ++ cleanup count a) := by
    intro o ha har
    refine pairwise_cons.mpr ⟨fun f hf o' ho' => ?_, live_cleanup h⟩
    cases ho'
    rcases mem_cleanup h hf with ⟨i, -, rfl⟩ | ⟨i, n, rfl⟩
    · exact ⟨nofun, fun r he => har (Event.access.inj he).1.symm⟩
    · exact ⟨fun he => ha i n (Event.free.inj he).symm, nofun⟩
  rcases hfr with rfl | rfl | rfl
  · exact live_cleanup h
  · exact hc _ nofun nofun
  · exact hc _ nofun nofun

/-! ## A request that is served -/

section Serve

variable {env : DaemonEnv} {header : Header} {command : Bytes} {client rest : Source}

theorem inside_stringAccess (hc : command.length ≤ maxCommand) {p : Pointer}
    (hp : p ∈ .controller :: .command ::
      argumentPointers 0 (invocation env header command client).values) :
    (stringAccess env (invocation env header command client) p).Inside := by
  rcases mem_cons.mp hp with rfl | hp
  · have := length_cString_le env.controller
    change 0 + ((cString env.controller).length + 1) ≤ env.controller.length + 1
    omega
  · rcases mem_cons.mp hp with rfl | hp
    · have := length_cString_le command
      change 0 + ((cString command).length + 1) ≤ maxCommand + 1
      omega
    · obtain ⟨i, rfl⟩ := mem_argumentPointers hp
      rw [Nat.zero_add]
      have := length_cString_le ((invocation env header command client).values.getD i [])
      change 0 + ((cString ((invocation env header command client).values.getD i [])).length + 1) ≤
        ((invocation env header command client).values.getD i []).length + 1
      omega

theorem ne_free_argvScan (call : Invocation) (i : ℕ) (argv : List (Option Pointer)) :
    ∀ e ∈ argvScan env call i argv, ∀ o, e ≠ .free o := by
  induction argv generalizing i with
  | nil => simp [argvScan]
  | cons p argv ih =>
    cases p with
    | none => simp [argvScan]
    | some p =>
      intro e he
      rcases mem_cons.mp he with rfl | he
      · exact nofun
      · rcases mem_cons.mp he with rfl | he
        · cases p <;> exact nofun
        · exact ih (i + 1) e he

theorem ne_free_childEvents (call : Invocation) :
    ∀ e ∈ childEvents env call, ∀ o, e ≠ .free o := by
  intro e he
  rcases mem_cons.mp he with rfl | he
  · exact nofun
  · exact ne_free_argvScan call 0 _ e he

theorem fine_childEvents (hc : command.length ≤ maxCommand)
    (hco : header.argumentCount < maxArguments)
    (hre : (readArguments env header.argumentCount 0 initialArguments client).client =
      some rest) :
    ∀ e ∈ childEvents env (invocation env header command client), e.Fine := by
  obtain ⟨hv, ha⟩ := arguments_invocation command hco.le hre
  have hr : replicate (maxArguments - header.argumentCount) (none : Option Pointer) =
      none :: replicate (maxArguments - header.argumentCount - 1) none := by
    rw [← replicate_succ]
    congr 1
    omega
  rw [hr] at ha
  have hl : (Pointer.controller :: .command ::
      argumentPointers 0 (invocation env header command client).values).length =
      header.argumentCount + 2 := by
    simp [hv]
  intro e he
  rcases mem_cons.mp he with rfl | he
  · refine ⟨?_, _, _, hl, ha⟩
    rw [ha, length_append, length_map, hl, length_cons,
      length_replicate]
    omega
  · rw [ha] at he
    exact (inside_argvScan _ (fun p hp => inside_stringAccess hc hp)
      (by rw [hl]; omega) e he).fine

theorem behind_childEvents (c : Bytes) (hc : header.argumentCount = maxArguments)
    (hr : (readArguments env header.argumentCount 0 initialArguments client).client =
      some rest) :
    .access .arguments ⟨maxArguments + 2, 1⟩ ∈
      childEvents env (invocation env header c client) := by
  obtain ⟨hv, ha⟩ := arguments_invocation c hc.le hr
  rw [hc, Nat.sub_self, replicate_zero, append_nil] at ha
  have hs := argvScan_behind env (invocation env header c client) 0 (.controller ::
    .command :: argumentPointers 0 (invocation env header c client).values)
  rw [← ha] at hs
  refine mem_cons_of_mem _ ?_
  simpa [hv, hc] using hs

/-- **The trace of a served request**: accesses that are inside, the events of the child if there
is one, and the releases. -/
theorem serve_events (env : DaemonEnv) (command : Bytes) (c : Source)
    (hco : header.argumentCount ≤ maxArguments) :
    ∃ quiet frees a, Slots a ∧
      (serve env header command c).events =
        quiet ++ (frees ++ cleanup header.argumentCount a) ∧
      (frees = [] ∨ frees = [.free .output] ∨ frees = [.free .transportMessage]) ∧
      ∀ e ∈ quiet, e.Inside ∨
        (∃ rest, (readArguments env header.argumentCount 0 initialArguments c).client =
          some rest) ∧ env.Forks ∧ e ∈ childEvents env (invocation env header command c) := by
  have hsl : Slots (readArguments env header.argumentCount 0 initialArguments c).arguments :=
    slots_readArguments env slots_initialArguments c
  have hs : ∀ e ∈ [Event.access .arguments ⟨0, maxArguments + 2⟩] ++
      (readArguments env header.argumentCount 0 initialArguments c).events, e.Inside := by
    intro e he
    rcases mem_append.mp he with he | he
    · rw [mem_singleton.mp he]
      exact (Nat.zero_add _).le
    · exact inside_readArguments env (by omega) _ _ e he
  unfold serve
  dsimp only
  split
  · split_ifs
    · refine ⟨_, [], _, hsl, rfl, .inl rfl, fun e he => .inl ?_⟩
      exact (mem_append.mp he).elim (hs e) (inside_refuse env (by decide) e)
    · exact ⟨_, [], _, hsl, rfl, .inl rfl, fun e he => .inl (hs e he)⟩
  · rename_i rest hr
    have ho : ∀ output,
        (runController env (invocation env header command c) rest).output = some output →
          output.length ≤ maxOutput := fun output h => length_output_runController h
    obtain ⟨sent, frees, ha, hse, hfr⟩ := answer_events env ho
    refine ⟨[.access .arguments ⟨0, maxArguments + 2⟩] ++
      (readArguments env header.argumentCount 0 initialArguments c).events ++
      (runController env (invocation env header command c) rest).events ++ sent, frees, _,
      hsl, ?_, hfr, fun e he => ?_⟩
    · change _ ++ _ ++ (answer env
        (runController env (invocation env header command c) rest)).2 ++ _ = _
      rw [ha]
      simp only [append_assoc]
      rfl
    · rcases mem_append.mp he with he | he
      · rcases mem_append.mp he with he | he
        · exact .inl (hs e he)
        · by_cases hf : env.Forks
          · exact ((mem_runController hf _ _).1 e he).imp_right fun hc =>
              ⟨⟨rest, hr⟩, hf, hc⟩
          · exact .inl (inside_runController hf _ _ e he)
      · exact .inl (hse e he)

/-- A served request is safe unless the child runs with eight arguments. -/
theorem memorySafe_serve (hco : command.length ≤ maxCommand)
    (hc : header.argumentCount ≤ maxArguments)
    (hro : ∀ rest, (readArguments env header.argumentCount 0 initialArguments client).client =
      some rest → env.Forks → header.argumentCount ≠ maxArguments) :
    MemorySafe (serve env header command client).events := by
  obtain ⟨quiet, frees, a, hs, hev, hf, hq⟩ :=
    serve_events env command client hc
  have hfr : ∀ e ∈ quiet, ∀ o, e ≠ .free o := fun e he =>
    (hq e he).elim Event.Inside.ne_free fun h => ne_free_childEvents _ e h.2.2
  rw [hev]
  refine ⟨fun e he => ?_, live_append hfr (live_frees hs hf)⟩
  rcases mem_append.mp he with he | he
  · rcases hq e he with he | ⟨⟨rest, hr⟩, hfo, hch⟩
    · exact he.fine
    · have hne := hro rest hr hfo
      exact fine_childEvents hco (lt_of_le_of_ne hc hne) hr e hch
  · rcases mem_append.mp he with he | he
    · rcases hf with rfl | rfl | rfl
      · cases he
      · rw [mem_singleton.mp he]
        trivial
      · rw [mem_singleton.mp he]
        trivial
    · rcases mem_cleanup hs he with ⟨i, hi, rfl⟩ | ⟨i, n, rfl⟩
      · change i + 2 + 1 ≤ maxArguments + 2
        omega
      · trivial

theorem behind_serve (header : Header) (c : Bytes)
    (hc : header.argumentCount = maxArguments)
    (hr : (readArguments env header.argumentCount 0 initialArguments client).client =
      some rest) (hf : env.Forks) :
    .access .arguments ⟨maxArguments + 2, 1⟩ ∈ (serve env header c client).events := by
  have hb := behind_childEvents c hc hr
  have hmem := (mem_runController hf (invocation env header c client) rest).2 _ hb
  unfold serve
  simp only [hr, mem_append]
  exact .inl (.inl (.inr hmem))

end Serve

/-! ## Connections -/

def updateCommand : Bytes := literalBytes "provider-update"

theorem rule_of_maxArguments : ∀ rule ∈ kRules, rule.arguments = maxArguments →
    rule = ⟨updateCommand, maxArguments, 0⟩ := by decide

/-- A complete `provider-update` request that gets as far as `execv`. -/
structure Overruns (env : DaemonEnv) (client : Source) : Prop where
  authorised : env.authorised = true
  allocated : ∀ i < maxArguments, env.allocated i = true
  forks : env.Forks
  arrives : ∃ command values tail, cString command = updateCommand ∧
    command.length ≤ maxCommand ∧ values.length = maxArguments ∧
    (∀ v ∈ values, v.length ≤ maxArgument) ∧
    available client = encodeRequest command values 0 ++ tail

variable {env : DaemonEnv} {client : Source}

theorem Overruns.behind (h : Overruns env client) :
    .access .arguments ⟨maxArguments + 2, 1⟩ ∈ (handleClient env client).events := by
  obtain ⟨co, values, tail, hn, hl, hc, hsh, hav⟩ := h.arrives
  have hr : (findRule co kRules).result = some ⟨updateCommand, maxArguments, 0⟩ := by
    rw [result_findRule, hn]
    decide
  have had : CommandRule.admits ⟨updateCommand, maxArguments, 0⟩
      ⟨co.length, values.length, 0⟩ := ⟨hc.symm, le_rfl, fun hz => hz.2 rfl⟩
  obtain ⟨events, rest, ha, hs⟩ := handleClient_of_available h.authorised hl
    hc.le (by decide) hr had hav
  have hall : ∀ i, 0 ≤ i → i < 0 + values.length → env.allocated i = true :=
    fun i _ hi => h.allocated i (by omega)
  obtain ⟨c, hre, -⟩ := readArguments_of_available initialArguments hsh hall ha
  rw [hs]
  exact mem_append_right _
    (behind_serve ⟨co.length, values.length, 0⟩ co hc hre h.forks)

theorem MemorySafe.append {bs : List Event} (has : ∀ e ∈ as, e.Inside) (hbs : MemorySafe bs) :
    MemorySafe (as ++ bs) where
  fine := fun e he => (mem_append.mp he).elim (fun he => (has e he).fine) (hbs.fine e)
  live := live_append (fun e he => (has e he).ne_free) hbs.live

theorem memorySafe_of_inside (has : ∀ e ∈ as, e.Inside) : MemorySafe as where
  fine := fun e he => (has e he).fine
  live := live_of_no_free fun e he => (has e he).ne_free

/-- A served request that overruns the array is a complete `provider-update` request. -/
theorem overruns_of_serve {header : Header} {c1 c2 rest : Source} {c : Bytes}
    {rule : CommandRule} (ha : env.authorised = true)
    (hh : (readHeader client).result = some (header, c1))
    (hcm : (readCommand header c1).result = some (c, c2))
    (hl : header.commandLength ≤ maxCommand)
    (hr : rule ∈ kRules ∧ cString c = rule.name) (had : rule.admits header)
    (hre : (readArguments env header.argumentCount 0 initialArguments c2).client = some rest)
    (hf : env.Forks) (hco : header.argumentCount = maxArguments) :
    Overruns env client := by
  obtain ⟨har, hp, -⟩ := had
  obtain rfl := rule_of_maxArguments rule hr.1 (har.trans hco)
  obtain ⟨hc, a2⟩ := readCommand_spec hcm
  have hin : initialArguments = [some .controller, some .command] ++
      replicate (header.argumentCount + 0) none := by
    rw [hco]
    rfl
  obtain ⟨values, hv, hs, hall, a3, -⟩ := readArguments_spec (by rfl) hin hre
  refine ⟨ha, fun i hi => hall i (Nat.zero_le i) (by omega), hf, c,
    values, available rest, hr.2, by omega, by omega, hs, ?_⟩
  have hsh : header = ⟨c.length, values.length, 0⟩ := by
    obtain ⟨commandLength, argumentCount, payloadLength⟩ := header
    simp only [Header.mk.injEq]
    exact ⟨hc.symm, hv.symm, Nat.le_zero.mp hp⟩
  rw [readHeader_spec hh, a2, a3, encodeRequest, ← hsh]
  simp only [append_assoc]

/-- **A connection that does not overrun the array is memory safe.** -/
theorem memorySafe_of_not_overruns (h : ¬ Overruns env client) :
    MemorySafe (handleClient env client).events := by
  have hh := (emits_readHeader client).events
  unfold handleClient
  split_ifs with hau
  · exact memorySafe_of_inside (inside_refuse env (by decide))
  · dsimp only
    split
    · exact memorySafe_of_inside hh
    · rename_i header c1 hhe
      split_ifs with hi
      · exact (memorySafe_of_inside (inside_refuse env (by decide))).append hh
      · push Not at hi
        obtain ⟨-, hl, hcn⟩ := hi
        have hce := (emits_readCommand hl c1).events
        have hr : ∀ e ∈ (readHeader client).events ++ (readCommand header c1).events,
            e.Inside := fun e he =>
          (mem_append.mp he).elim (hh e) (hce e)
        split
        · exact memorySafe_of_inside hr
        · rename_i co c2 hco
          have hc : co.length ≤ maxCommand :=
            (readCommand_spec hco).1.le.trans hl
          have hf := emits_findRule hc kRules
          have hev : ∀ e ∈ (readHeader client).events ++ (readCommand header c1).events ++
              (findRule co kRules).events, e.Inside := fun e he =>
            (mem_append.mp he).elim (hr e) (hf.events e)
          split
          · exact (memorySafe_of_inside (inside_refuse env (by decide))).append hev
          · rename_i rule hru
            split_ifs with had
            · refine (memorySafe_serve hc hcn fun rest ha hfo hmax =>
                h ?_).append hev
              exact overruns_of_serve (by simpa using hau) hhe hco hl
                (hf.result rule hru) had ha hfo hmax
            · exact (memorySafe_of_inside (inside_refuse env (by decide))).append hev

/-- **Memory safety of a connection**, for every client, every split of its bytes and every result
of the platform: it holds unless a complete `provider-update` request reaches `execv`. -/
theorem memorySafe_iff (env : DaemonEnv) (client : Source) :
    MemorySafe (handleClient env client).events ↔ ¬ Overruns env client := by
  refine ⟨fun hs ho => ?_, memorySafe_of_not_overruns⟩
  have hf := hs.fine _ ho.behind
  have hle : maxArguments + 2 + 1 ≤ maxArguments + 2 := hf
  omega

/-- A device on which every call succeeds and the controller prints nothing. -/
def workingEnv : DaemonEnv where
  authorised := true
  controller := literalBytes "/data/adb/vcam/vcamctl"
  allocated := fun _ => true
  inputPipe := true
  outputPipe := true
  forked := true
  outputAllocated := true
  messageAllocated := true
  controllerOutput := []
  controllerInput := []
  client := []
  exitStatus := some 0

/-- `provider-update` with eight empty arguments. -/
def updateRequest : Source := [.data (encodeRequest updateCommand (replicate 8 []) 0)]

/-- **A `provider-update` request makes `execv` read behind `arguments`.** -/
theorem provider_update_overruns :
    .access .arguments ⟨10, 1⟩ ∈ (handleClient workingEnv updateRequest).events ∧
      Object.arguments.size = 10 ∧ ¬ MemorySafe (handleClient workingEnv updateRequest).events := by
  have ho : Overruns workingEnv updateRequest :=
    ⟨rfl, fun _ _ => rfl, ⟨rfl, rfl, rfl⟩, updateCommand, replicate 8 [], [], by decide,
      by decide, rfl, by decide, by simp [updateRequest, available]⟩
  refine ⟨ho.behind, rfl, fun hs => ?_⟩
  have hle : 10 + 1 ≤ 10 := hs.fine _ ho.behind
  omega

end Vcam.Daemon
