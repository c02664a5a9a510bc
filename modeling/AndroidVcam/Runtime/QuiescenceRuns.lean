import AndroidVcam.Runtime.QuiescenceSafety

/-!
# Runs of the coordinator

The methods of one coordinator in any order, with any answers of the backend, and its end.

* **`enter_quiesces`**: `enter` succeeds only when every peer is parked at a safe place;
* **`no_leaked_parks`**: what may be parked is resumed, by `leave` or at the end.
-/

namespace Vcam.Runtime

open Dialogue Dialogue.Program Ranges List

namespace ThreadQuiescence

inductive QuiesceMethod
  | prepare
  | enter
  | leave
deriving DecidableEq

def program (q : ThreadQuiescence) (c : Coordinator) : QuiesceMethod → Quiesce Outcome
  | .prepare => q.prepare c
  | .enter => q.enter c
  | .leave => q.leave c

/-- The callbacks and the members after some methods of a new coordinator. -/
inductive Runs (q : ThreadQuiescence) : List QuiesceEvent → Coordinator → Prop
  | start : Runs q [] {}
  | call {trace events : List QuiesceEvent} {c : Coordinator} {outcome : Outcome}
      (method : QuiesceMethod) (h : Runs q trace c)
      (hpath : (q.program c method).Path events outcome) : Runs q (trace ++ events) outcome.2

variable {q : ThreadQuiescence} {c : Coordinator} {trace events : List QuiesceEvent}
  {outcome : Outcome}

variable (q) in
structure Consistent (c : Coordinator) (trace : List QuiesceEvent) : Prop where
  account : Account q.configuration.currentThreadId c.parkAttempted trace
  waits : waits trace ≤ q.configuration.maximumStabilizationPasses
  fresh : c.state = .empty → asked trace = [] ∧ Vcam.Runtime.waits trace = 0
  ready : c.state = .prepared → Ready q c trace ∧ q.backendComplete = true
  armed : c.parkAttempted = true → q.backend.resumes = true

theorem resumes_of_backendComplete (h : q.backendComplete = true) : q.backend.resumes = true := by
  simp only [backendComplete, Bool.and_eq_true] at h
  exact h.2

theorem Consistent.of_state (ha : Account q.configuration.currentThreadId c.parkAttempted trace)
    (hw : Vcam.Runtime.waits trace ≤ q.passes)
    (he : c.state ≠ .empty) (hp : c.state ≠ .prepared)
    (har : c.parkAttempted = true → q.backend.resumes = true) : Consistent q c trace :=
  ⟨ha, hw, fun h => absurd h he, fun h => absurd h hp, har⟩

theorem consistent_prepare (h : Consistent q c trace) :
    (q.prepare c).Ensures (fun outcome => Consistent q outcome.2) trace := by
  unfold prepare
  refine ensures_ite (fun _ => h) fun he => ?_
  obtain ⟨hask, hw⟩ := h.fresh (not_not.mp he)
  have hf {c' : Coordinator} {trace' : List QuiesceEvent}
      (hat : c'.parkAttempted = c.parkAttempted) (hs : c'.state = .failed)
      (ha : Account q.configuration.currentThreadId c.parkAttempted trace')
      (hw' : Vcam.Runtime.waits trace' = 0) : Consistent q c' trace' :=
    .of_state (hat ▸ ha) (hw'.trans_le (Nat.zero_le _)) (hs ▸ nofun)
      (hs ▸ nofun) (hat ▸ h.armed)
  refine ensures_ite (fun _ => hf rfl rfl h.account hw) fun hv => ?_
  refine ensures_ite (fun _ => hf rfl rfl h.account hw) fun hc => ?_
  refine ensures_ask_bind.mpr fun read => ?_
  change Filled ℤ q.configuration.maximumThreads at read
  have ha := h.account.enumerate read
  have ha' : asked (trace ++ [⟨.enumerateThreads q.configuration.maximumThreads, read⟩]) = [] := by
    rw [asked_concat, hask]
    rfl
  have hw' : Vcam.Runtime.waits
      (trace ++ [⟨.enumerateThreads q.configuration.maximumThreads, read⟩]) = 0 := by
    rw [waits_concat, hw]
    rfl
  refine ensures_ite (fun _ => ensures_ite (fun _ => ?_) fun _ => ?_) fun _ => ?_
  · exact hf rfl rfl ha hw'
  · exact hf rfl rfl ha hw'
  obtain ⟨valid, sorted, hso, hl, -⟩ :=
    validInventory_spec (q := q) read.buffer.val read.count
  rw [hso, bind_pure_left]
  refine ensures_ite (fun _ => hf rfl rfl ha hw') fun _ => ?_
  refine ⟨ha, hw'.trans_le (Nat.zero_le _), nofun, fun _ => ⟨?_, by simpa using hc⟩,
    h.armed⟩
  exact ⟨ha, by simpa using hv, hl.trans read.buffer.property, length_replicate,
    length_replicate, length_replicate, ha', hw'⟩

theorem consistent_enter (h : Consistent q c trace) :
    (q.enter c).Ensures (fun outcome => Consistent q outcome.2) trace := by
  by_cases hs : c.state = .prepared
  · obtain ⟨hr, hc⟩ := h.ready hs
    refine (ensures_enter hr hs).mono fun outcome trace' hend => ?_
    obtain hend | hend := hend
    · exact .of_state hend.account hend.waits (hend.state ▸ nofun) (hend.state ▸ nofun)
        fun _ => resumes_of_backendComplete hc
    · exact .of_state hend.account hend.waits (hend.state ▸ nofun) (hend.state ▸ nofun)
        fun _ => resumes_of_backendComplete hc
  · unfold enter
    rw [if_pos hs]
    exact h

theorem consistent_leave (h : Consistent q c trace) :
    (q.leave c).Ensures (fun outcome => Consistent q outcome.2) trace := by
  unfold leave
  refine ensures_ite (fun _ => h) fun _ => ensures_ite (fun hat => ?_) fun hnot => ?_
  · refine ensures_ask_bind.mpr fun (answer : Bool) => ?_
    have ha := h.account
    rw [hat] at ha
    have hr := ha.resume q.configuration.epoch answer
    have hw : Vcam.Runtime.waits (trace ++
        [⟨.resumeParkedThreads q.configuration.epoch, answer⟩]) ≤ q.passes := by
      rw [waits_concat]
      exact h.waits
    cases answer with
    | false => exact .of_state (hat ▸ hr) hw nofun nofun h.armed
    | true => exact .of_state hr hw nofun nofun nofun
  · have ha := h.account
    rw [Bool.eq_false_iff.mpr hnot] at ha
    exact .of_state ha h.waits nofun nofun nofun

theorem consistent_of_runs (h : Runs q trace c) : Consistent q c trace := by
  induction h with
  | start => exact ⟨.nil, Nat.zero_le _, fun _ => ⟨rfl, rfl⟩, nofun, nofun⟩
  | call method _ hp ih =>
    cases method with
    | prepare => exact ensures_iff_path.mp (consistent_prepare ih) _ _ hp
    | enter => exact ensures_iff_path.mp (consistent_enter ih) _ _ hp
    | leave => exact ensures_iff_path.mp (consistent_leave ih) _ _ hp

/-! ## Success -/

/-- In a list with different keys there is one element for each of them. -/
theorem exists_filter_eq_singleton {s : List ParkedThreadSnapshot} {thread : ℤ}
    (hn : (s.map ParkedThreadSnapshot.threadId).Nodup)
    (hmem : thread ∈ s.map ParkedThreadSnapshot.threadId) :
    ∃ snapshot ∈ s, s.filter (fun other => other.threadId = thread) = [snapshot] := by
  obtain ⟨snapshot, hs, rfl⟩ := mem_map.mp hmem
  obtain ⟨before, after, rfl⟩ := append_of_mem hs
  rw [map_append, map_cons, nodup_middle, nodup_cons] at hn
  simp only [mem_append, mem_map, not_or, not_exists, not_and] at hn
  refine ⟨snapshot, hs, ?_⟩
  have hb : before.filter (fun other => other.threadId = snapshot.threadId) = [] :=
    filter_eq_nil_iff.mpr fun other ho => by simpa using hn.1.1 other ho
  have ha : after.filter (fun other => other.threadId = snapshot.threadId) = [] :=
    filter_eq_nil_iff.mpr fun other ho => by simpa using hn.1.2 other ho
  rw [filter_append, filter_cons_of_pos (by simp), hb, ha]
  rfl

theorem Consistent.ready_nil (h : Consistent q c trace) (hs : c.state = .prepared) :
    Ready q c [] := by
  obtain ⟨hr, -⟩ := h.ready hs
  have ha : c.parkAttempted = false := by
    rw [Bool.eq_false_iff]
    exact fun h => not_pending_of_asked_eq_nil hr.asked (hr.account.pending.mp h)
  exact { hr with account := ha ▸ .nil, asked := rfl, waits := rfl }

/-- **Success means that every peer is parked at a safe place.** -/
theorem enter_quiesces {q : ThreadQuiescence} {trace events : List QuiesceEvent} {c : Coordinator}
    {outcome : Outcome} (h : Runs q trace c) (hpath : (q.enter c).Path events outcome) :
    (outcome.1.status = .ok →
      ∃ before, ∃ read : Filled ℤ q.configuration.maximumThreads,
        events = before ++ [⟨.enumerateThreads q.configuration.maximumThreads, read⟩] ∧
        read.ok = true ∧ read.count ≤ q.configuration.maximumThreads ∧
        (read.buffer.val.take read.count).Nodup ∧
        (∀ id ∈ read.buffer.val.take read.count, 0 < id) ∧
        q.configuration.currentThreadId ∈ read.buffer.val.take read.count ∧
        (∀ id, id ∈ granted events ↔
          id ∈ read.buffer.val.take read.count ∧ id ≠ q.configuration.currentThreadId) ∧
        ∀ id ∈ granted events, ∃ early epoch ids capacity timeout,
          ∃ waited : Filled ParkedThreadSnapshot capacity,
            before = early ++ [⟨.waitForParkedThreads epoch ids capacity timeout, waited⟩] ∧
            waited.ok = true ∧ waited.count ≤ capacity ∧
            ∃ snapshot, (waited.buffer.val.take waited.count).filter
                (fun other => other.threadId = id) = [snapshot] ∧
              snapshot.epoch = q.configuration.epoch ∧ snapshot.programCounter ≠ 0 ∧
              snapshot.programCounter.toNat % 4 = 0 ∧
              ¬ (q.configuration.targetAddress.toNat ≤ snapshot.programCounter.toNat ∧
                snapshot.programCounter.toNat <
                  q.configuration.targetAddress.toNat + q.configuration.targetSize)) ∧
    ∀ event ∈ trace ++ events, event.request ≠ .stray := by
  have hc := consistent_of_runs h
  refine ⟨fun hok => ?_, (consistent_of_runs (.call .enter h hpath)).account.inBounds⟩
  by_cases hs : c.state = .prepared
  · have hre := hc.ready_nil hs
    have hend := ensures_iff_path.mp (ensures_enter hre hs) _ _ hpath
    rw [nil_append] at hend
    obtain hend | hend := hend
    · exact absurd hok hend.status
    obtain ⟨before, capacity, read, rfl, hr, he, ha, hst⟩ := hend.last
    obtain rfl := hr.capacity_eq
    have hi := hr.isInventory.increasing
    have hg (id : ℤ) : id ∈ granted (before ++
          [⟨.enumerateThreads q.configuration.maximumThreads, read⟩]) ↔ id ∈ requested outcome.2 := by
      rw [hend.granted]
      exact ha.mem_iff
    refine ⟨before, read, rfl, hr.ok, hr.bounded,
      hr.perm.nodup_iff.mp (hi.imp ne_of_lt), fun id hid => ?_,
      hr.perm.mem_iff.mp hr.isInventory.current, fun id => ?_, fun id hid => ?_⟩
    · exact hr.isInventory.positive id (hr.perm.mem_iff.mpr hid)
    · rw [hg, ← he, mem_filter, hr.perm.mem_iff, decide_eq_true_eq]
    · rw [hg] at hid
      obtain hno | ⟨early, epoch, ids, capacity, timeout, waited, rfl, hw, hco, hpe, hsa⟩ :=
        hst
      · rw [requested, hno] at hid
        cases hid
      have hn : (requested outcome.2).Nodup := by
        rw [← he]
        exact (hi.imp ne_of_lt).filter _
      obtain ⟨snapshot, hsn, hf⟩ :=
        exists_filter_eq_singleton (hpe.nodup_iff.mpr hn) (hpe.mem_iff.mpr hid)
      have hp := hsa snapshot hsn
      exact ⟨early, epoch, ids, capacity, timeout, waited, rfl, hw, hco, snapshot, hf,
        hp.epoch, hp.nonzero, hp.aligned, hp.outside⟩
  · unfold enter at hpath
    rw [if_pos hs] at hpath
    obtain ⟨rfl, rfl⟩ := hpath
    cases hok

/-! ## Two threads -/

def insertionSorter {α : Type} (key : α → ℤ) : Sorter fun a b : α => key a < key b where
  sort := insertionSort fun a b => key a ≤ key b
  perm := perm_insertionSort _
  sorted values := by
    have : Std.Total fun a b : α => key a ≤ key b := ⟨fun a b => le_total _ _⟩
    have : IsTrans α fun a b : α => key a ≤ key b := ⟨fun a b c => le_trans⟩
    exact (pairwise_insertionSort _ values).imp not_lt.mpr

def twoThreads : ThreadQuiescence where
  configuration := ⟨0x1000, 16, 1, 7, 2, 2, 100⟩
  backend := ⟨true, true, true, true⟩
  sortIds := insertionSorter id
  sortSnapshots := insertionSorter ParkedThreadSnapshot.threadId

def fill {α : Type} (value : α) (values : List α) (capacity : ℕ) : Filled α capacity :=
  ⟨true, values.length, (values ++ replicate capacity value).take capacity, by simp⟩

def cooperative : List QuiesceEvent → (request : QuiesceCall) → request.Answer
  | _, .enumerateThreads capacity => fill 0 [2, 1] capacity
  | _, .requestThreadPark _ _ => true
  | _, .waitForParkedThreads _ _ capacity _ => fill {} [⟨2, 0x2000, 7⟩] capacity
  | _, .resumeParkedThreads _ => true
  | _, .stray => ()

def preparedTwo : Coordinator := ((twoThreads.prepare {}).run cooperative []).1.2

/-- The run of `enter` behind `prepare`. -/
def enteredTwo : Outcome × List QuiesceEvent := (twoThreads.enter preparedTwo).run cooperative []

theorem runs_preparedTwo : Runs twoThreads ((twoThreads.prepare {}).run cooperative []).2 preparedTwo :=
  .call .prepare .start (path_run cooperative [] (twoThreads.prepare {}))

theorem enter_quiesces_twoThreads : enteredTwo.1.1.status = .ok ∧
    ∃ snapshot : ParkedThreadSnapshot, snapshot.epoch = 7 ∧ snapshot.programCounter ≠ 0 := by
  have hok : enteredTwo.1.1.status = .ok := by decide +kernel
  have hq := enter_quiesces runs_preparedTwo
    (path_run cooperative [] (twoThreads.enter preparedTwo))
  obtain ⟨before, read, -, -, -, -, -, -, -, hp⟩ := hq.1 hok
  have htwo : 2 ∈ granted enteredTwo.2 := by decide +kernel
  obtain ⟨-, -, -, -, -, -, -, -, -, snapshot, -, he, hn, -⟩ := hp 2 htwo
  exact ⟨hok, snapshot, he, hn⟩

/-! ## Resuming -/

theorem of_failed {m : QuiesceMethod} (hs : c.state = .failed)
    (hp : (q.program c m).Path events outcome) :
    events = [] ∧ outcome.2 = c := by
  have he {program : Quiesce Outcome} {message : String}
      (heq : program = pure (report c .invalidState message)) (hp : program.Path events outcome) :
      events = [] ∧ outcome.2 = c := by
    rw [heq] at hp
    obtain ⟨rfl, rfl⟩ := hp
    exact ⟨rfl, rfl⟩
  cases m with
  | prepare => exact he (if_pos (hs ▸ nofun)) hp
  | enter => exact he (if_pos (hs ▸ nofun)) hp
  | leave => exact he (if_pos (hs ▸ nofun)) hp

/-- **What may be parked is resumed.** -/
theorem no_leaked_parks {q : ThreadQuiescence} {trace : List QuiesceEvent} {c : Coordinator}
    (h : Runs q trace c) :
    (∀ {events}, (q.destroy c).Path events () →
      (Pending trace → ∃ answer, events = [⟨.resumeParkedThreads q.configuration.epoch, answer⟩]) ∧
      (¬ Pending trace → events = [])) ∧
    Throughout (fun before event _ => ∀ epoch,
      event.request = .resumeParkedThreads epoch → Pending before) trace ∧
    (asked trace).Nodup ∧ q.configuration.currentThreadId ∉ asked trace ∧
    waits trace ≤ q.configuration.maximumStabilizationPasses ∧
    (∀ {events outcome}, (q.enter c).Path events outcome → c.state = .prepared →
      outcome.1.status ≠ .ok → outcome.2.state = .failed) ∧
    (c.state = .failed → ∀ {method events outcome}, (q.program c method).Path events outcome →
      asked events = [] ∧ outcome.2.state = .failed) := by
  have hc := consistent_of_runs h
  have hac := hc.account
  refine ⟨fun {events} hp => ⟨fun hpe => ?_, fun hn => ?_⟩, hac.resumed, hac.nodup,
    hac.others, hc.waits, fun {events outcome} hp hs hst => ?_,
    fun hs {method events outcome} hp => ?_⟩
  · have ha := hac.pending.mpr hpe
    unfold destroy at hp
    rw [if_pos (by rw [ha, hc.armed ha]; rfl)] at hp
    obtain ⟨answer, rest, rfl, rfl, -⟩ := hp
    exact ⟨answer, rfl⟩
  · have ha : c.parkAttempted = false :=
      Bool.eq_false_iff.mpr fun h => hn (hac.pending.mp h)
    unfold destroy at hp
    rw [if_neg (by rw [ha]; nofun)] at hp
    exact hp.1
  · obtain ⟨hr, -⟩ := hc.ready hs
    obtain hend | hend := ensures_iff_path.mp (ensures_enter hr hs) _ _ hp
    · exact hend.state
    · exact absurd hend.status hst
  · obtain ⟨rfl, heq⟩ := of_failed hs hp
    exact ⟨rfl, heq ▸ hs⟩

theorem no_leaked_parks_twoThreads : ∃ answer,
    ((twoThreads.destroy enteredTwo.1.2).run cooperative []).2 = [⟨.resumeParkedThreads 7, answer⟩] := by
  have hr := runs_preparedTwo.call .enter (path_run cooperative [] (twoThreads.enter preparedTwo))
  have hp := (consistent_of_runs hr).account.pending.mp (by decide +kernel)
  exact ((no_leaked_parks hr).1 (path_run cooperative [] _)).1 hp

end ThreadQuiescence

end Vcam.Runtime
