import AndroidVcam.Runtime.ParkLedger

/-!
# The coordinator stops the right threads

Whatever the backend answers, `enter` keeps its account of the park requests, stays inside its
vectors, and succeeds only when every peer in the last inventory is parked at a safe place.

* `Busy`: what holds while `enter` works, `Aborted` and `Settled`: how it ends;
* `ensures_requestPeers`, `ensures_awaitParked`, `ensures_checkParked`, `ensures_readFinal`,
  **`ensures_stabilize`**, **`ensures_enter`**: the parts of `enter`.
-/

namespace Vcam.Runtime

open Dialogue Dialogue.Program Ranges List

namespace ThreadQuiescence

variable {q : ThreadQuiescence}

/-! ## Parts without callbacks -/

/-- Thread IDs in increasing order, with the own one. -/
structure IsInventory (currentThreadId : ℤ) (ids : List ℤ) : Prop where
  increasing : ids.Pairwise (· < ·)
  positive : ∀ id ∈ ids, 0 < id
  current : currentThreadId ∈ ids

variable {count i rest : ℕ}

theorem take_sorted {α : Type} {lt : α → α → Prop} {s : Sorter lt} {v : List α}
    (h : count ≤ v.length) :
    (s.sort (v.take count) ++ v.drop count).take count =
      s.sort (v.take count) :=
  take_left' ((s.length_sort _).trans (length_take_of_le h))

theorem length_sorted {α : Type} {lt : α → α → Prop} {s : Sorter lt} {v : List α} :
    (s.sort (v.take count) ++ v.drop count).length = v.length := by
  rw [length_append, s.length_sort, ← length_append, take_append_drop]

theorem validInventory_spec (b : List ℤ) (n : ℕ) :
    ∃ valid sorted, q.validInventory b n = pure (valid, sorted) ∧
      sorted.length = b.length ∧ (valid = true → n ≤ b.length ∧
        (sorted.take n).Perm (b.take n) ∧
        IsInventory q.configuration.currentThreadId (sorted.take n)) := by
  unfold validInventory
  by_cases hc : n = 0 ∨ n > b.length
  · exact ⟨false, b, if_pos hc, rfl, nofun⟩
  rw [if_neg hc]
  push Not at hc
  obtain ⟨hp, hle⟩ := hc
  rw [sortFront_eq hle, bind_pure_left]
  have ht : (q.sortIds.sort (b.take n) ++ b.drop n).take n =
      q.sortIds.sort (b.take n) := take_sorted hle
  have hl : (q.sortIds.sort (b.take n) ++ b.drop n).length = b.length :=
    length_sorted
  generalize q.sortIds.sort (b.take n) ++ b.drop n = sorted at ht hl
  obtain ⟨first, hfi⟩ : ∃ first, sorted[0]? = some first :=
    ⟨_, getElem?_eq_getElem (by omega)⟩
  rw [itemAt_eq hfi, bind_pure_left, front_eq (hl ▸ hle), bind_pure_left]
  split_ifs with hbad
  · exact ⟨false, sorted, rfl, hl, nofun⟩
  · refine ⟨_, sorted, rfl, hl, fun hf => ⟨hle, ?_, ?_⟩⟩
    · rw [ht]
      exact q.sortIds.perm _
    · have hs : (sorted.take n).Pairwise (· ≤ ·) := ht ▸ q.sortIds.pairwise_le _
      push Not at hbad
      refine ⟨pairwise_lt_of_not_adjacentEqual hs (by simpa using hbad.2.1), ?_,
        (binarySearch_iff hs _).mp hf⟩
      simpa using hbad.2.2

theorem containsEveryRequested_spec {c : Coordinator} {finalCount : ℕ}
    (hf : finalCount ≤ c.finalInventory.length)
    (hr : i + rest ≤ c.requestedThreadIds.length) :
    ∃ contained, containsEveryRequested c finalCount rest i = pure contained := by
  induction rest generalizing i with
  | zero => exact ⟨true, rfl⟩
  | succ rest ih =>
    obtain ⟨threadId, ht⟩ : ∃ threadId, c.requestedThreadIds[i]? = some threadId :=
      ⟨_, getElem?_eq_getElem (by omega)⟩
    rw [containsEveryRequested, front_eq hf, bind_pure_left, itemAt_eq ht, bind_pure_left]
    split_ifs
    · exact ⟨false, rfl⟩
    · exact ih (by omega)

def requested (c : Coordinator) : List ℤ := c.requestedThreadIds.take c.requestedThreadCount

theorem matchesRequested_spec {c : Coordinator} {requestedIndex : ℕ}
    (hf : i + rest ≤ c.finalInventory.length)
    (hr : c.requestedThreadCount ≤ c.requestedThreadIds.length)
    (hi : requestedIndex ≤ c.requestedThreadCount) :
    ∃ exact, q.matchesRequested c rest i requestedIndex = pure exact ∧ (exact = true →
      ((c.finalInventory.drop i).take rest).filter (· ≠ q.configuration.currentThreadId) =
        (requested c).drop requestedIndex) := by
  have hl : (requested c).length = c.requestedThreadCount := length_take_of_le hr
  induction rest generalizing i requestedIndex with
  | zero =>
    refine ⟨_, rfl, fun h => ?_⟩
    rw [decide_eq_true_eq] at h
    rw [h, take_zero, ← hl, drop_length]
    rfl
  | succ rest ih =>
    have hlt : i < c.finalInventory.length := by omega
    rw [matchesRequested, itemAt_eq (getElem?_eq_getElem hlt), bind_pure_left,
      drop_eq_getElem_cons hlt, take_succ_cons]
    split_ifs with hc hma
    · have hn : i + 1 + rest ≤ c.finalInventory.length := by omega
      obtain ⟨exact, heq, he⟩ := ih hn hi
      refine ⟨exact, heq, fun h => ?_⟩
      rw [filter_cons_of_neg (by simpa using hc), he h]
    · exact ⟨false, rfl, nofun⟩
    · have hle : requestedIndex < c.requestedThreadIds.length := by omega
      rw [itemAt_eq (getElem?_eq_getElem hle), bind_pure_left]
      split_ifs with hne
      · exact ⟨false, rfl, nofun⟩
      · have hn : i + 1 + rest ≤ c.finalInventory.length := by omega
        have hm : requestedIndex + 1 ≤ c.requestedThreadCount := by omega
        obtain ⟨exact, heq, he⟩ := ih hn hm
        refine ⟨exact, heq, fun h => ?_⟩
        rw [filter_cons_of_pos (by simpa using hc), he h,
          drop_eq_getElem_cons (by omega : requestedIndex < (requested c).length)]
        simp only [requested, getElem_take, not_not.mp hne]

/-- **An exact inventory is the requested threads and the own one.** -/
theorem finalInventoryIsExact_spec {c : Coordinator} {finalCount : ℕ}
    (hf : finalCount ≤ c.finalInventory.length)
    (hr : c.requestedThreadCount ≤ c.requestedThreadIds.length) :
    ∃ exact, q.finalInventoryIsExact c finalCount = pure exact ∧ (exact = true →
      (c.finalInventory.take finalCount).filter (· ≠ q.configuration.currentThreadId) =
        requested c) := by
  unfold finalInventoryIsExact
  split_ifs
  · exact ⟨false, rfl, nofun⟩
  · have hs : 0 + finalCount ≤ c.finalInventory.length := by omega
    simpa using matchesRequested_spec (q := q) hs hr (Nat.zero_le _)

/-! ## Giving up -/

abbrev passes (q : ThreadQuiescence) : ℕ := q.configuration.maximumStabilizationPasses

variable (q) in
/-- How `enter` ends without success. -/
structure Aborted (outcome : Outcome) (trace : List QuiesceEvent) : Prop where
  status : outcome.1.status ≠ .ok
  state : outcome.2.state = .failed
  account : Account q.configuration.currentThreadId outcome.2.parkAttempted trace
  waits : waits trace ≤ q.configuration.maximumStabilizationPasses

variable {c : Coordinator} {past : List QuiesceEvent} {s : ThreadQuiescenceStatus}
  {m : String}

theorem ensures_abortEnter
    (ha : Account q.configuration.currentThreadId c.parkAttempted past)
    (hw : waits past ≤ q.passes) (hs : s ≠ .ok) :
    (q.abortEnter c s m).Ensures (Aborted q) past := by
  unfold abortEnter
  refine ensures_ite (fun hat => ?_) fun _ => ⟨hs, rfl, ha, hw⟩
  rw [hat] at ha
  refine ensures_ask_bind.mpr fun (answer : Bool) => ?_
  have hr := ha.resume q.configuration.epoch answer
  have hw' : Vcam.Runtime.waits (past ++ [⟨.resumeParkedThreads q.configuration.epoch, answer⟩]) ≤
      q.passes := by
    rwa [waits_concat]
  cases answer with
  | false => exact ⟨nofun, rfl, hat ▸ hr, hw'⟩
  | true => exact ⟨hs, rfl, hr, hw'⟩

theorem ensures_throw_abortEnter {α : Type} {post : α → List QuiesceEvent → Prop}
    (ha : Account q.configuration.currentThreadId c.parkAttempted past)
    (hw : waits past ≤ q.passes) (hs : s ≠ .ok) :
    Ensures (Either (Aborted q) post) past
      (do throw (← q.abortEnter c s m) : Entering α).run :=
  ensures_lift_bind ((ensures_abortEnter ha hw hs).mono fun _ _ h => h)

/-! ## Asking the peers -/

variable (q) in
/-- What holds while `enter` works: the vectors have their sizes, and the threads asked so far have
all agreed and are the requested ones. -/
structure Busy (c : Coordinator) (trace : List QuiesceEvent) : Prop where
  account : Account q.configuration.currentThreadId c.parkAttempted trace
  inventory : c.inventory.length = q.configuration.maximumThreads
  finalInventory : c.finalInventory.length = q.configuration.maximumThreads
  requestedThreadIds : c.requestedThreadIds.length = q.configuration.maximumThreads
  parkedThreads : c.parkedThreads.length = q.configuration.maximumThreads
  count : c.requestedThreadCount ≤ q.configuration.maximumThreads
  increasing : (requested c).Pairwise (· < ·)
  granted : granted trace = asked trace
  asked : (asked trace).Perm (requested c)

namespace Busy

theorem concat {e : QuiesceEvent} (h : Busy q c past)
    (ha : Account q.configuration.currentThreadId c.parkAttempted (past ++ [e]))
    (hask : QuiesceEvent.asks e = none) : Busy q c (past ++ [e]) := by
  have hg := QuiesceEvent.grants_eq_none hask
  refine { h with account := ha, granted := ?_, asked := ?_ }
  · simpa [granted_concat, asked_concat, hask, hg] using h.granted
  · simpa [asked_concat, hask] using h.asked

theorem noteRequested {thread : ℤ} (h : Busy q c past) (e : UInt32)
    (hc : thread ≠ q.configuration.currentThreadId) (hnew : thread ∉ requested c)
    (hr : c.requestedThreadCount < c.requestedThreadIds.length) :
    ∃ c', q.noteRequested { c with parkAttempted := true } thread = pure c' ∧
      c'.inventory = c.inventory ∧
      Busy q c' (past ++ [⟨.requestThreadPark thread e, true⟩]) := by
  have hle : c.requestedThreadCount + 1 ≤
      (c.requestedThreadIds.set c.requestedThreadCount thread).length := by
    rw [length_set]
    omega
  have hs : (c.requestedThreadIds.set c.requestedThreadCount thread).take
      (c.requestedThreadCount + 1) = requested c ++ [thread] := by
    rw [take_add_one, take_set_of_le le_rfl, getElem?_set_self hr]
    rfl
  have hn : (requested c ++ [thread]).Nodup :=
    nodup_append_comm.mp (nodup_cons.mpr ⟨hnew, h.increasing.imp ne_of_lt⟩)
  have ha : thread ∉ Vcam.Runtime.asked past := fun hmem => hnew (h.asked.mem_iff.mp hmem)
  have hp : (Vcam.Runtime.asked (past ++ [⟨.requestThreadPark thread e, true⟩])).Perm
      (q.sortIds.sort (requested c ++ [thread])) := by
    rw [asked_concat]
    exact (h.asked.append_right [thread]).trans (q.sortIds.perm _).symm
  unfold ThreadQuiescence.noteRequested
  rw [store_eq hr, bind_pure_left, sortFront_eq hle]
  refine ⟨_, rfl, rfl, { h with
    account := h.account.request hc ha true
    requestedThreadIds := ?_, count := ?_, increasing := ?_, granted := ?_, asked := ?_ }⟩
  · rw [length_sorted, length_set]
    exact h.requestedThreadIds
  · exact hr.trans_eq h.requestedThreadIds
  · rw [requested, take_sorted hle, hs]
    exact q.sortIds.pairwise_lt hn
  · rw [granted_concat, asked_concat, h.granted]
    rfl
  · rwa [requested, take_sorted hle, hs]

end Busy

/-- **The peers are asked one by one.** -/
theorem ensures_requestPeers (h : Busy q c past) (hw : waits past ≤ q.passes)
    (hin : i + rest ≤ c.inventory.length) :
    Ensures (Either (Aborted q) fun c' trace => Busy q c' trace ∧ waits trace = waits past) past
      (q.requestPeers rest i c).run := by
  induction rest generalizing i c past with
  | zero => exact ⟨h, rfl⟩
  | succ rest ih =>
    have hn : i + 1 + rest ≤ c.inventory.length := by omega
    have hlt : i < c.inventory.length := by omega
    rw [requestPeers, itemAt_eq (getElem?_eq_getElem hlt), lift_pure_bind]
    refine ensures_run_ite (fun _ => ih h hw hn) fun hc => ?_
    rw [front_eq (h.count.trans h.requestedThreadIds.ge), lift_pure_bind]
    refine ensures_run_ite (fun _ => ih h hw hn) fun hf => ?_
    refine ensures_run_ite (fun _ => ensures_throw_abortEnter h.account hw nofun) fun hfu => ?_
    have hnew : c.inventory[i] ∉ requested c := fun hmem => hf
      ((binarySearch_iff (h.increasing.imp le_of_lt) _).mpr hmem)
    have hr : c.requestedThreadCount < c.requestedThreadIds.length :=
      lt_of_le_of_ne (h.count.trans h.requestedThreadIds.ge) hfu
    refine ensures_lift_bind (ensures_ask_bind.mpr fun (answer : Bool) => ?_)
    cases answer with
    | false =>
      have ha : c.inventory[i] ∉ asked past := fun hmem => hnew (h.asked.mem_iff.mp hmem)
      exact ensures_throw_abortEnter (h.account.request hc ha false)
        (by rwa [waits_concat]) nofun
    | true =>
      obtain ⟨c', hno, hi, hb⟩ :=
        h.noteRequested q.configuration.epoch hc hnew hr
      change Ensures _ _ (liftM (q.noteRequested { c with parkAttempted := true } c.inventory[i])
        >>= q.requestPeers rest (i + 1)).run
      rw [hno, lift_pure_bind]
      refine (ih hb (by rwa [waits_concat]) (hi ▸ hn)).mono ?_
      rintro (outcome | c') trace hend
      · exact hend
      · exact ⟨hend.1, hend.2.trans (by rw [waits_concat]; rfl)⟩

/-! ## The snapshots -/

variable (q) in
/-- A thread that parked for this epoch and outside of the target. -/
structure Safe (snapshot : ParkedThreadSnapshot) : Prop where
  epoch : snapshot.epoch = q.configuration.epoch
  nonzero : snapshot.programCounter ≠ 0
  aligned : snapshot.programCounter.toNat % 4 = 0
  outside : ¬ (q.configuration.targetAddress.toNat ≤ snapshot.programCounter.toNat ∧
    snapshot.programCounter.toNat <
      q.configuration.targetAddress.toNat + q.configuration.targetSize)

/-- The trace ends with a wait that has filled `parkedThreads_`, unless nobody was asked. -/
def Awaited (c : Coordinator) (trace : List QuiesceEvent) : Prop :=
  c.requestedThreadCount = 0 ∨ ∃ early epoch ids capacity timeout,
    ∃ waited : Filled ParkedThreadSnapshot capacity,
      trace = early ++ [⟨.waitForParkedThreads epoch ids capacity timeout, waited⟩] ∧
      waited.ok = true ∧ waited.buffer.val = c.parkedThreads ∧ waited.count = c.parkedThreadCount

theorem ensures_awaitParked (h : Busy q c past) (hw : waits past + 1 ≤ q.passes) :
    Ensures (Either (Aborted q) fun c' trace => Busy q c' trace ∧ Awaited c' trace ∧
      waits trace ≤ waits past + 1) past (q.awaitParked c).run := by
  unfold awaitParked
  refine ensures_run_ite (fun hs => ?_) fun hn => ?_
  · rw [front_eq (h.count.trans h.requestedThreadIds.ge), lift_pure_bind]
    refine ensures_lift_bind (ensures_ask_bind.mpr fun waited => ?_)
    change Filled ParkedThreadSnapshot c.parkedThreads.length at waited
    have hb := h.concat (h.account.wait q.configuration.epoch (requested c)
      q.configuration.waitTimeoutMilliseconds waited) rfl
    refine ensures_run_ite (fun _ => ?_) fun hok => ?_
    · refine ensures_throw_abortEnter hb.account ?_ nofun
      rwa [waits_concat]
    · refine ⟨{ hb with parkedThreads := waited.buffer.property.trans h.parkedThreads },
        .inr ⟨past, _, _, _, _, waited, rfl, ?_, rfl, rfl⟩, ?_⟩
      · simpa using hok
      · rw [waits_concat]
        rfl
  · exact ⟨{ h with }, .inl (not_not.mp hn), Nat.le_succ _⟩

theorem targetEnd_eq (h : q.validConfiguration = true) :
    q.targetEnd = q.configuration.targetAddress.toNat + q.configuration.targetSize := by
  simp only [validConfiguration, Bool.and_eq_true] at h
  obtain ⟨last, hl⟩ := Option.isSome_iff_exists.mp h.1.1.1.1.1.1.1.2
  rw [targetEnd, hl, eq_add_of_rangeEnd hl]
  rfl

theorem ensures_inspectParked (hv : q.validConfiguration = true)
    (ha : Account q.configuration.currentThreadId c.parkAttempted past) (hw : waits past ≤ q.passes)
    (hp : i + rest ≤ c.parkedThreads.length)
    (hrq : i + rest ≤ c.requestedThreadIds.length) :
    Ensures (Either (Aborted q) fun _ trace => trace = past ∧
      ((c.parkedThreads.drop i).take rest).map ParkedThreadSnapshot.threadId =
        (c.requestedThreadIds.drop i).take rest ∧
      ∀ snapshot ∈ (c.parkedThreads.drop i).take rest, Safe q snapshot) past
      (q.inspectParked c rest i).run := by
  induction rest generalizing i with
  | zero => exact ⟨rfl, by simp, by simp⟩
  | succ rest ih =>
    have hl : i < c.parkedThreads.length := by omega
    have hl' : i < c.requestedThreadIds.length := by omega
    rw [inspectParked, itemAt_eq (getElem?_eq_getElem hl), lift_pure_bind,
      itemAt_eq (getElem?_eq_getElem hl'), lift_pure_bind,
      drop_eq_getElem_cons hl, drop_eq_getElem_cons hl',
      take_succ_cons, take_succ_cons]
    generalize c.parkedThreads[i] = parked
    generalize c.requestedThreadIds[i] = threadId
    refine ensures_run_ite (fun _ => ensures_throw_abortEnter ha hw nofun) fun hm => ?_
    refine ensures_run_ite (fun _ => ?_) fun hc => ?_
    · refine ensures_lift_bind ((ensures_abortEnter ha hw ?_).mono fun outcome trace h => ?_)
      · decide
      · exact ⟨h.status, h.state, h.account, h.waits⟩
    refine ensures_run_ite (fun _ => ?_) fun hr => ?_
    · refine ensures_lift_bind ((ensures_abortEnter ha hw ?_).mono fun outcome trace h => ?_)
      · decide
      · exact ⟨h.status, h.state, h.account, h.waits⟩
    push Not at hm hc
    have hn : i + 1 + rest ≤ c.parkedThreads.length := by omega
    have hn' : i + 1 + rest ≤ c.requestedThreadIds.length := by omega
    have hs : Safe q parked := by
      refine ⟨hm.2, hc.1, (and_three_iff _).mp hc.2, ?_⟩
      rwa [targetEnd_eq hv] at hr
    refine (ih hn hn').mono ?_
    rintro (outcome | ⟨⟩) trace hend
    · exact hend
    · obtain ⟨ht, hids, hre⟩ := hend
      refine ⟨ht, ?_, forall_mem_cons.mpr ⟨hs, hre⟩⟩
      rw [map_cons, hids, hm.1]

variable (q) in
/-- The trace ends with a wait that has returned each requested thread once and at a safe place,
unless nobody was asked. -/
def Stopped (c : Coordinator) (trace : List QuiesceEvent) : Prop :=
  c.requestedThreadCount = 0 ∨ ∃ early epoch ids capacity timeout,
    ∃ waited : Filled ParkedThreadSnapshot capacity,
      trace = early ++ [⟨.waitForParkedThreads epoch ids capacity timeout, waited⟩] ∧
      waited.ok = true ∧ waited.count ≤ capacity ∧
      ((waited.buffer.val.take waited.count).map ParkedThreadSnapshot.threadId).Perm (requested c) ∧
      ∀ snapshot ∈ waited.buffer.val.take waited.count, Safe q snapshot

theorem ensures_checkParked (hv : q.validConfiguration = true) (h : Busy q c past)
    (ha : Awaited c past) (hw : waits past ≤ q.passes) :
    Ensures (Either (Aborted q) fun c' trace => trace = past ∧ Busy q c' trace ∧ Stopped q c' trace)
      past (q.checkParked c).run := by
  unfold checkParked
  refine ensures_run_ite (fun _ => ensures_throw_abortEnter h.account hw nofun) fun hco => ?_
  have hp : c.parkedThreadCount ≤ c.parkedThreads.length :=
    (not_not.mp hco).le.trans (h.count.trans h.parkedThreads.ge)
  rw [sortFront_eq hp, lift_pure_bind]
  have hta : (q.sortSnapshots.sort (c.parkedThreads.take c.parkedThreadCount) ++
      c.parkedThreads.drop c.parkedThreadCount).take c.parkedThreadCount =
      q.sortSnapshots.sort (c.parkedThreads.take c.parkedThreadCount) := take_sorted hp
  have hl : (q.sortSnapshots.sort (c.parkedThreads.take c.parkedThreadCount) ++
      c.parkedThreads.drop c.parkedThreadCount).length = c.parkedThreads.length := length_sorted
  have hpe := q.sortSnapshots.perm (c.parkedThreads.take c.parkedThreadCount)
  rw [← hta] at hpe
  generalize q.sortSnapshots.sort (c.parkedThreads.take c.parkedThreadCount) ++
    c.parkedThreads.drop c.parkedThreadCount = sorted at hl hpe ⊢
  have hin : 0 + c.parkedThreadCount ≤ sorted.length := by omega
  have hin' : 0 + c.parkedThreadCount ≤ c.requestedThreadIds.length := by
    have := h.count.trans h.requestedThreadIds.ge
    omega
  refine ensures_early_bind (ensures_inspectParked (c := { c with parkedThreads := sorted })
    hv h.account hw hin hin') ?_
  rintro ⟨⟩ trace ⟨rfl, hids, hsa⟩
  rw [drop_zero, drop_zero] at hids
  rw [drop_zero] at hsa
  refine ⟨rfl, { h with parkedThreads := hl.trans h.parkedThreads }, ?_⟩
  obtain hn | ⟨early, epoch, ids, capacity, timeout, waited, ht, hok, hb, hc⟩ := ha
  · exact .inl hn
  · refine .inr ⟨early, epoch, ids, capacity, timeout, waited, ht, hok, ?_, ?_, ?_⟩
    · rw [hc, ← waited.buffer.property, hb]
      exact hp
    · rw [hb, hc]
      refine (hpe.map _).symm.trans ?_
      rw [hids, requested, ← not_not.mp hco]
    · rw [hb, hc]
      exact fun snapshot hs => hsa snapshot (hpe.mem_iff.mpr hs)

/-! ## The inventory while the peers are parked -/

variable (q) in
/-- What was read into a vector of the coordinator: the front of it is an inventory, and the same
threads were returned by the callback. -/
structure ReadInventory (count : ℕ) (values : List ℤ) {capacity : ℕ} (read : Filled ℤ capacity) :
    Prop where
  ok : read.ok = true
  count_eq : count = read.count
  capacity_eq : capacity = q.configuration.maximumThreads
  bounded : read.count ≤ capacity
  perm : (values.take count).Perm (read.buffer.val.take read.count)
  isInventory : IsInventory q.configuration.currentThreadId (values.take count)

theorem ensures_readFinal (h : Busy q c past) (hw : waits past ≤ q.passes) :
    Ensures (Either (Aborted q) fun value trace => ∃ capacity, ∃ read : Filled ℤ capacity,
      trace = past ++ [⟨.enumerateThreads capacity, read⟩] ∧ Busy q value.2 trace ∧
      requested value.2 = requested c ∧ value.2.requestedThreadCount = c.requestedThreadCount ∧
      ReadInventory q value.1 value.2.finalInventory read) past (q.readFinal c).run := by
  unfold readFinal
  refine ensures_lift_bind (ensures_ask_bind.mpr fun read => ?_)
  change Filled ℤ c.finalInventory.length at read
  have hb := h.concat (h.account.enumerate read) rfl
  have hw' : waits (past ++ [⟨.enumerateThreads c.finalInventory.length, read⟩]) ≤ q.passes := by
    rwa [waits_concat]
  refine ensures_run_ite (fun _ => ?_) fun hok => ?_
  · refine ensures_run_ite (fun _ => ?_) fun _ => ?_ <;>
      exact ensures_throw_abortEnter hb.account hw' nofun
  obtain ⟨valid, sorted, hv, hl, hi⟩ :=
    validInventory_spec (q := q) read.buffer.val read.count
  rw [hv, lift_pure_bind]
  refine ensures_run_ite (fun _ => ensures_throw_abortEnter hb.account hw' nofun) fun hin => ?_
  obtain ⟨hbo, hp, hi⟩ := hi (by simpa using hin)
  have hc : ∃ contained, finalInventoryContainsEveryRequested
      { c with finalInventory := sorted } read.count = pure contained := by
    refine containsEveryRequested_spec (hl ▸ hbo) ?_
    rw [Nat.zero_add]
    exact h.count.trans h.requestedThreadIds.ge
  obtain ⟨contained, hc⟩ := hc
  rw [hc, lift_pure_bind]
  refine ensures_run_ite (fun _ => ensures_throw_abortEnter hb.account hw' nofun) fun _ => ?_
  have hf : sorted.length = q.configuration.maximumThreads :=
    hl.trans (read.buffer.property.trans h.finalInventory)
  refine ⟨_, read, rfl, { hb with finalInventory := hf }, rfl, rfl, ?_⟩
  exact ⟨by simpa using hok, rfl, h.finalInventory, hbo.trans_eq read.buffer.property, hp,
    hi⟩

/-! ## The passes -/

variable (q) in
/-- How `enter` ends with success. -/
structure Settled (outcome : Outcome) (trace : List QuiesceEvent) : Prop where
  status : outcome.1.status = .ok
  state : outcome.2.state = .exclusive
  account : Account q.configuration.currentThreadId outcome.2.parkAttempted trace
  waits : waits trace ≤ q.configuration.maximumStabilizationPasses
  granted : granted trace = asked trace
  /-- The trace ends with the last inventory, with the last wait before it. -/
  last : ∃ before capacity, ∃ read : Filled ℤ capacity,
    trace = before ++ [⟨.enumerateThreads capacity, read⟩] ∧
    ReadInventory q read.count outcome.2.finalInventory read ∧
    (outcome.2.finalInventory.take read.count).filter (· ≠ q.configuration.currentThreadId) =
      requested outcome.2 ∧
    (asked trace).Perm (requested outcome.2) ∧ Stopped q outcome.2 before

theorem ensures_stabilize (hv : q.validConfiguration = true) (h : Busy q c past)
    (hrs : rest ≠ 0) (hc : count ≤ c.inventory.length) (hw : waits past + rest ≤ q.passes) :
    Ensures (Either (Aborted q) (Settled q)) past (q.stabilize rest count c).run := by
  induction rest generalizing count c past with
  | zero => exact absurd rfl hrs
  | succ rest ih =>
    have hst : 0 + count ≤ c.inventory.length := by omega
    rw [stabilize]
    refine ensures_early_bind (ensures_requestPeers h (by omega) hst) fun c₁ trace₁ => ?_
    rintro ⟨hb₁, hw₁⟩
    refine ensures_early_bind (ensures_awaitParked hb₁ (by omega)) fun c₂ trace₂ => ?_
    rintro ⟨hb₂, ha, hw₂⟩
    have hp : waits trace₂ ≤ q.passes := by omega
    refine ensures_early_bind (ensures_checkParked hv hb₂ ha hp) fun c₃ trace₃ => ?_
    rintro ⟨rfl, hb₃, hs⟩
    refine ensures_early_bind (ensures_readFinal hb₃ hp) ?_
    rintro ⟨finalCount, c₄⟩ trace₄ ⟨capacity, read, rfl, hb₄, hre, hsa, hr⟩
    have hw₄ : waits (trace₃ ++ [⟨.enumerateThreads capacity, read⟩]) ≤ q.passes := by
      rwa [waits_concat]
    obtain rfl : finalCount = read.count := hr.count_eq
    have hf : read.count ≤ c₄.finalInventory.length :=
      hr.bounded.trans (hr.capacity_eq.trans hb₄.finalInventory.symm).le
    obtain ⟨exact, he, heq⟩ := finalInventoryIsExact_spec (q := q) hf
      (hb₄.count.trans hb₄.requestedThreadIds.ge)
    dsimp only
    rw [he, lift_pure_bind]
    refine ensures_run_ite (fun hse => ?_) fun _ => ?_
    · refine ⟨rfl, rfl, hb₄.account, hw₄, hb₄.granted, trace₃, capacity, read, rfl, hr,
        heq hse, hb₄.asked, ?_⟩
      unfold Stopped at hs ⊢
      rwa [← hsa, ← hre] at hs
    refine ensures_run_ite (fun _ => ensures_throw_abortEnter hb₄.account hw₄ nofun) fun hm => ?_
    have hi : read.count ≤ c₄.inventory.length :=
      hr.bounded.trans (hr.capacity_eq.trans hb₄.inventory.symm).le
    rw [copyFront_eq hf hi, lift_pure_bind]
    have hl : (c₄.finalInventory.take read.count ++ c₄.inventory.drop read.count).length =
        c₄.inventory.length := by
      rw [length_append, length_take_of_le hf, length_drop]
      omega
    refine ih { hb₄ with inventory := hl.trans hb₄.inventory } hm
      (hi.trans_eq hl.symm) ?_
    rw [waits_concat]
    exact (by omega : waits trace₃ + 0 + rest ≤ q.passes)

/-! ## The whole of `enter` -/

theorem ensures_readFirst (h : Busy q c past) (hw : waits past ≤ q.passes) :
    Ensures (Either (Aborted q) fun value trace => Busy q value.2 trace ∧
      waits trace = waits past ∧ value.1 ≤ value.2.inventory.length) past (q.readFirst c).run := by
  unfold readFirst
  refine ensures_lift_bind (ensures_ask_bind.mpr fun read => ?_)
  change Filled ℤ c.inventory.length at read
  have hb := h.concat (h.account.enumerate read) rfl
  have hs : waits (past ++ [⟨.enumerateThreads c.inventory.length, read⟩]) = waits past := by
    rw [waits_concat]
    rfl
  refine ensures_run_ite (fun _ => ?_) fun _ => ?_
  · refine ensures_run_ite (fun _ => ?_) fun _ => ?_ <;>
      exact ensures_throw_abortEnter hb.account (hs.trans_le hw) nofun
  obtain ⟨valid, sorted, hv, hl, hi⟩ :=
    validInventory_spec (q := q) read.buffer.val read.count
  rw [hv, lift_pure_bind]
  refine ensures_run_ite (fun _ => ?_) fun hin => ?_
  · exact ensures_throw_abortEnter hb.account (hs.trans_le hw) nofun
  · have hf : sorted.length = q.configuration.maximumThreads :=
      hl.trans (read.buffer.property.trans h.inventory)
    refine ⟨{ hb with inventory := hf }, hs, ?_⟩
    exact (hi (by simpa using hin)).1.trans_eq hl.symm

variable (q) in
/-- A coordinator that `prepare` has made ready, with nothing asked so far. -/
structure Ready (c : Coordinator) (trace : List QuiesceEvent) : Prop where
  account : Account q.configuration.currentThreadId c.parkAttempted trace
  valid : q.validConfiguration = true
  inventory : c.inventory.length = q.configuration.maximumThreads
  finalInventory : c.finalInventory.length = q.configuration.maximumThreads
  requestedThreadIds : c.requestedThreadIds.length = q.configuration.maximumThreads
  parkedThreads : c.parkedThreads.length = q.configuration.maximumThreads
  asked : asked trace = []
  waits : waits trace = 0

theorem Ready.busy (h : Ready q c past) :
    Busy q { c with requestedThreadCount := 0, parkedThreadCount := 0 } past where
  account := h.account
  inventory := h.inventory
  finalInventory := h.finalInventory
  requestedThreadIds := h.requestedThreadIds
  parkedThreads := h.parkedThreads
  count := Nat.zero_le _
  increasing := List.Pairwise.nil
  granted := by
    refine (filterMap_eq_nil_iff.mpr fun event he => ?_).trans h.asked.symm
    exact QuiesceEvent.grants_eq_none (filterMap_eq_nil_iff.mp h.asked event he)
  asked := by
    rw [h.asked]
    exact List.Perm.nil

theorem passes_ne_zero (h : q.validConfiguration = true) : q.passes ≠ 0 := by
  simp only [validConfiguration, Bool.and_eq_true, decide_eq_true_eq] at h
  exact h.1.1.2

/-- **Every run of `enter` is given up or settled.** -/
theorem ensures_enter (h : Ready q c past) (hs : c.state = .prepared) :
    (q.enter c).Ensures (fun outcome trace => Aborted q outcome trace ∨ Settled q outcome trace)
      past := by
  have hp : Ensures (Either (Aborted q) (Settled q)) past (q.enterPrepared c).run := by
    unfold enterPrepared
    refine ensures_early_bind (ensures_readFirst h.busy (h.waits.trans_le (Nat.zero_le _))) ?_
    rintro ⟨count, c'⟩ trace ⟨hb, hw, hc⟩
    refine ensures_stabilize h.valid hb (passes_ne_zero h.valid) hc ?_
    rw [hw, h.waits, Nat.zero_add]
  unfold enter
  rw [if_neg (not_not_intro hs)]
  refine ensures_bind.mpr (hp.mono ?_)
  rintro (outcome | outcome) trace hend
  · exact .inl hend
  · exact .inr hend

end ThreadQuiescence

end Vcam.Runtime
