import AndroidVcam.Lib.Machine

/-!
# Parking in a signal handler

`parkSignalHandler` publishes where its thread stopped and sleeps on `releaseEpoch` until `resumeEpoch`
lets it go. Any number of handlers and one `resumeEpoch` run step by step: every atomic access and
every futex call is one step. A handler that has seen the old value reloads it before it sleeps, and
sleeps on the new one when `resumeEpoch` has stored and woken in between.

* `Released`: nobody sleeps on `releaseEpoch` any more, and every handler gets to its end;
* **`released_iff`**: so the wake of `resumeEpoch` does exactly when no handler is poised.
-/

namespace Vcam.Runtime

open Machine

/-! ## The handler -/

structure SignalParkSlot where
  threadId : ℤ
  programCounter : UInt64
  observedEpoch : UInt32

/-- The shared memory; `maximumThreads` is the number of slots in use. -/
structure SignalParkRuntime where
  signalNumber : ℤ
  maximumThreads : UInt32
  resumeTimeoutMilliseconds : UInt32
  activeEpoch : UInt32
  releaseEpoch : UInt32
  parkedSequence : UInt32
  handlerCount : UInt32
  slots : ℕ → SignalParkSlot

/-- What a handler is called with; without a context there is no program counter. -/
structure Delivery where
  signalNumber : ℤ
  threadId : ℤ
  context : Option UInt64

/-- The access that a handler makes next, with the local variables that are still read. -/
inductive Point
  | start
  | loadActive
  | loadSignal (epoch : UInt32)
  | loadMaximum (epoch : UInt32)
  | loadSlot (epoch : UInt32) (count index : ℕ)
  | storeCounter (epoch : UInt32) (slot : ℕ) (counter : UInt64)
  | storeObserved (epoch : UInt32) (slot : ℕ)
  | addSequence (epoch : UInt32)
  | wakeSequence (epoch : UInt32)
  | checkActive (epoch : UInt32)
  | checkRelease (epoch : UInt32)
  | loadRelease (epoch : UInt32)
  | wait (epoch observed : UInt32)
  | blocked (epoch : UInt32)
  | leaveSignalHandler
  | wakeLeaving
  | returned
deriving DecidableEq

def Point.search (epoch : UInt32) (count index : ℕ) : Point :=
  if index < count then .loadSlot epoch count index else .leaveSignalHandler

/-- One step of `parkSignalHandler`. A wait on the current value may sleep. -/
def Point.next (call : Delivery) (sleep : Bool) (g : SignalParkRuntime) :
    Point → Option (SignalParkRuntime × Point)
  | start => some ({ g with handlerCount := g.handlerCount + 1 }, .loadActive)
  | loadActive =>
    some (g, if g.activeEpoch = 0 then .leaveSignalHandler else .loadSignal g.activeEpoch)
  | loadSignal epoch =>
    some (g, if call.signalNumber ≠ g.signalNumber then .leaveSignalHandler else .loadMaximum epoch)
  | loadMaximum epoch => some (g, .search epoch g.maximumThreads.toNat 0)
  | loadSlot epoch count index =>
    if (g.slots index).threadId = call.threadId then
      match call.context with
      | none => some (g, .leaveSignalHandler)
      | some counter => some (g, .storeCounter epoch index counter)
    else some (g, .search epoch count (index + 1))
  | storeCounter epoch slot counter =>
    some ({ g with
      slots := Function.update g.slots slot { g.slots slot with programCounter := counter } },
      .storeObserved epoch slot)
  | storeObserved epoch slot =>
    some ({ g with
      slots := Function.update g.slots slot { g.slots slot with observedEpoch := epoch } },
      .addSequence epoch)
  | addSequence epoch => some ({ g with parkedSequence := g.parkedSequence + 1 }, .wakeSequence epoch)
  -- Nobody modelled here sleeps on `parkedSequence`.
  | wakeSequence epoch => some (g, .checkActive epoch)
  | checkActive epoch =>
    some (g, if g.activeEpoch = epoch then .checkRelease epoch else .leaveSignalHandler)
  | checkRelease epoch =>
    some (g, if g.releaseEpoch ≠ epoch then .loadRelease epoch else .leaveSignalHandler)
  | loadRelease epoch => some (g, .wait epoch g.releaseEpoch)
  | wait epoch observed =>
    some (g, if sleep ∧ g.releaseEpoch = observed then .blocked epoch else .checkActive epoch)
  | blocked _ => none
  | leaveSignalHandler => some ({ g with handlerCount := g.handlerCount - 1 }, .wakeLeaving)
  | wakeLeaving => some (g, .returned)
  | returned => none

/-- What a wake on `releaseEpoch` does to a handler. -/
def Point.woken : Point → Point
  | blocked epoch => .checkActive epoch
  | point => point

/-! ## The resumer -/

/-- The access that `resumeEpoch` makes next. -/
inductive Resumer
  | loadActive
  | storeRelease
  | storeActive
  | wake
  | loadTimeout
  | readClock
  | loadCount
  | checkTime (count : UInt32)
  | wait (count : UInt32)
  | blocked
  | returned (result : Bool)
deriving DecidableEq

/-- How a call that is not an access ends: it goes on, sleeps where it may, or fails. -/
inductive Choice
  | proceed
  | sleep
  | fail
deriving DecidableEq

/-- The shared memory, the handlers and `resumeEpoch`. -/
structure SignalPark (ι : Type) where
  runtime : SignalParkRuntime
  handlers : ι → Point
  resumer : Resumer

namespace SignalPark

variable {ι : Type}

/-- One step of `resumeEpoch`, with `waitForHandlersToExit` at its end. -/
def resumeStep (epoch : UInt32) (choice : Choice) (s : SignalPark ι) : Option (SignalPark ι) :=
  match s.resumer with
  | .loadActive =>
    if s.runtime.activeEpoch ≠ 0 ∧ s.runtime.activeEpoch ≠ epoch then
      some { s with resumer := .returned false }
    else some { s with resumer := .storeRelease }
  | .storeRelease =>
    some { s with runtime := { s.runtime with releaseEpoch := epoch }, resumer := .storeActive }
  | .storeActive =>
    some { s with runtime := { s.runtime with activeEpoch := 0 }, resumer := .wake }
  | .wake => some { s with handlers := fun i => (s.handlers i).woken, resumer := .loadTimeout }
  | .loadTimeout => some { s with resumer := .readClock }
  | .readClock => some { s with resumer := if choice = .fail then .returned false else .loadCount }
  | .loadCount =>
    some { s with
      resumer := if s.runtime.handlerCount = 0 then .returned true
        else .checkTime s.runtime.handlerCount }
  | .checkTime count =>
    some { s with resumer := if choice = .fail then .returned false else .wait count }
  | .wait count =>
    some { s with
      resumer := if choice = .sleep ∧ s.runtime.handlerCount = count then .blocked
        else if choice = .fail then .returned false else .loadCount }
  -- The wait may time out.
  | .blocked => if choice = .fail then some { s with resumer := .returned false } else none
  | .returned _ => none

/-- A wake on `handlerCount`. -/
def wokenResumer : Resumer → Resumer
  | .blocked => .loadCount
  | point => point

variable [DecidableEq ι]

def handlerStep (calls : ι → Delivery) (i : ι) (sleep : Bool) (s : SignalPark ι) :
    Option (SignalPark ι) :=
  ((s.handlers i).next (calls i) sleep s.runtime).map fun (runtime, point) =>
    { runtime
      handlers := Function.update s.handlers i point
      resumer := if s.handlers i = .wakeLeaving then wokenResumer s.resumer else s.resumer }

inductive Action (ι : Type)
  | handler (i : ι) (sleep : Bool)
  | resumer (choice : Choice)

def take (epoch : UInt32) (calls : ι → Delivery) (s : SignalPark ι) : Action ι → Option (SignalPark ι)
  | .handler i sleep => handlerStep calls i sleep s
  | .resumer choice => resumeStep epoch choice s

/-- A step that cannot be taken is passed over; the others are the events of a run. -/
def step (epoch : UInt32) (calls : ι → Delivery) (s : SignalPark ι) (action : Action ι) :
    SignalPark ι × List (Action ι) :=
  match take epoch calls s action with
  | some s' => (s', [action])
  | none => (s, [])

/-- Before the first step: the handlers are about to start and nothing has been released. -/
def Starts (epoch : UInt32) (s : SignalPark ι) : Prop :=
  s.runtime.activeEpoch = epoch ∧ s.runtime.releaseEpoch = 0 ∧ (∀ i, s.handlers i = .start) ∧
    s.resumer = .loadActive

/-! ## What every run keeps -/

/-- The epoch that a handler works for, and its search inside the slots. -/
def At (epoch : UInt32) : Point → Prop
  | .loadSignal e | .loadMaximum e | .storeCounter e _ _ | .storeObserved e _ | .addSequence e
  | .wakeSequence e | .checkActive e | .checkRelease e | .loadRelease e | .wait e _ | .blocked e =>
    e = epoch
  | .loadSlot e count index => e = epoch ∧ index < count
  | _ => True

/-- A handler about to sleep on the epoch that is being released. -/
def Poised (epoch : UInt32) : Point → Prop
  | .loadRelease _ => True
  | .wait _ observed => observed = epoch
  | _ => False

def Left : Point → Prop
  | .leaveSignalHandler | .wakeLeaving | .returned => True
  | _ => False

/-- The epochs in the shared memory, by how far `resumeEpoch` is. -/
def Phase (epoch : UInt32) (g : SignalParkRuntime) : Resumer → Prop
  | .loadActive | .storeRelease => g.activeEpoch = epoch ∧ g.releaseEpoch = 0
  | .storeActive => g.activeEpoch = epoch ∧ g.releaseEpoch = epoch
  | _ => g.activeEpoch = 0 ∧ g.releaseEpoch = epoch

structure Invariant (epoch : UInt32) (s : SignalPark ι) : Prop where
  points : ∀ i, At epoch (s.handlers i)
  phase : Phase epoch s.runtime s.resumer

variable {epoch : UInt32} {calls : ι → Delivery} {s s' : SignalPark ι} {call : Delivery}
  {sleep : Bool} {g g' : SignalParkRuntime} {point point' : Point}

variable {count index : ℕ} {resumer : Resumer} {choice : Choice} {action : Action ι}

theorem at_search : At epoch (.search epoch count index) := by
  unfold Point.search
  split_ifs with h
  · exact ⟨rfl, h⟩
  · trivial

theorem epochs_of_next (h : point.next call sleep g = some (g', point')) :
    g'.activeEpoch = g.activeEpoch ∧ g'.releaseEpoch = g.releaseEpoch ∧
      g'.maximumThreads = g.maximumThreads := by
  cases point <;> simp only [Point.next] at h
  case loadSlot =>
    split at h
    · split at h <;> cases h <;> exact ⟨rfl, rfl, rfl⟩
    · cases h
      exact ⟨rfl, rfl, rfl⟩
  all_goals cases h <;> exact ⟨rfl, rfl, rfl⟩

theorem at_of_next (h : point.next call sleep g = some (g', point')) (hat : At epoch point)
    (ha : g.activeEpoch = epoch ∨ g.activeEpoch = 0) : At epoch point' := by
  cases point <;> simp only [Point.next] at h
  case loadActive =>
    cases h
    split_ifs with hz
    · trivial
    · exact ha.resolve_right hz
  case loadMaximum e =>
    obtain rfl : e = epoch := hat
    cases h
    exact at_search
  case loadSlot e count index =>
    obtain ⟨rfl, -⟩ := hat
    split at h
    · split at h <;> cases h <;> trivial
    · cases h
      exact at_search
  case loadSignal | checkActive | checkRelease | wait =>
    cases h
    split_ifs <;> trivial
  all_goals cases h <;> trivial

theorem phase_active (h : Phase epoch g resumer) :
    g.activeEpoch = epoch ∨ g.activeEpoch = 0 := by
  cases resumer <;> first | exact .inl h.1 | exact .inr h.1

theorem phase_wokenResumer (h : Phase epoch g resumer) :
    Phase epoch g (wokenResumer resumer) := by
  cases resumer <;> exact h

theorem phase_congr (h : Phase epoch g resumer) (ha : g'.activeEpoch = g.activeEpoch)
    (hr : g'.releaseEpoch = g.releaseEpoch) :
    Phase epoch g' resumer := by
  cases resumer <;> exact ⟨ha.trans h.1, hr.trans h.2⟩

/-- **One step of a handler,** with everything else unchanged. -/
theorem handlerStep_cases {i : ι} (h : handlerStep calls i sleep s = some s') :
    ∃ g' point', (s.handlers i).next (calls i) sleep s.runtime = some (g', point') ∧
      s'.runtime = g' ∧ s'.handlers = Function.update s.handlers i point' ∧
      (s'.resumer = s.resumer ∨ s'.resumer = wokenResumer s.resumer) := by
  obtain ⟨⟨g', point'⟩, hn, rfl⟩ := Option.map_eq_some_iff.mp h
  refine ⟨g', point', hn, rfl, rfl, ?_⟩
  dsimp only
  split_ifs
  · exact .inr rfl
  · exact .inl rfl

theorem invariant_handlerStep {i : ι} (hs : Invariant epoch s)
    (h : handlerStep calls i sleep s = some s') : Invariant epoch s' := by
  obtain ⟨g', point', hn, hru, hh, hr⟩ := handlerStep_cases h
  obtain ⟨ha, hre, -⟩ := epochs_of_next hn
  constructor
  · intro j
    rw [hh, Function.update_apply]
    split_ifs
    · exact at_of_next hn (hs.points i) (phase_active hs.phase)
    · exact hs.points j
  · rw [hru]
    refine phase_congr ?_ ha hre
    obtain hr | hr := hr <;> rw [hr]
    · exact hs.phase
    · exact phase_wokenResumer hs.phase

theorem at_woken (h : At epoch point) : At epoch point.woken := by
  cases point <;> exact h

omit [DecidableEq ι] in
theorem invariant_resumeStep (hs : Invariant epoch s)
    (h : resumeStep epoch choice s = some s') : Invariant epoch s' := by
  obtain ⟨g, handlers, resumer⟩ := s
  obtain ⟨hp, hph⟩ := hs
  cases resumer <;> simp only [resumeStep] at h
  case loadActive =>
    rw [if_neg fun hw => hw.2 hph.1] at h
    cases h
    exact ⟨hp, hph⟩
  case storeRelease =>
    cases h
    exact ⟨hp, hph.1, rfl⟩
  case storeActive =>
    cases h
    exact ⟨hp, rfl, hph.2⟩
  case wake =>
    cases h
    exact ⟨fun i => at_woken (hp i), hph⟩
  case blocked =>
    split_ifs at h
    cases h
    exact ⟨hp, hph⟩
  case readClock | loadCount | checkTime | wait =>
    cases h
    refine ⟨hp, ?_⟩
    dsimp only
    split_ifs <;> exact hph
  all_goals
    cases h <;> exact ⟨hp, hph⟩

theorem invariant_take (hs : Invariant epoch s)
    (h : take epoch calls s action = some s') : Invariant epoch s' := by
  cases action with
  | handler i sleep => exact invariant_handlerStep hs h
  | resumer choice => exact invariant_resumeStep hs h

theorem step_of_take (h : take epoch calls s action = some s') :
    step epoch calls s action = (s', [action]) := by
  rw [step, h]

theorem step_of_take_none (h : take epoch calls s action = none) :
    step epoch calls s action = (s, []) := by
  rw [step, h]

omit [DecidableEq ι] in
theorem invariant_of_starts (hs : Starts epoch s) : Invariant epoch s := by
  obtain ⟨ha, hre, hh, hr⟩ := hs
  refine ⟨fun i => ?_, ?_⟩
  · rw [hh i]
    trivial
  · rw [hr]
    exact ⟨ha, hre⟩

/-- A run keeps what every action that can be taken keeps. -/
theorem run_of_take {P : SignalPark ι → Prop}
    (hst : ∀ {s s' action}, P s → take epoch calls s action = some s' → P s') (hs : P s)
    (a : List (Action ι)) : P (run (step epoch calls) s a).1 := by
  refine run_history (P := fun (_ : List (Action ι)) s => P s) _ ?_ a (h := []) hs
  intro _ s action hs
  cases ht : take epoch calls s action with
  | none => rwa [step_of_take_none ht]
  | some s' =>
    rw [step_of_take ht]
    exact hst hs ht

theorem invariant_run (hs : Invariant epoch s) (a : List (Action ι)) :
    Invariant epoch (run (step epoch calls) s a).1 := run_of_take invariant_take hs a

/-! ## Behind the wake -/

/-- `resumeEpoch` has stored, woken and now waits for the handlers. -/
def Woken : Resumer → Prop
  | .loadActive | .storeRelease | .storeActive | .wake => False
  | _ => True

/-- A handler that will not sleep any more. -/
def Free (epoch : UInt32) (point : Point) : Prop :=
  ¬ Poised epoch point ∧ ∀ e, point ≠ .blocked e

/-- What holds behind a wake that found nobody poised. -/
structure Quiet (epoch : UInt32) (s : SignalPark ι) : Prop extends Invariant epoch s where
  woken : Woken s.resumer
  free : ∀ i, Free epoch (s.handlers i)

theorem Woken.epochs (h : Woken resumer) (hp : Phase epoch g resumer) :
    g.activeEpoch = 0 ∧ g.releaseEpoch = epoch := by
  cases resumer <;> first | exact hp | cases h

theorem Woken.wokenResumer (h : Woken resumer) :
    Woken (SignalPark.wokenResumer resumer) := by
  cases resumer <;> exact h

/-- How many steps a handler needs at most to get to its end. -/
def rank (g : SignalParkRuntime) : Point → ℕ
  | .start => g.maximumThreads.toNat + 10
  | .loadActive => g.maximumThreads.toNat + 9
  | .loadSignal _ => g.maximumThreads.toNat + 8
  | .loadMaximum _ => g.maximumThreads.toNat + 7
  | .loadSlot _ count index => count - index + 6
  | .storeCounter _ _ _ => 5
  | .storeObserved _ _ => 4
  | .addSequence _ => 3
  | .wakeSequence _ => 2
  | .wait _ _ => 2
  | .checkActive _ => 1
  | .checkRelease _ => 1
  | _ => 0

theorem rank_search {e : UInt32} :
    Left (.search e count index) ∨ rank g (.search e count index) = count - index + 6 := by
  unfold Point.search
  split_ifs
  · exact .inr rfl
  · exact .inl trivial

theorem free_search {e : UInt32} : Free epoch (.search e count index) := by
  unfold Point.search
  split_ifs <;> exact ⟨id, nofun⟩

/-- **With the release in memory, a step of a handler leads away from the futex.** -/
theorem free_of_next (hz : epoch ≠ 0) (ha : g.activeEpoch = 0)
    (hr : g.releaseEpoch = epoch) (hat : At epoch point) (hf : Free epoch point)
    (h : point.next call sleep g = some (g', point')) :
    Free epoch point' ∧ (Left point' ∨ rank g point' < rank g point) := by
  cases point <;> simp only [Point.next] at h
  case loadActive =>
    rw [if_pos ha] at h
    cases h
    exact ⟨⟨id, nofun⟩, .inl trivial⟩
  case loadSignal =>
    cases h
    split_ifs
    · exact ⟨⟨id, nofun⟩, .inl trivial⟩
    · exact ⟨⟨id, nofun⟩, .inr (Nat.lt_succ_self _)⟩
  case loadMaximum =>
    cases h
    refine ⟨free_search, (rank_search (g := g)).imp_right fun hra => ?_⟩
    rw [hra]
    exact Nat.lt_succ_self _
  case loadSlot e count index =>
    obtain ⟨-, hi⟩ := hat
    split at h
    · split at h
      · cases h
        exact ⟨⟨id, nofun⟩, .inl trivial⟩
      · cases h
        exact ⟨⟨id, nofun⟩, .inr (by simp only [rank]; omega)⟩
    · cases h
      refine ⟨free_search, (rank_search (g := g)).imp_right fun hra => ?_⟩
      rw [hra, rank]
      omega
  case checkActive e =>
    obtain rfl : e = epoch := hat
    rw [if_neg (ha ▸ hz.symm)] at h
    cases h
    exact ⟨⟨id, nofun⟩, .inl trivial⟩
  case checkRelease e =>
    obtain rfl : e = epoch := hat
    rw [if_neg (not_not_intro hr)] at h
    cases h
    exact ⟨⟨id, nofun⟩, .inl trivial⟩
  case loadRelease => exact absurd trivial hf.1
  case wait e observed =>
    have ho : ¬ (sleep ∧ g.releaseEpoch = observed) := fun hs =>
      hf.1 (hs.2.symm.trans hr)
    rw [if_neg ho] at h
    cases h
    exact ⟨⟨id, nofun⟩, .inr Nat.one_lt_two⟩
  case leaveSignalHandler | wakeLeaving =>
    cases h
    exact ⟨⟨id, nofun⟩, .inl trivial⟩
  case blocked | returned => cases h
  all_goals
    cases h
    exact ⟨⟨id, nofun⟩, .inr (Nat.lt_succ_self _)⟩

theorem left_of_next (hl : Left point) (h : point.next call sleep g = some (g', point')) :
    Left point' := by
  cases point
  case leaveSignalHandler | wakeLeaving | returned =>
    simp only [Point.next] at h
    cases h <;> trivial
  all_goals cases hl

omit [DecidableEq ι] in
/-- Behind the wake `resumeEpoch` leaves the handlers and the shared memory alone. -/
theorem resumeStep_woken (hw : Woken s.resumer) (h : resumeStep epoch choice s = some s') :
    s'.handlers = s.handlers ∧ s'.runtime = s.runtime ∧ Woken s'.resumer := by
  obtain ⟨g, handlers, resumer⟩ := s
  cases resumer <;> simp only [resumeStep] at h
  case loadActive | storeRelease | storeActive | wake => cases hw
  case blocked =>
    split_ifs at h
    cases h
    exact ⟨rfl, rfl, trivial⟩
  case readClock | loadCount | checkTime | wait =>
    cases h
    refine ⟨rfl, rfl, ?_⟩
    dsimp only
    split_ifs <;> trivial
  all_goals cases h <;> exact ⟨rfl, rfl, trivial⟩

theorem quiet_take (hz : epoch ≠ 0) (hs : Quiet epoch s)
    (h : take epoch calls s action = some s') : Quiet epoch s' := by
  have hi := invariant_take hs.toInvariant h
  cases action with
  | handler i sleep =>
    obtain ⟨g', point', hn, -, hh, hr⟩ := handlerStep_cases h
    obtain ⟨ha, hre⟩ := hs.woken.epochs hs.phase
    refine { hi with woken := ?_, free := fun j => ?_ }
    · obtain hr | hr := hr <;> rw [hr]
      · exact hs.woken
      · exact hs.woken.wokenResumer
    · rw [hh, Function.update_apply]
      split_ifs
      · exact (free_of_next hz ha hre (hs.points i) (hs.free i) hn).1
      · exact hs.free j
  | resumer choice =>
    obtain ⟨hh, -, hw⟩ := resumeStep_woken hs.woken h
    exact { hi with woken := hw, free := hh ▸ hs.free }

def isBy (i : ι) : Action ι → Bool
  | .handler j _ => decide (j = i)
  | .resumer _ => false

/-- Every step of a handler brings it closer to its end, and nobody else moves it. -/
theorem rank_take (hz : epoch ≠ 0) (hs : Quiet epoch s) (h : take epoch calls s action = some s')
    (i : ι) :
    s'.runtime.maximumThreads = s.runtime.maximumThreads ∧ (Left (s'.handlers i) ∨
      ¬ Left (s.handlers i) ∧ rank s.runtime (s'.handlers i) + (if isBy i action then 1 else 0) ≤
        rank s.runtime (s.handlers i)) := by
  have hk (hsa : s'.handlers i = s.handlers i) : Left (s'.handlers i) ∨
      ¬ Left (s.handlers i) ∧ rank s.runtime (s'.handlers i) ≤ rank s.runtime (s.handlers i) := by
    rw [hsa]
    by_cases hl : Left (s.handlers i)
    · exact .inl hl
    · exact .inr ⟨hl, le_rfl⟩
  cases action with
  | handler j sleep =>
    obtain ⟨g', point', hn, hr, hh, -⟩ := handlerStep_cases h
    obtain ⟨ha, hre⟩ := hs.woken.epochs hs.phase
    refine ⟨hr ▸ (epochs_of_next hn).2.2, ?_⟩
    by_cases hij : j = i
    · subst hij
      rw [hh, Function.update_self]
      by_cases hl : Left (s.handlers j)
      · exact .inl (left_of_next hl hn)
      · refine (free_of_next hz ha hre (hs.points j) (hs.free j) hn).2.imp_right ?_
        intro hra
        exact ⟨hl, by simpa [isBy] using hra⟩
    · simpa [isBy, hij] using hk (by rw [hh, Function.update_of_ne (Ne.symm hij)])
  | resumer choice =>
    obtain ⟨hh, hr, -⟩ := resumeStep_woken hs.woken h
    exact ⟨by rw [hr], by simpa [isBy] using hk (by rw [hh])⟩

/-- Nobody is blocked on `releaseEpoch` in any continuation, a handler that is not at its end can
always go on, and after enough steps of its own it is there. -/
def Released (epoch : UInt32) (calls : ι → Delivery) (s : SignalPark ι) : Prop :=
  (∀ actions i e, (run (step epoch calls) s actions).1.handlers i ≠ .blocked e) ∧
  (∀ actions i sleep, ¬ Left ((run (step epoch calls) s actions).1.handlers i) →
    (take epoch calls (run (step epoch calls) s actions).1 (.handler i sleep)).isSome) ∧
  ∀ i, ∃ bound, ∀ actions,
    bound ≤ (run (step epoch calls) s actions).2.countP (isBy i) →
      Left ((run (step epoch calls) s actions).1.handlers i)

theorem quiet_run (hz : epoch ≠ 0) (hs : Quiet epoch s) (a : List (Action ι)) :
    Quiet epoch (run (step epoch calls) s a).1 := run_of_take (quiet_take hz) hs a

theorem rank_pos (hf : Free epoch point) (hl : ¬ Left point) : 0 < rank g point := by
  cases point
  case loadRelease => exact absurd trivial hf.1
  case blocked e => exact absurd rfl (hf.2 e)
  case leaveSignalHandler | wakeLeaving | returned => exact absurd trivial hl
  all_goals exact Nat.succ_pos _

/-- **Each handler gets to its end within its rank.** -/
theorem left_of_countP (hz : epoch ≠ 0) (hs : Quiet epoch s) (i : ι) (a : List (Action ι))
    (hc : rank s.runtime (s.handlers i) ≤
      (run (step epoch calls) s a).2.countP (isBy i)) :
    Left ((run (step epoch calls) s a).1.handlers i) := by
  have hh := run_history (P := fun (events : List (Action ι)) t => Quiet epoch t ∧
    t.runtime.maximumThreads = s.runtime.maximumThreads ∧ (Left (t.handlers i) ∨
      rank s.runtime (t.handlers i) + events.countP (isBy i) ≤ rank s.runtime (s.handlers i)))
    (step epoch calls) ?_ a (h := []) (s := s) ⟨hs, rfl, .inr le_rfl⟩
  · obtain ⟨hq, -, hl | hr⟩ := hh
    · exact hl
    · by_contra hl
      have := rank_pos (g := s.runtime) (hq.free i) hl
      rw [List.nil_append] at hr
      omega
  · rintro events t action ⟨hq, hm, hr⟩
    cases ht : take epoch calls t action with
    | none =>
      rw [step_of_take_none ht, List.append_nil]
      exact ⟨hq, hm, hr⟩
    | some t' =>
      rw [step_of_take ht, List.countP_append]
      obtain ⟨hsa, hne⟩ := rank_take hz hq ht i
      refine ⟨quiet_take hz hq ht, hsa.trans hm, hne.imp_right ?_⟩
      rintro ⟨hn, hle⟩
      have hb := hr.resolve_left hn
      have hsr (p : Point) : rank t.runtime p = rank s.runtime p := by
        cases p <;> simp only [rank, hm]
      rw [hsr, hsr] at hle
      simp only [List.countP_singleton]
      omega

theorem released_of_quiet (hz : epoch ≠ 0) (hs : Quiet epoch s) : Released epoch calls s := by
  refine ⟨fun actions i e => ?_, fun actions i sleep hl => ?_, fun i => ?_⟩
  · exact ((quiet_run hz hs actions).free i).2 e
  · have hq : Quiet epoch (run (step epoch calls) s actions).1 :=
      quiet_run hz hs actions
    have hf := hq.free i
    rw [take, handlerStep, Option.isSome_map]
    generalize (run (step epoch calls) s actions).1.runtime = g
    generalize (run (step epoch calls) s actions).1.handlers i = point at hf hl
    cases point
    case blocked e => exact absurd rfl (hf.2 e)
    case returned => exact absurd trivial hl
    case loadSlot =>
      simp only [Point.next]
      split
      · split <;> rfl
      · rfl
    all_goals rfl
  · exact ⟨_, fun actions hc => left_of_countP hz hs i actions hc⟩

/-! ## The wake -/

omit [DecidableEq ι] in
theorem resumeStep_wake (hw : s.resumer = .wake) :
    resumeStep epoch choice s =
      some { s with handlers := fun i => (s.handlers i).woken, resumer := .loadTimeout } := by
  rw [resumeStep, hw]

theorem free_woken (h : ¬ Poised epoch point) : Free epoch point.woken := by
  cases point <;> exact ⟨h, nofun⟩

theorem woken_of_poised (h : Poised epoch point) : point.woken = point := by
  cases point <;> first | rfl | cases h

variable (epoch) in
theorem run_handler {i : ι} (hn : (s.handlers i).next (calls i) sleep s.runtime = some (g', point'))
    (a : List (Action ι)) : ∃ s', s'.runtime = g' ∧ s'.handlers i = point' ∧
      (run (step epoch calls) s (.handler i sleep :: a)).1 =
        (run (step epoch calls) s' a).1 := by
  obtain ⟨s', ht⟩ : ∃ s', take epoch calls s (.handler i sleep) = some s' := by
    rw [take, handlerStep, hn]
    exact ⟨_, rfl⟩
  obtain ⟨g₁, point₁, hn₁, hr, hh, -⟩ := handlerStep_cases ht
  obtain ⟨rfl, rfl⟩ := Prod.mk.inj (Option.some.inj (hn.symm.trans hn₁))
  refine ⟨s', hr, ?_, ?_⟩
  · rw [hh, Function.update_self]
  · rw [run, step_of_take ht]

/-- A poised handler can go to sleep when the wake is over. -/
theorem not_released_of_poised {i : ι} (hr : s.runtime.releaseEpoch = epoch)
    (hp : Poised epoch (s.handlers i)) : ¬ Released epoch calls s := by
  intro hre
  -- The last step, from the wait on.
  have hs {s : SignalPark ι} {e : UInt32} (hr : s.runtime.releaseEpoch = epoch)
      (hw : s.handlers i = .wait e epoch) :
      (run (step epoch calls) s [.handler i true]).1.handlers i = .blocked e := by
    have hn : (s.handlers i).next (calls i) true s.runtime = some (s.runtime, .blocked e) := by
      rw [hw, Point.next, if_pos ⟨rfl, hr⟩]
    obtain ⟨s', -, hb, hrun⟩ := run_handler epoch hn []
    rw [hrun]
    exact hb
  cases hpo : s.handlers i <;> rw [hpo] at hp
  case loadRelease e =>
    have hn : (s.handlers i).next (calls i) false s.runtime = some (s.runtime, .wait e epoch) := by
      rw [hpo, Point.next, hr]
    obtain ⟨s', hru, hw, hrun⟩ :=
      run_handler epoch hn [.handler i true]
    refine hre.1 [.handler i false, .handler i true] i e ?_
    rw [hrun]
    exact hs (hru ▸ hr) hw
  case wait e observed =>
    obtain rfl : observed = epoch := hp
    exact hre.1 [.handler i true] i e (hs hr hpo)
  all_goals cases hp

/-- **The wake of `resumeEpoch` releases the handlers exactly when none is poised.** -/
theorem released_iff {ι : Type} [DecidableEq ι] {epoch : UInt32} {calls : ι → Delivery}
    {start : SignalPark ι} (hzero : epoch ≠ 0) (hstarts : Starts epoch start)
    (actions : List (Action ι)) (choice : Choice)
    (hwake : (run (step epoch calls) start actions).1.resumer = .wake) :
    Released epoch calls
        (step epoch calls (run (step epoch calls) start actions).1 (.resumer choice)).1 ↔
      ∀ i, ¬ Poised epoch ((run (step epoch calls) start actions).1.handlers i) := by
  have hi : Invariant epoch (run (step epoch calls) start actions).1 :=
    invariant_run (invariant_of_starts hstarts) actions
  generalize (run (step epoch calls) start actions).1 = s at hwake hi
  have hs : take epoch calls s (.resumer choice) =
      some { s with handlers := fun i => (s.handlers i).woken, resumer := .loadTimeout } :=
    resumeStep_wake hwake
  have hn := invariant_take hi hs
  rw [step_of_take hs]
  constructor
  · intro hr i hp
    have hre := hn.phase.2
    refine not_released_of_poised (i := i) hre ?_ hr
    change Poised epoch (s.handlers i).woken
    rwa [woken_of_poised hp]
  · intro hno
    refine released_of_quiet hzero { hn with woken := trivial, free := fun i => ?_ }
    exact free_woken (hno i)

/-! ## One handler -/

def oneSlot : SignalParkRuntime where
  signalNumber := 10
  maximumThreads := 1
  resumeTimeoutMilliseconds := 100
  activeEpoch := 7
  releaseEpoch := 0
  parkedSequence := 0
  handlerCount := 0
  slots _ := ⟨42, 0, 0⟩

def oneHandler : SignalPark Unit := ⟨oneSlot, fun _ => .start, .loadActive⟩

def oneCall : Unit → Delivery := fun _ => ⟨10, 42, some 0x2000⟩

theorem starts_oneHandler : Starts 7 oneHandler := ⟨rfl, rfl, fun _ => rfl, rfl⟩

/-- The handler checks both epochs and `resumeEpoch` gets ahead of it. -/
def overtaken : List (Action Unit) :=
  List.replicate 11 (.handler () false) ++ List.replicate 3 (.resumer .proceed)

/-- The handler sleeps on the old value before `resumeEpoch` begins. -/
def asleep : List (Action Unit) :=
  List.replicate 12 (.handler () false) ++ .handler () true :: List.replicate 3 (.resumer .proceed)

theorem released_iff_asleep :
    (run (step 7 oneCall) oneHandler asleep).1.handlers () = .blocked 7 ∧ Released 7 oneCall
      (step 7 oneCall (run (step 7 oneCall) oneHandler asleep).1 (.resumer .proceed)).1 := by
  have hb : (run (step 7 oneCall) oneHandler asleep).1.handlers () = .blocked 7 := by decide
  refine ⟨hb, (released_iff (by decide) starts_oneHandler asleep .proceed (by decide)).mpr fun _ => ?_⟩
  rw [hb]
  exact id

/-- The wake is over, and the handler still goes to sleep. -/
theorem wakeup_lost : (run (step 7 oneCall) oneHandler overtaken).1.resumer = .wake ∧
    ¬ Released 7 oneCall
      (step 7 oneCall (run (step 7 oneCall) oneHandler overtaken).1 (.resumer .proceed)).1 := by
  refine ⟨by decide, fun hr => ?_⟩
  refine hr.1 [.handler () false, .handler () true] () 7 ?_
  decide

end SignalPark

end Vcam.Runtime
