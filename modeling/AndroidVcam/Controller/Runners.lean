import AndroidVcam.Lib.Machine

/-!
# Runners of a streaming provider

The daemon runs its commands in parallel. `provider-stop` and `provider-start` of one provider are
sequences of shell steps over `stream.pid`, `enabled` and `frame.rgb`, and the runners they stop and
spawn are processes of their own, with an exit trap that removes `enabled`. A machine takes one
step of one command or one runner at a time.

* `World`, `step`: any number of commands and runners;
* `Tracked`: every live runner is the one in `stream.pid`, and the provider is enabled;
* `Ordered`: `stop_provider` and the launch behind it are not entered while a launch is under way,
  and a launch is not entered while anything else is;
* **`tracked_of_ordered`**: then the runners are tracked whenever all commands have finished;
* `parallel_starts_untracked`: two starts in parallel leave a runner that nothing records.
-/

namespace Vcam.Runners

open List Machine

/-! ## Commands and runners -/

inductive Phase
  | running
  /-- A signal arrived or the stream ended, and the exit trap has not run. -/
  | ending
  | gone
deriving DecidableEq

/-- What follows `stop_provider`. -/
inductive Next
  | finish
  /-- The part of `start_provider` behind its first `stop_provider`. -/
  | launch
deriving DecidableEq

inductive Control
  /-- `[ -f stream.pid ]`. -/
  | check (next : Next)
  | read (next : Next)
  /-- The signals to the process, if it is a runner. -/
  | signal (pid : ℕ) (next : Next)
  | wait (pid attempts : ℕ) (next : Next)
  | removePid (next : Next)
  | removeEnabled (next : Next)
  | removeFrame
  | createEnabled
  | spawn
  | writePid (pid : ℕ)
  /-- The loop that waits for a frame. -/
  | poll (pid attempts : ℕ)
  | finished
deriving DecidableEq

/-- The files of the provider and the runners, the process ID being the position. -/
structure Shared where
  pidFile : Option ℕ
  enabled : Bool
  frame : Bool
  /-- `find_runner` succeeds. -/
  installed : Bool
  runners : List Phase
deriving DecidableEq

def Shared.Alive (s : Shared) (pid : ℕ) : Prop :=
  s.runners[pid]? = some .running ∨ s.runners[pid]? = some .ending

instance (s : Shared) (pid : ℕ) : Decidable (s.Alive pid) := inferInstanceAs (Decidable (_ ∨ _))

def Shared.setPhase (s : Shared) (pid : ℕ) (phase : Phase) : Shared :=
  { s with runners := s.runners.set pid phase }

def advance (s : Shared) : Control → Shared × Control
  | .check next => (s, if s.pidFile.isSome then .read next else .removeEnabled next)
  | .read next =>
    match s.pidFile with
    | none => (s, .removePid next)
    | some pid => (s, .signal pid next)
  | .signal pid next =>
    if s.Alive pid then (s.setPhase pid .ending, .wait pid 0 next) else (s, .removePid next)
  | .wait pid attempts next =>
    if s.Alive pid then
      if attempts < 20 then (s, .wait pid (attempts + 1) next)
      -- `kill -9` leaves no time for the trap.
      else (s.setPhase pid .gone, .removePid next)
    else (s, .removePid next)
  | .removePid next => ({ s with pidFile := none }, .removeEnabled next)
  | .removeEnabled .finish => ({ s with enabled := false }, .finished)
  | .removeEnabled .launch =>
    ({ s with enabled := false }, if s.installed then .removeFrame else .finished)
  | .removeFrame => ({ s with frame := false }, .createEnabled)
  | .createEnabled => ({ s with enabled := true }, .spawn)
  | .spawn => ({ s with runners := s.runners ++ [.running] }, .writePid s.runners.length)
  | .writePid pid => ({ s with pidFile := some pid }, .poll pid 0)
  | .poll pid attempts =>
    if attempts < 15 then
      if s.frame then (s, .finished)
      else if s.Alive pid then (s, .poll pid (attempts + 1)) else (s, .check .finish)
    else (s, .check .finish)
  | .finished => (s, .finished)

structure World where
  shared : Shared
  commands : List Control
deriving DecidableEq

inductive Action
  /-- The daemon gets `provider-stop` or `provider-start`. -/
  | submit (next : Next)
  | command (index : ℕ)
  /-- A runner writes its frame. -/
  | publish (pid : ℕ)
  /-- The stream of a runner ends. -/
  | leave (pid : ℕ)
  /-- The exit trap of a runner and the end of its process. -/
  | cleanup (pid : ℕ)
deriving DecidableEq

def step (w : World) : Action → World × List Empty
  | .submit next => ({ w with commands := w.commands ++ [.check next] }, [])
  | .command index =>
    match w.commands[index]? with
    | none => (w, [])
    | some control =>
      let moved := advance w.shared control
      (⟨moved.1, w.commands.set index moved.2⟩, [])
  | .publish pid =>
    if w.shared.runners[pid]? = some .running then
      ({ w with shared := { w.shared with frame := true } }, [])
    else (w, [])
  | .leave pid =>
    if w.shared.runners[pid]? = some .running then
      ({ w with shared := w.shared.setPhase pid .ending }, [])
    else (w, [])
  | .cleanup pid =>
    if w.shared.runners[pid]? = some .ending then
      ({ w with shared := { w.shared.setPhase pid .gone with enabled := false } }, [])
    else (w, [])

/-! ## Tracking -/

/-- Every live runner is the recorded one, and then the provider is enabled. -/
def Tracked (s : Shared) : Prop := ∀ pid, s.Alive pid → s.pidFile = some pid ∧ s.enabled = true

def Quiet (w : World) : Prop := ∀ c ∈ w.commands, c = .finished

instance (w : World) : Decidable (Quiet w) := inferInstanceAs (Decidable (∀ c ∈ w.commands, _))

/-- In `stop_provider` or the launch behind it, with the first test done. -/
def Control.busy : Control → Bool
  | check _ | poll _ _ | finished => false
  | _ => true

def Control.launching : Control → Bool
  | read next | signal _ next | wait _ _ next | removePid next | removeEnabled next =>
    next = .launch
  | removeFrame | createEnabled | spawn | writePid _ => true
  | check _ | poll _ _ | finished => false

/-- A command enters `stop_provider` only while no launch is under way, and for a launch only while
no other command is in it either. -/
def inTurn (w : World) : Action → Bool
  | .command index =>
    match w.commands[index]? with
    | some (.check .finish) => w.commands.all fun c => !c.launching
    | some (.check .launch) => w.commands.all fun c => !c.busy
    | _ => true
  | _ => true

def Ordered (w : World) (a : Action) : Prop := inTurn w a = true

instance (w : World) (a : Action) : Decidable (Ordered w a) := inferInstanceAs (Decidable (_ = _))

variable {s : Shared} {c : Control}

theorem launching_of_ordered {w : World} {i : ℕ} {next : Next}
    (hi : w.commands[i]? = some (.check next)) (h : Ordered w (.command i))
    (hc : c ∈ w.commands) : c.launching = false := by
  cases next with
  | finish =>
    simp only [Ordered, inTurn, hi, all_eq_true, Bool.not_eq_true'] at h
    exact h c hc
  | launch =>
    simp only [Ordered, inTurn, hi, all_eq_true, Bool.not_eq_true'] at h
    have hb := h c hc
    cases c <;> first | rfl | cases hb

theorem busy_of_ordered {w : World} {i : ℕ} (hi : w.commands[i]? = some (.check .launch))
    (h : Ordered w (.command i)) (hc : c ∈ w.commands) : c.busy = false := by
  simp only [Ordered, inTurn, hi, all_eq_true, Bool.not_eq_true'] at h
  exact h c hc

/-- What a command relies on at its next step. -/
def Control.Holds (s : Shared) : Control → Prop
  | signal pid _ | wait pid _ _ => ∀ q, s.Alive q → q = pid
  | removePid _ | removeEnabled _ | removeFrame | createEnabled => ∀ q, ¬ s.Alive q
  | spawn => s.enabled = true ∧ ∀ q, ¬ s.Alive q
  | writePid pid => ∀ q, s.Alive q → q = pid ∧ s.enabled = true
  | check _ | read _ | poll _ _ | finished => True

structure Invariant (w : World) : Prop where
  tracked : ∀ q, w.shared.Alive q → w.shared.enabled = true ∧
    (w.shared.pidFile = some q ∨ ∃ i : ℕ, w.commands[i]? = some (.writePid q))
  holds : ∀ (i : ℕ) (c : Control), w.commands[i]? = some c → c.Holds w.shared
  /-- A launch is alone. -/
  alone : ∀ (i j : ℕ) (c d : Control), w.commands[i]? = some c → w.commands[j]? = some d →
    c.launching = true → d.busy = true → i = j

/-! ## Live runners -/

section Alive

variable {s : Shared} {p q : ℕ}

theorem alive_of_setPhase_gone (h : (s.setPhase p .gone).Alive q) : s.Alive q ∧ q ≠ p := by
  unfold Shared.Alive Shared.setPhase at h
  rw [getElem?_set] at h
  by_cases hpq : p = q
  · subst hpq
    by_cases hlt : p < s.runners.length <;> simp [hlt] at h
  · rw [if_neg hpq] at h
    exact ⟨h, fun hqp => hpq hqp.symm⟩

theorem alive_of_setPhase_ending (hp : s.Alive p) (h : (s.setPhase p .ending).Alive q) :
    s.Alive q := by
  unfold Shared.Alive Shared.setPhase at h
  rw [getElem?_set] at h
  by_cases hpq : p = q
  · exact hpq ▸ hp
  · rwa [if_neg hpq] at h

theorem alive_of_spawn (h : Shared.Alive { s with runners := s.runners ++ [.running] } q) :
    s.Alive q ∨ q = s.runners.length := by
  unfold Shared.Alive at h
  dsimp only at h
  by_cases hlt : q < s.runners.length
  · rw [List.getElem?_append_left hlt] at h
    exact .inl h
  · refine .inr (le_antisymm (not_lt.mp fun hgt => ?_) (not_lt.mp hlt))
    rw [getElem?_eq_none (by simp; omega)] at h
    simp at h

end Alive

/-! ## One step of a command -/

theorem advance_of_not_busy (h : c.busy = false) (s : Shared) :
    (advance s c).1 = s := by
  cases c with
  | check next => rfl
  | poll pid attempts =>
    rw [advance]
    split_ifs <;> rfl
  | finished => rfl
  | _ => cases h

theorem alive_of_advance (hc : c ≠ .spawn) {q : ℕ}
    (h : (advance s c).1.Alive q) : s.Alive q := by
  cases c with
  | read next =>
    rw [advance] at h
    cases hpid : s.pidFile <;> rw [hpid] at h <;> exact h
  | signal pid next =>
    rw [advance] at h
    by_cases hpid : s.Alive pid
    · rw [if_pos hpid] at h
      exact alive_of_setPhase_ending hpid h
    · rwa [if_neg hpid] at h
  | wait pid attempts next =>
    rw [advance] at h
    split_ifs at h
    · exact h
    · exact (alive_of_setPhase_gone h).1
    · exact h
  | removeEnabled next => cases next <;> exact h
  | spawn => exact absurd rfl hc
  | poll pid attempts => rwa [advance_of_not_busy rfl] at h
  | _ => exact h

theorem Control.Holds.of_alive {s' : Shared} (h : c.Holds s)
    (hc : c.launching = false) (ha : ∀ q, s'.Alive q → s.Alive q) : c.Holds s' := by
  cases c with
  | signal pid next => exact fun q hq => h q (ha q hq)
  | wait pid attempts next => exact fun q hq => h q (ha q hq)
  | removePid next => exact fun q hq => h q (ha q hq)
  | removeEnabled next => exact fun q hq => h q (ha q hq)
  | check next => trivial
  | read next => trivial
  | poll pid attempts => trivial
  | finished => trivial
  | _ => cases hc

theorem Control.holds_of_not_busy (h : c.busy = false) (s : Shared) : c.Holds s := by
  cases c with
  | check next => trivial
  | poll pid attempts => trivial
  | finished => trivial
  | _ => cases h

/-- A command is on the way to a runner only behind its first test. -/
theorem launching_advance (h : (advance s c).2.launching = true) :
    c.launching = true ∨ c = .check .launch := by
  cases c with
  | check next =>
    refine .inr ?_
    rw [advance] at h
    cases next with
    | finish => split_ifs at h <;> cases h
    | launch => rfl
  | read next =>
    rw [advance] at h
    cases hpid : s.pidFile <;> rw [hpid] at h <;> exact .inl h
  | signal pid next =>
    rw [advance] at h
    split_ifs at h <;> exact .inl h
  | wait pid attempts next =>
    rw [advance] at h
    split_ifs at h <;> exact .inl h
  | removeEnabled next => cases next with
    | finish => cases h
    | launch => exact .inl rfl
  | poll pid attempts =>
    rw [advance] at h
    split_ifs at h <;> cases h
  | finished => cases h
  | removePid next => exact .inl h
  | _ => exact .inl rfl

theorem busy_advance (h : (advance s c).2.busy = true) :
    c.busy = true ∨ ∃ next, c = .check next := by
  cases c with
  | check next => exact .inr ⟨next, rfl⟩
  | poll pid attempts =>
    rw [advance] at h
    split_ifs at h <;> cases h
  | finished => cases h
  | _ => exact .inl rfl

/-! ## The invariant -/

section Step

variable {w : World} {i : ℕ} {c : Control} (h : Invariant w)

include h

theorem Invariant.recorded {q : ℕ} (hq : w.shared.Alive q)
    (hw : ∀ j : ℕ, w.commands[j]? ≠ some (.writePid q)) : w.shared.pidFile = some q :=
  (h.tracked q hq).2.resolve_right fun ⟨j, hj⟩ => hw j hj

theorem Invariant.recorded_of_busy (hi : w.commands[i]? = some c)
    (hb : c.busy = true) (hc : ∀ q, c ≠ .writePid q) {q : ℕ} (hq : w.shared.Alive q) :
    w.shared.pidFile = some q := by
  refine h.recorded hq fun j hj => hc q ?_
  obtain rfl := h.alone j i _ c hj hi rfl hb
  exact Option.some.inj (hi.symm.trans hj)

theorem Invariant.recorded_of_check {next : Next}
    (hi : w.commands[i]? = some (.check next)) (ho : Ordered w (.command i)) {q : ℕ}
    (hq : w.shared.Alive q) : w.shared.pidFile = some q := by
  refine h.recorded hq fun j hj => ?_
  cases launching_of_ordered hi ho (mem_of_getElem? hj)

/-- **What a command relies on at its next step is there.** -/
theorem Invariant.holds_advance (hi : w.commands[i]? = some c)
    (ho : Ordered w (.command i)) :
    (advance w.shared c).2.Holds (advance w.shared c).1 := by
  have hh := h.holds i c hi
  cases c with
  | check next =>
    rw [advance]
    by_cases hpid : w.shared.pidFile.isSome
    · rw [if_pos hpid]
      trivial
    · rw [if_neg hpid]
      intro q hq
      rw [h.recorded_of_check hi ho hq] at hpid
      exact hpid rfl
  | read next =>
    have hr : ∀ q, w.shared.Alive q → w.shared.pidFile = some q :=
      fun q hq => h.recorded_of_busy hi rfl nofun hq
    rw [advance]
    cases hpid : w.shared.pidFile with
    | none =>
      intro q hq
      have := hr q hq
      rw [hpid] at this
      cases this
    | some pid =>
      intro q hq
      have := hr q hq
      rw [hpid] at this
      exact (Option.some.inj this).symm
  | signal pid next =>
    rw [advance]
    by_cases hpid : w.shared.Alive pid
    · rw [if_pos hpid]
      exact fun q hq => hh q (alive_of_setPhase_ending hpid hq)
    · rw [if_neg hpid]
      exact fun q hq => hpid (hh q hq ▸ hq)
  | wait pid attempts next =>
    rw [advance]
    split_ifs with hpid hm
    · exact hh
    · exact fun q hq => (alive_of_setPhase_gone hq).2 (hh q (alive_of_setPhase_gone hq).1)
    · exact fun q hq => hpid (hh q hq ▸ hq)
  | removePid next => exact hh
  | removeEnabled next =>
    cases next with
    | finish => trivial
    | launch =>
      rw [advance]
      split_ifs
      · exact hh
      · trivial
  | removeFrame => exact hh
  | createEnabled => exact ⟨rfl, hh⟩
  | spawn =>
    exact fun q hq => ⟨(alive_of_spawn hq).resolve_left (hh.2 q), hh.1⟩
  | writePid pid => trivial
  | poll pid attempts =>
    rw [advance]
    split_ifs <;> trivial
  | finished => trivial

theorem Invariant.tracked_advance (hi : w.commands[i]? = some c) {q : ℕ}
    (hq : (advance w.shared c).1.Alive q) :
    (advance w.shared c).1.enabled = true ∧ ((advance w.shared c).1.pidFile = some q ∨
      ∃ j : ℕ, (w.commands.set i (advance w.shared c).2)[j]? = some (.writePid q)) := by
  have hh := h.holds i c hi
  -- A step that leaves both files and no `writePid` behind keeps the record there was.
  have hk : (advance w.shared c).1.enabled = w.shared.enabled →
      (advance w.shared c).1.pidFile = w.shared.pidFile → c ≠ .spawn → (∀ p, c ≠ .writePid p) →
      (advance w.shared c).1.enabled = true ∧ ((advance w.shared c).1.pidFile = some q ∨
        ∃ j : ℕ, (w.commands.set i (advance w.shared c).2)[j]? = some (.writePid q)) := by
    intro he hpid hs hw
    obtain ⟨hon, hr⟩ := h.tracked q (alive_of_advance hs hq)
    rw [he, hpid]
    refine ⟨hon, hr.imp_right fun ⟨j, hj⟩ => ⟨j, ?_⟩⟩
    have hne : i ≠ j := by
      rintro rfl
      exact hw q (Option.some.inj (hi.symm.trans hj))
    rwa [getElem?_set_ne hne]
  cases c with
  | check next => exact hk rfl rfl nofun nofun
  | read next =>
    refine hk ?_ ?_ nofun nofun <;> rw [advance] <;> split <;> rfl
  | signal pid next =>
    refine hk ?_ ?_ nofun nofun <;> rw [advance] <;> split_ifs <;> rfl
  | wait pid attempts next =>
    refine hk ?_ ?_ nofun nofun <;> rw [advance] <;> split_ifs <;> rfl
  | removePid next => exact absurd hq (hh q)
  | removeEnabled next => cases next <;> exact absurd hq (hh q)
  | removeFrame => exact absurd hq (hh q)
  | createEnabled => exact absurd hq (hh q)
  | spawn =>
    obtain rfl := (alive_of_spawn hq).resolve_left (hh.2 q)
    have hlt : i < w.commands.length := (List.getElem?_eq_some_iff.mp hi).1
    exact ⟨hh.1, .inr ⟨i, getElem?_set_self hlt⟩⟩
  | writePid pid =>
    obtain ⟨rfl, hon⟩ := hh q hq
    exact ⟨hon, .inl rfl⟩
  | poll pid attempts =>
    refine hk ?_ ?_ nofun nofun <;> rw [advance_of_not_busy rfl]
  | finished => exact hk rfl rfl nofun nofun

theorem Invariant.alone_advance (hi : w.commands[i]? = some c)
    (ho : Ordered w (.command i)) (j : ℕ) (d : Control) (hj : w.commands[j]? = some d) :
    ((advance w.shared c).2.launching = true → d.busy = true → i = j) ∧
      (d.launching = true → (advance w.shared c).2.busy = true → j = i) := by
  have hmem : d ∈ w.commands := mem_of_getElem? hj
  refine ⟨fun hl hb => ?_, fun hl hb => ?_⟩
  · rcases launching_advance hl with hc | rfl
    · exact h.alone i j c d hi hj hc hb
    · rw [busy_of_ordered hi ho hmem] at hb
      cases hb
  · rcases busy_advance hb with hc | ⟨next, rfl⟩
    · exact h.alone j i d c hj hi hl hc
    · rw [launching_of_ordered hi ho hmem] at hl
      cases hl

/-- **A step of a command in its turn keeps the invariant.** -/
theorem Invariant.command (hi : w.commands[i]? = some c)
    (ho : Ordered w (.command i)) :
    Invariant ⟨(advance w.shared c).1, w.commands.set i (advance w.shared c).2⟩ := by
  have hlt : i < w.commands.length := (List.getElem?_eq_some_iff.mp hi).1
  -- An entry of the new list is the one that moved or an old one.
  have hen : ∀ (j : ℕ) (d : Control),
      (w.commands.set i (advance w.shared c).2)[j]? = some d →
      j = i ∧ d = (advance w.shared c).2 ∨ j ≠ i ∧ w.commands[j]? = some d := by
    intro j d hd
    by_cases hij : i = j
    · subst hij
      rw [getElem?_set_self hlt] at hd
      exact .inl ⟨rfl, (Option.some.inj hd).symm⟩
    · rw [getElem?_set_ne hij] at hd
      exact .inr ⟨fun hji => hij hji.symm, hd⟩
  refine ⟨fun q hq => h.tracked_advance hi hq, fun j d hd => ?_, fun j k d e hd he hl hb => ?_⟩
  · rcases hen j d hd with ⟨-, rfl⟩ | ⟨hne, hold⟩
    · exact h.holds_advance hi ho
    · have hh := h.holds j d hold
      by_cases hb : c.busy = true
      · have hd' : d.launching = false := by
          by_contra hl
          exact hne (h.alone j i d c hold hi (by simpa using hl) hb)
        by_cases hs : c = .spawn
        · refine Control.holds_of_not_busy ?_ _
          by_contra hot
          exact hne (h.alone i j c d hi hold (hs ▸ rfl) (by simpa using hot)).symm
        · exact hh.of_alive hd' fun q hq => alive_of_advance hs hq
      · rw [advance_of_not_busy (by simpa using hb)]
        exact hh
  · rcases hen j d hd with ⟨rfl, rfl⟩ | ⟨-, hold⟩
    · rcases hen k e he with ⟨rfl, -⟩ | ⟨-, hold'⟩
      · rfl
      · exact (h.alone_advance hi ho k e hold').1 hl hb
    · rcases hen k e he with ⟨rfl, rfl⟩ | ⟨-, hold'⟩
      · exact (h.alone_advance hi ho j d hold).2 hl hb
      · exact h.alone j k d e hold hold' hl hb

theorem Invariant.eq_of_alive {p q : ℕ} (hp : w.shared.Alive p)
    (hq : w.shared.Alive q) : p = q := by
  rcases (h.tracked p hp).2 with hpid | ⟨j, hj⟩
  · rcases (h.tracked q hq).2 with hp' | ⟨j, hj⟩
    · exact Option.some.inj (hpid.symm.trans hp')
    · exact (h.holds j _ hj p hp).1
  · exact (h.holds j _ hj q hq).1.symm

theorem Invariant.leave {p : ℕ} (hp : w.shared.Alive p) :
    Invariant { w with shared := w.shared.setPhase p .ending } := by
  have ha : ∀ q, (w.shared.setPhase p .ending).Alive q → w.shared.Alive q :=
    fun q hq => alive_of_setPhase_ending hp hq
  refine ⟨fun q hq => h.tracked q (ha q hq), fun j d hd => ?_, h.alone⟩
  have hh := h.holds j d hd
  cases d with
  | check next => trivial
  | read next => trivial
  | poll pid attempts => trivial
  | finished => trivial
  | spawn => exact ⟨hh.1, fun q hq => hh.2 q (ha q hq)⟩
  | _ => exact fun q hq => hh q (ha q hq)

/-- The runner whose trap removes `enabled` was the only one. -/
theorem Invariant.cleanup {p : ℕ} (hp : w.shared.Alive p) :
    Invariant { w with shared := { w.shared.setPhase p .gone with enabled := false } } := by
  have hn : ∀ q, ¬ Shared.Alive { w.shared.setPhase p .gone with enabled := false } q := by
    intro q hq
    obtain ⟨hold, hne⟩ := alive_of_setPhase_gone (show (w.shared.setPhase p .gone).Alive q from hq)
    exact hne (h.eq_of_alive hold hp)
  refine ⟨fun q hq => absurd hq (hn q), fun j d hd => ?_, h.alone⟩
  cases d with
  | check next => trivial
  | read next => trivial
  | poll pid attempts => trivial
  | finished => trivial
  | spawn => exact absurd hp ((h.holds j _ hd).2 p)
  | removePid next => exact hn
  | removeEnabled next => exact hn
  | removeFrame => exact hn
  | createEnabled => exact hn
  | _ => exact fun q hq => absurd hq (hn q)

/-- **Every step in its turn keeps the invariant.** -/
theorem Invariant.step {a : Action} (ho : Ordered w a) :
    Invariant (Runners.step w a).1 := by
  cases a with
  | submit next =>
    have hen : ∀ (j : ℕ) (d : Control), (w.commands ++ [.check next])[j]? = some d →
        w.commands[j]? = some d ∨ d = .check next := by
      intro j d hd
      by_cases hlt : j < w.commands.length
      · exact .inl (List.getElem?_append_left hlt ▸ hd)
      · rw [getElem?_append_right (not_lt.mp hlt)] at hd
        exact .inr (mem_singleton.mp (mem_of_getElem? hd))
    refine ⟨fun q hq => ?_, fun j d hd => ?_, fun j k d e hd he hl hb => ?_⟩
    · obtain ⟨hon, hr⟩ := h.tracked q hq
      refine ⟨hon, hr.imp_right fun ⟨j, hj⟩ => ⟨j, ?_⟩⟩
      rw [Runners.step, List.getElem?_append_left (List.getElem?_eq_some_iff.mp hj).1, hj]
    · rcases hen j d hd with hold | rfl
      · exact h.holds j d hold
      · trivial
    · rcases hen j d hd with hold | rfl
      · rcases hen k e he with hold' | rfl
        · exact h.alone j k d e hold hold' hl hb
        · cases hb
      · cases hl
  | command i =>
    rw [Runners.step]
    cases hi : w.commands[i]? with
    | none => exact h
    | some c => exact h.command hi ho
  | publish p =>
    rw [Runners.step]
    split_ifs
    · exact ⟨h.tracked, fun j d hd => by cases d <;> exact h.holds j _ hd, h.alone⟩
    · exact h
  | leave p =>
    rw [Runners.step]
    split_ifs with hp
    · exact h.leave (.inl hp)
    · exact h
  | cleanup p =>
    rw [Runners.step]
    split_ifs with hp
    · exact h.cleanup (.inr hp)
    · exact h

end Step

/-! ## Whole runs -/

/-- **When launches keep to themselves, every live runner is tracked once all commands have
finished**: from any files and runners that are tracked, for any number of commands and any moments
at which runners publish, end and clean up. -/
theorem tracked_of_ordered (hs : Tracked s) {actions : List Action}
    (hordered : Machine.Along step Ordered ⟨s, []⟩ actions)
    (hquiet : Quiet (run step ⟨s, []⟩ actions).1) :
    Tracked (run step ⟨s, []⟩ actions).1.shared := by
  have hst : Invariant ⟨s, []⟩ :=
    ⟨fun q hq => ⟨(hs q hq).2, .inl (hs q hq).1⟩, nofun, nofun⟩
  have hrun : Invariant (run step ⟨s, []⟩ actions).1 :=
    @run_history_along _ _ _ step Ordered (fun _ w => Invariant w)
      (fun _ _ _ hw ha => hw.step ha) actions [] ⟨s, []⟩ hordered hst
  intro q hq
  refine ⟨hrun.recorded hq fun j hj => ?_, (hrun.tracked q hq).1⟩
  cases hquiet _ (mem_of_getElem? hj)

def stopped : Shared := ⟨none, false, false, true, []⟩

theorem tracked_stopped : Tracked stopped := by
  rintro pid (h | h) <;> cases h

/-- A start, a stop that overlaps its wait for a frame, and another start. -/
def restart : List Action :=
  [Action.submit .launch] ++ replicate 6 (Action.command 0) ++
  [Action.submit .finish, Action.command 0] ++ replicate 3 (Action.command 1) ++
  [Action.cleanup 0] ++ replicate 3 (Action.command 1) ++ [Action.submit .launch] ++
  replicate 6 (Action.command 2) ++ [Action.publish 1, Action.command 2, Action.command 0]

theorem tracked_restart : (run step ⟨stopped, []⟩ restart).1.shared.Alive 1 ∧
    Tracked (run step ⟨stopped, []⟩ restart).1.shared := by
  obtain ⟨ho, hq, ha⟩ : Machine.Along step Ordered ⟨stopped, []⟩ restart ∧
      Quiet (run step ⟨stopped, []⟩ restart).1 ∧
      (run step ⟨stopped, []⟩ restart).1.shared.Alive 1 := by decide
  exact ⟨ha, tracked_of_ordered tracked_stopped ho hq⟩

/-- Two starts, both behind `stop_provider` before one of them spawns its runner. -/
def parallelStarts : List Action :=
  [Action.submit .launch, Action.submit .launch] ++ replicate 2 (Action.command 0) ++
  replicate 2 (Action.command 1) ++ replicate 4 (Action.command 0) ++
  replicate 4 (Action.command 1) ++ [Action.publish 0, Action.command 0, Action.command 1]

/-- The first runner goes on and `stream.pid` names the second. -/
theorem parallel_starts_untracked : Quiet (run step ⟨stopped, []⟩ parallelStarts).1 ∧
    ¬ Tracked (run step ⟨stopped, []⟩ parallelStarts).1.shared := by
  obtain ⟨hq, ha, hpid⟩ : Quiet (run step ⟨stopped, []⟩ parallelStarts).1 ∧
      (run step ⟨stopped, []⟩ parallelStarts).1.shared.Alive 0 ∧
      (run step ⟨stopped, []⟩ parallelStarts).1.shared.pidFile = some 1 := by decide
  refine ⟨hq, fun h => ?_⟩
  have hf := (h 0 ha).1
  rw [hpid] at hf
  cases hf

end Vcam.Runners
