import AndroidVcam.Bootstrap.RouterMonitor
import AndroidVcam.Lib.Machine

/-!
# The launcher of the camera server

`runtime/platform/CameraServerLauncher.cpp`: the process that replaces `cameraserver` loads the
router library when `bootstrap.mode` asks for it and runs the camera service in the same process. A
marker file is created exclusively before the library is loaded, and the router removes it when it
becomes ready, so that a router that takes the process down is not loaded again.

* `mainStep`: `main`, `armBootstrapAttempt` and `runCameraServer`, one system call at a time;
* `monitorStep`: the monitor thread, which stores its terminal state and then removes the marker;
* `Guarded`: the invariant; `guarded_run`: it holds along every run;
* **`bootLoop_guard`**: between two launches that load the router one has become ready;
* `gates`, **`gate_before_routing`**: what a launch passes before it routes.
-/

namespace Vcam

open TextFile List Machine Option

inductive CameraServerBootstrapMode
  | stock
  | preflight
  | passThrough
  | physicalRoute
  | invalid
deriving DecidableEq, Repr

def parseCameraServerBootstrapMode (value : Text) : CameraServerBootstrapMode :=
  if value = [] ∨ value = "stock" then .stock
  else if value = "preflight" then .preflight
  else if value = "passthrough" then .passThrough
  else if value = "physical-route" then .physicalRoute
  else .invalid

def maximumModeBytes : ℕ := 32

def isTrimCharacter (c : Char) : Bool := c == ' ' || c == '\t' || c == '\r' || c == '\n'

/-- `bootstrap.mode` as `fstat` and `read` show it. -/
structure ModeFile where
  /-- `fstat` succeeds and the file is a regular one. -/
  regular : Bool
  size : ℤ
  /-- The bytes that `read` delivers, `none` when it fails. -/
  bytes : Option Text

/-- The mode that `bootstrap.mode` asks for, `none` when the file does not open. -/
def readBootstrapMode : Option ModeFile → CameraServerBootstrapMode
  | none => .stock
  | some file =>
    if !file.regular ∨ file.size < 0 ∨ (maximumModeBytes : ℤ) < file.size then .invalid
    else match file.bytes with
      | none => .invalid
      | some bytes =>
        let buffer := bytes.take maximumModeBytes
        parseCameraServerBootstrapMode
          (cStr ((buffer.dropWhile isTrimCharacter).rdropWhile isTrimCharacter))

def expectedDomainPrefix : Text := "u:r:cameraserver:"

/-- `/proc/self/attr/current` starts with the domain of the camera server. -/
def isCameraServerDomain : Option Text → Bool
  | none => false
  | some context => expectedDomainPrefix.isPrefixOf (context.take 127)

/-- The value of `VCAM_BINDER_ROUTER_MODE` for a mode that wants the router. -/
def routerModeText (mode : CameraServerBootstrapMode) : Text :=
  if mode = .preflight then "preflight"
  else if mode = .physicalRoute then "physical-route"
  else "passthrough"

namespace Launcher

/-! ## The two threads -/

/-- The next system call of the main thread. -/
inductive MainCounter
  | readMode
  | checkDomain (mode : CameraServerBootstrapMode)
  | checkLibrary (mode : CameraServerBootstrapMode)
  | createMarker (mode : CameraServerBootstrapMode)
  | writeMarker (mode : CameraServerBootstrapMode)
  | syncMarker (mode : CameraServerBootstrapMode)
  | withdrawMarker
  | setMode (mode : CameraServerBootstrapMode)
  | loadRouter
  | unsetMode
  | loadService
  | instantiate
  | serving
deriving DecidableEq, Repr

inductive MonitorCounter
  | absent
  | running
  /-- The terminal state is stored and the marker not yet removed. -/
  | stored (state : RouterState)
  | finished
deriving DecidableEq, Repr

structure Process where
  launch : ℕ
  main : MainCounter
  monitor : MonitorCounter
  /-- `VCAM_BINDER_ROUTER_MODE` in its environment. -/
  routerMode : Option Text
deriving DecidableEq

/-- What survives a launch, and the launch that is running. -/
structure System where
  /-- `/dev/vcam/bootstrap.pending` exists. -/
  marker : Bool
  launches : ℕ
  process : Option Process
deriving DecidableEq

inductive Event
  /-- The router library is loaded. -/
  | loaded (launch : ℕ)
  /-- The router has stored a state that counts as ready. -/
  | ready (launch : ℕ) (state : RouterState)
  /-- The camera service is instantiated with this `VCAM_BINDER_ROUTER_MODE`. -/
  | serving (launch : ℕ) (routerMode : Option Text)
deriving DecidableEq

/-- The results of the system calls of the main thread. -/
structure LauncherAnswers where
  modeFile : Option ModeFile
  domain : Option Text
  libraryReadable : Bool
  /-- `open` with `O_CREAT | O_EXCL` succeeds when there is no marker. -/
  markerCreated : Bool
  markerWritten : Bool
  markerSynced : Bool
  markerUnlinked : Bool
  modeSet : Bool
  routerOpened : Bool
  threadStarted : Bool
  serviceResolved : Bool

/-- The main thread of a process makes its next system call: the marker, the process and the events
after it. -/
def mainStep (answers : LauncherAnswers) (marker : Bool) (p : Process) :
    Bool × Option Process × List Event :=
  let goto (next : MainCounter) := (marker, some { p with main := next }, [])
  match p.main with
  | .readMode =>
    match readBootstrapMode answers.modeFile with
    | .stock | .invalid => goto .unsetMode
    | mode => goto (.checkDomain mode)
  | .checkDomain mode =>
    if isCameraServerDomain answers.domain then goto (.checkLibrary mode) else goto .unsetMode
  | .checkLibrary mode =>
    if answers.libraryReadable then goto (.createMarker mode) else goto .unsetMode
  | .createMarker mode =>
    -- `O_EXCL`: an existing marker is never taken over.
    if marker ∨ !answers.markerCreated then goto .unsetMode
    else (true, some { p with main := .writeMarker mode }, [])
  | .writeMarker mode =>
    if answers.markerWritten then goto (.syncMarker mode) else goto .withdrawMarker
  | .syncMarker mode =>
    if answers.markerSynced then goto (.setMode mode) else goto .withdrawMarker
  | .withdrawMarker =>
    (marker && !answers.markerUnlinked, some { p with main := .unsetMode }, [])
  | .setMode mode =>
    if answers.modeSet then
      (marker, some { p with main := .loadRouter, routerMode := some (routerModeText mode) }, [])
    else goto .unsetMode
  | .loadRouter =>
    if answers.routerOpened then
      -- The constructor of the library starts the monitor before `dlopen` returns.
      let monitor := if answers.threadStarted then .running else .stored .threadStartFailed
      (marker, some { p with main := .loadService, monitor := monitor }, [.loaded p.launch])
    else goto .unsetMode
  | .unsetMode => (marker, some { p with main := .loadService, routerMode := none }, [])
  | .loadService =>
    if answers.serviceResolved then goto .instantiate else (marker, none, [])
  | .instantiate =>
    (marker, some { p with main := .serving }, [.serving p.launch p.routerMode])
  | .serving => (marker, none, [])

/-- The monitor thread of a process stores its terminal state, and removes the marker in the next
step when that state is a ready one. -/
def monitorStep (answers : MonitorAnswers) (unlinked marker : Bool) (p : Process) :
    Bool × Option Process × List Event :=
  match p.monitor with
  | .absent | .finished => (marker, some p, [])
  | .running =>
    let state := routerMonitor p.routerMode answers
    (marker, some { p with monitor := .stored state },
      if state.ready then [.ready p.launch state] else [])
  | .stored state =>
    (marker && !(state.ready && unlinked), some { p with monitor := .finished }, [])

/-! ## Runs -/

inductive Action
  /-- The camera server is started with this `VCAM_BINDER_ROUTER_MODE` in its environment. -/
  | launch (routerMode : Option Text)
  | main (answers : LauncherAnswers)
  | monitor (answers : MonitorAnswers) (unlinked : Bool)
  | crash

def step (s : System) : Action → System × List Event
  | .launch routerMode =>
    match s.process with
    | some _ => (s, [])
    | none =>
      ({ s with
          launches := s.launches + 1
          process := some ⟨s.launches, .readMode, .absent, routerMode⟩ }, [])
  | .main answers =>
    match s.process with
    | none => (s, [])
    | some p =>
      let next := mainStep answers s.marker p
      ({ s with marker := next.1, process := next.2.1 }, next.2.2)
  | .monitor answers unlinked =>
    match s.process with
    | none => (s, [])
    | some p =>
      let next := monitorStep answers unlinked s.marker p
      ({ s with marker := next.1, process := next.2.1 }, next.2.2)
  | .crash => ({ s with process := none }, [])

/-- The device before its first launch, with or without a marker left behind. -/
def boot (marker : Bool) : System := ⟨marker, 0, none⟩

namespace Event

def launch : Event → ℕ
  | loaded n | ready n _ | serving n _ => n

def IsLoad (e : Event) : Prop := ∃ n, e = loaded n

instance : DecidablePred IsLoad
  | loaded n => .isTrue ⟨n, rfl⟩
  | ready _ _ | serving _ _ => .isFalse nofun

def IsReady (e : Event) : Prop := ∃ n state, e = ready n state ∧ state.ready = true

/-- Launches follow one another, and a load comes first in its launch. -/
def Before (a b : Event) : Prop := a.launch ≤ b.launch ∧ (b.IsLoad → a.launch < b.launch)

end Event

/-! ## The invariant -/

namespace MainCounter

/-- The main thread has neither loaded the router nor given it up. -/
def approaching : MainCounter → Bool
  | unsetMode | loadService | instantiate | serving => false
  | _ => true

def ownsMarker : MainCounter → Bool
  | writeMarker _ | syncMarker _ | withdrawMarker | setMode _ | loadRouter => true
  | _ => false

/-- The environment is final and the camera service not yet running. -/
def starting : MainCounter → Bool
  | loadService | instantiate => true
  | _ => false

end MainCounter

/-- What holds of a running launch after the events `h`. A load in `h` is open as long as no ready
state follows it. -/
structure Process.Sound (h : List Event) (marker : Bool) (p : Process) : Prop where
  /-- A process that has not loaded the router has no monitor and no events. -/
  fresh : p.main.approaching = true → p.monitor = .absent ∧ ∀ e ∈ h, e.launch < p.launch
  /-- A marker that the process created proves that no load is open. -/
  owned : p.main.ownsMarker = true → marker = true ∧ ¬ Open Event.IsLoad Event.IsReady h
  /-- A ready state that is stored has closed every load. -/
  closed : ∀ state, p.monitor = .stored state → state.ready = true →
    ¬ Open Event.IsLoad Event.IsReady h
  clean : p.main.starting = true → p.routerMode = none ∨ .loaded p.launch ∈ h

/-- The invariant of the system after the events `h`. -/
structure Guarded (h : List Event) (s : System) : Prop where
  separated : Machine.Separated Event.IsLoad Event.IsReady h
  ordered : h.Pairwise Event.Before
  served : ∀ n mode, .serving n mode ∈ h → mode = none ∨ .loaded n ∈ h
  /-- A load that no ready state followed has left its marker. -/
  marked : Open Event.IsLoad Event.IsReady h → s.marker = true
  numbered : ∀ e ∈ h, e.launch < s.launches
  current : ∀ p, s.process = some p → p.launch + 1 = s.launches ∧ p.Sound h s.marker

section Steps

variable {h : List Event} {marker : Bool} {launches : ℕ} {p : Process}

theorem Process.Sound.goto (hp : p.Sound h marker) (next : MainCounter)
    (hap : next.approaching = true → p.main.approaching = true)
    (hown : next.ownsMarker = true → p.main.ownsMarker = true)
    (hst : next.starting = true → p.main.starting = true) :
    Process.Sound h marker { p with main := next } where
  fresh := fun ha => hp.fresh (hap ha)
  owned := fun ho => hp.owned (hown ho)
  closed := hp.closed
  clean := fun hs => hp.clean (hst hs)

theorem open_of_serving {n : ℕ} {mode : Option Text}
    (ho : Open Event.IsLoad Event.IsReady (h ++ [.serving n mode])) :
    Open Event.IsLoad Event.IsReady h := by
  rcases open_snoc ho with ⟨_, hl⟩ | ⟨-, ho⟩
  · cases hl
  · exact ho

theorem not_open_of_ready {n : ℕ} {s : RouterState} (hs : s.ready = true) :
    ¬ Open Event.IsLoad Event.IsReady (h ++ [.ready n s]) := by
  intro ho
  rcases open_snoc ho with ⟨_, hl⟩ | ⟨hr, -⟩
  · cases hl
  · exact hr ⟨n, s, rfl, hs⟩

variable (hg : Guarded h ⟨marker, launches, some p⟩)

include hg

theorem Guarded.silent {m' : Bool} {q : Option Process}
    (hm : Open Event.IsLoad Event.IsReady h → m' = true)
    (hq : ∀ r, q = some r → r.launch = p.launch ∧ r.Sound h m') :
    Guarded (h ++ []) ⟨m', launches, q⟩ := by
  rw [append_nil]
  refine ⟨hg.separated, hg.ordered, hg.served, hm, hg.numbered, fun r hr => ?_⟩
  obtain ⟨hl, hs⟩ := hq r hr
  exact ⟨hl ▸ (hg.current p rfl).1, hs⟩

theorem Guarded.goto (next : MainCounter)
    (ha : next.approaching = true → p.main.approaching = true)
    (ho : next.ownsMarker = true → p.main.ownsMarker = true)
    (hs : next.starting = true → p.main.starting = true) :
    Guarded (h ++ []) ⟨marker, launches, some { p with main := next }⟩ := by
  refine hg.silent hg.marked fun r hr => ?_
  obtain rfl := some.inj hr
  exact ⟨rfl, (hg.current p rfl).2.goto next ha ho hs⟩

theorem Guarded.giveUp :
    Guarded (h ++ []) ⟨marker, launches, some { p with main := .unsetMode }⟩ :=
  hg.goto .unsetMode nofun nofun nofun

theorem Guarded.emit {m' : Bool} {q : Process} {e : Event} (he : e.launch = p.launch)
    (hlo : e.IsLoad →
      ¬ Open Event.IsLoad Event.IsReady h ∧ ∀ x ∈ h, x.launch < p.launch)
    (hs : ∀ n mode, e = .serving n mode → mode = none ∨ .loaded n ∈ h)
    (hma : Open Event.IsLoad Event.IsReady (h ++ [e]) → m' = true)
    (hla : q.launch = p.launch) (hq : q.Sound (h ++ [e]) m') :
    Guarded (h ++ [e]) ⟨m', launches, some q⟩ := by
  obtain ⟨hc, -⟩ := hg.current p rfl
  have hle : ∀ x ∈ h, x.launch ≤ p.launch := by
    intro x hx
    have := hg.numbered x hx
    simp only at this hc
    omega
  refine ⟨hg.separated.snoc fun hl => (hlo hl).1, ?_, ?_, hma, ?_, fun r hr => ?_⟩
  · refine pairwise_append.mpr ⟨hg.ordered, pairwise_singleton _ _, ?_⟩
    intro x hx y hy
    obtain rfl : y = e := by simpa using hy
    exact ⟨he ▸ hle x hx, fun hl => he ▸ (hlo hl).2 x hx⟩
  · intro n mode hm
    rcases mem_append.mp hm with hm | hm
    · exact (hg.served n mode hm).imp_right fun hl => mem_append_left _ hl
    · have hev : e = .serving n mode := (mem_singleton.mp hm).symm
      exact (hs n mode hev).imp_right fun hl => mem_append_left _ hl
  · intro x hx
    rcases mem_append.mp hx with hx | hx
    · exact hg.numbered x hx
    · obtain rfl : x = e := by simpa using hx
      simp only at hc ⊢
      omega
  · obtain rfl := some.inj hr
    exact ⟨hla ▸ hc, hq⟩

theorem Guarded.load (hma : p.main = .loadRouter)
    {monitor : MonitorCounter} (hm : ∀ state, monitor = .stored state → state.ready = false) :
    Guarded (h ++ [.loaded p.launch])
      ⟨marker, launches, some { p with main := .loadService, monitor := monitor }⟩ := by
  obtain ⟨-, hp⟩ := hg.current p rfl
  obtain ⟨hmr, ho⟩ := hp.owned (by rw [hma]; rfl)
  obtain ⟨-, hf⟩ := hp.fresh (by rw [hma]; rfl)
  refine hg.emit rfl (fun _ => ⟨ho, hf⟩) nofun (fun _ => hmr) rfl ?_
  refine ⟨nofun, nofun, fun state hs hr => ?_, fun _ => .inr (by simp)⟩
  rw [hm state hs] at hr
  cases hr

theorem Guarded.serve (hm : p.main = .instantiate) :
    Guarded (h ++ [.serving p.launch p.routerMode])
      ⟨marker, launches, some { p with main := .serving }⟩ := by
  obtain ⟨-, hp⟩ := hg.current p rfl
  refine hg.emit rfl nofun ?_ (fun ho => hg.marked (open_of_serving ho)) rfl ?_
  · intro n mode he
    cases he
    exact hp.clean (by rw [hm]; rfl)
  · exact ⟨nofun, nofun, fun state hs hr ho =>
      hp.closed state hs hr (open_of_serving ho), nofun⟩

/-- **Every system call of the main thread keeps the invariant.** -/
theorem mainStep_guarded (a : LauncherAnswers) :
    Guarded (h ++ (mainStep a marker p).2.2)
      ⟨(mainStep a marker p).1, launches, (mainStep a marker p).2.1⟩ := by
  obtain ⟨-, hp⟩ := hg.current p rfl
  have hs : Guarded (h ++ []) ⟨marker, launches, none⟩ := hg.silent hg.marked nofun
  obtain ⟨launch, main, monitor, routerMode⟩ := p
  cases main with
  | readMode =>
    simp only [mainStep]
    split
    · exact hg.giveUp
    · exact hg.giveUp
    · exact hg.goto _ (fun _ => rfl) nofun nofun
  | checkDomain mode | checkLibrary mode =>
    simp only [mainStep]
    split_ifs
    · exact hg.goto _ (fun _ => rfl) nofun nofun
    · exact hg.giveUp
  | createMarker mode =>
    simp only [mainStep]
    split_ifs with hm
    · exact hg.giveUp
    · -- There was no marker, so no load is open.
      have hope : ¬ Open Event.IsLoad Event.IsReady h := fun ho =>
        hm (.inl (hg.marked ho))
      refine hg.silent (fun _ => rfl) fun r hr => ?_
      obtain rfl := some.inj hr
      exact ⟨rfl, fun _ => hp.fresh rfl, fun _ => ⟨rfl, hope⟩, hp.closed, nofun⟩
  | writeMarker mode | syncMarker mode =>
    simp only [mainStep]
    split_ifs <;> exact hg.goto _ (fun _ => rfl) (fun _ => rfl) nofun
  | withdrawMarker =>
    obtain ⟨-, hope⟩ := hp.owned rfl
    refine hg.silent (fun ho => absurd ho hope) fun r hr => ?_
    obtain rfl := some.inj hr
    exact ⟨rfl, nofun, nofun, hp.closed, nofun⟩
  | setMode mode =>
    simp only [mainStep]
    split_ifs
    · refine hg.silent hg.marked fun r hr => ?_
      obtain rfl := some.inj hr
      exact ⟨rfl, fun _ => hp.fresh rfl, fun _ => hp.owned rfl, hp.closed, nofun⟩
    · exact hg.giveUp
  | loadRouter =>
    simp only [mainStep]
    split_ifs
    · exact hg.load rfl nofun
    · -- The only state stored here is the failure to start the thread.
      refine hg.load rfl fun state hst => ?_
      cases hst
      rfl
    · exact hg.giveUp
  | unsetMode =>
    refine hg.silent hg.marked fun r hr => ?_
    obtain rfl := some.inj hr
    exact ⟨rfl, nofun, nofun, hp.closed, fun _ => .inl rfl⟩
  | loadService =>
    simp only [mainStep]
    split_ifs
    · exact hg.goto _ nofun nofun (fun _ => rfl)
    · exact hs
  | instantiate => exact hg.serve rfl
  | serving => exact hs

/-- **The monitor thread keeps the invariant**: it removes the marker only when its launch has
closed every load. -/
theorem monitorStep_guarded (a : MonitorAnswers) (u : Bool) :
    Guarded (h ++ (monitorStep a u marker p).2.2)
      ⟨(monitorStep a u marker p).1, launches,
        (monitorStep a u marker p).2.1⟩ := by
  obtain ⟨-, hp⟩ := hg.current p rfl
  -- A process with a monitor has loaded the router.
  have hlo : p.monitor ≠ .absent → ¬ p.main.approaching = true := fun hm ha =>
    hm (hp.fresh ha).1
  have hown : p.main.ownsMarker = true → p.main.approaching = true := by
    cases p.main <;> first | exact fun _ => rfl | exact nofun
  cases hm : p.monitor with
  | absent | finished =>
    simp only [monitorStep, hm]
    refine hg.silent hg.marked fun r hr => ?_
    obtain rfl := some.inj hr
    exact ⟨rfl, hp⟩
  | running =>
    have hap := hlo (by rw [hm]; nofun)
    simp only [monitorStep, hm]
    split_ifs with hre
    · refine hg.emit rfl nofun nofun (fun ho => absurd ho (not_open_of_ready hre)) rfl ?_
      exact ⟨fun ha => absurd ha hap, fun ho => absurd (hown ho) hap,
        fun _ _ _ => not_open_of_ready hre,
        fun hs => (hp.clean hs).imp_right fun hl => mem_append_left _ hl⟩
    · refine hg.silent hg.marked fun r hr => ?_
      obtain rfl := some.inj hr
      refine ⟨rfl, fun ha => absurd ha hap, fun ho => absurd (hown ho) hap, ?_,
        hp.clean⟩
      intro state hst hs
      cases hst
      exact absurd hs hre
  | stored state =>
    have hap := hlo (by rw [hm]; nofun)
    simp only [monitorStep, hm]
    refine hg.silent (fun ho => ?_) fun r hr => ?_
    · -- With an open load the stored state is not a ready one.
      have hnot : state.ready = false := by
        by_contra hs
        exact hp.closed state hm (by simpa using hs) ho
      simpa [hnot] using hg.marked ho
    · obtain rfl := some.inj hr
      exact ⟨rfl, fun ha => absurd ha hap, fun ho => absurd (hown ho) hap, nofun,
        hp.clean⟩

end Steps

theorem guarded_boot (m : Bool) : Guarded [] (boot m) where
  separated := separated_nil
  ordered := .nil
  served := by simp
  marked := fun h => absurd h not_open_nil
  numbered := by simp
  current := by simp [boot]

theorem step_guarded (h : List Event) (s : System) (a : Action) (hg : Guarded h s) :
    Guarded (h ++ (step s a).2) (step s a).1 := by
  obtain ⟨marker, launches, process⟩ := s
  cases a with
  | launch routerMode =>
    cases process with
    | some p => simpa [step] using hg
    | none =>
      -- Every event so far is of an earlier launch.
      have hn : ∀ e ∈ h, e.launch < launches := hg.numbered
      simp only [step, append_nil]
      refine ⟨hg.separated, hg.ordered, hg.served, hg.marked,
        fun e he => Nat.lt_succ_of_lt (hn e he), fun p hp => ?_⟩
      obtain rfl := some.inj hp
      exact ⟨rfl, fun _ => ⟨rfl, hn⟩, nofun, nofun, nofun⟩
  | main answers =>
    cases process with
    | none => simpa [step] using hg
    | some p => exact mainStep_guarded hg answers
  | monitor answers unlinked =>
    cases process with
    | none => simpa [step] using hg
    | some p => exact monitorStep_guarded hg answers unlinked
  | crash =>
    simp only [step, append_nil]
    exact ⟨hg.separated, hg.ordered, hg.served, hg.marked, hg.numbered, nofun⟩

/-- **The invariant holds after every run.** -/
theorem guarded_run (m : Bool) (a : List Action) :
    Guarded (run step (boot m) a).2
      (run step (boot m) a).1 := by
  have hrun := run_history step step_guarded a (guarded_boot m)
  rwa [nil_append] at hrun

/-- In a guarded history an earlier load stands before a later one, with a ready state of a launch
from the first to before the second between them. -/
theorem Guarded.ready_between {h : List Event} {s : System} (hg : Guarded h s) {m n : ℕ}
    (hmn : m < n) (hm : .loaded m ∈ h) (hn : .loaded n ∈ h) :
    ∃ k state, m ≤ k ∧ k < n ∧ state.ready = true ∧ .ready k state ∈ h := by
  obtain ⟨front, post, rfl⟩ := append_of_mem hn
  obtain ⟨-, ht, hc⟩ := pairwise_append.mp hg.ordered
  -- The load of the later launch is no earlier event of the history.
  have hf : Event.loaded m ∈ front := by
    rcases mem_append.mp hm with hm | hm
    · exact hm
    · rcases mem_cons.mp hm with he | hm
      · cases he
        exact absurd hmn (lt_irrefl _)
      · have hb := (pairwise_cons.mp ht).1 _ hm
        exact absurd hmn (not_lt.mpr hb.1)
  obtain ⟨pre, mid, rfl⟩ := append_of_mem hf
  obtain ⟨x, hx, k, state, rfl, hr⟩ :=
    hg.separated pre (.loaded m) mid (.loaded n) post (by simp) ⟨m, rfl⟩ ⟨n, rfl⟩
  have ha : Event.Before (.loaded m) (.ready k state) := by
    obtain ⟨-, hco, -⟩ := pairwise_append.mp (pairwise_append.mp hg.ordered).1
    exact (pairwise_cons.mp hco).1 _ hx
  have hb : Event.Before (.ready k state) (.loaded n) :=
    hc _ (by simp [hx]) _ mem_cons_self
  exact ⟨k, state, ha.1, hb.2 ⟨n, rfl⟩, hr, by simp [hx]⟩

/-- **The boot-loop guard.** Along every run of launches, threads, failing calls and crashes, of two
launches that load the router the earlier one, or one in between, has become ready; a router that
never becomes ready is loaded once; and a launch that serves without having loaded the router does
so without `VCAM_BINDER_ROUTER_MODE`. -/
theorem bootLoop_guard (marker : Bool) (actions : List Action) :
    let events := (run step (boot marker) actions).2
    (∀ m n, m < n → .loaded m ∈ events → .loaded n ∈ events →
        ∃ k state, m ≤ k ∧ k < n ∧ state.ready = true ∧ .ready k state ∈ events) ∧
      ((∀ k state, state.ready = true → .ready k state ∉ events) →
        events.countP (fun e => e.IsLoad) ≤ 1) ∧
      ∀ n mode, .serving n mode ∈ events → .loaded n ∉ events → mode = none := by
  have hg := guarded_run marker actions
  refine ⟨fun m n hmn hm hn => hg.ready_between hmn hm hn, fun hne => ?_, ?_⟩
  · refine hg.separated.countP_le_one fun e he hr => ?_
    obtain ⟨k, state, rfl, hs⟩ := hr
    exact hne k state hs he
  · intro n mode hse hl
    exact (hg.served n mode hse).resolve_right hl

/-- A launch on which every call succeeds and `bootstrap.mode` is `preflight`. -/
def preflightAnswers : LauncherAnswers where
  modeFile := some ⟨true, 10, some "preflight\n"⟩
  domain := some "u:r:cameraserver:s0"
  libraryReadable := true
  markerCreated := true
  markerWritten := true
  markerSynced := true
  markerUnlinked := true
  modeSet := true
  routerOpened := true
  threadStarted := true
  serviceResolved := true

/-- A platform that publishes a local camera service at once. -/
def publishedAnswers : MonitorAnswers where
  managerPresent := true
  checkService := fun _ => some ⟨true, cameraServiceDescriptor⟩
  sdkProperty := "34"
  fingerprint := aosp14AvdFingerprint
  addService := true
  routerObserved := true

def loadActions : List Action := .launch none :: replicate 8 (.main preflightAnswers)

/-- A launch becomes ready, removes the marker and crashes; the next one loads the router again. -/
def reloadActions : List Action :=
  loadActions ++ [.monitor publishedAnswers true, .monitor publishedAnswers true, .crash] ++
    loadActions

theorem bootLoop_guard_reload :
    (run step (boot false) reloadActions).2 =
        [.loaded 0, .ready 0 .preflightReady, .loaded 1] ∧
      ∃ k state, 0 ≤ k ∧ k < 1 ∧ state.ready = true ∧
        .ready k state ∈ (run step (boot false) reloadActions).2 := by
  have he : (run step (boot false) reloadActions).2 =
      [.loaded 0, .ready 0 .preflightReady, .loaded 1] := by decide +kernel
  refine ⟨he, (bootLoop_guard false reloadActions).1 0 1 one_pos ?_ ?_⟩ <;>
    simp [he]

/-! ## The way to routing -/

/-- The calls before the router is loaded in mode `physical-route`, with the answers that pass. -/
def gates : List (MainCounter × (LauncherAnswers → Bool)) :=
  [(.readMode, fun a => readBootstrapMode a.modeFile == .physicalRoute),
    (.checkDomain .physicalRoute, fun a => isCameraServerDomain a.domain),
    (.checkLibrary .physicalRoute, (·.libraryReadable)),
    (.createMarker .physicalRoute, (·.markerCreated)),
    (.writeMarker .physicalRoute, (·.markerWritten)),
    (.syncMarker .physicalRoute, (·.markerSynced)), (.setMode .physicalRoute, (·.modeSet))]

/-- The number of gates behind a process. -/
def Process.passed (p : Process) : ℕ :=
  if (p.main = .loadRouter ∨ p.monitor = .running) ∧
    p.routerMode = some (routerModeText .physicalRoute) then gates.length
  else (gates.findIdx? (·.1 == p.main)).getD 0

/-- Launch `n` does not pass a gate in this step. -/
def refused (n : ℕ) (gate : MainCounter × (LauncherAnswers → Bool)) (s : System) : Action → Bool
  | .main answers => s.process.all fun p => !(p.launch == n && p.main == gate.1 && gate.2 answers)
  | _ => true

variable {p q : Process} {marker : Bool}

theorem passed_mainStep {a : LauncherAnswers} (hf : p.main.approaching = true → p.monitor = .absent)
    (h : (mainStep a marker p).2.1 = some q) : q.launch = p.launch ∧ (q.passed ≤ p.passed ∨
      q.passed = p.passed + 1 ∧ ∃ g, gates[p.passed]? = some g ∧ p.main = g.1 ∧ g.2 a = true) := by
  obtain ⟨n, main, monitor, rm⟩ := p
  cases main with
  | readMode =>
    obtain rfl := hf rfl
    simp only [mainStep] at h
    split at h <;> cases h <;> simp [Process.passed, gates, findIdx?_cons]
    cases readBootstrapMode a.modeFile <;> simp
  | checkDomain mode | checkLibrary mode | createMarker mode | writeMarker mode
  | syncMarker mode | setMode mode =>
    obtain rfl := hf rfl
    simp only [mainStep] at h
    split_ifs at h <;> cases h <;> cases mode <;>
      simp_all +decide [Process.passed, gates, findIdx?_cons]
  | loadRouter =>
    obtain rfl := hf rfl
    simp only [mainStep] at h
    split_ifs at h <;> cases h <;>
      simp [Process.passed, gates, findIdx?_cons]
  | withdrawMarker | unsetMode | instantiate =>
    cases h
    simp [Process.passed, gates, findIdx?_cons]
  | loadService =>
    simp only [mainStep] at h
    split_ifs at h
    cases h
    simp [Process.passed, gates, findIdx?_cons]
  | serving => cases h

theorem passed_monitorStep {a : MonitorAnswers} {u : Bool}
    (h : (monitorStep a u marker p).2.1 = some q) :
    q.launch = p.launch ∧ q.passed ≤ p.passed := by
  obtain ⟨n, main, monitor, rm⟩ := p
  have hle : (gates.findIdx? (·.1 == main)).getD 0 ≤ gates.length := by
    cases hi : gates.findIdx? (·.1 == main) with
    | none => exact Nat.zero_le _
    | some i => exact (findIdx?_eq_some_iff_getElem.mp hi).1.le
  cases monitor <;> cases h <;> refine ⟨rfl, ?_⟩ <;>
    simp only [Process.passed] <;> split_ifs <;> simp_all

theorem passed_of_ready {a : MonitorAnswers} {u : Bool} {n : ℕ}
    (h : .ready n .physicalRouteReady ∈ (monitorStep a u marker p).2.2) :
    p.launch = n ∧ p.passed = gates.length := by
  obtain ⟨launch, main, monitor, rm⟩ := p
  cases monitor with
  | running =>
    simp only [monitorStep, mem_ite_nil_right, mem_singleton, Event.ready.injEq] at h
    obtain ⟨-, rfl, hm⟩ := h
    obtain ⟨rfl, -⟩ := routerMonitor_physicalRouteReady hm.symm
    exact ⟨rfl, if_pos ⟨.inr rfl, rfl⟩⟩
  | absent | finished | stored => cases h

theorem not_ready_mainStep (a : LauncherAnswers) (n : ℕ) (s : RouterState) :
    .ready n s ∉ (mainStep a marker p).2.2 := by
  rw [mainStep]
  split <;> (try dsimp only) <;> (try split_ifs) <;> (try split) <;> simp

/-- **No launch routes before it has passed every gate**, whatever its environment holds and however
often earlier launches have passed. -/
theorem gate_before_routing {gate : MainCounter × (LauncherAnswers → Bool)} (hg : gate ∈ gates)
    (marker : Bool) (n : ℕ) (actions : List Action)
    (hrefused : Machine.Along step (fun s a => refused n gate s a = true) (boot marker) actions) :
    .ready n .physicalRouteReady ∉ (run step (boot marker) actions).2 := by
  obtain ⟨k, hk⟩ := mem_iff_getElem?.mp hg
  have hlt : k < gates.length := (List.getElem?_eq_some_iff.mp hk).1
  -- a launch stays in front of the gate that refuses it
  refine (run_history_along step (P := fun h s => Guarded h s ∧
    (∀ p, s.process = some p → p.launch = n → p.passed ≤ k) ∧ .ready n .physicalRouteReady ∉ h)
    ?_ actions [] (boot marker) hrefused ⟨guarded_boot marker, fun p hp => (by cases hp), by simp⟩).2.2
  rintro h s a ⟨hgu, hle, hr⟩ ha
  refine ⟨step_guarded h s a hgu, ?_⟩
  rw [mem_append, not_or]
  cases hp : s.process with
  | none =>
    cases a <;> simp only [step, hp]
    · refine ⟨fun q hq _ => ?_, hr, not_mem_nil⟩
      cases hq
      exact Nat.zero_le _
    all_goals simpa [hp] using hr
  | some p =>
    cases a with
    | launch rm => simpa [step, hp] using ⟨hle p hp, hr⟩
    | main answers =>
      simp only [step, hp]
      refine ⟨fun q hq hn => ?_, hr, not_ready_mainStep _ _ _⟩
      obtain ⟨hl, hc⟩ := passed_mainStep (fun h => ((hgu.current p hp).2.fresh h).1) hq
      have hpk := hle p hp (hl ▸ hn)
      rcases hc with hc | ⟨hc, g, hg, hm, hga⟩
      · exact hc.trans hpk
      · rcases hpk.lt_or_eq with hlt | rfl
        · exact hc ▸ hlt
        · cases hg.symm.trans hk
          simp [refused, hp, hl ▸ hn, hm, hga] at ha
    | monitor answers u =>
      simp only [step, hp]
      refine ⟨fun q hq hn => ?_, hr, fun he => ?_⟩
      · obtain ⟨hl, hc⟩ := passed_monitorStep hq
        exact hc.trans (hle p hp (hl ▸ hn))
      · obtain ⟨hl, hpa⟩ := passed_of_ready he
        exact absurd (hpa ▸ hle p hp hl) (not_le.mpr hlt)
    | crash => simpa [step] using hr

/-- Only the environment asks for routing. -/
theorem gate_before_routing_preflight : .ready 0 .physicalRouteReady ∉ (run step
    (boot false) (.launch (some "physical-route") :: reloadActions)).2 :=
  gate_before_routing mem_cons_self false 0 _ (by decide +kernel)

end Launcher

end Vcam
