import AndroidVcam.Runtime.PatchMemory

/-!
# The order of the calls of a patch transaction

No assumption is made about the answers of the backend: a read may return any bytes.

* `ordered_of_window`: a method with a window is ordered when its part is;
* **`ordered_of_calls`**: so is every call of a method.
-/

namespace Vcam.Runtime

open Dialogue Dialogue.Program List

namespace Transaction

/-- The methods called on a fresh transaction with their calls of the backend, and the state. -/
inductive Calls (tx : Transaction) : List (Method × List PatchEvent) → PatchInstallState → Prop
  | start : Calls tx [] .empty
  | call {calls : List (Method × List PatchEvent)} {state : PatchInstallState} (method : Method)
      {events : List PatchEvent} {outcome : Outcome} (h : Calls tx calls state)
      (hpath : (method.program tx state).Path events outcome) :
      Calls tx (calls ++ [(method, events)]) outcome.2

variable (tx : Transaction)

def WritesTarget (event : PatchEvent) : Prop := ∃ bytes, event.request = .write tx.targetAddress bytes

def readied : List PatchEvent :=
  match tx.precompiled with
  | some _ => [⟨.bind tx.plan.resumeAddress, true⟩]
  | none => [⟨.write tx.trampolineAddress tx.plan.trampoline, true⟩,
      ⟨.sync tx.trampolineAddress tx.plan.trampoline.length, true⟩]

/-- What a write may address when these calls were made before it. -/
def Addressed (method : Method) (before : List PatchEvent) (address : UInt64) (bytes : Bytes) :
    Prop :=
  (address = tx.targetAddress ∧ bytes.length = kOverwriteSize) ∨
    (method = .commit ∧ address = tx.trampolineAddress ∧
      bytes.length = tx.plan.trampoline.length ∧ ∀ event ∈ before, ¬ tx.WritesTarget event)

/-- The order of the backend's calls in one call of a method. -/
structure Ordered (method : Method) (events : List PatchEvent) : Prop where
  /-- A write stands between a successful enter and the first leave behind it. -/
  inside : Throughout (fun before event after => ∀ address bytes,
    event.request = .write address bytes →
      (∃ outside inside, before = outside ++ ⟨.enter, true⟩ :: inside ∧
        ∀ event ∈ inside, event.request ≠ .leave) ∧
      ∃ event ∈ after, event.request = .leave) events
  addressed : Throughout (fun before event _ => ∀ address bytes,
    event.request = .write address bytes → tx.Addressed method before address bytes) events
  /-- The first write to the target in `commit` comes behind a read of the original bytes, the
  trampoline and its publication. -/
  first : method = .commit → Throughout (fun before event _ => tx.WritesTarget event →
    (∀ event ∈ before, ¬ tx.WritesTarget event) →
      before = [⟨.enter, true⟩,
          ⟨.read tx.targetAddress tx.plan.overwriteSize, some tx.plan.originalBytes⟩] ++
        tx.readied ++ [⟨.publish tx.trampolineAddress, true⟩]) events
  /-- A window that was entered is left once, or twice when the first attempt fails. -/
  left : Throughout (fun _ event after => event = ⟨.enter, true⟩ →
    after.filter (fun event => event.request = .leave) = [⟨.leave, true⟩] ∨
      ∃ second, after.filter (fun event => event.request = .leave) =
        [⟨.leave, false⟩, ⟨.leave, second⟩]) events
  entered : Throughout (fun before event _ => event.request = .leave → ⟨.enter, true⟩ ∈ before) events

variable {tx} {method : Method} {events body : List PatchEvent} {status : PatchInstallStatus}
  {state b : PatchInstallState}

/-! ## The window -/

inductive Leaves : List PatchEvent → Prop
  | once : Leaves [⟨.leave, true⟩]
  | twice (second : Bool) : Leaves [⟨.leave, false⟩, ⟨.leave, second⟩]

theorem Leaves.request {l : List PatchEvent} (h : Leaves l) :
    ∀ event ∈ l, event.request = .leave := by
  cases h <;> simp

theorem ordered_of_window {l : List PatchEvent} (hl : Leaves l)
    (hq : ∀ event ∈ body, event.request ≠ .enter ∧ event.request ≠ .leave)
    (ha : Throughout (fun b event _ => ∀ address bytes,
      event.request = .write address bytes → tx.Addressed method b address bytes) body)
    (hf : method = .commit → Throughout (fun b event _ => tx.WritesTarget event →
      (∀ event ∈ b, ¬ tx.WritesTarget event) →
        b = ⟨.read tx.targetAddress tx.plan.overwriteSize, some tx.plan.originalBytes⟩ ::
          (tx.readied ++ [⟨.publish tx.trampolineAddress, true⟩])) body) :
    tx.Ordered method (⟨.enter, true⟩ :: (body ++ l)) := by
  have hw {event : PatchEvent} (he : event ∈ l) (address : UInt64) (bytes : Bytes) :
      event.request ≠ .write address bytes := by
    rw [hl.request event he]
    nofun
  have hen : ¬ tx.WritesTarget ⟨.enter, true⟩ := by
    rintro ⟨bytes, h⟩
    cases h
  constructor
  case inside =>
    refine throughout_cons.mpr ⟨nofun, throughout_append.mpr ⟨?_, ?_⟩⟩
    · rintro inside event after rfl address bytes -
      refine ⟨⟨[], inside, rfl, fun other ho => (hq other (by simp [ho])).2⟩, ?_⟩
      cases hl <;> exact ⟨_, mem_append_right _ mem_cons_self, rfl⟩
    · exact throughout_of_forall fun event he _ _ address bytes h =>
        absurd h (hw he address bytes)
  case addressed =>
    refine throughout_cons.mpr ⟨nofun, throughout_append.mpr ⟨?_, ?_⟩⟩
    · refine ha.imp fun inside event after _ h address bytes hr => ?_
      obtain ht | ⟨hc, had, hle, hn⟩ := h address bytes hr
      · exact .inl ht
      · refine .inr ⟨hc, had, hle, ?_⟩
        exact forall_mem_cons.mpr ⟨hen, hn⟩
    · exact throughout_of_forall fun event he _ _ address bytes h =>
        absurd h (hw he address bytes)
  case first =>
    intro hc
    refine throughout_cons.mpr ⟨fun h => absurd h hen, throughout_append.mpr ⟨?_, ?_⟩⟩
    · refine (hf hc).imp fun inside event after _ h ht hn => ?_
      rw [h ht (forall_mem_cons.mp hn).2]
      rfl
    · refine throughout_of_forall fun event he _ _ ht => ?_
      obtain ⟨bytes, h⟩ := ht
      exact absurd h (hw he _ bytes)
  case left =>
    refine throughout_cons.mpr ⟨fun _ => ?_, throughout_append.mpr ⟨?_, ?_⟩⟩
    · have hb : body.filter (fun event => event.request = .leave) = [] :=
        filter_eq_nil_iff.mpr fun event he => by simp [(hq event he).2]
      rw [filter_append, hb]
      cases hl with
      | once => exact .inl rfl
      | twice second => exact .inr ⟨second, rfl⟩
    · refine throughout_of_forall fun event he _ _ h => ?_
      exact absurd (congrArg Event.request h) (hq event he).1
    · refine throughout_of_forall fun event he _ _ h => ?_
      have hr := hl.request event he
      rw [h] at hr
      cases hr
  case entered =>
    refine throughout_cons.mpr ⟨nofun, ?_⟩
    exact fun _ _ _ _ _ => mem_cons_self

/-! ## The parts inside -/

theorem trampoline_ne_target (hf : tx.Fits) (hn : tx.precompiled = none) :
    tx.trampolineAddress ≠ tx.targetAddress := by
  intro h
  have ha := hf.apart hn
  rw [hf.trampoline, h, kOverwriteSize] at ha
  omega

theorem readied_of_stages (h : tx.Stages events none) : events = tx.readied := by
  cases h with
  | bound hs => rw [readied, hs]
  | written hn => rw [readied, hn]

variable {f : Option PatchInstallStatus}

theorem not_writesTarget_of_stages (hf : tx.Fits)
    (h : tx.Stages events f) : ∀ event ∈ events, ¬ tx.WritesTarget event := by
  cases h with
  | unbound | bound => simp [WritesTarget]
  | unwritten hn | unsynchronized hn | written hn =>
    simp [WritesTarget, trampoline_ne_target hf hn]

/-- The writes before the target is touched go to the trampoline. -/
theorem addressed_of_stages {past : List PatchEvent} (hf : tx.Fits)
    (h : tx.Stages events f) (hp : ∀ event ∈ past, ¬ tx.WritesTarget event) :
    Throughout (fun b event _ => ∀ address bytes, event.request = .write address bytes →
      tx.Addressed .commit (past ++ b) address bytes) events := by
  have hn := not_writesTarget_of_stages hf h
  rintro b event after rfl address bytes hr
  have hb : ∀ event ∈ past ++ b, ¬ tx.WritesTarget event := by
    intro other ho
    obtain ho | ho := mem_append.mp ho
    · exact hp other ho
    · exact hn other (by simp [ho])
  have he : event ∈ b ++ event :: after := by simp
  generalize b ++ event :: after = events at h he
  cases h with
  | unbound | bound =>
    obtain rfl := mem_singleton.mp he
    cases hr
  | unwritten =>
    obtain rfl := mem_singleton.mp he
    cases hr
    exact .inr ⟨rfl, rfl, rfl, hb⟩
  | unsynchronized | written =>
    obtain rfl | he := mem_cons.mp he
    · cases hr
      exact .inr ⟨rfl, rfl, rfl, hb⟩
    · obtain rfl := mem_singleton.mp he
      cases hr

variable (tx) in
/-- An event that is not about the window, and not a write elsewhere than to the target. -/
def AtTarget (event : PatchEvent) : Prop :=
  match event.request with
  | .write address bytes => address = tx.targetAddress ∧ bytes.length = kOverwriteSize
  | .enter | .leave => False
  | _ => True

theorem AtTarget.quiet {e : PatchEvent} (h : tx.AtTarget e) :
    e.request ≠ .enter ∧ e.request ≠ .leave := by
  unfold AtTarget at h
  refine ⟨fun hr => ?_, fun hr => ?_⟩ <;>
  · rw [hr] at h
    exact h

theorem AtTarget.addressed {e : PatchEvent} {past : List PatchEvent} {a : UInt64}
    {bytes : Bytes} (h : tx.AtTarget e) (hr : e.request = .write a bytes) :
    tx.Addressed method past a bytes := by
  unfold AtTarget at h
  rw [hr] at h
  exact .inl h

theorem atTarget_of_restores (hf : tx.Fits) (h : tx.Restores events status state) :
    ∀ event ∈ events, tx.AtTarget event := by
  cases h <;> simp [AtTarget, hf.original]

theorem atTarget_of_patches (hf : tx.Fits) (h : tx.Patches events status state) :
    ∀ event ∈ events, tx.AtTarget event := by
  cases h with
  | unpublished | patched => simp [AtTarget, hf.entry]
  | unwritten hr | unsynchronized hr =>
    simpa [AtTarget, hf.entry] using atTarget_of_restores hf hr

theorem atTarget_of_removes (hf : tx.Fits) (h : tx.Removes events status state) :
    ∀ event ∈ events, tx.AtTarget event := by
  cases h <;> simp [AtTarget, hf.original]

theorem quiet_of_stages (h : tx.Stages events f) :
    ∀ event ∈ events, event.request ≠ .enter ∧ event.request ≠ .leave := by
  cases h <;> simp

theorem first_of_patches (h : tx.Patches events status state) :
    Throughout (fun b event _ => tx.WritesTarget event →
      (∀ event ∈ b, ¬ tx.WritesTarget event) →
        b = [⟨.publish tx.trampolineAddress, true⟩]) events := by
  have hp (published : Bool) : ¬ tx.WritesTarget ⟨.publish tx.trampolineAddress, published⟩ := by
    rintro ⟨bytes, h⟩
    cases h
  -- Behind the entry patch there is no first write any more.
  have he {written : Bool} {rest : List PatchEvent} :
      Throughout (fun b event _ => tx.WritesTarget event →
        (∀ event ∈ b, ¬ tx.WritesTarget event) →
          b = [⟨.publish tx.trampolineAddress, true⟩])
        (⟨.publish tx.trampolineAddress, true⟩ ::
          ⟨.write tx.targetAddress tx.plan.entryPatch, written⟩ :: rest) := by
    refine throughout_cons.mpr ⟨fun h => absurd h (hp true), ?_⟩
    refine throughout_cons.mpr ⟨fun _ _ => rfl, ?_⟩
    intro b event after _ _ hn
    exact absurd ⟨tx.plan.entryPatch, rfl⟩ (hn ⟨.write tx.targetAddress _, written⟩ (by simp))
  cases h with
  | unpublished => exact throughout_cons.mpr ⟨fun h => absurd h (hp false), throughout_nil⟩
  | unwritten | unsynchronized | patched => exact he

theorem quiet_of_installs (hf : tx.Fits) (h : tx.Installs events status state) :
    ∀ event ∈ events, event.request ≠ .enter ∧ event.request ≠ .leave := by
  cases h with
  | unread | mismatch => simp
  | unstaged hs => simpa using quiet_of_stages hs
  | staged hr hp =>
    refine forall_mem_cons.mpr ⟨by simp, forall_mem_append.mpr ⟨quiet_of_stages hr, ?_⟩⟩
    exact fun event he => (atTarget_of_patches hf hp event he).quiet

theorem addressed_of_installs (hf : tx.Fits) (h : tx.Installs events status state) :
    Throughout (fun b event _ => ∀ address bytes, event.request = .write address bytes →
      tx.Addressed .commit b address bytes) events := by
  have hre (answer : Option Bytes) : ∀ event ∈ [(⟨.read tx.targetAddress
      tx.plan.overwriteSize, answer⟩ : PatchEvent)], ¬ tx.WritesTarget event := by
    simp [WritesTarget]
  cases h with
  | unread | mismatch => exact throughout_cons.mpr ⟨nofun, throughout_nil⟩
  | unstaged hs =>
    exact throughout_cons.mpr ⟨nofun, addressed_of_stages hf hs (hre _)⟩
  | staged hrd hp =>
    refine throughout_cons.mpr ⟨nofun, throughout_append.mpr ⟨?_, ?_⟩⟩
    · exact addressed_of_stages hf hrd (hre _)
    · exact throughout_of_forall fun event he _ _ address bytes hr =>
        (atTarget_of_patches hf hp event he).addressed hr

theorem first_of_installs (hf : tx.Fits) (h : tx.Installs events status state) :
    Throughout (fun b event _ => tx.WritesTarget event →
      (∀ event ∈ b, ¬ tx.WritesTarget event) →
        b = ⟨.read tx.targetAddress tx.plan.overwriteSize, some tx.plan.originalBytes⟩ ::
          (tx.readied ++ [⟨.publish tx.trampolineAddress, true⟩])) events := by
  have hr (answer : Option Bytes) :
      ¬ tx.WritesTarget ⟨.read tx.targetAddress tx.plan.overwriteSize, answer⟩ := by
    rintro ⟨bytes, h⟩
    cases h
  cases h with
  | unread | mismatch => exact throughout_cons.mpr ⟨fun h => absurd h (hr _), throughout_nil⟩
  | unstaged hs =>
    refine throughout_cons.mpr ⟨fun h => absurd h (hr _), ?_⟩
    exact throughout_of_forall fun event he _ _ h =>
      absurd h (not_writesTarget_of_stages hf hs event he)
  | staged hre hp =>
    refine throughout_cons.mpr ⟨fun h => absurd h (hr _), throughout_append.mpr ⟨?_, ?_⟩⟩
    · exact throughout_of_forall fun event he _ _ h =>
        absurd h (not_writesTarget_of_stages hf hre event he)
    · refine (first_of_patches hp).imp fun past event after _ h ht hn => ?_
      rw [← readied_of_stages hre,
        h ht fun other ho => hn other (by simp [ho])]

/-! ## Whole runs -/

/-- An event that neither opens the window nor writes. -/
inductive Idle : PatchEvent → Prop
  | read (address : UInt64) (size : ℕ) (answer : Option Bytes) :
      Idle ⟨.read address size, answer⟩
  | closed : Idle ⟨.enter, false⟩

theorem ordered_of_idle (h : ∀ event ∈ events, Idle event) : tx.Ordered method events where
  inside := throughout_of_forall fun event he _ _ address bytes hr => by
    cases h event he <;> cases hr
  addressed := throughout_of_forall fun event he _ _ address bytes hr => by
    cases h event he <;> cases hr
  first _ := throughout_of_forall fun event he _ _ ⟨bytes, hr⟩ => by
    cases h event he <;> cases hr
  left := throughout_of_forall fun event he _ _ hen => by
    cases h event he <;> cases hen
  entered := throughout_of_forall fun event he _ _ hl => by
    cases h event he <;> cases hl

theorem ordered_of_windowed
    {s : List PatchEvent → PatchInstallStatus → PatchInstallState → Prop}
    {n : PatchInstallState} (h : Windowed s n b events status state)
    (hs : ∀ {body status state leaves}, b = n → s body status state →
      Leaves leaves → tx.Ordered method (⟨.enter, true⟩ :: (body ++ leaves))) :
    tx.Ordered method events := by
  cases h with
  | refused => exact ordered_of_idle (by simp)
  | closed => exact ordered_of_idle (by simpa using .closed)
  | left hb hbo => exact hs hb hbo .once
  | stuck hb hbo => exact hs hb hbo (.twice _)

/-- **One call is ordered,** from a state whose plan was checked. -/
theorem ordered_of_path {o : Outcome}
    (hf : b = .prepared ∨ b = .committed → tx.Fits)
    (hpa : (method.program tx b).Path events o) : tx.Ordered method events := by
  cases method with
  | prepare =>
    have hp := (path_prepare hpa).1
    generalize o.1.status = status at hp
    generalize o.2 = state at hp
    cases hp with
    | refused | rejected => exact ordered_of_idle (by simp)
    | unread | mismatch | prepared => exact ordered_of_idle (by simpa using .read _ _ _)
  | commit =>
    refine ordered_of_windowed (path_commit hpa).1 fun hb hi hl => ?_
    have hf := hf (.inl hb)
    exact ordered_of_window hl (quiet_of_installs hf hi)
      (addressed_of_installs hf hi) fun _ => first_of_installs hf hi
  | rollback =>
    refine ordered_of_windowed (path_rollback hpa).1 fun hb hre hl => ?_
    have hin := atTarget_of_removes (hf (.inr hb)) hre
    refine ordered_of_window hl (fun event he => (hin event he).quiet) ?_ nofun
    exact throughout_of_forall fun event he _ _ address bytes hr =>
      (hin event he).addressed hr

theorem fits_of_path {o : Outcome}
    (hf : b = .prepared ∨ b = .committed → tx.Fits)
    (hpa : (method.program tx b).Path events o)
    (ha : o.2 = .prepared ∨ o.2 = .committed) : tx.Fits := by
  cases method with
  | prepare =>
    have hp := (path_prepare hpa).1
    generalize o.1.status = status at hp
    generalize o.2 = state at hp ha
    cases hp with
    | refused => exact hf ha
    | prepared _ hpl => exact fits_of_validPlan hpl
    | rejected | unread | mismatch => simp at ha
  | commit =>
    have hw := (path_commit hpa).1
    generalize o.1.status = status at hw
    generalize o.2 = state at hw ha
    cases hw with
    | refused => exact hf ha
    | closed hb | left hb | stuck hb => exact hf (.inl hb)
  | rollback =>
    have hw := (path_rollback hpa).1
    generalize o.1.status = status at hw
    generalize o.2 = state at hw ha
    cases hw with
    | refused => exact hf ha
    | closed hb | left hb | stuck hb => exact hf (.inr hb)

theorem fits_of_calls {c : List (Method × List PatchEvent)} (h : Calls tx c state)
    (hs : state = .prepared ∨ state = .committed) : tx.Fits := by
  induction h with
  | start => simp at hs
  | call method _ hp ih => exact fits_of_path ih hp hs

/-- **Whatever the backend answers, every call of a method keeps its calls in order.** -/
theorem ordered_of_calls {tx : Transaction} {calls : List (Method × List PatchEvent)}
    {state : PatchInstallState} (h : Calls tx calls state) :
    ∀ call ∈ calls, tx.Ordered call.1 call.2 := by
  induction h with
  | start => simp
  | call method hc hp ih =>
    refine forall_mem_append.mpr ⟨ih, ?_⟩
    simpa using ordered_of_path (fits_of_calls hc) hp

theorem ordered_of_calls_nopHook : nopHook.Ordered .commit commitNop.2 := by
  have hp : Calls nopHook [(.prepare, prepareNop.2)] .prepared :=
    (show prepareNop.1.2 = .prepared by decide +kernel) ▸ .call .prepare .start (path_run _ _ _)
  have hc := hp.call .commit (path_run (serving preparedMemory) [] _)
  exact ordered_of_calls hc _ mem_concat_self

end Transaction

end Vcam.Runtime
