import AndroidVcam.Hal.OemProxy

/-!
# Failed configurations of the OEM proxy

`selectPhysicalSource` closes the old device before it has a new one, and hands a success without a
device on as a success. A configuration that has to exchange the device therefore does harm as soon
as one of its OEM calls fails, and no other call does.

* `Step.Unharmed`: no null OEM device or ops table is used, and a failed configuration changes
  nothing;
* `Switches`, `Step.Replaces`: every configuration that exchanges the device succeeds all the way;
* **`unharmed_of_replaces`**: a run whose steps replace is a run whose steps do no harm, and the
  other way round when every device can be closed.
-/

namespace Vcam.OemProxy

open Dialogue Dialogue.Program TextFile RouteResolver List

/-! ## The property and the condition -/

/-- The device has an ops table without null pointers. -/
def Interface.Complete (interface : Interface) : Prop :=
  ∃ ops, interface.ops = some ops ∧ ∀ op, ops op = true

/-- The device of an OEM `open` is complete. -/
def HandsComplete : ProxyEvent → Prop
  | ⟨.openOem _, opened⟩ => ∀ interface, opened.device = some interface → interface.Complete
  | _ => True

/-- The device of an OEM `open` can be closed. -/
def HandsClosable : ProxyEvent → Prop
  | ⟨.openOem _, opened⟩ => ∀ interface, opened.device = some interface → interface.close = true
  | _ => True

def Succeeds : ProxyEvent → Prop
  | ⟨.openOem _, opened⟩ => opened.result = 0 ∧ opened.device ≠ none
  | ⟨.oem _ _ _, result⟩ => result = (0 : ℤ)
  | _ => True

/-- The step uses no null device and no null ops table, and when it is a configuration that fails,
the facade keeps its device, source and backend. -/
def Step.Unharmed (step : Step) : Prop :=
  step.outcome ≠ .error .nullDevice ∧ step.outcome ≠ .error .nullOps ∧
    ∀ device config result after state, step.method = .proxyConfigure device config →
      step.outcome = .ok (result, after) → result ≠ 0 →
      step.before.findDevice device = some state →
      ∃ state', after.findDevice device = some state' ∧ state'.physical = state.physical ∧
        state'.physicalSourceId = state.physicalSourceId ∧ state'.backend = state.backend

/-- The route asks for an OEM device that the facade does not have. -/
def Switches (state : ProxyDevice) (route : ProxyRoute) : Prop :=
  route.useVirtual = false ∧ ¬(state.physical.isSome ∧ state.physicalSourceId = route.physicalSource)

/-- In a configuration that has to exchange the device, no OEM call fails. -/
def Step.Replaces (globalRouteOnly : Bool) (step : Step) : Prop :=
  ∀ device config state fs, step.method = .proxyConfigure device (some config) →
    step.before.findDevice device = some state → ⟨.files, fs⟩ ∈ step.events →
    Switches state (proxyRoute fs (config.packageName globalRouteOnly) state.cameraId.val) →
    ∀ event ∈ step.events, Succeeds event

/-! ## The table -/

/-- Every facade stands in its slot and has a complete device. -/
structure Equipped (s : Proxies) : Prop where
  placed : s.Placed
  device : ∀ slot state, s.devices slot = some state →
    ∃ device, state.physical = some device ∧ device.interface.Complete

theorem equipped_empty : Equipped {} := ⟨nofun, nofun⟩

variable {s : Proxies} {state state' : ProxyDevice} {device : ℕ}

theorem Equipped.of_findDevice (hs : Equipped s) (h : s.findDevice device = some state) :
    ∃ device, state.physical = some device ∧ device.interface.Complete :=
  hs.device _ state (hs.placed.of_findDevice h).1

theorem Equipped.put (hs : Equipped s)
    (hst : ∃ device, state.physical = some device ∧ device.interface.Complete) :
    Equipped (s.put state) := by
  refine ⟨hs.placed.put state, fun slot found h => ?_⟩
  rw [Proxies.devices_put] at h
  split_ifs at h with hsl
  · cases h
    exact hst
  · exact hs.device slot found h

theorem Equipped.numbered (hs : Equipped s) (obtained : ℕ) :
    Equipped { s with obtained := obtained } := ⟨hs.placed, hs.device⟩

theorem Equipped.remove (hs : Equipped s) (slot : Fin 16) :
    Equipped { s with devices := Function.update s.devices slot none } := by
  have hold : ∀ slot' found, Function.update s.devices slot none slot' = some found →
      s.devices slot' = some found := by
    intro slot' found h
    rw [Function.update_apply] at h
    split_ifs at h
    exact h
  exact ⟨fun slot' found h => hs.placed slot' found (hold slot' found h),
    fun slot' found h => hs.device slot' found (hold slot' found h)⟩

/-! ## Calls that do no harm -/

section Safe

variable {α β : Type} {past : List ProxyEvent} {post : α → Prop} {x : Proxy α}

/-- Behind complete devices the program uses no null device and no null ops table. -/
def Safe (post : α → Prop) (past : List ProxyEvent) (x : Proxy α) : Prop :=
  Ensures (Assuming HandsComplete (Either (fun crash _ => crash = .nullFunction) fun value _ =>
    post value)) past x.run

theorem safe_pure {v : α} (h : post v) : Safe post past (pure v) := fun _ => h

theorem safe_bind {mid : α → Prop} {post : β → Prop} {g : α → Proxy β} (hx : Safe mid past x)
    (hg : ∀ value trace, mid value → Safe post trace (g value)) : Safe post past (x >>= g) :=
  ensures_assuming_bind hx fun value trace _ h => hg value trace h

theorem safe_question (call : Call) : Safe (fun _ => True) past (question call) :=
  ensures_assuming_ask fun _ _ => trivial

theorem safe_openOriginal (id : Text) :
    Safe (fun opened => ∀ interface, opened.device = some interface → interface.Complete) past
      (openOriginal id) :=
  ensures_assuming_ask fun _ h => h

theorem callOem_complete {p : OemDevice} (h : p.interface.Complete) (op : Op)
    (arguments : List ℕ) :
    callOem (some p) op arguments = invoke op p.number arguments := by
  obtain ⟨ops, hops, hall⟩ := h
  rw [callOem]
  simp only [hops]
  rw [if_pos (hall op)]

theorem offers_complete {p : OemDevice} (h : p.interface.Complete) (op : Op) :
    p.offers op = true := by
  obtain ⟨ops, hops, hall⟩ := h
  rw [OemDevice.offers]
  simp only [hops]
  exact hall op

theorem safe_callOem {p : OemDevice} (h : p.interface.Complete) (op : Op)
    (a : List ℕ) : Safe (fun _ => True) past (callOem (some p) op a) := by
  rw [callOem_complete h]
  exact safe_question _

theorem safe_closeOem (p : OemDevice) : Safe (fun _ => True) past (closeOem p) := by
  rw [closeOem]
  split_ifs
  · exact safe_question _
  · exact fun _ => rfl

theorem safe_closePresent (p : Option OemDevice) :
    Safe (fun _ => True) past (closePresent p) := by
  cases p with
  | none => exact safe_pure trivial
  | some p =>
    rw [closePresent]
    split_ifs
    · exact safe_question _
    · exact safe_pure trivial

theorem safe_reading {call : Proxy ℤ} (hs : Equipped s) (h : Safe (fun _ => True) past call) :
    Safe (fun value => Equipped value.2) past (reading s call) :=
  safe_bind h fun _ _ _ => safe_pure hs

end Safe

variable {past : List ProxyEvent}

section Calls

variable (hs : Equipped s)

include hs

theorem safe_openFacade {p : OemDevice}
    (hp : p.interface.Complete) (camera : Fin 16) :
    Safe (fun value => Equipped value.2) past (openFacade s p camera) := by
  refine safe_bind (safe_question _) ?_
  rintro ⟨virtualResult, virtualDevice⟩ trace -
  dsimp only
  by_cases hv : virtualResult ≠ 0 ∨ virtualDevice = false
  · rw [if_pos hv]
    exact safe_bind (safe_closeOem _) fun _ _ _ => safe_pure hs
  rw [if_neg hv]
  split_ifs
  · refine safe_bind (safe_question _) fun _ _ _ => ?_
    exact safe_bind (safe_closeOem _) fun _ _ _ => safe_pure hs
  · have hput : Equipped (s.put ⟨camera, s.facades, some p, camera.val, 0,
        .unconfigured, []⟩) := hs.put ⟨p, rfl, hp⟩
    exact safe_pure ⟨hput.placed, hput.device⟩

theorem safe_proxyOpen (id : Option Text) (out : Bool) :
    Safe (fun value => Equipped value.2) past (proxyOpen s id out) := by
  cases id with
  | none => exact safe_pure hs
  | some id =>
    rw [proxyOpen]
    split_ifs with hout
    · exact safe_pure hs
    refine safe_bind (safe_openOriginal id) fun opened trace ho => ?_
    have hs' := hs.numbered (s.obtained + 1)
    split
    · exact safe_pure hs
    · rename_i interface hd
      split_ifs with hr hv
      · exact safe_pure hs'
      · exact safe_bind (safe_closePresent _) fun _ _ _ => safe_pure hs'
      · split
        · exact safe_bind (safe_closeOem _) fun _ _ _ => safe_pure hs'
        · exact safe_openFacade hs' (ho interface hd) _

theorem safe_proxyClose (d : ℕ) :
    Safe (fun value => Equipped value.2) past (proxyClose s d) := by
  rw [proxyClose]
  split
  · exact safe_pure hs
  · refine safe_bind (safe_question _) fun _ _ _ => ?_
    exact safe_bind (safe_closePresent _) fun _ _ _ => safe_pure (hs.remove _)

theorem safe_proxyInitialize (d callbacks : ℕ) :
    Safe (fun value => Equipped value.2) past (proxyInitialize s d callbacks) := by
  rw [proxyInitialize]
  split
  · exact safe_pure hs
  · rename_i state hf
    obtain ⟨physical, hp, hc⟩ := hs.of_findDevice hf
    split_ifs with hr
    · exact safe_pure hs
    have hput : Equipped (s.put { state with callbacks := callbacks }) :=
      hs.put ⟨physical, hp, hc⟩
    generalize s.put { state with callbacks := callbacks } = s' at hput ⊢
    rw [hp]
    refine safe_bind (safe_callOem hc _ _) fun result _ _ => ?_
    split_ifs
    · exact safe_pure hput
    · exact safe_bind (safe_question _) fun _ _ _ => safe_pure hput

theorem safe_passOn (op : Op) (m : ℤ) (d : ℕ) (a : List ℕ) :
    Safe (fun _ => True) past (passOn op m s d a) := by
  rw [passOn]
  split
  · exact safe_pure trivial
  · rename_i state hf
    obtain ⟨physical, hp, hc⟩ := hs.of_findDevice hf
    split_ifs
    · exact safe_question _
    · exact safe_pure trivial
    · rw [hp]
      exact safe_callOem hc _ _
    · exact safe_pure trivial

theorem safe_proxyDefaultRequest (d type : ℕ) :
    Safe (fun _ => True) past (proxyDefaultRequest s d type) := by
  rw [proxyDefaultRequest]
  split
  · exact safe_pure trivial
  · rename_i state hf
    obtain ⟨physical, hp, hc⟩ := hs.of_findDevice hf
    split_ifs
    · exact safe_question _
    · exact safe_pure trivial
    · rw [hp]
      exact safe_callOem hc _ _

theorem safe_proxyProcessRequest (d r : ℕ) :
    Safe (fun _ => True) past (proxyProcessRequest s d r) := by
  rw [proxyProcessRequest]
  split
  · exact safe_pure trivial
  · rename_i state hf
    obtain ⟨physical, hp, hc⟩ := hs.of_findDevice hf
    split_ifs
    · exact safe_question _
    · rw [hp]
      exact safe_callOem hc _ _

theorem safe_proxyDump (d fd : ℕ) :
    Safe (fun _ => True) past (proxyDump s d fd) := by
  rw [proxyDump]
  split
  · exact safe_pure trivial
  · rename_i state hf
    obtain ⟨physical, hp, hc⟩ := hs.of_findDevice hf
    rw [hp]
    dsimp only
    split_ifs
    · exact safe_question _
    · exact safe_pure trivial
    · exact safe_callOem hc _ _

end Calls

/-! ## Exchanging the device -/

section Exchange

variable {e : Crash → List ProxyEvent → Prop}

theorem ensures_question {call : Call} : Ensures (Assuming HandsComplete (Either e
    fun answer trace => HandsComplete ⟨call, answer⟩ ∧ trace = past ++ [⟨call, answer⟩])) past
    (question call).run :=
  ensures_assuming_ask fun _ h => ⟨h, rfl⟩

/-- An attempt to close a device that has no function for it, behind another failure. -/
def Stuck (crash : Crash) (trace : List ProxyEvent) : Prop :=
  crash = .nullFunction ∧ (∃ event ∈ trace, ¬ HandsClosable event) ∧ ∃ event ∈ trace, ¬ Succeeds event

theorem ensures_closeOem {p : OemDevice}
    (hcl : p.interface.close = false → ∃ event ∈ past, ¬ HandsClosable event)
    (hf : ∃ event ∈ past, ¬ Succeeds event) :
    Ensures (Assuming HandsComplete (Either Stuck fun result trace =>
      trace = past ++ [⟨.closeOem p.number, result⟩])) past (closeOem p).run := by
  rw [closeOem]
  by_cases hc : p.interface.close = true
  · rw [if_pos hc]
    exact ensures_question.mono fun value trace h hlaw => by
      cases value with
      | error e => exact h hlaw
      | ok value => exact (h hlaw).2
  · rw [if_neg hc]
    exact fun _ => ⟨rfl, hcl (Bool.eq_false_iff.mpr hc), hf⟩

theorem ensures_adopt {r : OemDevice} {source : ℤ}
    (hc : r.interface.Complete)
    (hcl : r.interface.close = false → ∃ event ∈ past, ¬ HandsClosable event) :
    Ensures (Assuming HandsComplete (Either Stuck fun value trace =>
      (value = (0, { state with physical := some r, physicalSourceId := source }) ∧
        ∀ event ∈ trace, event ∈ past ∨ Succeeds event) ∨
      (value.2 = state ∧ ∃ event ∈ trace, ¬ Succeeds event))) past
      (adopt state r source).run := by
  rw [adopt, offers_complete hc, if_neg (by decide), callOem_complete hc]
  refine ensures_assuming_bind ensures_question ?_
  rintro result _ - ⟨-, rfl⟩
  by_cases hr : result = 0
  · rw [if_neg (not_not.mpr hr)]
    refine fun _ => .inl ⟨rfl, fun event he => ?_⟩
    rcases mem_append.mp he with he | he
    · exact .inl he
    · rw [mem_singleton.mp he]
      exact .inr hr
  · have hf : ¬ Succeeds ⟨.oem .initializeCamera r.number [state.callbacks], result⟩ :=
      hr
    rw [if_pos hr]
    refine ensures_assuming_bind (ensures_closeOem (fun hclo => ?_) ⟨_, by simp, hf⟩) ?_
    · obtain ⟨event, he, h⟩ := hcl hclo
      exact ⟨event, mem_append_left _ he, h⟩
    · rintro _ _ - rfl
      exact fun _ => .inr ⟨rfl, _, by simp, hf⟩

theorem ensures_closePresent (p : Option OemDevice) :
    Ensures (Assuming HandsComplete (Either e fun _ trace =>
      ∀ event ∈ trace, event ∈ past ∨ Succeeds event)) past (closePresent p).run := by
  have hk : ∀ value : ℤ, Ensures (Assuming HandsComplete (Either e fun _ trace =>
      ∀ event ∈ trace, event ∈ past ∨ Succeeds event)) past (pure value : Proxy ℤ).run :=
    fun _ _ event he => .inl he
  cases p with
  | none => exact hk 0
  | some p =>
    rw [closePresent]
    split_ifs
    · refine ensures_assuming_ask fun result _ event he => ?_
      rcases mem_append.mp he with he | he
      · exact .inl he
      · rw [mem_singleton.mp he]
        exact .inr trivial
    · exact hk 0

/-- The device of the source is exchanged, or nothing is left of the old one and some OEM call
failed. -/
def Exchanged (state : ProxyDevice) (sourceId : ℤ) (past : List ProxyEvent)
    (value : Status × ProxyDevice × ℕ) (trace : List ProxyEvent) : Prop :=
  (∃ physical : OemDevice, physical.interface.Complete ∧ value.1 = 0 ∧
    value.2.1 = { state with physical := some physical, physicalSourceId := sourceId } ∧
    ∀ event ∈ trace, event ∈ past ∨ Succeeds event) ∨
  (value.2.1 = { state with physical := none, physicalSourceId := -1 } ∧
    ∃ event ∈ trace, ¬ Succeeds event)

theorem ensures_exchange {source : ℤ} (hra : ¬(source < 0 ∨ kMaxCameras ≤ source))
    (hs : ¬(state.physical.isSome ∧ state.physicalSourceId = source)) (o : ℕ) :
    Ensures (Assuming HandsComplete (Either Stuck (Exchanged state source past))) past
      (selectPhysicalSource state o source).run := by
  rw [selectPhysicalSource, if_neg hra, if_neg hs]
  refine ensures_assuming_bind (ensures_closePresent _) fun _ closed _ hcl => ?_
  refine ensures_assuming_bind ensures_question ?_
  rintro opened _ - ⟨hc, rfl⟩
  change Opened at opened
  have hl : ⟨.openOem (decimalInt source), opened⟩ ∈
      closed ++ [(⟨.openOem (decimalInt source), opened⟩ : ProxyEvent)] := mem_concat_self
  cases hd : opened.device with
  | none => exact fun _ => .inr ⟨rfl, _, hl, fun h => h.2 hd⟩
  | some interface =>
    dsimp only
    by_cases hr : opened.result = 0
    · rw [if_neg (not_not.mpr hr)]
      refine ensures_assuming_bind (ensures_adopt (hc interface hd) fun hclo => ?_) ?_
      · refine ⟨_, hl, fun h => ?_⟩
        exact Bool.false_ne_true (hclo.symm.trans (h interface hd))
      · rintro ⟨result, state'⟩ trace - (⟨heq, hall⟩ | ⟨rfl, hf⟩)
        · cases heq
          refine fun _ => .inl ⟨_, hc interface hd, rfl, rfl, fun event he => ?_⟩
          rcases hall event he with hold | hnew
          · rcases mem_append.mp hold with hold | ho
            · exact hcl event hold
            · rw [mem_singleton.mp ho]
              exact .inr ⟨hr, by rw [hd]; simp⟩
          · exact .inr hnew
        · exact fun _ => .inr ⟨rfl, hf⟩
    · rw [if_pos hr]
      exact fun _ => .inr ⟨rfl, _, hl, fun h => hr h.1⟩

end Exchange

/-! ## Configurations -/

theorem physicalSource_range {fs : FileSystem} {package : Text} {camera : Fin 16}
    (h : (proxyRoute fs package camera.val).useVirtual = false) :
    ¬((proxyRoute fs package camera.val).physicalSource < 0 ∨
      kMaxCameras ≤ (proxyRoute fs package camera.val).physicalSource) := by
  have hle : ∀ provider, physicalIdFromProvider provider ≤ 1 := by
    intro provider
    rw [physicalIdFromProvider]
    dsimp only
    split_ifs with h₁ h₂
    · exact h₂.2.2.2
    · decide
    · decide
  unfold proxyRoute at h ⊢
  dsimp only at h ⊢
  rw [h]
  generalize resolveProviderForPackage _ _ _ _ _ = selection at h ⊢
  have hc := camera.isLt
  have hs := hle selection.providerId
  unfold kMaxCameras
  cases hu : selection.configured && selection.available
  · simp
  · simp [hu] at h ⊢
    omega

/-- How a configuration ends, as far as the facade is concerned. -/
structure Verdict (globalRouteOnly : Bool) (s : Proxies) (method : Method)
    (outcome : Except Crash (ℤ × Proxies)) (events : List ProxyEvent) : Prop where
  safe : Step.Replaces globalRouteOnly ⟨s, method, events, outcome⟩ →
    Step.Unharmed ⟨s, method, events, outcome⟩
  equipped : Step.Replaces globalRouteOnly ⟨s, method, events, outcome⟩ →
    ∀ s', Step.after ⟨s, method, events, outcome⟩ = some s' → Equipped s'
  exact : (∀ event ∈ events, HandsClosable event) → Step.Unharmed ⟨s, method, events, outcome⟩ →
    Step.Replaces globalRouteOnly ⟨s, method, events, outcome⟩

section Verdict

variable {globalRouteOnly : Bool} {m : Method} {o : Except Crash (ℤ × Proxies)}
  {events : List ProxyEvent} {config : Configuration} {fs : FileSystem}

theorem verdict_of_safe (hme : ∀ device config, m ≠ .proxyConfigure device (some config))
    (hu : ∀ device, m ≠ .proxyConfigure device none)
    (h : Safe (fun value => Equipped value.2) [] (m.program globalRouteOnly s)) :
    Ensures (Assuming HandsComplete (Verdict globalRouteOnly s m)) []
      (m.program globalRouteOnly s).run := by
  refine Ensures.mono h fun o events hend hlaw => ?_
  have hr : Step.Replaces globalRouteOnly ⟨s, m, events, o⟩ :=
    fun device config _ _ hm => absurd hm (hme device config)
  have hc : ∀ device config, m ≠ .proxyConfigure device config := by
    rintro device (_ | config)
    · exact hu device
    · exact hme device config
  have hout := hend hlaw
  cases o with
  | error crash =>
    cases hout
    exact ⟨fun _ => ⟨nofun, nofun, fun _ _ _ _ _ _ ho => nomatch ho⟩, fun _ _ => nofun,
      fun _ _ => hr⟩
  | ok value =>
    refine ⟨fun _ => ⟨nofun, nofun, fun _ _ _ _ _ hm => absurd hm (hc _ _)⟩,
      fun _ s' ha => ?_, fun _ _ => hr⟩
    cases ha
    exact hout

/-- A configuration that fails and leaves the facade alone, or succeeds. -/
theorem verdict_of_calm {r : ℤ} {s' : Proxies} (hs' : Equipped s')
    (hfi : s.findDevice device = some state)
    (hk : r ≠ 0 → ∃ state', s'.findDevice device = some state' ∧
      state'.physical = state.physical ∧ state'.physicalSourceId = state.physicalSourceId ∧
      state'.backend = state.backend)
    (hr : Step.Replaces globalRouteOnly
      ⟨s, .proxyConfigure device (some config), events, .ok (r, s')⟩) :
    Verdict globalRouteOnly s (.proxyConfigure device (some config)) (.ok (r, s')) events := by
  refine ⟨fun _ => ⟨nofun, nofun, ?_⟩, fun _ after ha => ?_, fun _ _ => hr⟩
  · intro device' config' result' after found hm hout hre hf
    cases hm
    cases hout
    obtain rfl : state = found := Option.some.inj (hfi.symm.trans hf)
    exact hk hre
  · cases ha
    exact hs'

theorem verdict_of_failure (hfi : s.findDevice device = some state)
    (hfs : ⟨.files, fs⟩ ∈ events)
    (hs : Switches state
      (proxyRoute fs (config.packageName globalRouteOnly) state.cameraId.val))
    (hf : ∃ event ∈ events, ¬ Succeeds event)
    (hh : (∀ event ∈ events, HandsClosable event) →
      ¬ Step.Unharmed ⟨s, .proxyConfigure device (some config), events, o⟩) :
    Verdict globalRouteOnly s (.proxyConfigure device (some config)) o events := by
  have hnot : ¬ Step.Replaces globalRouteOnly
      ⟨s, .proxyConfigure device (some config), events, o⟩ := by
    intro h
    obtain ⟨event, he, hno⟩ := hf
    exact hno (h device config state fs rfl hfi hfs hs event he)
  exact ⟨fun h => absurd h hnot, fun h => absurd h hnot, fun hc h => absurd h (hh hc)⟩

theorem not_unharmed {r : ℤ} {s' : Proxies} (hr : r ≠ 0)
    (hfi : s.findDevice device = some state) (hf' : s'.findDevice device = some state')
    (hne : state'.physical ≠ state.physical ∨ state'.physicalSourceId ≠ state.physicalSourceId) :
    ¬ Step.Unharmed ⟨s, .proxyConfigure device (some config), events, .ok (r, s')⟩ := by
  rintro ⟨-, -, h⟩
  obtain ⟨found, hf, hp, hs, -⟩ := h _ _ _ _ _ rfl rfl hr hfi
  obtain rfl : state' = found := Option.some.inj (hf'.symm.trans hf)
  exact hne.elim (absurd hp) (absurd hs)

theorem replaces_of_not_switches {rest : List ProxyEvent}
    (hfi : s.findDevice device = some state) (hr : ∀ event ∈ rest, event.request ≠ .files)
    (hno : ¬ Switches state
      (proxyRoute fs (config.packageName globalRouteOnly) state.cameraId.val)) :
    Step.Replaces globalRouteOnly
      ⟨s, .proxyConfigure device (some config), ⟨.files, fs⟩ :: rest, o⟩ := by
  intro device' config' found fs' hm hf hfs hs
  cases hm
  obtain rfl : state = found := Option.some.inj (hfi.symm.trans hf)
  rcases mem_cons.mp hfs with heq | hmem
  · cases heq
    exact absurd hs hno
  · exact absurd rfl (hr _ hmem)

def Judged (globalRouteOnly : Bool) (s : Proxies) (method : Method) (past : List ProxyEvent)
    (program : Proxy (ℤ × Proxies)) : Prop :=
  Ensures (Assuming HandsComplete (Either
    (fun crash => Verdict globalRouteOnly s method (.error crash))
    fun value => Verdict globalRouteOnly s method (.ok value))) past program.run

theorem judged_configureVirtual (hs : Equipped s) (hf : s.findDevice device = some state)
    {p : Text}
    (hv : (proxyRoute fs (config.packageName globalRouteOnly)
      state.cameraId.val).useVirtual = true) :
    Judged globalRouteOnly s (.proxyConfigure device (some config)) [⟨.files, fs⟩]
      (configureVirtual s state config (config.packageName globalRouteOnly) p) := by
  have hno : ¬ Switches state
      (proxyRoute fs (config.packageName globalRouteOnly) state.cameraId.val) :=
    fun h => Bool.false_ne_true (h.1.symm.trans hv)
  refine ensures_assuming_bind ensures_question ?_
  rintro _ _ - ⟨-, rfl⟩
  refine ensures_assuming_bind ensures_question ?_
  rintro result _ - ⟨-, rfl⟩
  split_ifs with hr
  · obtain ⟨physical, hp, hc⟩ := hs.of_findDevice hf
    refine fun _ => verdict_of_calm (hs.put ⟨physical, hp, hc⟩) hf
      (fun h => absurd hr h) ?_
    exact replaces_of_not_switches hf (by simp) hno
  · refine fun _ => verdict_of_calm hs hf (fun _ => ⟨state, hf, rfl, rfl, rfl⟩) ?_
    exact replaces_of_not_switches hf (by simp) hno

theorem judged_configureSame (hs : Equipped s) (hf : s.findDevice device = some state)
    {source : ℤ} (hra : ¬(source < 0 ∨ kMaxCameras ≤ source))
    (hsa : state.physical.isSome ∧ state.physicalSourceId = source)
    (hno : ¬ Switches state
      (proxyRoute fs (config.packageName globalRouteOnly) state.cameraId.val)) :
    Judged globalRouteOnly s (.proxyConfigure device (some config)) [⟨.files, fs⟩]
      (configurePhysical s state config (config.packageName globalRouteOnly) source) := by
  obtain ⟨physical, hp, hc⟩ := hs.of_findDevice hf
  have hse : selectPhysicalSource state s.obtained source = pure (0, state, s.obtained) := by
    rw [selectPhysicalSource, if_neg hra, if_pos hsa]
  have hput : Equipped (s.put state) := hs.put ⟨physical, hp, hc⟩
  have ha : (s.put state).findDevice device = some state := hs.placed.findDevice_put hf rfl rfl
  rw [Judged, configurePhysical, hse]
  change Ensures _ _ (callOem state.physical _ _ >>= _).run
  rw [hp, callOem_complete hc]
  refine ensures_assuming_bind ensures_question ?_
  rintro result _ - ⟨-, rfl⟩
  split_ifs with hr
  · refine fun _ => verdict_of_calm (hput.put ⟨physical, rfl, hc⟩) hf
      (fun h => absurd hr h) ?_
    exact replaces_of_not_switches hf (by simp) hno
  · refine fun _ => verdict_of_calm hput hf (fun _ => ⟨state, ha, rfl, rfl, rfl⟩) ?_
    exact replaces_of_not_switches hf (by simp) hno

theorem judged_configureSwitch (hs : Equipped s) (hf : s.findDevice device = some state)
    {sourceId : ℤ} (hra : ¬(sourceId < 0 ∨ kMaxCameras ≤ sourceId))
    (hd : ¬(state.physical.isSome ∧ state.physicalSourceId = sourceId))
    (hsw : Switches state
      (proxyRoute fs (config.packageName globalRouteOnly) state.cameraId.val)) :
    Judged globalRouteOnly s (.proxyConfigure device (some config)) [⟨.files, fs⟩]
      (configurePhysical s state config (config.packageName globalRouteOnly) sourceId) := by
  obtain ⟨old, hold, -⟩ := hs.of_findDevice hf
  have hso : state.physicalSourceId ≠ sourceId := fun h => hd ⟨by rw [hold]; rfl, h⟩
  have hexc : Ensures (Assuming HandsComplete (Either
      (fun crash => Verdict globalRouteOnly s (.proxyConfigure device (some config)) (.error crash))
      fun value trace => ⟨.files, fs⟩ ∈ trace ∧
        Exchanged state sourceId [⟨.files, fs⟩] value trace)) [⟨.files, fs⟩]
      (selectPhysicalSource state s.obtained sourceId).run := by
    refine (ensures_exchange hra hd s.obtained).keepsPast.mono ?_
    rintro (crash | value) trace ⟨hp, hend⟩ hlaw
    · obtain ⟨rfl, ⟨event, he, hcl⟩, hfa⟩ := hend hlaw
      exact verdict_of_failure hf (hp mem_cons_self) hsw hfa
        fun hall => absurd (hall event he) hcl
    · exact ⟨hp mem_cons_self, hend hlaw⟩
  refine ensures_assuming_bind hexc ?_
  rintro ⟨selected, state', obtained⟩ trace - ⟨hfs, hend⟩
  have hfo : ∀ found : ProxyDevice, found.cameraId = state.cameraId →
      found.facade = state.facade → (s.put found).findDevice device = some found :=
    fun found hid hfc => hs.placed.findDevice_put hf hid hfc
  rcases hend with ⟨physical, hc, hse, hst, hsu⟩ | ⟨hst, hfa⟩
  · dsimp only at hse hst
    subst hse hst
    dsimp only
    rw [if_neg (not_not.mpr rfl), callOem_complete hc]
    refine ensures_assuming_bind ensures_question ?_
    rintro result _ - ⟨-, rfl⟩
    split_ifs with hr
    · refine fun _ => verdict_of_calm (((hs.put ?_).numbered obtained).put ?_) hf
        (fun h => absurd hr h) fun _ _ _ _ _ _ _ _ event he => ?_
      · exact ⟨physical, rfl, hc⟩
      · exact ⟨physical, rfl, hc⟩
      rcases mem_append.mp he with hb | hl
      · rcases hsu event hb with hfi | hok
        · rw [mem_singleton.mp hfi]
          trivial
        · exact hok
      · rw [mem_singleton.mp hl]
        exact hr
    · refine fun _ => verdict_of_failure hf (mem_append_left _ hfs) hsw
        ⟨_, mem_concat_self, hr⟩ fun _ => ?_
      exact not_unharmed hr hf (hfo _ rfl rfl) (.inr (Ne.symm hso))
  · dsimp only at hst
    subst hst
    dsimp only
    split_ifs with hse
    · refine fun _ => verdict_of_failure hf hfs hsw hfa fun _ => ?_
      exact not_unharmed hse hf (hfo _ rfl rfl) (.inl (by rw [hold]; simp))
    · exact fun _ => verdict_of_failure hf hfs hsw hfa fun _ h => h.1 rfl

theorem judged_proxyConfigure (hs : Equipped s) (c : Option Configuration) :
    Judged globalRouteOnly s (.proxyConfigure device c) []
      (proxyConfigure globalRouteOnly s device c) := by
  unfold proxyConfigure
  split
  · rename_i state c hf
    refine ensures_assuming_bind ensures_question ?_
    rintro fs _ - ⟨-, rfl⟩
    dsimp only
    cases hv : (proxyRoute fs (c.packageName globalRouteOnly)
        state.cameraId.val).useVirtual with
    | true =>
      rw [if_pos rfl]
      exact judged_configureVirtual hs hf hv
    | false =>
      rw [if_neg Bool.false_ne_true]
      have hr := physicalSource_range hv
      by_cases hsa : state.physical.isSome ∧ state.physicalSourceId =
          (proxyRoute fs (c.packageName globalRouteOnly) state.cameraId.val).physicalSource
      · exact judged_configureSame hs hf hr hsa fun h => h.2 hsa
      · exact judged_configureSwitch hs hf hr hsa ⟨hv, hsa⟩
  · rename_i hmi
    -- a null configuration or an unknown facade: nothing is asked and nothing changes
    refine fun _ => ⟨fun _ => ⟨nofun, nofun, ?_⟩, fun _ s' ha => ?_, ?_⟩
    · intro device' config' result after state hm hout hre hf
      cases hm
      cases hout
      exact ⟨state, hf, rfl, rfl, rfl⟩
    · cases ha
      exact hs
    · intro _ _ device' config' state fs hm hf
      cases hm
      exact absurd rfl (hmi state config' hf)

end Verdict

/-- **What a call does to a table whose facades have complete devices.** -/
theorem judged_program (hs : Equipped s) (globalRouteOnly : Bool) (m : Method) :
    Ensures (Assuming HandsComplete (Verdict globalRouteOnly s m)) []
      (m.program globalRouteOnly s).run := by
  cases m with
  | proxyConfigure device config =>
    refine Ensures.mono (judged_proxyConfigure hs config) fun o events h hlaw => ?_
    cases o with
    | error crash => exact h hlaw
    | ok value => exact h hlaw
  | proxyOpen id out => exact verdict_of_safe nofun nofun (safe_proxyOpen hs id out)
  | proxyClose device => exact verdict_of_safe nofun nofun (safe_proxyClose hs device)
  | proxyInitialize device callbacks =>
    exact verdict_of_safe nofun nofun (safe_proxyInitialize hs device callbacks)
  | proxyDefaultRequest device type =>
    exact verdict_of_safe nofun nofun (safe_reading hs (safe_proxyDefaultRequest hs device type))
  | proxyProcessRequest device request =>
    exact verdict_of_safe nofun nofun (safe_reading hs (safe_proxyProcessRequest hs device request))
  | proxyDump device fd =>
    exact verdict_of_safe nofun nofun (safe_reading hs (safe_proxyDump hs device fd))
  | proxyFlush device =>
    exact verdict_of_safe nofun nofun (safe_reading hs (safe_passOn hs _ _ device _))
  | proxySignalFlush device count streams =>
    exact verdict_of_safe nofun nofun (safe_reading hs (safe_passOn hs _ _ device _))
  | proxyReconfigurationRequired device oldParams newParams =>
    exact verdict_of_safe nofun nofun (safe_reading hs (safe_passOn hs _ _ device _))

/-! ## Runs -/

variable {globalRouteOnly : Bool} {steps : List Step} {begun final : Option Proxies}

theorem judged_of_takes {step : Step} {s' : Option Proxies} (hs : Equipped s)
    (ht : Takes globalRouteOnly (some s) step s')
    (hc : ∀ event ∈ step.events, HandsComplete event) :
    Verdict globalRouteOnly step.before step.method step.outcome step.events := by
  obtain ⟨hb, hp, -⟩ := ht
  obtain rfl := Option.some.inj hb
  exact ensures_iff_path.mp (judged_program hs globalRouteOnly step.method) _ _ hp hc

/-- The induction over the steps: as long as every exchange succeeds, the facades stay equipped, and
then a step does no harm exactly if it replaces. -/
theorem unharmed_of_follows (hrun : Follows (Takes globalRouteOnly) begun steps final)
    (hs : ∀ s, begun = some s → Equipped s)
    (hc : ∀ step ∈ steps, ∀ event ∈ step.events, HandsComplete event) :
    ((∀ step ∈ steps, step.Replaces globalRouteOnly) → ∀ step ∈ steps, step.Unharmed) ∧
      ((∀ step ∈ steps, ∀ event ∈ step.events, HandsClosable event) →
        (∀ step ∈ steps, step.Unharmed) → ∀ step ∈ steps, step.Replaces globalRouteOnly) := by
  induction hrun with
  | nil s => exact ⟨fun _ => nofun, fun _ _ => nofun⟩
  | @cons s s₁ s₂ step steps first rest ih =>
    obtain ⟨s, rfl⟩ : ∃ s', s = some s' := ⟨_, first.1⟩
    have hv := judged_of_takes (hs s rfl) first (hc step mem_cons_self)
    have hn : step.Replaces globalRouteOnly → ∀ s', s₁ = some s' → Equipped s' :=
      fun h s' hs' => hv.equipped h s' (first.2.2.symm.trans hs')
    have ht := fun step hst => hc step (mem_cons_of_mem _ hst)
    constructor
    · intro hall
      obtain ⟨hh, hre⟩ := forall_mem_cons.mp hall
      exact forall_mem_cons.mpr ⟨hv.safe hh, (ih (hn hh) ht).1 hre⟩
    · intro hcl hall
      obtain ⟨hch, hcr⟩ := forall_mem_cons.mp hcl
      obtain ⟨hh, hre⟩ := forall_mem_cons.mp hall
      have hr := hv.exact hch hh
      exact forall_mem_cons.mpr
        ⟨hr, (ih (hn hr) ht).2 hcr hre⟩

/-- **In a run from an empty table with complete devices, no step does harm when every configuration
that exchanges the device succeeds. When every device can be closed, that is the only way.** -/
theorem unharmed_of_replaces (hrun : Follows (Takes globalRouteOnly) (some {}) steps final)
    (hcomplete : ∀ step ∈ steps, ∀ event ∈ step.events, HandsComplete event) :
    ((∀ step ∈ steps, step.Replaces globalRouteOnly) → ∀ step ∈ steps, step.Unharmed) ∧
      ((∀ step ∈ steps, ∀ event ∈ step.events, HandsClosable event) →
        (∀ step ∈ steps, step.Unharmed) → ∀ step ∈ steps, step.Replaces globalRouteOnly) := by
  refine unharmed_of_follows hrun (fun s h => ?_) hcomplete
  cases h
  exact equipped_empty

/-- A route table that sends camera 0 of every package to the physical camera 1. -/
def otherCamera : FileSystem :=
  FileSystem.ofList [(kDefaultRoutesPath, "*\t0\tphysical-1\n")]

/-- An OEM whose `open` succeeds without a device. -/
def emptyHanded (fs : FileSystem) : (call : Call) → call.Answer
  | .openOem _ => ⟨0, none⟩
  | other => obliging fs other

def configuring (answers : (call : Call) → call.Answer) : Step :=
  following answers (.proxyConfigure 0 (some ⟨1, none⟩))

/-- The crash of a step, which can be compared although the tables cannot. -/
def Step.crash (step : Step) : Option Crash :=
  match step.outcome with
  | .error crash => some crash
  | .ok _ => none

theorem outcome_of_crash {step : Step} {crash : Crash} (h : step.crash = some crash) :
    step.outcome = .error crash := by
  unfold Step.crash at h
  split at h
  · cases h
    assumption
  · cases h

theorem handsComplete_obliging (fs : FileSystem) (call : Call) :
    HandsComplete ⟨call, obliging fs call⟩ := by
  cases call
  case openOem =>
    rintro _ ⟨⟩
    exact ⟨_, rfl, fun _ => rfl⟩
  all_goals trivial

theorem handsClosable_obliging (fs : FileSystem) (call : Call) :
    HandsClosable ⟨call, obliging fs call⟩ := by
  cases call
  case openOem =>
    rintro _ ⟨⟩
    rfl
  all_goals trivial

theorem succeeds_obliging (fs : FileSystem) (call : Call) : Succeeds ⟨call, obliging fs call⟩ := by
  cases call
  case openOem => exact ⟨rfl, nofun⟩
  all_goals trivial

theorem unharmed_of_replaces_opening :
    (configuring (obliging otherCamera)).outcome.isOk = true ∧
      ∀ step ∈ [opening, configuring (obliging otherCamera)], step.Unharmed := by
  have hc : ∀ step ∈ [opening, configuring (obliging otherCamera)],
      ∀ event ∈ step.events, HandsComplete event := by
    simp only [forall_mem_cons]
    exact ⟨law_of_mem_run (fun _ => handsComplete_obliging _) _ _,
      law_of_mem_run (fun _ => handsComplete_obliging otherCamera) _ _, nofun⟩
  refine ⟨by decide, (unharmed_of_replaces (follows_opening _ _) hc).1 ?_⟩
  simp only [forall_mem_cons]
  exact ⟨fun _ _ _ _ _ _ _ _ => law_of_mem_run (fun _ => succeeds_obliging _) _ _,
    fun _ _ _ _ _ _ _ _ => law_of_mem_run (fun _ => succeeds_obliging otherCamera) _ _, nofun⟩

/-- The OEM reports success for camera 1 without a device, and the configuration uses the null
pointer. -/
theorem missing_device_used : ∃ steps final,
    Follows (Takes false) (some {}) steps final ∧
      (∀ step ∈ steps, ∀ event ∈ step.events, HandsComplete event ∧ HandsClosable event) ∧
      ∃ step ∈ steps, step.outcome = .error .nullDevice ∧ ¬ step.Unharmed := by
  have hc : (configuring (emptyHanded otherCamera)).outcome = .error .nullDevice :=
    outcome_of_crash (by decide)
  refine ⟨_, _, follows_opening (emptyHanded otherCamera) _, ?_, _,
    mem_cons_of_mem _ mem_cons_self, hc, fun h => h.1 hc⟩
  simp only [forall_mem_cons]
  refine ⟨law_of_mem_run (fun _ call => ⟨handsComplete_obliging _ call,
    handsClosable_obliging _ call⟩) _ _, law_of_mem_run (fun _ call => ?_) _ _, nofun⟩
  cases call
  case openOem => exact ⟨nofun, nofun⟩
  all_goals exact ⟨trivial, trivial⟩

end Vcam.OemProxy
