import AndroidVcam.Hal.OemProxy
import AndroidVcam.Lib.Custody

/-!
# The devices of the OEM proxy

Ownership of an OEM device moves from a local variable of `proxyOpen` or `selectPhysicalSource` to a
facade and ends with a `close`. Each function is specified over a frame, the devices of the other
facades, and the device that it carries itself.

* `deed`, `HandsOver`: hand-overs, uses and releases in a trace, and the law of the OEM `open`;
* `Carries`: the frame and the device at hand, with a rule for every call;
* `Tidy`, `Keeps`: every device that is out belongs to exactly one facade;
* **`closed_once`**: over every run, each device is closed exactly once when nobody owns it any more,
  and is not used behind its close.
-/

namespace Vcam.OemProxy

open Dialogue Dialogue.Program TextFile RouteResolver Custody Function

/-! ## Deeds -/

def deed : ProxyEvent → Deed
  | ⟨.openOem _, opened⟩ => if opened.device.isSome then .handOver else .other
  | ⟨.oem _ device _, _⟩ => .use device
  | ⟨.closeOem device, _⟩ => .release device
  | _ => .other

def deeds (trace : List ProxyEvent) : List Deed := trace.map deed

/-- The OEM `open` hands a device over only together with 0, and the device has a `close`. -/
def HandsOver : ProxyEvent → Prop
  | ⟨.openOem _, opened⟩ =>
    ∀ interface, opened.device = some interface → opened.result = 0 ∧ interface.close = true
  | _ => True

/-- The books hold exactly these devices, and the next one has this number. -/
def Books (items : Set ℕ) (obtained : ℕ) (trace : List ProxyEvent) : Prop :=
  Held items (deeds trace) ∧ handed (deeds trace) = obtained

def numberOf : Option OemDevice → Set ℕ
  | none => ∅
  | some device => {device.number}

/-- The books hold the devices of the frame and the one at hand, which is none of them. -/
structure Carries (frame : Set ℕ) (device : Option OemDevice) (obtained : ℕ)
    (trace : List ProxyEvent) : Prop where
  books : Books (frame ∪ numberOf device) obtained trace
  apart : ∀ own, device = some own → own.number ∉ frame
  closable : ∀ own, device = some own → own.interface.close = true

/-! ## The rules -/

section Rules

variable {f : Set ℕ} {device : Option OemDevice} {own : OemDevice} {obtained : ℕ}
  {past : List ProxyEvent} {α : Type}

/-- Every end of a lawful run: behind a crash the trace is still sound. -/
def Minds (post : α → List ProxyEvent → Prop) (past : List ProxyEvent) (x : Proxy α) : Prop :=
  Ensures (Assuming HandsOver (Either (fun _ trace => Sound (deeds trace)) post)) past x.run

theorem minds_pure {post : α → List ProxyEvent → Prop} {v : α} (h : post v past) :
    Minds post past (pure v) := fun _ => h

theorem minds_bind {β : Type} {mid : α → List ProxyEvent → Prop} {post : β → List ProxyEvent → Prop}
    {x : Proxy α} {g : α → Proxy β} (hx : Minds mid past x)
    (hg : ∀ value trace, mid value trace → Minds post trace (g value)) : Minds post past (x >>= g) :=
  ensures_assuming_bind hx fun value trace _ h => hg value trace h

theorem Carries.sound (h : Carries f device obtained past) : Sound (deeds past) :=
  h.books.1.sound

theorem deeds_concat (e : ProxyEvent) : deeds (past ++ [e]) = deeds past ++ [deed e] :=
  List.map_append ..

theorem Carries.other {e : ProxyEvent} (h : Carries f device obtained past)
    (he : deed e = .other) : Carries f device obtained (past ++ [e]) := by
  refine ⟨?_, h.apart, h.closable⟩
  rw [Books, deeds_concat, he]
  exact ⟨h.books.1.other, by simpa [handed] using h.books.2⟩

theorem minds_other {call : Call} (h : Carries f device obtained past)
    (hc : ∀ answer, deed ⟨call, answer⟩ = .other) :
    Minds (fun _ trace => Carries f device obtained trace) past (question call) :=
  ensures_assuming_ask fun answer _ => h.other (hc answer)

theorem minds_openOriginal {id : Text} (h : Carries f none obtained past) :
    Minds (fun opened trace => (∀ interface, opened.device = some interface → opened.result = 0) ∧
      match opened.device with
      | none => Carries f none obtained trace
      | some interface => Carries f (some ⟨obtained, interface⟩) (obtained + 1) trace) past
      (openOriginal id) := by
  refine ensures_assuming_ask fun opened hlaw => ⟨fun interface hi => (hlaw interface hi).1, ?_⟩
  change Opened at opened
  cases hd : opened.device with
  | none =>
    refine h.other ?_
    simp [deed, hd]
  | some interface =>
    have hde : deed ⟨.openOem id, opened⟩ = .handOver := by simp [deed, hd]
    have hn := h.books.1.handOver
    rw [h.books.2, numberOf, Set.union_empty] at hn
    refine ⟨?_, ?_, ?_⟩
    · rw [Books, deeds_concat, hde]
      refine ⟨?_, ?_⟩
      · rwa [numberOf, Set.union_singleton]
      · simpa [handed] using h.books.2
    · rintro _ ⟨⟩ hmem
      have := ((h.books.1.out_iff _).mp (.inl hmem)).1
      rw [h.books.2] at this
      exact lt_irrefl _ this
    · rintro _ ⟨⟩
      exact (hlaw interface hd).2

theorem minds_callOem {op : Op} {a : List ℕ} (h : Carries f device obtained past) :
    Minds (fun _ trace => Carries f device obtained trace) past (callOem device op a) := by
  unfold callOem
  split
  · exact fun _ => h.sound
  · rename_i own
    split
    · exact fun _ => h.sound
    · split_ifs
      · refine ensures_assuming_ask fun answer _ => ⟨?_, h.apart, h.closable⟩
        have hmem : own.number ∈ f ∪ numberOf (some own) := .inr rfl
        rw [Books, deeds_concat]
        exact ⟨h.books.1.use hmem, by simpa [handed, deed] using h.books.2⟩
      · exact fun _ => h.sound

theorem minds_release (h : Carries f (some own) obtained past) :
    Minds (fun _ trace => Carries f none obtained trace) past (release own.number) := by
  refine ensures_assuming_ask fun answer _ => ⟨?_, nofun, nofun⟩
  have hmem : own.number ∈ f ∪ numberOf (some own) := .inr rfl
  have hh := h.books.1.release hmem
  have hr : (f ∪ numberOf (some own)) \ {own.number} = f ∪ numberOf none := by
    ext item
    simp only [numberOf, Set.mem_sdiff, Set.mem_union, Set.mem_singleton_iff, Set.mem_empty_iff_false,
      or_false]
    have := h.apart own rfl
    grind
  rw [hr] at hh
  rw [Books, deeds_concat]
  exact ⟨hh, by simpa [handed, deed] using h.books.2⟩

theorem minds_closeOem (h : Carries f (some own) obtained past) :
    Minds (fun _ trace => Carries f none obtained trace) past (closeOem own) := by
  rw [closeOem, if_pos (h.closable own rfl)]
  exact minds_release h

theorem minds_closePresent (h : Carries f device obtained past) :
    Minds (fun _ trace => Carries f none obtained trace) past (closePresent device) := by
  cases device with
  | none => exact minds_pure h
  | some own =>
    rw [closePresent, if_pos (h.closable own rfl)]
    exact minds_release h

/-! ## Exchanging the device -/

variable {state : ProxyDevice} {source : ℤ}

/-- What `selectPhysicalSource` leaves alone of a facade. -/
def SameFacade (state state' : ProxyDevice) : Prop :=
  state'.cameraId = state.cameraId ∧ state'.facade = state.facade

theorem minds_adopt (hn : state.physical = none)
    (h : Carries f (some own) obtained past) :
    Minds (fun value trace => SameFacade state value.2 ∧
      Carries f value.2.physical obtained trace) past (adopt state own source) := by
  have hd : ∀ {result : Status} {trace : List ProxyEvent}, Carries f none obtained trace →
      SameFacade state (result, state).2 ∧ Carries f (result, state).2.physical obtained trace :=
    fun h => ⟨⟨rfl, rfl⟩, hn ▸ h⟩
  rw [adopt]
  split_ifs
  · exact minds_bind (minds_closeOem h) fun _ _ h => minds_pure (hd h)
  · refine minds_bind (minds_callOem h) fun result _ h => ?_
    split_ifs
    · exact minds_bind (minds_closeOem h) fun _ _ h => minds_pure (hd h)
    · exact minds_pure ⟨⟨rfl, rfl⟩, h⟩

theorem minds_selectPhysicalSource (h : Carries f state.physical obtained past) :
    Minds (fun value trace => SameFacade state value.2.1 ∧
      Carries f value.2.1.physical value.2.2 trace) past
      (selectPhysicalSource state obtained source) := by
  rw [selectPhysicalSource]
  split_ifs
  · exact minds_pure ⟨⟨rfl, rfl⟩, h⟩
  · exact minds_pure ⟨⟨rfl, rfl⟩, h⟩
  refine minds_bind (minds_closePresent h) fun _ _ h => ?_
  refine minds_bind (minds_openOriginal h) fun opened _ ho => ?_
  obtain ⟨hr, hc⟩ := ho
  dsimp only
  split
  · rename_i hd
    simp only [hd] at hc
    exact minds_pure ⟨⟨rfl, rfl⟩, hc⟩
  · rename_i interface hd
    simp only [hd] at hc
    rw [if_neg (not_not.mpr (hr interface hd))]
    exact minds_bind (minds_adopt rfl hc) fun value _ h => minds_pure h

end Rules

/-! ## The table -/

def Proxies.holding (s : Proxies) (slot : Fin 16) : Option OemDevice :=
  (s.devices slot).bind (·.physical)

/-- The devices of all facades but the one in the slot. -/
def Proxies.others (s : Proxies) (slot : Fin 16) : Set ℕ :=
  { number | ∃ other own, other ≠ slot ∧ s.holding other = some own ∧ own.number = number }

def Proxies.owned (s : Proxies) : Set ℕ :=
  { number | ∃ slot own, s.holding slot = some own ∧ own.number = number }

/-- Every facade stands in its slot, no device and no facade is in two slots, and every device can
be closed. -/
structure Tidy (s : Proxies) : Prop where
  placed : s.Placed
  apart : ∀ slot own, s.holding slot = some own → own.number ∉ s.others slot
  closable : ∀ slot own, s.holding slot = some own → own.interface.close = true
  known : ∀ slot state, s.devices slot = some state → state.facade < s.facades
  single : ∀ slot slot' state state', s.devices slot = some state → s.devices slot' = some state' →
    state.facade = state'.facade → slot = slot'

/-- Between two calls the devices that are out are those of the facades. -/
structure Keeps (s : Proxies) (trace : List ProxyEvent) : Prop where
  tidy : Tidy s
  books : Books s.owned s.obtained trace

theorem keeps_empty : Keeps {} [] := by
  have ho : Proxies.owned {} = ∅ := by
    ext number
    simp [Proxies.owned, Proxies.holding]
  refine ⟨⟨nofun, nofun, nofun, nofun, nofun⟩, ?_⟩
  rw [ho]
  exact ⟨held_nil, rfl⟩

variable {s : Proxies} {state state' : ProxyDevice} {trace : List ProxyEvent} {slot : Fin 16}

theorem owned_eq (s : Proxies) (slot : Fin 16) :
    s.owned = s.others slot ∪ numberOf (s.holding slot) := by
  ext number
  constructor
  · rintro ⟨other, own, hown, rfl⟩
    by_cases hs : other = slot
    · subst hs
      rw [hown]
      exact .inr rfl
    · exact .inl ⟨other, own, hs, hown, rfl⟩
  · rintro (⟨other, own, -, hown, rfl⟩ | hmem)
    · exact ⟨other, own, hown, rfl⟩
    · cases hown : s.holding slot with
      | none =>
        rw [hown] at hmem
        exact hmem.elim
      | some own =>
        rw [hown] at hmem
        exact ⟨slot, own, hown, hmem.symm⟩

/-- A call takes up the device of its facade; the frame is what the other facades have. -/
theorem Keeps.carries (h : Keeps s trace) (slot : Fin 16) :
    Carries (s.others slot) (s.holding slot) s.obtained trace :=
  ⟨owned_eq s slot ▸ h.books, fun own => h.tidy.apart slot own, fun own => h.tidy.closable slot own⟩

section Update

variable {s' : Proxies} {entry : Option ProxyDevice}
  (hdevices : s'.devices = update s.devices slot entry)
include hdevices

theorem holding_update (other : Fin 16) :
    s'.holding other = if other = slot then entry.bind (·.physical) else s.holding other := by
  rw [Proxies.holding, hdevices, update_apply]
  split_ifs
  · rfl
  · rfl

theorem others_update : s'.others slot = s.others slot := by
  ext number
  refine exists_congr fun other => exists_congr fun own => and_congr_right fun hne => ?_
  rw [holding_update hdevices, if_neg hne]

/-- **A call puts down what it carries in the slot of its facade.** -/
theorem Carries.keeps (hs : Tidy s) (hf : s.facades ≤ s'.facades)
    (he : ∀ state', entry = some state' → state'.cameraId = slot ∧ state'.facade < s'.facades ∧
      ∀ other state, other ≠ slot → s.devices other = some state → state.facade ≠ state'.facade)
    (h : Carries (s.others slot) (entry.bind (·.physical)) s'.obtained trace) : Keeps s' trace := by
  have hh := holding_update hdevices
  have hsl : s'.holding slot = entry.bind (·.physical) := by rw [hh, if_pos rfl]
  have hold : ∀ {other}, other ≠ slot → s'.devices other = s.devices other := by
    intro other hne
    rw [hdevices, update_of_ne hne]
  have hnew : s'.devices slot = entry := by rw [hdevices, update_self]
  refine ⟨⟨?_, ?_, ?_, ?_, ?_⟩, ?_⟩
  · intro other state hst
    by_cases hne : other = slot
    · subst hne
      exact (he state (hnew ▸ hst)).1
    · exact hs.placed other state (hold hne ▸ hst)
  · rintro other own hown ⟨third, own', hth, ho', hsa⟩
    rw [hh] at hown ho'
    split_ifs at hown ho' with ho ht ht
    · exact hth (ht.trans ho.symm)
    · exact h.apart own hown ⟨third, own', ht, ho', hsa⟩
    · exact h.apart own' ho' ⟨other, own, ho, hown, hsa.symm⟩
    · exact hs.apart other own hown ⟨third, own', hth, ho', hsa⟩
  · intro other own hown
    rw [hh] at hown
    split_ifs at hown
    · exact h.closable own hown
    · exact hs.closable other own hown
  · intro other state hst
    by_cases hne : other = slot
    · subst hne
      exact (he state (hnew ▸ hst)).2.1
    · exact (hs.known other state (hold hne ▸ hst)).trans_le hf
  · intro other third state state' hst hs' hsa
    by_cases hne : other = slot
    · by_cases hne' : third = slot
      · exact hne.trans hne'.symm
      · subst hne
        exact absurd hsa.symm
          ((he state (hnew ▸ hst)).2.2 third state' hne' (hold hne' ▸ hs'))
    · by_cases hne' : third = slot
      · subst hne'
        exact absurd hsa
          ((he state' (hnew ▸ hs')).2.2 other state hne (hold hne ▸ hst))
      · exact hs.single other third state state' (hold hne ▸ hst) (hold hne' ▸ hs') hsa
  · rw [owned_eq s' slot, others_update hdevices, hsl]
    exact h.books

end Update

theorem keeps_iff_carries : Keeps s trace ↔ Tidy s ∧ Carries s.owned none s.obtained trace := by
  have hu : s.owned ∪ numberOf none = s.owned := Set.union_empty _
  constructor
  · intro h
    exact ⟨h.tidy, hu.symm ▸ h.books, nofun, nofun⟩
  · rintro ⟨ht, h⟩
    exact ⟨ht, hu ▸ h.books⟩

theorem Tidy.numbered (hs : Tidy s) (obtained : ℕ) : Tidy { s with obtained := obtained } :=
  ⟨hs.placed, hs.apart, hs.closable, hs.known, hs.single⟩

/-! ## The calls -/

/-- What a call does to the facades of the table. -/
def Effect (s : Proxies) : Method → ℤ × Proxies → Prop
  | .proxyOpen _ _, (result, s') =>
    (result ≠ 0 ∧ s'.devices = s.devices ∧ s'.facades = s.facades) ∨
      (result = 0 ∧ s'.facades = s.facades + 1 ∧ ∃ slot state, s.devices slot = none ∧
        state.facade = s.facades ∧ s'.devices = update s.devices slot (some state))
  | .proxyClose device, (_, s') =>
    s'.facades = s.facades ∧ s'.devices = match s.findDevice device with
      | none => s.devices
      | some state => update s.devices state.cameraId none
  | .proxyInitialize device _, (_, s') => Writes device s s'
  | .proxyConfigure device _, (_, s') => Writes device s s'
  | _, (_, s') => s' = s
where
  /-- At most the facade of the call is written. -/
  Writes (device : ℕ) (s s' : Proxies) : Prop :=
    s'.facades = s.facades ∧ (s'.devices = s.devices ∨ ∃ state state',
      s.findDevice device = some state ∧ SameFacade state state' ∧
        s'.devices = update s.devices state.cameraId (some state'))

variable {past : List ProxyEvent}

/-- A call ends with the books in order and does what its method may do. -/
def Orderly (s : Proxies) (method : Method) (past : List ProxyEvent) (x : Proxy (ℤ × Proxies)) :
    Prop :=
  Minds (fun value trace => Keeps value.2 trace ∧ Effect s method value) past x

theorem minds_openFacade {p : OemDevice} {cameraId : Fin 16} (hs : Tidy s)
    (h : Carries s.owned (some p) s.obtained past) (id : Option Text) (out : Bool) :
    Orderly s (.proxyOpen id out) past (openFacade s p cameraId) := by
  refine minds_bind (minds_other h fun _ => rfl) ?_
  rintro ⟨virtualResult, virtualDevice⟩ trace hc
  dsimp only
  by_cases hv : virtualResult ≠ 0 ∨ virtualDevice = false
  · rw [if_pos hv]
    refine minds_bind (minds_closeOem hc) fun _ _ h => minds_pure ?_
    refine ⟨keeps_iff_carries.mpr ⟨hs, h⟩, .inl ⟨?_, rfl, rfl⟩⟩
    split_ifs with hz
    · decide
    · exact hz
  rw [if_neg hv]
  split_ifs with hsl
  · refine minds_bind (minds_other hc fun _ => rfl) fun _ _ h => ?_
    refine minds_bind (minds_closeOem h) fun _ _ h => minds_pure ?_
    exact ⟨keeps_iff_carries.mpr ⟨hs, h⟩, .inl ⟨by decide, rfl, rfl⟩⟩
  · have he : s.devices cameraId = none := by simpa using hsl
    have hf : s.owned = s.others cameraId := by
      rw [owned_eq s cameraId, Proxies.holding, he]
      exact Set.union_empty _
    rw [hf] at hc
    refine minds_pure ⟨@Carries.keeps s _ cameraId _ (some _) rfl hs (Nat.le_succ _) ?_ hc,
      .inr ⟨rfl, rfl, cameraId, _, he, rfl, rfl⟩⟩
    rintro _ ⟨⟩
    exact ⟨rfl, Nat.lt_succ_self _, fun other state _ hst => (hs.known other state hst).ne⟩

theorem orderly_proxyOpen (h : Keeps s past) (id : Option Text) (out : Bool) :
    Orderly s (.proxyOpen id out) past (proxyOpen s id out) := by
  obtain ⟨hs, hc⟩ := keeps_iff_carries.mp h
  have hre : ∀ {result : ℤ}, result ≠ 0 → Effect s (.proxyOpen id out) (result, s) :=
    fun hr => .inl ⟨hr, rfl, rfl⟩
  cases id with
  | none => exact minds_pure ⟨h, hre (by decide)⟩
  | some id =>
    rw [proxyOpen]
    split_ifs with hout
    · exact minds_pure ⟨h, hre (by decide)⟩
    refine minds_bind (minds_openOriginal hc) fun opened trace ho => ?_
    obtain ⟨hr, hc⟩ := ho
    split
    · rename_i hd
      simp only [hd] at hc
      refine minds_pure ⟨keeps_iff_carries.mpr ⟨hs, hc⟩, hre ?_⟩
      split_ifs with hz
      · exact hz
      · decide
    · rename_i interface hd
      simp only [hd] at hc
      have hs' := hs.numbered (s.obtained + 1)
      have hcl : ∀ {result : ℤ} {trace : List ProxyEvent}, result ≠ 0 →
          Carries s.owned none (s.obtained + 1) trace →
          Keeps { s with obtained := s.obtained + 1 } trace ∧
            Effect s (.proxyOpen (some id) out) (result, { s with obtained := s.obtained + 1 }) :=
        fun hr h => ⟨keeps_iff_carries.mpr ⟨hs', h⟩, .inl ⟨hr, rfl, rfl⟩⟩
      dsimp only
      rw [if_neg (not_not.mpr (hr interface hd))]
      split_ifs
      · refine minds_bind (minds_closePresent hc) fun _ _ h => minds_pure ?_
        exact hcl (by decide) h
      · split
        · refine minds_bind (minds_closeOem hc) fun _ _ h => minds_pure ?_
          exact hcl (by decide) h
        · exact minds_openFacade hs' hc (some id) out

theorem holding_of_findDevice (hs : Tidy s) {d : ℕ} (hf : s.findDevice d = some state) :
    s.holding state.cameraId = state.physical := by
  rw [Proxies.holding, (hs.placed.of_findDevice hf).1]
  rfl

theorem Carries.settled {d : ℕ} (hs : Tidy s) (hf : s.findDevice d = some state)
    (h : Carries (s.others state.cameraId) state.physical s.obtained trace) : Keeps s trace := by
  refine ⟨hs, ?_⟩
  rw [owned_eq s state.cameraId, holding_of_findDevice hs hf]
  exact h.books

theorem put_put {obtained : ℕ} {backend : Backend} {packageName : Text} :
    { s.put state with obtained := obtained }.put
        { state with backend := backend, packageName := packageName } =
      { s.put { state with backend := backend, packageName := packageName } with
        obtained := obtained } := by
  simp only [Proxies.put, update_idem]

theorem Carries.writes {d obtained : ℕ} (hs : Tidy s)
    (hf : s.findDevice d = some state) (hsa : SameFacade state state')
    (h : Carries (s.others state.cameraId) state'.physical obtained trace) :
    Keeps { s.put state' with obtained := obtained } trace ∧
      Effect.Writes d s { s.put state' with obtained := obtained } := by
  have hdevices : (s.put state').devices = update s.devices state.cameraId (some state') := by
    rw [Proxies.put, hsa.1]
  obtain ⟨hst, -⟩ := hs.placed.of_findDevice hf
  refine ⟨@Carries.keeps s trace state.cameraId { s.put state' with obtained := obtained }
    (some state') hdevices hs le_rfl ?_ h, rfl, .inr ⟨state, state', hf, hsa, hdevices⟩⟩
  rintro _ ⟨⟩
  refine ⟨hsa.1, ?_, fun other found hne hfo heq => hne ?_⟩
  · rw [hsa.2]
    exact hs.known _ state hst
  · rw [hsa.2] at heq
    exact hs.single other state.cameraId found state hfo hst heq

theorem orderly_reading {m : Method} {call : Proxy ℤ}
    (hc : Minds (fun _ trace => Keeps s trace) past call)
    (he : ∀ value, Effect s m (value, s)) : Orderly s m past (reading s call) :=
  minds_bind hc fun value _ h => minds_pure ⟨h, he value⟩

section Calls

variable (h : Keeps s past)

include h

theorem orderly_proxyClose (d : ℕ) :
    Orderly s (.proxyClose d) past (proxyClose s d) := by
  rw [proxyClose]
  split
  · rename_i hf
    exact minds_pure ⟨h, rfl, by rw [hf]⟩
  · rename_i state hf
    have hc := h.carries state.cameraId
    rw [holding_of_findDevice h.tidy hf] at hc
    refine minds_bind (minds_other hc fun _ => rfl) fun _ _ hc => ?_
    refine minds_bind (minds_closePresent hc) fun _ _ hc => minds_pure ⟨?_, rfl, ?_⟩
    · exact @Carries.keeps s _ state.cameraId _ none rfl h.tidy le_rfl nofun hc
    · rw [hf]

theorem orderly_proxyInitialize (d c : ℕ) :
    Orderly s (.proxyInitialize d c) past (proxyInitialize s d c) := by
  have hn : Keeps s past ∧ Effect.Writes d s s := ⟨h, rfl, .inl rfl⟩
  rw [proxyInitialize]
  split
  · exact minds_pure hn
  · rename_i state hf
    split_ifs
    · exact minds_pure hn
    have hc := h.carries state.cameraId
    rw [holding_of_findDevice h.tidy hf] at hc
    refine minds_bind (minds_callOem hc) fun result _ hc => ?_
    split_ifs
    · exact minds_pure (hc.writes h.tidy hf ⟨rfl, rfl⟩)
    · refine minds_bind (minds_other hc fun _ => rfl) fun _ _ hc => ?_
      exact minds_pure (hc.writes h.tidy hf ⟨rfl, rfl⟩)

theorem orderly_proxyConfigure (globalRouteOnly : Bool) (d : ℕ)
    (c : Option Configuration) :
    Orderly s (.proxyConfigure d c) past
      (proxyConfigure globalRouteOnly s d c) := by
  unfold proxyConfigure
  split
  · rename_i state c hf
    have hc := h.carries state.cameraId
    rw [holding_of_findDevice h.tidy hf] at hc
    refine minds_bind (minds_other hc fun _ => rfl) fun fs trace hc => ?_
    dsimp only
    split_ifs
    · refine minds_bind (minds_other hc fun _ => rfl) fun _ _ hc => ?_
      refine minds_bind (minds_other hc fun _ => rfl) fun result trace hc => ?_
      split_ifs
      · exact minds_pure (hc.writes h.tidy hf ⟨rfl, rfl⟩)
      · exact minds_pure ⟨hc.settled h.tidy hf, rfl, .inl rfl⟩
    · refine minds_bind (minds_selectPhysicalSource hc) ?_
      rintro ⟨selected, state', obtained⟩ trace ⟨hs, hc⟩
      dsimp only at hs hc ⊢
      split_ifs
      · exact minds_pure (hc.writes h.tidy hf hs)
      · refine minds_bind (minds_callOem hc) fun result trace hc => ?_
        split_ifs
        · rw [put_put]
          exact minds_pure (hc.writes h.tidy hf hs)
        · exact minds_pure (hc.writes h.tidy hf hs)
  · exact minds_pure ⟨h, rfl, .inl rfl⟩

/-! ## The calls that pass on -/

variable {device : ℕ} {op : Op} {a : List ℕ}

theorem keeps_callOem (hf : s.findDevice device = some state) :
    Minds (fun _ trace => Keeps s trace) past (callOem state.physical op a) := by
  have hc := h.carries state.cameraId
  rw [holding_of_findDevice h.tidy hf] at hc
  refine Ensures.mono (minds_callOem hc) fun outcome trace hend hlaw => ?_
  cases outcome with
  | error crash => exact hend hlaw
  | ok value => exact (hend hlaw).settled h.tidy hf

theorem keeps_callVirtual {c : Fin 16} :
    Minds (fun _ trace => Keeps s trace) past (callVirtual c op a) := by
  obtain ⟨hs, hc⟩ := keeps_iff_carries.mp h
  exact ensures_assuming_ask fun _ _ => keeps_iff_carries.mpr ⟨hs, hc.other rfl⟩

theorem keeps_passOn {m : ℤ} :
    Minds (fun _ trace => Keeps s trace) past (passOn op m s device a) := by
  rw [passOn]
  split
  · exact minds_pure h
  · rename_i state hf
    split_ifs
    · exact keeps_callVirtual h
    · exact minds_pure h
    · exact keeps_callOem h hf
    · exact minds_pure h

theorem keeps_proxyDefaultRequest {type : ℕ} :
    Minds (fun _ trace => Keeps s trace) past (proxyDefaultRequest s device type) := by
  rw [proxyDefaultRequest]
  split
  · exact minds_pure h
  · rename_i state hf
    split_ifs
    · exact keeps_callVirtual h
    · exact minds_pure h
    · exact keeps_callOem h hf

theorem keeps_proxyProcessRequest {r : ℕ} :
    Minds (fun _ trace => Keeps s trace) past (proxyProcessRequest s device r) := by
  rw [proxyProcessRequest]
  split
  · exact minds_pure h
  · rename_i state hf
    split_ifs
    · exact keeps_callVirtual h
    · exact keeps_callOem h hf

theorem keeps_proxyDump {fd : ℕ} :
    Minds (fun _ trace => Keeps s trace) past (proxyDump s device fd) := by
  rw [proxyDump]
  split
  · exact minds_pure h
  · rename_i state hf
    split_ifs
    · exact keeps_callVirtual h
    split
    · exact minds_pure h
    · rename_i physical hp
      split_ifs
      · exact minds_pure h
      · rw [← hp]
        exact keeps_callOem h hf

/-- **Every call ends with the books in order.** -/
theorem orderly_program (globalRouteOnly : Bool) (m : Method) :
    Orderly s m past (m.program globalRouteOnly s) := by
  cases m with
  | proxyOpen id out => exact orderly_proxyOpen h id out
  | proxyClose device => exact orderly_proxyClose h device
  | proxyInitialize device callbacks => exact orderly_proxyInitialize h device callbacks
  | proxyConfigure device config => exact orderly_proxyConfigure h globalRouteOnly device config
  | proxyDefaultRequest device type =>
    exact orderly_reading (keeps_proxyDefaultRequest h) fun _ => rfl
  | proxyProcessRequest device request =>
    exact orderly_reading (keeps_proxyProcessRequest h) fun _ => rfl
  | proxyDump device fd => exact orderly_reading (keeps_proxyDump h) fun _ => rfl
  | proxyFlush device => exact orderly_reading (keeps_passOn h) fun _ => rfl
  | proxySignalFlush device count streams => exact orderly_reading (keeps_passOn h) fun _ => rfl
  | proxyReconfigurationRequired device oldParams newParams =>
    exact orderly_reading (keeps_passOn h) fun _ => rfl

end Calls

/-! ## Runs -/

def traceOf (steps : List Step) : List ProxyEvent := steps.flatMap (·.events)

theorem traceOf_concat (steps : List Step) (step : Step) :
    traceOf (steps ++ [step]) = traceOf steps ++ step.events := by
  simp [traceOf]

def Proxies.Owns (s : Proxies) (slot : Fin 16) (number : ℕ) : Prop :=
  ∃ own, s.holding slot = some own ∧ own.number = number

def Proxies.Shows (s : Proxies) (slot : Fin 16) (facade : ℕ) : Prop :=
  ∃ state, s.devices slot = some state ∧ state.facade = facade

def Step.Closes (facade : ℕ) (step : Step) : Prop :=
  step.method = .proxyClose facade ∧ ∃ state, step.before.findDevice facade = some state

/-- The facades in the table are those that were handed out and not closed. -/
structure Ledger (steps : List Step) (s : Proxies) : Prop where
  out_iff : ∀ facade, (∃ slot, s.Shows slot facade) ↔
    facade < s.facades ∧ ¬ ∃ step ∈ steps, step.Closes facade
  known : ∀ facade, (∃ step ∈ steps, step.Closes facade) → facade < s.facades

theorem ledger_empty : Ledger [] {} := by
  refine ⟨fun facade => ⟨?_, fun h => absurd h.1 (Nat.not_lt_zero _)⟩, ?_⟩
  · rintro ⟨slot, state, h, -⟩
    cases h
  · rintro facade ⟨step, h, -⟩
    cases h

theorem exists_mem_concat {steps : List Step} {step : Step} {facade : ℕ} :
    (∃ found ∈ steps ++ [step], found.Closes facade) ↔
      (∃ found ∈ steps, found.Closes facade) ∨ step.Closes facade := by
  simp [or_and_right, exists_or]

section LedgerSteps

variable {steps : List Step} {step : Step} {s' : Proxies} {result : ℤ}

theorem Ledger.unchanged (h : Ledger steps s) (hno : ∀ facade, ¬ step.Closes facade)
    (hf : s'.facades = s.facades)
    (hs : ∀ slot facade, s'.Shows slot facade ↔ s.Shows slot facade) :
    Ledger (steps ++ [step]) s' := by
  refine ⟨fun facade => ?_, fun facade => ?_⟩
  · rw [exists_congr fun slot => hs slot facade, h.out_iff, hf, exists_mem_concat,
      or_iff_left (hno facade)]
  · rw [exists_mem_concat, or_iff_left (hno facade), hf]
    exact h.known facade

theorem shows_of_devices_eq (hdevices : s'.devices = s.devices) (slot : Fin 16) (facade : ℕ) :
    s'.Shows slot facade ↔ s.Shows slot facade := by
  rw [Proxies.Shows, Proxies.Shows, hdevices]

theorem shows_update {e : Option ProxyDevice}
    (hdevices : s'.devices = update s.devices slot e) (o : Fin 16) (facade : ℕ) :
    s'.Shows o facade ↔
      if o = slot then ∃ state, e = some state ∧ state.facade = facade
      else s.Shows o facade := by
  rw [Proxies.Shows, hdevices, update_apply]
  split_ifs
  · rfl
  · rfl

theorem shows_of_writes (hs : Tidy s) (h : Effect.Writes device s s') (slot : Fin 16) (facade : ℕ) :
    s'.Shows slot facade ↔ s.Shows slot facade := by
  obtain ⟨-, hsa | ⟨state, state', hfi, hf, hdevices⟩⟩ := h
  · exact shows_of_devices_eq hsa slot facade
  · rw [shows_update hdevices]
    split_ifs with hsl
    · subst hsl
      rw [Proxies.Shows, (hs.placed.of_findDevice hfi).1]
      simp [hf.2]
    · rfl

theorem Ledger.opened (h : Ledger steps s) (hno : ∀ facade, ¬ step.Closes facade)
    (hf : s'.facades = s.facades + 1) (he : s.devices slot = none)
    (hfa : state.facade = s.facades)
    (hdevices : s'.devices = update s.devices slot (some state)) :
    Ledger (steps ++ [step]) s' := by
  have hs : ∀ facade, (∃ other, s'.Shows other facade) ↔
      (∃ other, s.Shows other facade) ∨ facade = s.facades := by
    intro facade
    constructor
    · rintro ⟨other, ho⟩
      rw [shows_update hdevices] at ho
      split_ifs at ho
      · obtain ⟨_, ⟨⟩, rfl⟩ := ho
        exact .inr hfa
      · exact .inl ⟨other, ho⟩
    · rintro (⟨other, ho⟩ | rfl)
      · refine ⟨other, (shows_update hdevices other facade).mpr ?_⟩
        rw [if_neg]
        · exact ho
        · rintro rfl
          obtain ⟨found, hfo, -⟩ := ho
          rw [he] at hfo
          cases hfo
      · refine ⟨slot, (shows_update hdevices slot s.facades).mpr ?_⟩
        rw [if_pos rfl]
        exact ⟨state, rfl, hfa⟩
  refine ⟨fun facade => ?_, fun facade => ?_⟩
  · rw [hs, h.out_iff, hf, exists_mem_concat, or_iff_left (hno facade)]
    have hk := h.known facade
    constructor
    · rintro (⟨hlt, hout⟩ | rfl)
      · exact ⟨hlt.trans (Nat.lt_succ_self _), hout⟩
      · exact ⟨Nat.lt_succ_self _, fun hc => lt_irrefl _ (hk hc)⟩
    · rintro ⟨hlt, hout⟩
      exact (Nat.lt_succ_iff_lt_or_eq.mp hlt).imp_left fun hlt => ⟨hlt, hout⟩
  · rw [exists_mem_concat, or_iff_left (hno facade), hf]
    exact fun hc => (h.known facade hc).trans (Nat.lt_succ_self _)

theorem Ledger.closed (hs : Tidy s) (h : Ledger steps s) (hfi : s.findDevice device = some state)
    (hste : ∀ facade, step.Closes facade ↔ facade = device) (hfc : s'.facades = s.facades)
    (hdevices : s'.devices = update s.devices state.cameraId none) :
    Ledger (steps ++ [step]) s' := by
  obtain ⟨hst, hfa⟩ := hs.placed.of_findDevice hfi
  have hsh : ∀ facade, (∃ other, s'.Shows other facade) ↔
      (∃ other, s.Shows other facade) ∧ facade ≠ device := by
    intro facade
    constructor
    · rintro ⟨other, ho⟩
      rw [shows_update hdevices] at ho
      split_ifs at ho with hsl
      · obtain ⟨_, ⟨⟩, -⟩ := ho
      · refine ⟨⟨other, ho⟩, ?_⟩
        rintro rfl
        obtain ⟨found, hf, heq⟩ := ho
        exact hsl (hs.single _ _ found state hf hst (heq.trans hfa.symm))
    · rintro ⟨⟨other, found, hf, rfl⟩, hne⟩
      refine ⟨other, (shows_update hdevices other found.facade).mpr ?_⟩
      rw [if_neg]
      · exact ⟨found, hf, rfl⟩
      · rintro rfl
        rw [hst] at hf
        cases hf
        exact hne hfa
  refine ⟨fun facade => ?_, fun facade => ?_⟩
  · rw [hsh, h.out_iff, hfc, exists_mem_concat, hste, not_or, and_assoc]
  · rw [exists_mem_concat, hste, hfc]
    rintro (hc | rfl)
    · exact h.known facade hc
    · exact hfa ▸ hs.known _ state hst

/-- **Every call carries the ledger on.** -/
theorem Ledger.concat (hs : Tidy step.before) (h : Ledger steps step.before)
    (he : Effect step.before step.method (result, s')) : Ledger (steps ++ [step]) s' := by
  obtain ⟨before, method, events, outcome⟩ := step
  dsimp only at hs h he
  cases method with
  | proxyOpen id out =>
    rcases he with ⟨-, hdevices, hf⟩ | ⟨-, hf, slot, state, hem, hfa, hdevices⟩
    · exact h.unchanged (fun _ hc => nomatch hc.1) hf (shows_of_devices_eq hdevices)
    · exact h.opened (fun _ hc => nomatch hc.1) hf hem hfa hdevices
  | proxyClose device =>
    obtain ⟨hf, hdevices⟩ := he
    cases hfi : before.findDevice device with
    | none =>
      rw [hfi] at hdevices
      refine h.unchanged ?_ hf (shows_of_devices_eq hdevices)
      rintro facade ⟨hm, state, hst⟩
      cases hm
      rw [hfi] at hst
      cases hst
    | some state =>
      rw [hfi] at hdevices
      refine h.closed hs hfi (fun facade => ⟨?_, ?_⟩) hf hdevices
      · rintro ⟨hm, -⟩
        cases hm
        rfl
      · rintro rfl
        exact ⟨rfl, state, hfi⟩
  | proxyInitialize device callbacks =>
    exact h.unchanged (fun _ hc => nomatch hc.1) he.1 (shows_of_writes hs he)
  | proxyConfigure device config =>
    exact h.unchanged (fun _ hc => nomatch hc.1) he.1 (shows_of_writes hs he)
  | _ =>
    obtain rfl : s' = before := he
    exact h.unchanged (fun _ hc => nomatch hc.1) rfl fun _ _ => Iff.rfl

end LedgerSteps

/-! ## The main result -/

variable {globalRouteOnly : Bool} {steps : List Step} {final : Option Proxies}

structure Sober (steps : List Step) (final : Option Proxies) : Prop where
  sound : Sound (deeds (traceOf steps))
  keeps : ∀ s, final = some s → Keeps s (traceOf steps)
  ledger : ∀ s, final = some s → Ledger steps s

theorem ends_of_takes {step : Step} {s₁ s₂ : Option Proxies} (h : Sober steps s₁)
    (ht : Takes globalRouteOnly s₁ step s₂)
    (hlaw : ∀ event ∈ traceOf (steps ++ [step]), HandsOver event) :
    Keeps step.before (traceOf steps) ∧
      Either (fun _ trace => Sound (deeds trace))
        (fun value trace => Keeps value.2 trace ∧ Effect step.before step.method value) step.outcome
        (traceOf (steps ++ [step])) := by
  obtain ⟨rfl, hp, rfl⟩ := ht
  have hk := h.keeps _ rfl
  rw [traceOf_concat] at hlaw ⊢
  exact ⟨hk, ensures_iff_path.mp (orderly_program hk globalRouteOnly step.method) _ _ hp
    hlaw⟩

theorem sober_of_takes {step : Step} {s₁ s₂ : Option Proxies} (h : Sober steps s₁)
    (ht : Takes globalRouteOnly s₁ step s₂)
    (hlaw : ∀ event ∈ traceOf (steps ++ [step]), HandsOver event) : Sober (steps ++ [step]) s₂ := by
  obtain ⟨hk, hend⟩ := ends_of_takes h ht hlaw
  obtain ⟨rfl, -, rfl⟩ := ht
  cases hout : step.outcome with
  | error crash =>
    rw [hout] at hend
    have hn : step.after = none := by rw [Step.after, hout]; rfl
    exact ⟨hend, fun s hs => (nomatch hn.symm.trans hs), fun s hs => (nomatch hn.symm.trans hs)⟩
  | ok value =>
    rw [hout] at hend
    have hso : step.after = some value.2 := by rw [Step.after, hout]; rfl
    obtain ⟨hb, he⟩ := hend
    rw [hso]
    refine ⟨hb.books.1.sound, ?_, ?_⟩
    · rintro _ ⟨⟩
      exact hb
    · rintro _ ⟨⟩
      exact (h.ledger _ rfl).concat hk.tidy he

theorem sober_of_follows (hrun : Follows (Takes globalRouteOnly) (some {}) steps final)
    (hlaw : ∀ event ∈ traceOf steps, HandsOver event) : Sober steps final := by
  revert hlaw
  refine hrun.history (P := fun steps final => (∀ event ∈ traceOf steps, HandsOver event) →
    Sober steps final) (fun _ => ?_) fun before step s₁ s₂ _ ih ht hlaw => ?_
  · exact ⟨throughout_nil, fun s hs => Option.some.inj hs ▸ keeps_empty,
      fun s hs => Option.some.inj hs ▸ ledger_empty⟩
  · refine sober_of_takes (ih fun event he => hlaw event ?_) ht hlaw
    rw [traceOf_concat]
    exact List.mem_append_left _ he

/-- What a call that returned has seen to: a failed `proxyOpen` has closed what it obtained,
`proxyClose` has closed the device of its facade, and what `proxyConfigure` obtained is closed or
belongs to its facade. -/
def Step.Settles (past trace : List ProxyEvent) (step : Step) : Prop :=
  ∀ result s, step.outcome = .ok (result, s) →
    match step.method with
    | .proxyOpen _ _ => result ≠ 0 → ∀ number, handed (deeds past) ≤ number →
      number < handed (deeds trace) → released number (deeds trace) = 1
    | .proxyClose device => ∀ state own, step.before.findDevice device = some state →
      state.physical = some own → released own.number (deeds trace) = 1
    | .proxyConfigure device _ => ∀ number, handed (deeds past) ≤ number →
      number < handed (deeds trace) → released number (deeds trace) = 1 ∨
        ∃ state own, s.findDevice device = some state ∧ state.physical = some own ∧
          own.number = number
    | _ => True

theorem Keeps.closed_or_owned (h : Keeps s trace) {n : ℕ} (hn : n < handed (deeds trace)) :
    (released n (deeds trace) = 1 ∧ ∀ slot, ¬ s.Owns slot n) ∨
      (released n (deeds trace) = 0 ∧ ∃! slot, s.Owns slot n) := by
  by_cases hmem : n ∈ s.owned
  · obtain ⟨slot, own, hown, rfl⟩ := hmem
    refine .inr ⟨((h.books.1.out_iff _).mp ⟨slot, own, hown, rfl⟩).2, slot, ⟨own, hown, rfl⟩, ?_⟩
    rintro other ⟨own', ho', hs⟩
    by_contra hne
    exact h.tidy.apart slot own hown ⟨other, own', hne, ho', hs⟩
  · exact .inl ⟨h.books.1.released_eq_one hn hmem, fun slot hown => hmem ⟨slot, hown⟩⟩

theorem Keeps.notMem_of_handed_le (h : Keeps s past) {n : ℕ}
    (hle : handed (deeds past) ≤ n) : n ∉ s.owned := fun hmem =>
  absurd ((h.books.1.out_iff n).mp hmem).1 (Nat.not_lt.mpr hle)

theorem settles_of_keeps {step : Step} {r : ℤ} {s' : Proxies} (h : Keeps step.before past)
    (hm : handed (deeds past) ≤ handed (deeds trace))
    (hout : step.outcome = .ok (r, s')) (h' : Keeps s' trace)
    (he : Effect step.before step.method (r, s')) : step.Settles past trace := by
  obtain ⟨before, method, events, outcome⟩ := step
  dsimp only at h hout he
  subst hout
  rintro _ _ ⟨⟩
  cases method with
  | proxyOpen id out =>
    intro hr number hle hlt
    obtain ⟨-, hdevices, -⟩ := he.resolve_right fun hok => hr hok.1
    have ho : s'.owned = before.owned := by
      simp only [Proxies.owned, Proxies.holding, hdevices]
    exact h'.books.1.released_eq_one hlt (ho ▸ h.notMem_of_handed_le hle)
  | proxyClose device =>
    intro state own hf hown
    obtain ⟨-, hdevices⟩ := he
    rw [hf] at hdevices
    have hh : before.holding state.cameraId = some own :=
      (holding_of_findDevice h.tidy hf).trans hown
    have hout := (h.books.1.out_iff own.number).mp ⟨state.cameraId, own, hh, rfl⟩
    refine h'.books.1.released_eq_one (hout.1.trans_le hm) ?_
    rintro ⟨slot, own', ho', hs⟩
    rw [holding_update hdevices] at ho'
    split_ifs at ho' with hsl
    · cases ho'
    · exact h.tidy.apart _ own hh ⟨slot, own', hsl, ho', hs⟩
  | proxyConfigure device config =>
    intro number hle hlt
    by_cases hmem : number ∈ s'.owned
    · refine .inr ?_
      have hnew := h.notMem_of_handed_le hle
      obtain ⟨slot, own, hown, rfl⟩ := hmem
      obtain ⟨-, hdevices | ⟨state, state', hf, hs, hdevices⟩⟩ := he
      · rw [Proxies.holding, hdevices] at hown
        exact absurd ⟨slot, own, hown, rfl⟩ hnew
      · rw [holding_update hdevices] at hown
        split_ifs at hown with hsl
        · refine ⟨state', own, ?_, hown, rfl⟩
          have hput := h.tidy.placed.findDevice_put hf hs.1 hs.2
          rwa [Proxies.findDevice, Proxies.put, hs.1, ← hdevices] at hput
        · exact absurd ⟨slot, own, hown, rfl⟩ hnew
    · exact .inl (h'.books.1.released_eq_one hlt hmem)
  | _ => trivial

/-- **Every device that the OEM handed over is used and closed only while it is out. In every state
of a run it is closed exactly once and nobody has it, or it is not closed and exactly one facade has
it. A facade that was handed out and not closed stands in exactly one slot.** -/
theorem closed_once (hrun : Follows (Takes globalRouteOnly) (some {}) steps final)
    (hlaw : ∀ event ∈ traceOf steps, HandsOver event) :
    Sound (deeds (traceOf steps)) ∧
    (∀ s, final = some s → ∀ number < handed (deeds (traceOf steps)),
      (released number (deeds (traceOf steps)) = 1 ∧ ∀ slot, ¬ s.Owns slot number) ∨
        (released number (deeds (traceOf steps)) = 0 ∧ ∃! slot, s.Owns slot number)) ∧
    (∀ before step, steps = before ++ [step] → step.Settles (traceOf before) (traceOf steps)) ∧
    (∀ s, final = some s → ∀ facade < s.facades,
      ((∃ step ∈ steps, step.Closes facade) ∧ ∀ slot, ¬ s.Shows slot facade) ∨
        ((¬ ∃ step ∈ steps, step.Closes facade) ∧ ∃! slot, s.Shows slot facade)) := by
  have hso := sober_of_follows hrun hlaw
  refine ⟨hso.sound, fun s hs number => (hso.keeps s hs).closed_or_owned, ?_, ?_⟩
  · rintro before step rfl result s hout
    obtain ⟨s₁, hb, hl⟩ := Follows.append_iff.mp hrun
    obtain ⟨s₂, ht, -⟩ := Follows.cons_iff.mp hl
    have hl' : ∀ event ∈ traceOf before, HandsOver event := fun event he =>
      hlaw event (traceOf_concat before step ▸ List.mem_append_left _ he)
    obtain ⟨hk, hend⟩ := ends_of_takes (sober_of_follows hb hl') ht hlaw
    rw [hout] at hend
    have hm : handed (deeds (traceOf before)) ≤ handed (deeds (traceOf (before ++ [step]))) := by
      rw [traceOf_concat, deeds, deeds, List.map_append, handed, handed, List.count_append]
      exact Nat.le_add_right _ _
    exact settles_of_keeps hk hm hout hend.1 hend.2 result s hout
  · intro s hs facade hf
    have hout := (hso.ledger s hs).out_iff facade
    by_cases hc : ∃ step ∈ steps, step.Closes facade
    · exact .inl ⟨hc, fun slot hsl => (hout.mp ⟨slot, hsl⟩).2 hc⟩
    · obtain ⟨slot, state, hst, rfl⟩ := hout.mpr ⟨hf, hc⟩
      refine .inr ⟨hc, slot, ⟨state, hst, rfl⟩, ?_⟩
      rintro other ⟨found, hfo, hsa⟩
      exact (hso.keeps s hs).tidy.single other slot found state hfo hst hsa

theorem handsOver_obliging (fs : FileSystem) (call : Call) : HandsOver ⟨call, obliging fs call⟩ := by
  cases call
  case openOem =>
    rintro _ ⟨⟩
    exact ⟨rfl, rfl⟩
  all_goals trivial

theorem closed_once_opening :
    handed (deeds (traceOf [opening, following (obliging fun _ => none) (.proxyClose 0)])) = 1 ∧
      Sound (deeds (traceOf [opening, following (obliging fun _ => none) (.proxyClose 0)])) := by
  refine ⟨by decide, (closed_once (follows_opening _ _) ?_).1⟩
  intro event he
  obtain ⟨step, hs, hin⟩ := List.mem_flatMap.mp he
  rcases List.mem_cons.mp hs with rfl | hs
  · exact law_of_mem_run (fun _ => handsOver_obliging _) _ _ event hin
  · rw [List.mem_singleton.mp hs] at hin
    exact law_of_mem_run (fun _ => handsOver_obliging _) _ _ event hin

end Vcam.OemProxy
