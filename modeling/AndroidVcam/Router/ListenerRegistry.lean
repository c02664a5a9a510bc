import AndroidVcam.Lib.Machine
import AndroidVcam.Lib.WeakTable
import AndroidVcam.Router.OnTransact

/-!
# The listener registry

`runtime/platform/Android14CameraListenerFilter.cpp`: the router hands the camera service a filtering
wrapper in place of every listener, and remembers which wrapper stands for which listener. Both are
held weakly, so either can expire at any time.

* `Registry.Sound`: what holds of the events so far and the registry;
* **`listener_registry`**: one live entry for each listener, stable and distinct wrappers, and
  removals without a wrapper.
-/

namespace Vcam

open TextFile Wire List WeakTable

variable {β κ : Type}

/-- A binder object: one of another process, or a wrapper by its number. -/
inductive Binder (κ : Type)
  | listener (object : κ)
  | wrapper (number : ℕ)
deriving DecidableEq

inductive CameraListenerRequestRouteStatus
  | wrapped
  | noRegisteredWrapper
  | malformedRequest
  | copyFailed
  | writeFailed
deriving DecidableEq, Repr

/-! ## The registry -/

structure Registry (κ : Type) where
  /-- Each original listener with the number of its wrapper. -/
  entries : List (Binder κ × ℕ)
  /-- The number of wrappers made so far. -/
  made : ℕ
  /-- The objects that can no longer be promoted. -/
  expired : List (Binder κ)
  /-- `gListenerWrappers`. -/
  listenerWrappers : ℕ

namespace Registry

variable [DecidableEq κ]

def initial : Registry κ := ⟨[], 0, [], 0⟩

def alive (s : Registry κ) (entry : Binder κ × ℕ) : Bool :=
  decide (entry.1 ∉ s.expired ∧ Binder.wrapper entry.2 ∉ s.expired)

def expire (s : Registry κ) : Binder κ → Registry κ
  | .listener object => { s with expired := .listener object :: s.expired }
  | .wrapper number =>
    if number < s.made then { s with expired := .wrapper number :: s.expired } else s

end Registry

section Source

variable [DecidableEq κ]

/-- The wrapper with the flag `created`, and the registry afterwards. -/
def listenerWrapperFor (s : Registry κ) (original : Binder κ) (createIfMissing : Bool) :
    Option (ℕ × Bool) × Registry κ :=
  let found := WeakTable.search s.alive original s.entries
  match found.2 with
  | some wrapper => (some (wrapper, false), { s with entries := found.1 })
  | none =>
    if createIfMissing then
      (some (s.made, true),
        { s with entries := found.1 ++ [(original, s.made)], made := s.made + 1 })
    else (none, { s with entries := found.1 })

variable (W : ParcelFormat β (Binder κ))

/-- The listener of a request, with its start and end: a parcel that holds nothing else. -/
def listenerField (cells : List β) : Option (ℕ × Binder κ × ℕ) :=
  match readAndCheckHeader W cells with
  | (.ok, start) =>
    match W.strongBinder.readAt cells start with
    | (some listener, stop) => if stop = cells.length then some (start, listener, stop) else none
    | (none, _) => none
  | _ => none

/-- What `routeListenerRequest` returns, with its output and the registry afterwards. -/
structure ListenerRoute (β κ : Type) where
  status : CameraListenerRequestRouteStatus
  output : Option (Parcel β) := none
  registry : Registry κ

/-- The operations on the output are those of a camera-ID rewrite, with a binder in place of the
camera. -/
def routeListenerRequest (ops : ParcelWriteResults) (s : Registry κ) (input : Parcel β)
    (createIfMissing : Bool) : ListenerRoute β κ :=
  match listenerField W input.cells with
  | none => { status := .malformedRequest, registry := s }
  | some (listenerStart, listener, listenerEnd) =>
    let (found, registry) := listenerWrapperFor s listener createIfMissing
    match found with
    | none => { status := .noRegisteredWrapper, registry := registry }
    | some (wrapper, created) =>
      if ops.setDataSize = false ∨ ops.appendHead = false then
        { status := .copyFailed, registry := registry }
      else if ops.writeId = false then { status := .writeFailed, registry := registry }
      else if ops.appendTail = false then { status := .copyFailed, registry := registry }
      else
        let output := input.cells.take listenerStart ++
          (W.strongBinder.write (.wrapper wrapper) ++ input.cells.drop listenerEnd)
        if h : output.length = input.cells.length then
          { status := .wrapped
            output := some ⟨output, input.dataPosition, h ▸ input.position_le⟩
            registry := if created then
              { registry with listenerWrappers := registry.listenerWrappers + 1 } else registry }
        else { status := .writeFailed, registry := registry }

end Source

/-! ## Runs -/

section Run

variable [DecidableEq κ] (P : Platform β (Binder κ))

/-- `addingListener` of a listener request, in physical-route mode. -/
def addingListener (env : RouterEnv β) (req : Request β) : Option Bool :=
  if env.physicalRoutingEnabled = true ∧ (observation P env req).status = .observed then
    match req.shape env with
    | .listener => some true
    | .listenerRemoval => some false
    | _ => none
  else none

def listenerEnv (env : RouterEnv β) (ops : ParcelWriteResults) (s : Registry κ) : RouterEnv β :=
  { env with
    wrapListener := fun data => (routeListenerRequest P.format ops s data true).output
    wrapListenerRemoval := fun data => (routeListenerRequest P.format ops s data false).output }

/-- A request, with what the router sees and the answers of libbinder, or the end of an object. -/
inductive ListenerAction (β κ : Type)
  | request (env : RouterEnv β) (req : Request β) (ops : ParcelWriteResults)
  | expire (object : Binder κ)

def listenerOf (W : ParcelFormat β (Binder κ)) (data : Parcel β) : Option (Binder κ) :=
  (listenerField W data.cells).map fun field => field.2.1

/-- A rewritten request: the listener that it named and the one that the service gets. -/
structure Rewritten (κ : Type) where
  original : Binder κ
  forwarded : Binder κ

def rewrittenOf (W : ParcelFormat β (Binder κ)) (data : Parcel β) (output : Option (Parcel β)) :
    List (Rewritten κ) :=
  match listenerOf W data, output.bind (listenerOf W) with
  | some original, some forwarded => [⟨original, forwarded⟩]
  | _, _ => []

def listenerStep (s : Registry κ) : ListenerAction β κ → Registry κ × List (Rewritten κ)
  | .request env req ops =>
    match addingListener P env req with
    | none => (s, [])
    | some adding =>
      let route := routeListenerRequest P.format ops s req.data adding
      (route.registry, rewrittenOf P.format req.data route.output)
  | .expire object => (s.expire object, [])

end Run

/-- What libbinder does with binder objects: every object can be written, and all objects have the
same size. -/
structure BinderLaws {ι : Type} (W : ParcelFormat β ι) : Prop where
  writable : ∀ b, W.strongBinder.Writable b
  size : ∀ {l b n}, W.strongBinder.read l = some (b, n) → ∀ b', (W.strongBinder.write b').length = n

/-! ## The invariant -/

section Invariant

variable [DecidableEq κ]

/-- The listener and the wrapper belong together: by an entry, or by a rewritten request. -/
def Registry.Known (h : List (Rewritten κ)) (s : Registry κ) (pair : Binder κ × ℕ) : Prop :=
  pair ∈ s.entries ∨ ⟨pair.1, .wrapper pair.2⟩ ∈ h

/-- What holds of the rewritten requests so far and the registry. -/
structure Registry.Sound (h : List (Rewritten κ)) (s : Registry κ) : Prop where
  unambiguous : WeakTable.Unambiguous s.alive s.entries
  wrappers : ∀ r ∈ h, ∃ number, r.forwarded = .wrapper number
  bounded : ∀ {pair}, s.Known h pair → pair.2 < s.made
  expired_bounded : ∀ {number}, .wrapper number ∈ s.expired → number < s.made
  owner : ∀ {pair pair'}, s.Known h pair → s.Known h pair' → pair.2 = pair'.2 → pair = pair'
  registered : ∀ {pair}, s.Known h pair → s.alive pair = true → pair ∈ s.entries

namespace Registry

variable {h : List (Rewritten κ)} {s : Registry κ} {original : Binder κ}

theorem sound_initial : Sound [] (initial : Registry κ) where
  unambiguous := List.Pairwise.nil
  wrappers := nofun
  bounded := fun hk => hk.elim nofun nofun
  expired_bounded := nofun
  owner := fun hk => hk.elim nofun nofun
  registered := fun hk => hk.elim nofun nofun

theorem Sound.search (hs : Sound h s) (o : Binder κ) :
    Sound h { s with entries := (WeakTable.search s.alive o s.entries).1 } := by
  have hkn : ∀ {pair}, Known h
      { s with entries := (WeakTable.search s.alive o s.entries).1 } pair →
        s.Known h pair := fun hk => hk.imp (fun h => search_sublist.subset h) id
  exact
    { unambiguous := hs.unambiguous.search
      wrappers := hs.wrappers
      bounded := fun hk => hs.bounded (hkn hk)
      expired_bounded := hs.expired_bounded
      owner := fun hk hk' => hs.owner (hkn hk) (hkn hk')
      registered := fun hk ha =>
        mem_search (hs.registered (hkn hk) ha) ha }

theorem Sound.create (hs : Sound h s)
    (hno : (WeakTable.search s.alive original s.entries).2 = none) :
    Sound h { s with
      entries := (WeakTable.search s.alive original s.entries).1 ++ [(original, s.made)]
      made := s.made + 1 } := by
  have hse := hs.search original
  have hkn : ∀ {pair}, Known h { s with
      entries := (WeakTable.search s.alive original s.entries).1 ++ [(original, s.made)]
      made := s.made + 1 } pair →
      Known h { s with entries := (WeakTable.search s.alive original s.entries).1 } pair ∨
        pair = (original, s.made) := by
    rintro pair (hen | he)
    · exact (mem_append.mp hen).imp Or.inl mem_singleton.mp
    · exact .inl (.inr he)
  refine
    { unambiguous := hs.unambiguous.insert hno
      wrappers := hs.wrappers
      bounded := fun hk => ?_
      expired_bounded := fun hk => Nat.lt_succ_of_lt (hs.expired_bounded hk)
      owner := fun hk hk' hn => ?_
      registered := fun hk ha => ?_ }
  · rcases hkn hk with hold | rfl
    · exact Nat.lt_succ_of_lt (hse.bounded hold)
    · exact Nat.lt_succ_self _
  · -- the number of the new wrapper is that of no other
    rcases hkn hk with hold | rfl <;> rcases hkn hk' with hold' | rfl
    · exact hse.owner hold hold' hn
    · exact absurd (hse.bounded hold) (by rw [hn]; exact lt_irrefl _)
    · exact absurd (hse.bounded hold') (by rw [← hn]; exact lt_irrefl _)
    · rfl
  · rcases hkn hk with hold | rfl
    · exact mem_append_left _ (hse.registered hold ha)
    · exact mem_append_right _ (mem_singleton_self _)

/-- A request that is rewritten to the wrapper of an entry. -/
theorem Sound.rewritten {number : ℕ} (hs : Sound h s) (hmem : (original, number) ∈ s.entries) :
    Sound (h ++ [⟨original, .wrapper number⟩]) s := by
  have hkn : ∀ {pair}, s.Known (h ++ [⟨original, .wrapper number⟩]) pair → s.Known h pair := by
    rintro ⟨o, n⟩ (hen | he)
    · exact .inl hen
    · rcases mem_append.mp he with hold | hnew
      · exact .inr hold
      · simp only [mem_singleton, Rewritten.mk.injEq, Binder.wrapper.injEq] at hnew
        obtain ⟨rfl, rfl⟩ := hnew
        exact .inl hmem
  exact
    { unambiguous := hs.unambiguous
      wrappers := forall_mem_append.mpr
        ⟨hs.wrappers, forall_mem_singleton.mpr ⟨number, rfl⟩⟩
      bounded := fun hk => hs.bounded (hkn hk)
      expired_bounded := hs.expired_bounded
      owner := fun hk hk' => hs.owner (hkn hk) (hkn hk')
      registered := fun hk ha => hs.registered (hkn hk) ha }

theorem Sound.counted (hs : Sound h s) (n : ℕ) : Sound h { s with listenerWrappers := n } where
  unambiguous := hs.unambiguous
  wrappers := hs.wrappers
  bounded := hs.bounded
  expired_bounded := hs.expired_bounded
  owner := hs.owner
  registered := hs.registered

theorem Sound.of_expired {o : Binder κ} (hs : Sound h s)
    (ho : ∀ {number}, o = .wrapper number → number < s.made) :
    Sound h { s with expired := o :: s.expired } := by
  have hm : ∀ pair, ({ s with expired := o :: s.expired } : Registry κ).alive pair = true →
      s.alive pair = true := by
    intro pair ha
    simp only [alive, mem_cons, not_or, decide_eq_true_eq] at ha ⊢
    exact ⟨ha.1.2, ha.2.2⟩
  exact
    { unambiguous := hs.unambiguous.mono hm
      wrappers := hs.wrappers
      bounded := hs.bounded
      expired_bounded := fun hk => (mem_cons.mp hk).elim (fun h => ho h.symm)
        hs.expired_bounded
      owner := hs.owner
      registered := fun hk ha => hs.registered hk (hm _ ha) }

theorem Sound.expire (hs : Sound h s) (o : Binder κ) : Sound h (s.expire o) := by
  cases o with
  | listener o => exact hs.of_expired nofun
  | wrapper number =>
    rw [Registry.expire]
    split_ifs with hm
    · exact hs.of_expired fun h => (Binder.wrapper.inj h) ▸ hm
    · exact hs

end Registry

variable {s : Registry κ} {h : List (Rewritten κ)} {original : Binder κ} {create : Bool}

/-- **The registry after a lookup**, with the entry of the wrapper that it gives. -/
theorem sound_listenerWrapperFor (o : Binder κ) (c : Bool) (hs : s.Sound h) :
    (listenerWrapperFor s o c).2.Sound h ∧
    ∀ {number created}, (listenerWrapperFor s o c).1 = some (number, created) →
      (o, number) ∈ (listenerWrapperFor s o c).2.entries := by
  unfold listenerWrapperFor
  dsimp only
  cases hf : (WeakTable.search s.alive o s.entries).2 with
  | some wrapper =>
    refine ⟨hs.search o, fun {number created} hso => ?_⟩
    obtain ⟨rfl, -⟩ := Prod.mk.inj (Option.some.inj hso)
    obtain ⟨hmem, ha⟩ := mem_of_search hf
    exact mem_search hmem ha
  | none =>
    cases c with
    | true =>
      refine ⟨hs.create hf, fun {number created} hso => ?_⟩
      obtain ⟨rfl, -⟩ := Prod.mk.inj (Option.some.inj hso)
      exact mem_append_right _ (mem_singleton_self _)
    | false => exact ⟨hs.search o, nofun⟩

/-! ## Rewritten requests -/

variable {W : ParcelFormat β (Binder κ)} {ops : ParcelWriteResults} {i : Parcel β}

omit [DecidableEq κ] in
theorem listenerField_eq_some_iff {c : List β} {start stop : ℕ} {l : Binder κ} :
    listenerField W c = some (start, l, stop) ↔
      readAndCheckHeader W c = (.ok, start) ∧
      W.strongBinder.readAt c start = (some l, stop) ∧ stop = c.length := by
  unfold listenerField
  constructor
  · intro hf
    split at hf
    · rename_i start' hh
      split at hf
      · rename_i listener' stop' hr
        split_ifs at hf with hs
        obtain ⟨rfl, rfl, rfl⟩ : start' = start ∧ listener' = l ∧ stop' = stop := by
          simpa using hf
        exact ⟨hh, hr, hs⟩
      · cases hf
    · cases hf
  · rintro ⟨hh, hr, hs⟩
    rw [hh]
    dsimp only
    rw [hr]
    exact if_pos hs

omit [DecidableEq κ] in
theorem listenerField_replaced (hW : BinderLaws W) {c : List β} {start stop : ℕ}
    {l : Binder κ} (hf : listenerField W c = some (start, l, stop))
    (o : Binder κ) :
    (c.take start ++ (W.strongBinder.write o ++ c.drop stop)).length = c.length ∧
    listenerField W (c.take start ++ (W.strongBinder.write o ++ c.drop stop)) =
      some (start, o, stop) := by
  obtain ⟨hh, hr, rfl⟩ := listenerField_eq_some_iff.mp hf
  obtain ⟨n, hn, hst⟩ := Decoder.read_of_readAt hr
  have hs := hW.size hn o
  have ht : (c.take start).length = start := length_take_of_le (by omega)
  have hl : (c.take start ++ (W.strongBinder.write o ++
      c.drop c.length)).length = c.length := by
    rw [length_append, length_append, ht, hs, length_drop]
    omega
  refine ⟨hl, listenerField_eq_some_iff.mpr
    ⟨readAndCheckHeader_take hh le_rfl _, ?_, hl.symm⟩⟩
  have hw := Codec.readAt_write (hW.writable o) (c.take start) (c.drop c.length)
  rw [ht, hs, ← hst] at hw
  exact hw

/-- **A listener request with a wrapper is rewritten to it**, when libbinder succeeds. -/
theorem route_output (hW : BinderLaws W) (hops : ops.Succeed) {start stop n : ℕ}
    {c : Bool} (hf : listenerField W i.cells = some (start, original, stop))
    (hfo : (listenerWrapperFor s original create).1 = some (n, c)) :
    ∃ output, (routeListenerRequest W ops s i create).output = some output ∧
      listenerOf W output = some (.wrapper n) ∧
      output.dataPosition = i.dataPosition := by
  obtain ⟨h₁, h₂, h₃, h₄⟩ := hops
  obtain ⟨hl, hr⟩ := listenerField_replaced hW hf (.wrapper n)
  refine ⟨⟨i.cells.take start ++ (W.strongBinder.write (.wrapper n) ++
    i.cells.drop stop), i.dataPosition, by rw [hl]; exact i.position_le⟩,
    ?_, ?_, rfl⟩
  · simp only [routeListenerRequest, hf, hfo, h₁, h₂, h₃, h₄, dif_pos hl,
      Bool.true_eq_false, or_self, if_false]
  · rw [listenerOf, hr]
    rfl

/-- A request leaves the registry as the lookup of its listener leaves it, and what it forwards in
place of the listener is the wrapper of that lookup. -/
theorem route_cases (hW : BinderLaws W) :
    (routeListenerRequest W ops s i create).registry = s ∧
      (routeListenerRequest W ops s i create).output = none ∨
    ∃ original counted, listenerOf W i = some original ∧
      (routeListenerRequest W ops s i create).registry =
        { (listenerWrapperFor s original create).2 with listenerWrappers := counted } ∧
      ((routeListenerRequest W ops s i create).output = none ∨
        ∃ number created output, (listenerWrapperFor s original create).1 = some (number, created) ∧
          (routeListenerRequest W ops s i create).output = some output ∧
          listenerOf W output = some (.wrapper number)) := by
  cases hf : listenerField W i.cells with
  | none =>
    left
    simp only [routeListenerRequest, hf, and_self]
  | some field =>
    obtain ⟨start, original, stop⟩ := field
    have hl : listenerOf W i = some original := by rw [listenerOf, hf]; rfl
    right
    unfold routeListenerRequest
    rw [hf]
    dsimp only
    cases hfo : (listenerWrapperFor s original create).1 with
    | none => exact ⟨original, _, hl, rfl, .inl rfl⟩
    | some found =>
      obtain ⟨number, created⟩ := found
      obtain ⟨hle, hr⟩ := listenerField_replaced hW hf (.wrapper number)
      dsimp only
      split_ifs
      · exact ⟨original, _, hl, rfl, .inl rfl⟩
      · exact ⟨original, _, hl, rfl, .inl rfl⟩
      · exact ⟨original, _, hl, rfl, .inl rfl⟩
      all_goals
        refine ⟨original, _, hl, rfl, .inr ⟨number, created, _, hfo, rfl, ?_⟩⟩
        rw [listenerOf, hr]
        rfl

theorem expired_route (hW : BinderLaws W) :
    (routeListenerRequest W ops s i create).registry.expired = s.expired := by
  rcases route_cases hW with ⟨hr, -⟩ | ⟨original, counted, -, hr, -⟩
  · rw [hr]
  · rw [hr]
    dsimp only [listenerWrapperFor]
    split
    · rfl
    · split_ifs <;> rfl

/-! ## Steps and runs -/

variable {P : Platform β (Binder κ)} {env : RouterEnv β} {req : Request β} {adding : Bool}

omit [DecidableEq κ] in
theorem rewrittenOf_some {n : ℕ} {o : Parcel β} (hi : listenerOf W i = some original)
    (ho : listenerOf W o = some (.wrapper n)) :
    rewrittenOf W i (some o) = [⟨original, .wrapper n⟩] := by
  rw [rewrittenOf, hi, Option.bind_some, ho]

omit [DecidableEq κ] in
theorem rewrittenOf_none : rewrittenOf W i none = [] := by
  rw [rewrittenOf, Option.bind_none]
  cases listenerOf W i <;> rfl

/-- **Every action keeps the registry sound.** -/
theorem sound_listenerStep (hW : BinderLaws P.format) (hs : s.Sound h) (a : ListenerAction β κ) :
    (listenerStep P s a).1.Sound (h ++ (listenerStep P s a).2) := by
  cases a with
  | expire object =>
    rw [listenerStep, append_nil]
    exact hs.expire object
  | request env req ops =>
    rw [listenerStep]
    cases addingListener P env req with
    | none =>
      dsimp only
      rwa [append_nil]
    | some adding =>
      dsimp only
      rcases route_cases hW with ⟨hr, ho⟩ | ⟨original, counted, hi, hr, hout⟩
      · rw [hr, ho, rewrittenOf_none, append_nil]
        exact hs
      · obtain ⟨hso, he⟩ := sound_listenerWrapperFor original adding hs
        rw [hr]
        rcases hout with hn | ⟨number, created, output, hfo, hsm, hf⟩
        · rw [hn, rewrittenOf_none, append_nil]
          exact hso.counted counted
        · rw [hsm, rewrittenOf_some hi hf]
          exact (hso.rewritten (he hfo)).counted counted

/-- **The registry is sound after every run.** -/
theorem sound_run (hW : BinderLaws P.format) (a : List (ListenerAction β κ)) :
    (Machine.run (listenerStep P) .initial a).1.Sound
      (Machine.run (listenerStep P) .initial a).2 := by
  have h := Machine.run_history (listenerStep P) (P := fun h s => Registry.Sound h s)
    (fun h s action hs => sound_listenerStep hW hs action) a Registry.sound_initial
  rwa [nil_append] at h

theorem not_cameraScoped_of_listener {r : AbiRecipe} {code : ℕ}
    (h : (classifyBinderTransaction r code).payloadShape = .listener ∨
      (classifyBinderTransaction r code).payloadShape = .listenerRemoval) :
    (classifyBinderTransaction r code).cameraScoped = false := by
  rcases classify_eq r code with e | ⟨role, e⟩
  · rw [e]
  · rw [e] at h ⊢
    unfold classificationForRole at h ⊢
    split_ifs at h ⊢ <;> first | rfl | (rcases h with h | h <;> cases h)

omit [DecidableEq κ] in
theorem addingListener_eq_some (h : addingListener P env req = some adding) :
    env.physicalRoutingEnabled = true ∧ (observation P env req).status = .observed ∧
      req.shape env = if adding then .listener else .listenerRemoval := by
  unfold addingListener at h
  split_ifs at h with ho
  split at h
  · obtain rfl := Option.some.inj h
    exact ⟨ho.1, ho.2, by assumption⟩
  · obtain rfl := Option.some.inj h
    exact ⟨ho.1, ho.2, by assumption⟩
  · cases h

/-- **The outcome of a listener request**: its rewritten parcel, or else the request itself. -/
theorem outcome_listener (h : addingListener P env req = some adding) :
    (onTransact P (listenerEnv P env ops s) req).outcome =
      match (routeListenerRequest P.format ops s req.data adding).output with
      | some output => .forwarded output (if adding then .filterCameraStatus else .unchanged)
      | none => .forwarded req.data .unchanged := by
  obtain ⟨hp, ho, hs⟩ := addingListener_eq_some h
  have hsa : observation P (listenerEnv P env ops s) req = observation P env req := rfl
  have hr : listenerRequest (listenerEnv P env ops s) req (observation P env req) =
      (routeListenerRequest P.format ops s req.data adding).output.map fun output =>
        ⟨.forwarded output (if adding then .filterCameraStatus else .unchanged), []⟩ := by
    rw [listenerRequest, if_pos ⟨hp, ho⟩, observation_shape, hs]
    cases adding <;> rfl
  have hsc : (classifyBinderTransaction env.recipe req.code).cameraScoped = false := by
    refine not_cameraScoped_of_listener ?_
    cases adding
    · exact .inr hs
    · exact .inl hs
  rw [onTransact, hsa, hr]
  cases (routeListenerRequest P.format ops s req.data adding).output with
  | some output => rfl
  | none =>
    have hp' : (listenerEnv P env ops s).physicalRoutingEnabled = true := hp
    simp [cameraRequest, routeRequest, hsc, hp']

/-- **The listener registry**, after every sequence of requests and expirations. -/
theorem listener_registry (hW : BinderLaws P.format) (actions : List (ListenerAction β κ))
    {s : Registry κ} {h : List (Rewritten κ)}
    (hrun : Machine.run (listenerStep P) .initial actions = (s, h)) :
    -- at most one entry with both sides alive for each listener
    (∀ original, s.entries.countP
      (fun entry => s.alive entry && decide (entry.1 = original)) ≤ 1) ∧
    -- while a listener and its wrapper live, every request for it is rewritten to that wrapper
    (∀ r ∈ h, r.original ∉ s.expired → r.forwarded ∉ s.expired →
      ∀ env req ops adding, addingListener P env req = some adding →
        listenerOf P.format req.data = some r.original → ops.Succeed →
        ∃ output, (onTransact P (listenerEnv P env ops s) req).outcome =
            .forwarded output (if adding then .filterCameraStatus else .unchanged) ∧
          listenerOf P.format output = some r.forwarded ∧
          output.dataPosition = req.data.dataPosition) ∧
    -- two listeners have two wrappers
    (∀ r ∈ h, ∀ r' ∈ h, r.original ≠ r'.original → r.forwarded ≠ r'.forwarded) ∧
    -- a removal for a listener without a live wrapper
    (∀ env req ops original, addingListener P env req = some false →
      listenerOf P.format req.data = some original →
      (∀ entry ∈ s.entries, s.alive entry = true → entry.1 ≠ original) →
      (listenerStep P s (.request env req ops)).1.made = s.made ∧
      (onTransact P (listenerEnv P env ops s) req).outcome = .forwarded req.data .unchanged) := by
  have hs := sound_run hW actions
  rw [hrun] at hs
  refine ⟨hs.unambiguous.countP_le_one, fun r hr ho hfo env req ops adding ha
    hl hops => ?_, fun r hr r' hr' hne => ?_, fun env req ops original ha hl
    hd => ?_⟩
  · obtain ⟨original, forwarded⟩ := r
    obtain ⟨number, rfl⟩ := hs.wrappers _ hr
    have hali : s.alive (original, number) = true := decide_eq_true ⟨ho, hfo⟩
    have he := hs.registered (.inr hr) hali
    obtain ⟨⟨start, listener, stop⟩, hfi, rfl⟩ := Option.map_eq_some_iff.mp hl
    have hf : (listenerWrapperFor s listener adding).1 = some (number, false) := by
      rw [listenerWrapperFor, search_eq_of_mem hs.unambiguous he hali]
    obtain ⟨output, hou, hw, hp⟩ := route_output hW hops hfi hf
    refine ⟨output, ?_, hw, hp⟩
    rw [outcome_listener ha, hou]
  · obtain ⟨original, forwarded⟩ := r
    obtain ⟨original', forwarded'⟩ := r'
    obtain ⟨number, rfl⟩ := hs.wrappers _ hr
    obtain ⟨number', rfl⟩ := hs.wrappers _ hr'
    intro hsa
    obtain rfl := Binder.wrapper.inj hsa
    have hk : s.Known h (original, number) := .inr hr
    have hk' : s.Known h (original', number) := .inr hr'
    exact hne (Prod.mk.inj (hs.owner hk hk' rfl)).1
  · obtain ⟨⟨start, listener, stop⟩, hfi, rfl⟩ := Option.map_eq_some_iff.mp hl
    have hf : listenerWrapperFor s listener false =
        (none, { s with entries := (WeakTable.search s.alive listener s.entries).1 }) := by
      rw [listenerWrapperFor, search_eq_none_iff.mpr hd]
      rfl
    have hro : routeListenerRequest P.format ops s req.data false =
        { status := .noRegisteredWrapper
          registry := { s with entries := (WeakTable.search s.alive listener s.entries).1 } } := by
      simp only [routeListenerRequest, hfi, hf]
    constructor
    · rw [listenerStep, ha]
      dsimp only
      rw [hro]
    · rw [outcome_listener ha, hro]

end Invariant

/-! ## A listener that is added and removed -/

def binderEquiv : ℕ ≃ Binder ℕ where
  toFun := fun handle => if handle % 2 = 0 then .listener (handle / 2) else .wrapper (handle / 2)
  invFun := fun
    | .listener object => 2 * object
    | .wrapper number => 2 * number + 1
  left_inv := fun handle => by
    dsimp only
    split_ifs <;> dsimp only <;> omega
  right_inv := fun
    | .listener object => by simp
    | .wrapper number => by
      have : (2 * number + 1) / 2 = number := by omega
      simp [this]

/-- libbinder of Android 14, with the objects of the registry. -/
def listenerPlatform : Platform AndroidFormat.Cell (Binder ℕ) where
  format := { androidFormat with strongBinder := AndroidFormat.strongBinder.congr binderEquiv }
  string8 := androidPlatform.string8
  string8_ascii := androidPlatform.string8_ascii

theorem binderLaws_listenerPlatform : BinderLaws listenerPlatform.format where
  writable := fun _ => trivial
  size := fun {l b n} h b' => by
    obtain ⟨⟨handle, m⟩, hr, hb⟩ := Option.map_eq_some_iff.mp h
    obtain ⟨-, rfl⟩ := Prod.mk.inj hb
    obtain ⟨rfl, -⟩ := AndroidFormat.readStrongBinder_eq_some hr
    exact AndroidFormat.length_writeStrongBinder _

/-- An application adds (code 5) or removes (code 8) its listener. -/
def listenerCall (code object : ℕ) : Request AndroidFormat.Cell where
  code := code
  data := ⟨interfaceToken listenerPlatform.format ++
    (listenerPlatform.format.strongBinder.write (.listener object) ++ []), 0, Nat.zero_le _⟩
  callingUid := 10001
  callingPid := 2000
  hasReply := true

theorem listenerField_listenerCall (code o : ℕ) : ∃ start stop,
    listenerField listenerPlatform.format (listenerCall code o).data.cells =
      some (start, .listener o, stop) := by
  have hw : listenerPlatform.format.strongBinder.Writable (.listener o) := trivial
  have hr := Codec.readAt_write hw (interfaceToken listenerPlatform.format) []
  refine ⟨_, _, listenerField_eq_some_iff.mpr ⟨readAndCheckHeader_token _, hr, ?_⟩⟩
  rw [listenerCall, length_append, append_nil]

abbrev plainEnv : RouterEnv AndroidFormat.Cell := androidEnv (.ofList []) fun _ => []

theorem addingListener_listenerCall {code : ℕ} (o : ℕ) {adding : Bool}
    (hs : (listenerCall code o).shape plainEnv =
      if adding then .listener else .listenerRemoval) :
    addingListener listenerPlatform plainEnv (listenerCall code o) = some adding := by
  have hh : readAndCheckHeader listenerPlatform.format
      (listenerCall code o).data.cells = (.ok, _) := readAndCheckHeader_token _
  have hst : (observation listenerPlatform plainEnv (listenerCall code o)).status =
      .observed := by
    rw [Request.shape] at hs
    unfold observation observeAndroid14CameraServiceParcel
    dsimp only
    rw [if_neg (by rw [hs]; cases adding <;> decide), hh]
    dsimp only
    rw [hs]
    cases adding <;> rfl
  rw [addingListener, if_pos ⟨rfl, hst⟩, hs]
  cases adding <;> rfl

/-- A listener is removed under the wrapper that it was added with. -/
theorem listener_registry_removal : ∃ output,
    (onTransact listenerPlatform
      (listenerEnv listenerPlatform plainEnv ⟨true, true, true, true⟩
        (Machine.run (listenerStep listenerPlatform) .initial
          [.request plainEnv (listenerCall 5 7) ⟨true, true, true, true⟩]).1)
      (listenerCall 8 7)).outcome = .forwarded output .unchanged ∧
    listenerOf listenerPlatform.format output = some (.wrapper 0) := by
  have hops : ParcelWriteResults.Succeed ⟨true, true, true, true⟩ := ⟨rfl, rfl, rfl, rfl⟩
  have hadd : addingListener listenerPlatform plainEnv (listenerCall 5 7) = some true :=
    addingListener_listenerCall 7 (by decide)
  have hre : addingListener listenerPlatform plainEnv (listenerCall 8 7) = some false :=
    addingListener_listenerCall 7 (by decide)
  obtain ⟨start, stop, hf⟩ := listenerField_listenerCall 5 7
  obtain ⟨start', stop', hf'⟩ := listenerField_listenerCall 8 7
  have hfo : (listenerWrapperFor (.initial : Registry ℕ) (.listener 7) true).1 = some (0, true) :=
    rfl
  obtain ⟨added, ha, hw, -⟩ :=
    route_output binderLaws_listenerPlatform hops hf hfo
  have hl : listenerOf listenerPlatform.format (listenerCall 5 7).data =
      some (.listener 7) := by
    rw [listenerOf, hf]
    rfl
  obtain ⟨s, hs⟩ : ∃ s, (routeListenerRequest listenerPlatform.format ⟨true, true, true, true⟩
      .initial (listenerCall 5 7).data true).registry = s := ⟨_, rfl⟩
  have he : s.expired = [] := by
    rw [← hs]
    exact expired_route binderLaws_listenerPlatform
  have hrun : Machine.run (listenerStep listenerPlatform) .initial
      [.request plainEnv (listenerCall 5 7) ⟨true, true, true, true⟩] =
        (s, [⟨.listener 7, .wrapper 0⟩]) := by
    simp only [Machine.run, listenerStep, hadd, ha, hs, rewrittenOf_some hl hw,
      append_nil]
  have hr : listenerOf listenerPlatform.format (listenerCall 8 7).data =
      some (.listener 7) := by
    rw [listenerOf, hf']
    rfl
  obtain ⟨-, hst, -⟩ := listener_registry binderLaws_listenerPlatform _ hrun
  obtain ⟨output, ho, hl', -⟩ := hst _ (mem_singleton_self _)
    (by simp [he]) (by simp [he]) plainEnv (listenerCall 8 7)
    ⟨true, true, true, true⟩ false hre hr hops
  rw [hrun]
  exact ⟨output, ho, hl'⟩

end Vcam
