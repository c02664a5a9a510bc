import AndroidVcam.Runtime.AbiGuard
import AndroidVcam.Runtime.PlanShape

/-!
# From a recipe to a patch

`planOnTransactStrategy` of `runtime/RuntimeHookStrategy.cpp` plans the hook of a recipe that the ABI
guard has allowed.

* `Resolved`, `resolved_of_allowed`: what the guard has found out about the symbols;
* **`allowed_prepared`**: what is planned can be prepared; **`nx769j_planned`**.
-/

namespace Vcam.Runtime

open TextFile Dialogue List

inductive HookStrategyStatus
  | ready
  | abiNotAllowed
  | incompleteRecipe
  | unsupportedArchitecture
  | hookSymbolNotResolved
  | patchNotRelocatable
deriving DecidableEq

structure OnTransactStrategyPlan where
  status : HookStrategyStatus := .incompleteRecipe
  message : String := ""
  targetAddress : UInt64 := 0
  transactions : List BinderTransaction := []
  patch : Arm64PatchPlan := {}

def planOnTransactStrategy (recipe : RuntimeRecipe) (probe : ProbeResult)
    (replacementAddress : UInt64) : OnTransactStrategyPlan :=
  if probe.status ≠ .allowed then
    { status := .abiNotAllowed, message := "ABI guard did not allow this loaded module" }
  else if recipe.schema ≠ 2 ∨ recipe.hooks = [] ∨ recipe.transactions = [] ∨
      recipe.dependencies = [] then
    { status := .incompleteRecipe, message := "schema 2 hook and transaction data are required" }
  else if recipe.architecture ≠ "arm64".toList then
    { status := .unsupportedArchitecture
      message := "only a fail-closed ARM64 planner is implemented" }
  else
    match recipe.hooks.find? (·.role = "on_transact".toList) with
    | none => { message := "recipe has no on_transact hook role" }
    | some hook =>
      match recipe.symbols.find? (·.name = hook.symbol),
        probe.resolvedSymbols.find? (·.1 = hook.symbol) with
      | some requirement, some (_, address) =>
        let patch := planArm64InlineHook address replacementAddress requirement.codePrefix
        if patch.status ≠ .ready then
          { status := .patchNotRelocatable, message := patch.message, patch := patch }
        else
          { status := .ready
            message := "onTransact strategy is validated and planned; no memory was modified"
            targetAddress := address
            transactions := recipe.transactions
            patch := patch }
      | _, _ => { status := .hookSymbolNotResolved
                  message := "on_transact symbol was not resolved by the ABI guard" }

/-! ## Symbols -/

/-- Symbols that are where `dlsym` says, with their code in an executable segment. -/
structure Resolved (d : Device) (m : LoadedModule) (dlsym : Text → Option UInt64)
    (symbols : List SymbolRequirement) (resolved : List (Text × UInt64)) : Prop where
  names : resolved.map Prod.fst = symbols.map (·.name)
  address : ∀ p ∈ resolved, dlsym p.1 = some p.2
  code : ∀ s ∈ symbols, ∀ a, dlsym s.name = some a →
    isInsideExecutableSegment m a s.codePrefix.length = true ∧
      bytesAt d.memory a s.codePrefix.length = s.codePrefix

variable {d : Device} {m : LoadedModule} {dlsym : Text → Option UInt64} {r : RuntimeRecipe}
  {symbols done : List SymbolRequirement} {res : List (Text × UInt64)} {result : ProbeResult}

theorem Resolved.snoc (h : Resolved d m dlsym done res) {s : SymbolRequirement} {a : UInt64}
    (ha : dlsym s.name = some a) (hi : isInsideExecutableSegment m a s.codePrefix.length = true)
    (hb : bytesAt d.memory a s.codePrefix.length = s.codePrefix) :
    Resolved d m dlsym (done ++ [s]) (res ++ [(s.name, a)]) where
  names := by rw [map_append, map_append, h.names, map_singleton, map_singleton]
  address := by
    intro p hp
    rcases mem_append.mp hp with hp | hp
    · exact h.address p hp
    · rw [mem_singleton.mp hp, ha]
  code := by
    intro x hx b hxb
    rcases mem_append.mp hx with hx | hx
    · exact h.code x hx b hxb
    · cases mem_singleton.mp hx
      cases ha.symm.trans hxb
      exact ⟨hi, hb⟩

theorem resolved_of_resolveSymbols (hr : Resolved d m dlsym done result.resolvedSymbols)
    (h : (resolveSymbols d m dlsym symbols result).status = .allowed) :
    Resolved d m dlsym (done ++ symbols)
      (resolveSymbols d m dlsym symbols result).resolvedSymbols := by
  fun_induction resolveSymbols d m dlsym symbols result generalizing done with
  | case1 => rwa [append_nil]
  | case2 => cases h
  | case3 s rest result code a ha check =>
    rename_i hc
    have hm := mem_of_find?_eq_some hc
    simp only [mem_cons, not_mem_nil, or_false] at hm
    obtain rfl | rfl := hm <;> cases h
  | case4 s rest result code a ha hc =>
    rename_i ih
    simp only [failing, find?_eq_none, mem_cons, not_mem_nil, or_false,
      forall_eq_or_imp, forall_eq, Bool.not_eq_true', Bool.not_eq_false, beq_iff_eq] at hc
    have hs := ih (hr.snoc ha hc.1 hc.2) h
    rwa [append_assoc] at hs

theorem status_checks {c : Check} (hc : c ∈ checks d m r) : c.status ≠ .allowed := by
  have hid (m : LoadedModule) (i message unnamed)
      (h : c ∈ identityChecks d m i message unnamed) : c.status ≠ .allowed := by
    simp only [identityChecks, mem_cons, not_mem_nil, or_false] at h
    obtain rfl | rfl | rfl := h
    · simp
    · simp
    · split <;> simp
  rw [checks, mem_append, mem_flatMap] at hc
  obtain hc | ⟨dependency, -, hc⟩ := hc
  · exact hid _ _ _ _ hc
  · unfold dependencyChecks at hc
    split at hc
    · cases mem_singleton.mp hc
      simp
    · exact hid _ _ _ _ hc

theorem resolved_of_allowed (h : (validateLoadedModule d r).status = .allowed) :
    incomplete r = none ∧ ∃ m dlsym, d.findModule r.moduleSuffix = some m ∧
      d.dlopen (if m.path = d.executablePath then none else some m.path) = .ok dlsym ∧
      Resolved d m dlsym r.symbols (validateLoadedModule d r).resolvedSymbols := by
  rw [validateLoadedModule] at h ⊢
  cases hi : incomplete r with
  | some message =>
    rw [hi] at h
    cases h
  | none =>
  refine ⟨rfl, ?_⟩
  cases hm : d.findModule r.moduleSuffix with
  | none =>
    rw [hi, hm] at h
    cases h
  | some m =>
  cases hf : failing (checks d m r) with
  | some check =>
    simp only [hi, hm, hf] at h
    exact absurd h (status_checks (mem_of_find?_eq_some hf))
  | none =>
    simp only [hi, hm, hf, probeSymbols] at h ⊢
    cases hd : d.dlopen (if m.path = d.executablePath then none else some m.path) with
    | error e =>
      rw [hd] at h
      cases h
    | ok dlsym =>
      rw [hd] at h
      have hn : Resolved d m dlsym [] (moduleFound m).resolvedSymbols :=
        ⟨rfl, forall_mem_nil _, forall_mem_nil _⟩
      exact ⟨m, dlsym, rfl, hd, resolved_of_resolveSymbols hn h⟩

theorem inside_mono {a : UInt64} {n k : ℕ} (h : isInsideExecutableSegment m a n = true)
    (hk : k ≤ n) : isInsideExecutableSegment m a k = true := by
  unfold isInsideExecutableSegment at h ⊢
  split_ifs at h
  rw [if_neg (by omega)]
  obtain ⟨header, hmem, hp⟩ := any_eq_true.mp h
  refine any_eq_true.mpr ⟨header, hmem, ?_⟩
  simp only [Bool.and_eq_true, decide_eq_true_eq] at hp ⊢
  exact ⟨hp.1, by omega⟩

/-- A hook of an accepted recipe has its symbol. -/
theorem symbol_of_parse {path : Text} {file : Option Text} (h : parseAbiRecipe path file = .ok r)
    (hs : r.schema = 2) {hook : HookRequirement} (hh : hook ∈ r.hooks) :
    ∃ s ∈ r.symbols, s.name = hook.symbol := by
  have hc : ∃ parsed, checkRecipe parsed = .ok r := by
    cases file with
    | none => cases h
    | some text =>
      rw [parseAbiRecipe] at h
      cases hp : parseLines 0 emptyRecipe (getlines text) with
      | error e =>
        rw [hp] at h
        cases h
      | ok parsed =>
        rw [hp] at h
        exact ⟨parsed, h⟩
  obtain ⟨parsed, hc⟩ := hc
  unfold checkRecipe at hc
  split at hc
  · split_ifs at hc with h1 h2
    · unfold checkStrategy at hc
      split_ifs at hc with _ hn
      cases hc
      simp only [Bool.or_eq_true, not_or, Bool.not_eq_true', Bool.not_eq_false] at hn
      simpa using all_eq_true.mp hn.1 hook hh
    · cases hc
      exact absurd hs h2
  · cases hc

theorem exists_find? {α : Type} {q : α → Prop} [DecidablePred q] {l : List α}
    (h : ∃ x ∈ l, q x) : ∃ x, l.find? (q ·) = some x := by
  rw [← Option.isSome_iff_exists, find?_isSome]
  simpa using h

/-- Whatever is found under a name in a list of symbols was found by `dlsym`. -/
theorem Resolved.find? (h : Resolved d m dlsym symbols res) {name : Text}
    {s : SymbolRequirement} (hs : symbols.find? (·.name = name) = some s) :
    ∃ p, res.find? (·.1 = name) = some p ∧ dlsym name = some p.2 ∧
      isInsideExecutableSegment m p.2 s.codePrefix.length = true ∧
      bytesAt d.memory p.2 s.codePrefix.length = s.codePrefix := by
  have hn : s.name = name := by simpa using find?_some hs
  have hmem : s.name ∈ res.map Prod.fst := by
    rw [h.names]
    exact mem_map_of_mem (mem_of_find?_eq_some hs)
  obtain ⟨q, hq, hqn⟩ := mem_map.mp hmem
  obtain ⟨p, hp⟩ := exists_find? (q := (·.1 = name)) ⟨q, hq, hqn.trans hn⟩
  have hpn : p.1 = name := by simpa using find?_some hp
  have ha := h.address p (mem_of_find?_eq_some hp)
  rw [hpn] at ha
  exact ⟨p, hp, ha, h.code s (mem_of_find?_eq_some hs) p.2 (by rw [hn, ha])⟩

/-! ## The strategy -/

theorem prepare_ok {tx : Transaction} {memory : Memory} (hv : tx.validPlan = true)
    (hc : tx.backendComplete = true)
    (hb : tx.plan.originalBytes = bytesAt memory tx.targetAddress tx.plan.overwriteSize)
    {an : List PatchEvent → (c : Call) → c.Answer}
    (ha : ∀ past a n, an past (.read a n) = some (bytesAt memory a n)) :
    ((tx.prepare .empty).run an []).1.1.status = .ok := by
  rw [Transaction.prepare, if_neg (by decide), if_neg (by simp [hv]), if_neg (by simp [hc])]
  simp only [readMemory, bind, Program.ask, Program.bind, Program.run, ha, hb, ne_eq, not_true,
    if_false]
  rfl

/-- **A verified recipe gives a patch that can be prepared.** -/
theorem allowed_prepared :
    (∀ (d : Device) (r : RuntimeRecipe) (replacement : UInt64) (plan : OnTransactStrategyPlan),
      (validateLoadedModule d r).status = .allowed →
      planOnTransactStrategy r (validateLoadedModule d r) replacement = plan →
      plan.status = .ready →
      ∃ m dlsym hook, d.findModule r.moduleSuffix = some m ∧
        d.dlopen (if m.path = d.executablePath then none else some m.path) = .ok dlsym ∧
        r.hooks.find? (·.role = "on_transact".toList) = some hook ∧
        dlsym hook.symbol = some plan.targetAddress ∧
        isInsideExecutableSegment m plan.targetAddress 16 = true ∧
        plan.patch.originalBytes = bytesAt d.memory plan.targetAddress 16 ∧
        ∀ t : UInt64, t ≠ 0 → t.toNat % 4 = 0 → t.toNat + 36 < 2 ^ 64 →
          Disjoint (Set.Ico t.toNat (t.toNat + 36))
            (Set.Ico plan.targetAddress.toNat (plan.targetAddress.toNat + 16)) →
          ∀ answers, (∀ past a n, answers past (.read a n) = some (bytesAt d.memory a n)) →
            (((Transaction.mk plan.targetAddress t none plan.patch true).prepare .empty).run
              answers []).1.1.status = .ok) ∧
    ∀ (path : Text) (file : Option Text) (d : Device) (r : RuntimeRecipe) (replacement : UInt64),
      parseAbiRecipe path file = .ok r → r.schema = 2 →
      (∃ hook ∈ r.hooks, hook.role = "on_transact".toList) →
      (validateLoadedModule d r).status = .allowed →
      (planOnTransactStrategy r (validateLoadedModule d r) replacement).status = .ready ∨
        (planOnTransactStrategy r (validateLoadedModule d r) replacement).status =
          .patchNotRelocatable := by
  constructor
  · intro d r replacement plan ha h hr
    obtain ⟨-, m, dlsym, hm, hd, hres⟩ := resolved_of_allowed ha
    rw [planOnTransactStrategy, if_neg (not_not.mpr ha)] at h
    split_ifs at h
    · subst h
      cases hr
    · subst h
      cases hr
    cases hh : r.hooks.find? (·.role = "on_transact".toList) with
    | none =>
      rw [hh] at h
      subst h
      cases hr
    | some hook =>
    cases hs : r.symbols.find? (·.name = hook.symbol) with
    | none =>
      simp only [hh, hs] at h
      subst h
      cases hr
    | some s =>
    obtain ⟨p, hp, hdl, hin, hby⟩ := hres.find? hs
    simp only [hh, hs, hp] at h
    split_ifs at h with hnr
    · subst h
      cases hr
    have hready := not_not.mp hnr
    obtain ⟨hpl, heq⟩ := plan_of_ready hready
    have hb : s.codePrefix.take 16 = bytesAt d.memory p.2 16 := by
      rw [← hby, bytesAt, ← map_take, take_range, Nat.min_eq_left hpl.long, bytesAt]
    subst h
    rw [heq]
    refine ⟨m, dlsym, hook, hm, hd, rfl, hdl, inside_mono hin hpl.long, hb, ?_⟩
    intro t hne hal hfit hdis answers hans
    have hv := validPlan_of_ready hready hne hal hfit hdis true
    rw [heq] at hv
    exact prepare_ok hv rfl hb hans
  · intro path file d r replacement hp h2 hex ha
    obtain ⟨hi, m, dlsym, -, -, hres⟩ := resolved_of_allowed ha
    obtain ⟨hook, hh⟩ := exists_find? hex
    obtain ⟨s, hs⟩ := exists_find? (symbol_of_parse hp h2 (mem_of_find?_eq_some hh))
    obtain ⟨p, hp, -⟩ := hres.find? hs
    unfold incomplete at hi
    split_ifs at hi with _ hst
    obtain ⟨har, he⟩ := not_or.mp (not_and.mp hst h2)
    rw [planOnTransactStrategy, if_neg (not_not.mpr ha), if_neg (not_or.mpr ⟨not_not.mpr h2, he⟩),
      if_neg har]
    simp only [hh, hs, hp]
    split_ifs
    · exact .inr rfl
    · exact .inl rfl

/-- A process with four times `NOP` at the symbol of its module, and an empty file. -/
def nopDevice : Device :=
  { unreadable with
    modules := unreadable.modules.map fun m => { m with headers := [⟨true, true, 0x1000, 16⟩] }
    file := fun _ => .content []
    dlopen := fun _ => .ok fun _ => some 0x1000
    memory := Transaction.nopMemory }

def nopRecipe : RuntimeRecipe :=
  { nx769jRecipe with
    moduleSuffix := "/a", fileSize := 1, sha256Hex := sha256FileHex []
    buildIdHex := replicate 16 'a', symbols := [⟨kOnTransactSymbol, Transaction.nopPrologue⟩]
    dependencies := [⟨"/a".toList, 1, sha256FileHex [], replicate 16 'a'⟩] }

theorem allowed_nopRecipe : (validateLoadedModule nopDevice nopRecipe).status = .allowed ∧
    (planOnTransactStrategy nopRecipe (validateLoadedModule nopDevice nopRecipe) 0x2000).status =
      .ready := by
  decide +kernel

theorem allowed_prepared_nops :
    (planOnTransactStrategy nopRecipe (validateLoadedModule nopDevice nopRecipe)
      0x2000).patch.originalBytes = bytesAt nopDevice.memory (planOnTransactStrategy nopRecipe
        (validateLoadedModule nopDevice nopRecipe) 0x2000).targetAddress 16 := by
  obtain ⟨_, _, _, -, -, -, -, -, h, -⟩ := allowed_prepared.1 nopDevice nopRecipe 0x2000 _
    allowed_nopRecipe.1 rfl allowed_nopRecipe.2
  exact h

/-- **On its device the hook is always planned**, over the bytes of its static trampoline. -/
theorem nx769j_planned {probe : ProbeResult} {replacement address : UInt64} (code : TrampolineCode)
    (hm : exactlyMatchesNx769j r = true) (ha : probe.status = .allowed)
    (hs : probe.resolvedSymbols.find? (·.1 = kOnTransactSymbol) = some (kOnTransactSymbol, address))
    (hp : Placed address replacement kOnTransactPrologue) :
    let plan := planOnTransactStrategy r probe replacement
    plan.status = .ready ∧ plan.targetAddress = address ∧
      plan.patch.originalBytes = (selectStaticArm64Trampoline code r).relocatedOriginalBytes := by
  have h := exactlyMatches_eq_true.mp hm
  have hf : r.symbols.find? (·.name = kOnTransactSymbol) =
      some ⟨kOnTransactSymbol, kOnTransactPrologue⟩ := by
    rw [find?_perm h.symbols]
    · decide +kernel
    · intro a ha b hb
      rw [h.symbols.mem_iff] at ha hb
      revert a b
      decide +kernel
  have hb : (selectStaticArm64Trampoline code r).relocatedOriginalBytes = kOnTransactPrologue := by
    unfold selectStaticArm64Trampoline
    rw [hm]
    repeat' split
    all_goals trivial
  have hc : ¬(r.schema ≠ 2 ∨ r.hooks = [] ∨ r.transactions = [] ∨ r.dependencies = []) := by
    rw [h.hooks, h.dependencies]
    simpa [h.schema] using fun e => cons_ne_nil _ _ (nil_perm.mp (e ▸ h.transactions))
  rw [hb, planOnTransactStrategy, if_neg (not_not.mpr ha), if_neg hc,
    if_neg (not_not.mpr h.architecture)]
  simp only [h.hooks, find?_cons, decide_true, hf, hs,
    planArm64InlineHook_eq (show refusal kOnTransactPrologue stolenOffsets = none by decide),
    planUnchecked_of_placed hp]
  exact ⟨rfl, rfl, rfl⟩

theorem nx769j_planned_page : (planOnTransactStrategy nx769jRecipe
    { status := .allowed, resolvedSymbols := [(kOnTransactSymbol, 0x1000)] } 0x2000).status =
      .ready :=
  (nx769j_planned none (exactlyMatches_eq_true.mpr ⟨rfl, rfl, rfl, rfl, rfl, rfl, rfl, rfl,
    .refl _, .refl _⟩) rfl rfl ⟨by decide, by decide, rfl, rfl, by decide, by decide⟩).1

end Vcam.Runtime
