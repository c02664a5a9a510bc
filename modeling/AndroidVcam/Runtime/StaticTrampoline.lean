import AndroidVcam.Runtime.AbiRecipe

/-!
# The static trampoline

`selectStaticArm64Trampoline` of `runtime/StaticArm64Trampoline.cpp` has one precompiled trampoline,
for the library of one device. It looks for every entry of its own tables in the recipe and compares
the numbers of entries.

* `Nx769j`, `exactlyMatches_eq_true`: the recipes that match; **`selection_exact`**.
-/

namespace Vcam.Runtime

open TextFile List

/-! ## The tables -/

def kProfileName : Text := "nx769j-ukq1-20240417"

def kModule : Text := "libcameraservice.so"

def kModuleSize : ℕ := 3132936

def kModuleSha256 : Text :=
  "a26f8ee10002769428871e042c7993e87ad769703897dd75a2fb93a725c64438"

def kModuleBuildId : Text := "747dab9fa491b5af026f143c2c967789"

def kClientModule : Text := "libcamera_client.so"

def kClientModuleSize : ℕ := 596328

def kClientModuleSha256 : Text :=
  "1cf518e86a2e5461e585d8dbd7a1dbc93e7ba2bcc95c3e254ebdcc72ee0433c5"

def kClientModuleBuildId : Text := "f7cea72167468ee2dfac06e4433d8fa8"

def kOnTransactSymbol : Text := "_ZN7android13CameraService10onTransactEjRKNS_6ParcelEPS1_j"

def kCharacteristicsSymbol : Text :=
  ("_ZN7android13CameraService24getCameraCharacteristicsERKNS_8String16EibPNS_14CameraMetadataE"
    ).toList

def kOnTransactPrologue : List UInt8 :=
  [0x3f, 0x23, 0x03, 0xd5, 0xff, 0x83, 0x02, 0xd1, 0xfd, 0x7b, 0x04, 0xa9, 0xfc, 0x6f, 0x05, 0xa9]

def kCharacteristicsPrologue : List UInt8 :=
  [0x3f, 0x23, 0x03, 0xd5, 0xff, 0x03, 0x07, 0xd1, 0xfd, 0x7b, 0x16, 0xa9, 0xfc, 0x6f, 0x17, 0xa9]

def kTransactions : List BinderTransaction :=
  [⟨"connect_api1", 3⟩, ⟨"connect_device", 4⟩, ⟨"add_listener", 5⟩,
    ⟨"get_concurrent_camera_ids", 6⟩, ⟨"concurrent_session_support", 7⟩,
    ⟨"remove_listener", 8⟩, ⟨"get_camera_characteristics", 9⟩,
    ⟨"get_legacy_parameters", 12⟩, ⟨"supports_camera_api", 13⟩,
    ⟨"set_torch_mode", 16⟩, ⟨"turn_on_torch_with_strength", 17⟩,
    ⟨"get_torch_strength", 18⟩]

/-! ## The comparison -/

def hasSymbol (recipe : RuntimeRecipe) (name : Text) (code : List UInt8) : Bool :=
  recipe.symbols.any fun symbol =>
    symbol.name == name && (symbol.codePrefix.length == code.length && symbol.codePrefix == code)

def hasTransaction (recipe : RuntimeRecipe) (expected : BinderTransaction) : Bool :=
  recipe.transactions.any fun transaction =>
    transaction.role == expected.role && transaction.code == expected.code

def exactlyMatchesNx769j (recipe : RuntimeRecipe) : Bool :=
  if recipe.schema ≠ 2 ∨ recipe.architecture ≠ "arm64" ∨ recipe.moduleSuffix ≠ kModule ∨
      recipe.fileSize ≠ kModuleSize ∨ recipe.sha256Hex ≠ kModuleSha256 ∨
      recipe.buildIdHex ≠ kModuleBuildId ∨ recipe.symbols.length ≠ 2 ∨ recipe.hooks.length ≠ 1 ∨
      recipe.transactions.length ≠ kTransactions.length ∨ recipe.dependencies.length ≠ 1 then false
  else
    match recipe.hooks, recipe.dependencies with
    | hook :: _, dependency :: _ =>
      if hook.role ≠ "on_transact" ∨ hook.symbol ≠ kOnTransactSymbol ∨
          dependency.moduleSuffix ≠ kClientModule ∨ dependency.fileSize ≠ kClientModuleSize ∨
          dependency.sha256Hex ≠ kClientModuleSha256 ∨
          dependency.buildIdHex ≠ kClientModuleBuildId ∨
          hasSymbol recipe kOnTransactSymbol kOnTransactPrologue = false ∨
          hasSymbol recipe kCharacteristicsSymbol kCharacteristicsPrologue = false then false
      else kTransactions.all (hasTransaction recipe)
    | _, _ => false

/-- What the build has of the trampoline: the addresses of its two symbols on Android ARM64. -/
abbrev TrampolineCode := Option (ℕ × ℕ)

inductive StaticTrampolineStatus
  | ready
  | noExactRecipe
  | unsupportedPlatform
deriving DecidableEq

/-- The members of the selection; `bindResumeAddress` is set with the entry. -/
structure StaticTrampolineSelection where
  status : StaticTrampolineStatus
  message : Text
  name : Text
  relocatedOriginalBytes : List UInt8
  entryAddress : ℕ
  codeSize : ℕ
deriving DecidableEq

def noMatch : StaticTrampolineSelection :=
  ⟨.noExactRecipe, "no precompiled trampoline exactly matches the complete ABI recipe", [],
    replicate 16 0, 0, 0⟩

def selectStaticArm64Trampoline (code : TrampolineCode) (recipe : RuntimeRecipe) :
    StaticTrampolineSelection :=
  if !exactlyMatchesNx769j recipe then noMatch
  else
    match code with
    | none => ⟨.unsupportedPlatform,
        "precompiled trampoline is available only in Android ARM64 builds",
        kProfileName, kOnTransactPrologue, 0, 0⟩
    | some (entry, finish) =>
      if entry = 0 ∨ finish ≤ entry then
        ⟨.unsupportedPlatform, "precompiled trampoline symbols are unavailable",
          kProfileName, kOnTransactPrologue, 0, 0⟩
      else
        ⟨.ready, "exact NX769J precompiled trampoline selected; no memory was modified",
          kProfileName, kOnTransactPrologue, entry, finish - entry⟩

/-! ## Recipes that match -/

/-- A list as long as a table without repetitions in which every entry of the table is found is the
table in some order. -/
theorem perm_iff_of_nodup {α : Type*} {t list : List α} (h : t.Nodup) :
    list.Perm t ↔ list.length = t.length ∧ ∀ a ∈ t, a ∈ list := by
  constructor
  · intro hp
    exact ⟨hp.length_eq, fun a ha => hp.mem_iff.mpr ha⟩
  · rintro ⟨hl, hall⟩
    exact ((subperm_of_subset h hall).perm_of_length_le hl.le).symm

/-- The first entry with a property is the same in every order when no two entries have it. -/
theorem find?_perm {α : Type*} {p : α → Bool} {f second : List α} (hp : f.Perm second)
    (hu : ∀ a ∈ f, ∀ b ∈ f, p a = true → p b = true → a = b) :
    f.find? p = second.find? p := by
  cases hs : second.find? p with
  | none =>
    rw [find?_eq_none] at hs ⊢
    exact fun a ha => hs a (hp.mem_iff.mp ha)
  | some b =>
    obtain ⟨hb, hmem⟩ : p b = true ∧ b ∈ second :=
      ⟨find?_some hs, mem_of_find?_eq_some hs⟩
    obtain ⟨a, ha⟩ : ∃ a, f.find? p = some a := by
      rw [← Option.isSome_iff_exists, find?_isSome]
      exact ⟨b, hp.mem_iff.mpr hmem, hb⟩
    rw [ha, hu a (mem_of_find?_eq_some ha) b (hp.mem_iff.mpr hmem)
      (find?_some ha) hb]

structure Nx769j (recipe : RuntimeRecipe) : Prop where
  schema : recipe.schema = 2
  architecture : recipe.architecture = "arm64"
  moduleSuffix : recipe.moduleSuffix = kModule
  fileSize : recipe.fileSize = kModuleSize
  sha256Hex : recipe.sha256Hex = kModuleSha256
  buildIdHex : recipe.buildIdHex = kModuleBuildId
  hooks : recipe.hooks = [⟨"on_transact", kOnTransactSymbol⟩]
  dependencies : recipe.dependencies =
    [⟨kClientModule, kClientModuleSize, kClientModuleSha256, kClientModuleBuildId⟩]
  symbols : recipe.symbols.Perm [⟨kOnTransactSymbol, kOnTransactPrologue⟩,
    ⟨kCharacteristicsSymbol, kCharacteristicsPrologue⟩]
  transactions : recipe.transactions.Perm kTransactions

variable {recipe : RuntimeRecipe}

theorem hasSymbol_eq_true {name : Text} {code : List UInt8} :
    hasSymbol recipe name code = true ↔ ⟨name, code⟩ ∈ recipe.symbols := by
  rw [hasSymbol, any_eq_true]
  simp only [Bool.and_eq_true, beq_iff_eq]
  constructor
  · rintro ⟨⟨_, _⟩, hmem, rfl, -, rfl⟩
    exact hmem
  · exact fun h => ⟨_, h, rfl, rfl, rfl⟩

theorem hasTransaction_eq_true {e : BinderTransaction} :
    hasTransaction recipe e = true ↔ e ∈ recipe.transactions := by
  rw [hasTransaction, any_eq_true]
  simp only [Bool.and_eq_true, beq_iff_eq]
  constructor
  · rintro ⟨⟨_, _⟩, hmem, rfl, rfl⟩
    exact hmem
  · exact fun h => ⟨_, h, rfl, rfl⟩

theorem nodup_kTransactions : (kTransactions.map (·.code)).Nodup := by decide

theorem nodup_symbols : ([⟨kOnTransactSymbol, kOnTransactPrologue⟩,
    ⟨kCharacteristicsSymbol, kCharacteristicsPrologue⟩] : List SymbolRequirement).Nodup := by
  have hne : kOnTransactPrologue ≠ kCharacteristicsPrologue := by decide
  simp [hne]

/-- **The recipes that match are those of the device, up to the order of symbols and transactions.** -/
theorem exactlyMatches_eq_true : exactlyMatchesNx769j recipe = true ↔ Nx769j recipe := by
  rw [exactlyMatchesNx769j]
  constructor
  · intro h
    split_ifs at h with hsca
    push Not at hsca
    obtain ⟨hsc, ha, hm, hsi, hsh, hb, hs, hh,
      ht, hd⟩ := hsca
    obtain ⟨⟨role, symbol⟩, hho⟩ := length_eq_one_iff.mp hh
    obtain ⟨⟨suffix, size, sha256, buildId⟩, hde⟩ := length_eq_one_iff.mp hd
    simp only [hho, hde] at h
    split_ifs at h with hfi
    push Not at hfi
    obtain ⟨rfl, rfl, rfl, rfl, rfl, rfl, hf, hse⟩ := hfi
    rw [all_eq_true] at h
    refine ⟨hsc, ha, hm, hsi, hsh, hb, hho, hde, ?_, ?_⟩
    · refine (perm_iff_of_nodup nodup_symbols).mpr ⟨hs, ?_⟩
      rw [forall_mem_cons, forall_mem_singleton]
      exact ⟨hasSymbol_eq_true.mp (by simpa using hf), hasSymbol_eq_true.mp (by simpa using hse)⟩
    · exact (perm_iff_of_nodup nodup_kTransactions.of_map).mpr
        ⟨ht, fun expected hmem => hasTransaction_eq_true.mp (h expected hmem)⟩
  · rintro ⟨hsc, ha, hm, hsi, hsh, hb, hh, hd, hs,
      ht⟩
    obtain ⟨htwo, hfo⟩ := (perm_iff_of_nodup nodup_symbols).mp hs
    obtain ⟨htw, hall⟩ := (perm_iff_of_nodup nodup_kTransactions.of_map).mp ht
    have hf := hasSymbol_eq_true.mpr (hfo _ mem_cons_self)
    have hse := hasSymbol_eq_true.mpr (hfo _ (mem_cons_of_mem _ mem_cons_self))
    rw [if_neg, hh, hd]
    · refine (if_neg ?_).trans ?_
      · rintro (h | h | h | h | h | h | h | h)
        on_goal 7 => exact absurd (hf.symm.trans h) Bool.noConfusion
        on_goal 7 => exact absurd (hse.symm.trans h) Bool.noConfusion
        all_goals exact h rfl
      · rw [all_eq_true]
        exact fun expected hmem => hasTransaction_eq_true.mpr (hall expected hmem)
    · rw [hh, hd, hsc, ha, hm, hsi, hsh, hb, htwo,
        htw]
      rintro (h | h | h | h | h | h | h | h | h | h) <;> exact h rfl

theorem classify_perm {r o : AbiRecipe} (h : r.transactions.Perm o.transactions)
    (hco : (r.transactions.map (·.code)).Nodup) (code : ℕ) :
    classifyBinderTransaction r code = classifyBinderTransaction o code := by
  rw [classifyBinderTransaction, classifyBinderTransaction, find?_perm h]
  intro a ha b hb hc hc'
  rw [beq_iff_eq] at hc hc'
  exact inj_on_of_nodup_map hco ha hb (hc.trans hc'.symm)

/-- **The static trampoline is selected exactly for the recipes of the device**, in which the entries
may stand in any order; these recipes classify every transaction alike. -/
theorem selection_exact :
    (∀ recipe, exactlyMatchesNx769j recipe = true ↔ Nx769j recipe) ∧
    ∀ recipe other : RuntimeRecipe, exactlyMatchesNx769j recipe = true →
      exactlyMatchesNx769j other = true → ∀ code < 2 ^ 32,
        classifyBinderTransaction recipe.toAbiRecipe code =
          classifyBinderTransaction other.toAbiRecipe code := by
  refine ⟨fun recipe => exactlyMatches_eq_true, fun recipe other hr ho code _ => ?_⟩
  have hf := (exactlyMatches_eq_true.mp hr).transactions
  have hs := (exactlyMatches_eq_true.mp ho).transactions
  refine classify_perm (hf.trans hs.symm) ?_ code
  exact (hf.map (·.code)).nodup_iff.mpr nodup_kTransactions

/-- The recipe of the device, with its entries in the order of the tables. -/
def nx769jRecipe : RuntimeRecipe where
  transactions := kTransactions
  schema := 2
  moduleSuffix := kModule
  fileSize := kModuleSize
  sha256Hex := kModuleSha256
  buildIdHex := kModuleBuildId
  architecture := "arm64"
  symbols := [⟨kOnTransactSymbol, kOnTransactPrologue⟩,
    ⟨kCharacteristicsSymbol, kCharacteristicsPrologue⟩]
  hooks := [⟨"on_transact", kOnTransactSymbol⟩]
  dependencies := [⟨kClientModule, kClientModuleSize, kClientModuleSha256, kClientModuleBuildId⟩]

/-- The same recipe with its transactions in the opposite order. -/
theorem selection_exact_reverse : exactlyMatchesNx769j nx769jRecipe = true ∧
    exactlyMatchesNx769j { nx769jRecipe with transactions := kTransactions.reverse } = true ∧
    classifyBinderTransaction nx769jRecipe.toAbiRecipe 9 =
      classifyBinderTransaction ⟨kTransactions.reverse⟩ 9 := by
  have hf := (selection_exact.1 nx769jRecipe).mpr
    ⟨rfl, rfl, rfl, rfl, rfl, rfl, rfl, rfl, .refl _, .refl _⟩
  have hs := (selection_exact.1 { nx769jRecipe with transactions := kTransactions.reverse }).mpr
    ⟨rfl, rfl, rfl, rfl, rfl, rfl, rfl, rfl, .refl _, kTransactions.reverse_perm⟩
  exact ⟨hf, hs, selection_exact.2 _ _ hf hs 9 (by decide)⟩

end Vcam.Runtime
