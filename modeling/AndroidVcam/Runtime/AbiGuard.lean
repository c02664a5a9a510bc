import AndroidVcam.Runtime.BuildId
import AndroidVcam.Runtime.PatchMemory
import AndroidVcam.Runtime.Sha256
import AndroidVcam.Runtime.StaticTrampoline

/-!
# The ABI guard

`validateLoadedModule` of `runtime/RuntimeAbiGuard.cpp` looks for the module of a recipe in its own
process and compares its file and its build ID, those of the dependencies, and the code of the
symbols. The parser decodes the hexadecimal fields of a recipe, but keeps their texts, and these are
compared with texts in lower case.

* `Device`, `validateLoadedModule`; `lowered`: a recipe with its texts in lower case;
* **`spelling_iff`**: two spellings of a recipe are told apart by the first one in capitals.
-/

namespace Vcam.Runtime

open TextFile List

/-! ## The process -/

structure ProgramHeader where
  loadable : Bool
  executable : Bool
  vaddr : ℕ
  memsz : ℕ

/-- A module as `dl_iterate_phdr` reports it, with the contents of its note segments. -/
structure LoadedModule where
  path : Text
  base : ℕ
  headers : List ProgramHeader
  notes : List Bytes

/-- What comes of reading a file to its end. -/
inductive FileRead
  | unopened
  | broken
  | content (bytes : Bytes)

/-- The process and the file system; a handle is what `dlsym` finds with it. -/
structure Device where
  modules : List LoadedModule
  executablePath : Text
  stat : Text → Option ℕ
  file : Text → FileRead
  dlopen : Option Text → Except Text (Text → Option UInt64)
  memory : Memory

/-- `findModuleCallback` on the modules in order. -/
def Device.findModule (device : Device) (suffix : Text) : Option LoadedModule :=
  (device.modules.map fun module =>
    if module.path.isEmpty then { module with path := device.executablePath } else module).find?
      fun module => suffix.isSuffixOf module.path

def Device.sha256FileHex (device : Device) (path : Text) : Except Text Text :=
  match device.file path with
  | .unopened => .error ("cannot open module for hashing: " ++ path)
  | .broken => .error ("failed while hashing module: " ++ path)
  | .content bytes => .ok (Runtime.sha256FileHex bytes)

def LoadedModule.buildIdHex (module : LoadedModule) : Text := (BuildId.readBuildId module.notes).getD []

def isInsideExecutableSegment (module : LoadedModule) (address : UInt64) (length : ℕ) :
    Bool :=
  if length > 2 ^ 64 - 1 - address.toNat then false
  else module.headers.any fun header =>
    let start := (module.base + header.vaddr) % 2 ^ 64
    header.loadable && header.executable && decide (start ≤ address.toNat) &&
      decide (address.toNat + length ≤ (start + header.memsz) % 2 ^ 64)

/-! ## The guard -/

inductive ProbeStatus
  | allowed
  | invalidRecipe
  | moduleNotLoaded
  | fileSizeMismatch
  | fileHashMismatch
  | buildIdMismatch
  | symbolMissing
  | symbolOutsideExecutableSegment
  | codePrefixMismatch
  | unsupportedPlatform
deriving DecidableEq

structure ProbeResult where
  status : ProbeStatus := .invalidRecipe
  message : Text := []
  modulePath : Text := []
  observedBuildIdHex : Text := []
  moduleBase : ℕ := 0
  resolvedSymbols : List (Text × UInt64) := []

/-- The result once the module is found. -/
def moduleFound (module : LoadedModule) : ProbeResult :=
  { modulePath := module.path, moduleBase := module.base, observedBuildIdHex := module.buildIdHex }

/-- A comparison, with what is returned when it fails. -/
structure Check where
  passes : Bool
  status : ProbeStatus
  message : Text

def ProbeResult.refuse (result : ProbeResult) (check : Check) : ProbeResult :=
  { result with status := check.status, message := check.message }

def failing (checks : List Check) : Option Check := checks.find? fun check => !check.passes

/-- The comparisons of a loaded module with its identity. -/
def identityChecks (device : Device) (module : LoadedModule) (identity : ModuleIdentity)
    (message : Text → Text) (unnamed : Bool) : List Check :=
  [⟨device.stat module.path == some identity.fileSize, .fileSizeMismatch, message "file size"⟩,
    ⟨(unnamed || !module.buildIdHex.isEmpty) && module.buildIdHex == identity.buildIdHex,
      .buildIdMismatch, message "Build ID"⟩,
    match device.sha256FileHex module.path with
    | .error hashError => ⟨false, .fileHashMismatch, hashError⟩
    | .ok observed => ⟨observed == identity.sha256Hex, .fileHashMismatch, message "SHA-256"⟩]

def dependencyChecks (device : Device) (dependency : ModuleIdentity) : List Check :=
  match device.findModule dependency.moduleSuffix with
  | none => [⟨false, .moduleNotLoaded,
      "required dependency is not loaded: " ++ dependency.moduleSuffix⟩]
  | some module => identityChecks device module dependency (fun what => "dependency " ++
      what ++ " does not match: " ++ dependency.moduleSuffix) true

def RuntimeRecipe.identity (recipe : RuntimeRecipe) : ModuleIdentity :=
  ⟨recipe.moduleSuffix, recipe.fileSize, recipe.sha256Hex, recipe.buildIdHex⟩

def moduleChecks (device : Device) (module : LoadedModule) (recipe : RuntimeRecipe) : List Check :=
  identityChecks device module recipe.identity (fun what => "loaded module " ++ what ++
    " does not match recipe") false

def checks (device : Device) (module : LoadedModule) (recipe : RuntimeRecipe) : List Check :=
  moduleChecks device module recipe ++ recipe.dependencies.flatMap (dependencyChecks device)

def resolveSymbols (device : Device) (module : LoadedModule) (dlsym : Text → Option UInt64) :
    List SymbolRequirement → ProbeResult → ProbeResult
  | [], result => { result with
      status := .allowed
      message := "ABI recipe matched; runtime interception may be enabled explicitly" }
  | requirement :: rest, result =>
    let code := requirement.codePrefix
    match dlsym requirement.name with
    | none => result.refuse ⟨false, .symbolMissing,
        "required symbol is missing: " ++ requirement.name⟩
    | some address =>
      match failing [⟨isInsideExecutableSegment module address code.length,
          .symbolOutsideExecutableSegment,
          "symbol is outside an executable segment: " ++ requirement.name⟩,
        ⟨bytesAt device.memory address code.length == code,
          .codePrefixMismatch, "symbol code prefix does not match: " ++ requirement.name⟩] with
      | some check => result.refuse check
      | none => resolveSymbols device module dlsym rest
          { result with resolvedSymbols := result.resolvedSymbols ++ [(requirement.name, address)] }

/-- What comes after the comparisons of the files. -/
def probeSymbols (device : Device) (module : LoadedModule) (symbols : List SymbolRequirement)
    (result : ProbeResult) : ProbeResult :=
  match device.dlopen (if module.path = device.executablePath then none else some module.path) with
  | .error message => result.refuse ⟨false, .moduleNotLoaded,
      "cannot acquire loaded module handle: " ++ message⟩
  | .ok dlsym => resolveSymbols device module dlsym symbols result

def incomplete (recipe : RuntimeRecipe) : Option Text :=
  if (recipe.schema ≠ 1 ∧ recipe.schema ≠ 2) ∨ recipe.moduleSuffix = [] ∨ recipe.fileSize = 0 ∨
      recipe.buildIdHex = [] ∨ recipe.symbols = [] then some "incomplete ABI recipe"
  else if recipe.schema = 2 ∧ (recipe.architecture ≠ "arm64" ∨ recipe.hooks = [] ∨
      recipe.transactions = [] ∨ recipe.dependencies = []) then
    some "incomplete schema 2 strategy recipe"
  else none

def validateLoadedModule (device : Device) (recipe : RuntimeRecipe) : ProbeResult :=
  match incomplete recipe with
  | some message => { status := .invalidRecipe, message := message }
  | none =>
    match device.findModule recipe.moduleSuffix with
    | none => { status := .moduleNotLoaded
                message := "module is not loaded: " ++ recipe.moduleSuffix }
    | some module =>
      match failing (checks device module recipe) with
      | some check => (moduleFound module).refuse check
      | none => probeSymbols device module recipe.symbols (moduleFound module)

/-! ## Spellings -/

def ModuleIdentity.lowered (identity : ModuleIdentity) : ModuleIdentity :=
  { identity with
    sha256Hex := identity.sha256Hex.map Char.toLower
    buildIdHex := identity.buildIdHex.map Char.toLower }

def RuntimeRecipe.lowered (recipe : RuntimeRecipe) : RuntimeRecipe :=
  { recipe with
    sha256Hex := recipe.sha256Hex.map Char.toLower
    buildIdHex := recipe.buildIdHex.map Char.toLower
    dependencies := recipe.dependencies.map ModuleIdentity.lowered }

/-- Comparisons in lower case, each with whether the text of the identity was. -/
def ModuleIdentity.spelled (identity : ModuleIdentity) : List Check → List (Check × Bool)
  | [size, buildId, sha256] => [(size, true), (buildId, decide (Hex.Lower identity.buildIdHex)),
      (sha256, decide (Hex.Lower identity.sha256Hex))]
  | list => list.map (·, true)

/-- The comparisons of a recipe in lower case, each with whether its text was. -/
def spelled (device : Device) (module : LoadedModule) (recipe : RuntimeRecipe) :
    List (Check × Bool) :=
  recipe.identity.spelled (moduleChecks device module recipe.lowered) ++
    recipe.dependencies.flatMap fun dependency =>
      dependency.spelled (dependencyChecks device dependency.lowered)

/-- The status of the first comparison that fails, or whose text is not in lower case. -/
def stopped (list : List (Check × Bool)) : Option ProbeStatus :=
  (list.find? fun p => !(p.1.passes && p.2)).map (·.1.status)

/-- Where the bytes are right, the texts are both in lower case or both not; or the recipe whose text
is goes on to fail with the same status. -/
def Agree : List (Check × Bool) → List (Check × Bool) → Prop
  | (check, lower) :: rest, (_, lower') :: rest' => check.passes = true →
    if lower = lower' then lower = true → Agree rest rest'
    else stopped (if lower then rest else rest') = some check.status
  | _, _ => True

/-- Two texts of the same bytes. -/
def SameHex (text text' : Text) : Prop :=
  ∃ bytes, decodeHex text = some bytes ∧ decodeHex text' = some bytes

structure SameIdentity (a b : ModuleIdentity) : Prop where
  sha256 : SameHex a.sha256Hex b.sha256Hex
  buildId : SameHex a.buildIdHex b.buildIdHex
  rest : b = { a with sha256Hex := b.sha256Hex, buildIdHex := b.buildIdHex }

/-- Recipes with the same bytes in every hexadecimal field that are otherwise equal. -/
structure SameBytes (a b : RuntimeRecipe) : Prop where
  identity : SameIdentity a.identity b.identity
  dependencies : List.Forall₂ SameIdentity a.dependencies b.dependencies
  rest : b = { a with sha256Hex := b.sha256Hex, buildIdHex := b.buildIdHex
                      dependencies := b.dependencies }

variable {device : Device} {module : LoadedModule} {recipe r' : RuntimeRecipe}

theorem SameHex.lowered {text text' : Text} (h : SameHex text text') :
    text.map Char.toLower = text'.map Char.toLower := by
  obtain ⟨bytes, ha, hb⟩ := h
  unfold decodeHex at ha hb
  split_ifs at ha hb
  rw [← Hex.encode_of_decode ha, ← Hex.encode_of_decode hb]

theorem SameIdentity.lowered {a b : ModuleIdentity} (h : SameIdentity a b) : a.lowered = b.lowered := by
  rw [h.rest, ModuleIdentity.lowered, ModuleIdentity.lowered, h.sha256.lowered, h.buildId.lowered]

theorem map_lowered {l l' : List ModuleIdentity} (h : List.Forall₂ SameIdentity l l') :
    l.map ModuleIdentity.lowered = l'.map ModuleIdentity.lowered := by
  induction h with
  | nil => rfl
  | cons hab _ ih => rw [map_cons, map_cons, hab.lowered, ih]

theorem SameBytes.lowered (h : SameBytes recipe r') : recipe.lowered = r'.lowered := by
  have hs : recipe.sha256Hex.map _ = r'.sha256Hex.map _ := h.identity.sha256.lowered
  have hb : recipe.buildIdHex.map _ = r'.buildIdHex.map _ := h.identity.buildId.lowered
  rw [h.rest, RuntimeRecipe.lowered, RuntimeRecipe.lowered, map_lowered h.dependencies, hs, hb]

/-- A text in lower case is found as it is written. -/
theorem beq_spelled {o : Text} (h : Hex.Lower o) (text : Text) :
    (o == text) = (o == text.map Char.toLower && decide (Hex.Lower text)) := by
  by_cases hl : Hex.Lower text
  · rw [show text.map Char.toLower = text from hl, decide_eq_true hl, Bool.and_true]
  · rw [decide_eq_false hl, Bool.and_false, beq_eq_false_iff_ne]
    rintro rfl
    exact hl h

theorem lower_buildIdHex (m : LoadedModule) : Hex.Lower m.buildIdHex := by
  rw [LoadedModule.buildIdHex, BuildId.readBuildId_eq]
  exact Hex.lower_encode _

/-- The texts of an identity only matter where the bytes are right. -/
theorem identity_spelled (i : ModuleIdentity) (m : Text → Text) (u : Bool) :
    (identityChecks device module i m u).map (fun c => (c.passes, c.status)) =
      (i.spelled (identityChecks device module i.lowered m u)).map
        fun p => (p.1.passes && p.2, p.1.status) := by
  rw [identityChecks, beq_spelled (lower_buildIdHex module), identityChecks]
  cases hd : device.sha256FileHex module.path with
  | error e => simp [ModuleIdentity.spelled, ModuleIdentity.lowered, Bool.and_assoc]
  | ok digest =>
    have hl : Hex.Lower digest := by
      unfold Device.sha256FileHex at hd
      split at hd <;> cases hd
      exact Hex.lower_encode _
    simp only
    rw [beq_spelled hl]
    simp [ModuleIdentity.spelled, ModuleIdentity.lowered, Bool.and_assoc]

theorem dependency_spelled (d : ModuleIdentity) :
    (dependencyChecks device d).map (fun c => (c.passes, c.status)) =
      (d.spelled (dependencyChecks device d.lowered)).map
        fun p => (p.1.passes && p.2, p.1.status) := by
  have hs : d.lowered.moduleSuffix = d.moduleSuffix := rfl
  rw [dependencyChecks, dependencyChecks, hs]
  cases device.findModule d.moduleSuffix with
  | none => rfl
  | some module => exact identity_spelled d _ true

/-- What the comparisons of a recipe answer depends on the spelling of its texts. -/
theorem failing_checks (r : RuntimeRecipe) :
    (failing (checks device module r)).map (·.status) =
      stopped (spelled device module r) := by
  have hc : (checks device module r).map (fun c => (c.passes, c.status)) =
      (spelled device module r).map fun p => (p.1.passes && p.2, p.1.status) := by
    rw [checks, spelled, map_append, map_append, map_flatMap, map_flatMap]
    simp only [dependency_spelled]
    exact congrArg (· ++ _) (identity_spelled r.identity _ false)
  have hf := congrArg (fun l => (l.find? (!·.1)).map Prod.snd) hc
  simp only [find?_map, Option.map_map] at hf
  exact hf

theorem fst_spelled (i : ModuleIdentity) (list : List Check) :
    (i.spelled list).map Prod.fst = list := by
  unfold ModuleIdentity.spelled
  split <;> simp [Function.comp_def]

theorem fst_spelled_recipe (r : RuntimeRecipe) :
    (spelled device module r).map Prod.fst = checks device module r.lowered := by
  rw [spelled, map_append, fst_spelled, map_flatMap]
  simp only [fst_spelled]
  rw [checks, RuntimeRecipe.lowered, flatMap_map]

/-- Only a build ID or a hash is spelled in two ways. -/
theorem status_of_capital {p : Check × Bool} (hp : p ∈ spelled device module recipe)
    (hf : p.2 = false) : p.1.status = .buildIdMismatch ∨ p.1.status = .fileHashMismatch := by
  have hid (m : LoadedModule) (i j : ModuleIdentity) (message unnamed)
      (hp : p ∈ i.spelled (identityChecks device m j message unnamed)) :
      p.1.status = .buildIdMismatch ∨ p.1.status = .fileHashMismatch := by
    unfold identityChecks at hp
    simp only [ModuleIdentity.spelled, mem_cons, not_mem_nil, or_false] at hp
    obtain rfl | rfl | rfl := hp
    · cases hf
    · exact .inl rfl
    · right
      dsimp only
      split <;> rfl
  rw [spelled, mem_append, mem_flatMap] at hp
  obtain hp | ⟨dependency, -, hp⟩ := hp
  · exact hid _ _ _ _ _ hp
  · unfold dependencyChecks at hp
    split at hp
    · rw [ModuleIdentity.spelled, map_singleton, mem_singleton] at hp
      · cases hp
        cases hf
      · simp
    · exact hid _ _ _ _ _ hp

/-- The symbols are refused for reasons of their own. -/
theorem status_probeSymbols (d : Device) (m : LoadedModule)
    (s : List SymbolRequirement) (r : ProbeResult) :
    (probeSymbols d m s r).status ≠ .buildIdMismatch ∧
      (probeSymbols d m s r).status ≠ .fileHashMismatch := by
  unfold probeSymbols
  split
  · exact ⟨nofun, nofun⟩
  · rename_i dlsym _
    fun_induction resolveSymbols d m dlsym s r with
    | case1 => exact ⟨nofun, nofun⟩
    | case2 => exact ⟨nofun, nofun⟩
    | case3 requirement rest r code address _ check hc =>
      have hmem := mem_of_find?_eq_some hc
      simp only [mem_cons, not_mem_nil, or_false] at hmem
      obtain rfl | rfl := hmem <;> exact ⟨nofun, nofun⟩
    | case4 _ _ _ _ _ _ _ ih => exact ih

theorem stopped_cons (c : Check) (l : Bool) (rest : List (Check × Bool)) :
    stopped ((c, l) :: rest) =
      if (c.passes && l) = true then stopped rest else some c.status := by
  rw [stopped, find?_cons]
  cases c.passes && l <;> rfl

/-- Two lists of the same comparisons end with one status exactly when they agree. -/
theorem agree_iff {l l' : List (Check × Bool)} {f : ProbeStatus}
    (hl : ∀ p ∈ l, p.2 = false → p.1.status ≠ f)
    (hl' : ∀ p ∈ l', p.2 = false → p.1.status ≠ f) (h : l.map Prod.fst = l'.map Prod.fst) :
    (stopped l).getD f = (stopped l').getD f ↔ Agree l l' := by
  have hd (o : Option ProbeStatus) {s : ProbeStatus} (hs : s ≠ f) :
      o.getD f = s ↔ o = some s := by
    cases o <;> simp [hs.symm]
  induction l generalizing l' with
  | nil =>
    rw [map_eq_nil_iff.mp h.symm]
    exact iff_of_true rfl trivial
  | cons p rest ih =>
    obtain ⟨check, lower⟩ := p
    cases l' with
    | nil => cases h
    | cons p' rest' =>
    obtain ⟨_, lower'⟩ := p'
    obtain ⟨rfl, hr⟩ := List.cons.inj h
    have hs := hl _ mem_cons_self
    have hs' := hl' _ mem_cons_self
    have hi := ih (fun p hp => hl p (.tail _ hp)) (fun p hp => hl' p (.tail _ hp)) hr
    rw [Agree, stopped_cons, stopped_cons]
    cases check.passes with
    | false => simp
    | true =>
      cases lower <;> cases lower'
      · simp
      · simpa [eq_comm] using hd (stopped rest') (hs rfl)
      · simpa using hd (stopped rest) (hs' rfl)
      · simpa using hi

theorem status_validate (d : Device) (r : RuntimeRecipe) :
    (validateLoadedModule d r).status =
      if (incomplete r).isSome then .invalidRecipe
      else match d.findModule r.moduleSuffix with
        | none => .moduleNotLoaded
        | some module => (stopped (spelled d module r)).getD
            (probeSymbols d module r.symbols (moduleFound module)).status := by
  rw [validateLoadedModule]
  cases incomplete r with
  | some message => rfl
  | none =>
    cases d.findModule r.moduleSuffix with
    | none => rfl
    | some module =>
      simp only [← failing_checks]
      cases failing (checks d module r) <;> rfl

theorem select_eq_iff (code : TrampolineCode) : selectStaticArm64Trampoline code recipe =
    selectStaticArm64Trampoline code r' ↔ (Nx769j recipe ↔ Nx769j r') := by
  have hs (r : RuntimeRecipe) : exactlyMatchesNx769j r =
      decide ((selectStaticArm64Trampoline code r).status ≠ .noExactRecipe) := by
    unfold selectStaticArm64Trampoline
    cases exactlyMatchesNx769j r with
    | false => rfl
    | true =>
      rw [if_neg (by decide)]
      split
      · rfl
      · split_ifs <;> rfl
  rw [← exactlyMatches_eq_true, ← exactlyMatches_eq_true, ← Bool.eq_iff_iff]
  constructor
  · intro h
    rw [hs, hs, h]
  · intro h
    unfold selectStaticArm64Trampoline
    rw [h]

theorem incomplete_lowered (recipe : RuntimeRecipe) : incomplete recipe.lowered = incomplete recipe := by
  simp only [incomplete, RuntimeRecipe.lowered, map_eq_nil_iff]

/-- **Hexadecimal spellings.** Two recipes of the same bytes get one status and one selection exactly
when their spellings agree up to the first comparison that fails, and are both those of the tables of
the trampoline or both not. -/
theorem spelling_iff (d : Device) (code : TrampolineCode) (r r' : RuntimeRecipe)
    (h : SameBytes r r') :
    ((validateLoadedModule d r).status = (validateLoadedModule d r').status ∧
      selectStaticArm64Trampoline code r = selectStaticArm64Trampoline code r') ↔
    (incomplete r = none → ∀ m ∈ d.findModule r.moduleSuffix,
      Agree (spelled d m r) (spelled d m r')) ∧
    (Nx769j r ↔ Nx769j r') := by
  have hl := h.lowered
  have hi : incomplete r' = incomplete r := by
    rw [← incomplete_lowered, ← hl, incomplete_lowered]
  have hm : r'.moduleSuffix = r.moduleSuffix := congrArg (·.moduleSuffix) hl.symm
  have hs : r'.symbols = r.symbols := congrArg (·.symbols) hl.symm
  rw [select_eq_iff, status_validate, status_validate, hi, hm, hs]
  refine and_congr_left' ?_
  cases incomplete r with
  | some message => simp
  | none =>
    cases d.findModule r.moduleSuffix with
    | none => simp
    | some m =>
      have hne (x : RuntimeRecipe) (p) (hp : p ∈ spelled d m x) (hf : p.2 = false) :
          p.1.status ≠ (probeSymbols d m r.symbols (moduleFound m)).status := by
        have hst := status_probeSymbols d m r.symbols (moduleFound m)
        obtain hb | hb := status_of_capital hp hf <;> rw [hb]
        exacts [hst.1.symm, hst.2.symm]
      have ha := agree_iff (hne r) (hne r')
        (by rw [fst_spelled_recipe, fst_spelled_recipe, hl])
      simpa using ha

/-- In lower case there is one spelling of the bytes. -/
theorem status_of_lowered {r r' : RuntimeRecipe} (h : SameBytes r r') (hr : r.lowered = r)
    (hr' : r'.lowered = r') (d : Device) (code : TrampolineCode) :
    (validateLoadedModule d r).status = (validateLoadedModule d r').status ∧
      selectStaticArm64Trampoline code r = selectStaticArm64Trampoline code r' := by
  obtain rfl : r = r' := hr.symm.trans (h.lowered.trans hr')
  exact ⟨rfl, rfl⟩

/-- The text of a recipe for one symbol of `/a`. -/
def shortText (buildId : Text) : Text :=
  "schema\t1\nmodule\t/a\nfile_size\t1\nsymbol\tf\t00\nsha256\t" ++
    replicate 64 '0' ++ "\nbuild_id\t" ++ buildId

def shortRecipe (buildId : Text) : RuntimeRecipe :=
  { emptyRecipe with
    schema := 1, moduleSuffix := "/a", fileSize := 1, symbols := [⟨['f'], [0]⟩]
    sha256Hex := replicate 64 '0', buildIdHex := buildId }

/-- A process with `/a`, whose file cannot be opened. -/
def unreadable : Device where
  modules := [⟨"/a", 0, [], [[4, 0, 0, 0, 8, 0, 0, 0, 3, 0, 0, 0] ++ BuildId.gnu ++ [0] ++
    replicate 8 0xaa]⟩]
  executablePath := []
  stat _ := some 1
  file _ := .unopened
  dlopen _ := .error []
  memory _ := 0

theorem sameBytes_short {i i' : Text} (h : SameHex i i') :
    SameBytes (shortRecipe i) (shortRecipe i') := by
  have hz : decodeHex (replicate 64 '0') = some (replicate 32 0) := by decide
  exact ⟨⟨⟨_, hz, hz⟩, h, rfl⟩, .nil, rfl⟩

/-- Two spellings with capitals are refused alike. -/
theorem spelling_iff_capitals :
    (incomplete (shortRecipe (replicate 16 'A')) = none →
      ∀ m ∈ unreadable.findModule "/a",
        Agree (spelled unreadable m (shortRecipe (replicate 16 'A')))
          (spelled unreadable m (shortRecipe ('a' :: replicate 15 'A')))) ∧
    (Nx769j (shortRecipe (replicate 16 'A')) ↔
      Nx769j (shortRecipe ('a' :: replicate 15 'A'))) :=
  (spelling_iff unreadable none _ _ (sameBytes_short ⟨replicate 8 0xaa, rfl, rfl⟩)).mp
    ⟨by decide +kernel, rfl⟩

/-- The build ID in lower case is found, and the hash is looked for; the accepted recipe with the same
ID in capitals is not that of the module. -/
theorem capitals_mismatch :
    parseAbiRecipe [] (some (shortText (replicate 16 'a'))) =
      .ok (shortRecipe (replicate 16 'a')) ∧
    parseAbiRecipe [] (some (shortText (replicate 16 'A'))) =
      .ok (shortRecipe (replicate 16 'A')) ∧
    SameBytes (shortRecipe (replicate 16 'a')) (shortRecipe (replicate 16 'A')) ∧
    (validateLoadedModule unreadable (shortRecipe (replicate 16 'a'))).status =
      .fileHashMismatch ∧
    (validateLoadedModule unreadable (shortRecipe (replicate 16 'A'))).status =
      .buildIdMismatch :=
  ⟨rfl, rfl, sameBytes_short ⟨replicate 8 0xaa, rfl, rfl⟩, by decide +kernel, by decide +kernel⟩

end Vcam.Runtime
