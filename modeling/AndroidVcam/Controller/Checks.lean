import AndroidVcam.Lib.Awk
import AndroidVcam.Lib.Shell
import AndroidVcam.Routing.RouteResolver

/-!
# What the controller checks

`apmodule/vcamctl` is the shell script behind the control daemon. This module has its paths and the
checks its commands start with; all of them only look at the files.

* `Env`: what the script finds on the device; `Reply`: its exit status and what it prints;
* `prepareDirs`: the directories and the route table.
-/

namespace Vcam

open TextFile FileTree Shell List Script

namespace Controller

/-! ## Paths -/

@[irreducible] def stateDir : Text := "/data/adb/android_vcam"

@[irreducible] def providerStateDir : Text := "/data/adb/android_vcam/providers"

@[irreducible] def frameDir : Text := "/data/vendor/camera/vcam"

@[irreducible] def providerFrameDir : Text := "/data/vendor/camera/vcam/providers"

@[irreducible] def routesFile : Text := "/data/vendor/camera/vcam/routes.tsv"

def routingDisabledFile : Text := routesFile ++ ".disabled"

@[irreducible] def profileFile : Text := "/data/adb/android_vcam/device-profile.conf"

@[irreducible] def topologyFile : Text := "/data/vendor/camera/vcam/topology.conf"

/-- `$PROVIDER_STATE_DIR/$id`. -/
def statePath (id : Text) : Text := providerStateDir ++ '/' :: id

/-- `$PROVIDER_FRAME_DIR/$id`. -/
def framePath (id : Text) : Text := providerFrameDir ++ '/' :: id

/-- `$PROVIDER_STATE_DIR/$id/$name`. -/
def stateFile (id : Text) (name : String) : Text := statePath id ++ '/' :: name.toList

/-- `$PROVIDER_FRAME_DIR/$id/$name`. -/
def frameFile (id : Text) (name : String) : Text := framePath id ++ '/' :: name.toList

/-! ## The device and the reply -/

/-- What the script finds on the device besides the files. -/
structure Env where
  /-- `$MODDIR`. -/
  moddir : Text
  /-- `$$`. -/
  pid : ℕ
  /-- `find_publisher` finds the program. -/
  publisher : Bool
  /-- `find_runner` finds the program. -/
  runner : Bool
  /-- `find_streamer` finds the program. -/
  streamer : Bool
  /-- `base64 -d`. -/
  base64 : Text → Option Text
  /-- `base64 | tr -d '\n'`. -/
  encode64 : Text → Text
  /-- The value of a run of digits for `test` and `$((…))`. -/
  integer : Text → ℤ
  arith : Awk.Arithmetic

def plainEnv : Env where
  moddir := "/data/adb/modules/android_vcam"
  pid := 4711
  publisher := false
  runner := false
  streamer := false
  base64 := fun _ => none
  encode64 := id
  integer := fun s => digitsValue s
  arith := ⟨id, fun _ _ => rfl⟩

structure Reply where
  status : ℕ
  message : Text
deriving DecidableEq

def say (message : String) : Reply := ⟨0, message.toList⟩

def refuse (status : ℕ) (message : String) : Reply := ⟨status, message.toList⟩

/-! ## Arguments -/

def isLetter (c : Char) : Bool :=
  (decide ('A' ≤ c) && decide (c ≤ 'Z')) || (decide ('a' ≤ c) && decide (c ≤ 'z'))

def isDecimal (c : Char) : Bool := decide ('0' ≤ c) && decide (c ≤ '9')

def idCharacter (c : Char) : Bool :=
  isLetter c || isDecimal c || c == '.' || c == '_' || c == '-'

/-- A non-empty name of these characters, not longer than a limit. -/
def validName (limit : ℕ) (name : Text) : Bool :=
  if name.isEmpty || name.any fun c => !idCharacter c then false else decide (name.length ≤ limit)

def validId (id : Text) : Bool := validName 64 id

def validPackage (package : Text) : Bool := validName 255 package

def validRoutePackage (package : Text) : Bool := package == ['*'] || validPackage package

def base64Character (c : Char) : Bool :=
  isLetter c || isDecimal c || c == '+' || c == '/' || c == '='

def validBase64 (s : Text) : Bool := !s.any fun c => !base64Character c

def isPhysical (id : Text) : Bool := id == "physical-0" || id == "physical-1"

def validNumberBetween (env : Env) (s : Text) (low high : ℤ) : Bool :=
  if s.isEmpty || s.any fun c => !isDecimal c then false
  else decide (low ≤ env.integer s) && decide (env.integer s ≤ high)

def validSourceConfig (env : Env) (fps width height : Text) : Bool :=
  if validNumberBetween env fps 1 60 && validNumberBetween env width 160 4096 &&
      validNumberBetween env height 120 4096 then
    let pixels := env.integer width * env.integer height
    decide (pixels ≤ 12582912) && decide (pixels * env.integer fps ≤ 124416000)
  else false

/-- The fields of an unquoted expansion with `IFS=,`: a comma at the end opens no further field. -/
def commaFields (s : Text) : List Text :=
  let parts := splitAll ',' s
  if parts.getLast? = some [] then parts.dropLast else parts

def validView (env : Env) (view : Text) : Bool :=
  match commaFields view with
  | [rotation, zoom, x, y] =>
    ["0".toList, "90".toList, "180".toList, "270".toList].contains rotation &&
      (validNumberBetween env zoom 100 8000 && validNumberBetween env x 0 1000 &&
        validNumberBetween env y 0 1000)
  | _ => false

/-! ## Files -/

/-- `sed -n "s/^key=//p" | head -n 1`. -/
def sedValue (key : String) (text : Text) : Text :=
  ((getlines text).findSome? fun line => (key.toList ++ ['=']).isPrefixOf? line).getD []

/-- `meta_value`: empty for a file that is not there. -/
def metaValue (t : Tree) (key : String) (file : Text) : Text :=
  sedValue key ((t.content file).getD [])

def configValue (t : Tree) (key : String) (file : Text) (fallback : String) : Text :=
  let value := metaValue t key file
  if value.isEmpty then fallback.toList else value

def configuredRouteScope (env : Env) (t : Tree) : Text :=
  let scope := metaValue t "route_scope" (env.moddir ++ "/oneplus-profile.conf")
  if scope.isEmpty then "per_app" else scope

def routePackageAllowed (env : Env) (t : Tree) (package : Text) : Bool :=
  validRoutePackage package &&
    (configuredRouteScope env t != "global" || package == ['*'])

def physicalProviderAvailable (t : Tree) (key : String) : Bool :=
  if t.isFile topologyFile then
    let cameraId := metaValue t key topologyFile
    !cameraId.isEmpty && cameraId != "none"
  else true

def providerExists (t : Tree) (id : Text) : Bool :=
  if id = "physical-0" then physicalProviderAvailable t "back_camera2_id"
  else if id = "physical-1" then physicalProviderAvailable t "front_camera2_id"
  else validId id && t.isFile (stateFile id "meta") && t.isDirectory (framePath id)

/-- `mkdir -p` with several operands. -/
def makeDirectories : List Text → Script Bool
  | [] => return true
  | path :: paths => do
    let made ← Script.status (.mkdir path)
    let rest ← makeDirectories paths
    return made && rest

def prepareDirs : Script Bool := do
  if !(← makeDirectories [stateDir, providerStateDir, frameDir, providerFrameDir]) then
    return false
  else
    exec_ (.touch routesFile)
    return true

/-! ## Facts about the checks -/

theorem idCharacter_eq (c : Char) : idCharacter c = RouteResolver.allowedIdCharacter c := by
  unfold idCharacter isLetter isDecimal RouteResolver.allowedIdCharacter
  cases decide ('a' ≤ c) <;> cases decide ('A' ≤ c) <;> simp [Bool.or_comm]

theorem validName_iff {limit : ℕ} {name : Text} : validName limit name = true ↔
    name ≠ [] ∧ (∀ c ∈ name, idCharacter c = true) ∧ name.length ≤ limit := by
  have hany : (name.any fun c => !idCharacter c) = true ↔ ¬∀ c ∈ name, idCharacter c = true := by
    rw [any_eq_true]
    push Not
    exact exists_congr fun c => and_congr_right fun _ => by rw [Bool.not_eq_true', Ne, Bool.not_eq_true]
  rw [validName]
  split_ifs with h
  · rw [Bool.or_eq_true, List.isEmpty_iff, hany] at h
    exact iff_of_false not_false fun hn => h.elim hn.1 (absurd hn.2.1)
  · rw [Bool.or_eq_true, List.isEmpty_iff, hany, not_or, not_not] at h
    rw [decide_eq_true_iff]
    exact ⟨fun hl => ⟨h.1, h.2, hl⟩, fun hn => hn.2.2⟩

theorem validId_eq_validProviderId (id : Text) :
    validId id = RouteResolver.validProviderId id := by
  rw [Bool.eq_iff_iff, validId, validName_iff, RouteResolver.validProviderId, Bool.and_eq_true,
    Bool.and_eq_true, Bool.not_eq_true', decide_eq_true_iff, all_eq_true,
    isEmpty_eq_false_iff, and_assoc]
  simp only [idCharacter_eq]
  exact and_congr_right fun _ => and_comm

theorem notMem_of_validName {l : ℕ} {name : Text} (h : validName l name = true) {c : Char}
    (hc : idCharacter c = false) : c ∉ name := fun hm => by
  have := (validName_iff.mp h).2.1 c hm
  rw [hc] at this
  cases this

/-! ## Successful commands -/

/-- A command that ended with status 0 and whose operations all succeeded. -/
structure Succeeded (script : Script Reply) (t : Tree) : Prop where
  status : (script.run noFailure t).value.status = 0
  ok : Script.AllOk (script.run noFailure t).events

instance (script : Script Reply) (t : Tree) : Decidable (Succeeded script t) :=
  decidable_of_iff ((script.run noFailure t).value.status = 0 ∧
    Script.AllOk (script.run noFailure t).events) ⟨fun h => ⟨h.1, h.2⟩, fun h => ⟨h.status, h.ok⟩⟩

namespace Succeeded

variable {t : Tree} {script : Script Reply}

theorem of_files {next : Tree → Script Reply} (h : Succeeded (Script.files >>= next) t) :
    Succeeded (next t) t := ⟨h.status, h.ok⟩

theorem of_check {c : Prop} [Decidable c] {s : ℕ} {m : String}
    (h : Succeeded (if c then pure (refuse (s + 1) m) else script) t) :
    ¬c ∧ Succeeded script t := by
  split_ifs at h with hc
  · exact absurd h.status (Nat.succ_ne_zero s)
  · exact ⟨hc, h⟩

theorem of_bind {α : Type} {f : Script α} {next : α → Script Reply}
    (h : Succeeded (f >>= next) t) : Script.AllOk (f.run noFailure t).events ∧
      Succeeded (next (f.run noFailure t).value) (f.run noFailure t).tree := by
  obtain ⟨hs, hok⟩ := h
  rw [value_bind] at hs
  rw [events_bind, allOk_append] at hok
  exact ⟨hok.1, hs, hok.2⟩

end Succeeded

/-! ## The directories -/

theorem plain_routesFile : Plain routesFile := by decide +kernel

variable {o : Op → Outcome}

theorem content_makeDirectories {p : List Text} (hp : ∀ path ∈ p, Plain path) (t : Tree)
    {other : Text} (ho : Plain other) :
    ((makeDirectories p).run o t).tree.content other = t.content other := by
  induction p generalizing t with
  | nil => rfl
  | cons path p ih =>
    have hma := (exec_mkdir (hp path mem_cons_self) t (o (.mkdir path))).1
    rw [makeDirectories, tree_bind, run_status, tree_bind, run_pure,
      ih (fun other hm => hp other (mem_cons_of_mem _ hm)), hma.content_eq ho]

theorem directory_makeDirectories {p : List Text} (hp : ∀ path ∈ p, Plain path) (t : Tree)
    {place : Path} (h : t.node place = some .directory) :
    ((makeDirectories p).run o t).tree.node place = some .directory := by
  induction p generalizing t with
  | nil => exact h
  | cons path p ih =>
    have hma := (exec_mkdir (hp path mem_cons_self) t (o (.mkdir path))).1
    rw [makeDirectories, tree_bind, run_status, tree_bind, run_pure]
    refine ih (fun other hm => hp other (mem_cons_of_mem _ hm)) _ ?_
    by_contra hg
    have hn := (hma.fresh place fun e => hg (e.trans h)).1
    rw [h] at hn
    cases hn

theorem made_directories {p : List Text} (hp : ∀ path ∈ p, Plain path) (t : Tree)
    (h : ((makeDirectories p).run o t).value = true) : ∀ path ∈ p,
      ((makeDirectories p).run o t).tree.node (location path) = some .directory := by
  induction p generalizing t with
  | nil => exact nofun
  | cons path p ih =>
    have hr : ∀ other ∈ p, Plain other := fun other hm => hp other (mem_cons_of_mem _ hm)
    have hma := (exec_mkdir (hp path mem_cons_self) t (o (.mkdir path))).2
    rw [makeDirectories, value_bind, run_status, value_bind, run_pure,
      Bool.and_eq_true] at h
    rw [makeDirectories, tree_bind, run_status, tree_bind, run_pure]
    exact forall_mem_cons.mpr
      ⟨directory_makeDirectories hr _ (hma h.1), ih hr _ h.2⟩

theorem plain_directories : ∀ path ∈ [stateDir, providerStateDir, frameDir, providerFrameDir],
    Plain path := by decide +kernel

theorem tree_prepareDirs (t : Tree) : ∃ t', (∀ path, Plain path → t'.content path = t.content path) ∧
    ((prepareDirs.run o t).tree = t' ∨ (prepareDirs.run o t).tree =
      (exec t' (.touch routesFile) (o (.touch routesFile))).1) := by
  refine ⟨((makeDirectories [stateDir, providerStateDir, frameDir, providerFrameDir]).run o
    t).tree, fun path hp => content_makeDirectories plain_directories t hp, ?_⟩
  rw [prepareDirs, tree_bind]
  split
  · rw [run_pure]
    exact .inl rfl
  · rw [tree_bind, run_exec_, run_pure]
    exact .inr rfl

/-- The directories are there when preparing has succeeded. -/
theorem prepared_directories (t : Tree) (h : (prepareDirs.run o t).value = true) :
    ∀ path ∈ [stateDir, providerStateDir, frameDir, providerFrameDir],
      (prepareDirs.run o t).tree.node (location path) = some .directory := by
  have hm := @made_directories o _ plain_directories t
  rw [prepareDirs, value_bind] at h
  rw [prepareDirs, tree_bind]
  cases hv : ((makeDirectories [stateDir, providerStateDir, frameDir, providerFrameDir]).run
      o t).value with
  | false =>
    rw [hv] at h
    cases h
  | true =>
    intro path hp
    have hd := hm hv path hp
    rw [if_neg (by decide), tree_bind, run_exec_, run_pure]
    rcases exec_touch ((makeDirectories [stateDir, providerStateDir, frameDir,
      providerFrameDir]).run o t).tree routesFile (o (.touch routesFile)) with e | ⟨-, hw⟩
    · rw [e]
      exact hd
    · exact (hw.directories _).mpr hd

theorem table_prepareDirs (t : Tree) :
    ((prepareDirs.run o t).tree.content routesFile).getD [] =
      (t.content routesFile).getD [] := by
  obtain ⟨t', hd, ht⟩ := @tree_prepareDirs o t
  rcases ht with ht | ht
  · rw [ht, hd routesFile plain_routesFile]
  · rw [ht, content_touch, hd routesFile plain_routesFile]

end Controller

end Vcam
