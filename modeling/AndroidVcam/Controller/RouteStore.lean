import AndroidVcam.Controller.Routes

/-!
# The route table is a map

The controller rewrites `routes.tsv` with `awk` and `printf`, the resolver reads it line by line. For
commands with Android package names or `*` the two agree on a map from package and target to
provider, which each command updates at the keys it names.

* `select_tableText`: the filters on a table; **`scanRoutes_tableText`**: the resolver on a table;
* **`represents_step`**: a command that succeeds does on the table what it does on the map;
* **`resolves_last_stored`**: after any history the resolver answers with what was stored last;
* **`answers_of_perm`**: commands for different keys in another order.
-/

namespace Vcam

open TextFile FileTree Shell List RouteResolver

namespace Controller

/-! ## Tables -/

structure Route where
  package : Text
  target : Text
  provider : Text
deriving DecidableEq

namespace Route

def key (route : Route) : Text × Text := (route.package, route.target)

def line (route : Route) : Text :=
  route.package ++ '\t' :: route.target ++ '\t' :: route.provider

def PlainField (field : Text) : Prop := '\t' ∉ field ∧ '\n' ∉ field ∧ '\r' ∉ field

structure Sound (route : Route) : Prop where
  package : PlainField route.package
  target : PlainField route.target
  provider : PlainField route.provider
  provider_ne_nil : route.provider ≠ []

end Route

def tableText (routes : List Route) : Text :=
  (routes.map Route.line).flatMap fun line => line ++ ['\n']

def providerOf (routes : List Route) (key : Text × Text) : Option Text :=
  (routes.find? fun route => route.key = key).map Route.provider

theorem providerOf_cons (route : Route) (r : List Route) (key : Text × Text) :
    providerOf (route :: r) key =
      if route.key = key then some route.provider else providerOf r key := by
  rw [providerOf, find?_cons]
  split_ifs with h <;> simp [h, providerOf]

theorem providerOf_filter (P : Text × Text → Bool) (r : List Route) (key : Text × Text) :
    providerOf (r.filter fun route => P route.key) key =
      if P key then providerOf r key else none := by
  unfold providerOf
  induction r with
  | nil => simp
  | cons route r ih =>
    by_cases hkey : route.key = key
    · cases hP : P key with
      | false => simpa [hkey, hP] using ih
      | true => simp [hkey, hP]
    · cases hP : P route.key with
      | false => simpa [hkey, hP] using ih
      | true => simpa [hkey, hP] using ih

theorem providerOf_append (r more : List Route) (key : Text × Text) :
    providerOf (r ++ more) key = (providerOf r key).or (providerOf more key) := by
  rw [providerOf, find?_append, providerOf, providerOf]
  cases r.find? fun route => route.key = key <;> rfl

namespace Route

variable {route : Route}

theorem Sound.newline (h : route.Sound) : '\n' ∉ route.line := by
  simp [line, h.package.2.1, h.target.2.1, h.provider.2.1]

theorem Sound.fields (h : route.Sound) :
    Awk.fields '\t' route.line = [route.package, route.target, route.provider] := by
  have hne : route.line ≠ [] := by simp [line]
  rw [Awk.fields, if_neg hne, line, splitAll_append, splitAll_append,
    splitAll_of_notMem h.package.1, splitAll_of_notMem h.target.1, splitAll_of_notMem h.provider.1]
  rfl

theorem Sound.popCR_line (h : route.Sound) : popCR route.line = route.line := by
  refine popCR_of_ne fun hl => ?_
  have hmem := mem_of_mem_getLast? hl
  simp [line, h.package.2.2, h.target.2.2, h.provider.2.2] at hmem

theorem Sound.parse (h : route.Sound) : parseRouteLine (popCR route.line) =
    some (route.package, route.target, route.provider) := by
  rw [h.popCR_line, line, append_assoc, cons_append, parseRouteLine,
    splitFirst_append h.package.1, Option.bind_some, splitFirst_append h.target.1]
  rfl

end Route

variable {routes : List Route}

theorem getlines_tableText (h : ∀ route ∈ routes, route.Sound) :
    getlines (tableText routes) = routes.map Route.line := by
  rw [tableText, flatMap_def, getlines_flatten]
  intro line hl
  obtain ⟨route, hr, rfl⟩ := mem_map.mp hl
  exact (h route hr).newline

theorem select_tableText (h : ∀ route ∈ routes, route.Sound) {c : Text → Bool}
    {P : Route → Bool} (hc : ∀ route ∈ routes, c route.line = P route) :
    Awk.select c (tableText routes) = tableText (routes.filter P) := by
  have hl : ∀ line ∈ routes.map Route.line, '\n' ∉ line := by
    intro line hli
    obtain ⟨route, hr, rfl⟩ := mem_map.mp hli
    exact (h route hr).newline
  rw [tableText, Awk.select_lines c hl, filter_map, tableText]
  congr 2
  exact filter_congr fun route hr => hc route hr

def scanned (packageProvider globalProvider : Option Text) : Text × RouteMatchKind :=
  match packageProvider, globalProvider with
  | some provider, _ => (provider, .package)
  | none, some provider => (provider, .global)
  | none, none => ([], .none)

/-- **The resolver on a table**: the provider of the package, or else the first one of `*`. -/
theorem scanRoutes_tableText (h : ∀ route ∈ routes, route.Sound) {p target : Text}
    (hpa : p ≠ []) (f : Text) :
    scanRoutes p target f (routes.map Route.line) =
      scanned (providerOf routes (p, target))
        (if f = [] then providerOf routes (['*'], target) else some f) := by
  induction routes generalizing f with
  | nil =>
    rw [map_nil, scanRoutes]
    cases f <;> rfl
  | cons route routes ih =>
    have hr := h route mem_cons_self
    have ih := ih fun other hm => h other (mem_cons_of_mem _ hm)
    rw [map_cons, scanRoutes, hr.parse, providerOf_cons, providerOf_cons]
    by_cases ht : route.target = target
    · have hkey (name : Text) : route.key = (name, target) ↔ route.package = name := by
        rw [Route.key, ht, Prod.mk.injEq, and_iff_left rfl]
      simp only [hkey, ht, ne_eq, not_true_eq_false, if_false, hpa, not_false_eq_true,
        true_and]
      by_cases hp : route.package = p
      · rw [if_pos hp, if_pos hp]
        rfl
      · rw [if_neg hp, if_neg hp]
        by_cases hg : route.package = ['*']
        · by_cases hf : f = []
          · rw [if_pos ⟨hg, hf⟩, ih, if_neg hr.provider_ne_nil, if_pos hf,
              if_pos hg]
          · rw [if_neg fun hand => hf hand.2, ih, if_neg hf, if_neg hf]
        · rw [if_neg fun hand => hg hand.1, ih, if_neg hg]
    · have hkey (name : Text) : route.key ≠ (name, target) := fun e => ht (Prod.mk.inj e).2
      simp only [hkey, ht, ne_eq, not_false_eq_true, if_true, if_false]
      exact ih f

/-! ## Package arguments -/

/-- An Android package name: at least one dot, and every segment starts with a letter. -/
def isAndroidPackage (package : Text) : Bool :=
  package.contains '.' && (splitAll '.' package).all fun segment => segment.head?.any isLetter

def PackageArgument (package : Text) : Prop := package = ['*'] ∨ isAndroidPackage package = true

instance (package : Text) : Decidable (PackageArgument package) :=
  inferInstanceAs (Decidable (_ ∨ _))

theorem isLetter_iff (c : Char) : isLetter c = true ↔
    (65 ≤ c.toNat ∧ c.toNat ≤ 90) ∨ (97 ≤ c.toNat ∧ c.toNat ≤ 122) := by
  rw [isLetter, Bool.or_eq_true, Bool.and_eq_true, Bool.and_eq_true, decide_eq_true_iff,
    decide_eq_true_iff, decide_eq_true_iff, decide_eq_true_iff]
  exact Iff.rfl

theorem number_of_isLetter {c : Char} (hc : isLetter c = true) (s : Text) :
    Awk.number (c :: s) = none := by
  have hr := (isLetter_iff c).mp hc
  have hne (d : Char) (hd : isLetter d = false) : c ≠ d := by
    rintro rfl
    rw [hc] at hd
    cases hd
  refine Awk.number_of_head s ?_ (hne _ (by decide)) (hne _ (by decide)) (hne _ (by decide)) ?_
  · rw [Awk.isBlank, Bool.or_eq_false_iff, beq_eq_false_iff_ne, beq_eq_false_iff_ne]
    exact ⟨hne _ (by decide), hne _ (by decide)⟩
  · by_contra hdi
    have hdi : 48 ≤ c.toNat ∧ c.toNat ≤ 57 := by
      rwa [Bool.not_eq_false, Char.isDigit_iff_toNat] at hdi
    omega

theorem head_of_splitAll {sep c : Char} {s f : Text} {rest : List Text}
    (hs : splitAll sep s = f :: rest) (hf : f.head? = some c) : s.head? = some c := by
  cases s with
  | nil =>
    obtain ⟨rfl, -⟩ := List.cons.inj hs
    exact hf
  | cons d s =>
    rw [splitAll] at hs
    split_ifs at hs
    · obtain ⟨rfl, -⟩ := List.cons.inj hs
      cases hf
    · obtain ⟨part, parts, hp⟩ := exists_cons_of_ne_nil (splitAll_ne_nil sep s)
      rw [hp] at hs
      obtain ⟨rfl, -⟩ := List.cons.inj hs
      exact hf

theorem PackageArgument.number {p : Text} (h : PackageArgument p) :
    Awk.number p = none := by
  rcases h with rfl | h
  · decide
  · rw [isAndroidPackage, Bool.and_eq_true, all_eq_true] at h
    obtain ⟨first, rest, hs⟩ := exists_cons_of_ne_nil (splitAll_ne_nil '.' p)
    have hf := h.2 first (hs ▸ mem_cons_self)
    rw [Option.any_eq_true] at hf
    obtain ⟨c, hc, hl⟩ := hf
    have hh := head_of_splitAll hs hc
    obtain ⟨tail, rfl⟩ : ∃ tail, p = c :: tail := by
      cases p with
      | nil => cases hh
      | cons d tail => exact ⟨tail, by rw [Option.some.inj hh]⟩
    exact number_of_isLetter hl tail

theorem PackageArgument.ne_nil {p : Text} (h : PackageArgument p) : p ≠ [] := by
  rintro rfl
  revert h
  decide

/-! ## Commands and their meaning -/

inductive RouteCommand
  | set (package target provider : Text)
  | save (package provider0 provider1 : Text)
  | remove (package target : Text)

/-- What is stored for a package and a target. -/
abbrev Store := Text × Text → Option Text

namespace RouteCommand

def package : RouteCommand → Text
  | set package _ _ => package
  | save package _ _ => package
  | remove package _ => package

def script (env : Env) : RouteCommand → Script Reply
  | set package target provider => setRoute env package target provider
  | save package provider0 provider1 => saveRoutes env package provider0 provider1
  | remove package target => removeRoute env package target

def names : RouteCommand → List (Text × Text)
  | set package target _ => [(package, target)]
  | save package _ _ => [(package, ['0']), (package, ['1'])]
  | remove package target => [(package, target)]

def stores : RouteCommand → Text × Text → Option Text
  | set _ _ provider, _ => some provider
  | save _ provider0 provider1, key =>
    let provider := if key.2 = ['0'] then provider0 else provider1
    if provider = [] then none else some provider
  | remove _ _, _ => none

def apply (command : RouteCommand) (store : Store) : Store := fun key =>
  if key ∈ command.names then command.stores key else store key

end RouteCommand

/-- The map after a history that starts with an empty table: for each key the provider stored last
and not removed since. -/
def lastStored (history : List RouteCommand) : Store :=
  history.foldl (fun store command => command.apply store) fun _ => none

/-- The tree after commands that all succeed, each a process of its own. -/
inductive Ran (t : Tree) : List RouteCommand → Tree → Prop
  | nil : Ran t [] t
  | snoc (env : Env) {t' : Tree} {history : List RouteCommand} {command : RouteCommand} :
    Ran t history t' → Succeeded (command.script env) t' →
      Ran t (history ++ [command]) ((command.script env).run noFailure t').tree

structure Represents (t : Tree) (store : Store) (routes : List Route) : Prop where
  content : (t.content routesFile).getD [] = tableText routes
  sound : ∀ route ∈ routes, route.Sound
  package : ∀ route ∈ routes, PackageArgument route.package
  target : ∀ route ∈ routes, route.target = ['0'] ∨ route.target = ['1']
  keys : (routes.map Route.key).Nodup
  store : ∀ key, store key = providerOf routes key

/-! ## The filters -/

variable {arith : Awk.Arithmetic}

theorem same_target {a b : Text} (ha : a = ['0'] ∨ a = ['1']) (hb : b = ['0'] ∨ b = ['1']) :
    Awk.same arith a b = true ↔ a = b := by
  have hz : Awk.number ['0'] = some 0 := by decide +kernel
  have hone : Awk.number ['1'] = some 1 := by decide +kernel
  have hr : arith.round 0 ≠ arith.round 1 := by
    have h₀ := arith.exact 0 (by norm_num)
    have h₁ := arith.exact 1 (by norm_num)
    rw [Nat.cast_zero] at h₀
    rw [Nat.cast_one] at h₁
    rw [h₀, h₁]
    norm_num
  rcases ha with rfl | rfl <;> rcases hb with rfl | rfl
  · exact iff_of_true (Awk.same_self arith _) rfl
  · refine iff_of_false ?_ (by decide)
    rw [Awk.same, hz, hone]
    simpa using hr
  · refine iff_of_false ?_ (by decide)
    rw [Awk.same, hz, hone]
    simpa using hr.symm
  · exact iff_of_true (Awk.same_self arith _) rfl

section Filters

variable {t : Tree} {store : Store} (h : Represents t store routes)

include h

theorem Represents.keepsRoute_line {p target : Text} (hp : PackageArgument p)
    (ht : target = ['0'] ∨ target = ['1']) {r : Route} (hr : r ∈ routes) :
    keepsRoute arith p target r.line = !decide (r.key ∈ [(p, target)]) := by
  have hs : (Awk.same arith r.package p && Awk.same arith r.target target) =
      decide (r.key ∈ [(p, target)]) := by
    rw [Bool.eq_iff_iff, Bool.and_eq_true, Awk.same_iff_of_none (.inr hp.number),
      same_target (h.target r hr) ht, decide_eq_true_iff, mem_singleton, Route.key,
      Prod.mk.injEq]
  rw [keepsRoute, (h.sound r hr).fields]
  dsimp only
  rw [hs]

theorem Represents.keepsPackage_line {p : Text} (hp : PackageArgument p)
    {r : Route} (hr : r ∈ routes) :
    keepsPackage arith p r.line =
      !decide (r.key ∈ [(p, ['0']), (p, ['1'])]) := by
  have hs : Awk.same arith r.package p =
      decide (r.key ∈ [(p, ['0']), (p, ['1'])]) := by
    rw [Bool.eq_iff_iff, Awk.same_iff_of_none (.inr hp.number), decide_eq_true_iff, Route.key]
    rcases h.target r hr with ht | ht <;> simp [ht]
  rw [keepsPackage, (h.sound r hr).fields]
  dsimp only
  rw [hs]

/-- The routes that are left when the named ones are taken out and new ones are put in. -/
theorem Represents.replace {t' : Tree} (c : RouteCommand) (a : List Route)
    (hc : t'.content routesFile = some (tableText
      (routes.filter fun route => !decide (route.key ∈ c.names)) ++ tableText a))
    (hso : ∀ route ∈ a, route.Sound)
    (hp : ∀ route ∈ a, PackageArgument route.package)
    (ht : ∀ route ∈ a, route.target = ['0'] ∨ route.target = ['1'])
    (hke : (a.map Route.key).Nodup) (hn : ∀ route ∈ a, route.key ∈ c.names)
    (hs : ∀ key ∈ c.names, providerOf a key = c.stores key) :
    Represents t' (c.apply store)
      (routes.filter (fun route => !decide (route.key ∈ c.names)) ++ a) where
  content := by
    rw [hc, Option.getD_some, tableText, tableText, tableText, map_append,
      flatMap_append]
  sound := forall_mem_append.mpr ⟨fun r hr => h.sound r (mem_of_mem_filter hr), hso⟩
  package :=
    forall_mem_append.mpr ⟨fun r hr => h.package r (mem_of_mem_filter hr), hp⟩
  target :=
    forall_mem_append.mpr ⟨fun r hr => h.target r (mem_of_mem_filter hr), ht⟩
  keys := by
    rw [map_append, nodup_append]
    refine ⟨h.keys.sublist (filter_sublist.map _), hke, ?_⟩
    rintro key hk _ hnew rfl
    obtain ⟨route, hro, rfl⟩ := mem_map.mp hk
    obtain ⟨other, ho, hsa⟩ := mem_map.mp hnew
    have hout := (mem_filter.mp hro).2
    rw [Bool.not_eq_true', decide_eq_false_iff_not, ← hsa] at hout
    exact hout (hn other ho)
  store := by
    intro key
    have hk := providerOf_filter (fun key => !decide (key ∈ c.names)) routes key
    rw [providerOf_append, hk, RouteCommand.apply]
    by_cases hkey : key ∈ c.names
    · rw [if_pos hkey, ← hs key hkey]
      simp [hkey]
    · have hno : providerOf a key = none := by
        rw [providerOf, Option.map_eq_none_iff, find?_eq_none]
        intro route hro heq
        exact hkey (of_decide_eq_true heq ▸ hn route hro)
      rw [if_neg hkey, hno, h.store key]
      simp [hkey]

end Filters

/-! ## A command and its meaning -/

theorem plainField_of_validName {l : ℕ} {name : Text} (h : validName l name = true) :
    Route.PlainField name :=
  ⟨notMem_of_validName h (by decide), notMem_of_validName h (by decide),
    notMem_of_validName h (by decide)⟩

variable {package : Text} {env : Env} {t : Tree}

theorem validRoutePackage_of_allowed
    (h : routePackageAllowed env t package = true) : validRoutePackage package = true := by
  rw [routePackageAllowed, Bool.and_eq_true] at h
  exact h.1

theorem plainField_of_package (h : validRoutePackage package = true) :
    Route.PlainField package := by
  rw [validRoutePackage, Bool.or_eq_true, beq_iff_eq] at h
  rcases h with rfl | h
  · exact ⟨by decide, by decide, by decide⟩
  · exact plainField_of_validName h

theorem plainField_target {target : Text} (h : target = ['0'] ∨ target = ['1']) :
    Route.PlainField target := by
  rcases h with rfl | rfl <;> exact ⟨by decide, by decide, by decide⟩

theorem validId_of_providerExists {p : Text}
    (h : providerExists t p = true) : validId p = true := by
  rw [providerExists] at h
  split_ifs at h with h₀ h₁
  · rw [h₀]
    decide
  · rw [h₁]
    decide
  · rw [Bool.and_eq_true, Bool.and_eq_true] at h
    exact h.1.1

theorem sound_route {target provider : Text} (hpa : routePackageAllowed env t package = true)
    (ht : target = ['0'] ∨ target = ['1']) (hp : providerExists t provider = true) :
    Route.Sound ⟨package, target, provider⟩ where
  package := plainField_of_package (validRoutePackage_of_allowed hpa)
  target := plainField_target ht
  provider := plainField_of_validName (validId_of_providerExists hp)
  provider_ne_nil := (validName_iff.mp (validId_of_providerExists hp)).1

theorem tableText_singleton (p target provider : Text) :
    tableText [⟨p, target, provider⟩] = routeLine p target provider := by
  rw [tableText, map_singleton, flatMap_singleton, Route.line, routeLine]

def savedRoutes (package provider0 provider1 : Text) : List Route :=
  (if provider0 = [] then [] else [⟨package, ['0'], provider0⟩]) ++
    if provider1 = [] then [] else [⟨package, ['1'], provider1⟩]

theorem tableText_savedRoutes (package p0 p1 : Text) :
    tableText (savedRoutes package p0 p1) =
      (savedLines package p0 p1).flatten := by
  unfold savedRoutes savedLines tableText Route.line routeLine
  split_ifs <;> simp

theorem mem_savedRoutes {p0 p1 : Text} {r : Route}
    (h : r ∈ savedRoutes package p0 p1) :
    r.package = package ∧ (r.target = ['0'] ∧ r.provider = p0 ∨
      r.target = ['1'] ∧ r.provider = p1) ∧ r.provider ≠ [] := by
  rw [savedRoutes, mem_append] at h
  rcases h with h | h <;> split_ifs at h with he
  · cases h
  · obtain rfl := mem_singleton.mp h
    exact ⟨rfl, .inl ⟨rfl, rfl⟩, he⟩
  · cases h
  · obtain rfl := mem_singleton.mp h
    exact ⟨rfl, .inr ⟨rfl, rfl⟩, he⟩

/-- **A command that succeeds does on the table what it means on the map.** -/
theorem represents_step {s : Store} (h : Represents t s routes) {c : RouteCommand}
    (hpa : PackageArgument c.package) (hs : Succeeded (c.script env) t) :
    ∃ routes', Represents ((c.script env).run noFailure t).tree (c.apply s)
      routes' := by
  cases c with
  | set package target provider =>
    have hpa : PackageArgument package := hpa
    obtain ⟨ha, ht, hpro, hc⟩ := setRoute_succeeded hs
    rw [h.content, select_tableText h.sound fun _ => h.keepsRoute_line hpa ht,
      ← tableText_singleton] at hc
    refine ⟨_, h.replace (.set package target provider) _ hc ?_ ?_ ?_ ?_ ?_ ?_⟩
    · exact forall_mem_singleton.mpr (sound_route ha ht hpro)
    · exact forall_mem_singleton.mpr hpa
    · exact forall_mem_singleton.mpr ht
    · exact nodup_singleton _
    · exact forall_mem_singleton.mpr mem_cons_self
    · rintro key hkey
      obtain rfl := mem_singleton.mp hkey
      rw [providerOf_cons]
      exact if_pos rfl
  | save package provider0 provider1 =>
    have hpa : PackageArgument package := hpa
    obtain ⟨ha, hpr, hc⟩ := saveRoutes_succeeded hs
    rw [h.content, select_tableText h.sound fun _ => h.keepsPackage_line hpa,
      ← tableText_savedRoutes] at hc
    have ht : ∀ route ∈ savedRoutes package provider0 provider1,
        route.target = ['0'] ∨ route.target = ['1'] := fun route hr =>
      (mem_savedRoutes hr).2.1.imp And.left And.left
    refine ⟨_, h.replace (.save package provider0 provider1) _ hc ?_ ?_ ht ?_ ?_ ?_⟩
    · intro route hr
      obtain ⟨hn, hca, hne⟩ := mem_savedRoutes hr
      have he : providerExists t route.provider = true := by
        rcases hca with ⟨-, hp⟩ | ⟨-, hp⟩
        · exact (hpr route.provider (by rw [hp]; simp)).resolve_left hne
        · exact (hpr route.provider (by rw [hp]; simp)).resolve_left hne
      exact sound_route (hn ▸ ha) (ht route hr) he
    · exact fun route hr => (mem_savedRoutes hr).1 ▸ hpa
    · unfold savedRoutes
      split_ifs <;> simp [Route.key]
    · intro route hr
      obtain ⟨hn, hca, -⟩ := mem_savedRoutes hr
      rw [Route.key, hn]
      rcases hca with ⟨hz, -⟩ | ⟨hone, -⟩
      · exact hz ▸ mem_cons_self
      · exact hone ▸ mem_cons_of_mem _ mem_cons_self
    · intro key hkey
      have hca : key = (package, ['0']) ∨ key = (package, ['1']) := by
        simpa [RouteCommand.names] using hkey
      unfold savedRoutes
      rcases hca with rfl | rfl <;> split_ifs with h₀ h₁ h₁ <;>
        simp [RouteCommand.stores, providerOf, Route.key, h₀, h₁]
  | remove package target =>
    have hpa : PackageArgument package := hpa
    obtain ⟨ha, ht, hc⟩ := removeRoute_succeeded hs
    rw [h.content, select_tableText h.sound fun _ => h.keepsRoute_line hpa ht,
      ← append_nil (tableText _)] at hc
    refine ⟨_, h.replace (.remove package target) [] hc ?_ ?_ ?_ ?_ ?_ ?_⟩
    · exact forall_mem_nil _
    · exact forall_mem_nil _
    · exact forall_mem_nil _
    · exact nodup_nil
    · exact forall_mem_nil _
    · exact fun _ _ => rfl

theorem Ran.represents {t' : Tree} {history : List RouteCommand} (h : Ran t history t')
    (he : (t.content routesFile).getD [] = [])
    (hp : ∀ command ∈ history, PackageArgument command.package) :
    ∃ routes, Represents t' (lastStored history) routes := by
  induction h with
  | nil => exact ⟨[], he, nofun, nofun, nofun, nodup_nil, fun _ => rfl⟩
  | snoc env hran hs ih =>
    rw [forall_mem_append, forall_mem_singleton] at hp
    obtain ⟨routes, hr⟩ := ih hp.1
    rw [lastStored, foldl_append, ← lastStored]
    exact represents_step hr hp.2 hs

/-! ## The resolver -/

/-- The selection for a package and a slot, by the map. -/
def selectionFor (t : Tree) (store : Store) (package : Text) (cameraId : ℤ) : ProviderSelection :=
  match store (package, decimalInt cameraId), store (['*'], decimalInt cameraId) with
  | some provider, _ =>
    ⟨provider, true, providerAvailable t.files provider providerFrameDir, .package⟩
  | none, some provider =>
    ⟨provider, true, providerAvailable t.files provider providerFrameDir, .global⟩
  | none, none => ⟨defaultPhysicalProvider cameraId, false, true, .none⟩

def tableKeys (text : Text) : List (Text × Text) :=
  (getlines text).filterMap fun line =>
    (parseRouteLine (popCR line)).map fun route => (route.1, route.2.1)

section Resolver

variable {t : Tree} {store : Store} (h : Represents t store routes)

include h

theorem Represents.tableKeys_nodup : (tableKeys ((t.content routesFile).getD [])).Nodup := by
  have hk : tableKeys (tableText routes) = routes.map Route.key := by
    rw [tableKeys, getlines_tableText h.sound, filterMap_map]
    refine filterMap_eq_map_iff_forall_eq_some.mpr fun route hr => ?_
    rw [Function.comp_apply, (h.sound route hr).parse]
    rfl
  rw [h.content, hk]
  exact h.keys

theorem Represents.resolve {p : Text} (hp : p ≠ []) (cameraId : ℤ)
    (hd : t.files.good routingDisabledFile = false) :
    resolveProviderForPackage t.files p cameraId routesFile providerFrameDir =
      selectionFor t store p cameraId := by
  have hs := @scanRoutes_tableText routes h.sound p (decimalInt cameraId) hp []
  have hc := h.content
  rw [if_pos rfl, ← h.store, ← h.store] at hs
  rw [resolveProviderForPackage, ← routingDisabledFile, hd, Tree.openText_files,
    if_neg Bool.false_ne_true, selectionFor]
  cases ht : t.content routesFile with
  | none =>
    have hr : routes = [] := by
      rw [ht] at hc
      cases routes with
      | nil => rfl
      | cons route routes => simp [tableText] at hc
    rw [h.store, h.store, hr]
    rfl
  | some text =>
    rw [ht, Option.getD_some] at hc
    dsimp only
    rw [hc, getlines_tableText h.sound, hs]
    cases store (p, decimalInt cameraId) with
    | some provider => exact selectionForProvider_eq provider .package
    | none =>
      cases store (['*'], decimalInt cameraId) with
      | some provider => exact selectionForProvider_eq provider .global
      | none => rfl

end Resolver

/-- The answer of the resolver without the state of the provider. -/
def answer (selection : ProviderSelection) : Text × Bool × RouteMatchKind :=
  (selection.providerId, selection.configured, selection.matched)

/-- **The route store is a map.** After commands that succeed one after the other the table has one
line for each key; the resolver answers with the provider stored last for the package, else for `*`,
else with the physical camera; and a further command leaves the answers for other keys alone. -/
theorem resolves_last_stored (t t' : Tree) (history : List RouteCommand)
    (hempty : (t.content routesFile).getD [] = [])
    (hpackages : ∀ command ∈ history, PackageArgument command.package)
    (hran : Ran t history t') (hdisabled : t'.files.good routingDisabledFile = false) :
    (tableKeys ((t'.content routesFile).getD [])).Nodup ∧
    (∀ (package : Text) (cameraId : ℤ), PackageArgument package →
      resolveProviderForPackage t'.files package cameraId routesFile
        providerFrameDir = selectionFor t' (lastStored history) package cameraId) ∧
    ∀ (env : Env) (command : RouteCommand) (t'' : Tree), PackageArgument command.package →
      Succeeded (command.script env) t' → t'' = ((command.script env).run noFailure t').tree →
      t''.files.good routingDisabledFile = false →
      ∀ (package : Text) (cameraId : ℤ), PackageArgument package →
        (package, decimalInt cameraId) ∉ command.names →
        (['*'], decimalInt cameraId) ∉ command.names →
        answer (resolveProviderForPackage t''.files package cameraId routesFile
          providerFrameDir) =
        answer (resolveProviderForPackage t'.files package cameraId routesFile
          providerFrameDir) := by
  obtain ⟨routes, hr⟩ := hran.represents hempty hpackages
  refine ⟨hr.tableKeys_nodup,
    fun package cameraId hp => hr.resolve hp.ne_nil cameraId hdisabled, ?_⟩
  rintro env command t'' hc hs rfl hd' package cameraId hp hkey hg
  obtain ⟨routes', hr'⟩ := represents_step hr hc hs
  rw [hr'.resolve hp.ne_nil cameraId hd',
    hr.resolve hp.ne_nil cameraId hdisabled, selectionFor, selectionFor,
    RouteCommand.apply, if_neg hkey, RouteCommand.apply, if_neg hg]
  cases lastStored history (package, decimalInt cameraId) with
  | some provider => rfl
  | none => cases lastStored history (['*'], decimalInt cameraId) <;> rfl

def twoRoutes : List RouteCommand :=
  [.set ['*'] ['0'] "physical-1", .save "com.example.camera" "physical-0" []]

def routedTree : Tree :=
  (saveRoutes plainEnv "com.example.camera" "physical-0" []).run noFailure
    ((setRoute plainEnv ['*'] ['0'] "physical-1").run noFailure .empty).tree |>.tree

theorem ran_twoRoutes : Ran .empty twoRoutes routedTree := by
  have hset : Succeeded ((RouteCommand.set ['*'] ['0'] "physical-1").script plainEnv)
      .empty := by decide +kernel
  have hs : Succeeded ((RouteCommand.save "com.example.camera" "physical-0"
      []).script plainEnv)
      ((setRoute plainEnv ['*'] ['0'] "physical-1").run noFailure .empty).tree := by
    decide +kernel
  exact (Ran.nil.snoc plainEnv hset).snoc plainEnv hs

/-- The package has its own camera, every other one that of `*`. -/
theorem resolved_twoRoutes :
    Ran .empty twoRoutes routedTree ∧
    (tableKeys ((routedTree.content routesFile).getD [])).Nodup ∧
    (resolveProviderForPackage routedTree.files "com.example.camera" 0
      routesFile providerFrameDir).providerId = "physical-0" ∧
    (resolveProviderForPackage routedTree.files "org.other" 0
      routesFile providerFrameDir).providerId = "physical-1" := by
  obtain ⟨hk, hr, -⟩ := resolves_last_stored .empty routedTree twoRoutes (by decide +kernel)
    (by decide +kernel) ran_twoRoutes (by decide +kernel)
  refine ⟨ran_twoRoutes, hk, ?_, ?_⟩
  · rw [hr _ _ (by decide)]
    decide
  · rw [hr _ _ (by decide)]
    decide

theorem lastStored_of_perm {h₁ h₂ : List RouteCommand} (h : h₁.Perm h₂)
    (hd : ∀ a ∈ h₁, ∀ b ∈ h₁, a ≠ b → a.names.Disjoint b.names) : lastStored h₁ = lastStored h₂ := by
  refine h.foldl_eq' (fun a ha b hb s => funext fun key => ?_) _
  rcases eq_or_ne a b with rfl | hne
  · rfl
  · by_cases hk : key ∈ a.names
    · have hn : key ∉ b.names := hd a ha b hb hne hk
      simp [RouteCommand.apply, hk, hn]
    · simp [RouteCommand.apply, hk]

/-- **Commands for different keys may come in any order**: after either history the resolver gives
the same answers. -/
theorem answers_of_perm {t t₁ t₂ : Tree} {h₁ h₂ : List RouteCommand} (hperm : h₁.Perm h₂)
    (hkeys : ∀ a ∈ h₁, ∀ b ∈ h₁, a ≠ b → a.names.Disjoint b.names)
    (hempty : (t.content routesFile).getD [] = [])
    (hpackages : ∀ command ∈ h₁, PackageArgument command.package)
    (hran₁ : Ran t h₁ t₁) (hran₂ : Ran t h₂ t₂)
    (hon₁ : t₁.files.good routingDisabledFile = false)
    (hon₂ : t₂.files.good routingDisabledFile = false)
    {package : Text} (hp : package ≠ []) (cameraId : ℤ) :
    answer (resolveProviderForPackage t₁.files package cameraId routesFile
      providerFrameDir) =
    answer (resolveProviderForPackage t₂.files package cameraId routesFile
      providerFrameDir) := by
  obtain ⟨_, hr₁⟩ := hran₁.represents hempty hpackages
  obtain ⟨_, hr₂⟩ := hran₂.represents hempty fun c hc => hpackages c (hperm.mem_iff.mpr hc)
  rw [hr₁.resolve hp cameraId hon₁, hr₂.resolve hp cameraId hon₂, lastStored_of_perm hperm hkeys,
    selectionFor, selectionFor]
  split <;> rfl

/-- Two routes in another order. -/
theorem answers_of_perm_twoRoutes : ∃ t₂, Ran .empty twoRoutes.reverse t₂ ∧
    answer (resolveProviderForPackage routedTree.files "org.other" 0 routesFile
      providerFrameDir) =
    answer (resolveProviderForPackage t₂.files "org.other" 0 routesFile
      providerFrameDir) := by
  have hs : Succeeded (RouteCommand.script plainEnv (.save "com.example.camera"
      "physical-0" [])) .empty := by decide +kernel
  have hran := (Ran.nil.snoc plainEnv hs).snoc plainEnv
    (show Succeeded (RouteCommand.script plainEnv (.set ['*'] ['0'] "physical-1")) _ by
      decide +kernel)
  exact ⟨_, hran, answers_of_perm twoRoutes.reverse_perm.symm
    (by simp [twoRoutes, RouteCommand.names]) (by decide +kernel) (by decide +kernel)
    ran_twoRoutes hran (by decide +kernel) (by decide +kernel) (by decide) 0⟩

end Controller

end Vcam
