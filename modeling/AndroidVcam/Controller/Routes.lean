import AndroidVcam.Controller.Checks

/-!
# Changing the route table

`set_route`, `save_routes` and `remove_route` of `apmodule/vcamctl` rewrite `routes.tsv` through a
temporary file: an `awk` filter, the new lines behind it, a rename.

* `updateRoutes`: the rewriting; **`run_updateRoutes`**: the table it leaves, with failing steps.
-/

namespace Vcam

open TextFile FileTree Shell List Script

namespace Controller

/-! ## The commands -/

/-- `printf '%s\t%s\t%s\n'`. -/
def routeLine (package target provider : Text) : Text :=
  package ++ '\t' :: target ++ '\t' :: provider ++ ['\n']

/-- `NF == 3 && !( $1 == package && $2 == target )`. -/
def keepsRoute (arith : Awk.Arithmetic) (package target record : Text) : Bool :=
  match Awk.fields '\t' record with
  | [first, second, _] => !(Awk.same arith first package && Awk.same arith second target)
  | _ => false

/-- `NF == 3 && $1 != package_name`. -/
def keepsPackage (arith : Awk.Arithmetic) (package record : Text) : Bool :=
  match Awk.fields '\t' record with
  | [first, _, _] => !Awk.same arith first package
  | _ => false

/-- The temporary file of all commands but `save_routes`. -/
def temporaryRoutes : Text := routesFile ++ ".new"

def appendLines (path : Text) : List Text → Script Unit
  | [] => return ()
  | line :: lines => do
    exec_ (.append path line)
    appendLines path lines

/-- The rewriting of `set_route` and `remove_route`; no exit status is asked for. -/
def updateRoutes (select : Text → Text) (lines : List Text) : Script Unit := do
  exec_ (.filter select routesFile temporaryRoutes)
  appendLines temporaryRoutes lines
  exec_ (.rename temporaryRoutes routesFile)

def setRoute (env : Env) (package target provider : Text) : Script Reply := do
  let files ← Script.files
  if !routePackageAllowed env files package then
    return refuse 2 "route scope does not allow package"
  else if target ≠ ['0'] ∧ target ≠ ['1'] then
    return refuse 2 "invalid target camera"
  else if !providerExists files provider then
    return refuse 3 "provider not found"
  else if !(← prepareDirs) then
    return refuse 4 ""
  else
    updateRoutes (Awk.select (keepsRoute env.arith package target))
      [routeLine package target provider]
    return say "routed"

/-- The temporary file of `save_routes`. -/
def temporaryRoutesOf (pid : ℕ) : Text := temporaryRoutes ++ '-' :: decimal pid

/-- The lines of `save_routes`: none for an empty provider. -/
def savedLines (package provider0 provider1 : Text) : List Text :=
  (if provider0 = [] then [] else [routeLine package ['0'] provider0]) ++
    if provider1 = [] then [] else [routeLine package ['1'] provider1]

/-- The rewriting of `save_routes`, which stops at a failed filter or rename. -/
def saveUpdate (env : Env) (package provider0 provider1 : Text) : Script Reply := do
  if !(← Script.status (.filter (Awk.select (keepsPackage env.arith package)) routesFile
      (temporaryRoutesOf env.pid))) then
    return refuse 4 ""
  else
    appendLines (temporaryRoutesOf env.pid) (savedLines package provider0 provider1)
    if !(← Script.status (.rename (temporaryRoutesOf env.pid) routesFile)) then
      return refuse 4 ""
    else return say "saved"

def saveRoutes (env : Env) (package provider0 provider1 : Text) : Script Reply := do
  let files ← Script.files
  if !routePackageAllowed env files package then
    return refuse 2 "route scope does not allow package"
  else if !([provider0, provider1].all fun p => p.isEmpty || providerExists files p) then
    return refuse 3 "provider not found"
  else if !(← prepareDirs) then
    return refuse 4 ""
  else
    saveUpdate env package provider0 provider1

def removeRoute (env : Env) (package target : Text) : Script Reply := do
  let files ← Script.files
  if !routePackageAllowed env files package then
    return refuse 2 ""
  else if target ≠ ['0'] ∧ target ≠ ['1'] then
    return refuse 2 ""
  else if !(← prepareDirs) then
    return refuse 3 ""
  else
    updateRoutes (Awk.select (keepsRoute env.arith package target)) []
    return say "unrouted"

/-! ## The rewriting -/

variable {o : Op → Outcome} {t : Tree} {path text : Text}

theorem run_appendLines (l : List Text) (hp : Writable t path)
    (ht : t.content path = some text) :
    Wrote t ((appendLines path l).run o t).tree path
      (text ++ l.flatMap fun line => (o (.append path line)).written line) := by
  induction l generalizing t text with
  | nil =>
    obtain ⟨place, hr, hn⟩ :=
      Option.bind_eq_some_iff.mp (content_eq_some_iff.mp ht)
    obtain rfl := Tree.resolve_eq_some hr
    rw [flatMap_nil, append_nil]
    exact ⟨.refl t, hr, hn, fun _ _ => rfl⟩
  | cons line l ih =>
    obtain ⟨t', he, hw⟩ := exec_append hp line (o (.append path line))
    rw [ht] at hw
    have hre := ih (hp.congr hw.directories) hw.content_self
    rw [appendLines, tree_bind, run_exec_, he, flatMap_cons,
      ← append_assoc]
    exact hw.trans hre

/-- The table can be rewritten through the temporary file. -/
structure TableReady (t : Tree) (temporary text : Text) : Prop where
  temporary : Writable t temporary
  table : Writable t routesFile
  content : t.content routesFile = some text

/-- The text in the temporary file after the filter and the appended lines. -/
def drafted (oracle : Op → Outcome) (temporary : Text) (select : Text → Text) (lines : List Text)
    (text : Text) : Text :=
  (oracle (.filter select routesFile temporary)).written (select text) ++
    lines.flatMap fun line => (oracle (.append temporary line)).written line

/-- Filter and appends leave the draft, and the table as it was. -/
theorem draft_ready {temporary : Text} {s : Text → Text} (l : List Text)
    (hne : location routesFile ≠ location temporary) (h : TableReady t temporary text) :
    ∃ t', exec t (.filter s routesFile temporary)
        (o (.filter s routesFile temporary)) =
          (t', (o (.filter s routesFile temporary)).good) ∧
      t'.content routesFile = some text ∧
      TableReady ((appendLines temporary l).run o t').tree temporary text ∧
      ((appendLines temporary l).run o t').tree.content temporary =
        some (drafted o temporary s l text) := by
  obtain ⟨t', he, hf⟩ := exec_filter h.temporary hne h.content s
    (o (.filter s routesFile temporary))
  have hl := @run_appendLines o _ _ _ l (h.temporary.congr hf.directories)
    hf.content_self
  have hd := hf.directories.trans hl.directories
  have ht : t'.content routesFile = some text := (hf.content_other hne).trans h.content
  exact ⟨t', he, ht, ⟨h.temporary.congr hd, h.table.congr hd,
    (hl.content_other hne).trans ht⟩, hl.content_self⟩

theorem rename_draft {temporary d : Text} (hne : location routesFile ≠ location temporary)
    (h : TableReady t temporary text) (hd : t.content temporary = some d)
    (o : Outcome) :
    (exec t (.rename temporary routesFile) o).2 = o.good ∧
    TableReady (exec t (.rename temporary routesFile) o).1 temporary
      (if o.good then d else text) := by
  cases o with
  | ok =>
    obtain ⟨t', he, hr⟩ := exec_rename h.table hne.symm hd
    rw [he]
    exact ⟨rfl, h.temporary.congr hr.directories, h.table.congr hr.directories,
      hr.content_self⟩
  | fails n =>
    have he : exec t (.rename temporary routesFile) (.fails n) = (t, false) := by
      rw [exec]
      exact if_neg Bool.false_ne_true
    rw [he]
    exact ⟨rfl, h⟩

theorem routesFile_ne_temporary : location routesFile ≠ location temporaryRoutes := by
  decide +kernel

/-- **The table that `set_route` and `remove_route` leave**, whatever fails. -/
theorem run_updateRoutes (s : Text → Text) (l : List Text)
    (h : TableReady t temporaryRoutes text) :
    TableReady ((updateRoutes s l).run o t).tree temporaryRoutes
      (if (o (.rename temporaryRoutes routesFile)).good then
        drafted o temporaryRoutes s l text else text) := by
  obtain ⟨t', he, -, hr, hd⟩ :=
    @draft_ready o _ _ _ s l routesFile_ne_temporary h
  rw [updateRoutes, tree_bind, run_exec_, he, tree_bind, run_exec_]
  exact (rename_draft routesFile_ne_temporary hr hd _).2

theorem tableReady_of_ok {temporary : Text} {s : Text → Text} {l : List Text}
    (hne : location routesFile ≠ location temporary)
    (hf : (exec t (.filter s routesFile temporary) .ok).2 = true)
    (hr : (exec ((appendLines temporary l).run o
      (exec t (.filter s routesFile temporary) .ok).1).tree
        (.rename temporary routesFile) .ok).2 = true) : ∃ text, TableReady t temporary text := by
  obtain ⟨ht, -, text, hte⟩ := of_exec_filter hne hf
  obtain ⟨t', he, hw⟩ := exec_filter ht hne hte s .ok
  have hl := @run_appendLines o _ _ _ l (ht.congr hw.directories)
    hw.content_self
  rw [he] at hr
  exact ⟨text, ht,
    (of_exec_rename hr).1.congr (hw.directories.trans hl.directories).symm, hte⟩

theorem drafted_noFailure (temporary : Text) (s : Text → Text) (l : List Text) :
    drafted noFailure temporary s l text = s text ++ l.flatten := by
  rw [drafted]
  congr 1
  exact flatMap_id

theorem updateRoutes_noFailure (s : Text → Text) (l : List Text)
    (h : TableReady t temporaryRoutes text) :
    TableReady ((updateRoutes s l).run noFailure t).tree temporaryRoutes
      (s text ++ l.flatten) := by
  have hrun := @run_updateRoutes noFailure _ _ s l h
  rwa [drafted_noFailure] at hrun

theorem tableReady_of_allOk {s : Text → Text} {l : List Text}
    (h : Script.AllOk ((updateRoutes s l).run noFailure t).events) :
    ∃ text, TableReady t temporaryRoutes text := by
  rw [updateRoutes, events_bind, run_exec_, allOk_append, allOk_cons,
    events_bind, allOk_append, run_exec_, allOk_cons] at h
  obtain ⟨⟨hf, -⟩, -, hr, -⟩ := h
  exact tableReady_of_ok routesFile_ne_temporary hf hr

/-! ## The commands behind their checks -/

section Commands

variable {env : Env} {package target p p0 p1 : Text}

theorem run_setRoute (hpa : routePackageAllowed env t package = true)
    (ht : target = ['0'] ∨ target = ['1']) (hp : providerExists t p = true)
    (hpr : (prepareDirs.run o t).value = true) :
    ((setRoute env package target p).run o t).value = say "routed" ∧
      ((setRoute env package target p).run o t).tree =
        ((updateRoutes (Awk.select (keepsRoute env.arith package target))
          [routeLine package target p]).run o (prepareDirs.run o t).tree).tree := by
  have ht' : ¬(target ≠ ['0'] ∧ target ≠ ['1']) := fun h => ht.elim h.1 h.2
  simp only [setRoute, value_bind, tree_bind, run_files, hpa, ht',
    hp, hpr, Bool.not_true, Bool.false_eq_true, if_false, run_pure, and_self]

theorem run_removeRoute (hpa : routePackageAllowed env t package = true)
    (ht : target = ['0'] ∨ target = ['1'])
    (hp : (prepareDirs.run o t).value = true) :
    ((removeRoute env package target).run o t).value = say "unrouted" ∧
      ((removeRoute env package target).run o t).tree =
        ((updateRoutes (Awk.select (keepsRoute env.arith package target)) []).run o
          (prepareDirs.run o t).tree).tree := by
  have ht' : ¬(target ≠ ['0'] ∧ target ≠ ['1']) := fun h => ht.elim h.1 h.2
  simp only [removeRoute, value_bind, tree_bind, run_files, hpa, ht',
    hp, Bool.not_true, Bool.false_eq_true, if_false, run_pure, and_self]

theorem run_saveRoutes (hpa : routePackageAllowed env t package = true)
    (hp : ([p0, p1].all fun p => p.isEmpty || providerExists t p) = true)
    (hpr : (prepareDirs.run o t).value = true) :
    ((saveRoutes env package p0 p1).run o t).value =
        ((saveUpdate env package p0 p1).run o
          (prepareDirs.run o t).tree).value ∧
      ((saveRoutes env package p0 p1).run o t).tree =
        ((saveUpdate env package p0 p1).run o
          (prepareDirs.run o t).tree).tree := by
  simp only [saveRoutes, value_bind, tree_bind, run_files, hpa, hp,
    hpr, Bool.not_true, Bool.false_eq_true, if_false, and_self]

theorem slash_notMem_decimal (n : ℕ) : '/' ∉ decimal n := fun h => by
  have hd := Nat.isDigit_of_mem_toDigits (by norm_num) (by norm_num) h
  revert hd
  decide

theorem proper_routesName (pid : ℕ) : Proper ("routes.tsv.new-" ++ decimal pid) :=
  Proper.append (by decide) (slash_notMem_decimal pid)

theorem routesFile_ne_temporaryOf (pid : ℕ) :
    location routesFile ≠ location (temporaryRoutesOf pid) := by
  have hr : routesFile = frameDir ++ '/' :: "routes.tsv" := by decide +kernel
  have ht : temporaryRoutesOf pid =
      frameDir ++ '/' :: ("routes.tsv.new-" ++ decimal pid) := by
    have hs : temporaryRoutes ++ ['-'] = frameDir ++ '/' :: "routes.tsv.new-" := by
      decide +kernel
    rw [temporaryRoutesOf, ← singleton_append, ← append_assoc, hs, append_assoc,
      cons_append]
  rw [hr, ht, location_child (by decide), location_child (proper_routesName pid)]
  intro h
  have hn : "routes.tsv" = "routes.tsv.new-" ++ decimal pid := (List.cons.inj h).1
  have hl := congrArg List.length hn
  rw [length_append] at hl
  have : "routes.tsv".toList.length < "routes.tsv.new-".toList.length := by decide
  omega

/-- **What `save_routes` leaves**: a failed filter or rename is reported and changes nothing, a failed
append is not. -/
theorem run_saveUpdate (h : TableReady t (temporaryRoutesOf env.pid) text) :
    let select := Awk.select (keepsPackage env.arith package)
    let filtered := (o (.filter select routesFile (temporaryRoutesOf env.pid))).good
    let renamed := (o (.rename (temporaryRoutesOf env.pid) routesFile)).good
    ((saveUpdate env package p0 p1).run o t).value =
        (if filtered && renamed then say "saved" else refuse 4 "") ∧
      ((saveUpdate env package p0 p1).run o t).tree.content routesFile =
        some (if filtered && renamed then
          drafted o (temporaryRoutesOf env.pid) select (savedLines package p0 p1)
            text
        else text) := by
  intro select filtered renamed
  have hne := routesFile_ne_temporaryOf env.pid
  obtain ⟨t', he, ht, hre, hd⟩ :=
    @draft_ready o _ _ _ select (savedLines package p0 p1) hne h
  obtain ⟨hs, hc⟩ := rename_draft hne hre hd
    (o (.rename (temporaryRoutesOf env.pid) routesFile))
  rw [saveUpdate, value_bind, tree_bind, run_status, he]
  cases hf : filtered with
  | false =>
    have hg : (o (.filter select routesFile (temporaryRoutesOf env.pid))).good = false :=
      hf
    simp only [hg, Bool.not_false, if_true, run_pure, Bool.false_and, Bool.false_eq_true,
      if_false, ht, and_self]
  | true =>
    have hg : (o (.filter select routesFile (temporaryRoutesOf env.pid))).good = true :=
      hf
    simp only [hg, Bool.not_true, Bool.false_eq_true, if_false, value_bind,
      tree_bind, run_status, hs, Bool.true_and]
    cases hr : renamed with
    | false =>
      have hg' : (o (.rename (temporaryRoutesOf env.pid) routesFile)).good = false :=
        hr
      rw [hg'] at hc ⊢
      exact ⟨rfl, hc.content⟩
    | true =>
      have hg' : (o (.rename (temporaryRoutesOf env.pid) routesFile)).good = true :=
        hr
      rw [hg'] at hc ⊢
      exact ⟨rfl, hc.content⟩

end Commands

/-! ## Successful commands -/

section Success

variable {env : Env} {package target p p0 p1 : Text}

theorem TableReady.prepared {temporary : Text}
    (h : ∃ text, TableReady (prepareDirs.run noFailure t).tree temporary text) :
    TableReady (prepareDirs.run noFailure t).tree temporary ((t.content routesFile).getD []) := by
  obtain ⟨text, hr⟩ := h
  have ht := @table_prepareDirs noFailure t
  rw [hr.content, Option.getD_some] at ht
  exact ht ▸ hr

theorem setRoute_passed (h : Succeeded (setRoute env package target p) t) :
    routePackageAllowed env t package = true ∧ (target = ['0'] ∨ target = ['1']) ∧
      providerExists t p = true ∧ (prepareDirs.run noFailure t).value = true ∧
      TableReady (prepareDirs.run noFailure t).tree temporaryRoutes
        ((t.content routesFile).getD []) := by
  rw [setRoute] at h
  obtain ⟨hpa, h⟩ := h.of_files.of_check
  obtain ⟨ht, h⟩ := h.of_check
  obtain ⟨hp, h⟩ := h.of_check
  obtain ⟨-, h⟩ := h.of_bind
  obtain ⟨hpr, h⟩ := h.of_check
  obtain ⟨hu, -⟩ := h.of_bind
  rw [Bool.not_eq_true, Bool.not_eq_false'] at hpa hp hpr
  exact ⟨hpa, or_iff_not_and_not.mpr ht, hp, hpr, .prepared (tableReady_of_allOk hu)⟩

theorem setRoute_succeeded (h : Succeeded (setRoute env package target p) t) :
    routePackageAllowed env t package = true ∧ (target = ['0'] ∨ target = ['1']) ∧
      providerExists t p = true ∧
      ((setRoute env package target p).run noFailure t).tree.content routesFile =
        some (Awk.select (keepsRoute env.arith package target) ((t.content routesFile).getD []) ++
          routeLine package target p) := by
  obtain ⟨hpa, ht, hp, hpr, hr⟩ := setRoute_passed h
  refine ⟨hpa, ht, hp, ?_⟩
  rw [(run_setRoute hpa ht hp hpr).2, (updateRoutes_noFailure _ _ hr).content,
    flatten_singleton]

theorem removeRoute_passed (h : Succeeded (removeRoute env package target) t) :
    routePackageAllowed env t package = true ∧ (target = ['0'] ∨ target = ['1']) ∧
      (prepareDirs.run noFailure t).value = true ∧
      TableReady (prepareDirs.run noFailure t).tree temporaryRoutes
        ((t.content routesFile).getD []) := by
  rw [removeRoute] at h
  obtain ⟨hpa, h⟩ := h.of_files.of_check
  obtain ⟨ht, h⟩ := h.of_check
  obtain ⟨-, h⟩ := h.of_bind
  obtain ⟨hp, h⟩ := h.of_check
  obtain ⟨hu, -⟩ := h.of_bind
  rw [Bool.not_eq_true, Bool.not_eq_false'] at hpa hp
  exact ⟨hpa, or_iff_not_and_not.mpr ht, hp, .prepared (tableReady_of_allOk hu)⟩

theorem removeRoute_succeeded (h : Succeeded (removeRoute env package target) t) :
    routePackageAllowed env t package = true ∧ (target = ['0'] ∨ target = ['1']) ∧
      ((removeRoute env package target).run noFailure t).tree.content routesFile =
        some (Awk.select (keepsRoute env.arith package target)
          ((t.content routesFile).getD [])) := by
  obtain ⟨hp, ht, hpr, hr⟩ := removeRoute_passed h
  refine ⟨hp, ht, ?_⟩
  rw [(run_removeRoute hp ht hpr).2, (updateRoutes_noFailure _ _ hr).content,
    flatten_nil, append_nil]

theorem saveRoutes_passed (h : Succeeded (saveRoutes env package p0 p1) t) :
    routePackageAllowed env t package = true ∧
      ([p0, p1].all fun p => p.isEmpty || providerExists t p) = true ∧
      (prepareDirs.run noFailure t).value = true ∧
      TableReady (prepareDirs.run noFailure t).tree (temporaryRoutesOf env.pid)
        ((t.content routesFile).getD []) := by
  rw [saveRoutes] at h
  obtain ⟨hpa, h⟩ := h.of_files.of_check
  obtain ⟨hp, h⟩ := h.of_check
  obtain ⟨-, h⟩ := h.of_bind
  obtain ⟨hpr, hu⟩ := h.of_check
  rw [Bool.not_eq_true, Bool.not_eq_false'] at hpa hp hpr
  refine ⟨hpa, hp, hpr, .prepared ?_⟩
  rw [saveUpdate] at hu
  obtain ⟨hf, h⟩ := hu.of_bind
  obtain ⟨-, h⟩ := h.of_check
  obtain ⟨-, h⟩ := h.of_bind
  obtain ⟨hr, -⟩ := h.of_bind
  rw [run_status, allOk_cons] at hf hr
  exact tableReady_of_ok (routesFile_ne_temporaryOf env.pid) hf.1 hr.1

theorem saveUpdate_noFailure (h : TableReady t (temporaryRoutesOf env.pid) text) :
    ((saveUpdate env package p0 p1).run noFailure t).tree.content routesFile =
      some (Awk.select (keepsPackage env.arith package) text ++
        (savedLines package p0 p1).flatten) := by
  rw [(run_saveUpdate h).2, drafted_noFailure]
  rfl

theorem saveRoutes_succeeded (h : Succeeded (saveRoutes env package p0 p1) t) :
    routePackageAllowed env t package = true ∧
      (∀ p ∈ [p0, p1], p = [] ∨ providerExists t p = true) ∧
      ((saveRoutes env package p0 p1).run noFailure t).tree.content routesFile =
        some (Awk.select (keepsPackage env.arith package) ((t.content routesFile).getD []) ++
          (savedLines package p0 p1).flatten) := by
  obtain ⟨hpa, hp, hpr, hr⟩ := saveRoutes_passed h
  refine ⟨hpa, fun p hm => ?_, ?_⟩
  · have hone := all_eq_true.mp hp p hm
    rwa [Bool.or_eq_true, List.isEmpty_iff] at hone
  · rw [(run_saveRoutes hpa hp hpr).2, saveUpdate_noFailure hr]

end Success

end Controller

end Vcam
