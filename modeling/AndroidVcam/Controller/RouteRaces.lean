import AndroidVcam.Controller.RouteStore
import AndroidVcam.Lib.Race

/-!
# Route commands at the same time

The control daemon serves each client in a process of its own, and nothing locks `routes.tsv` or the
temporary file that `set_route` and `remove_route` share. This module lets the steps of two such
commands (filter, append, rename) interleave.

* `RouteUpdate`, `RouteUpdate.script`: a command behind its checks; `RouteUpdate.apply`: its meaning;
* `BothDone`: both commands have taken effect, and the other routes are as before;
* **`concurrent_updates`**: commands of which none filters the table while the other one is between
  its filter and its rename.
-/

namespace Vcam

open TextFile FileTree Shell List

namespace Controller

/-! ## Updates -/

/-- The arguments of `set_route`, or of `remove_route`, that have passed the checks. -/
structure RouteUpdate where
  package : Text
  target : Text
  /-- `none` for `remove_route`. -/
  provider : Option Text
  sound : ∀ id ∈ provider, Route.Sound ⟨package, target, id⟩

namespace RouteUpdate

def key (update : RouteUpdate) : Text × Text := (update.package, update.target)

def routes (update : RouteUpdate) : List Route :=
  update.provider.toList.map fun id => ⟨update.package, update.target, id⟩

def keeps (arith : Awk.Arithmetic) (update : RouteUpdate) (record : Text) : Bool :=
  keepsRoute arith update.package update.target record

/-- `set_route` or `remove_route` behind the checks and `prepare_dirs`. -/
def script (arith : Awk.Arithmetic) (update : RouteUpdate) : Script Reply := do
  updateRoutes (Awk.select (update.keeps arith))
    (update.routes.map fun route => routeLine route.package route.target route.provider)
  return say (if update.provider.isSome then "routed" else "unrouted")

def set (package target provider : Text) (hpackage : validRoutePackage package = true)
    (htarget : target = ['0'] ∨ target = ['1']) (hprovider : validId provider = true) :
    RouteUpdate where
  package := package
  target := target
  provider := some provider
  sound := fun _ hid => Option.some.inj hid ▸
    ⟨plainField_of_package hpackage, plainField_target htarget, plainField_of_validName hprovider,
      (validName_iff.mp hprovider).1⟩

def remove (package target : Text) : RouteUpdate where
  package := package
  target := target
  provider := none
  sound := nofun

def apply (arith : Awk.Arithmetic) (update : RouteUpdate) (lines : List Text) : List Text :=
  lines.filter (update.keeps arith) ++ update.routes.map Route.line

end RouteUpdate

section Commands

variable {env : Env} {t : Tree} {o : Op → Outcome} {package target p : Text}

theorem setRoute_eq_script (hpa : routePackageAllowed env t package = true)
    (ht : target = ['0'] ∨ target = ['1']) (hp : providerExists t p = true)
    (hpr : (prepareDirs.run o t).value = true) :
    let update := RouteUpdate.set package target p (validRoutePackage_of_allowed hpa)
      ht (validId_of_providerExists hp)
    let rest := (update.script env.arith).run o (prepareDirs.run o t).tree
    ((setRoute env package target p).run o t).value = rest.value ∧
      ((setRoute env package target p).run o t).tree = rest.tree := by
  obtain ⟨hv, htr⟩ := run_setRoute hpa ht hp hpr
  rw [hv, htr]
  intro update rest
  simp only [rest, RouteUpdate.script, Script.value_bind, Script.tree_bind, Script.run_pure]
  exact ⟨rfl, rfl⟩

theorem removeRoute_eq_script (hpa : routePackageAllowed env t package = true)
    (ht : target = ['0'] ∨ target = ['1'])
    (hp : (prepareDirs.run o t).value = true) :
    let rest := ((RouteUpdate.remove package target).script env.arith).run o
      (prepareDirs.run o t).tree
    ((removeRoute env package target).run o t).value = rest.value ∧
      ((removeRoute env package target).run o t).tree = rest.tree := by
  obtain ⟨hv, htr⟩ := run_removeRoute hpa ht hp
  rw [hv, htr]
  intro rest
  simp only [rest, RouteUpdate.script, Script.value_bind, Script.tree_bind, Script.run_pure]
  exact ⟨rfl, rfl⟩

end Commands

def recordKey (record : Text) : Option (Text × Text) :=
  match Awk.fields '\t' record with
  | [package, target, _] => some (package, target)
  | _ => none

/-- The lines for a key are those that the command stores. -/
def RouteUpdate.Done (update : RouteUpdate) (lines : List Text) : Prop :=
  (lines.filter fun record => recordKey record = some update.key) = update.routes.map Route.line

def unrelated (a b : RouteUpdate) (record : Text) : Bool :=
  match recordKey record with
  | some key => decide (key ≠ a.key) && decide (key ≠ b.key)
  | none => false

/-- Both commands have taken effect, and all unrelated routes are there, in order. -/
structure BothDone (a b : RouteUpdate) (before after : List Text) : Prop where
  first : a.Done after
  second : b.Done after
  kept : after.filter (unrelated a b) = before.filter (unrelated a b)

theorem BothDone.symm {a b : RouteUpdate} {before after : List Text} (h : BothDone a b before after) :
    BothDone b a before after where
  first := h.second
  second := h.first
  kept := by
    have hs : unrelated b a = unrelated a b := by
      funext record
      rw [unrelated, unrelated]
      split
      · exact Bool.and_comm _ _
      · rfl
    rw [hs, h.kept]

/-- `awk` tells the key of a command from the keys that differ from it. -/
def RouteUpdate.TellsApart (arith : Awk.Arithmetic) (update : RouteUpdate)
    (keys : List (Text × Text)) : Prop :=
  ∀ key ∈ keys, key ≠ update.key →
    (Awk.same arith key.1 update.package && Awk.same arith key.2 update.target) = false

instance (arith : Awk.Arithmetic) (update : RouteUpdate) (keys : List (Text × Text)) :
    Decidable (update.TellsApart arith keys) :=
  decidableBAll (fun key => key ≠ update.key →
    (Awk.same arith key.1 update.package && Awk.same arith key.2 update.target) = false) keys

/-! ## One after the other -/

variable {arith : Awk.Arithmetic} {a b update : RouteUpdate} {lines : List Text}

theorem recordKey_line {r : Route} (h : r.Sound) : recordKey r.line = some r.key := by
  rw [recordKey, h.fields]
  rfl

variable {key : Text × Text} {r : Text} (u : RouteUpdate)

theorem RouteUpdate.keeps_of_key
    (h : recordKey r = some key) :
    update.keeps arith r =
      !(Awk.same arith key.1 update.package && Awk.same arith key.2 update.target) := by
  rw [recordKey] at h
  split at h
  · rename_i package target p hf
    obtain rfl := Option.some.inj h
    rw [keeps, keepsRoute, hf]
  · cases h

theorem RouteUpdate.keeps_self (h : recordKey r = some update.key) :
    update.keeps arith r = false := by
  rw [keeps_of_key h]
  change (!(Awk.same arith update.package update.package &&
    Awk.same arith update.target update.target)) = false
  rw [Awk.same_self, Awk.same_self]
  rfl

theorem RouteUpdate.TellsApart.keeps {keys : List (Text × Text)} (h : update.TellsApart arith keys) (hkey : recordKey r = some key) (hmem : key ∈ keys)
    (hne : key ≠ update.key) : update.keeps arith r = true := by
  rw [keeps_of_key hkey, h key hmem hne]
  rfl

theorem RouteUpdate.sound_routes : ∀ route ∈ u.routes, route.Sound := by
  intro route hr
  obtain ⟨id, hid, rfl⟩ := mem_map.mp hr
  exact u.sound id (Option.mem_toList.mp hid)

theorem RouteUpdate.recordKey_routes (h : r ∈ update.routes.map Route.line) :
    recordKey r = some update.key := by
  obtain ⟨route, hr, rfl⟩ := mem_map.mp h
  rw [recordKey_line (update.sound_routes route hr)]
  obtain ⟨id, -, rfl⟩ := mem_map.mp hr
  rfl

def tableKeysOf (lines : List Text) : List (Text × Text) := lines.filterMap recordKey

theorem RouteUpdate.filter_apply {P : Text → Bool}
    (hk : ∀ record ∈ lines, P record = true → update.keeps arith record = true)
    (hs : ∀ record ∈ update.routes.map Route.line, P record = false) :
    (update.apply arith lines).filter P = lines.filter P := by
  have hn : (update.routes.map Route.line).filter P = [] :=
    filter_eq_nil_iff.mpr fun record hr h => by
      rw [hs record hr] at h
      cases h
  rw [apply, filter_append, hn, append_nil, filter_filter]
  refine filter_congr fun record hr => ?_
  cases hP : P record with
  | false => rfl
  | true => exact hk record hr hP

theorem RouteUpdate.done_apply (l : List Text) :
    u.Done (u.apply arith l) := by
  have hold : (l.filter (u.keeps arith)).filter
      (fun record => recordKey record = some u.key) = [] := by
    rw [filter_filter, filter_eq_nil_iff]
    intro record _ h
    rw [Bool.and_eq_true, decide_eq_true_iff] at h
    rw [keeps_self h.1] at h
    cases h.2
  have hnew : (u.routes.map Route.line).filter
      (fun record => recordKey record = some u.key) = u.routes.map Route.line :=
    filter_eq_self.mpr fun record hr => decide_eq_true (recordKey_routes hr)
  rw [Done, apply, filter_append, hold, hnew, nil_append]

theorem RouteUpdate.Done.apply_other (h : a.Done lines) (hne : a.key ≠ b.key)
    (ha : b.TellsApart arith [a.key]) : a.Done (b.apply arith lines) := by
  rw [Done, filter_apply]
  · exact h
  · intro record _ hkey
    exact ha.keeps (of_decide_eq_true hkey) mem_cons_self hne
  · intro record hr
    rw [recordKey_routes hr, decide_eq_false_iff_not, Option.some.injEq]
    exact Ne.symm hne

theorem unrelated_iff : unrelated a b r = true ↔
    ∃ key, recordKey r = some key ∧ key ≠ a.key ∧ key ≠ b.key := by
  rw [unrelated]
  split
  · rename_i key hkey
    rw [Bool.and_eq_true, decide_eq_true_iff, decide_eq_true_iff, hkey]
    exact ⟨fun h => ⟨key, rfl, h⟩, fun ⟨_, hs, h⟩ => Option.some.inj hs ▸ h⟩
  · rename_i hn
    exact iff_of_false Bool.false_ne_true fun ⟨_, hkey, _⟩ => by
      rw [hn] at hkey
      cases hkey

theorem RouteUpdate.kept_apply (hu : update = a ∨ update = b)
    (ha : update.TellsApart arith (tableKeysOf lines)) :
    (update.apply arith lines).filter (unrelated a b) = lines.filter (unrelated a b) := by
  have hkey {key : Text × Text} (h : key ≠ a.key ∧ key ≠ b.key) : key ≠ update.key := by
    rcases hu with rfl | rfl
    · exact h.1
    · exact h.2
  refine filter_apply (fun record hre h => ?_) fun record hre => ?_
  · obtain ⟨key, hr, ho⟩ := unrelated_iff.mp h
    exact ha.keeps hr (mem_filterMap.mpr ⟨record, hre, hr⟩) (hkey ho)
  · by_contra h
    obtain ⟨key, hr, ho⟩ := unrelated_iff.mp (Bool.not_eq_false _ ▸ h)
    rw [recordKey_routes hre] at hr
    exact hkey ho (Option.some.inj hr).symm

theorem RouteUpdate.mem_tableKeysOf_apply
    (h : key ∈ tableKeysOf (update.apply arith lines)) :
    key = update.key ∨ key ∈ tableKeysOf lines := by
  obtain ⟨record, hr, hkey⟩ := mem_filterMap.mp h
  rcases mem_append.mp hr with hk | hnew
  · exact .inr (mem_filterMap.mpr ⟨record, mem_of_mem_filter hk, hkey⟩)
  · rw [recordKey_routes hnew] at hkey
    exact .inl (Option.some.inj hkey).symm

theorem RouteUpdate.TellsApart.mono {keys more : List (Text × Text)}
    (h : update.TellsApart arith more) (hsub : ∀ key ∈ keys, key ∈ more) :
    update.TellsApart arith keys := fun key hkey => h key (hsub key hkey)

/-- **Two commands one after the other take effect both.** -/
theorem bothDone_of_sequence (hne : a.key ≠ b.key) (ha : a.TellsApart arith (tableKeysOf lines))
    (hb : b.TellsApart arith (a.key :: tableKeysOf lines)) :
    BothDone a b lines (b.apply arith (a.apply arith lines)) where
  first := (a.done_apply lines).apply_other hne
    (hb.mono fun _ h => mem_singleton.mp h ▸ mem_cons_self)
  second := b.done_apply _
  kept := by
    have hb' : b.TellsApart arith (tableKeysOf (a.apply arith lines)) :=
      hb.mono fun _ h => mem_cons.mpr (RouteUpdate.mem_tableKeysOf_apply h)
    rw [RouteUpdate.kept_apply (.inr rfl) hb', RouteUpdate.kept_apply (.inl rfl) ha]

/-! ## At the same time -/

theorem RouteUpdate.getlines_apply (text : Text) :
    getlines (Awk.select (u.keeps arith) text ++ (u.routes.map fun route =>
      routeLine route.package route.target route.provider).flatten) =
        u.apply arith (getlines text) := by
  have hli : (u.routes.map fun route =>
      routeLine route.package route.target route.provider).flatten =
      (u.routes.map Route.line).flatMap fun line => line ++ ['\n'] := by
    rw [flatMap_map, flatMap_def]
    rfl
  rw [hli, Awk.select, ← flatMap_append, flatMap_def, getlines_flatten]
  · rfl
  · refine forall_mem_append.mpr ⟨fun line hl => ?_, fun line hl => ?_⟩
    · exact newline_notMem_of_mem_getlines (mem_of_mem_filter hl)
    · obtain ⟨route, hr, rfl⟩ := mem_map.mp hl
      exact (u.sound_routes route hr).newline

theorem table_script {t : Tree} {text : Text}
    (h : TableReady t temporaryRoutes text) :
    ∃ after, TableReady ((u.script arith).run noFailure t).tree temporaryRoutes after ∧
      getlines after = u.apply arith (getlines text) := by
  refine ⟨_, ?_, u.getlines_apply text⟩
  rw [RouteUpdate.script, Script.tree_bind, Script.run_pure]
  exact updateRoutes_noFailure _ _ h

theorem table_scripts {t : Tree} {text : Text} (h : TableReady t temporaryRoutes text)
    (hne : a.key ≠ b.key) (ha : a.TellsApart arith (tableKeysOf (getlines text)))
    (hb : b.TellsApart arith (a.key :: tableKeysOf (getlines text))) :
    ∃ after, ((b.script arith).run noFailure
        ((a.script arith).run noFailure t).tree).tree.content routesFile = some after ∧
      BothDone a b (getlines text) (getlines after) := by
  obtain ⟨middle, hm, hf⟩ := @table_script arith a _ _ h
  obtain ⟨after, haf, hs⟩ := @table_script arith b _ _ hm
  refine ⟨after, haf.content, ?_⟩
  rw [hs, hf]
  exact bothDone_of_sequence hne ha hb

def race (arith : Awk.Arithmetic) (a b : RouteUpdate) (t : Tree) : Race Reply :=
  .start (a.script arith) (b.script arith) t

def ReportsSuccess (process : Process Reply) : Prop :=
  ∃ reply, process.Ended reply ∧ reply.status = 0

/-- **Concurrent commands are not lost** when none of them filters the table while the other one is
between its filter and its rename, and `awk` tells their keys from all others: whenever both have
reported success, both have taken effect. -/
theorem concurrent_updates (arith : Awk.Arithmetic) (a b : RouteUpdate) (t : Tree) (text : Text)
    (schedule : List Side) (hready : TableReady t temporaryRoutes text) (hne : a.key ≠ b.key)
    (ha : a.TellsApart arith (b.key :: tableKeysOf (getlines text)))
    (hb : b.TellsApart arith (a.key :: tableKeysOf (getlines text)))
    (hexclusive : Machine.Along (Race.step noFailure) Race.Exclusive (race arith a b t) schedule)
    (hfirst : ReportsSuccess
      (Machine.run (Race.step noFailure) (race arith a b t) schedule).1.first)
    (hsecond : ReportsSuccess
      (Machine.run (Race.step noFailure) (race arith a b t) schedule).1.second) :
    ∃ after, (Machine.run (Race.step noFailure) (race arith a b t) schedule).1.tree.content
        routesFile = some after ∧ BothDone a b (getlines text) (getlines after) := by
  obtain ⟨_, hfirst, -⟩ := hfirst
  obtain ⟨_, hsecond, -⟩ := hsecond
  rcases Race.serial hexclusive rfl hfirst hsecond with ht | ht
  · rw [race, ht]
    exact table_scripts hready hne (ha.mono fun _ h => mem_cons_of_mem _ h) hb
  · rw [race, ht]
    obtain ⟨after, hc, hd⟩ :=
      table_scripts hready hne.symm (hb.mono fun _ h => mem_cons_of_mem _ h) ha
    exact ⟨after, hc, hd.symm⟩

def racingTable : Tree :=
  buildTree [.mkdir frameDir, .write routesFile (routeLine ['*'] ['0'] "physical-0")]

theorem ready_racingTable :
    TableReady racingTable temporaryRoutes (routeLine ['*'] ['0'] "physical-0") := by
  have hok : Script.AllOk ((updateRoutes id []).run noFailure racingTable).events := by
    decide +kernel
  obtain ⟨text, hr⟩ := tableReady_of_allOk hok
  have ht : racingTable.content routesFile =
      some (routeLine ['*'] ['0'] "physical-0") := by decide +kernel
  obtain rfl : _ = text := Option.some.inj (ht.symm.trans hr.content)
  exact hr

def routeDesk : RouteUpdate :=
  .set "com.desk" ['0'] "desk" (by decide) (.inl rfl) (by decide)

def routeDoor : RouteUpdate :=
  .set "com.door" ['0'] "door" (by decide) (.inl rfl) (by decide)

/-- The second command empties the temporary file of the first one before it is renamed. -/
def lostUpdate : List Side := [.first, .first, .second, .first, .second, .second]

/-- Both commands report success, and only the line of the second one is left. -/
theorem concurrent_update_lost :
    let final := (Machine.run (Race.step noFailure)
      (race plainEnv.arith routeDesk routeDoor racingTable) lostUpdate).1
    TableReady racingTable temporaryRoutes (routeLine ['*'] ['0'] "physical-0") ∧
    routeDesk.key ≠ routeDoor.key ∧ ReportsSuccess final.first ∧ ReportsSuccess final.second ∧
    final.tree.content routesFile = some (routeLine "com.door" ['0'] "door") ∧
    ¬BothDone routeDesk routeDoor (getlines (routeLine ['*'] ['0'] "physical-0"))
      (getlines (routeLine "com.door" ['0'] "door")) := by
  refine ⟨ready_racingTable, by decide, ⟨_, rfl, rfl⟩, ⟨_, rfl, rfl⟩, by decide +kernel, fun h => ?_⟩
  have hk := h.kept
  revert hk
  decide

/-- One command after the other. -/
theorem concurrent_update_kept :
    ∃ after, (Machine.run (Race.step noFailure)
        (race plainEnv.arith routeDesk routeDoor racingTable)
        [.first, .first, .first, .second, .second, .second]).1.tree.content routesFile = some after ∧
      BothDone routeDesk routeDoor (getlines (routeLine ['*'] ['0'] "physical-0"))
        (getlines after) :=
  concurrent_updates plainEnv.arith routeDesk routeDoor racingTable _ _ ready_racingTable (by decide)
    (by decide) (by decide) (by decide) ⟨_, rfl, rfl⟩ ⟨_, rfl, rfl⟩

end Controller

end Vcam
