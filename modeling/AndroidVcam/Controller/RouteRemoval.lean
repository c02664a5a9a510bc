import AndroidVcam.Controller.Footprint

/-!
# The routes of a removed provider

`remove_provider` takes the routes of a provider out of the table with an `awk` comparison. IDs that
look like decimal numbers are compared by value, so a provider can take the routes of another one
with it.

* `uses_stopProvider`: what stopping can touch; **`table_removeProvider`**: the table after a removal;
* **`removesExactly_iff`**: exactly the routes of the provider are removed unless its ID has the
  value of the other one.
-/

namespace Vcam

open TextFile FileTree Shell List Script Bool

namespace Controller

theorem location_routesFile : location routesFile =
    ["routes.tsv".toList, "vcam".toList, "camera".toList, "vendor".toList, "data".toList] := by
  decide +kernel

theorem uses_stopProvider (id : Text) (p : Bool) {place : Path}
    (h : ∀ name ∈ stopNames, place.head? ≠ some name) :
    (stopProvider id p).Uses fun op => ¬op.touches place :=
  (ofNames_stopProvider id p).mono fun _ hop => hop.untouched h

/-! ## Removing a provider -/

variable {env : Env} {t : Tree} {id : Text} {o : Op → Outcome}

def removable (t : Tree) (id : Text) : Bool :=
  validId id && !isPhysical id && t.isDirectory (statePath id)

theorem run_removeProvider (h : removable t id = true) :
    (removeProvider env id).run o t = (removal env id).run o t := by
  rw [removable, and_eq_true, and_eq_true, not_eq_true'] at h
  rw [removeProvider, h.1.1, h.1.2]
  change Script.run o (Script.files >>= _) t = _
  rw [run_bind, run_files]
  dsimp only
  rw [h.2]
  rfl

theorem refused_removeProvider (h : removable t id = false) :
    ((removeProvider env id).run o t).tree = t ∧
      ((removeProvider env id).run o t).events = [] := by
  rw [removeProvider]
  split_ifs with hid hp
  · exact ⟨rfl, rfl⟩
  · exact ⟨rfl, rfl⟩
  · have hd : t.isDirectory (statePath id) = false := by
      rw [not_eq_true, not_eq_false'] at hid
      rw [not_eq_true] at hp
      rwa [removable, hid, hp] at h
    rw [run_bind, run_files]
    dsimp only
    rw [hd]
    exact ⟨rfl, rfl⟩

theorem proper_of_not_isDotOperand (hid : validId id = true)
    (h : isDotOperand (statePath id) = false) : Proper id := by
  have hs : '/' ∉ id := notMem_of_validName hid (by decide)
  have hl : (components (statePath id)).getLast? = some id := by
    rw [statePath, components_slash, components_name hs, getLast?_concat]
  rw [isDotOperand, hl, or_eq_false_iff, beq_eq_false_iff_ne, beq_eq_false_iff_ne] at h
  exact ⟨(validName_iff.mp hid).1, h.1, h.2, hs⟩

/-- Removing the directories of a provider does not touch the route table. -/
theorem uses_removeDirectories (hid : Proper id) :
    (do exec_ (.removeTree (statePath id))
        exec_ (.removeTree (framePath id))
        return say "removed" : Script Reply).Uses fun op => ¬op.touches (location routesFile) := by
  have hs : ¬(Op.removeTree (statePath id)).touches (location routesFile) := by
    rw [Op.touches, statePath, location_child hid, location_routesFile]
    intro h
    have hdir : location providerStateDir =
        ["providers", "android_vcam", "adb", "data"] := by
      decide +kernel
    rw [hdir] at h
    have heq := h.eq_of_length rfl
    revert heq
    simp
  have hf : ¬(Op.removeTree (framePath id)).touches (location routesFile) := by
    rw [Op.touches, framePath, location_child hid, location_routesFile]
    intro h
    have hl : (location providerFrameDir).length = 5 := by decide +kernel
    have hle := h.length_le
    rw [length_cons, hl] at hle
    revert hle
    decide
  exact .bind (uses_exec_ hs) fun _ => .bind (uses_exec_ hf) fun _ => trivial

theorem content_stopProvider (id : Text) (p : Bool) (t : Tree) :
    ((stopProvider id p).run o t).tree.content routesFile = t.content routesFile := by
  refine content_plain plain_routesFile ((uses_stopProvider id p ?_).frame t)
  rw [location_routesFile]
  decide

theorem content_removal (hid : Proper id) (t : Tree) :
    ((removal env id).run o t).tree.content routesFile =
      ((updateRoutes (Awk.select (keepsProvider env.arith id)) []).run o
        ((stopProvider id false).run o t).tree).tree.content routesFile := by
  rw [removal, tree_bind, tree_bind]
  exact content_plain plain_routesFile ((uses_removeDirectories hid).frame _)

theorem removal_of_allOk (hid : validId id = true)
    (hok : Script.AllOk ((removal env id).run noFailure t).events) :
    Proper id ∧ ∃ text, TableReady ((stopProvider id false).run noFailure t).tree temporaryRoutes
      text ∧ t.content routesFile = some text := by
  rw [removal, events_bind, allOk_append, events_bind, allOk_append,
    events_bind, run_exec_, allOk_append, allOk_cons] at hok
  obtain ⟨-, hu, ⟨hs, -⟩, -⟩ := hok
  obtain ⟨text, hr⟩ := tableReady_of_allOk hu
  have hc := hr.content
  rw [content_stopProvider] at hc
  exact ⟨proper_of_not_isDotOperand hid (of_exec_removeTree hs), text, hr, hc⟩

theorem validId_of_removable (h : removable t id = true) : validId id = true := by
  rw [removable, and_eq_true, and_eq_true] at h
  exact h.1.1

/-- **The table after a removal** whose operations all succeed. -/
theorem table_removeProvider {text : Text} (h : removable t id = true)
    (ht : t.content routesFile = some text)
    (hok : Script.AllOk ((removeProvider env id).run noFailure t).events) :
    ((removeProvider env id).run noFailure t).tree.content routesFile =
      some (Awk.select (keepsProvider env.arith id) text) := by
  rw [run_removeProvider h] at hok ⊢
  obtain ⟨hp, text', hr, ht'⟩ := removal_of_allOk (validId_of_removable h) hok
  obtain rfl : text = text' := Option.some.inj (ht.symm.trans ht')
  rw [content_removal hp, (updateRoutes_noFailure _ _ hr).content, flatten_nil, append_nil]

/-! ## Which routes are removed -/

def routeProvider (record : Text) : Option Text := (Awk.fields '\t' record)[2]?

def ThreeFields (text : Text) : Prop :=
  ∀ record ∈ getlines text, (Awk.fields '\t' record).length = 3

instance (text : Text) : Decidable (ThreeFields text) :=
  decidableBAll (fun record => (Awk.fields '\t' record).length = 3) (getlines text)

/-- No line of the one provider is left, and those of the other one are all there, in order. -/
structure RemovesExactly (a b text after : Text) : Prop where
  deleted : ∀ record ∈ getlines after, routeProvider record ≠ some a
  kept : (getlines after).filter (fun record => routeProvider record = some b) =
    (getlines text).filter fun record => routeProvider record = some b

theorem keepsProvider_eq {a : Awk.Arithmetic} {r p : Text}
    (hf : (Awk.fields '\t' r).length = 3) (h : routeProvider r = some p) :
    keepsProvider a id r = !Awk.same a p id := by
  obtain ⟨first, second, third, hr⟩ := length_eq_three.mp hf
  rw [routeProvider, hr] at h
  rw [keepsProvider, hr, ← Option.some.inj h]

/-- **Which removals are exact.** A removal that is refused leaves the table alone; one that is made
takes exactly the routes of its provider unless the other ID has the same value. -/
theorem removesExactly_iff (env : Env) (t : Tree) (text a b : Text)
    (htable : t.content routesFile = some text) (hfields : ThreeFields text)
    (ha : validId a = true)
    (hok : Script.AllOk ((removeProvider env a).run noFailure t).events) :
    RemovesExactly a b text
        ((((removeProvider env a).run noFailure t).tree.content routesFile).getD []) ↔
      if !isPhysical a && t.isDirectory (statePath a) then
        ¬(Awk.same env.arith b a = true ∧
          ∃ record ∈ getlines text, routeProvider record = some b)
      else ∀ record ∈ getlines text, routeProvider record ≠ some a := by
  have hre : removable t a = (!isPhysical a && t.isDirectory (statePath a)) := by
    rw [removable, ha, Bool.true_and]
  rw [← hre]
  cases hc : removable t a with
  | false =>
    rw [(refused_removeProvider hc).1, htable, Option.getD_some, if_neg Bool.false_ne_true]
    exact ⟨fun h => h.deleted, fun h => ⟨h, rfl⟩⟩
  | true =>
    rw [table_removeProvider hc htable hok, Option.getD_some, if_pos rfl]
    have hl := Awk.getlines_select (keepsProvider env.arith a) text
    have hd : ∀ record ∈ getlines (Awk.select (keepsProvider env.arith a) text),
        routeProvider record ≠ some a := by
      rw [hl]
      intro record hr hp
      obtain ⟨hmem, hk⟩ := mem_filter.mp hr
      rw [keepsProvider_eq (hfields record hmem) hp, Awk.same_self] at hk
      cases hk
    refine ⟨fun h ⟨hs, record, hr, hp⟩ => ?_, fun h => ⟨hd, ?_⟩⟩
    · have hke : record ∈ (getlines text).filter fun record => routeProvider record = some b :=
        mem_filter.mpr ⟨hr, decide_eq_true hp⟩
      rw [← h.kept, hl, filter_filter] at hke
      have hk := (mem_filter.mp hke).2
      rw [keepsProvider_eq (hfields record hr) hp, hs] at hk
      simp at hk
    · rw [hl, filter_filter]
      refine filter_congr fun record hr => ?_
      by_cases hp : routeProvider record = some b
      · have hdi : Awk.same env.arith b a = false := by
          by_contra hs
          exact h ⟨not_eq_false _ ▸ hs, record, hr, hp⟩
        rw [keepsProvider_eq (hfields record hr) hp, hdi]
        simp
      · simp [hp]

/-- A device with two providers and a route to each of them. -/
def twoProviders (a b : Text) : Tree :=
  buildTree [.mkdir (statePath a), .mkdir (framePath a), .mkdir (statePath b), .mkdir (framePath b),
    .write routesFile (routeLine ['*'] ['0'] b ++ routeLine ['*'] ['1'] a)]

/-- The route of `01` goes with provider `1`. -/
theorem numericIds_not_exact :
    validId "1" = true ∧ validId "01" = true ∧
    ThreeFields (routeLine ['*'] ['0'] "01" ++ routeLine ['*'] ['1'] "1") ∧
    (twoProviders "1" "01").content routesFile =
      some (routeLine ['*'] ['0'] "01" ++ routeLine ['*'] ['1'] "1") ∧
    Script.AllOk ((removeProvider plainEnv "1").run noFailure
      (twoProviders "1" "01")).events ∧
    ¬RemovesExactly "1" "01"
      (routeLine ['*'] ['0'] "01" ++ routeLine ['*'] ['1'] "1")
      ((((removeProvider plainEnv "1").run noFailure
        (twoProviders "1" "01")).tree.content routesFile).getD []) := by
  refine ⟨by decide, by decide, by decide +kernel, by decide +kernel, by decide +kernel, fun h => ?_⟩
  have hk := h.kept
  revert hk
  decide +kernel

/-- The route of `desk` stays when provider `door` goes. -/
theorem namedIds_exact :
    RemovesExactly "door" "desk"
      (routeLine ['*'] ['0'] "desk" ++ routeLine ['*'] ['1'] "door")
      ((((removeProvider plainEnv "door").run noFailure
        (twoProviders "door" "desk")).tree.content routesFile).getD []) :=
  (removesExactly_iff plainEnv (twoProviders "door" "desk") _ "door"
    "desk" (by decide +kernel) (by decide +kernel) (by decide) (by decide +kernel)).mpr
    (by decide +kernel)

end Controller

end Vcam
