import AndroidVcam.Controller.RouteRemoval
import AndroidVcam.Controller.RouteStore

/-!
# Failing steps of a route update

Four commands rewrite the route table: a filter into a temporary file, the new lines behind it, a
rename. `save_routes` asks for the exit status of the filter and of the rename; the other three ask for
none and report success whatever happened.

* `AllOrNothing`: the old or the new table, and success only with the new one;
* **`allOrNothing_iff`**: the failures that are harmless.
-/

namespace Vcam

open TextFile FileTree Shell List Script

namespace Controller

/-! ## Failures -/

inductive TableCommand
  | route (command : RouteCommand)
  | removeProvider (id : Text)

def TableCommand.script (env : Env) : TableCommand → Script Reply
  | route command => command.script env
  | removeProvider id => Controller.removeProvider env id

inductive Failure
  /-- `awk` fails after so many characters of its output. -/
  | filter (written : ℕ)
  /-- The append of this line fails after so many of its characters. -/
  | append (line : Text) (written : ℕ)
  | rename

def failing : Failure → Op → Outcome
  | .filter written, .filter _ _ _ => .fails written
  | .append line written, .append _ content => if content = line then .fails written else .ok
  | .rename, .rename _ _ => .fails 0
  | _, _ => .ok

/-- The table is the complete old or the complete new one, and success means the new one. -/
def AllOrNothing (old new after : Text) (status : ℕ) : Prop :=
  (after = old ∨ after = new) ∧ (status = 0 → after = new)

theorem allOrNothing_of_success {old new a : Text} :
    AllOrNothing old new a 0 ↔ a = new :=
  ⟨fun h => h.2 rfl, fun h => ⟨.inr h, fun _ => h⟩⟩

theorem allOrNothing_of_failure {old new : Text} {s : ℕ} :
    AllOrNothing old new old (s + 1) :=
  ⟨.inl rfl, fun e => absurd e (Nat.succ_ne_zero s)⟩

/-- The operations of a script that the failures are not about. -/
def Op.isSafe : Op → Prop
  | .filter _ _ _ => False
  | .append _ _ => False
  | .rename _ _ => False
  | _ => True

theorem failing_of_isSafe {op : Op} (h : Op.isSafe op) (f : Failure) :
    failing f op = noFailure op := by
  cases f <;> cases op <;> first | rfl | cases h

theorem run_failing {α : Type} {s : Script α} (h : s.Uses Op.isSafe) (f : Failure)
    (t : Tree) : s.run (failing f) t = s.run noFailure t :=
  (h.mono fun _ hop => failing_of_isSafe hop f).run_congr t

theorem isSafe_prepareDirs : prepareDirs.Uses Op.isSafe := by
  have hm (paths : List Text) : (makeDirectories paths).Uses Op.isSafe := by
    induction paths with
    | nil => trivial
    | cons path paths ih =>
      exact .bind (uses_status trivial) fun _ => .bind ih fun _ => trivial
  refine .bind (hm _) fun made => uses_ite trivial ?_
  exact .bind (uses_exec_ trivial) fun _ => trivial

theorem isSafe_stopProvider (id : Text) (p : Bool) :
    (stopProvider id p).Uses Op.isSafe := by
  refine .bind (.bind uses_files fun _ => uses_ite ?_ trivial) fun _ => ?_
  · exact .bind (uses_exec_ trivial) fun _ => uses_exec_ trivial
  · refine .bind (uses_exec_ trivial) fun _ => .bind (uses_exec_ trivial) fun _ => ?_
    exact uses_ite trivial (uses_exec_ trivial)

/-! ## The draft -/

variable {t : Tree} {text temporary : Text} {s : Text → Text} {lines : List Text}

/-- Lines of which one is cut are whole only when nothing is cut off. -/
theorem flatMap_cut_eq_iff (line : Text) (w : ℕ) :
    (lines.flatMap fun l => if l = line then l.take w else l) = lines.flatten ↔
      (line ∈ lines → line.length ≤ w) := by
  have hle (ls : List Text) :
      (ls.flatMap fun l => if l = line then l.take w else l).length ≤ ls.flatten.length := by
    rw [length_flatMap, length_flatten]
    refine sum_le_sum fun l _ => ?_
    split_ifs
    · exact length_take_le' w l
    · exact le_rfl
  induction lines with
  | nil => exact iff_of_true rfl nofun
  | cons first rest ih =>
    rw [flatMap_cons, flatten_cons, mem_cons]
    by_cases hf : first = line
    · subst hf
      rw [if_pos rfl]
      constructor
      · intro h _
        have hl := congrArg List.length h
        rw [length_append, length_append, length_take] at hl
        have := hle rest
        omega
      · intro h
        have hs := h (.inl rfl)
        rw [take_of_length_le hs, append_cancel_left_eq]
        exact ih.mpr fun _ => hs
    · rw [if_neg hf, append_cancel_left_eq]
      exact ih.trans (imp_congr_left ⟨.inr, fun h => h.resolve_left (Ne.symm hf)⟩)

/-- The failures of the filter and of an append that leave the draft whole. -/
def WholeDraft (select : Text → Text) (lines : List Text) (old : Text) : Failure → Prop
  | .filter written => (select old).length ≤ written
  | .append line written => line ∈ lines → line.length ≤ written
  | .rename => True

theorem drafted_eq_iff (failure : Failure) :
    drafted (failing failure) temporary s lines text = s text ++ lines.flatten ↔
      WholeDraft s lines text failure := by
  cases failure with
  | filter written =>
    have hl : (lines.flatMap fun line =>
        (failing (.filter written) (.append temporary line)).written line) = lines.flatten :=
      flatMap_id
    rw [drafted, hl, append_cancel_right_eq]
    change (s text).take written = s text ↔ _
    rw [take_eq_self_iff]
    rfl
  | append line written =>
    rw [drafted]
    change s text ++ _ = _ ↔ _
    rw [append_cancel_left_eq, WholeDraft, ← flatMap_cut_eq_iff]
    have hcut : (lines.flatMap fun l =>
        (failing (.append line written) (.append temporary l)).written l) =
        lines.flatMap fun l => if l = line then l.take written else l := by
      refine flatMap_congr fun l _ => ?_
      rw [failing]
      split_ifs <;> rfl
    rw [hcut]
  | rename =>
    exact iff_of_true (drafted_noFailure temporary s lines) trivial

/-! ## The rewriting -/

/-- The harmless failures of a rewriting that reports success always. -/
def HarmlessUpdate (select : Text → Text) (lines : List Text) (old : Text) : Failure → Prop
  | .rename => select old ++ lines.flatten = old
  | failure => WholeDraft select lines old failure

/-- `set_route`, `remove_route` and `remove_provider` leave the new table only if nothing is cut off
and nothing had to be renamed. -/
theorem update_failing (h : TableReady t temporaryRoutes text) (failure : Failure) :
    (((updateRoutes s lines).run (failing failure) t).tree.content routesFile).getD [] =
      s text ++ lines.flatten ↔ HarmlessUpdate s lines text failure := by
  rw [(run_updateRoutes s lines h).content, Option.getD_some]
  cases failure with
  | filter written => exact drafted_eq_iff (.filter written)
  | append line written => exact drafted_eq_iff (.append line written)
  | rename => exact eq_comm

def HarmlessSave (lines : List Text) : Failure → Prop
  | .append line written => line ∈ lines → line.length ≤ written
  | _ => True

/-- `save_routes` reports a failed filter or rename and leaves the table alone. -/
theorem save_failing {env : Env} {package p0 p1 : Text}
    (h : TableReady t (temporaryRoutesOf env.pid) text) (failure : Failure) :
    AllOrNothing text
        (Awk.select (keepsPackage env.arith package) text ++
          (savedLines package p0 p1).flatten)
        ((((saveUpdate env package p0 p1).run (failing failure) t).tree.content
          routesFile).getD [])
        ((saveUpdate env package p0 p1).run (failing failure) t).value.status ↔
      HarmlessSave (savedLines package p0 p1) failure := by
  obtain ⟨hv, ht⟩ := @run_saveUpdate (failing failure) t text env package p0 p1 h
  rw [hv, ht, Option.getD_some]
  cases failure with
  | filter written => exact iff_of_true allOrNothing_of_failure trivial
  | append line written =>
    exact allOrNothing_of_success.trans (drafted_eq_iff (.append line written))
  | rename => exact iff_of_true allOrNothing_of_failure trivial

/-! ## The commands -/

/-- The failures after which a command keeps its promise. -/
def TableCommand.Harmless (env : Env) (old : Text) : TableCommand → Failure → Prop
  | route (.set package target provider) =>
    HarmlessUpdate (Awk.select (keepsRoute env.arith package target))
      [routeLine package target provider] old
  | route (.save package provider0 provider1) =>
    HarmlessSave (savedLines package provider0 provider1)
  | route (.remove package target) =>
    HarmlessUpdate (Awk.select (keepsRoute env.arith package target)) [] old
  | removeProvider id => HarmlessUpdate (Awk.select (keepsProvider env.arith id)) [] old

theorem removable_of_succeeded {env : Env} {id : Text} (h : Succeeded (removeProvider env id) t) :
    removable t id = true := by
  rw [removeProvider] at h
  obtain ⟨hid, h⟩ := h.of_check
  obtain ⟨hp, h⟩ := h.of_check
  obtain ⟨hd, -⟩ := h.of_files.of_check
  rw [Bool.not_eq_true, Bool.not_eq_false'] at hid hd
  rw [Bool.not_eq_true] at hp
  rw [removable, hid, hp, hd]
  rfl

theorem value_removal (env : Env) (id : Text) (o : Op → Outcome) :
    ((removal env id).run o t).value = say "removed" := by
  rw [removal, value_bind, value_bind, value_bind, value_bind,
    run_pure]

/-- **Which failures are harmless.** For every command that succeeds without the failure, the table
after a failing step is the old or the new one, and a reported success means the new one, exactly
in these cases. -/
theorem allOrNothing_iff (env : Env) (t : Tree) (command : TableCommand) (failure : Failure)
    (h : Succeeded (command.script env) t) :
    AllOrNothing ((t.content routesFile).getD [])
        ((((command.script env).run noFailure t).tree.content routesFile).getD [])
        ((((command.script env).run (failing failure) t).tree.content routesFile).getD [])
        ((command.script env).run (failing failure) t).value.status ↔
      command.Harmless env ((t.content routesFile).getD []) failure := by
  have hpr := run_failing isSafe_prepareDirs failure t
  cases command with
  | route command =>
    cases command with
    | set package target provider =>
      obtain ⟨hpa, ht, hprovider, hp, hr⟩ := setRoute_passed h
      have hnew := (run_setRoute hpa ht hprovider hp).2
      obtain ⟨hv, ha⟩ :=
        run_setRoute hpa ht hprovider ((congrArg Script.Ran.value hpr).trans hp)
      rw [hpr] at ha
      rw [TableCommand.script, RouteCommand.script, hnew, ha, hv,
        (updateRoutes_noFailure _ _ hr).content]
      exact allOrNothing_of_success.trans (update_failing hr failure)
    | save package provider0 provider1 =>
      obtain ⟨hpa, hpro, hp, hr⟩ := saveRoutes_passed h
      have hnew := (run_saveRoutes hpa hpro hp).2
      obtain ⟨hv, ha⟩ :=
        run_saveRoutes hpa hpro ((congrArg Script.Ran.value hpr).trans hp)
      rw [hpr] at hv ha
      rw [TableCommand.script, RouteCommand.script, hnew, ha, hv,
        saveUpdate_noFailure hr]
      exact save_failing hr failure
    | remove package target =>
      obtain ⟨hpa, ht, hp, hr⟩ := removeRoute_passed h
      have hnew := (run_removeRoute hpa ht hp).2
      obtain ⟨hv, ha⟩ :=
        run_removeRoute hpa ht ((congrArg Script.Ran.value hpr).trans hp)
      rw [hpr] at ha
      rw [TableCommand.script, RouteCommand.script, hnew, ha, hv,
        (updateRoutes_noFailure _ _ hr).content]
      exact allOrNothing_of_success.trans (update_failing hr failure)
  | removeProvider id =>
    have hre := removable_of_succeeded h
    have hok := h.ok
    have hs := run_failing (isSafe_stopProvider id false) failure t
    rw [TableCommand.script, run_removeProvider hre] at hok
    obtain ⟨hid, text, hr, hte⟩ := removal_of_allOk (validId_of_removable hre) hok
    rw [TableCommand.script, run_removeProvider hre, run_removeProvider hre,
      content_removal hid, content_removal hid, hs, (updateRoutes_noFailure _ _ hr).content, hte,
      value_removal]
    exact allOrNothing_of_success.trans (update_failing hr failure)

/-- A device with a route that is about to be followed by a second one. -/
def oneRoute : Tree :=
  buildTree [.mkdir (statePath "desk"), .mkdir (framePath "desk"),
    .write (stateFile "desk" "meta") (newMeta "image" [] []),
    .write routesFile (routeLine ['*'] ['0'] "physical-0")]

def secondRoute : TableCommand := .route (.set ['*'] ['1'] "desk")

/-- `awk` fails before its first character: the old route is lost and `routed` is reported. -/
theorem failed_filter_loses_routes :
    Succeeded (secondRoute.script plainEnv) oneRoute ∧
    ((secondRoute.script plainEnv).run (failing (.filter 0)) oneRoute).value = say "routed" ∧
    ((secondRoute.script plainEnv).run (failing (.filter 0)) oneRoute).tree.content routesFile =
      some (routeLine ['*'] ['1'] "desk") ∧
    ¬AllOrNothing ((oneRoute.content routesFile).getD [])
      ((((secondRoute.script plainEnv).run noFailure oneRoute).tree.content routesFile).getD [])
      ((((secondRoute.script plainEnv).run (failing (.filter 0)) oneRoute).tree.content
        routesFile).getD [])
      ((secondRoute.script plainEnv).run (failing (.filter 0)) oneRoute).value.status := by
  refine ⟨by decide +kernel, by decide +kernel, by decide +kernel, fun h => ?_⟩
  have ht := h.2 (by decide +kernel)
  revert ht
  decide +kernel

/-- `save_routes` keeps its promise when `awk` fails. -/
theorem failed_save_keeps_routes :
    Succeeded ((TableCommand.route (.save ['*'] [] "desk")).script plainEnv) oneRoute ∧
    AllOrNothing ((oneRoute.content routesFile).getD [])
      (((((TableCommand.route (.save ['*'] [] "desk")).script plainEnv).run noFailure
        oneRoute).tree.content routesFile).getD [])
      (((((TableCommand.route (.save ['*'] [] "desk")).script plainEnv).run
        (failing (.filter 0)) oneRoute).tree.content routesFile).getD [])
      (((TableCommand.route (.save ['*'] [] "desk")).script plainEnv).run
        (failing (.filter 0)) oneRoute).value.status :=
  ⟨by decide +kernel, (allOrNothing_iff plainEnv oneRoute (.route (.save ['*'] [] "desk"))
    (.filter 0) (by decide +kernel)).mpr trivial⟩

end Controller

end Vcam
