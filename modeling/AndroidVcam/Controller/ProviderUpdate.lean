import AndroidVcam.Controller.RuntimeConfig

/-!
# Updating a provider

`provider_update` copies the `meta` file, filters and extends it, renames it into its place, writes
the three files of the camera and restarts a stream. A failed start puts the copy back. The steps in
between are not all checked.

* `Transactional`: a failure changes none of the four files, a success puts the new values into all;
* `Breaks`: the new fields or a line of the camera are cut off, or the stream does not start and the
  files of the camera were not those of the `meta` file;
* **`transactional_iff`**: an update is transactional exactly when it does not break;
* `cutAppend_loses_values`: an update without its fields is reported as done.
-/

namespace Vcam

open TextFile FileTree Shell List Script Option

namespace Controller

/-! ## Starting a stream -/

variable {env : Env} {oracle : Op → Outcome} {t : Tree} {id : Text}

/-- The stream gets as far as a frame with a byte in it. -/
def Starts (env : Env) (oracle : Op → Outcome) (t : Tree) (id : Text) (stream : Stream) : Prop :=
  env.runner = true ∧
    match stream.frame with
    | some content => Writable t (frameFile id "frame.rgb") ∧
        (oracle (.write (frameFile id "frame.rgb") content)).written content ≠ []
    | none => (oracle (.remove (frameFile id "frame.rgb"))).good = false ∧
        t.hasSize (frameFile id "frame.rgb") = true

variable {path text : Text} {t' t₄ : Tree} {name : String} {n : List Text}

theorem writable_of_hasSize (h : t.hasSize path = true) : Writable t path := by
  rw [Tree.hasSize, Option.any_eq_true] at h
  obtain ⟨content, hc, -⟩ := h
  exact writable_of_content hc

theorem hasSize_congr {t : Tree} (h : t'.content path = t.content path) :
    t'.hasSize path = t.hasSize path := by rw [Tree.hasSize, h, Tree.hasSize]

/-- The part of `start_provider` that spawns the runner and waits. -/
def launch (id : Text) (stream : Stream) : Script Unit := do
  exec_ (.touch (frameFile id "enabled"))
  exec_ (.write (stateFile id "stream.log") stream.log)
  exec_ (.write (stateFile id "stream.pid") (decimal stream.pid ++ ['\n']))

def launchNames : List Text := ["enabled", "stream.log", "stream.pid"]

theorem ofNames_launch (id : Text) (s : Stream) :
    (launch id s).Uses (OfNames id launchNames) := by
  refine .bind (uses_frame id rfl rfl (by decide) (by decide)) fun _ => ?_
  refine .bind (uses_state id rfl rfl (by decide) (by decide)) fun _ => ?_
  exact uses_state id rfl rfl (by decide) (by decide)

theorem head_ne {other : Text} (h : (location path).head? = some other) (hn : other ∉ n) :
    ∀ name ∈ n, (location path).head? ≠ some name :=
  fun _ hm he => hn (some.inj (h.symm.trans he) ▸ hm)

theorem head_frame (id : Text) (h : Proper name.toList) :
    name.toList ∉ n → ∀ other ∈ n, (location (frameFile id name)).head? ≠ some other :=
  head_ne (congrArg head? (location_frameFile id h))

theorem head_state (id : Text) (h : Proper name.toList) :
    name.toList ∉ n → ∀ other ∈ n, (location (stateFile id name)).head? ≠ some other :=
  head_ne (congrArg head? (location_stateFile id h))

/-- What is in the frame file after the runner was given its time. -/
theorem hasSize_launched (o : Op → Outcome) (t : Tree) (id : Text) (s : Stream)
    (hp : ∀ other ∈ launchNames, (location path).head? ≠ some other) :
    ((do
      exec_ (.remove path)
      launch id s
      writeIfAny path s.frame : Script Unit).run o t).tree.hasSize path = true ↔
      match s.frame with
      | some content => Writable t path ∧ (o (.write path content)).written content ≠ []
      | none => (o (.remove path)).good = false ∧ t.hasSize path = true := by
  have hd₁ : t.SameDirectories _ := @sameDirectories_exec (.remove path) rfl t (o (.remove path))
  have hr (h : Writable t path) := content_remove h (o (.remove path))
  simp only [tree_bind, run_exec_]
  generalize (exec t (.remove path) (o (.remove path))).1 = removed at hr hd₁ ⊢
  have hk := content_of_ofNames (ofNames_launch id s) hp o removed
  have hd₂ : removed.SameDirectories ((launch id s).run o removed).tree :=
    ((ofNames_launch id s).mono fun _ hop => hop.directories).sameDirectories removed
  generalize ((launch id s).run o removed).tree = launched at hk hd₂ ⊢
  have hd := hd₁.trans hd₂
  by_cases h : Writable t path
  · cases s.frame with
    | none =>
      change launched.hasSize _ = true ↔ _
      rw [hasSize_congr hk, Tree.hasSize, hr h]
      cases (o (.remove path)).good with
      | true => simp
      | false => simp [Tree.hasSize]
    | some content =>
      obtain ⟨t', hwri, hwr⟩ := exec_write (h.congr hd) content (o (.write path content))
      change (exec launched (.write path content) _).1.hasSize _ = true ↔ _
      rw [hwri, Tree.hasSize, hwr.content_self, any_some, Bool.not_eq_true',
        isEmpty_eq_false_iff]
      exact (and_iff_right h).symm
  · -- Where nothing can be written there is no frame, now or then.
    cases s.frame with
    | none =>
      refine iff_of_false (fun hs => ?_) fun hs => h (writable_of_hasSize hs.2)
      exact h ((writable_of_hasSize hs).congr hd.symm)
    | some content =>
      refine iff_of_false (fun hs => ?_) fun hw => h hw.1
      have hd₃ : launched.SameDirectories _ :=
        @sameDirectories_exec (.write path content) rfl launched (o (.write path content))
      exact h ((writable_of_hasSize hs).congr (hd.trans hd₃).symm)

/-- **A stream is reported as started exactly when it starts.** -/
theorem status_startStream (env : Env) (o : Op → Outcome) (t : Tree) (id : Text)
    (stream : Stream) :
    ((startStream env id stream).run o t).value.status = 0 ↔ Starts env o t id stream := by
  have hs : (do
      exec_ (.touch (stateFile id "autostart"))
      Script.call 503 (stopProvider id true) : Script Unit).Uses (OfNames id stopNames) :=
    .bind (uses_state id rfl rfl (by decide) (by decide)) fun _ =>
      .call ((ofNames_stopProvider id true).mono fun _ h => h.call 503)
  have hk := content_of_ofNames hs
    (head_frame id (by decide : Proper "frame.rgb") (by decide)) o t
  have hd := @Script.Uses.sameDirectories _ o _ (hs.mono fun _ hop => hop.directories) t
  rw [tree_bind, run_exec_] at hk hd
  rw [startStream]
  simp only [value_bind, run_exec_]
  generalize ((Script.call 503 (stopProvider id true)).run o _).tree = stopped at hk hd ⊢
  rw [Starts]
  cases env.runner with
  | false => exact iff_of_false (show ¬ 4 = 0 by decide) fun h => nomatch h.1
  | true =>
    have hl := hasSize_launched o stopped id stream
      (head_frame id (by decide : Proper "frame.rgb") (by decide))
    rw [hasSize_congr hk] at hl
    have hw : Writable stopped (frameFile id "frame.rgb") ↔
        Writable t (frameFile id "frame.rgb") := ⟨fun h => h.congr hd.symm, fun h => h.congr hd⟩
    simp only [hw] at hl
    rw [and_iff_right rfl, ← hl]
    simp only [Bool.not_true, Bool.false_eq_true, if_false, launch, value_bind,
      tree_bind, run_exec_, run_files]
    generalize ((writeIfAny (frameFile id "frame.rgb") stream.frame).run o _).tree = launched
    by_cases hsi : launched.hasSize (frameFile id "frame.rgb") = true
    · simp only [hsi, if_true]
      exact iff_of_true rfl trivial
    · simp only [hsi, Bool.false_eq_true, if_false, value_bind]
      exact iff_of_false (show ¬ 6 = 0 by decide) nofun

theorem Starts.congr {stream : Stream} (hd : t.SameDirectories t')
    (hf : t'.content (frameFile id "frame.rgb") = t.content (frameFile id "frame.rgb")) :
    Starts env oracle t' id stream ↔ Starts env oracle t id stream := by
  have hw : Writable t' (frameFile id "frame.rgb") ↔ Writable t (frameFile id "frame.rgb") :=
    ⟨fun h => h.congr hd.symm, fun h => h.congr hd⟩
  rw [Starts, Starts, hasSize_congr hf]
  simp only [hw]

/-! ## What an update is asked to do -/

def updateFields (values : ProviderValues) : List (String × Text) :=
  [("name_b64", values.nameB64), ("source_b64", values.sourceB64), ("fps", values.fps),
    ("max_width", values.maxWidth), ("max_height", values.maxHeight), ("view0", values.view0)] ++
    [("view1", values.view1)]

def newConfig (values : ProviderValues) : List (String × Text) :=
  cameraConfig values.fps values.maxWidth values.maxHeight values.view0 values.view1

structure NewValues (t : Tree) (id : Text) (values : ProviderValues) : Prop where
  fields : ∀ field ∈ updateFields values, metaValue t field.1 (stateFile id "meta") = field.2
  config : ∀ field ∈ newConfig values, Holds t (frameFile id field.1) field.2

structure Unchanged (t t' : Tree) (id : Text) : Prop where
  fields : t'.content (stateFile id "meta") = t.content (stateFile id "meta")
  config : ∀ name ∈ configNames, t'.content (frameFile id name) = t.content (frameFile id name)

/-- An update that fails changes nothing, and one that succeeds stores everything. -/
structure Transactional (env : Env) (oracle : Op → Outcome) (t : Tree) (id : Text)
    (values : ProviderValues) (started retried : Stream) : Prop where
  failed : ((providerUpdate env id values started retried).run oracle t).value.status ≠ 0 →
    Unchanged t ((providerUpdate env id values started retried).run oracle t).tree id
  done : ((providerUpdate env id values started retried).run oracle t).value.status = 0 →
    NewValues ((providerUpdate env id values started retried).run oracle t).tree id values

/-- A failure that changes none of the four files. -/
def Failed (t : Tree) (id : Text) (result : Reply × Tree) : Prop :=
  result.1.status ≠ 0 ∧ Unchanged t result.2 id

abbrev providerType (t : Tree) (id : Text) : Text := metaValue t "type" (stateFile id "meta")

structure Accepted (env : Env) (t : Tree) (id : Text) (values : ProviderValues) : Prop where
  valid : validId id = true
  there : providerExists t id = true
  user : isPhysical id = false
  checked : validValues env values = true
  source : ∃ source, env.base64 values.sourceB64 = some source ∧
    sourceMatches (providerType t id) source = true

section Operations

variable (env : Env) (id : Text)

abbrev backUp : Op := .copy (stateFile id "meta") (backupFile env id)

abbrev dropFields : Op :=
  .filter (dropKeys updateKeys) (stateFile id "meta") (updateFile env id)

abbrev addFields (values : ProviderValues) : Op :=
  .append (updateFile env id) (updateLines values)

abbrev moveUpdate : Op := .rename (updateFile env id) (stateFile id "meta")

abbrev putBack : Op := .copy (backupFile env id) (stateFile id "meta")

end Operations

structure Applies (env : Env) (oracle : Op → Outcome) (t : Tree) (id : Text)
    (values : ProviderValues) : Prop where
  accepted : Accepted env t id values
  backup : Writable t (backupFile env id)
  copied : oracle (backUp env id) = .ok
  draft : Writable t (updateFile env id)
  filtered : oracle (dropFields env id) = .ok
  renamed : oracle (moveUpdate env id) = .ok

def wasEnabled (t : Tree) (id : Text) : Bool :=
  t.isThere (frameFile id "enabled") || t.isThere (stateFile id "autostart")

/-- The provider is a stream that is on, and it does not start again. -/
structure StartFails (env : Env) (oracle : Op → Outcome) (t : Tree) (id : Text)
    (started : Stream) : Prop where
  pattern : providerType t id ≠ "pattern"
  image : providerType t id ≠ "image"
  enabled : wasEnabled t id = true
  fails : ¬ Starts env (Script.inCall oracle 401) t id started

def oldMeta (t : Tree) (id : Text) : Text := (t.content (stateFile id "meta")).getD []

/-- What a call of `write_runtime_config` puts into a file. -/
def configText (oracle : Op → Outcome) (id : Text) (field : String × Text) : Text :=
  (oracle (.write (frameFile id field.1) (field.2 ++ ['\n']))).written (field.2 ++ ['\n'])

/-- The copy does not come back whole, or the files of the camera are not those of the `meta` file
as the second call writes them. -/
def Unrestored (env : Env) (oracle : Op → Outcome) (t : Tree) (id : Text) : Prop :=
  (oracle (putBack env id)).written (oldMeta t id) ≠ oldMeta t id ∨
    ∃ field ∈ runtimeConfig (oldMeta t id), Writable t (frameFile id field.1) ∧
      t.content (frameFile id field.1) ≠ some (configText (Script.inCall oracle 405) id field)

/-- More than the last newline of the new fields is cut off, or the first call loses a line of the
camera. -/
def Incomplete (env : Env) (oracle : Op → Outcome) (t : Tree) (id : Text)
    (values : ProviderValues) : Prop :=
  (∃ n, oracle (addFields env id values) = .fails n ∧ n + 1 < (updateLines values).length) ∨
    ∃ field ∈ newConfig values, Lost (Script.inCall oracle 396) t (frameFile id field.1) field.2

def Breaks (env : Env) (oracle : Op → Outcome) (t : Tree) (id : Text) (values : ProviderValues)
    (started : Stream) : Prop :=
  Applies env oracle t id values ∧
    (StartFails env oracle t id started ∧ Unrestored env oracle t id ∨
      ¬ StartFails env oracle t id started ∧ Incomplete env oracle t id values)

/-! ## The checks -/

variable {values : ProviderValues} {started retried : Stream}

theorem run_providerUpdate_accepted (h : Accepted env t id values) :
    (providerUpdate env id values started retried).run oracle t =
      (applyUpdate env id (providerType t id) values started retried).run
        oracle t := by
  obtain ⟨source, hs, hm⟩ := h.source
  rw [providerUpdate, run_checked h.valid h.there h.user, h.checked, hs]
  simp only [Bool.not_true, Bool.false_eq_true, if_false, hm]

theorem run_providerUpdate_refused (h : ¬ Accepted env t id values) :
    ∃ reply : Reply, reply.status ≠ 0 ∧
      (providerUpdate env id values started retried).run oracle t = ⟨reply, t, []⟩ := by
  have hn (status : ℕ) (message : String) : (refuse (status + 1) message).status ≠ 0 := nofun
  rw [providerUpdate]
  by_cases hf : (validId id && providerExists t id) = true
  case neg => exact ⟨_, hn 1 "provider not found", run_unchecked (by simpa using hf)⟩
  obtain ⟨hv, ht⟩ := Bool.and_eq_true_iff.mp hf
  by_cases hp : isPhysical id = true
  · refine ⟨_, hn 2 "physical provider is read-only", ?_⟩
    rw [run_files_bind]
    simp only [hv, ht, hp]
    rfl
  have hu : isPhysical id = false := by simpa using hp
  rw [run_checked hv ht hu]
  by_cases hc : validValues env values = true
  case neg =>
    refine ⟨_, hn 1 "invalid provider update", ?_⟩
    rw [if_pos (by simpa using hc)]
    rfl
  rw [hc]
  cases hs : env.base64 values.sourceB64 with
  | none => exact ⟨_, hn 1 "", rfl⟩
  | some source =>
    refine ⟨_, hn 1 "source URL does not match provider type", ?_⟩
    have hm : sourceMatches (providerType t id) source = false := by
      by_contra hm
      exact h ⟨hv, ht, hu, hc, source, hs, by simpa using hm⟩
    simp only [Bool.not_true, Bool.false_eq_true, if_false, hm]
    rfl

theorem providerExists_user (h : isPhysical id = false) (t : Tree) : providerExists t id =
    (validId id && t.isFile (stateFile id "meta") && t.isDirectory (framePath id)) := by
  rw [isPhysical, Bool.or_eq_false_iff, beq_eq_false_iff_ne, beq_eq_false_iff_ne] at h
  rw [providerExists, if_neg h.1, if_neg h.2]

theorem Accepted.content (h : Accepted env t id values) :
    t.content (stateFile id "meta") = some (oldMeta t id) := by
  have ht := h.there
  rw [providerExists_user h.user, Bool.and_eq_true, Bool.and_eq_true, Tree.isFile,
    isSome_iff_exists] at ht
  obtain ⟨text, hte⟩ := ht.1.2
  rw [oldMeta, hte]
  rfl

/-! ## What stays -/

/-- Only files with these names have changed. -/
structure Keeps (names : List Text) (t t' : Tree) : Prop where
  directories : t.SameDirectories t'
  content : ∀ path, (∀ name ∈ names, (location path).head? ≠ some name) →
    t'.content path = t.content path

theorem Keeps.trans {t'' : Tree} (h : Keeps n t t')
    (h' : Keeps n t' t'') : Keeps n t t'' :=
  ⟨h.directories.trans h'.directories,
    fun path hp => (h'.content path hp).trans (h.content path hp)⟩

theorem Keeps.mono {more : List Text} (h : Keeps n t t')
    (hm : n ⊆ more) : Keeps more t t' :=
  ⟨h.directories, fun path hp => h.content path fun name hn => hp name (hm hn)⟩

theorem keeps_of_ofNames {α : Type} {s : Script α} (h : s.Uses (OfNames id n))
    (o : Op → Outcome) (t : Tree) :
    Keeps n t (s.run o t).tree :=
  ⟨(h.mono fun _ hop => hop.directories).sameDirectories t,
    fun _ hp => content_of_ofNames h hp o t⟩

theorem keeps_exec {op : Op} (h : OfNames id n op) (t : Tree)
    (o : Outcome) : Keeps n t (exec t op o).1 :=
  ⟨sameDirectories_exec h.directories t o,
    fun _ hp => content_exec h.directories (h.untouched hp) t o⟩

theorem keeps_of_exec {op : Op} {o : Outcome} {ok : Bool} (h : OfNames id n op)
    (he : exec t op o = (t', ok)) : Keeps n t t' := by
  have hk := keeps_exec h t o
  rwa [he] at hk

def backupName (env : Env) : Text := "meta.backup-" ++ decimal env.pid

def updateName (env : Env) : Text := "meta.new-" ++ decimal env.pid

theorem besideMeta_eq {suffix name : Text} (h : "meta".toList ++ suffix = name) (env : Env)
    (id : Text) : stateFile id "meta" ++ suffix ++ decimal env.pid =
      statePath id ++ '/' :: (name ++ decimal env.pid) := by
  rw [← h]
  simp only [stateFile, append_assoc, cons_append]

theorem backupFile_eq (env : Env) (id : Text) :
    backupFile env id = statePath id ++ '/' :: backupName env := besideMeta_eq (by decide) env id

theorem updateFile_eq (env : Env) (id : Text) :
    updateFile env id = statePath id ++ '/' :: updateName env := besideMeta_eq (by decide) env id

theorem proper_backupName (env : Env) : Proper (backupName env) :=
  (by decide : Proper "meta.backup-".toList).append (slash_notMem_decimal env.pid)

theorem proper_updateName (env : Env) : Proper (updateName env) :=
  (by decide : Proper "meta.new-").append (slash_notMem_decimal env.pid)

theorem head_backup (env : Env) (id : Text) :
    (location (backupFile env id)).head? = some (backupName env) := by
  rw [backupFile_eq, location_child (proper_backupName env)]
  rfl

theorem head_update (env : Env) (id : Text) :
    (location (updateFile env id)).head? = some (updateName env) := by
  rw [updateFile_eq, location_child (proper_updateName env)]
  rfl

theorem backupName_ne_updateName (env : Env) : backupName env ≠ updateName env := by
  intro h
  have hb : (backupName env).take 6 = "meta.b" :=
    (take_append_of_le_length (by decide)).trans (by decide)
  have hu : (updateName env).take 6 = "meta.n" :=
    (take_append_of_le_length (by decide)).trans (by decide)
  exact absurd (hb.symm.trans ((congrArg (List.take 6) h).trans hu)) (by decide)

def draftNames (env : Env) : List Text := [backupName env, updateName env]

theorem notMem_draftNames (env : Env) {name : Text} (h : name.take 5 ≠ "meta.") :
    name ∉ draftNames env := by
  have hb : (backupName env).take 5 = "meta." :=
    (take_append_of_le_length (by decide)).trans (by decide)
  have hu : (updateName env).take 5 = "meta." :=
    (take_append_of_le_length (by decide)).trans (by decide)
  rw [draftNames, mem_cons, mem_singleton]
  rintro (rfl | rfl)
  · exact h hb
  · exact h hu

theorem namedFile_backup (env : Env) (id : Text) :
    NamedFile id (draftNames env) (backupFile env id) :=
  ⟨backupName env, mem_cons_self, proper_backupName env, .inl (backupFile_eq env id)⟩

theorem namedFile_update (env : Env) (id : Text) :
    NamedFile id (draftNames env) (updateFile env id) :=
  ⟨updateName env, mem_cons_of_mem _ mem_cons_self, proper_updateName env,
    .inl (updateFile_eq env id)⟩

theorem Keeps.unchanged (h : Keeps n t t')
    (hn : ∀ name ∈ "meta" :: configNames, name.toList ∉ n) : Unchanged t t' id where
  fields := h.content _ (head_state id (by decide) (hn "meta" mem_cons_self))
  config := fun name hna => h.content _ (head_frame id (proper_of_mem_configNames hna)
    (hn name (mem_cons_of_mem _ hna)))

theorem Keeps.unchanged_of_drafts (h : Keeps (draftNames env) t t') :
    Unchanged t t' id :=
  h.unchanged fun name hn => notMem_draftNames env (by revert name; decide)

theorem backup_apart (env : Env) (id : Text) {dir : Path}
    (hp : location path = name.toList :: dir) (hn : name.toList.take 5 ≠ "meta.") :
    location path ≠ location (backupFile env id) := by
  intro h
  have hh := head_backup env id
  rw [← h, hp] at hh
  exact notMem_draftNames env hn (some.inj hh ▸ mem_cons_self)

theorem update_ne_meta (env : Env) (id : Text) :
    location (updateFile env id) ≠ location (stateFile id "meta") := by
  intro h
  have hh := head_update env id
  rw [h, location_stateFile id (by decide)] at hh
  exact notMem_draftNames env (by decide : "meta".toList.take 5 ≠ "meta.")
    (some.inj hh ▸ mem_cons_of_mem _ mem_cons_self)

/-! ## Before the new file is in its place -/

/-- **An update that does not get that far fails and changes nothing.** -/
theorem applyUpdate_failed (hac : Accepted env t id values)
    (h : ¬ Applies env oracle t id values) (type : Text) :
    Failed t id ((applyUpdate env id type values started retried).run oracle t).result := by
  have hb (op : Op) (hf : op.files = [backupFile env id]) (hd : op.directories = []) :
      OfNames id (draftNames env) op := .single hf hd (namedFile_backup env id)
  have hu (op : Op) (hf : op.files = [updateFile env id]) (hd : op.directories = []) :
      OfNames id (draftNames env) op := .single hf hd (namedFile_update env id)
  have hend {s : Script Reply} {t' : Tree} (hk : Keeps (draftNames env) t t')
      (hs : s.Uses (OfNames id (draftNames env))) (he : (s.run oracle t').value.status ≠ 0) :
      Failed t id (s.run oracle t').result :=
    ⟨he, (hk.trans (keeps_of_ofNames hs oracle t')).unchanged_of_drafts⟩
  rw [applyUpdate]
  refine check_cases (fun t₁ hco => ?_) fun t₁ hco => ?_
  · exact hend (keeps_of_exec (hb _ rfl rfl) hco) trivial (show 4 ≠ 0 by decide)
  have hc := keeps_of_exec (hb _ rfl rfl) hco
  obtain ⟨hw₁, hok₁⟩ := of_exec_copy (congrArg Prod.snd hco)
  rw [run_files_bind]
  refine check_cases (fun t₂ hfi => ?_) fun t₂ hfi => ?_
  · refine hend (hc.trans (keeps_of_exec (hu _ rfl rfl) hfi)) ?_ (show 4 ≠ 0 by decide)
    exact .bind (uses_exec_ (hb _ rfl rfl)) fun _ =>
      .bind (uses_exec_ (hu _ rfl rfl)) fun _ => trivial
  have hf := hc.trans (keeps_of_exec (hu _ rfl rfl) hfi)
  obtain ⟨hw₂, hok₂, -⟩ := of_exec_filter (update_ne_meta env id).symm (congrArg Prod.snd hfi)
  rw [result_exec_bind rfl]
  have ha := hf.trans (keeps_exec (hu (addFields env id values) rfl rfl) t₂
    (oracle (addFields env id values)))
  refine check_cases (fun t₄ hr => ?_) fun t₄ hr => ?_
  · have hs := exec_rename_failed (congrArg Prod.snd hr)
    rw [hr] at hs
    subst hs
    refine hend ha ?_ (show 4 ≠ 0 by decide)
    exact .bind (uses_exec_ (hb _ rfl rfl)) fun _ => trivial
  · -- The update has got into its place.
    obtain ⟨-, hok₃⟩ := of_exec_rename (congrArg Prod.snd hr)
    exact absurd ⟨hac, hw₁, hok₁, hw₂.congr hc.directories.symm, hok₂, hok₃⟩ h

/-! ## Behind the rename -/

def updatedMeta (env : Env) (oracle : Op → Outcome) (t : Tree) (id : Text)
    (values : ProviderValues) : Text :=
  dropKeys updateKeys (oldMeta t id) ++
    (oracle (addFields env id values)).written (updateLines values)

structure Updated (env : Env) (oracle : Op → Outcome) (t : Tree) (id : Text)
    (values : ProviderValues) (t' : Tree) : Prop where
  keeps : Keeps ("meta" :: draftNames env) t t'
  new : t'.content (stateFile id "meta") = some (updatedMeta env oracle t id values)
  backup : t'.content (backupFile env id) = some (oldMeta t id)

def finishUpdate (env : Env) (id type : Text) (enabled : Bool) (started retried : Stream) :
    Script Reply := do
  Script.call 396 (writeRuntimeConfig id)
  restartUpdated env id type (backupFile env id) enabled started retried

theorem result_applyUpdate {t₁ t₂ t₃ : Tree}
    (hc : exec t (backUp env id) (oracle (backUp env id)) = (t₁, true))
    (hf : exec t₁ (dropFields env id) (oracle (dropFields env id)) = (t₂, true))
    (ha : (exec t₂ (addFields env id values) (oracle (addFields env id values))).1 = t₃)
    (hr : exec t₃ (moveUpdate env id) (oracle (moveUpdate env id)) = (t₄, true)) (type : Text) :
    ((applyUpdate env id type values started retried).run oracle t).result =
      ((finishUpdate env id type (wasEnabled t₁ id) started retried).run oracle t₄).result := by
  rw [applyUpdate, result_check hc, run_files_bind, result_check hf,
    result_exec_bind ha, result_check hr, finishUpdate, wasEnabled]

theorem run_applyUpdate (h : Applies env oracle t id values) (type : Text) :
    ∃ t', Updated env oracle t id values t' ∧
      ((applyUpdate env id type values started retried).run oracle t).result =
        ((finishUpdate env id type (wasEnabled t id) started retried).run oracle t').result := by
  have hm := h.accepted.content
  have hs (name : String) (hp : Proper name.toList)
      (hn : name.toList.take 5 ≠ "meta.") :
      location (stateFile id name) ≠ location (backupFile env id) :=
    backup_apart env id (location_stateFile id hp) hn
  obtain ⟨t₁, hco, hc⟩ := exec_copy h.backup hm .ok
  obtain ⟨t₂, hfi, hf⟩ := exec_filter (h.draft.congr hc.directories)
    (update_ne_meta env id).symm ((hc.content_other
      (hs "meta" (by decide) (by decide))).trans hm)
    (dropKeys updateKeys) .ok
  obtain ⟨t₃, happ, ha⟩ := exec_append
    ((h.draft.congr hc.directories).congr hf.directories) (updateLines values)
    (oracle (addFields env id values))
  have hdi := (hc.directories.trans hf.directories).trans ha.directories
  obtain ⟨t₄, hre, hr⟩ := exec_rename ((writable_of_content hm).congr hdi)
    (update_ne_meta env id) ha.content_self
  have he : wasEnabled t₁ id = wasEnabled t id := by
    have hfr := hc.lookup_other (backup_apart env id
      (location_frameFile id (by decide : Proper "enabled")) (by decide))
    have hau := hc.lookup_other (hs "autostart" (by decide) (by decide))
    rw [wasEnabled, wasEnabled, Tree.isThere, Tree.isThere, Tree.isThere, Tree.isThere, hfr, hau]
  have hap : ((applyUpdate env id type values started retried).run oracle t).result = _ :=
    result_applyUpdate ((congrArg _ h.copied).trans hco) ((congrArg _ h.filtered).trans hfi)
    (congrArg Prod.fst happ) ((congrArg _ h.renamed).trans hre) type
  rw [he] at hap
  have hba : location (backupFile env id) ≠ location (stateFile id "meta") :=
    (hs "meta" (by decide) (by decide)).symm
  have hd : location (backupFile env id) ≠ location (updateFile env id) := by
    intro heq
    have hh := (head_backup env id).symm.trans ((congrArg head? heq).trans (head_update env id))
    exact backupName_ne_updateName env (some.inj hh)
  refine ⟨t₄, ⟨⟨hdi.trans hr.directories, fun path hpa => ?_⟩, ?_, ?_⟩, hap⟩
  · obtain ⟨hmp, hdp⟩ := forall_mem_cons.mp hpa
    obtain ⟨hb, hup⟩ := forall_mem_cons.mp hdp
    have hmn : location path ≠ location (stateFile id "meta") := fun e =>
      hmp (by rw [e, location_stateFile id (by decide)]; rfl)
    have hbn : location path ≠ location (backupFile env id) := fun e =>
      hb (by rw [e, head_backup])
    have hu : location path ≠ location (updateFile env id) := fun e =>
      hup _ mem_cons_self (by rw [e, head_update])
    rw [content_congr (hr.lookup_other hmn hu), ha.content_other hu,
      hf.content_other hu, hc.content_other hbn]
  · rw [hr.content_self, hf.content_self]
    rfl
  · rw [content_congr (hr.lookup_other hba hd), ha.content_other hd,
      hf.content_other hd, hc.content_self]
    rfl

/-! ## The new values -/

theorem updateLines_eq (v : ProviderValues) :
    updateLines v = fieldsText (updateFields v) := by
  simp only [updateLines, configLines, fieldsText, updateFields, cons_append, nil_append,
    flatMap_cons, flatMap_nil, append_nil, append_assoc]

theorem plainFields_of_valid (h : validValues env values = true) :
    PlainFields (updateFields values) ∧ values.fps ≠ [] ∧ values.maxWidth ≠ [] ∧
      values.maxHeight ≠ [] ∧ values.view0 ≠ [] ∧ values.view1 ≠ [] := by
  simp only [validValues, validSourceConfig, Bool.and_eq_true] at h
  obtain ⟨⟨⟨⟨hna, hs⟩, hc⟩, hvi⟩, hv⟩ := h
  split_ifs at hc with hn
  obtain ⟨⟨hfps, hw⟩, hh⟩ := hn
  refine ⟨⟨?_, ?_⟩, (number_of_valid hfps).1, (number_of_valid hw).1, (number_of_valid hh).1,
    (view_of_valid hvi).1, (view_of_valid hv).1⟩
  · simp only [updateFields, cons_append, nil_append, forall_mem_cons]
    decide
  · simp only [updateFields, cons_append, nil_append, forall_mem_cons]
    exact ⟨newline_notMem_of_validBase64 hna, newline_notMem_of_validBase64 hs,
      (number_of_valid hfps).2, (number_of_valid hw).2, (number_of_valid hh).2,
      (view_of_valid hvi).2, (view_of_valid hv).2, nofun⟩

theorem nodup_updateFields (v : ProviderValues) :
    ((updateFields v).map Prod.fst).Nodup := by
  change ["name_b64", "source_b64", "fps", "max_width", "max_height", "view0", "view1"].Nodup
  decide

theorem fst_mem_updateKeys {f : String × Text} (h : f ∈ updateFields values) :
    f.1 ∈ updateKeys := by
  have hk : (updateFields values).map Prod.fst ⊆ updateKeys := by
    change ["name_b64", "source_b64", "fps", "max_width", "max_height", "view0", "view1"] ⊆ updateKeys
    decide
  exact hk (mem_map_of_mem h)

/-- **All fields have their new values exactly when at most the last newline is missing.** -/
theorem fields_iff (h : validValues env values = true) (old : Text) (o : Outcome) :
    (∀ field ∈ updateFields values, sedValue field.1
      (dropKeys updateKeys old ++ o.written (updateLines values)) = field.2) ↔
      ∀ n, o = .fails n → (updateLines values).length ≤ n + 1 := by
  obtain ⟨hp, -, -, -, -, hla⟩ := plainFields_of_valid h
  have hno := nodup_updateFields values
  rw [updateLines_eq]
  cases o with
  | ok =>
    refine iff_of_true (fun field hf => ?_) nofun
    rw [sedValue_dropKeys_of_mem (fst_mem_updateKeys hf)]
    exact sedValue_fieldsText hp hno hf
  | fails n =>
    rw [Outcome.written]
    constructor
    · intro hfi k hk
      obtain rfl := Outcome.fails.inj hk
      have hv := hfi ("view1", values.view1) (mem_append_right _ mem_cons_self)
      rw [sedValue_dropKeys_of_mem (show "view1" ∈ updateKeys by decide)] at hv
      exact (sedValue_cut_iff hp hno hla n).mp hv
    · intro hn field hf
      rw [sedValue_dropKeys_of_mem (fst_mem_updateKeys hf), sedValue_eq]
      have hl := getlines_uncut_fields hp (hn n rfl)
      rw [← updateFields] at hl
      rw [hl, findSome?_fieldLines hp.keys hno hf]
      rfl

theorem runtimeConfig_of_fields (h : validValues env values = true)
    (hf : ∀ field ∈ updateFields values, sedValue field.1 text = field.2) :
    runtimeConfig text = newConfig values := by
  obtain ⟨-, hfps, hw, hh, hvw, hvi⟩ := plainFields_of_valid h
  have hv (key fallback : String) (value : Text) (hfi : (key, value) ∈ updateFields values)
      (hne : value ≠ []) : valueOr text key fallback = value := by
    have hsed : sedValue key text = value := hf (key, value) hfi
    rw [valueOr, hsed, if_neg (by rwa [List.isEmpty_iff])]
  rw [runtimeConfig, newConfig, hv "fps" _ values.fps (by simp [updateFields]) hfps,
    hv "max_width" _ values.maxWidth (by simp [updateFields]) hw,
    hv "max_height" _ values.maxHeight (by simp [updateFields]) hh,
    hv "view0" _ values.view0 (by simp [updateFields]) hvw,
    hv "view1" _ values.view1 (by simp [updateFields]) hvi]

theorem newConfig_line (h : validValues env values = true) {f : String × Text}
    (hf : f ∈ newConfig values) : '\n' ∉ f.2 ∧ f.2 ≠ [] := by
  obtain ⟨hp, -, -, -, hvw, hvi⟩ := plainFields_of_valid h
  have hv (key : String) (value : Text) (hmem : (key, value) ∈ updateFields values) :
      '\n' ∉ value := hp.values (key, value) hmem
  have hfps := hv "fps" values.fps (by simp [updateFields])
  have hw := hv "max_width" values.maxWidth (by simp [updateFields])
  have hh := hv "max_height" values.maxHeight (by simp [updateFields])
  simp only [newConfig, cameraConfig, mem_cons, not_mem_nil, or_false] at hf
  rcases hf with rfl | rfl | rfl
  · refine ⟨?_, by simp⟩
    simp only [mem_append, mem_cons, not_or]
    exact ⟨⟨hfps, by decide, hw⟩, by decide, hh⟩
  · exact ⟨hv "view0" values.view0 (by simp [updateFields]), hvw⟩
  · exact ⟨hv "view1" values.view1 (by simp [updateFields]), hvi⟩

theorem type_updatedMeta (h : Accepted env t id values) (o : Op → Outcome) :
    sedValue "type" (updatedMeta env o t id values) =
      providerType t id := by
  obtain ⟨source, -, hm⟩ := h.source
  have ht : providerType t id =
      ((getlines (oldMeta t id)).findSome? (lineValue "type")).getD [] := sedValue_eq _ _
  cases hf : (getlines (oldMeta t id)).findSome? (lineValue "type") with
  | none =>
    -- No source fits a provider without a type.
    rw [hf] at ht
    rw [ht] at hm
    exact absurd hm (by simp [sourceMatches])
  | some type =>
    rw [ht, hf, getD_some]
    exact sedValue_dropKeys_of_notMem (by decide) (by decide) (by decide) hf _

/-! ## Restarting -/

structure Configured (env : Env) (oracle : Op → Outcome) (t : Tree) (id text backup : Text)
    (t' : Tree) : Prop where
  directories : t.SameDirectories t'
  new : t'.content (stateFile id "meta") = some text
  backup : t'.content (backupFile env id) = some backup
  config : ∀ field ∈ runtimeConfig text, Writable t (frameFile id field.1) →
    t'.content (frameFile id field.1) = some (configText oracle id field)

theorem head_backup_notMem (env : Env) (id : Text)
    (h : ∀ name ∈ n, name.take 5 ≠ "meta.") :
    ∀ name ∈ n, (location (backupFile env id)).head? ≠ some name := by
  intro name hn heq
  rw [head_backup] at heq
  exact notMem_draftNames env (h name hn) (some.inj heq ▸ mem_cons_self)

theorem configured_writeLines {b : Text} (hd : t.SameDirectories t₄)
    (hnew : t₄.content (stateFile id "meta") = some text)
    (hb : t₄.content (backupFile env id) = some b) :
    Configured env oracle t id text b
      ((writeRuntimeConfig id).run oracle t₄).tree := by
  rw [run_writeRuntimeConfig hnew]
  have hk := keeps_of_ofNames (ofNames_writeConfig id text) oracle t₄
  refine ⟨hd.trans hk.directories, ?_, ?_, fun field hf hw => ?_⟩
  · exact (hk.content _ (head_state id (by decide) (by decide))).trans hnew
  · exact (hk.content _ (head_backup_notMem env id (by decide))).trans hb
  · have hp : ∀ field ∈ runtimeConfig text, Proper field.1.toList := fun field hf =>
      proper_of_mem_configNames (fst_of_mem_runtimeConfig hf)
    exact content_writeLines hp (show configNames.Nodup by decide) hf (hw.congr hd)

theorem Configured.keeps {t₅ t' : Tree} {text backup : Text}
    (h : Configured env oracle t id text backup t₅) (hk : Keeps startNames t₅ t') :
    Configured env oracle t id text backup t' where
  directories := h.directories.trans hk.directories
  new := (hk.content _ (head_state id (by decide) (by decide))).trans h.new
  backup := (hk.content _ (head_backup_notMem env id (by decide))).trans h.backup
  config := fun field hf hw =>
    have hn := fst_of_mem_runtimeConfig hf
    (hk.content _ (head_frame id (proper_of_mem_configNames hn)
      ((by decide : ∀ name ∈ configNames, name.toList ∉ startNames) _ hn))).trans
      (h.config field hf hw)

section Restart

variable {o : Op → Outcome} {t₅ : Tree} {text backup : Text}

/-- The end of an update, for a provider with these files before it. -/
abbrev restarted (env : Env) (t : Tree) (id : Text) (started retried : Stream) : Script Reply :=
  restartUpdated env id (providerType t id) (backupFile env id) (wasEnabled t id) started retried

theorem keeps_removeBackup (t : Tree) (o : Outcome) :
    Keeps (draftNames env ++ startNames) t (exec t (.remove (backupFile env id)) o).1 :=
  (keeps_exec (.single rfl rfl (namedFile_backup env id)) t o).mono (subset_append_left _ _)

section Restarting

variable (ha : Accepted env t id values) (h : Configured env o t id text backup t₅)
  (hf : t₅.content (frameFile id "frame.rgb") = t.content (frameFile id "frame.rgb"))
  (ht : sedValue "type" text = providerType t id)

include ha h hf ht

/-- The stream of an accepted update is reported as started exactly when it starts. -/
theorem status_restart (hp : providerType t id ≠ "pattern")
    (hi : providerType t id ≠ "image") (stream : Stream) :
    ((startProvider env id stream).run oracle t₅).value.status = 0 ↔
      Starts env oracle t id stream := by
  have ht₅ : metaValue t₅ "type" (stateFile id "meta") = providerType t id := by
    rw [metaValue, h.new]
    exact ht
  have ht := ha.there
  rw [providerExists_user ha.user, Bool.and_eq_true, Bool.and_eq_true] at ht
  have he : providerExists t₅ id = true := by
    rw [providerExists_user ha.user, ha.valid, Tree.isFile, h.new,
      isDirectory_congr h.directories, ht.2]
    rfl
  rw [startProvider, run_checked ha.valid he ha.user]
  dsimp only
  rw [ht₅, if_neg hp, if_neg hi, status_startStream, Starts.congr h.directories hf]

/-- The stream is stopped and started in two calls. -/
theorem restart_started (oracle : Op → Outcome) (hp : providerType t id ≠ "pattern")
    (hi : providerType t id ≠ "image") (started : Stream) :
    let restart := (startProvider env id started).run (Script.inCall oracle 401)
      ((stopProvider id false).run (Script.inCall oracle 400) t₅).tree
    Keeps startNames t₅ restart.tree ∧
      (restart.value.status = 0 ↔ Starts env (Script.inCall oracle 401) t id started) := by
  have hs := keeps_of_ofNames (ofNames_stopProvider id false) (Script.inCall oracle 400) t₅
  have hfr := hs.content (frameFile id "frame.rgb") (head_frame id (by decide) (by decide))
  have hst : Keeps startNames t₅ _ := hs.mono (subset_append_left _ _)
  refine ⟨hst.trans (keeps_of_ofNames (ofNames_startProvider env id started) _ _), ?_⟩
  exact status_restart ha (h.keeps hst) (hfr.trans hf) ht hp hi started

/-- What happens between the lines of the camera and the answer, when the update is done. -/
theorem restart_done (hstarts : ¬ StartFails env oracle t id started) :
    let result := ((restarted env t id started retried).run oracle t₅).result
    result.1.status = 0 ∧ Keeps (draftNames env ++ startNames) t₅ result.2 := by
  rw [restarted, restartUpdated]
  split_ifs with hsi
  · exact ⟨rfl, keeps_removeBackup t₅ _⟩
  rw [not_or, not_or, Bool.not_eq_true, Bool.not_eq_false'] at hsi
  obtain ⟨hp, hi, he⟩ := hsi
  obtain ⟨hk, hst⟩ := restart_started ha h hf ht oracle hp hi started
  have hz := hst.mpr (by_contra fun hn => hstarts ⟨hp, hi, he, hn⟩)
  rw [result_bind, tree_call, result_bind, value_call,
    tree_call, if_neg (not_not.mpr hz)]
  exact ⟨rfl, (hk.mono (subset_append_right _ _)).trans (keeps_removeBackup _ _)⟩

theorem restart_failed (hsf : StartFails env oracle t id started) :
    let result := ((restarted env t id started retried).run oracle t₅).result
    result.1.status ≠ 0 ∧ ∃ t₉, Keeps (draftNames env ++ startNames) t₉ result.2 ∧
      Configured env (Script.inCall oracle 405) t id
        ((oracle (putBack env id)).written backup) backup t₉ := by
  have hsi : ¬ (providerType t id = "pattern" ∨
      providerType t id = "image" ∨ (!wasEnabled t id) = true) := by
    rw [not_or, not_or, hsf.enabled]
    exact ⟨hsf.pattern, hsf.image, by decide⟩
  obtain ⟨hk, hst⟩ := restart_started ha h hf ht oracle hsf.pattern hsf.image started
  have hs := h.keeps hk
  rw [restarted, restartUpdated, if_neg hsi, result_bind, tree_call,
    result_bind, value_call, tree_call, if_pos fun hz => hsf.fails (hst.mp hz)]
  generalize ((startProvider env id started).run (Script.inCall oracle 401) _).tree = t₇ at hs ⊢
  generalize ((startProvider env id started).run (Script.inCall oracle 401) _).value = reply
  -- The copy comes back, and the lines of the camera are written again.
  have hm : location (backupFile env id) ≠ location (stateFile id "meta") :=
    (backup_apart env id (location_stateFile id (by decide : Proper "meta"))
      (by decide)).symm
  obtain ⟨t₈, hcp, hc⟩ := exec_copy (writable_of_content hs.new) hs.backup (oracle (putBack env id))
  have hco : Configured env (Script.inCall oracle 405) t id
      ((oracle (putBack env id)).written backup) backup
      ((writeRuntimeConfig id).run (Script.inCall oracle 405) t₈).tree :=
    configured_writeLines (hs.directories.trans hc.directories) hc.content_self
      ((hc.content_other hm).trans hs.backup)
  rw [result_exec_bind (congrArg Prod.fst hcp), result_bind, tree_call,
    result_bind, tree_call]
  refine ⟨show 6 ≠ 0 by decide, _, Keeps.trans ?_ (keeps_removeBackup _ _), hco⟩
  exact (keeps_of_ofNames (ofNames_startProvider env id retried) _ _).mono
    (subset_append_right _ _)

end Restarting

theorem notMem_markers (env : Env) {name : String} (h : name ∈ "meta" :: configNames) :
    name.toList ∉ draftNames env ++ startNames := by
  rw [mem_append, not_or]
  refine ⟨notMem_draftNames env ?_, ?_⟩
  · revert name
    decide
  · revert name
    decide

variable {t' : Tree}

theorem Configured.of_keeps (h : Configured env oracle t id text backup t₅)
    (hk : Keeps (draftNames env ++ startNames) t₅ t') :
    t'.content (stateFile id "meta") = some text ∧ ∀ field ∈ runtimeConfig text,
      Writable t (frameFile id field.1) →
        t'.content (frameFile id field.1) = some (configText oracle id field) := by
  refine ⟨?_, fun field hf hw => ?_⟩
  · have hme := notMem_markers env (mem_cons_self : "meta" ∈ "meta" :: configNames)
    exact (hk.content _ (head_state id (by decide) hme)).trans h.new
  · have hn := fst_of_mem_runtimeConfig hf
    have hm := notMem_markers env (mem_cons_of_mem "meta" hn)
    exact (hk.content _ (head_frame id (proper_of_mem_configNames hn) hm)).trans
      (h.config field hf hw)

/-- **The new values are all there exactly when the update is complete.** -/
theorem newValues_iff (ha : Accepted env t id values)
    (h : Configured env (Script.inCall oracle 396) t id (updatedMeta env oracle t id values)
      backup t₅) (hk : Keeps (draftNames env ++ startNames) t₅ t') :
    NewValues t' id values ↔ ¬ Incomplete env oracle t id values := by
  obtain ⟨hm, hc⟩ := h.of_keeps hk
  have hd := h.directories.trans hk.directories
  have hv (key : String) : metaValue t' key (stateFile id "meta") =
      sedValue key (updatedMeta env oracle t id values) := by
    rw [metaValue, hm]
    rfl
  have hfi := fields_iff ha.checked (oldMeta t id) (oracle (addFields env id values))
  rw [← updatedMeta] at hfi
  -- The lines of the camera are the new ones as soon as the fields are there.
  have hl (hnew : ∀ field ∈ updateFields values,
      sedValue field.1 (updatedMeta env oracle t id values) = field.2)
      (field : String × Text) (hf : field ∈ newConfig values) :
      Holds t' (frameFile id field.1) field.2 ↔
        ¬ Lost (Script.inCall oracle 396) t (frameFile id field.1) field.2 := by
    obtain ⟨hli, hne⟩ := newConfig_line ha.checked hf
    refine holds_iff hli hne hd (hc field ?_)
    rwa [runtimeConfig_of_fields ha.checked hnew]
  rw [Incomplete, not_or, not_exists, not_exists]
  simp only [not_and, not_lt]
  constructor
  · intro hnew
    have hsed : ∀ field ∈ updateFields values,
        sedValue field.1 (updatedMeta env oracle t id values) = field.2 := fun field hf =>
      (hv field.1).symm.trans (hnew.fields field hf)
    exact ⟨hfi.mp hsed, fun field hf => (hl hsed field hf).mp (hnew.config field hf)⟩
  · rintro ⟨hw, hke⟩
    have hsed := hfi.mpr hw
    exact ⟨fun field hf => (hv field.1).trans (hsed field hf),
      fun field hf => (hl hsed field hf).mpr (hke field hf)⟩

/-- **Everything is as it was exactly when the copy and the lines of the camera are back.** -/
theorem unchanged_iff (ha : Accepted env t id values)
    (h : Configured env (Script.inCall oracle 405) t id
      ((oracle (putBack env id)).written (oldMeta t id)) backup t₅)
    (hk : Keeps (draftNames env ++ startNames) t₅ t') :
    Unchanged t t' id ↔ ¬ Unrestored env oracle t id := by
  obtain ⟨hm, hc⟩ := h.of_keeps hk
  have hd := h.directories.trans hk.directories
  rw [Unrestored, not_or, not_not, not_exists]
  simp only [not_and, not_not]
  constructor
  · intro hu
    have hco := hu.fields
    rw [hm, ha.content] at hco
    have hwh := some.inj hco
    rw [hwh] at hc
    refine ⟨hwh, fun field hf hw => ?_⟩
    rw [← hu.config field.1 (fst_of_mem_runtimeConfig hf)]
    exact hc field hf hw
  · rintro ⟨hwh, hl⟩
    rw [hwh] at hm hc
    refine ⟨hm.trans ha.content.symm, fun name hna => ?_⟩
    have hmem : name ∈ (runtimeConfig (oldMeta t id)).map Prod.fst := hna
    obtain ⟨field, hf, rfl⟩ := mem_map.mp hmem
    by_cases hw : Writable t (frameFile id field.1)
    · exact (hc field hf hw).trans (hl field hf hw).symm
    · -- There was no such file, and there is none.
      have hn {s : Tree} (hs : t.SameDirectories s) : s.content (frameFile id field.1) = none := by
        by_contra hso
        obtain ⟨content, hcn⟩ := ne_none_iff_exists'.mp hso
        exact hw ((writable_of_content hcn).congr hs.symm)
      rw [hn hd, hn (.refl t)]

end Restart

/-! ## Updates are transactional or broken -/

theorem Updated.frame (o : Op → Outcome) (h : Updated env oracle t id values t₄) :
    ((writeRuntimeConfig id).run o t₄).tree.content (frameFile id "frame.rgb") =
      t.content (frameFile id "frame.rgb") := by
  have hn : "frame.rgb".toList ∉ "meta".toList :: draftNames env := by
    rw [mem_cons, not_or]
    exact ⟨by decide, notMem_draftNames env (by decide)⟩
  have hk := keeps_of_ofNames (ofNames_writeConfig id (updatedMeta env oracle t id values)) o t₄
  rw [run_writeRuntimeConfig h.new]
  exact (hk.content _ (head_frame id (by decide) (by decide))).trans
    (h.keeps.content _ (head_frame id (by decide) hn))

/-- **An update is transactional exactly when it does not break**, whatever fails. -/
theorem transactional_iff (env : Env) (oracle : Op → Outcome) (t : Tree) (id : Text)
    (values : ProviderValues) (started retried : Stream) :
    Transactional env oracle t id values started retried ↔
      ¬ Breaks env oracle t id values started := by
  by_cases ha : Accepted env t id values
  case neg =>
    obtain ⟨reply, hs, hrun⟩ :=
      @run_providerUpdate_refused env oracle t id values started retried ha
    refine iff_of_true ⟨fun _ => ?_, fun hz => ?_⟩ fun hb => ha hb.1.accepted
    · rw [hrun]
      exact ⟨rfl, fun _ _ => rfl⟩
    · rw [hrun] at hz
      exact absurd hz hs
  have hrun := @run_providerUpdate_accepted env oracle t id values started retried ha
  by_cases hap : Applies env oracle t id values
  case neg =>
    obtain ⟨hs, hun⟩ := @applyUpdate_failed env oracle t id values started retried
      ha hap (providerType t id)
    rw [← hrun] at hs hun
    exact iff_of_true ⟨fun _ => hun, fun hz => absurd hz hs⟩
      fun hb => hap hb.1
  obtain ⟨t₄, hu, hr⟩ := @run_applyUpdate env oracle t id values started retried hap
    (providerType t id)
  rw [finishUpdate, result_bind, tree_call] at hr
  have hc : Configured env (Script.inCall oracle 396) t id (updatedMeta env oracle t id values)
      (oldMeta t id) ((writeRuntimeConfig id).run (Script.inCall oracle 396) t₄).tree :=
    configured_writeLines hu.keeps.directories hu.new hu.backup
  have hfr := hu.frame (Script.inCall oracle 396)
  have hty := type_updatedMeta ha oracle
  generalize ((writeRuntimeConfig id).run (Script.inCall oracle 396) t₄).tree = t₅ at hr hc hfr
  have hres : ((providerUpdate env id values started retried).run oracle t).result =
      ((restarted env t id started retried).run oracle t₅).result := (congrArg _ hrun).trans hr
  by_cases hf : StartFails env oracle t id started
  · obtain ⟨hs, t₉, hk, hre⟩ := @restart_failed env oracle t id values started retried _
      t₅ _ _ ha hc hfr hty hf
    rw [← hres] at hs hk
    have hb : Breaks env oracle t id values started ↔ Unrestored env oracle t id := by
      rw [Breaks, and_iff_right hap]
      simp only [hf, true_and, not_true_eq_false, false_and, or_false]
    rw [hb, ← unchanged_iff ha hre hk]
    exact ⟨fun h => h.failed hs, fun h => ⟨fun _ => h, fun hz => absurd hz hs⟩⟩
  · obtain ⟨hs, hk⟩ := @restart_done env oracle t id values started retried _ t₅ _ _
      ha hc hfr hty hf
    rw [← hres] at hs hk
    have hb : Breaks env oracle t id values started ↔ Incomplete env oracle t id values := by
      rw [Breaks, and_iff_right hap]
      simp only [hf, false_and, not_false_eq_true, true_and, false_or]
    rw [hb, ← newValues_iff ha hc hk]
    exact ⟨fun h => h.done hs, fun h => ⟨fun hne => absurd hs hne, fun _ => h⟩⟩

/-! ## A disk that is full -/

def patternTree : Tree := buildTree
  [.mkdir "/data/adb/android_vcam/providers/desk",
    .write "/data/adb/android_vcam/providers/desk/meta" "type=pattern\nfps=15\n",
    .mkdir "/data/vendor/camera/vcam/providers/desk"]

def patternEnv : Env := { plainEnv with base64 := fun _ => some [] }

def patternValues : ProviderValues where
  nameB64 := []
  sourceB64 := []
  fps := "30"
  maxWidth := "1280"
  maxHeight := "720"
  view0 := "0,1000,500,500"
  view1 := "0,1000,500,500"

def fullDisk : Op → Outcome
  | .append _ _ => .fails 0
  | _ => .ok

def silentStream : Stream := ⟨4712, none, []⟩

/-- The update is reported as done, and the frame rate is gone. -/
theorem cutAppend_loses_values :
    ¬ Transactional patternEnv fullDisk patternTree "desk" patternValues silentStream
      silentStream := by
  intro h
  have hd : ((providerUpdate patternEnv "desk" patternValues silentStream
      silentStream).run fullDisk patternTree).value.status = 0 := by decide +kernel
  have hfps := (h.done hd).fields ("fps", "30") (by simp [updateFields, patternValues])
  exact absurd hfps (by decide +kernel)

end Controller

end Vcam
