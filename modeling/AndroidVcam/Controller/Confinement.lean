import AndroidVcam.Controller.Footprint
import AndroidVcam.Controller.RouteRemoval
import AndroidVcam.Daemon.ControlDaemon

/-!
# Paths that stay inside the directory of a provider

Provider IDs become path components. `valid_id` lets `.` and `..` through, and `stop_provider` is
called without any check of the ID, so a request can work on files outside every provider.

* `Within`, `Confined`: the places below the directory of one provider, and the operations there;
* `AdmittedRequest`: what the control daemon passes on;
* `Request.Escapes`: the requests that leave the directories, by their arguments and the files
  before them;
* **`confined_iff`**: all other requests stay inside.
-/

namespace Vcam

open TextFile FileTree Shell List Script

namespace Controller

/-! ## Confinement -/

/-- So many components or more below one of the two directories of providers. -/
def Within (depth : ℕ) (place : Path) : Prop :=
  ∃ base ∈ [location providerStateDir, location providerFrameDir],
    base <:+ place ∧ base.length + depth ≤ place.length

instance (depth : ℕ) (place : Path) : Decidable (Within depth place) :=
  decidableBEx (fun base => base <:+ place ∧ base.length + depth ≤ place.length)
    [location providerStateDir, location providerFrameDir]

/-- Every file that the operation creates, writes, removes or reads a process ID from, and whose path
is built from an ID, lies in the directory of a provider; every directory is one or lies in one. -/
structure Confined (op : Op) : Prop where
  files : ∀ path ∈ op.files, Derived path → Within 2 (location path)
  directories : ∀ path ∈ op.directories, Derived path → Within 1 (location path)

variable {id : Text} {op : Op}

theorem within_cons {d : ℕ} {name : Text} {place : Path} :
    Within (d + 1) (name :: place) ↔ Within d place := by
  refine exists_congr fun base => and_congr_right fun _ => ?_
  rw [length_cons]
  constructor
  · rintro ⟨hs, hl⟩
    rcases suffix_cons_iff.mp hs with rfl | hs
    · rw [length_cons] at hl
      omega
    · exact ⟨hs, by omega⟩
  · rintro ⟨hs, hl⟩
    exact ⟨suffix_cons_iff.mpr (.inr hs), by omega⟩

theorem within_child {d : ℕ} {dir name : Text} (hn : Proper name) :
    Within (d + 1) (location (dir ++ '/' :: name)) ↔ Within d (location dir) := by
  rw [location_child hn, within_cons]

theorem within_statePath (hid : Proper id) : Within 1 (location (statePath id)) :=
  (within_child hid).mpr ⟨_, mem_cons_self, suffix_refl _, le_rfl⟩

theorem within_framePath (hid : Proper id) : Within 1 (location (framePath id)) :=
  (within_child hid).mpr ⟨_, mem_cons_of_mem _ mem_cons_self, suffix_refl _, le_rfl⟩

theorem derived_statePath (rest : Text) : Derived (statePath id ++ rest) :=
  .inl ⟨id ++ rest, by simp [statePath]⟩

theorem derived_framePath (rest : Text) : Derived (framePath id ++ rest) :=
  .inr ⟨id ++ rest, by simp [framePath]⟩

theorem ProviderFile.within {path : Text} (h : ProviderFile id path) :
    Derived path ∧ ((Within 2 (location path) ↔ Within 1 (location (statePath id))) ∨
      (Within 2 (location path) ↔ Within 1 (location (framePath id)))) := by
  obtain ⟨name, hn, rfl | rfl⟩ := h
  · exact ⟨derived_statePath _, .inl (within_child hn)⟩
  · exact ⟨derived_framePath _, .inr (within_child hn)⟩

theorem confined_of_elsewhere (h : Elsewhere op) : Confined op where
  files := fun path hm hd => absurd hd (h path (mem_append_left _ hm))
  directories := fun path hm hd => absurd hd (h path (mem_append_right _ hm))

theorem confined_of_ofProvider (hs : Within 1 (location (statePath id)))
    (hf : Within 1 (location (framePath id))) (h : OfProvider id op) : Confined op where
  files := fun path hm _ => by
    rcases (h.files path hm).within.2 with hiff | hiff
    · exact hiff.mpr hs
    · exact hiff.mpr hf
  directories := by
    rw [h.directories]
    exact nofun

theorem not_confined_of_ofProvider (hs : ¬Within 1 (location (statePath id)))
    (hf : ¬Within 1 (location (framePath id))) (h : OfProvider id op) : ¬Confined op := by
  obtain ⟨path, rest, hfi⟩ := exists_cons_of_ne_nil h.ne_nil
  have hm : path ∈ op.files := hfi ▸ mem_cons_self
  obtain ⟨hd, hw⟩ := (h.files path hm).within
  intro hc
  rcases hw with hiff | hiff
  · exact hs (hiff.mp (hc.files path hm hd))
  · exact hf (hiff.mp (hc.files path hm hd))

def AllConfined (events : List Script.Event) : Prop := ∀ event ∈ events, Confined event.op

/-! ## IDs -/

def Dots (id : Text) : Prop := id = ['.'] ∨ id = ['.', '.']

instance (id : Text) : Decidable (Dots id) := inferInstanceAs (Decidable (_ ∨ _))

theorem proper_of_validId (hid : validId id = true) (hd : ¬Dots id) : Proper id where
  ne_nil := (validName_iff.mp hid).1
  ne_dot := fun e => hd (.inl e)
  ne_dots := fun e => hd (.inr e)
  slash := notMem_of_validName hid (by decide)

theorem Dots.not_within (h : Dots id) :
    ¬Within 1 (location (statePath id)) ∧ ¬Within 1 (location (framePath id)) := by
  rcases h with rfl | rfl <;> decide +kernel

theorem Dots.valid (h : Dots id) : validId id = true ∧ isPhysical id = false := by
  rcases h with rfl | rfl <;> decide

variable {oracle : Op → Outcome} {t : Tree}

/-- A command on the files of one provider that checks its ID first. -/
theorem allConfined_iff {s : Script Reply} (hu : s.Uses (OfProvider id))
    (hi : validId id = false → (s.run oracle t).events = []) :
    AllConfined (s.run oracle t).events ↔ ¬(Dots id ∧ (s.run oracle t).events ≠ []) := by
  have he : ∀ event ∈ (s.run oracle t).events, OfProvider id event.op := hu.events t
  by_cases hd : Dots id
  · obtain ⟨hs, hf⟩ := hd.not_within
    rw [and_iff_right hd, not_not]
    refine ⟨fun h => eq_nil_iff_forall_not_mem.mpr fun event hm => ?_, fun h => ?_⟩
    · exact not_confined_of_ofProvider hs hf (he event hm) (h event hm)
    · rw [h]
      exact nofun
  · refine iff_of_true (fun event hm => ?_) fun h => hd h.1
    cases hid : validId id with
    | false =>
      rw [hi hid] at hm
      cases hm
    | true =>
      have hp := proper_of_validId hid hd
      exact confined_of_ofProvider (within_statePath hp) (within_framePath hp)
        (he event hm)

/-! ## Which commands get as far as an operation -/

section Reaches

variable {env : Env}

theorem events_checked (hid : Dots id) {p : Reply} {body : Tree → Script Reply} {reached : Prop}
    (h : ((body t).run oracle t).events ≠ [] ↔ reached) :
    (Script.run oracle (do
      let files ← Script.files
      if !(validId id && providerExists files id) then return refuse 2 "provider not found"
      else if isPhysical id then return p
      else body files) t).events ≠ [] ↔ providerExists t id = true ∧ reached := by
  cases he : providerExists t id with
  | false =>
    rw [run_unchecked (by rw [he, Bool.and_false])]
    exact iff_of_false (not_not.mpr rfl) fun h => Bool.false_ne_true h.1
  | true => rw [run_checked hid.valid.1 he hid.valid.2, and_iff_right rfl, h]

/-- `start_provider` starts something. -/
def startReaches (t : Tree) (id : Text) : Prop := providerExists t id = true ∧
  (metaValue t "type" (stateFile id "meta") = "image" →
    t.isFile (frameFile id "frame.rgb") = true)

instance (t : Tree) (id : Text) : Decidable (startReaches t id) :=
  inferInstanceAs (Decidable (_ ∧ _))

theorem events_startProvider (hid : Dots id) (s : Stream) :
    ((startProvider env id s).run oracle t).events ≠ [] ↔ startReaches t id := by
  have hm (text : String) : ((do
      markStarted id
      return say text : Script Reply).run oracle t).events ≠ [] :=
    events_bind_ne_nil (events_perform_ne_nil _ _)
  rw [startProvider, startReaches]
  refine events_checked hid ?_
  dsimp only
  by_cases hp : metaValue t "type" (stateFile id "meta") = "pattern"
  · rw [if_pos hp, hp]
    exact iff_of_true (hm _) fun h => absurd h (by decide)
  rw [if_neg hp]
  by_cases hi : metaValue t "type" (stateFile id "meta") = "image"
  · rw [if_pos hi]
    cases t.isFile (frameFile id "frame.rgb") with
    | false => exact iff_of_false (not_not.mpr rfl) fun h => Bool.false_ne_true (h hi)
    | true => exact iff_of_true (hm _) fun _ => rfl
  · rw [if_neg hi]
    exact iff_of_true (events_bind_ne_nil (events_perform_ne_nil _ _))
      fun h => absurd h hi

/-- `provider_config_set` gets to its first file. -/
def configReaches (env : Env) (t : Tree) (id fps maxWidth maxHeight view0 view1 : Text) : Prop :=
  providerExists t id = true ∧ (validSourceConfig env fps maxWidth maxHeight && validView env view0 &&
    validView env view1) = true

theorem events_providerConfigSet (hid : Dots id) (fps mw mh v view1 : Text) :
    ((providerConfigSet env id fps mw mh v view1).run oracle t).events ≠ [] ↔
      configReaches env t id fps mw mh v view1 := by
  rw [providerConfigSet, configReaches]
  refine events_checked hid ?_
  cases (validSourceConfig env fps mw mh && validView env v &&
    validView env view1) with
  | false => exact iff_of_false (not_not.mpr rfl) Bool.false_ne_true
  | true => exact iff_of_true (events_perform_ne_nil _ _) rfl

/-- `provider_update` gets to its first file. -/
def updateReaches (env : Env) (t : Tree) (id : Text) (values : ProviderValues) : Prop :=
  providerExists t id = true ∧ validValues env values = true ∧
    ∃ source, env.base64 values.sourceB64 = some source ∧
      sourceMatches (metaValue t "type" (stateFile id "meta")) source = true

theorem events_providerUpdate (hid : Dots id) (values : ProviderValues) (s r : Stream) :
    ((providerUpdate env id values s r).run oracle t).events ≠ [] ↔
      updateReaches env t id values := by
  rw [providerUpdate, updateReaches]
  refine events_checked hid ?_
  cases validValues env values with
  | false => exact iff_of_false (not_not.mpr rfl) fun h => Bool.false_ne_true h.1
  | true =>
    rw [and_iff_right rfl, if_neg (by decide)]
    cases env.base64 values.sourceB64 with
    | none => exact iff_of_false (not_not.mpr rfl) fun ⟨_, h, _⟩ => Option.some_ne_none _ h.symm
    | some source =>
      dsimp only
      cases hm : sourceMatches (metaValue t "type" (stateFile id "meta")) source with
      | false =>
        refine iff_of_false (not_not.mpr rfl) fun ⟨_, h, h'⟩ => ?_
        rw [← Option.some.inj h, hm] at h'
        cases h'
      | true =>
        exact iff_of_true (events_perform_ne_nil _ _) ⟨source, rfl, hm⟩

/-- `import_provider_media` gets to its first file. -/
def importReaches (t : Tree) (id : Text) : Prop :=
  providerExists t id = true ∧ metaValue t "type" (stateFile id "meta") = "video"

theorem events_importProviderMedia (hid : Dots id) (i : Bytes) :
    ((importProviderMedia id i).run oracle t).events ≠ [] ↔ importReaches t id := by
  rw [importProviderMedia, importReaches]
  refine events_checked hid ?_
  split_ifs with ht
  · exact iff_of_false (not_not.mpr rfl) ht
  · exact iff_of_true (events_perform_ne_nil _ _) (not_not.mp ht)

/-- `publish_provider_stdin` gets to its first file. -/
def publishReaches (env : Env) (t : Tree) (id : Text) (input : Bytes) : Prop :=
  providerExists t id = true ∧ env.publisher = true ∧
    ∀ status, FramePublisher.readFrame input ≠ .refused status

theorem status_of_refused {i : Bytes} {s : ℕ}
    (h : FramePublisher.readFrame i = .refused s) : s ≠ 0 := by
  rw [FramePublisher.readFrame] at h
  split_ifs at h
  · cases h
    decide
  · split at h
    · cases h
      decide
    · dsimp only at h
      split_ifs at h
      cases h
      decide

theorem Dots.publisherMain (h : Dots id) (input : Bytes) :
    FramePublisher.publisherMain (frameFile id "frame.rgb") input =
      FramePublisher.publishFrames (frameFile id "frame.rgb")
        (frameFile id "frame.rgb" ++ ".new") (input.length + 1) input := by
  rw [FramePublisher.publisherMain, if_neg, if_neg]
  · rcases h with rfl | rfl <;> decide +kernel
  · rcases h with rfl | rfl <;> decide +kernel

theorem events_publishProviderStdin (hid : Dots id) (input : Bytes) :
    ((publishProviderStdin env id input).run oracle t).events ≠ [] ↔
      publishReaches env t id input := by
  rw [publishProviderStdin, publishReaches]
  refine events_checked hid ?_
  cases env.publisher with
  | false => exact iff_of_false (not_not.mpr rfl) fun h => Bool.false_ne_true h.1
  | true =>
    rw [and_iff_right rfl, if_neg (by decide), hid.publisherMain, FramePublisher.publishFrames]
    cases hr : FramePublisher.readFrame input with
    | finished =>
      refine iff_of_true (events_perform_ne_nil _ _) fun status h => ?_
      cases h
    | refused status =>
      have hs := status_of_refused hr
      refine iff_of_false ?_ fun h => h status rfl
      dsimp only
      rw [events_bind, run_pure, if_pos hs]
      exact not_not.mpr rfl
    | truncated =>
      refine iff_of_true (events_bind_ne_nil (events_perform_ne_nil _ _)) ?_
      intro status h
      cases h
    | frame bytes rest =>
      refine iff_of_true (events_bind_ne_nil (events_perform_ne_nil _ _)) ?_
      intro status h
      cases h

end Reaches

/-! ## Adding, stopping and removing -/

section AddStopRemove

variable {env : Env}

theorem Dots.isThere (h : Dots id) (hp : (prepareDirs.run oracle t).value = true) :
    (prepareDirs.run oracle t).tree.isThere (statePath id) = true := by
  have hdir := prepared_directories t hp providerStateDir (by decide +kernel)
  have hpl : Plain providerStateDir := by decide +kernel
  have hr := Tree.resolve_plain hpl (by rw [hdir]; exact Option.some_ne_none _)
  have hc : components id = [id] := by rcases h with rfl | rfl <;> decide
  have he : (prepareDirs.run oracle t).tree.node (enter (location providerStateDir) id) =
      some .directory := by
    rcases h with rfl | rfl
    · exact hdir
    · exact Tree.node_tail_of_directory hdir
  rw [Tree.isThere, Tree.lookup, statePath, Tree.resolve_slash, hr, Option.bind_some,
    hc, Tree.walk, if_pos hdir, Tree.walk, Option.bind_some, he]
  rfl

theorem confined_directory {path : Text} (hop : op.files = []) (hp : op.directories = [path])
    (h : Within 1 (location path)) : Confined op where
  files := by
    rw [hop]
    exact nofun
  directories := by
    rw [hp]
    exact forall_mem_singleton.mpr fun _ => h

theorem confined_addProvider (type nameB64 sourceB64 : Text) (t : Tree) :
    AllConfined ((addProvider id type nameB64 sourceB64).run oracle t).events := by
  have hp : prepareDirs.Uses Confined :=
    elsewhere_prepareDirs.mono fun _ => confined_of_elsewhere
  cases hid : validId id with
  | false =>
    rw [addProvider, hid]
    exact nofun
  | true =>
    by_cases hd : Dots id
    · -- The ID is refused because the directory of all providers is already there.
      rw [addProvider, hid, hd.valid.2, if_neg (by decide), if_neg (by decide)]
      split_ifs
      · exact nofun
      · exact nofun
      · rw [events_bind]
        refine forall_mem_append.mpr ⟨hp.events t, ?_⟩
        cases hpre : (prepareDirs.run oracle t).value with
        | false => exact nofun
        | true =>
          rw [if_neg (by decide), events_bind, run_files]
          dsimp only
          rw [if_pos (hd.isThere hpre)]
          exact nofun
    · have hpr := proper_of_validId hid hd
      have hs := within_statePath hpr
      have hf := within_framePath hpr
      have hfi {op : Op} (h : OfProvider id op) : Confined op :=
        confined_of_ofProvider hs hf h
      refine Script.Uses.events (P := Confined) ?_ t
      refine uses_ite trivial (uses_ite trivial (uses_ite trivial ?_))
      refine uses_ite trivial (.bind hp fun _ => uses_ite trivial ?_)
      refine .bind uses_files fun _ => uses_ite trivial (.bind ?_ fun _ => ?_)
      · refine .bind (uses_status (confined_directory rfl rfl hs)) fun _ => .bind ?_ ?_
        · exact .bind (uses_status (confined_directory rfl rfl hf)) fun _ =>
            .bind trivial fun _ => trivial
        · exact fun _ => trivial
      · refine uses_ite trivial (.bind (uses_exec_ (hfi ?_)) fun _ => ?_)
        · exact .single rfl rfl (providerFile_state id "meta" (by decide))
        · exact .bind ((ofProvider_writeRuntimeConfig id).mono fun _ => hfi) fun _ => trivial

theorem events_stopProvider (id : Text) : ∃ enabled autostart,
    ⟨.remove (frameFile id "enabled"), enabled⟩ ∈ ((stopProvider id false).run oracle t).events ∧
    ⟨.remove (stateFile id "autostart"), autostart⟩ ∈
      ((stopProvider id false).run oracle t).events := by
  rw [stopProvider, events_bind, events_bind, events_bind, run_exec_,
    run_exec_, if_neg Bool.false_ne_true, run_exec_]
  exact ⟨_, _, mem_append_right _ (mem_append_left _ mem_cons_self),
    mem_append_right _ (mem_append_right _ (mem_append_right _ mem_cons_self))⟩

theorem confined_stopProvider (id : Text) (t : Tree) :
    AllConfined ((stopProvider id false).run oracle t).events ↔
      Within 1 (location (statePath id)) ∧ Within 1 (location (framePath id)) := by
  constructor
  · intro h
    obtain ⟨enabled, autostart, he, ha⟩ := @events_stopProvider oracle t id
    have hf := (h _ he).files _ mem_cons_self (derived_framePath _)
    have hs := (h _ ha).files _ mem_cons_self (derived_statePath _)
    exact ⟨(within_child (by decide)).mp hs, (within_child (by decide)).mp hf⟩
  · rintro ⟨hs, hf⟩ event hm
    exact confined_of_ofProvider hs hf ((ofProvider_stopProvider id false).events t event hm)

theorem confined_removeProvider (id : Text) (t : Tree) :
    AllConfined ((removeProvider env id).run oracle t).events ↔
      ¬(Dots id ∧ t.isDirectory (statePath id) = true) := by
  cases hr : removable t id with
  | false =>
    rw [(refused_removeProvider hr).2]
    refine iff_of_true nofun fun ⟨hd, hdi⟩ => ?_
    rw [removable, hd.valid.1, hd.valid.2, hdi] at hr
    cases hr
  | true =>
    rw [run_removeProvider hr, removal, events_bind]
    by_cases hd : Dots id
    · have hdi : t.isDirectory (statePath id) = true := by
        rwa [removable, hd.valid.1, hd.valid.2] at hr
      refine iff_of_false (fun h => ?_) (not_not.mpr ⟨hd, hdi⟩)
      obtain ⟨hs, -⟩ := (confined_stopProvider id t).mp fun event hm =>
        h event (mem_append_left _ hm)
      exact hd.not_within.1 hs
    · refine iff_of_true ?_ fun h => hd h.1
      have hp := proper_of_validId (validId_of_removable hr) hd
      have hs := within_statePath hp
      have hf := within_framePath hp
      refine forall_mem_append.mpr
        ⟨(confined_stopProvider id t).mpr ⟨hs, hf⟩, Script.Uses.events (P := Confined) ?_ _⟩
      refine .bind ((elsewhere_updateRoutes _ _).mono fun _ => confined_of_elsewhere) fun _ => ?_
      refine .bind (uses_exec_ (confined_directory rfl rfl hs)) fun _ => ?_
      exact .bind (uses_exec_ (confined_directory rfl rfl hf)) fun _ => trivial

end AddStopRemove

/-! ## Previews -/

section Previews

variable {env : Env} {d : Text}

theorem confined_previewFile (h : Within 1 (location d)) {name : Text} (hn : Proper name)
    (c : Text) : Confined (.write (d ++ '/' :: name) c) where
  files := forall_mem_singleton.mpr fun _ => (within_child hn).mpr h
  directories := nofun

theorem confined_writePreview (h : Within 1 (location d)) {name : Text} (hn : Proper name)
    (c : Option Text) : (writePreview (d ++ '/' :: name) c).Uses Confined := by
  cases c with
  | none => trivial
  | some c => exact uses_status (confined_previewFile h hn c)

theorem confined_previewStream (h : Within 1 (location d)) (type : Text) (p : Preview) :
    (previewStream env type d p).Uses Confined := by
  have hw (name : String) (hn : Proper name.toList) (content : Option Text) :=
    confined_writePreview h hn content
  refine .bind (uses_status (confined_directory rfl rfl h)) fun _ => uses_ite trivial ?_
  refine .bind ?_ fun _ => uses_ite trivial (.bind ?_ fun _ => uses_ite trivial ?_)
  · refine uses_ite ?_ (uses_ite ?_ trivial)
    · exact hw "source.media" (by decide) _
    · exact hw "ca-bundle.pem" (by decide) _
  · exact hw "frame.rgb" (by decide) _
  · refine .bind uses_files fun _ => uses_ite trivial (.bind ?_ fun _ => ?_)
    · exact hw "preview.rgb" (by decide) _
    · exact uses_ite trivial trivial

theorem confined_previewThumbnail (h : Within 1 (location d)) (p : Preview) :
    (previewThumbnail env d p).Uses Confined := by
  refine .bind (uses_status (confined_directory rfl rfl h)) fun _ => uses_ite trivial ?_
  have hn : Proper "frame.rgb" := by decide
  refine .bind (confined_writePreview h hn _) fun _ => ?_
  refine uses_ite trivial (.bind uses_files fun _ => uses_ite trivial trivial)

theorem within_preview {stem : Text} (hs : Proper stem) (pid : ℕ) :
    Within 1 (location (providerFrameDir ++ '/' :: (stem ++ decimal pid))) :=
  within_framePath (hs.append (slash_notMem_decimal pid))

theorem confined_previewSource (type sourceB64 : Text) (p : Preview) :
    (previewSource env type sourceB64 p).Uses Confined := by
  have hw : Within 1 (location (previewDirectory env)) :=
    within_preview (by decide) env.pid
  refine uses_ite trivial (uses_ite trivial ?_)
  split
  · trivial
  · refine uses_ite trivial (.bind ?_ fun _ => uses_ite trivial ?_)
    · exact elsewhere_prepareDirs.mono fun _ => confined_of_elsewhere
    · refine uses_ite trivial (uses_ite trivial (.bind ?_ fun _ => .bind ?_ ?_))
      · exact confined_previewStream hw type p
      · exact uses_exec_ (confined_directory rfl rfl hw)
      · exact fun _ => trivial

theorem confined_providerFrame (id : Text) (p : Preview) :
    (providerFrame env id p).Uses Confined := by
  have hw : Within 1 (location (framePreviewDirectory env)) :=
    within_preview (by decide) env.pid
  refine .bind uses_files fun _ => uses_ite trivial (uses_ite trivial ?_)
  refine uses_ite trivial (uses_ite trivial (.bind ?_ fun _ => .bind ?_ ?_))
  · exact confined_previewThumbnail hw p
  · exact uses_exec_ (confined_directory rfl rfl hw)
  · exact fun _ => trivial

end Previews

/-! ## All requests -/

/-- A command that the control daemon knows, with as many arguments and as much payload as its rule
allows. -/
structure AdmittedRequest where
  command : Text
  arguments : List Text
  input : Bytes
  admitted : ∃ rule ∈ Daemon.kRules, textBytes command = rule.name ∧
    rule.admits ⟨command.length, arguments.length, input.length⟩

def AdmittedRequest.parsed (request : AdmittedRequest) : Request :=
  .parse request.command request.arguments request.input

def AdmittedRequest.script (request : AdmittedRequest) (env : Env) (programs : Programs) :
    Script Reply := vcamctl env programs request.command request.arguments request.input

/-- The requests that leave the directories of providers: `provider-stop` with an ID that leads out of
them, and the others with `.` or `..` for an ID when all their checks are passed. -/
def Request.Escapes (env : Env) (t : Tree) : Request → Prop
  | stopProvider id =>
    ¬(Within 1 (location (statePath id)) ∧ Within 1 (location (framePath id)))
  | removeProvider id => Dots id ∧ t.isDirectory (statePath id) = true
  | startProvider id => Dots id ∧ startReaches t id
  | providerUpdate id values => Dots id ∧ updateReaches env t id values
  | publishProviderStdin id input => Dots id ∧ publishReaches env t id input
  | importProviderMedia id _ => Dots id ∧ importReaches t id
  | providerConfigSet id fps maxWidth maxHeight view0 view1 =>
    Dots id ∧ configReaches env t id fps maxWidth maxHeight view0 view1
  | _ => False

theorem confined_request (env : Env) (p : Programs) (t : Tree) (r : Request) :
    AllConfined ((r.script env p).run oracle t).events ↔ ¬r.Escapes env t := by
  have he {script : Script Reply} (h : script.Uses Elsewhere) :
      AllConfined (script.run oracle t).events := fun event hm =>
    confined_of_elsewhere (h.events t event hm)
  have hi {id : Text} (h : validId id = false) : (validId id && providerExists t id) = false := by
    rw [h, Bool.false_and]
  cases r with
  | status => exact iff_of_true nofun not_false
  | capabilities => exact iff_of_true (he (elsewhere_printCapabilities _)) not_false
  | diagnostics => exact iff_of_true nofun not_false
  | providers => exact iff_of_true (he elsewhere_listProviders) not_false
  | addProvider id type nameB64 sourceB64 =>
    exact iff_of_true (confined_addProvider type nameB64 sourceB64 t) not_false
  | removeProvider id => exact confined_removeProvider id t
  | startProvider id =>
    refine (allConfined_iff (ofProvider_startProvider env id _) fun h => ?_).trans ?_
    · rw [startProvider, run_unchecked (hi h)]
    · exact not_congr (and_congr_right fun hid => events_startProvider hid _)
  | stopProvider id =>
    rw [Request.Escapes, not_not, ← confined_stopProvider id t, Request.script, events_bind,
      run_pure, append_nil]
  | previewSource type sourceB64 =>
    exact iff_of_true ((confined_previewSource type sourceB64 _).events t) not_false
  | providerFrame id => exact iff_of_true ((confined_providerFrame id _).events t) not_false
  | providerUpdate id values =>
    refine (allConfined_iff (ofProvider_providerUpdate env id values _ _) fun h => ?_).trans ?_
    · rw [providerUpdate, run_unchecked (hi h)]
    · exact not_congr (and_congr_right fun hid => events_providerUpdate hid values _ _)
  | publishProviderStdin id input =>
    refine (allConfined_iff (ofProvider_publishProviderStdin env id input) fun h => ?_).trans ?_
    · rw [publishProviderStdin, run_unchecked (hi h)]
    · exact not_congr (and_congr_right fun hid => events_publishProviderStdin hid input)
  | importProviderMedia id input =>
    refine (allConfined_iff (ofProvider_importProviderMedia id input) fun h => ?_).trans ?_
    · rw [importProviderMedia, run_unchecked (hi h)]
    · exact not_congr (and_congr_right fun hid => events_importProviderMedia hid input)
  | providerConfig id => exact iff_of_true (he (elsewhere_providerConfig id)) not_false
  | providerConfigSet id fps maxWidth maxHeight view0 view1 =>
    refine (allConfined_iff (ofProvider_providerConfigSet env id fps maxWidth maxHeight view0 view1)
      fun h => ?_).trans ?_
    · rw [providerConfigSet, run_unchecked (hi h)]
    · exact not_congr (and_congr_right fun hid =>
        events_providerConfigSet hid fps maxWidth maxHeight view0 view1)
  | routes => exact iff_of_true (he elsewhere_listRoutes) not_false
  | setRoute package target provider =>
    exact iff_of_true (he (elsewhere_setRoute env package target provider)) not_false
  | removeRoute package target =>
    exact iff_of_true (he (elsewhere_removeRoute env package target)) not_false
  | saveRoutes package provider0 provider1 =>
    exact iff_of_true (he (elsewhere_saveRoutes env package provider0 provider1)) not_false
  | enableRouting => exact iff_of_true (he elsewhere_enableRouting) not_false
  | disableRouting => exact iff_of_true (he (elsewhere_disableRouting env)) not_false
  | usage => exact iff_of_true nofun not_false

/-- **Which requests stay inside the directory of a provider**, for all files, arguments, payloads and
failing operations. -/
theorem confined_iff (env : Env) (programs : Programs) (oracle : Op → Outcome) (t : Tree)
    (request : AdmittedRequest) :
    AllConfined ((request.script env programs).run oracle t).events ↔
      ¬request.parsed.Escapes env t := confined_request env programs t request.parsed

def stopOutside : AdmittedRequest where
  command := "provider-stop"
  arguments := ["../.."]
  input := []
  admitted := by decide

def noPrograms : Programs := ⟨⟨1, none, []⟩, ⟨1, none, []⟩, ⟨none, none, none, none⟩, none⟩

/-- A device with a file two directories above the providers. -/
def outsideFile : Tree :=
  buildTree [.mkdir providerStateDir, .mkdir providerFrameDir,
    .touch "/data/vendor/camera/enabled"]

/-- Stopping `../..` removes a file outside every provider. -/
theorem stopOutside_not_confined :
    outsideFile.isFile "/data/vendor/camera/enabled" = true ∧
    ((stopOutside.script plainEnv noPrograms).run noFailure outsideFile).tree.isThere
      "/data/vendor/camera/enabled" = false ∧
    ¬AllConfined ((stopOutside.script plainEnv noPrograms).run noFailure outsideFile).events := by
  refine ⟨by decide +kernel, by decide +kernel, fun h => ?_⟩
  have hp : stopOutside.parsed = .stopProvider "../.." := rfl
  have hi := (confined_request plainEnv noPrograms outsideFile stopOutside.parsed).mp h
  rw [hp, Request.Escapes, not_not] at hi
  revert hi
  decide +kernel

end Controller

end Vcam
