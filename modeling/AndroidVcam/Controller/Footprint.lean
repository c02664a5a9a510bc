import AndroidVcam.Controller.Providers

/-!
# Which files a command works on

The commands about one provider build all their paths from its ID. Whatever the ID is, the files of
such a command are direct children of the two directories of the provider, and the other commands
stay away from the directories of all providers.

* `ProviderFile`: a file in a directory of a provider; `Derived`: a path below one of the two
  directories of providers;
* `OfProvider`, `Elsewhere`: the operations on the files of one provider, and those on no provider's.
-/

namespace Vcam

open TextFile FileTree Shell List Script

namespace Controller

/-! ## Files of a provider -/

/-- A file directly in one of the two directories of a provider. -/
def ProviderFile (id path : Text) : Prop := ∃ name, Proper name ∧
  (path = statePath id ++ '/' :: name ∨ path = framePath id ++ '/' :: name)

/-- A path text that starts with `$PROVIDER_STATE_DIR/` or `$PROVIDER_FRAME_DIR/`. -/
def Derived (path : Text) : Prop :=
  providerStateDir ++ ['/'] <+: path ∨ providerFrameDir ++ ['/'] <+: path

structure OfProvider (id : Text) (op : Op) : Prop where
  files : ∀ path ∈ op.files, ProviderFile id path
  ne_nil : op.files ≠ []
  directories : op.directories = []

def Elsewhere (op : Op) : Prop := ∀ path ∈ op.files ++ op.directories, ¬Derived path

variable {id : Text}

theorem location_stateFile (id : Text) {name : String} (h : Proper name.toList) :
    location (stateFile id name) = name.toList :: location (statePath id) := location_child h _

theorem location_frameFile (id : Text) {name : String} (h : Proper name.toList) :
    location (frameFile id name) = name.toList :: location (framePath id) := location_child h _

theorem providerFile_state (id : Text) (name : String) (h : Proper name.toList) :
    ProviderFile id (stateFile id name) := ⟨name.toList, h, .inl rfl⟩

theorem providerFile_frame (id : Text) (name : String) (h : Proper name.toList) :
    ProviderFile id (frameFile id name) := ⟨name.toList, h, .inr rfl⟩

theorem ProviderFile.append {path : Text} (h : ProviderFile id path) (more : Text)
    (hm : '/' ∉ more) :
    ProviderFile id (path ++ more) := by
  obtain ⟨name, hn, rfl | rfl⟩ := h
  · exact ⟨name ++ more, hn.append hm, .inl (append_assoc ..)⟩
  · exact ⟨name ++ more, hn.append hm, .inr (append_assoc ..)⟩

theorem OfProvider.single {op : Op} {path : Text} (hf : op.files = [path])
    (hd : op.directories = []) (h : ProviderFile id path) : OfProvider id op where
  files := fun _ hm => mem_singleton.mp (hf ▸ hm) ▸ h
  ne_nil := by
    rw [hf]
    exact cons_ne_nil _ _
  directories := hd

theorem OfProvider.rename {s path : Text} (hs : ProviderFile id s)
    (hp : ProviderFile id path) : OfProvider id (.rename s path) where
  files := forall_mem_cons.mpr ⟨hs, forall_mem_singleton.mpr hp⟩
  ne_nil := cons_ne_nil _ _
  directories := rfl

theorem OfProvider.call {op : Op} (h : OfProvider id op) (line : ℕ) :
    OfProvider id (.call line op) := ⟨h.files, h.ne_nil, h.directories⟩

/-! ## Files by name -/

/-- A file of a provider with one of these names. -/
def NamedFile (id : Text) (names : List Text) (path : Text) : Prop := ∃ name ∈ names, Proper name ∧
  (path = statePath id ++ '/' :: name ∨ path = framePath id ++ '/' :: name)

/-- An operation on files of one provider with these names. -/
structure OfNames (id : Text) (names : List Text) (op : Op) : Prop where
  files : ∀ path ∈ op.files, NamedFile id names path
  ne_nil : op.files ≠ []
  directories : op.directories = []

section Names

variable {n : List Text} {op : Op}

theorem namedFile_state (id : Text) (name : String) (h : Proper name.toList)
    (hn : name.toList ∈ n) : NamedFile id n (stateFile id name) :=
  ⟨name.toList, hn, h, .inl rfl⟩

theorem namedFile_frame (id : Text) (name : String) (h : Proper name.toList)
    (hn : name.toList ∈ n) : NamedFile id n (frameFile id name) :=
  ⟨name.toList, hn, h, .inr rfl⟩

theorem OfNames.single {path : Text} (hf : op.files = [path])
    (hd : op.directories = []) (h : NamedFile id n path) : OfNames id n op where
  files := fun _ hm => mem_singleton.mp (hf ▸ hm) ▸ h
  ne_nil := by
    rw [hf]
    exact cons_ne_nil _ _
  directories := hd

theorem uses_state (id : Text) {name : String} (hf : op.files = [stateFile id name])
    (hd : op.directories = []) (h : Proper name.toList) (hn : name.toList ∈ n) :
    (exec_ op).Uses (OfNames id n) := uses_exec_ (.single hf hd (namedFile_state id name h hn))

theorem uses_frame (id : Text) {name : String} (hf : op.files = [frameFile id name])
    (hd : op.directories = []) (h : Proper name.toList) (hn : name.toList ∈ n) :
    (exec_ op).Uses (OfNames id n) := uses_exec_ (.single hf hd (namedFile_frame id name h hn))

theorem OfNames.call (h : OfNames id n op) (line : ℕ) : OfNames id n (.call line op) :=
  ⟨h.files, h.ne_nil, h.directories⟩

theorem OfNames.ofProvider (h : OfNames id n op) : OfProvider id op where
  files := fun path hpa =>
    let ⟨name, _, hp, heq⟩ := h.files path hpa
    ⟨name, hp, heq⟩
  ne_nil := h.ne_nil
  directories := h.directories

theorem OfNames.mono {more : List Text} (h : OfNames id n op) (hm : n ⊆ more) :
    OfNames id more op where
  files := fun path hp =>
    let ⟨name, hn, heq⟩ := h.files path hp
    ⟨name, hm hn, heq⟩
  ne_nil := h.ne_nil
  directories := h.directories

theorem OfNames.untouched (h : OfNames id n op) {place : Path}
    (hpl : ∀ name ∈ n, place.head? ≠ some name) : ¬op.touches place := by
  intro ht
  obtain ⟨path, hpa, rfl⟩ := Op.touches_files h.directories ht
  obtain ⟨name, hn, hp, rfl | rfl⟩ := h.files path hpa
  · exact hpl name hn (by rw [location_child hp]; rfl)
  · exact hpl name hn (by rw [location_child hp]; rfl)

theorem content_of_ofNames {α : Type} {s : Script α} (h : s.Uses (OfNames id n)) {path : Text}
    (hp : ∀ name ∈ n, (location path).head? ≠ some name) (o : Op → Outcome)
    (t : Tree) : (s.run o t).tree.content path = t.content path :=
  Script.Uses.content_eq (h.mono fun _ hop => ⟨hop.directories, hop.untouched hp⟩) t

end Names

def stopNames : List Text :=
  ["stream.pid", "enabled", "frame.rgb.new", "autostart"]

def startNames : List Text := stopNames ++ ["frame.rgb".toList, "stream.log".toList]

/-! ## Commands about one provider -/

section OneProvider

variable (env : Env) (id : Text)

theorem ofProvider_writeRuntimeConfig : (writeRuntimeConfig id).Uses (OfProvider id) := by
  have hf (name : String) (h : Proper name.toList) (content : Text) :
      OfProvider id (.write (frameFile id name) content) :=
    .single rfl rfl (providerFile_frame id name h)
  refine .bind uses_files fun files => ?_
  refine .bind (uses_exec_ (hf "source.cfg" (by decide) _)) fun _ => ?_
  refine .bind (uses_exec_ (hf "view-0.cfg" (by decide) _)) fun _ => ?_
  exact uses_exec_ (hf "view-1.cfg" (by decide) _)

theorem ofNames_stopProvider (p : Bool) :
    (stopProvider id p).Uses (OfNames id stopNames) := by
  refine .bind (.bind uses_files fun _ => uses_ite ?_ trivial) fun _ => ?_
  · exact .bind (uses_state id rfl rfl (by decide) (by decide)) fun _ =>
      uses_state id rfl rfl (by decide) (by decide)
  · refine .bind (uses_frame id rfl rfl (by decide) (by decide)) fun _ => ?_
    refine .bind (uses_frame id rfl rfl (by decide) (by decide)) fun _ => ?_
    exact uses_ite trivial (uses_state id rfl rfl (by decide) (by decide))

theorem ofProvider_stopProvider (p : Bool) :
    (stopProvider id p).Uses (OfProvider id) :=
  (ofNames_stopProvider id p).mono fun _ => OfNames.ofProvider

theorem ofNames_markStarted : (markStarted id).Uses (OfNames id startNames) :=
  .bind (uses_state id rfl rfl (by decide) (by decide)) fun _ =>
    uses_frame id rfl rfl (by decide) (by decide)

theorem ofNames_writeIfAny {n : List Text} {path : Text} (h : NamedFile id n path)
    (c : Option Text) : (writeIfAny path c).Uses (OfNames id n) := by
  cases c with
  | none => trivial
  | some c => exact uses_exec_ (.single rfl rfl h)

theorem ofNames_startStream (s : Stream) :
    (startStream env id s).Uses (OfNames id startNames) := by
  have hst (line : ℕ) : ((stopProvider id true).call line).Uses (OfNames id startNames) :=
    .call ((ofNames_stopProvider id true).mono fun _ h =>
      (h.mono (subset_append_left _ _)).call line)
  refine .bind (uses_state id rfl rfl (by decide) (by decide)) fun _ => ?_
  refine .bind (hst 503) fun _ => uses_ite trivial ?_
  refine .bind (uses_frame id rfl rfl (by decide) (by decide)) fun _ => ?_
  refine .bind (uses_frame id rfl rfl (by decide) (by decide)) fun _ => ?_
  refine .bind (uses_state id rfl rfl (by decide) (by decide)) fun _ => ?_
  refine .bind (uses_state id rfl rfl (by decide) (by decide)) fun _ => ?_
  refine .bind (ofNames_writeIfAny id (namedFile_frame id _ (by decide) (by decide)) s.frame)
    fun _ => ?_
  refine .bind uses_files fun _ => uses_ite trivial ?_
  exact .bind (hst 528) fun _ => trivial

theorem ofNames_startProvider (s : Stream) :
    (startProvider env id s).Uses (OfNames id startNames) := by
  have hm : (do markStarted id; return say "started" : Script Reply).Uses
      (OfNames id startNames) := .bind (ofNames_markStarted id) fun _ => trivial
  refine .bind uses_files fun files => uses_ite trivial (uses_ite trivial ?_)
  refine uses_ite hm (uses_ite (uses_ite trivial hm) ?_)
  exact ofNames_startStream env id s

theorem ofProvider_startProvider (s : Stream) :
    (startProvider env id s).Uses (OfProvider id) :=
  (ofNames_startProvider env id s).mono fun _ => OfNames.ofProvider

theorem ofProvider_providerConfigSet (fps maxWidth maxHeight view0 view1 : Text) :
    (providerConfigSet env id fps maxWidth maxHeight view0 view1).Uses (OfProvider id) := by
  have hm := providerFile_state id "meta" (by decide)
  have ht := hm.append ".new" (by decide)
  refine .bind uses_files fun files => uses_ite trivial (uses_ite trivial ?_)
  refine uses_ite trivial (.bind (uses_status (.single rfl rfl ht)) fun _ => ?_)
  refine uses_ite trivial (.bind (uses_exec_ (.single rfl rfl ht)) fun _ => ?_)
  refine .bind (uses_status (.rename ht hm)) fun _ => uses_ite trivial ?_
  exact .bind (ofProvider_writeRuntimeConfig id) fun _ => trivial

theorem providerFile_backup : ProviderFile id (backupFile env id) :=
  ((providerFile_state id "meta" (by decide)).append _ (by decide)).append _
    (slash_notMem_decimal env.pid)

theorem providerFile_update : ProviderFile id (updateFile env id) :=
  ((providerFile_state id "meta" (by decide)).append _ (by decide)).append _
    (slash_notMem_decimal env.pid)

theorem ofProvider_restartUpdated (type : Text) (wasEnabled : Bool) (s r : Stream) :
    (restartUpdated env id type (backupFile env id) wasEnabled s r).Uses
      (OfProvider id) := by
  have hm := providerFile_state id "meta" (by decide)
  have hb := providerFile_backup env id
  have hr (reply : Reply) : (do
      exec_ (.remove (backupFile env id))
      return reply : Script Reply).Uses (OfProvider id) :=
    .bind (uses_exec_ (.single rfl rfl hb)) fun _ => trivial
  have hca {α : Type} {f : Script α} (h : f.Uses (OfProvider id)) (line : ℕ) :
      (f.call line).Uses (OfProvider id) := .call (h.mono fun _ hop => hop.call line)
  refine uses_ite (hr _) (.bind (hca (ofProvider_stopProvider id false) 400) fun _ => ?_)
  refine .bind (hca (ofProvider_startProvider env id s) 401) fun reply => ?_
  refine uses_ite ?_ (hr _)
  refine .bind (uses_exec_ (.single rfl rfl hm)) fun _ => ?_
  refine .bind (hca (ofProvider_writeRuntimeConfig id) 405) fun _ => ?_
  exact .bind (hca (ofProvider_startProvider env id r) 406) fun _ => hr _

theorem ofProvider_applyUpdate (type : Text) (v : ProviderValues) (s r : Stream) :
    (applyUpdate env id type v s r).Uses (OfProvider id) := by
  have hm := providerFile_state id "meta" (by decide)
  have hb := providerFile_backup env id
  have hu := providerFile_update env id
  refine .bind (uses_status (.single rfl rfl hb)) fun _ => uses_ite trivial ?_
  refine .bind uses_files fun files => ?_
  refine .bind (uses_status (.single rfl rfl hu)) fun _ => uses_ite ?_ ?_
  · refine .bind (uses_exec_ (.single rfl rfl hb)) fun _ => ?_
    exact .bind (uses_exec_ (.single rfl rfl hu)) fun _ => trivial
  refine .bind (uses_exec_ (.single rfl rfl hu)) fun _ => ?_
  refine .bind (uses_status (.rename hu hm)) fun _ => uses_ite ?_ ?_
  · exact .bind (uses_exec_ (.single rfl rfl hb)) fun _ => trivial
  refine .bind (.call ((ofProvider_writeRuntimeConfig id).mono fun _ h => h.call 396)) fun _ => ?_
  exact ofProvider_restartUpdated env id type _ s r

theorem ofProvider_providerUpdate (v : ProviderValues) (s r : Stream) :
    (providerUpdate env id v s r).Uses (OfProvider id) := by
  refine .bind uses_files fun files => uses_ite trivial (uses_ite trivial ?_)
  refine uses_ite trivial ?_
  split
  · trivial
  · exact uses_ite trivial (ofProvider_applyUpdate env id _ v s r)

theorem ofProvider_publishFrames (r : ℕ) (i : Bytes) :
    (FramePublisher.publishFrames (frameFile id "frame.rgb") (frameFile id "frame.rgb" ++ ".new")
      r i).Uses (OfProvider id) := by
  have hf := providerFile_frame id "frame.rgb" (by decide)
  have ht := hf.append ".new" (by decide)
  induction r generalizing i with
  | zero => trivial
  | succ r ih =>
    rw [FramePublisher.publishFrames]
    split
    · trivial
    · trivial
    · refine .bind (uses_status (.single rfl rfl ht)) fun _ => uses_ite trivial ?_
      exact .bind (uses_exec_ (.single rfl rfl ht)) fun _ => trivial
    · refine .bind (uses_status (.single rfl rfl ht)) fun _ => uses_ite trivial ?_
      refine .bind (uses_status (.rename ht hf)) fun _ => uses_ite ?_ (ih _)
      exact .bind (uses_exec_ (.single rfl rfl ht)) fun _ => trivial

theorem ofProvider_publishProviderStdin (i : Bytes) :
    (publishProviderStdin env id i).Uses (OfProvider id) := by
  have he := providerFile_frame id "enabled" (by decide)
  refine .bind uses_files fun files => uses_ite trivial (uses_ite trivial ?_)
  refine uses_ite trivial (.bind ?_ fun _ => uses_ite trivial ?_)
  · exact uses_ite trivial (uses_ite trivial (ofProvider_publishFrames id _ i))
  · exact .bind (uses_exec_ (.single rfl rfl he)) fun _ => trivial

theorem ofProvider_importProviderMedia (i : Bytes) :
    (importProviderMedia id i).Uses (OfProvider id) := by
  have hm := providerFile_frame id "source.media" (by decide)
  have ht := hm.append ".new" (by decide)
  have hr (reply : Reply) : (do
      exec_ (.remove (frameFile id "source.media" ++ ".new"))
      return reply : Script Reply).Uses (OfProvider id) :=
    .bind (uses_exec_ (.single rfl rfl ht)) fun _ => trivial
  refine .bind uses_files fun files => uses_ite trivial (uses_ite trivial ?_)
  refine uses_ite trivial (.bind (uses_status (.single rfl rfl ht)) fun _ => ?_)
  refine uses_ite (hr _) (.bind uses_files fun _ => uses_ite (hr _) ?_)
  exact .bind (uses_status (.rename ht hm)) fun _ => uses_ite trivial trivial

end OneProvider

/-! ## Commands about no provider -/

instance (path : Text) : Decidable (Derived path) := inferInstanceAs (Decidable (_ ∨ _))

theorem not_derived_append {path : Text} (h : ¬Derived path) (hl : 36 ≤ path.length)
    (more : Text) : ¬Derived (path ++ more) := by
  have hs : (providerStateDir ++ ['/']).length ≤ 36 := by decide +kernel
  have hf : (providerFrameDir ++ ['/']).length ≤ 36 := by decide +kernel
  rintro (hm | hm)
  · exact h (.inl (prefix_of_prefix_length_le hm (prefix_append _ _) (hs.trans hl)))
  · exact h (.inr (prefix_of_prefix_length_le hm (prefix_append _ _) (hf.trans hl)))

theorem Elsewhere.single {op : Op} {path : Text} (hop : op.files ++ op.directories = [path])
    (h : ¬Derived path) : Elsewhere op := fun _ hm => mem_singleton.mp (hop ▸ hm) ▸ h

theorem Elsewhere.rename {s path : Text} (hs : ¬Derived s) (hp : ¬Derived path) :
    Elsewhere (.rename s path) :=
  forall_mem_cons.mpr ⟨hs, forall_mem_singleton.mpr hp⟩

theorem not_derived_routesFile : ¬Derived routesFile := by decide +kernel

theorem not_derived_temporaryRoutes : ¬Derived temporaryRoutes := by decide +kernel

theorem elsewhere_makeDirectories {p : List Text} (h : ∀ path ∈ p, ¬Derived path) :
    (makeDirectories p).Uses Elsewhere := by
  induction p with
  | nil => trivial
  | cons path p ih =>
    obtain ⟨hpa, hp⟩ := forall_mem_cons.mp h
    exact .bind (uses_status (.single rfl hpa)) fun _ => .bind (ih hp) fun _ => trivial

theorem elsewhere_prepareDirs : prepareDirs.Uses Elsewhere := by
  refine .bind (elsewhere_makeDirectories (by decide +kernel)) fun _ => uses_ite trivial ?_
  exact .bind (uses_exec_ (.single rfl not_derived_routesFile)) fun _ => trivial

theorem elsewhere_appendLines {path : Text} (h : ¬Derived path) (l : List Text) :
    (appendLines path l).Uses Elsewhere := by
  induction l with
  | nil => trivial
  | cons line l ih => exact .bind (uses_exec_ (.single rfl h)) fun _ => ih

theorem elsewhere_updateRoutes (s : Text → Text) (l : List Text) :
    (updateRoutes s l).Uses Elsewhere := by
  refine .bind (uses_exec_ (.single rfl not_derived_temporaryRoutes)) fun _ => ?_
  refine .bind (elsewhere_appendLines not_derived_temporaryRoutes l) fun _ => ?_
  exact uses_exec_ (.rename not_derived_temporaryRoutes not_derived_routesFile)

theorem elsewhere_setRoute (env : Env) (package target provider : Text) :
    (setRoute env package target provider).Uses Elsewhere := by
  refine .bind uses_files fun _ => uses_ite trivial (uses_ite trivial ?_)
  refine uses_ite trivial (.bind elsewhere_prepareDirs fun _ => uses_ite trivial ?_)
  exact .bind (elsewhere_updateRoutes _ _) fun _ => trivial

theorem elsewhere_removeRoute (env : Env) (p t : Text) :
    (removeRoute env p t).Uses Elsewhere := by
  refine .bind uses_files fun _ => uses_ite trivial (uses_ite trivial ?_)
  refine .bind elsewhere_prepareDirs fun _ => uses_ite trivial ?_
  exact .bind (elsewhere_updateRoutes _ _) fun _ => trivial

theorem not_derived_temporaryRoutesOf (pid : ℕ) : ¬Derived (temporaryRoutesOf pid) :=
  not_derived_append not_derived_temporaryRoutes (by decide +kernel) _

theorem elsewhere_saveRoutes (env : Env) (package p0 p1 : Text) :
    (saveRoutes env package p0 p1).Uses Elsewhere := by
  have ht := not_derived_temporaryRoutesOf env.pid
  refine .bind uses_files fun _ => uses_ite trivial (uses_ite trivial ?_)
  refine .bind elsewhere_prepareDirs fun _ => uses_ite trivial ?_
  refine .bind (uses_status (.single rfl ht)) fun _ => uses_ite trivial ?_
  refine .bind (elsewhere_appendLines ht _) fun _ => ?_
  exact .bind (uses_status (.rename ht not_derived_routesFile)) fun _ =>
    uses_ite trivial trivial

theorem elsewhere_disableRouting (env : Env) : (disableRouting env).Uses Elsewhere := by
  have hf : ¬Derived routingDisabledFile := by decide +kernel
  have ht : ¬Derived (routingDisabledFile ++ ".new." ++ decimal env.pid) := by
    rw [append_assoc]
    exact not_derived_append hf (by decide +kernel) _
  refine .bind elsewhere_prepareDirs fun _ => uses_ite trivial ?_
  refine .bind (uses_status (.single rfl ht)) fun _ => uses_ite trivial ?_
  exact .bind (uses_status (.rename ht hf)) fun _ => uses_ite trivial trivial

theorem elsewhere_enableRouting : enableRouting.Uses Elsewhere := by
  have hf : ¬Derived routingDisabledFile := by decide +kernel
  refine .bind elsewhere_prepareDirs fun _ => uses_ite trivial ?_
  exact .bind (uses_status (.single rfl hf)) fun _ => uses_ite trivial trivial

theorem elsewhere_printCapabilities (p : Option Text) :
    (printCapabilities p).Uses Elsewhere := by
  have hp : ¬Derived profileFile := by decide +kernel
  refine .bind (.bind uses_files fun _ => uses_ite ?_ trivial) fun _ => ?_
  · cases p with
    | none => trivial
    | some content => exact uses_exec_ (.single rfl hp)
  · exact .bind uses_files fun _ => uses_ite trivial trivial

theorem elsewhere_listProviders : listProviders.Uses Elsewhere := by
  refine .bind uses_files fun _ => uses_ite ?_ trivial
  exact .bind elsewhere_prepareDirs fun _ => uses_ite trivial trivial

theorem elsewhere_listRoutes : listRoutes.Uses Elsewhere := by
  refine .bind uses_files fun _ => uses_ite ?_ trivial
  exact .bind elsewhere_prepareDirs fun _ => uses_ite trivial trivial

theorem elsewhere_providerConfig (id : Text) : (providerConfig id).Uses Elsewhere :=
  .bind uses_files fun _ => uses_ite trivial (uses_ite trivial trivial)

end Controller

end Vcam
