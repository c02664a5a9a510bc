import AndroidVcam.Controller.Footprint
import AndroidVcam.Controller.MetaFile

/-!
# The files of the camera

`write_runtime_config` renders five fields of a `meta` file into three files of one line each. Every
write may fail after some of its characters, and nobody asks.

* `Holds`, `Lost`, **`holds_iff`**: a line is in its file unless the file could not be written or the
  line was cut off.
-/

namespace Vcam

open TextFile FileTree Shell List

namespace Controller

/-! ## Lines by file name -/

def cameraConfig (fps maxWidth maxHeight view0 view1 : Text) : List (String × Text) :=
  [("source.cfg", fps ++ ',' :: maxWidth ++ ',' :: maxHeight), ("view-0.cfg", view0),
    ("view-1.cfg", view1)]

/-- `config_value` in the text of a file. -/
def valueOr (text : Text) (key fallback : String) : Text :=
  if (sedValue key text).isEmpty then fallback.toList else sedValue key text

/-- What `write_runtime_config` makes of a `meta` file. -/
def runtimeConfig (text : Text) : List (String × Text) :=
  cameraConfig (valueOr text "fps" "15") (valueOr text "max_width" "1280")
    (valueOr text "max_height" "720") (valueOr text "view0" "0,1000,500,500")
    (valueOr text "view1" "0,1000,500,500")

def configNames : List String := ["source.cfg", "view-0.cfg", "view-1.cfg"]

theorem fst_of_mem_runtimeConfig {text : Text} {field : String × Text}
    (h : field ∈ runtimeConfig text) : field.1 ∈ configNames :=
  mem_map_of_mem (f := Prod.fst) h

def writeLines (id : Text) : List (String × Text) → Script Unit
  | [] => return ()
  | field :: fields => do
    Script.exec_ (.write (frameFile id field.1) (field.2 ++ ['\n']))
    writeLines id fields

variable {o : Op → Outcome} {t t' : Tree} {id : Text}

theorem run_writeRuntimeConfig {text : Text} (h : t.content (stateFile id "meta") = some text) :
    (writeRuntimeConfig id).run o t = (writeLines id (runtimeConfig text)).run o t := by
  have hv (key fallback : String) :
      configValue t key (stateFile id "meta") fallback = valueOr text key fallback := by
    rw [configValue, metaValue, h]
    rfl
  rw [writeRuntimeConfig, Script.run_files_bind]
  dsimp only
  simp only [hv]
  rfl

theorem ofNames_writeLines (id : Text) {f : List (String × Text)}
    (hp : ∀ field ∈ f, Proper field.1.toList) :
    (writeLines id f).Uses (OfNames id (f.map fun field => field.1.toList)) := by
  induction f with
  | nil => trivial
  | cons field f ih =>
    obtain ⟨hfi, hf⟩ := forall_mem_cons.mp hp
    refine .bind (Script.uses_exec_ (.single rfl rfl ?_)) fun _ => ?_
    · exact namedFile_frame id field.1 hfi (mem_cons_self)
    · exact (ih hf).mono fun _ hop => hop.mono (subset_cons_self _ _)

/-- **What is in a file that could be written.** -/
theorem content_writeLines {f : List (String × Text)}
    (hp : ∀ field ∈ f, Proper field.1.toList) (hn : (f.map Prod.fst).Nodup)
    {field : String × Text} (hfi : field ∈ f) (h : Writable t (frameFile id field.1)) :
    ((writeLines id f).run o t).tree.content (frameFile id field.1) =
      some ((o (.write (frameFile id field.1) (field.2 ++ ['\n']))).written
        (field.2 ++ ['\n'])) := by
  induction f generalizing t with
  | nil => cases hfi
  | cons first f ih =>
    obtain ⟨hfr, hf⟩ := forall_mem_cons.mp hp
    rw [map_cons, nodup_cons] at hn
    rw [writeLines, Script.tree_bind, Script.run_exec_]
    rcases mem_cons.mp hfi with rfl | hr
    · -- The names behind are others.
      obtain ⟨t₁, hwr, hw⟩ := exec_write h (field.2 ++ ['\n'])
        (o (.write (frameFile id field.1) (field.2 ++ ['\n'])))
      have ha : ∀ name ∈ f.map fun other => other.1.toList,
          (location (frameFile id field.1)).head? ≠ some name := by
        intro name hna heq
        obtain ⟨other, ho, rfl⟩ := mem_map.mp hna
        rw [location_frameFile id hfr] at heq
        exact hn.1 (String.toList_inj.mp (Option.some.inj heq) ▸ mem_map_of_mem ho)
      rw [content_of_ofNames (ofNames_writeLines id hf) ha, hwr, hw.content_self]
    · refine ih hf hn.2 hr (h.congr ?_)
      exact @sameDirectories_exec (.write (frameFile id first.1) (first.2 ++ ['\n'])) rfl t _

theorem proper_of_mem_configNames {name : String} (h : name ∈ configNames) : Proper name.toList := by
  revert name
  decide

theorem ofNames_writeConfig (id text : Text) : (writeLines id (runtimeConfig text)).Uses
    (OfNames id (configNames.map String.toList)) :=
  ofNames_writeLines id fun _ hf => proper_of_mem_configNames (fst_of_mem_runtimeConfig hf)

/-! ## Lines that get lost -/

def Holds (t : Tree) (path line : Text) : Prop :=
  ∃ text, t.content path = some text ∧ (getlines text).head? = some line

/-- A line that does not get into its file. -/
def Lost (oracle : Op → Outcome) (t : Tree) (path line : Text) : Prop :=
  ¬ Writable t path ∨ ∃ n, oracle (.write path (line ++ ['\n'])) = .fails n ∧ n < line.length

theorem head_getlines_written {line : Text} (hl : '\n' ∉ line) (hne : line ≠ [])
    (o : Outcome) : (getlines (o.written (line ++ ['\n']))).head? = some line ↔
      ∀ n, o = .fails n → line.length ≤ n := by
  have hw : (getlines (line ++ ['\n'])).head? = some line := by
    rw [getlines_line hl]
    rfl
  cases o with
  | ok => exact iff_of_true hw nofun
  | fails n =>
    rw [Outcome.written]
    by_cases hle : n ≤ line.length
    · have hs : (getlines (line.take n)).head? = some line ↔ line.length ≤ n := by
        rw [getlines_of_notMem fun h => hl (mem_of_mem_take h)]
        constructor
        · intro h
          split_ifs at h with he
          · cases h
          · have hln := congrArg List.length (Option.some.inj h)
            rw [length_take] at hln
            omega
        · intro h
          rw [take_of_length_le h, if_neg hne]
          rfl
      rw [take_append_of_le_length hle, hs]
      exact ⟨fun h k hk => Outcome.fails.inj hk ▸ h, fun h => h n rfl⟩
    · rw [take_of_length_le (by rw [length_append, length_singleton]; omega)]
      exact iff_of_true hw fun k hk => Outcome.fails.inj hk ▸ (Nat.lt_of_not_le hle).le

theorem holds_iff {path line : Text} (hli : '\n' ∉ line) (hne : line ≠ [])
    (hd : t.SameDirectories t') (hc : Writable t path → t'.content path =
      some ((o (.write path (line ++ ['\n']))).written (line ++ ['\n']))) :
    Holds t' path line ↔ ¬ Lost o t path line := by
  by_cases h : Writable t path
  · rw [Holds, hc h, Lost, not_or, not_not, and_iff_right h, not_exists]
    rw [show (∃ text, some ((o (.write path (line ++ ['\n']))).written (line ++ ['\n'])) =
        some text ∧ (getlines text).head? = some line) ↔ _ from
      ⟨fun ⟨_, ht, hh⟩ => Option.some.inj ht ▸ hh, fun hh => ⟨_, rfl, hh⟩⟩,
      head_getlines_written hli hne]
    exact forall_congr' fun n => by rw [not_and, not_lt]
  · refine iff_of_false (fun ⟨text, ht, _⟩ => ?_) fun hl => hl (.inl h)
    exact h ((writable_of_content ht).congr hd.symm)

/-! ## Checked values -/

theorem newline_notMem_of_validBase64 {s : Text} (h : validBase64 s = true) : '\n' ∉ s := by
  intro hmem
  rw [validBase64, Bool.not_eq_true', any_eq_false] at h
  exact absurd (h '\n' hmem) (by decide)

theorem number_of_valid {env : Env} {s : Text} {low high : ℤ}
    (h : validNumberBetween env s low high = true) : s ≠ [] ∧ '\n' ∉ s := by
  rw [validNumberBetween] at h
  split_ifs at h with hbad
  rw [Bool.or_eq_true, not_or, Bool.not_eq_true, Bool.not_eq_true, any_eq_false,
    isEmpty_eq_false_iff] at hbad
  exact ⟨hbad.1, fun hmem => absurd (hbad.2 '\n' hmem) (by decide)⟩

theorem notMem_of_commaFields {s : Text} {c : Char} (hc : c ≠ ',')
    (h : ∀ field ∈ commaFields s, c ∉ field) : c ∉ s := by
  have hpa : ∀ part ∈ splitAll ',' s, c ∉ part := by
    intro part hp
    rw [commaFields] at h
    split_ifs at h with hl
    · rw [← dropLast_append_getLast? [] hl, mem_append, mem_singleton] at hp
      rcases hp with hp | rfl
      · exact h part hp
      · exact not_mem_nil
    · exact h part hp
  intro hmem
  obtain ⟨part, hp, hin⟩ := exists_mem_splitAll hc hmem
  exact hpa part hp hin

theorem view_of_valid {env : Env} {view : Text} (h : validView env view = true) :
    view ≠ [] ∧ '\n' ∉ view := by
  rw [validView] at h
  split at h
  · rename_i rotation zoom x y hf
    rw [Bool.and_eq_true, Bool.and_eq_true, Bool.and_eq_true] at h
    obtain ⟨hr, ⟨hz, hx⟩, hy⟩ := h
    constructor
    · rintro rfl
      cases hf
    · refine notMem_of_commaFields (by decide) ?_
      have ht : '\n' ∉ rotation := by
        have hmem := contains_iff_mem.mp hr
        simp only [mem_cons, not_mem_nil, or_false] at hmem
        rcases hmem with rfl | rfl | rfl | rfl <;> decide
      rw [hf]
      simp [ht, (number_of_valid hz).2, (number_of_valid hx).2, (number_of_valid hy).2]
  · cases h

end Controller

end Vcam
