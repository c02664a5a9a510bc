import AndroidVcam.Lib.FileTree

/-!
# Shell scripts over a file tree

A script looks at the tree and performs file operations, one after the other, with the exit status
of each; what a utility does is `exec`. An oracle says which operations fail and how much of their
output they have written then. The same script can be run alone (`Script.run`) or step by step beside
another one (`Script.step`).

* **`exec_frame`**, `content_exec`: an operation changes only what it touches;
* `Script.Uses`: what every operation of a script satisfies, with `Uses.bind`, `Uses.frame` and
  `Uses.content_eq`.
-/

namespace Shell

open TextFile FileTree Option Tree

/-! ## Operations -/

inductive Op
  /-- `mkdir -p path`. -/
  | mkdir (path : Text)
  | touch (path : Text)
  /-- Output redirected with `> path`. -/
  | write (path content : Text)
  /-- Output redirected with `>> path`. -/
  | append (path content : Text)
  /-- `awk '…' source > path`. -/
  | filter (select : Text → Text) (source path : Text)
  | copy (source path : Text)
  /-- `mv -f source path`. -/
  | rename (source path : Text)
  /-- `rm -f path`. -/
  | remove (path : Text)
  /-- `rm -rf path`. -/
  | removeTree (path : Text)
  /-- `cat path`, for what is in it. -/
  | read (path : Text)
  /-- An operation of the function that is called in this line. What two calls of a function do has
  an outcome of its own in each. -/
  | call (line : ℕ) (op : Op)

/-- The files that an operation creates, changes, removes or reads out. -/
def Op.files : Op → List Text
  | .mkdir _ => []
  | .touch path => [path]
  | .write path _ => [path]
  | .append path _ => [path]
  | .filter _ _ path => [path]
  | .copy _ path => [path]
  | .rename source path => [source, path]
  | .remove path => [path]
  | .removeTree _ => []
  | .read path => [path]
  | .call _ op => op.files

/-- The directories that an operation creates or removes. -/
def Op.directories : Op → List Text
  | .mkdir path => [path]
  | .removeTree path => [path]
  | .call _ op => op.directories
  | _ => []

/-- A utility does its work, or it fails after the first characters of its output. -/
inductive Outcome
  | ok
  | fails (written : ℕ)
deriving DecidableEq

namespace Outcome

def good : Outcome → Bool
  | ok => true
  | fails _ => false

def written : Outcome → Text → Text
  | ok, output => output
  | fails n, output => output.take n

end Outcome

/-- Create or replace the file that a path text denotes. -/
def store (t : Tree) (path content : Text) : Option Tree :=
  (t.resolve path).bind fun place => t.put place content

def discard (t : Tree) (path : Text) : Tree :=
  match t.resolve path with
  | none => t
  | some place => t.erase place

/-- `rm` refuses operands that end in a dot component. -/
def isDotOperand (path : Text) : Bool :=
  match (components path).getLast? with
  | some name => name == ['.'] || name == ['.', '.']
  | none => false

def attempt (t : Tree) (outcome : Outcome) : Option Tree → Tree × Bool
  | none => (t, false)
  | some t' => (t', outcome.good)

def exec (t : Tree) (op : Op) (outcome : Outcome) : Tree × Bool :=
  match op with
  | .mkdir path =>
    if outcome.good then attempt t outcome (t.makeDirs [] (components path)) else (t, false)
  | .touch path =>
    if outcome.good then
      if t.isThere path then (t, true) else attempt t outcome (store t path [])
    else (t, false)
  | .write path content => attempt t outcome (store t path (outcome.written content))
  | .append path content =>
    attempt t outcome (store t path ((t.content path).getD [] ++ outcome.written content))
  | .filter select source path =>
    -- The redirection truncates the file before the program starts.
    match store t path [] with
    | none => (t, false)
    | some t₁ =>
      match t₁.content source with
      | none => (t₁, false)
      | some text => attempt t₁ outcome (store t₁ path (outcome.written (select text)))
  | .copy source path =>
    match t.content source with
    | none => (t, false)
    | some text => attempt t outcome (store t path (outcome.written text))
  | .rename source path =>
    if outcome.good then
      match t.content source with
      | none => (t, false)
      | some text => attempt t outcome (store (discard t source) path text)
    else (t, false)
  | .remove path =>
    if outcome.good ∧ t.lookup path ≠ some .directory then (discard t path, true) else (t, false)
  | .removeTree path =>
    if outcome.good ∧ isDotOperand path = false then
      match t.resolve path with
      | none => (t, true)
      | some place => (t.eraseTree place, true)
    else (t, false)
  | .read path => (t, outcome.good && t.isFile path)
  | .call _ op => exec t op outcome

def buildTree (ops : List Op) : Tree := ops.foldl (fun t op => (exec t op .ok).1) .empty

/-! ## The effect of an operation -/

variable {t t' : Tree} {path source content text : Text} {o : Outcome}

def Writable (t : Tree) (path : Text) : Prop := ∃ name dir, t.resolve path = some (name :: dir) ∧
  t.node dir = some .directory ∧ t.node (name :: dir) ≠ some .directory

structure Wrote (t t' : Tree) (path content : Text) : Prop where
  directories : t.SameDirectories t'
  resolved : t.resolve path = some (location path)
  self : t'.node (location path) = some (.file content)
  others : ∀ place, place ≠ location path → t'.node place = t.node place

theorem writable_iff_store (c : Text) :
    Writable t path ↔ ∃ t', store t path c = some t' := by
  constructor
  · rintro ⟨name, dir, hr, hdir, hp⟩
    rw [store, hr, bind_some]
    exact put_isSome hdir hp c
  · rintro ⟨t', h⟩
    obtain ⟨place, hr, hput⟩ := bind_eq_some_iff.mp h
    obtain ⟨name, dir, rfl, hdir, hp, -⟩ := put_eq_some hput
    exact ⟨name, dir, hr, hdir, hp⟩

theorem wrote_store (h : store t path content = some t') : Wrote t t' path content := by
  obtain ⟨place, hr, hput⟩ := bind_eq_some_iff.mp h
  obtain rfl := resolve_eq_some hr
  exact ⟨sameDirectories_put hput, hr, (node_put hput _).trans (if_pos rfl),
    fun place hne => (node_put hput place).trans (if_neg hne)⟩

theorem Writable.congr (h : Writable t path) (hs : t.SameDirectories t') : Writable t' path := by
  obtain ⟨name, dir, hr, hdir, hp⟩ := h
  exact ⟨name, dir, (hs.resolve_eq path).trans hr, (hs dir).mpr hdir,
    fun hd => hp ((hs _).mp hd)⟩

theorem content_eq_some_iff : t.content path = some text ↔ t.lookup path = some (.file text) := by
  rw [content]
  split
  · rename_i content h
    rw [h]
    simp
  · rename_i h
    exact iff_of_false nofun fun e => h text e

theorem writable_of_content (h : t.content path = some text) : Writable t path := by
  obtain ⟨place, hr, hn⟩ := bind_eq_some_iff.mp (content_eq_some_iff.mp h)
  cases place with
  | nil =>
    rw [t.root] at hn
    cases hn
  | cons name dir =>
    refine ⟨name, dir, hr, t.parent name dir ?_, ?_⟩ <;> rw [hn] <;> nofun

theorem isDirectory_congr (h : t.SameDirectories t') (path : Text) :
    t'.isDirectory path = t.isDirectory path := by
  rw [isDirectory, isDirectory, Bool.eq_iff_iff, beq_iff_eq, beq_iff_eq, Tree.lookup,
    Tree.lookup, h.resolve_eq]
  cases t.resolve path with
  | none => rfl
  | some place => exact h place

theorem Writable.lookup_ne (h : Writable t path) : t.lookup path ≠ some .directory := by
  obtain ⟨name, dir, hr, -, hp⟩ := h
  rwa [Tree.lookup, hr, bind_some]

theorem content_eq_none (h : t.lookup path = none) : t.content path = none := by
  rw [content, h]

theorem content_congr (h : t'.lookup path = t.lookup path) : t'.content path = t.content path := by
  rw [content, h, content]

namespace Wrote

theorem lookup_self (h : Wrote t t' path content) : t'.lookup path = some (.file content) := by
  rw [Tree.lookup, h.directories.resolve_eq, h.resolved, bind_some, h.self]

theorem content_self (h : Wrote t t' path content) : t'.content path = some content :=
  content_eq_some_iff.mpr h.lookup_self

theorem lookup_other (h : Wrote t t' path content) {other : Text}
    (hne : location other ≠ location path) : t'.lookup other = t.lookup other := by
  rw [Tree.lookup, h.directories.resolve_eq, Tree.lookup]
  cases hr : t.resolve other with
  | none => rfl
  | some place =>
    rw [bind_some, bind_some]
    exact h.others place (resolve_eq_some hr ▸ hne)

theorem content_other (h : Wrote t t' path content) {other : Text}
    (hne : location other ≠ location path) : t'.content other = t.content other :=
  content_congr (h.lookup_other hne)

theorem trans {t'' : Tree} {content' : Text} (h : Wrote t t' path content)
    (h' : Wrote t' t'' path content') : Wrote t t'' path content' :=
  ⟨h.directories.trans h'.directories, h.resolved, h'.self,
    fun place hne => (h'.others place hne).trans (h.others place hne)⟩

end Wrote

theorem attempt_store (h : Writable t path) (content : Text) (o : Outcome) :
    ∃ t', attempt t o (store t path content) = (t', o.good) ∧
      Wrote t t' path content := by
  obtain ⟨t', hs⟩ := (writable_iff_store content).mp h
  exact ⟨t', by rw [hs]; rfl, wrote_store hs⟩

theorem exec_write (h : Writable t path) (c : Text) (o : Outcome) :
    ∃ t', exec t (.write path c) o = (t', o.good) ∧
      Wrote t t' path (o.written c) := attempt_store h _ _

theorem exec_append (h : Writable t path) (c : Text) (o : Outcome) :
    ∃ t', exec t (.append path c) o = (t', o.good) ∧
      Wrote t t' path ((t.content path).getD [] ++ o.written c) := attempt_store h _ _

theorem exec_copy (h : Writable t path) (ht : t.content source = some text)
    (o : Outcome) : ∃ t', exec t (.copy source path) o = (t', o.good) ∧
      Wrote t t' path (o.written text) := by
  obtain ⟨t', hs, hw⟩ := attempt_store h (o.written text) o
  exact ⟨t', by rw [exec, ht]; exact hs, hw⟩

theorem exec_filter (h : Writable t path) (hne : location source ≠ location path)
    (ht : t.content source = some text) (edit : Text → Text) (o : Outcome) :
    ∃ t', exec t (.filter edit source path) o = (t', o.good) ∧
      Wrote t t' path (o.written (edit text)) := by
  obtain ⟨t₁, he⟩ := (writable_iff_store []).mp h
  have hw₁ := wrote_store he
  obtain ⟨t', hs, hw⟩ :=
    attempt_store (h.congr hw₁.directories) (o.written (edit text)) o
  refine ⟨t', ?_, hw₁.trans hw⟩
  rw [exec, he]
  dsimp only
  rw [hw₁.content_other hne, ht]
  exact hs

structure Renamed (t t' : Tree) (source path text : Text) : Prop where
  directories : t.SameDirectories t'
  self : t'.lookup path = some (.file text)
  gone : t'.node (location source) = none
  others : ∀ place, place ≠ location path → place ≠ location source → t'.node place = t.node place

theorem node_discard (t : Tree) (path : Text) (p : Path) :
    (discard t path).node p = t.node p ∨
      p = location path ∧ (discard t path).node p = none := by
  rw [discard]
  split
  · exact .inl rfl
  · rename_i found hr
    obtain rfl := resolve_eq_some hr
    rw [node_erase]
    split_ifs with h
    · exact .inr ⟨h.1, rfl⟩
    · exact .inl rfl

theorem sameDirectories_discard (t : Tree) (path : Text) : t.SameDirectories (discard t path) := by
  rw [discard]
  split
  · exact .refl t
  · exact sameDirectories_erase _ _

theorem exec_rename (h : Writable t path) (hne : location source ≠ location path)
    (ht : t.content source = some text) :
    ∃ t', exec t (.rename source path) .ok = (t', true) ∧ Renamed t t' source path text := by
  have hdi := sameDirectories_discard t source
  obtain ⟨t', hs⟩ := (writable_iff_store text).mp (h.congr hdi)
  have hw := wrote_store hs
  refine ⟨t', ?_, hdi.trans hw.directories, hw.lookup_self, ?_, ?_⟩
  · rw [exec, if_pos (show Outcome.ok.good = true from rfl), ht]
    dsimp only
    rw [hs]
    rfl
  · have hf := content_eq_some_iff.mp ht
    obtain ⟨place, hr, hn⟩ := bind_eq_some_iff.mp hf
    obtain rfl := resolve_eq_some hr
    rw [hw.others _ hne, discard, hr]
    exact (node_erase ..).trans (if_pos ⟨rfl, by rw [hn]; nofun⟩)
  · intro place hp hso
    rw [hw.others _ hp]
    exact (node_discard t source place).resolve_right fun hd => hso hd.1

theorem Outcome.eq_ok_of_good (h : o.good = true) : o = .ok := by
  cases o with
  | ok => rfl
  | fails n => cases h

theorem of_attempt {r : Option Tree} (h : (attempt t o r).2 = true) :
    o = .ok ∧ ∃ t', r = some t' := by
  cases r with
  | none => cases h
  | some t' => exact ⟨Outcome.eq_ok_of_good h, t', rfl⟩

theorem of_exec_write (h : (exec t (.write path content) o).2 = true) :
    Writable t path ∧ o = .ok ∧
      Wrote t (exec t (.write path content) o).1 path content := by
  obtain ⟨rfl, t', hs⟩ := of_attempt h
  have hw := (writable_iff_store _).mpr ⟨t', hs⟩
  obtain ⟨t₁, he, hwr⟩ := exec_write hw content .ok
  rw [he]
  exact ⟨hw, rfl, hwr⟩

theorem of_exec_copy (h : (exec t (.copy source path) o).2 = true) :
    Writable t path ∧ o = .ok := by
  rw [exec] at h
  split at h
  · cases h
  · obtain ⟨hok, t', hs⟩ := of_attempt h
    exact ⟨(writable_iff_store _).mpr ⟨t', hs⟩, hok⟩

theorem of_exec_filter {edit : Text → Text} (hne : location source ≠ location path)
    (h : (exec t (.filter edit source path) o).2 = true) :
    Writable t path ∧ o = .ok ∧ ∃ text, t.content source = some text := by
  rw [exec] at h
  split at h
  · cases h
  · rename_i t₁ he
    refine ⟨(writable_iff_store []).mpr ⟨t₁, he⟩, ?_⟩
    rw [(wrote_store he).content_other hne] at h
    split at h
    · cases h
    · exact ⟨(of_attempt h).1, _, ‹_›⟩

theorem of_exec_rename (h : (exec t (.rename source path) o).2 = true) :
    Writable t path ∧ o = .ok := by
  rw [exec] at h
  split_ifs at h with hg
  split at h
  · cases h
  · obtain ⟨hok, t', hs⟩ := of_attempt h
    exact ⟨((writable_iff_store _).mpr ⟨t', hs⟩).congr (sameDirectories_discard t source).symm,
      hok⟩

theorem exec_rename_failed (h : (exec t (.rename source path) o).2 = false) :
    (exec t (.rename source path) o).1 = t := by
  rw [exec] at h ⊢
  split_ifs at h ⊢ with hg
  · split at h
    · rfl
    · rename_i text ht
      cases hs : store (discard t source) path text with
      | none => rfl
      | some t' =>
        rw [hs, attempt, hg] at h
        cases h
  · rfl

theorem Renamed.content_self (h : Renamed t t' source path text) : t'.content path = some text :=
  content_eq_some_iff.mpr h.self

theorem Renamed.lookup_other (h : Renamed t t' source path text) {other : Text}
    (hp : location other ≠ location path) (hs : location other ≠ location source) :
    t'.lookup other = t.lookup other := by
  rw [Tree.lookup, h.directories.resolve_eq, Tree.lookup]
  cases hr : t.resolve other with
  | none => rfl
  | some place =>
    obtain rfl := resolve_eq_some hr
    rw [bind_some, bind_some]
    exact h.others _ hp hs

theorem content_remove (h : Writable t path) (o : Outcome) :
    (exec t (.remove path) o).1.content path =
      if o.good then none else t.content path := by
  rw [exec]
  by_cases hg : o.good = true
  · rw [if_pos ⟨hg, h.lookup_ne⟩, if_pos hg]
    obtain ⟨name, dir, hr, hdir, hp⟩ := h
    refine content_eq_none ?_
    rw [Tree.lookup, (sameDirectories_discard t path).resolve_eq, hr, bind_some,
      discard, hr]
    exact (node_erase ..).trans (if_pos ⟨rfl, hp⟩)
  · rw [if_neg fun h => hg h.1, if_neg hg]

theorem exec_touch (t : Tree) (path : Text) (o : Outcome) :
    (exec t (.touch path) o).1 = t ∨
      t.lookup path = none ∧ Wrote t (exec t (.touch path) o).1 path [] := by
  rw [exec]
  split_ifs with hg ht
  · exact .inl rfl
  · cases hs : store t path [] with
    | none => exact .inl rfl
    | some t' =>
      rw [isThere, Bool.not_eq_true, isSome_eq_false_iff, isNone_iff_eq_none]
        at ht
      exact .inr ⟨ht, wrote_store hs⟩
  · exact .inl rfl

theorem content_touch (t : Tree) (path : Text) (o : Outcome) :
    ((exec t (.touch path) o).1.content path).getD [] = (t.content path).getD [] := by
  rcases exec_touch t path o with h | ⟨hn, hw⟩
  · rw [h]
  · rw [hw.content_self, content_eq_none hn]
    rfl

/-- Whatever is new is a directory on the way to a path. -/
structure MadeDirs (t t' : Tree) (path : Text) : Prop where
  fresh : ∀ place, t'.node place ≠ t.node place →
    t.node place = none ∧ t'.node place = some .directory ∧ place <:+ location path

theorem exec_mkdir (hp : Plain path) (t : Tree) (o : Outcome) :
    MadeDirs t (exec t (.mkdir path) o).1 path ∧
      ((exec t (.mkdir path) o).2 = true →
        (exec t (.mkdir path) o).1.node (location path) = some .directory) := by
  rw [exec]
  split_ifs with hg
  · cases hm : t.makeDirs [] (components path) with
    | none => exact ⟨⟨fun _ hne => absurd rfl hne⟩, fun h => by cases h⟩
    | some t' =>
      obtain ⟨names, hcut, hn⟩ := Tree.Plain.components_eq hp
      rw [hcut, makeDirs] at hm
      obtain ⟨hl, hf⟩ := makeDirs_eq_some hn t.root hm
      have hpl : names.foldl enter [] = location path := by rw [location, hcut]; rfl
      rw [hpl] at hl hf
      exact ⟨⟨hf⟩, fun _ => hl⟩
  · exact ⟨⟨fun _ hne => absurd rfl hne⟩, fun h => by cases h⟩

theorem MadeDirs.content_eq (h : MadeDirs t t' path) {other : Text} (ho : Plain other) :
    t'.content other = t.content other := by
  rw [content, content, lookup_plain ho, lookup_plain ho]
  by_cases hs : t'.node (location other) = t.node (location other)
  · rw [hs]
  · obtain ⟨hn, ht, -⟩ := h.fresh _ hs
    rw [hn, ht]

/-! ## What an operation leaves alone -/

def Op.touches : Op → Path → Prop
  | .mkdir path, place => ∃ n, place = ((components path).take n).foldl enter []
  | .touch path, place => place = location path
  | .write path _, place => place = location path
  | .append path _, place => place = location path
  | .filter _ _ path, place => place = location path
  | .copy _ path, place => place = location path
  | .rename source path, place => place = location path ∨ place = location source
  | .remove path, place => place = location path
  | .removeTree path, place => location path <:+ place
  | .read _, _ => False
  | .call _ op, place => op.touches place

variable {place : Path}

theorem node_attempt_store (hne : place ≠ location path) {s : Tree}
    (hst : s.node place = t.node place) :
    (attempt t o (store s path content)).1.node place = t.node place := by
  cases hs : store s path content with
  | none => rfl
  | some t' => exact ((wrote_store hs).others place hne).trans hst

theorem node_makeDirs {dir : Path} {names : List Text}
    (hne : ∀ n, place ≠ (names.take n).foldl enter dir) (h : t.makeDirs dir names = some t') :
    t'.node place = t.node place := by
  induction names generalizing t dir with
  | nil =>
    obtain rfl := some.inj h
    rfl
  | cons name names ih =>
    rw [makeDirs] at h
    obtain ⟨t₁, h₁, h⟩ := bind_eq_some_iff.mp h
    have hf : t₁.node place = t.node place := by
      by_contra hc
      exact hne 1 ((makeDir_eq_some h₁).2 place hc).1
    exact (ih (fun n => hne (n + 1)) h).trans hf

theorem of_exec_removeTree (h : (exec t (.removeTree path) o).2 = true) :
    isDotOperand path = false := by
  rw [exec] at h
  split_ifs at h with hdot
  exact hdot.2

/-- **An operation changes only what it touches.** -/
theorem exec_frame {op : Op} (h : ¬op.touches place) (t : Tree) (o : Outcome) :
    (exec t op o).1.node place = t.node place := by
  induction op with
  | mkdir path =>
    rw [exec]
    split_ifs
    · cases hm : t.makeDirs [] (components path) with
      | none => rfl
      | some t' => exact node_makeDirs (fun n e => h ⟨n, e⟩) hm
    · rfl
  | touch path =>
    rcases exec_touch t path o with e | ⟨-, hw⟩
    · rw [e]
    · exact hw.others place h
  | write path content => exact node_attempt_store h rfl
  | append path content => exact node_attempt_store h rfl
  | filter select source path =>
    rw [exec]
    split
    · rfl
    · rename_i t₁ he
      have hf := (wrote_store he).others place h
      split
      · exact hf
      · exact (node_attempt_store h rfl).trans hf
  | copy source path =>
    rw [exec]
    split
    · rfl
    · exact node_attempt_store h rfl
  | rename source path =>
    rw [exec]
    split_ifs
    · split
      · rfl
      · refine node_attempt_store (fun e => h (.inl e)) ?_
        exact (node_discard t source place).resolve_right fun hd => h (.inr hd.1)
    · rfl
  | remove path =>
    rw [exec]
    split_ifs
    · exact (node_discard t path place).resolve_right fun hd => h hd.1
    · rfl
  | removeTree path =>
    rw [exec]
    split_ifs
    · split
      · rfl
      · rename_i found hr
        obtain rfl := resolve_eq_some hr
        exact (node_eraseTree t _ place).trans (if_neg fun hd => h hd.2)
    · rfl
  | read path => rfl
  | call line op ih => exact ih h

theorem sameDirectories_attempt {s : Tree} (hst : t.SameDirectories s) :
    t.SameDirectories (attempt t o (store s path content)).1 := by
  cases hs : store s path content with
  | none => exact .refl t
  | some t' => exact hst.trans (wrote_store hs).directories

/-- Operations on files leave the directories as they are. -/
theorem sameDirectories_exec {op : Op} (h : op.directories = []) (t : Tree) (o : Outcome) :
    t.SameDirectories (exec t op o).1 := by
  induction op with
  | mkdir path => cases h
  | removeTree path => cases h
  | touch path =>
    rcases exec_touch t path o with e | ⟨-, hw⟩
    · rw [e]
      exact .refl t
    · exact hw.directories
  | write path content => exact sameDirectories_attempt (.refl t)
  | append path content => exact sameDirectories_attempt (.refl t)
  | filter select source path =>
    rw [exec]
    split
    · exact .refl t
    · rename_i t₁ he
      have hf := (wrote_store he).directories
      split
      · exact hf
      · exact hf.trans (sameDirectories_attempt (.refl t₁))
  | copy source path =>
    rw [exec]
    split
    · exact .refl t
    · exact sameDirectories_attempt (.refl t)
  | rename source path =>
    rw [exec]
    split_ifs
    · split
      · exact .refl t
      · exact sameDirectories_attempt (sameDirectories_discard t source)
    · exact .refl t
  | remove path =>
    rw [exec]
    split_ifs
    · exact sameDirectories_discard t path
    · exact .refl t
  | read path => exact .refl t
  | call line op ih => exact ih h

theorem Op.touches_files {op : Op} (h : op.directories = [])
    (hp : op.touches place) : ∃ path ∈ op.files, place = location path := by
  induction op with
  | mkdir path => cases h
  | removeTree path => cases h
  | rename source path =>
    rcases hp with e | e
    · exact ⟨path, List.mem_cons_of_mem _ List.mem_cons_self, e⟩
    · exact ⟨source, List.mem_cons_self, e⟩
  | read path => exact hp.elim
  | call line op ih => exact ih h hp
  | _ => exact ⟨_, List.mem_cons_self, hp⟩

/-- **A file operation keeps the content of every file it does not touch.** -/
theorem content_exec {op : Op} (h : op.directories = []) {other : Text}
    (ho : ¬op.touches (location other)) (t : Tree) (o : Outcome) :
    (exec t op o).1.content other = t.content other := by
  refine content_congr ?_
  rw [Tree.lookup, (sameDirectories_exec h t o).resolve_eq, Tree.lookup]
  cases hr : t.resolve other with
  | none => rfl
  | some place =>
    obtain rfl := resolve_eq_some hr
    exact exec_frame ho t o

theorem content_plain (hp : Plain path) (h : t'.node (location path) = t.node (location path)) :
    t'.content path = t.content path :=
  content_congr (by rw [lookup_plain hp, lookup_plain hp, h])

/-! ## Scripts -/

/-- A script: it looks at the files, performs operations and goes on with their exit status. -/
inductive Script (α : Type)
  | done (value : α)
  | look (next : Tree → Script α)
  | perform (op : Op) (next : Bool → Script α)

namespace Script

variable {α β : Type}

def bind : Script α → (α → Script β) → Script β
  | done value, f => f value
  | look next, f => look fun t => (next t).bind f
  | perform op next, f => perform op fun ok => (next ok).bind f

instance : Monad Script where
  pure := done
  bind := bind

def files : Script Tree := look done

def status (op : Op) : Script Bool := perform op done

def exec_ (op : Op) : Script Unit := perform op fun _ => done ()

/-- A script that is called in this line. -/
def call (line : ℕ) : Script α → Script α
  | done value => done value
  | look next => look fun t => (next t).call line
  | perform op next => perform (.call line op) fun ok => (next ok).call line

/-- The outcomes in a call. -/
def inCall (oracle : Op → Outcome) (line : ℕ) (op : Op) : Outcome := oracle (.call line op)

/-- An operation that was performed, with its exit status. -/
structure Event where
  op : Op
  ok : Bool

structure Ran (α : Type) where
  value : α
  tree : Tree
  events : List Event

variable (oracle : Op → Outcome)

def run : Script α → Tree → Ran α
  | done value, t => ⟨value, t, []⟩
  | look next, t => (next t).run t
  | perform op next, t =>
    let result := exec t op (oracle op)
    let rest := (next result.2).run result.1
    ⟨rest.value, rest.tree, ⟨op, result.2⟩ :: rest.events⟩

/-- The files behind the first `n` operations of a run: what a script leaves that is killed there. -/
def filesAfter (n : ℕ) (s : Script α) (t : Tree) : Tree :=
  ((s.run oracle t).events.take n).foldl (fun t event => (exec t event.op (oracle event.op)).1) t

def step : Script α → Tree → Script α × Tree
  | done value, t => (done value, t)
  | look next, t => (next t, t)
  | perform op next, t =>
    let result := exec t op (oracle op)
    (next result.2, result.1)

variable {oracle}

theorem run_bind (s : Script α) (f : α → Script β) (t : Tree) :
    (s >>= f).run oracle t =
      ⟨((f (s.run oracle t).value).run oracle (s.run oracle t).tree).value,
        ((f (s.run oracle t).value).run oracle (s.run oracle t).tree).tree,
        (s.run oracle t).events ++
          ((f (s.run oracle t).value).run oracle (s.run oracle t).tree).events⟩ := by
  change (s.bind f).run oracle t = _
  induction s generalizing t with
  | done value => rfl
  | look next ih => exact ih t t
  | perform op next ih =>
    rw [bind, run, ih, run]
    rfl

variable {s : Script α} {f : α → Script β} {t : Tree}

@[simp] theorem value_bind : ((s >>= f).run oracle t).value =
    ((f (s.run oracle t).value).run oracle (s.run oracle t).tree).value := by rw [run_bind]

@[simp] theorem tree_bind : ((s >>= f).run oracle t).tree =
    ((f (s.run oracle t).value).run oracle (s.run oracle t).tree).tree := by rw [run_bind]

@[simp] theorem events_bind : ((s >>= f).run oracle t).events = (s.run oracle t).events ++
    ((f (s.run oracle t).value).run oracle (s.run oracle t).tree).events := by rw [run_bind]

@[simp] theorem run_pure (v : α) : (pure v : Script α).run oracle t = ⟨v, t, []⟩ := rfl

@[simp] theorem run_files : files.run oracle t = ⟨t, t, []⟩ := rfl

theorem run_files_bind (f : Tree → Script β) : (files >>= f).run oracle t = (f t).run oracle t := rfl

@[simp] theorem run_status (op : Op) : (status op).run oracle t =
    ⟨(exec t op (oracle op)).2, (exec t op (oracle op)).1, [⟨op, (exec t op (oracle op)).2⟩]⟩ := rfl

@[simp] theorem run_exec_ (op : Op) : (exec_ op).run oracle t =
    ⟨(), (exec t op (oracle op)).1, [⟨op, (exec t op (oracle op)).2⟩]⟩ := rfl

/-- **A call runs as the script does, on its own outcomes.** -/
theorem run_call (line : ℕ) (s : Script α) (t : Tree) : (s.call line).run oracle t =
    ⟨(s.run (inCall oracle line) t).value, (s.run (inCall oracle line) t).tree,
      (s.run (inCall oracle line) t).events.map fun event => ⟨.call line event.op, event.ok⟩⟩ := by
  induction s generalizing t with
  | done value => rfl
  | look next ih => exact ih t t
  | perform op next ih =>
    rw [call, run, ih]
    rfl

@[simp] theorem value_call (line : ℕ) :
    ((s.call line).run oracle t).value = (s.run (inCall oracle line) t).value := by rw [run_call]

@[simp] theorem tree_call (line : ℕ) :
    ((s.call line).run oracle t).tree = (s.run (inCall oracle line) t).tree := by rw [run_call]

variable {op : Op}

theorem run_check_of_false (h : (exec t op (oracle op)).2 = false) (no yes : Script α) :
    (do if !(← status op) then no else yes : Script α).run oracle t =
      ⟨(no.run oracle (exec t op (oracle op)).1).value,
        (no.run oracle (exec t op (oracle op)).1).tree,
        ⟨op, false⟩ :: (no.run oracle (exec t op (oracle op)).1).events⟩ := by
  rw [run_bind, run_status]
  dsimp only
  rw [h]
  rfl

theorem run_check_of_true (h : (exec t op (oracle op)).2 = true) (no yes : Script α) :
    (do if !(← status op) then no else yes : Script α).run oracle t =
      ⟨(yes.run oracle (exec t op (oracle op)).1).value,
        (yes.run oracle (exec t op (oracle op)).1).tree,
        ⟨op, true⟩ :: (yes.run oracle (exec t op (oracle op)).1).events⟩ := by
  rw [run_bind, run_status]
  dsimp only
  rw [h]
  rfl

/-- What is left of a run when its operations are forgotten. -/
def Ran.result (ran : Ran α) : α × Tree := (ran.value, ran.tree)

theorem result_bind (s : Script α) (f : α → Script β) : ((s >>= f).run oracle t).result =
    ((f (s.run oracle t).value).run oracle (s.run oracle t).tree).result := by
  rw [run_bind]
  rfl

theorem result_check {t' : Tree} (h : exec t op (oracle op) = (t', true)) (no yes : Script α) :
    ((do if !(← status op) then no else yes : Script α).run oracle t).result =
      (yes.run oracle t').result := by
  rw [run_check_of_true (by rw [h]), h]
  rfl

/-- A script that checks its first operation, by the status of this operation. -/
theorem check_cases {P : α × Tree → Prop} {no yes : Script α}
    (hno : ∀ t', exec t op (oracle op) = (t', false) → P (no.run oracle t').result)
    (hyes : ∀ t', exec t op (oracle op) = (t', true) → P (yes.run oracle t').result) :
    P ((do if !(← status op) then no else yes : Script α).run oracle t).result := by
  cases he : exec t op (oracle op) with
  | mk t' ok =>
    cases ok with
    | false =>
      rw [run_check_of_false (by rw [he]), he]
      exact hno t' he
    | true =>
      rw [result_check he]
      exact hyes t' he

theorem result_exec_bind {t' : Tree} (h : (exec t op (oracle op)).1 = t') (f : Unit → Script α) :
    ((exec_ op >>= f).run oracle t).result = ((f ()).run oracle t').result := by
  rw [run_bind, run_exec_, ← h]
  rfl

theorem filesAfter_of_le {n : ℕ} (h : (s.run oracle t).events.length ≤ n) :
    s.filesAfter oracle n t = (s.run oracle t).tree := by
  rw [filesAfter, List.take_of_length_le h]
  clear h
  induction s generalizing t with
  | done value => rfl
  | look next ih => exact ih t
  | perform op next ih => exact ih _

theorem events_perform_ne_nil (op : Op) (next : Bool → Script α) :
    ((perform op next).run oracle t).events ≠ [] := List.cons_ne_nil _ _

theorem events_bind_ne_nil (h : (s.run oracle t).events ≠ []) :
    ((s >>= f).run oracle t).events ≠ [] := by
  rw [events_bind]
  exact List.append_ne_nil_of_left_ne_nil h _

/-- Every operation that the script can perform has `P`. -/
def Uses (P : Op → Prop) : Script α → Prop
  | done _ => True
  | look next => ∀ t, (next t).Uses P
  | perform op next => P op ∧ ∀ ok, (next ok).Uses P

variable {P : Op → Prop}

theorem Uses.bind (hs : s.Uses P) (hf : ∀ value, (f value).Uses P) :
    (s >>= f).Uses P := by
  change (s.bind f).Uses P
  induction s with
  | done value => exact hf value
  | look next ih => exact fun t => ih t (hs t)
  | perform op next ih => exact ⟨hs.1, fun ok => ih ok (hs.2 ok)⟩

theorem Uses.mono {Q : Op → Prop} (h : s.Uses P) (himp : ∀ op, P op → Q op) : s.Uses Q := by
  induction s with
  | done value => trivial
  | look next ih => exact fun t => ih t (h t)
  | perform op next ih => exact ⟨himp op h.1, fun ok => ih ok (h.2 ok)⟩

theorem Uses.call {line : ℕ} (h : s.Uses fun op => P (.call line op)) :
    (s.call line).Uses P := by
  induction s with
  | done value => trivial
  | look next ih => exact fun t => ih t (h t)
  | perform op next ih => exact ⟨h.1, fun ok => ih ok (h.2 ok)⟩

theorem uses_files : files.Uses P := fun _ => trivial

theorem uses_status (h : P op) : (status op).Uses P :=
  ⟨h, fun _ => trivial⟩

theorem uses_exec_ (h : P op) : (exec_ op).Uses P :=
  ⟨h, fun _ => trivial⟩

theorem uses_ite {c : Prop} [Decidable c] {s₁ s₂ : Script α} (h₁ : s₁.Uses P)
    (h₂ : s₂.Uses P) : (if c then s₁ else s₂).Uses P := by
  split_ifs
  · exact h₁
  · exact h₂

theorem Uses.events (h : s.Uses P) (t : Tree) :
    ∀ event ∈ (s.run oracle t).events, P event.op := by
  induction s generalizing t with
  | done value => exact nofun
  | look next ih => exact ih t (h t) t
  | perform op next ih => exact List.forall_mem_cons.mpr ⟨h.1, ih _ (h.2 _) _⟩

/-- **A script that touches a place nowhere leaves it alone.** -/
theorem Uses.frame {place : Path} (h : s.Uses fun op => ¬op.touches place) (t : Tree) :
    (s.run oracle t).tree.node place = t.node place := by
  induction s generalizing t with
  | done value => rfl
  | look next ih => exact ih t (h t) t
  | perform op next ih => exact (ih _ (h.2 _) _).trans (exec_frame h.1 t _)

theorem Uses.sameDirectories (h : s.Uses fun op => op.directories = []) (t : Tree) :
    t.SameDirectories (s.run oracle t).tree := by
  induction s generalizing t with
  | done value => exact .refl t
  | look next ih => exact ih t (h t) t
  | perform op next ih => exact (sameDirectories_exec h.1 t _).trans (ih _ (h.2 _) _)

theorem Uses.content_eq {path : Text}
    (h : s.Uses fun op => op.directories = [] ∧ ¬op.touches (location path)) (t : Tree) :
    (s.run oracle t).tree.content path = t.content path := by
  induction s generalizing t with
  | done value => rfl
  | look next ih => exact ih t (h t) t
  | perform op next ih => exact (ih _ (h.2 _) _).trans (content_exec h.1.1 h.1.2 t _)

theorem Uses.run_congr {o : Op → Outcome} (h : s.Uses fun op => o op = oracle op) (t : Tree) :
    s.run o t = s.run oracle t := by
  induction s generalizing t with
  | done value => rfl
  | look next ih => exact ih t (h t) t
  | perform op next ih =>
    rw [run, run, h.1, ih _ (h.2 _)]

/-- Every value that a script can end with, whatever it finds and whichever operation fails. -/
def Returns (P : α → Prop) : Script α → Prop
  | done value => P value
  | look next => ∀ t, (next t).Returns P
  | perform _ next => ∀ ok, (next ok).Returns P

theorem Returns.bind {P : β → Prop} {Q : α → Prop} (hs : s.Returns Q)
    (hf : ∀ value, Q value → (f value).Returns P) : (s >>= f).Returns P := by
  change (Script.bind s f).Returns P
  induction s with
  | done value => exact hf value hs
  | look next ih => exact fun t => ih t (hs t)
  | perform op next ih => exact fun ok => ih ok (hs ok)

theorem Returns.value {P : α → Prop} (h : s.Returns P) (t : Tree) : P (s.run oracle t).value := by
  induction s generalizing t with
  | done value => exact h
  | look next ih => exact ih t (h t) t
  | perform op next ih => exact ih _ (h _) _

theorem returns_ite {P : α → Prop} {c : Prop} [Decidable c] {s₁ s₂ : Script α}
    (h₁ : c → s₁.Returns P) (h₂ : ¬c → s₂.Returns P) : (if c then s₁ else s₂).Returns P := by
  split_ifs with h
  · exact h₁ h
  · exact h₂ h

theorem returns_any (s : Script α) : s.Returns fun _ => True := by
  induction s with
  | done value => trivial
  | look next ih => exact ih
  | perform op next ih => exact ih

def AllOk (events : List Event) : Prop := ∀ event ∈ events, event.ok = true

instance (events : List Event) : Decidable (AllOk events) :=
  List.decidableBAll (fun event : Event => event.ok = true) events

@[simp] theorem allOk_append {first second : List Event} :
    AllOk (first ++ second) ↔ AllOk first ∧ AllOk second := List.forall_mem_append

@[simp] theorem allOk_cons {e : Event} {events : List Event} :
    AllOk (e :: events) ↔ e.ok = true ∧ AllOk events := List.forall_mem_cons

end Script

def noFailure : Op → Outcome := fun _ => .ok

end Shell
