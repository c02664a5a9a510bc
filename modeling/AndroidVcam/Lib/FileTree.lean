import AndroidVcam.Lib.TextFile

/-!
# Directories and files

A tree of directories and files without links. A `Path` is the place of an entry, its names from the
inside out; a path text is followed component by component as the kernel does it, so an intermediate
component has to be a directory even when a later `..` leaves it.

* `components`, `location`: the place that a path text denotes; `Plain`: an absolute text without
  dot components;
* **`resolve_eq_some`**: a text that can be followed ends at its `location`;
* **`lookup_plain`**: a plain text is looked up at its place, without following it.
-/

namespace FileTree

open TextFile List Function Option

/-! ## Paths -/

/-- The names on the way to an entry, innermost first. -/
abbrev Path := List Text

def components (path : Text) : List Text := splitAll '/' path

def enter (dir : Path) (name : Text) : Path :=
  if name = [] ∨ name = ['.'] then dir else if name = ['.', '.'] then dir.tail else name :: dir

def location (path : Text) : Path := (components path).foldl enter []

/-- A component that is the name of an entry. -/
structure Proper (name : Text) : Prop where
  ne_nil : name ≠ []
  ne_dot : name ≠ ['.']
  ne_dots : name ≠ ['.', '.']
  slash : '/' ∉ name

theorem proper_iff (name : Text) : Proper name ↔
    (name ≠ [] ∧ name ≠ ['.']) ∧ name ≠ ['.', '.'] ∧ '/' ∉ name :=
  ⟨fun h => ⟨⟨h.ne_nil, h.ne_dot⟩, h.ne_dots, h.slash⟩, fun h => ⟨h.1.1, h.1.2, h.2.1, h.2.2⟩⟩

instance (name : Text) : Decidable (Proper name) := decidable_of_iff _ (proper_iff name).symm

theorem Proper.append {name more : Text} (h : Proper name) (hm : '/' ∉ more) :
    Proper (name ++ more) where
  ne_nil := fun e => h.ne_nil (append_eq_nil_iff.mp e).1
  ne_dot := fun e => by
    rcases append_eq_singleton_iff.mp e with ⟨hn, -⟩ | ⟨hn, -⟩
    · exact h.ne_nil hn
    · exact h.ne_dot hn
  ne_dots := fun e => by
    obtain ⟨first, rest, rfl⟩ := exists_cons_of_ne_nil h.ne_nil
    obtain ⟨rfl, hr⟩ := List.cons.inj e
    rcases append_eq_singleton_iff.mp hr with ⟨rfl, -⟩ | ⟨rfl, -⟩
    · exact h.ne_dot rfl
    · exact h.ne_dots rfl
  slash := fun e => (mem_append.mp e).elim h.slash hm

theorem enter_proper {name : Text} (h : Proper name) (dir : Path) : enter dir name = name :: dir := by
  rw [enter, if_neg (not_or.mpr ⟨h.ne_nil, h.ne_dot⟩), if_neg h.ne_dots]

theorem components_slash (a b : Text) : components (a ++ '/' :: b) = components a ++ components b :=
  splitAll_append '/' a b

theorem components_name {name : Text} (h : '/' ∉ name) : components name = [name] :=
  splitAll_of_notMem h

theorem location_slash (a b : Text) :
    location (a ++ '/' :: b) = (components b).foldl enter (location a) := by
  rw [location, components_slash, foldl_append, location]

theorem location_child {name : Text} (h : Proper name) (dir : Text) :
    location (dir ++ '/' :: name) = name :: location dir := by
  rw [location_slash, components_name h.slash]
  exact enter_proper h _

theorem suffix_foldl_enter {n : List Text} {dir : Path} (h : ∀ name ∈ n, Proper name) :
    dir <:+ n.foldl enter dir := by
  induction n generalizing dir with
  | nil => exact suffix_rfl
  | cons name n ih =>
    have hr := @ih (enter dir name) fun other hm => h other (mem_cons_of_mem _ hm)
    rw [enter_proper (h name mem_cons_self)] at hr
    rw [foldl_cons, enter_proper (h name mem_cons_self)]
    exact (suffix_cons _ _).trans hr

/-- An absolute path text without empty and dot components. -/
def Plain (path : Text) : Prop :=
  (components path).head? = some [] ∧ ∀ name ∈ (components path).tail, Proper name

instance (path : Text) : Decidable (Plain path) := by
  unfold Plain
  exact inferInstanceAs (Decidable (_ ∧ _))

/-! ## Trees -/

inductive Node
  | directory
  | file (content : Text)
deriving DecidableEq

/-- The entries of a device. Whatever exists stands in a directory. -/
structure Tree where
  node : Path → Option Node
  root : node [] = some .directory
  parent : ∀ name dir, node (name :: dir) ≠ none → node dir = some .directory

namespace Tree

variable (t : Tree)

def empty : Tree where
  node := fun path => if path = [] then some .directory else none
  root := if_pos rfl
  parent := fun _ _ h => absurd (if_neg (cons_ne_nil _ _)) h

def walk : Path → List Text → Option Path
  | dir, [] => some dir
  | dir, name :: names =>
    if t.node dir = some .directory then walk (enter dir name) names else none

def resolve (path : Text) : Option Path := t.walk [] (components path)

def lookup (path : Text) : Option Node := (t.resolve path).bind t.node

/-- `[ -e path ]`. -/
def isThere (path : Text) : Bool := (t.lookup path).isSome

/-- `[ -d path ]`. -/
def isDirectory (path : Text) : Bool := t.lookup path == some .directory

def content (path : Text) : Option Text :=
  match t.lookup path with
  | some (.file content) => some content
  | _ => none

/-- `[ -f path ]`. -/
def isFile (path : Text) : Bool := (t.content path).isSome

/-- `[ -s path ]` of a file. -/
def hasSize (path : Text) : Bool := (t.content path).any fun content => !content.isEmpty

def files : FileSystem := fun path => (t.content path).map fun content => ⟨content, true⟩

theorem openText_files (path : Text) : t.files.openText path = t.content path := by
  rw [FileSystem.openText, files]
  cases t.content path <;> rfl

/-! ## Following a path -/

variable {t} {path : Text} {dir place : Path} {names : List Text}

theorem node_tail_of_directory (h : t.node dir = some .directory) :
    t.node dir.tail = some .directory := by
  cases dir with
  | nil => exact h
  | cons name dir => exact t.parent name dir (by rw [h]; exact some_ne_none _)

theorem walk_append (f second : List Text) :
    t.walk dir (f ++ second) = (t.walk dir f).bind fun dir => t.walk dir second := by
  induction f generalizing dir with
  | nil => rfl
  | cons name names ih =>
    rw [cons_append, walk, walk, ih]
    split_ifs <;> rfl

theorem walk_eq_some (h : t.walk dir names = some place) : place = names.foldl enter dir := by
  induction names generalizing dir with
  | nil => exact (some.inj h).symm
  | cons name names ih =>
    rw [walk] at h
    split_ifs at h
    exact ih h

/-- **A text that can be followed ends at its place.** -/
theorem resolve_eq_some (h : t.resolve path = some place) : place = location path := walk_eq_some h

theorem resolve_slash (a b : Text) :
    t.resolve (a ++ '/' :: b) = (t.resolve a).bind fun dir => t.walk dir (components b) := by
  rw [resolve, components_slash, walk_append, resolve]

/-- Proper components are followed as soon as the last directory is there. -/
theorem walk_proper (hn : ∀ name ∈ names, Proper name)
    (h : t.node (names.foldl enter dir) ≠ none) :
    t.walk dir names = some (names.foldl enter dir) := by
  induction names using reverseRecOn with
  | nil => rfl
  | append_singleton names name ih =>
    have hna : Proper name := hn name (by simp)
    rw [foldl_append] at h ⊢
    change t.node (enter (names.foldl enter dir) name) ≠ none at h
    rw [enter_proper hna] at h
    have hp := t.parent _ _ h
    have hw := ih (fun other hm => hn other (by simp [hm]))
      (by rw [hp]; exact some_ne_none _)
    rw [walk_append, hw, bind_some, walk, if_pos hp, walk]
    rfl

theorem Plain.components_eq (h : Plain path) : ∃ names, components path = [] :: names ∧
    ∀ name ∈ names, Proper name := by
  obtain ⟨first, rest, hcut⟩ := exists_cons_of_ne_nil (splitAll_ne_nil '/' path)
  have hcut : components path = first :: rest := hcut
  rw [Plain, hcut] at h
  have hf : first = [] := some.inj h.1
  exact ⟨rest, by rw [hcut, hf], h.2⟩

theorem resolve_plain (hp : Plain path) (h : t.node (location path) ≠ none) :
    t.resolve path = some (location path) := by
  obtain ⟨names, hcut, hn⟩ := Plain.components_eq hp
  rw [location, hcut] at h
  rw [resolve, location, hcut, walk, if_pos t.root]
  exact walk_proper hn h

/-- **A plain text is looked up at its place.** -/
theorem lookup_plain (hp : Plain path) (t : Tree) : t.lookup path = t.node (location path) := by
  by_cases h : t.node (location path) = none
  · rw [lookup]
    cases hr : t.resolve path with
    | none => exact h.symm
    | some place => rw [bind_some, resolve_eq_some hr]
  · rw [lookup, resolve_plain hp h, bind_some]

/-! ## Changes -/

variable (t)

def put : Path → Text → Option Tree
  | [], _ => none
  | name :: dir, content =>
    if h : t.node dir = some .directory ∧ t.node (name :: dir) ≠ some .directory then
      some {
        node := update t.node (name :: dir) (some (.file content))
        root := by
          rw [update_of_ne (cons_ne_nil _ _).symm]
          exact t.root
        parent := by
          intro other d hd
          have hne : d ≠ name :: dir := by
            rintro rfl
            rw [update_of_ne (cons_ne_self _ _)] at hd
            exact h.2 (t.parent _ _ hd)
          rw [update_of_ne hne]
          by_cases hplace : other :: d = name :: dir
          · obtain ⟨-, rfl⟩ := List.cons.inj hplace
            exact h.1
          · rw [update_of_ne hplace] at hd
            exact t.parent _ _ hd }
    else none

def erase (place : Path) : Tree :=
  if h : t.node place ≠ some .directory then
    { node := update t.node place none
      root := by
        have hne : [] ≠ place := fun e => h (e ▸ t.root)
        rw [update_of_ne hne]
        exact t.root
      parent := by
        intro name dir hd
        have hname : name :: dir ≠ place := by
          rintro rfl
          rw [update_self] at hd
          exact hd rfl
        rw [update_of_ne hname] at hd
        have hdir := t.parent _ _ hd
        have hne : dir ≠ place := fun e => h (e ▸ hdir)
        rw [update_of_ne hne]
        exact hdir }
  else t

def eraseTree (place : Path) : Tree where
  node := fun q => if place ≠ [] ∧ place <:+ q then none else t.node q
  root := by
    rw [if_neg fun h => h.1 (suffix_nil.mp h.2)]
    exact t.root
  parent := by
    intro name dir hd
    have hkept : ¬(place ≠ [] ∧ place <:+ name :: dir) := fun h => hd (if_pos h)
    rw [if_neg hkept] at hd
    rw [if_neg fun h => hkept ⟨h.1, h.2.trans (suffix_cons _ _)⟩]
    exact t.parent _ _ hd

def makeDir : Path → Option Tree
  | [] => some t
  | name :: dir =>
    if t.node (name :: dir) = some .directory then some t
    else if h : t.node dir = some .directory ∧ t.node (name :: dir) = none then
      some {
        node := update t.node (name :: dir) (some .directory)
        root := by
          rw [update_of_ne (cons_ne_nil _ _).symm]
          exact t.root
        parent := by
          intro other d hd
          by_cases hd' : d = name :: dir
          · rw [hd', update_self]
          · rw [update_of_ne hd']
            by_cases hplace : other :: d = name :: dir
            · obtain ⟨-, rfl⟩ := List.cons.inj hplace
              exact h.1
            · rw [update_of_ne hplace] at hd
              exact t.parent _ _ hd }
    else none

/-- `mkdir -p`: the directories on the way, one after the other. -/
def makeDirs : Tree → Path → List Text → Option Tree
  | t, _, [] => some t
  | t, dir, name :: names =>
    (t.makeDir (enter dir name)).bind fun t => t.makeDirs (enter dir name) names

variable {t} {t' : Tree} {content : Text}

def SameDirectories (t t' : Tree) : Prop :=
  ∀ place, t'.node place = some .directory ↔ t.node place = some .directory

theorem SameDirectories.walk_eq (h : SameDirectories t t') (dir : Path) (names : List Text) :
    t'.walk dir names = t.walk dir names := by
  induction names generalizing dir with
  | nil => rfl
  | cons name names ih =>
    rw [walk, walk, ih]
    exact if_congr (h dir) rfl rfl

theorem SameDirectories.resolve_eq (h : SameDirectories t t') (path : Text) :
    t'.resolve path = t.resolve path := h.walk_eq [] _

theorem SameDirectories.refl (t : Tree) : SameDirectories t t := fun _ => Iff.rfl

theorem SameDirectories.symm (h : SameDirectories t t') : SameDirectories t' t :=
  fun place => (h place).symm

theorem SameDirectories.trans {t'' : Tree} (h : SameDirectories t t')
    (h' : SameDirectories t' t'') : SameDirectories t t'' := fun place => (h' place).trans (h place)

theorem put_eq_some (h : t.put place content = some t') :
    ∃ name dir, place = name :: dir ∧ t.node dir = some .directory ∧
      t.node place ≠ some .directory ∧
      t'.node = update t.node place (some (.file content)) := by
  cases place with
  | nil => cases h
  | cons name dir =>
    rw [put] at h
    split_ifs at h with hp
    obtain rfl := some.inj h
    exact ⟨name, dir, rfl, hp.1, hp.2, rfl⟩

theorem node_put (h : t.put place content = some t') (q : Path) :
    t'.node q = if q = place then some (.file content) else t.node q := by
  obtain ⟨name, dir, -, -, -, hn⟩ := put_eq_some h
  rw [hn, update_apply]

theorem sameDirectories_put (h : t.put place content = some t') : SameDirectories t t' := by
  intro q
  obtain ⟨name, dir, -, -, hp, -⟩ := put_eq_some h
  rw [node_put h]
  split_ifs with hq
  · exact iff_of_false (fun e => by cases e) (hq ▸ hp)
  · exact Iff.rfl

theorem put_isSome {name : Text} (hdir : t.node dir = some .directory)
    (hp : t.node (name :: dir) ≠ some .directory) (c : Text) :
    ∃ t', t.put (name :: dir) c = some t' := by
  rw [put, dif_pos ⟨hdir, hp⟩]
  exact ⟨_, rfl⟩

theorem node_erase (t : Tree) (p q : Path) : (t.erase p).node q =
    if q = p ∧ t.node p ≠ some .directory then none else t.node q := by
  rw [erase]
  split_ifs with h hq hq
  · exact hq.1 ▸ update_self ..
  · exact update_of_ne (fun e => hq ⟨e, h⟩) ..
  · exact absurd hq.2 h
  · rfl

theorem sameDirectories_erase (t : Tree) (p : Path) : SameDirectories t (t.erase p) := by
  intro q
  rw [node_erase]
  split_ifs with hq
  · exact iff_of_false (fun e => by cases e) (hq.1 ▸ hq.2)
  · exact Iff.rfl

theorem node_eraseTree (t : Tree) (p q : Path) : (t.eraseTree p).node q =
    if p ≠ [] ∧ p <:+ q then none else t.node q := rfl

theorem makeDir_eq_some (h : t.makeDir place = some t') :
    t'.node place = some .directory ∧ ∀ q, t'.node q ≠ t.node q →
      q = place ∧ t.node q = none := by
  cases place with
  | nil =>
    obtain rfl := some.inj h
    exact ⟨t.root, fun q hq => absurd rfl hq⟩
  | cons name dir =>
    rw [makeDir] at h
    split_ifs at h with ht hnew
    · obtain rfl := some.inj h
      exact ⟨ht, fun q hq => absurd rfl hq⟩
    · obtain rfl := some.inj h
      refine ⟨update_self .., fun q hq => ?_⟩
      by_cases e : q = name :: dir
      · exact ⟨e, e ▸ hnew.2⟩
      · exact absurd (update_of_ne e ..) hq

/-- What `mkdir -p` leaves behind: the last directory is there, and whatever is new is a directory
on the way to it. -/
theorem makeDirs_eq_some (hna : ∀ name ∈ names, Proper name)
    (hdir : t.node dir = some .directory) (h : t.makeDirs dir names = some t') :
    t'.node (names.foldl enter dir) = some .directory ∧ ∀ q, t'.node q ≠ t.node q →
      t.node q = none ∧ t'.node q = some .directory ∧ q <:+ names.foldl enter dir := by
  induction names generalizing t dir with
  | nil =>
    obtain rfl := some.inj h
    exact ⟨hdir, fun q hq => absurd rfl hq⟩
  | cons name names ih =>
    rw [makeDirs] at h
    obtain ⟨t₁, h₁, h⟩ := bind_eq_some_iff.mp h
    obtain ⟨hp, hnew⟩ := makeDir_eq_some h₁
    obtain ⟨hl, hr⟩ := ih (fun other hm => hna other (mem_cons_of_mem _ hm)) hp h
    refine ⟨hl, fun q hq => ?_⟩
    by_cases h₂ : t'.node q = t₁.node q
    · obtain ⟨rfl, hn⟩ := hnew q (h₂ ▸ hq)
      exact ⟨hn, h₂.trans hp, suffix_foldl_enter fun other hm =>
        hna other (mem_cons_of_mem _ hm)⟩
    · obtain ⟨hn, ht, hs⟩ := hr q h₂
      refine ⟨?_, ht, hs⟩
      by_cases h₃ : t₁.node q = t.node q
      · exact h₃ ▸ hn
      · exact (hnew q h₃).2

end Tree

end FileTree
