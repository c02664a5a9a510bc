import AndroidVcam.Controller.Providers

/-!
# The `meta` file of a provider

A `meta` file has lines `key=value`. The commands that change it filter the old lines and append new
ones; `meta_value` takes the first line with its key.

* **`sedValue_cut_iff`**: fields that were written in part hold their last value exactly when no
  character in front of the last newline is missing.
-/

namespace Vcam

open TextFile List

namespace Controller

/-! ## Lines -/

def lineValue (key : String) (line : Text) : Option Text := (key.toList ++ ['=']).isPrefixOf? line

theorem sedValue_eq (key : String) (text : Text) :
    sedValue key text = ((getlines text).findSome? (lineValue key)).getD [] := rfl

variable {key : String} {field : String × Text} {fi : List (String × Text)}

theorem lineValue_eq_some {line v : Text} :
    lineValue key line = some v ↔ line = fieldLine (key.toList, v) := by
  rw [lineValue, isPrefixOf?_eq_some_iff_append_eq, append_assoc]
  exact eq_comm

theorem key_eq_of_fieldLine {a b v w : Text} (ha : '=' ∉ a) (hb : '=' ∉ b)
    (h : fieldLine (a, v) = fieldLine (b, w)) : a = b ∧ v = w := by
  have hs := splitFirst_append ha v
  rw [show a ++ '=' :: v = b ++ '=' :: w from h, splitFirst_append hb w] at hs
  obtain ⟨hkey, hv⟩ := Prod.mk.inj (Option.some.inj hs)
  exact ⟨hkey.symm, hv.symm⟩

def PlainKey (key : String) : Prop := '=' ∉ key.toList ∧ '\n' ∉ key.toList

instance (key : String) : Decidable (PlainKey key) := inferInstanceAs (Decidable (_ ∧ _))

theorem lineValue_fieldLine {o : String} (hkey : PlainKey key) (ho : PlainKey o)
    (value : Text) :
    lineValue key (fieldLine (o.toList, value)) = if key = o then some value else none := by
  split_ifs with h
  · rw [h]
    exact lineValue_eq_some.mpr rfl
  · rw [Option.eq_none_iff_forall_ne_some]
    intro v hv
    have hk := (key_eq_of_fieldLine ho.1 hkey.1 (lineValue_eq_some.mp hv)).1
    exact h (String.toList_inj.mp hk.symm)

theorem getlines_append (lines : List Text) (h : ∀ l ∈ lines, '\n' ∉ l) (rest : Text) :
    getlines ((lines.flatMap fun l => l ++ ['\n']) ++ rest) = lines ++ getlines rest := by
  induction lines with
  | nil => rfl
  | cons l lines ih =>
    rw [flatMap_cons, append_assoc, append_assoc, singleton_append,
      getlines_line (h l mem_cons_self), ih fun l hl => h l (mem_cons_of_mem _ hl),
      cons_append]

theorem getlines_of_notMem {text : Text} (h : '\n' ∉ text) :
    getlines text = if text = [] then [] else [text] := by
  induction text with
  | nil => rfl
  | cons c text ih =>
    have hc : c ≠ '\n' := fun e => h (by simp [e])
    rw [getlines, if_neg hc, ih fun hm => h (mem_cons_of_mem _ hm)]
    by_cases ht : text = []
    · simp [ht]
    · simp [ht]

/-! ## Changing fields -/

def fieldsText (fields : List (String × Text)) : Text :=
  fields.flatMap fun field => metaLine field.1 field.2

def fieldLines (fields : List (String × Text)) : List Text :=
  fields.map fun field => fieldLine (field.1.toList, field.2)

structure PlainFields (fields : List (String × Text)) : Prop where
  keys : ∀ field ∈ fields, PlainKey field.1
  values : ∀ field ∈ fields, '\n' ∉ field.2

theorem newline_notMem_fieldLine (hkey : PlainKey field.1)
    (hv : '\n' ∉ field.2) : '\n' ∉ fieldLine (field.1.toList, field.2) := by
  rw [fieldLine, mem_append, mem_cons]
  rintro (h | h | h)
  · exact hkey.2 h
  · exact absurd h (by decide)
  · exact hv h

theorem PlainFields.lines (h : PlainFields fi) :
    ∀ l ∈ fieldLines fi, '\n' ∉ l := by
  intro l hl
  obtain ⟨field, hf, rfl⟩ := mem_map.mp hl
  exact newline_notMem_fieldLine (h.keys field hf) (h.values field hf)

theorem fieldsText_eq (f : List (String × Text)) :
    fieldsText f = (fieldLines f).flatMap fun l => l ++ ['\n'] := by
  rw [fieldsText, fieldLines, flatMap_map]
  rfl

theorem dropKeys_eq (keys : List String) (text : Text) :
    dropKeys keys text = ((getlines text).filter fun line =>
      !keys.any fun key => (key.toList ++ ['=']).isPrefixOf line).flatMap fun l => l ++ ['\n'] := rfl

theorem getlines_dropKeys_append (keys : List String) (text more : Text) :
    getlines (dropKeys keys text ++ more) = ((getlines text).filter fun line =>
      !keys.any fun key => (key.toList ++ ['=']).isPrefixOf line) ++ getlines more := by
  rw [dropKeys_eq, getlines_append]
  exact fun l hl => newline_notMem_of_mem_getlines (mem_of_mem_filter hl)

theorem isPrefixOf_eq_isSome (key : String) (line : Text) :
    (key.toList ++ ['=']).isPrefixOf line = (lineValue key line).isSome := by
  rw [lineValue, isSome_isPrefixOf?_eq_isPrefixOf]

/-- **A key that is not dropped keeps its value**, when it has one. -/
theorem sedValue_dropKeys_of_notMem {keys : List String} (hkey : PlainKey key)
    (hke : ∀ k ∈ keys, PlainKey k) (hnot : key ∉ keys) {text value : Text}
    (hva : (getlines text).findSome? (lineValue key) = some value) (more : Text) :
    sedValue key (dropKeys keys text ++ more) = value := by
  have hf : ∀ lines : List Text, (lines.filter fun line =>
      !keys.any fun k => (k.toList ++ ['=']).isPrefixOf line).findSome? (lineValue key) =
      lines.findSome? (lineValue key) := by
    intro lines
    induction lines with
    | nil => rfl
    | cons line lines ih =>
      by_cases hd : (keys.any fun k => (k.toList ++ ['=']).isPrefixOf line) = true
      · -- A line that is dropped has another key.
        obtain ⟨k, hk, hl⟩ := any_eq_true.mp hd
        rw [isPrefixOf_eq_isSome] at hl
        obtain ⟨v, hv⟩ := Option.isSome_iff_exists.mp hl
        have hne : key ≠ k := fun he => hnot (he ▸ hk)
        have hn : lineValue key line = none := by
          rw [lineValue_eq_some.mp hv, lineValue_fieldLine hkey (hke k hk), if_neg hne]
        rw [filter_cons_of_neg (by simp [hd]), ih, findSome?_cons, hn]
      · rw [filter_cons_of_pos (by simpa using hd), findSome?_cons,
          findSome?_cons, ih]
  rw [sedValue_eq, getlines_dropKeys_append, findSome?_append, hf, hva]
  rfl

theorem sedValue_dropKeys_of_mem {keys : List String} (hkey : key ∈ keys)
    (text more : Text) : sedValue key (dropKeys keys text ++ more) = sedValue key more := by
  have hn : ((getlines text).filter fun line =>
      !keys.any fun k => (k.toList ++ ['=']).isPrefixOf line).findSome? (lineValue key) = none := by
    rw [findSome?_eq_none_iff]
    intro line hl
    have hk := (mem_filter.mp hl).2
    rw [Bool.not_eq_true', any_eq_false] at hk
    have hno := hk key hkey
    rw [isPrefixOf_eq_isSome, Bool.not_eq_true, Option.isSome_eq_false_iff,
      Option.isNone_iff_eq_none] at hno
    exact hno
  rw [sedValue_eq, getlines_dropKeys_append, findSome?_append, hn, Option.none_or,
    sedValue_eq]

/-- The first line with a key among lines with different keys. -/
theorem findSome?_fieldLines (hk : ∀ field ∈ fi, PlainKey field.1)
    (hn : (fi.map Prod.fst).Nodup) (hfi : field ∈ fi) :
    (fieldLines fi).findSome? (lineValue field.1) = some field.2 := by
  induction fi with
  | nil => cases hfi
  | cons first fi ih =>
    rw [map_cons, nodup_cons] at hn
    have hp := hk field hfi
    rw [fieldLines, map_cons, findSome?_cons,
      lineValue_fieldLine hp (hk first mem_cons_self)]
    rcases mem_cons.mp hfi with rfl | hmem
    · rw [if_pos rfl]
    · have hne : field.1 ≠ first.1 := fun he => hn.1 (he ▸ mem_map_of_mem hmem)
      rw [if_neg hne]
      exact ih (fun f hf => hk f (mem_cons_of_mem _ hf)) hn.2 hmem

theorem sedValue_fieldsText (hp : PlainFields fi) (hn : (fi.map Prod.fst).Nodup)
    (hf : field ∈ fi) :
    sedValue field.1 (fieldsText fi) = field.2 := by
  have hl := getlines_append (fieldLines fi) hp.lines []
  rw [append_nil, ← fieldsText_eq] at hl
  rw [sedValue_eq, hl, getlines, append_nil, findSome?_fieldLines hp.keys hn hf]
  rfl

/-! ## Fields that were written in part -/

/-- The lines of a text that lacks more than its last newline: beginnings of the old lines, and of
the last one less than all. -/
theorem mem_getlines_cut {lines : List Text} {last : Text} (hli : ∀ l ∈ lines, '\n' ∉ l)
    (hla : '\n' ∉ last) {n : ℕ} (hn : n < ((lines.flatMap fun l => l ++ ['\n']) ++ last).length)
    {l : Text} (hl : l ∈ getlines (((lines ++ [last]).flatMap fun l => l ++ ['\n']).take n)) :
    (∃ line ∈ lines, l <+: line) ∨ l <+: last ∧ l ≠ last := by
  induction lines generalizing n with
  | nil =>
    simp only [flatMap_nil, nil_append, flatMap_cons, append_nil] at hn hl
    rw [take_append_of_le_length hn.le,
      getlines_of_notMem fun h => hla (mem_of_mem_take h)] at hl
    split_ifs at hl with he
    · cases hl
    · obtain rfl := mem_singleton.mp hl
      refine .inr ⟨List.take_prefix _ _, fun h => ?_⟩
      have hln := congrArg List.length h
      rw [length_take] at hln
      omega
  | cons first lines ih =>
    have hf := hli first mem_cons_self
    rw [cons_append, flatMap_cons] at hl
    by_cases hle : n ≤ first.length
    · rw [append_assoc, take_append_of_le_length hle,
        getlines_of_notMem fun h => hf (mem_of_mem_take h)] at hl
      split_ifs at hl with he
      · cases hl
      · obtain rfl := mem_singleton.mp hl
        exact .inl ⟨first, mem_cons_self, take_prefix _ _⟩
    · have hs : n = (first ++ ['\n']).length + (n - first.length - 1) := by
        rw [length_append, length_singleton]
        omega
      rw [hs, take_length_add_append, append_assoc, singleton_append,
        getlines_line hf] at hl
      rcases mem_cons.mp hl with rfl | hl
      · exact .inl ⟨l, mem_cons_self, prefix_rfl⟩
      · have hsh : n - first.length - 1 <
            ((lines.flatMap fun l => l ++ ['\n']) ++ last).length := by
          rw [flatMap_cons, append_assoc, length_append, length_append,
            length_singleton] at hn
          omega
        rcases ih (fun l hl => hli l (mem_cons_of_mem _ hl)) hsh hl with
          ⟨line, hlin, hp⟩ | hla
        · exact .inl ⟨line, mem_cons_of_mem _ hlin, hp⟩
        · exact .inr hla

/-- The lines of a text that lacks at most its last newline. -/
theorem getlines_uncut {lines : List Text} {last : Text} (hl : ∀ l ∈ lines, '\n' ∉ l)
    (hla : '\n' ∉ last) (hne : last ≠ []) {n : ℕ}
    (hn : ((lines.flatMap fun l => l ++ ['\n']) ++ last).length ≤ n) :
    getlines (((lines ++ [last]).flatMap fun l => l ++ ['\n']).take n) = lines ++ [last] := by
  have ht : ((lines ++ [last]).flatMap fun l => l ++ ['\n']) =
      ((lines.flatMap fun l => l ++ ['\n']) ++ last) ++ ['\n'] := by
    simp
  obtain ⟨k, rfl⟩ := Nat.exists_eq_add_of_le hn
  rw [ht, take_length_add_append, append_assoc]
  cases k with
  | zero =>
    rw [take_zero, append_nil, getlines_append lines hl, getlines_of_notMem hla,
      if_neg hne]
  | succ k =>
    rw [take_succ_cons, take_nil, getlines_append lines hl, getlines_line hla]
    rfl

section Cut

variable {fi : List (String × Text)} {key : String} {value : Text}

theorem fieldLines_concat (f : List (String × Text)) (key : String) (v : Text) :
    fieldLines (f ++ [(key, v)]) =
      fieldLines f ++ [fieldLine (key.toList, v)] := by
  rw [fieldLines, map_append]
  rfl

theorem length_fieldsText_concat (f : List (String × Text)) (key : String) (v : Text) :
    (fieldsText (f ++ [(key, v)])).length =
      (((fieldLines f).flatMap fun l => l ++ ['\n']) ++
        fieldLine (key.toList, v)).length + 1 := by
  rw [fieldsText_eq, fieldLines_concat, flatMap_append, length_append,
    length_append, flatMap_cons, flatMap_nil, append_nil, length_append,
    length_singleton, Nat.add_assoc]

theorem PlainFields.concat (h : PlainFields (fi ++ [(key, value)])) :
    (∀ l ∈ fieldLines fi, '\n' ∉ l) ∧ '\n' ∉ fieldLine (key.toList, value) := by
  have hli := h.lines
  rw [fieldLines_concat] at hli
  exact ⟨fun l hl => hli l (mem_append_left _ hl),
    hli _ (mem_append_right _ mem_cons_self)⟩

theorem getlines_uncut_fields (hp : PlainFields (fi ++ [(key, value)])) {n : ℕ}
    (hn : (fieldsText (fi ++ [(key, value)])).length ≤ n + 1) :
    getlines ((fieldsText (fi ++ [(key, value)])).take n) =
      fieldLines (fi ++ [(key, value)]) := by
  rw [length_fieldsText_concat] at hn
  rw [fieldsText_eq, fieldLines_concat]
  exact getlines_uncut hp.concat.1 hp.concat.2 (by simp [fieldLine]) (by omega)

/-- **Fields that were cut off hold their last value exactly when at most the last newline is
missing.** -/
theorem sedValue_cut_iff (hp : PlainFields (fi ++ [(key, value)]))
    (hno : ((fi ++ [(key, value)]).map Prod.fst).Nodup) (hv : value ≠ []) (n : ℕ) :
    sedValue key ((fieldsText (fi ++ [(key, value)])).take n) = value ↔
      (fieldsText (fi ++ [(key, value)])).length ≤ n + 1 := by
  have hla : (key, value) ∈ fi ++ [(key, value)] := mem_append_right _ mem_cons_self
  constructor
  · intro h
    by_contra hs
    rw [length_fieldsText_concat] at hs
    rw [sedValue_eq] at h
    cases hf : (getlines ((fieldsText (fi ++ [(key, value)])).take n)).findSome?
        (lineValue key) with
    | none =>
      rw [hf] at h
      exact hv h.symm
    | some found =>
      rw [hf, Option.getD_some] at h
      subst h
      -- The line that was found is the beginning of another field, or of less than the last one.
      obtain ⟨line, hl, hval⟩ := exists_of_findSome?_eq_some hf
      rw [fieldsText_eq, fieldLines_concat] at hl
      have hcut := mem_getlines_cut hp.concat.1 hp.concat.2 (by omega) hl
      rw [lineValue_eq_some.mp hval] at hcut
      rcases hcut with ⟨other, ho, more, hm⟩ | ⟨-, hne⟩
      · obtain ⟨field, hfi, rfl⟩ := mem_map.mp ho
        have hj : fieldLine (key.toList, found ++ more) =
            fieldLine (field.1.toList, field.2) := by
          rw [← hm, fieldLine, fieldLine, append_assoc]
          rfl
        have hk := key_eq_of_fieldLine (hp.keys _ hla).1
          (hp.keys field (mem_append_left _ hfi)).1 hj
        rw [map_append, nodup_append] at hno
        exact hno.2.2 field.1 (mem_map_of_mem hfi) key (by simp)
          (String.toList_inj.mp hk.1.symm)
      · exact hne rfl
  · intro hn
    have hf := findSome?_fieldLines hp.keys hno hla
    rw [sedValue_eq, getlines_uncut_fields hp hn, hf]
    rfl

end Cut

end Controller

end Vcam
