import Mathlib

/-!
# Text files, lines and fields

A C++ `std::string` and the content of a file are lists of characters, one for every byte. This
module has what line-oriented readers are made of, over no particular file format:

* `splitFirst`, `splitAll`: a line cut at the first separator, or at every separator; `fieldLine`;
* `FileSystem`: paths to files, with the answers of `access`, `stat` and `std::ifstream`.
-/

namespace TextFile

open List

/-- A string or file content, one character for every byte. -/
abbrev Text := List Char

instance : Coe String Text := ⟨String.toList⟩

/-! ## Lines -/

/-- The lines that repeated `std::getline` calls deliver. A last line without `\n` counts when it
has a character. -/
def getlines : Text → List Text
  | [] => []
  | c :: cs =>
    if c = '\n' then [] :: getlines cs
    else match getlines cs with
      | [] => [[c]]
      | l :: ls => (c :: l) :: ls

/-- `if (!line.empty() && line.back() == '\r') line.pop_back();` -/
def popCR (line : Text) : Text := if line.getLast? = some '\r' then line.dropLast else line

theorem getlines_line {l : Text} (hl : '\n' ∉ l) (rest : Text) :
    getlines (l ++ '\n' :: rest) = l :: getlines rest := by
  induction l with
  | nil => simp [getlines]
  | cons c l ih =>
    have hc : c ≠ '\n' := fun e => hl (by simp [e])
    have hl' : '\n' ∉ l := fun h => hl (mem_cons_of_mem _ h)
    rw [cons_append, getlines, if_neg hc, ih hl']

theorem getlines_flatten (ls : List Text) (h : ∀ l ∈ ls, '\n' ∉ l) :
    getlines ((ls.map fun l => l ++ ['\n']).flatten) = ls := by
  induction ls with
  | nil => rfl
  | cons l ls ih =>
    have hl := h l mem_cons_self
    have hr : ∀ l ∈ ls, '\n' ∉ l := fun l hm => h l (mem_cons_of_mem _ hm)
    rw [map_cons, flatten_cons, append_assoc, singleton_append,
      getlines_line hl, ih hr]

theorem newline_notMem_of_mem_getlines {text line : Text} (h : line ∈ getlines text) :
    '\n' ∉ line := by
  induction text generalizing line with
  | nil => cases h
  | cons c text ih =>
    rw [getlines] at h
    split_ifs at h with hc
    · rcases mem_cons.mp h with rfl | h
      · exact not_mem_nil
      · exact ih h
    · have hco {rest : Text} (hr : '\n' ∉ rest) : '\n' ∉ c :: rest := fun hm =>
        (mem_cons.mp hm).elim (fun e => hc e.symm) hr
      split at h
      · rw [mem_singleton.mp h]
        exact hco not_mem_nil
      · rename_i first rest hl
        rw [hl] at ih
        rcases mem_cons.mp h with rfl | h
        · exact hco (ih mem_cons_self)
        · exact ih (mem_cons_of_mem _ h)

theorem popCR_of_ne {line : Text} (h : line.getLast? ≠ some '\r') : popCR line = line := by
  rw [popCR, if_neg h]

/-! ## Fields -/

def splitFirst (sep : Char) : Text → Option (Text × Text)
  | [] => none
  | c :: cs => if c = sep then some ([], cs) else (splitFirst sep cs).map fun p => (c :: p.1, p.2)

theorem splitFirst_append {sep : Char} {a : Text} (ha : sep ∉ a) (b : Text) :
    splitFirst sep (a ++ sep :: b) = some (a, b) := by
  induction a with
  | nil => simp [splitFirst]
  | cons c a ih =>
    have hc : c ≠ sep := fun e => ha (by simp [e])
    have ha' : sep ∉ a := fun h => ha (mem_cons_of_mem _ h)
    rw [cons_append, splitFirst, if_neg hc, ih ha', Option.map_some]

/-- The parts between the separators, one more than there are separators. -/
def splitAll (sep : Char) : Text → List Text
  | [] => [[]]
  | c :: cs => if c = sep then [] :: splitAll sep cs else (splitAll sep cs).modifyHead (c :: ·)

theorem splitAll_ne_nil (sep : Char) (s : Text) : splitAll sep s ≠ [] := by
  cases s with
  | nil => exact cons_ne_nil _ _
  | cons c cs =>
    rw [splitAll]
    split_ifs
    · exact cons_ne_nil _ _
    · rw [Ne, modifyHead_eq_nil_iff]
      exact splitAll_ne_nil sep cs

theorem splitAll_append (sep : Char) (a b : Text) :
    splitAll sep (a ++ sep :: b) = splitAll sep a ++ splitAll sep b := by
  induction a with
  | nil => exact if_pos rfl
  | cons c a ih =>
    rw [cons_append, splitAll, splitAll, ih]
    split_ifs
    · rfl
    · obtain ⟨first, rest, h⟩ := exists_cons_of_ne_nil (splitAll_ne_nil sep a)
      rw [h]
      rfl

theorem splitAll_of_notMem {sep : Char} {s : Text} (h : sep ∉ s) : splitAll sep s = [s] := by
  induction s with
  | nil => rfl
  | cons c s ih =>
    have hc : c ≠ sep := fun e => h (e ▸ mem_cons_self)
    rw [splitAll, if_neg hc, ih fun hm => h (mem_cons_of_mem _ hm)]
    rfl

theorem exists_mem_splitAll {sep c : Char} (hc : c ≠ sep) {s : Text} (h : c ∈ s) :
    ∃ part ∈ splitAll sep s, c ∈ part := by
  induction s with
  | nil => cases h
  | cons d s ih =>
    obtain ⟨first, rest, hs⟩ := exists_cons_of_ne_nil (splitAll_ne_nil sep s)
    rw [splitAll]
    split_ifs with hd
    · obtain ⟨part, hp, hin⟩ := ih ((mem_cons.mp h).resolve_left (hd ▸ hc))
      exact ⟨part, mem_cons_of_mem _ hp, hin⟩
    · rw [hs] at ih ⊢
      rw [modifyHead_cons]
      rcases mem_cons.mp h with rfl | h
      · exact ⟨_, mem_cons_self, mem_cons_self⟩
      · obtain ⟨part, hp, hin⟩ := ih h
        rcases mem_cons.mp hp with rfl | hp
        · exact ⟨_, mem_cons_self, mem_cons_of_mem _ hin⟩
        · exact ⟨part, mem_cons_of_mem _ hp, hin⟩

theorem intercalate_splitAll (sep : Char) (s : Text) : [sep].intercalate (splitAll sep s) = s := by
  induction s with
  | nil => rfl
  | cons c s ih =>
    obtain ⟨first, rest, hs⟩ := exists_cons_of_ne_nil (splitAll_ne_nil sep s)
    rw [splitAll]
    split_ifs with hc
    · rw [hs] at ih ⊢
      rw [intercalate_cons_cons, ih, hc]
      rfl
    · rw [hs] at ih ⊢
      cases rest with
      | nil => rw [← ih]; rfl
      | cons second rest =>
        rw [modifyHead_cons, intercalate_cons_cons]
        rw [intercalate_cons_cons] at ih
        rw [cons_append, cons_append, ih]

/-- A `key=value` line. -/
def fieldLine (field : Text × Text) : Text := field.1 ++ '=' :: field.2

/-! ## C strings -/

/-- What `c_str()` shows to a C function: the characters before the first NUL. -/
def cStr (s : Text) : Text := s.takeWhile (· ≠ '\x00')

theorem nul_notMem_cStr (s : Text) : '\x00' ∉ cStr s := fun h => by
  have := mem_takeWhile_imp h
  simp at this

theorem cStr_eq_self_iff {s : Text} : cStr s = s ↔ '\x00' ∉ s := by
  constructor
  · intro h
    rw [← h]
    exact nul_notMem_cStr s
  · intro h
    refine takeWhile_eq_self_iff.mpr fun c hc => ?_
    have hne : c ≠ '\x00' := fun e => h (e ▸ hc)
    simpa using hne

/-! ## Decimal numbers -/

/-- `std::to_string` of a non-negative number. -/
def decimal (n : ℕ) : Text := Nat.toDigits 10 n

/-- `std::to_string` of an `int`. -/
def decimalInt : ℤ → Text
  | .ofNat n => decimal n
  | .negSucc n => '-' :: decimal (n + 1)

def digitsValue (s : Text) : ℕ := Nat.ofDigitChars 10 s 0

def isDigits (s : Text) : Bool := !s.isEmpty && s.all Char.isDigit

theorem digitsValue_decimal (n : ℕ) : digitsValue (decimal n) = n :=
  Nat.ofDigitChars_ten_toDigits

theorem isDigits_decimal (n : ℕ) : isDigits (decimal n) = true := by
  have hne : (decimal n).isEmpty = false := by simp [decimal]
  have hall : (decimal n).all Char.isDigit = true :=
    all_eq_true.mpr fun c hc => Nat.isDigit_of_mem_toDigits (by norm_num) (by norm_num) hc
  simp [isDigits, hne, hall]

theorem digitsValue_concat (s : Text) (c : Char) :
    digitsValue (s ++ [c]) = 10 * digitsValue s + (c.toNat - '0'.toNat) := by
  rw [digitsValue, Nat.ofDigitChars_append, Nat.ofDigitChars_cons]
  rfl

theorem eq_zero_char {c : Char} (h : c.isDigit = true) (hc : c.toNat - '0'.toNat = 0) : c = '0' := by
  have hr := Char.isDigit_iff_toNat.mp h
  exact Char.toNat_inj.mp (by omega)

theorem eq_one_char {c : Char} (hc : c.toNat - '0'.toNat = 1) : c = '1' := by
  have hone : '1'.toNat = '0'.toNat + 1 := rfl
  exact Char.toNat_inj.mp (by omega)

theorem eq_zeros_of_digitsValue {s : Text} (h : ∀ c ∈ s, c.isDigit = true)
    (hv : digitsValue s = 0) : s = replicate s.length '0' := by
  refine eq_replicate_of_mem fun c hc => ?_
  induction s using reverseRecOn with
  | nil => cases hc
  | append_singleton s d ih =>
    rw [digitsValue_concat] at hv
    rcases mem_append.mp hc with hc | hc
    · exact ih (fun c hc => h c (mem_append_left _ hc)) (by omega) hc
    · rw [mem_singleton.mp hc]
      exact eq_zero_char (h d (by simp)) (by omega)

theorem eq_one_of_digitsValue {s : Text} (h : ∀ c ∈ s, c.isDigit = true)
    (hv : digitsValue s = 1) : ∃ n, s = replicate n '0' ++ ['1'] := by
  induction s using reverseRecOn with
  | nil => cases hv
  | append_singleton s d _ =>
    rw [digitsValue_concat] at hv
    have hz := eq_zeros_of_digitsValue (fun c hc => h c (mem_append_left _ hc))
      (show digitsValue s = 0 by omega)
    exact ⟨s.length, by rw [← hz, eq_one_char (show d.toNat - '0'.toNat = 1 by omega)]⟩

theorem digitsValue_zeros (n : ℕ) : digitsValue (replicate n '0') = 0 := by
  induction n with
  | zero => rfl
  | succ n ih =>
    rw [replicate_succ', digitsValue_concat, ih]
    rfl

/-- The characters that `isspace` accepts in the C locale. -/
def isCSpace (c : Char) : Bool :=
  c == ' ' || c == '\t' || c == '\n' || c == '\x0b' || c == '\x0c' || c == '\r'

def takeSign : Text → Bool × Text
  | '-' :: s => (true, s)
  | '+' :: s => (false, s)
  | s => (false, s)

/-- `strtol(s, &end, 10)` on a 64-bit platform: the value, saturated to `long`, and the text at
`end`, which is the whole text when there is no digit. -/
def strtol (s : Text) : ℤ × Text :=
  let signed := takeSign (s.dropWhile isCSpace)
  let digits := signed.2.takeWhile Char.isDigit
  if digits = [] then (0, s)
  else
    let value : ℤ := digitsValue digits
    (max (-(2 ^ 63)) (min (2 ^ 63 - 1) (if signed.1 then -value else value)),
      signed.2.drop digits.length)

theorem strtol_append {digits rest : Text} (hne : digits ≠ []) (hdi : ∀ c ∈ digits, c.isDigit = true)
    (hr : ∀ c ∈ rest.head?, c.isDigit = false) : strtol (digits ++ rest) =
      (max (-(2 ^ 63)) (min (2 ^ 63 - 1) (digitsValue digits : ℤ)), rest) := by
  have ht : (digits ++ rest).takeWhile Char.isDigit = digits := by
    have hst : rest.takeWhile Char.isDigit = [] := by
      cases rest with
      | nil => rfl
      | cons c rest => rw [takeWhile_cons, hr c rfl, if_neg Bool.false_ne_true]
    rw [takeWhile_append_of_pos hdi, hst, append_nil]
  obtain ⟨c, more, rfl⟩ := exists_cons_of_ne_nil hne
  have hc := hdi c mem_cons_self
  have ho (d : Char) (hd : d.isDigit = false) : c ≠ d := by
    rintro rfl
    rw [hc] at hd
    cases hd
  have hs : isCSpace c = false := by
    simp [isCSpace, ho ' ' (by decide), ho '\t' (by decide), ho '\n' (by decide),
      ho '\x0b' (by decide), ho '\x0c' (by decide), ho '\r' (by decide)]
  have hsi : takeSign (c :: more ++ rest) = (false, c :: more ++ rest) := by
    rw [cons_append, takeSign.eq_3]
    · exact fun _ e => ho '-' (by decide) (List.cons.inj e).1
    · exact fun _ e => ho '+' (by decide) (List.cons.inj e).1
  rw [strtol, cons_append, dropWhile_cons, hs, if_neg Bool.false_ne_true,
    ← cons_append, hsi]
  dsimp only
  rw [ht, if_neg hne, drop_left]
  rfl

theorem strtol_digits {digits : Text} (hne : digits ≠ []) (hd : ∀ c ∈ digits, c.isDigit = true) :
    strtol digits = (max (-(2 ^ 63)) (min (2 ^ 63 - 1) (digitsValue digits : ℤ)), []) ∧
    strtol ('-' :: digits) =
      (max (-(2 ^ 63)) (min (2 ^ 63 - 1) (-(digitsValue digits : ℤ))), []) := by
  have ht : digits.takeWhile Char.isDigit = digits := takeWhile_eq_self_iff.mpr hd
  constructor
  · simpa using @strtol_append digits [] hne hd nofun
  · rw [strtol, dropWhile_cons, show isCSpace '-' = false by decide, if_neg Bool.false_ne_true,
      takeSign]
    dsimp only
    rw [ht, if_neg hne, drop_length]
    rfl

theorem eq_digits_of_strtol {s : Text} (hs : ∀ c ∈ s, isCSpace c = false) (hp : '+' ∉ s)
    (hne : s ≠ []) (hend : (strtol s).2 = []) :
    ∃ digits, digits ≠ [] ∧ (∀ c ∈ digits, c.isDigit = true) ∧ (s = digits ∨ s = '-' :: digits) := by
  have hdr : s.dropWhile isCSpace = s := by
    cases s with
    | nil => rfl
    | cons c rest => rw [dropWhile_cons, hs c mem_cons_self, if_neg Bool.false_ne_true]
  have hsi : s = (takeSign s).2 ∨ s = '-' :: (takeSign s).2 := by
    unfold takeSign
    split
    · exact .inr rfl
    · exact absurd mem_cons_self hp
    · exact .inl rfl
  rw [strtol, hdr] at hend
  dsimp only at hend
  by_cases hd : (takeSign s).2.takeWhile Char.isDigit = []
  · rw [if_pos hd] at hend
    exact absurd hend hne
  · rw [if_neg hd] at hend
    have hall : (takeSign s).2.takeWhile Char.isDigit = (takeSign s).2 := by
      refine (List.takeWhile_prefix Char.isDigit).eq_of_length ?_
      exact le_antisymm (List.takeWhile_prefix _).length_le (drop_eq_nil_iff.mp hend)
    rw [hall] at hd
    exact ⟨_, hd, takeWhile_eq_self_iff.mp hall, hsi⟩

/-! ## Files -/

structure File where
  content : Text
  readable : Bool
deriving DecidableEq

abbrev FileSystem := Text → Option File

namespace FileSystem

variable (fs : FileSystem) (path : Text)

/-- `access(path, F_OK) == 0`. -/
def existsFile : Bool := (fs path).isSome

/-- `access(path, R_OK) == 0`. -/
def canRead : Bool := (fs path).any (·.readable)

/-- The content when `std::ifstream(path)` opens. -/
def openText : Option Text := (fs path).bind fun f => if f.readable then some f.content else none

/-- `std::ifstream(path).good()`. -/
def good : Bool := (openText fs path).isSome

/-- `stat(path, &info) == 0 && info.st_size > 0`. -/
def nonEmptyFile : Bool := (fs path).any fun f => !f.content.isEmpty

def ofList (files : List (Text × Text)) : FileSystem := fun path =>
  (files.find? fun f => f.1 == path).map fun f => ⟨f.2, true⟩

theorem openText_of_canRead (h : canRead fs path = true) : ∃ content, openText fs path = some content := by
  unfold canRead at h
  cases hf : fs path with
  | none => simp [hf] at h
  | some f =>
    have hr : f.readable = true := by simpa [hf] using h
    exact ⟨f.content, by simp [openText, hf, hr]⟩

end FileSystem

end TextFile
