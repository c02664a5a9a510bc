import AndroidVcam.Lib.TextFile

/-!
# Python strings

The string methods that line-oriented Python scripts are made of: reading a text file with universal
newlines, `str.splitlines`, `str.strip`, `int(value, 0)` and `str.isdigit`. What the Unicode tables
say about characters outside ASCII is a parameter where the scripts ask for digits.

* `readText`, `splitlines`, `strip`; **`splitlines_lines`**: text written as whole lines is read
  back as these lines;
* `hexPadded`: hexadecimal numbers of a fixed width; **`intBase0_hexPadded`**: `int` reads them back.
-/

namespace PyText

open TextFile List

/-! ## Lines and blanks -/

/-- `Path.read_text`: `\r\n` and `\r` become `\n`. -/
def readText : Text → Text
  | '\r' :: '\n' :: cs => '\n' :: readText cs
  | '\r' :: cs => '\n' :: readText cs
  | c :: cs => c :: readText cs
  | [] => []

/-- The characters that end a line for `str.splitlines`. -/
def lineBreaks : List ℕ := [0x0a, 0x0b, 0x0c, 0x0d, 0x1c, 0x1d, 0x1e, 0x85, 0x2028, 0x2029]

def isLineBreak (c : Char) : Bool := lineBreaks.contains c.toNat

/-- `str.splitlines`. A last line without a line break counts when it has a character. -/
def splitlines : Text → List Text
  | [] => []
  | '\r' :: '\n' :: cs => [] :: splitlines cs
  | c :: cs =>
    if isLineBreak c then [] :: splitlines cs
    else match splitlines cs with
      | [] => [[c]]
      | l :: ls => (c :: l) :: ls

def blanks : List ℕ :=
  [0x09, 0x1f, 0x20, 0xa0, 0x1680, 0x2000, 0x2001, 0x2002, 0x2003, 0x2004, 0x2005, 0x2006, 0x2007,
    0x2008, 0x2009, 0x200a, 0x202f, 0x205f, 0x3000]

/-- `str.isspace` of one character. -/
def isSpace (c : Char) : Bool := isLineBreak c || blanks.contains c.toNat

def trim (blank : Char → Bool) (s : Text) : Text := (s.dropWhile blank).rdropWhile blank

def strip (s : Text) : Text := trim isSpace s

def Plain (s : Text) : Prop := ∀ c ∈ s, isSpace c = false

def Graphic (s : Text) : Prop := ∀ c ∈ s, 33 ≤ c.toNat ∧ c.toNat ≤ 126

instance (s : Text) : Decidable (Graphic s) :=
  decidableBAll (fun c : Char => 33 ≤ c.toNat ∧ c.toNat ≤ 126) s

variable {s : Text} {c : Char} (u : UnicodeDigits)

theorem isSpace_of_graphic (h : 33 ≤ c.toNat ∧ c.toNat ≤ 126) : isSpace c = false := by
  have hl : ∀ n ∈ lineBreaks ++ blanks, ¬(33 ≤ n ∧ n ≤ 126) := by decide
  rw [isSpace, isLineBreak, Bool.or_eq_false_iff, Bool.eq_false_iff, Bool.eq_false_iff, Ne, Ne,
    contains_iff_mem, contains_iff_mem]
  exact ⟨fun hc => hl _ (mem_append_left _ hc) h,
    fun hc => hl _ (mem_append_right _ hc) h⟩

theorem Graphic.plain (h : Graphic s) : Plain s := fun c hc => isSpace_of_graphic (h c hc)

theorem isLineBreak_of_plain (h : isSpace c = false) : isLineBreak c = false := by
  by_contra hb
  simp [isSpace, hb] at h

theorem ne_cr_of_isLineBreak (h : isLineBreak c = false) : c ≠ '\r' := by
  rintro rfl
  revert h
  decide

theorem readText_eq_self (h : '\r' ∉ s) : readText s = s := by
  induction s with
  | nil => rfl
  | cons c s ih =>
    have hc : c ≠ '\r' := fun e => h (e ▸ mem_cons_self)
    have hs : readText s = s := ih fun hm => h (mem_cons_of_mem _ hm)
    rw [readText.eq_3 c s (fun _ e => absurd e hc) (fun e => absurd e hc), hs]

theorem readText_line {line : Text} (h : '\r' ∉ line) (rest : Text) :
    readText (line ++ '\n' :: rest) = line ++ '\n' :: readText rest := by
  induction line with
  | nil => rfl
  | cons c line ih =>
    have hc : c ≠ '\r' := fun e => h (e ▸ mem_cons_self)
    rw [cons_append, readText.eq_3 c _ (fun _ e => absurd e hc) (fun e => absurd e hc),
      ih fun hm => h (mem_cons_of_mem _ hm), cons_append]

theorem splitlines_cons (hc : isLineBreak c = false) (cs : Text) :
    splitlines (c :: cs) = match splitlines cs with
      | [] => [[c]]
      | l :: ls => (c :: l) :: ls := by
  have hcr : c ≠ '\r' := ne_cr_of_isLineBreak hc
  rw [splitlines.eq_3 c cs (fun _ e => absurd e hcr)]
  simp [hc]

theorem splitlines_newline (cs : Text) : splitlines ('\n' :: cs) = [] :: splitlines cs := by
  rw [splitlines.eq_3 '\n' cs (fun _ e => by cases e)]
  exact if_pos (by decide)

theorem splitlines_line {l : Text} (hl : ∀ c ∈ l, isLineBreak c = false) (rest : Text) :
    splitlines (l ++ '\n' :: rest) = l :: splitlines rest := by
  induction l with
  | nil => exact splitlines_newline rest
  | cons c l ih =>
    have hc : isLineBreak c = false := hl c mem_cons_self
    have hr := ih fun d hd => hl d (mem_cons_of_mem _ hd)
    rw [cons_append, splitlines_cons hc, hr]

/-- **Text written as whole lines is read back as these lines.** -/
theorem splitlines_lines (ls : List Text) (h : ∀ l ∈ ls, ∀ c ∈ l, isLineBreak c = false) :
    splitlines (readText (ls.flatMap fun l => l ++ ['\n'])) = ls := by
  have hcr : '\r' ∉ ls.flatMap fun l => l ++ ['\n'] := by
    intro hm
    obtain ⟨l, hl, hc⟩ := mem_flatMap.mp hm
    rcases mem_append.mp hc with hc | hc
    · exact ne_cr_of_isLineBreak (h l hl _ hc) rfl
    · simp at hc
  rw [readText_eq_self hcr]
  clear hcr
  induction ls with
  | nil => rfl
  | cons l ls ih =>
    have hl := h l mem_cons_self
    have hr := ih fun k hk => h k (mem_cons_of_mem _ hk)
    rw [flatMap_cons, append_assoc, singleton_append, splitlines_line hl, hr]

theorem readText_behind_newline (a b : Text) :
    ∃ front, '\r' ∉ front ∧ readText (a ++ '\n' :: b) = front ++ '\n' :: readText b := by
  have hn : readText ('\n' :: b) = '\n' :: readText b := rfl
  induction a using readText.induct with
  | case1 cs ih =>
    obtain ⟨front, hcr, h⟩ := ih
    exact ⟨'\n' :: front, by simpa using hcr, congrArg ('\n' :: ·) h⟩
  | case2 cs hcs ih =>
    obtain ⟨front, hcr, h⟩ := ih
    cases cs with
    | nil => exact ⟨[], not_mem_nil, rfl⟩
    | cons d cs =>
      have hd : d ≠ '\n' := fun e => hcs cs (e ▸ rfl)
      refine ⟨'\n' :: front, by simpa using hcr, ?_⟩
      rw [cons_append, cons_append,
        readText.eq_2 _ fun rest e => hd (List.cons.inj e).1, ← cons_append, h,
        cons_append]
  | case3 c cs hp hc ih =>
    obtain ⟨front, hcr, h⟩ := ih
    have hc' : c ≠ '\r' := hc
    refine ⟨c :: front, ?_, ?_⟩
    · exact fun hm => (mem_cons.mp hm).elim (fun e => hc' e.symm) hcr
    · rw [cons_append, readText.eq_3 c _ (fun _ e => absurd e hc') (fun e => absurd e hc'), h,
        cons_append]
  | case4 => exact ⟨[], not_mem_nil, hn⟩

theorem splitlines_behind_newline {a : Text} (ha : '\r' ∉ a) (b : Text) :
    ∃ line first, splitlines (a ++ '\n' :: b) = line :: (first ++ splitlines b) := by
  induction a with
  | nil => exact ⟨[], [], splitlines_newline b⟩
  | cons c cs ih =>
    have hc : c ≠ '\r' := fun e => ha (e ▸ mem_cons_self)
    obtain ⟨line, first, h⟩ := ih fun hm => ha (mem_cons_of_mem _ hm)
    rw [cons_append, splitlines.eq_3 c _ fun _ e => absurd e hc, h]
    split_ifs
    · exact ⟨[], line :: first, rfl⟩
    · exact ⟨c :: line, first, rfl⟩

/-- A line of a file of whole lines is read back, whatever the other lines are. -/
theorem mem_splitlines {l : List Text} {line : Text}
    (hl : ∀ c ∈ line, isLineBreak c = false) (hmem : line ∈ l) :
    line ∈ splitlines (readText (l.flatMap fun line => line ++ ['\n'])) := by
  induction l with
  | nil => exact absurd hmem not_mem_nil
  | cons first l ih =>
    rw [flatMap_cons, append_assoc, singleton_append]
    rcases mem_cons.mp hmem with rfl | hmem
    · rw [readText_line fun hm => ne_cr_of_isLineBreak (hl _ hm) rfl, splitlines_line hl]
      exact mem_cons_self
    · obtain ⟨front, hcr, hr⟩ := readText_behind_newline first
        (l.flatMap fun line => line ++ ['\n'])
      obtain ⟨before, between, h⟩ := splitlines_behind_newline hcr
        (readText (l.flatMap fun line => line ++ ['\n']))
      rw [hr, h]
      exact mem_cons_of_mem _ (mem_append_right _ (ih hmem))

theorem trim_of_forall {p : Char → Bool} (h : ∀ c ∈ s, p c = false) : trim p s = s := by
  have hf : s.dropWhile p = s := by
    cases s with
    | nil => rfl
    | cons c s => simp [h c mem_cons_self]
  rw [trim, hf, rdropWhile_eq_self_iff]
  intro hne
  rw [h _ (getLast_mem hne)]
  simp

theorem strip_of_plain (h : Plain s) : strip s = s := trim_of_forall h

/-! ## Numbers -/

/-- What the Unicode tables say about digits. -/
structure UnicodeDigits where
  /-- The value of a decimal digit. -/
  decimal : Char → Option ℕ
  isDigit : Char → Bool
  decimal_ascii : ∀ c, c.toNat < 128 →
    decimal c = if c.isDigit then some (c.toNat - '0'.toNat) else none
  isDigit_ascii : ∀ c, c.toNat < 128 → isDigit c = c.isDigit

def UnicodeDigits.isdigit (u : UnicodeDigits) (s : Text) : Bool := !s.isEmpty && s.all u.isDigit

def asciiDigits : UnicodeDigits where
  decimal := fun c => if c.isDigit then some (c.toNat - '0'.toNat) else none
  isDigit := Char.isDigit
  decimal_ascii := fun _ _ => rfl
  isDigit_ascii := fun _ _ => rfl

def digitValue (u : UnicodeDigits) (c : Char) : Option ℕ :=
  (u.decimal c).orElse fun _ =>
    if 'a' ≤ c ∧ c ≤ 'z' then some (c.toNat - 'a'.toNat + 10)
    else if 'A' ≤ c ∧ c ≤ 'Z' then some (c.toNat - 'A'.toNat + 10)
    else none

def digitIn (u : UnicodeDigits) (base : ℕ) (c : Char) : Option ℕ :=
  (digitValue u c).filter (· < base)

/-- Digits with single underscores between them, behind the value so far. -/
def digitsFrom (u : UnicodeDigits) (base : ℕ) : ℕ → Text → Option ℕ
  | value, [] => some value
  | value, '_' :: c :: cs =>
    (digitIn u base c).bind fun d => digitsFrom u base (value * base + d) cs
  | value, c :: cs => (digitIn u base c).bind fun d => digitsFrom u base (value * base + d) cs

def digits (u : UnicodeDigits) (base : ℕ) : Text → Option ℕ
  | [] => none
  | c :: cs => (digitIn u base c).bind fun d => digitsFrom u base d cs

/-- The digits behind a base, with one underscore allowed in front. -/
def basedDigits (u : UnicodeDigits) (base : ℕ) : Text → Option ℕ
  | '_' :: cs => digits u base cs
  | cs => digits u base cs

/-- The value of an unsigned integer literal; a decimal one has no leading zeros. -/
def unsigned (u : UnicodeDigits) : Text → Option ℕ
  | '0' :: c :: cs =>
    if c = 'x' ∨ c = 'X' then basedDigits u 16 cs
    else if c = 'o' ∨ c = 'O' then basedDigits u 8 cs
    else if c = 'b' ∨ c = 'B' then basedDigits u 2 cs
    else (digits u 10 ('0' :: c :: cs)).filter (· = 0)
  | cs => digits u 10 cs

/-- What `int` reads in place of a character: blanks and decimal digits become those of ASCII. -/
def toAscii (u : UnicodeDigits) (c : Char) : Char :=
  if c.toNat < 127 then c
  else if isSpace c then ' '
  else ((u.decimal c).map Nat.digitChar).getD '?'

/-- The blanks around a number, which are fewer than those of `str.strip`. -/
def isNumberBlank (c : Char) : Bool := [0x09, 0x0a, 0x0b, 0x0c, 0x0d, 0x20].contains c.toNat

/-- `int(value, 0)`, `none` when it raises. -/
def intBase0 (u : UnicodeDigits) (value : Text) : Option ℤ :=
  match trim isNumberBlank (value.map (toAscii u)) with
  | '-' :: cs => (unsigned u cs).map fun n : ℕ => -(n : ℤ)
  | '+' :: cs => (unsigned u cs).map Int.ofNat
  | cs => (unsigned u cs).map Int.ofNat

/-! ## Hexadecimal numbers -/

/-- The last `width` hexadecimal digits, as `printf` writes a number that has no more. -/
def hexPadded : ℕ → ℕ → Text
  | 0, _ => []
  | width + 1, n => hexPadded width (n / 16) ++ [Nat.digitChar (n % 16)]

theorem length_hexPadded (width n : ℕ) : (hexPadded width n).length = width := by
  induction width generalizing n with
  | zero => rfl
  | succ width ih => rw [hexPadded, length_append, ih, length_singleton]

theorem digitChar_hex {d : ℕ} (hd : d < 16) :
    Nat.digitChar d ≠ '_' ∧ (33 ≤ (Nat.digitChar d).toNat ∧ (Nat.digitChar d).toNat ≤ 126) ∧
      ∀ u : UnicodeDigits, digitIn u 16 (Nat.digitChar d) = some d := by
  have hg : 33 ≤ (Nat.digitChar d).toNat ∧ (Nat.digitChar d).toNat ≤ 126 := by
    interval_cases d <;> decide
  have ha : (Nat.digitChar d).toNat < 128 := by omega
  refine ⟨by interval_cases d <;> decide, hg, fun u => ?_⟩
  rw [digitIn, digitValue, u.decimal_ascii _ ha]
  interval_cases d <;> rfl

theorem mem_hexPadded {w n : ℕ} (h : c ∈ hexPadded w n) :
    ∃ d < 16, c = Nat.digitChar d := by
  induction w generalizing n with
  | zero => exact absurd h not_mem_nil
  | succ w ih =>
    rcases mem_append.mp h with h | h
    · exact ih h
    · exact ⟨n % 16, Nat.mod_lt n (by norm_num), mem_singleton.mp h⟩

theorem graphic_hexPadded (w n : ℕ) : Graphic (hexPadded w n) := by
  intro c hc
  obtain ⟨d, hd, rfl⟩ := mem_hexPadded hc
  exact (digitChar_hex hd).2.1

theorem digitsFrom_cons {u : UnicodeDigits} {base : ℕ} (hc : c ≠ '_') (v : ℕ)
    (cs : Text) : digitsFrom u base v (c :: cs) =
      (digitIn u base c).bind fun d => digitsFrom u base (v * base + d) cs :=
  digitsFrom.eq_3 u base v c cs fun _ _ e _ => absurd e hc

theorem digitsFrom_hexPadded (value w n : ℕ) (rest : Text) :
    digitsFrom u 16 value (hexPadded w n ++ rest) =
      digitsFrom u 16 (value * 16 ^ w + n % 16 ^ w) rest := by
  induction w generalizing n rest with
  | zero => simp [hexPadded, Nat.mod_one]
  | succ w ih =>
    obtain ⟨hne, -, hd⟩ := digitChar_hex (Nat.mod_lt n (show 16 > 0 by norm_num))
    rw [hexPadded, append_assoc, singleton_append, ih, digitsFrom_cons hne, hd]
    have hv : (value * 16 ^ w + n / 16 % 16 ^ w) * 16 + n % 16 =
        value * 16 ^ (w + 1) + n % 16 ^ (w + 1) := by
      have hmod : n % 16 ^ (w + 1) = n % 16 + 16 * (n / 16 % 16 ^ w) := by
        rw [pow_succ', Nat.mod_mul]
      rw [hmod, pow_succ]
      ring
    exact congrArg (fun v => digitsFrom u 16 v rest) hv

theorem basedDigits_hexPadded {w n : ℕ} (hw : 0 < w)
    (hn : n < 16 ^ w) : basedDigits u 16 (hexPadded w n) = some n := by
  have hf := digitsFrom_hexPadded u 0 w n []
  rw [append_nil, Nat.mod_eq_of_lt hn, zero_mul, zero_add] at hf
  obtain ⟨c, cs, hcs⟩ : ∃ c cs, hexPadded w n = c :: cs :=
    exists_cons_of_length_pos (by rw [length_hexPadded]; exact hw)
  have hne : c ≠ '_' := by
    obtain ⟨d, hd, rfl⟩ := mem_hexPadded (hcs ▸ mem_cons_self : c ∈ hexPadded w n)
    exact (digitChar_hex hd).1
  rw [hcs, digitsFrom_cons hne] at hf
  rw [hcs, basedDigits.eq_2 u 16 (c :: cs) fun _ e => hne (List.cons.inj e).1, digits]
  simpa [digitsFrom] using hf

theorem trim_of_graphic (h : Graphic s) :
    trim isNumberBlank (s.map (toAscii u)) = s := by
  have hm : s.map (toAscii u) = s :=
    (map_congr_left fun c hc => if_pos (Nat.lt_succ_of_le (h c hc).2)).trans s.map_id'
  have hb : ∀ n ∈ [0x09, 0x0a, 0x0b, 0x0c, 0x0d, 0x20], ¬(33 ≤ n ∧ n ≤ 126) := by decide
  rw [hm]
  refine trim_of_forall fun c hc => ?_
  rw [isNumberBlank, Bool.eq_false_iff, Ne, contains_iff_mem]
  exact fun hn => hb _ hn (h c hc)

/-- **A padded hexadecimal number is read back.** -/
theorem intBase0_hexPadded {w n : ℕ} (hw : 0 < w)
    (hn : n < 16 ^ w) : intBase0 u ('0' :: 'x' :: hexPadded w n) = some (n : ℤ) := by
  have hg : Graphic ('0' :: 'x' :: hexPadded w n) :=
    forall_mem_cons.mpr ⟨by decide, forall_mem_cons.mpr ⟨by decide, graphic_hexPadded w n⟩⟩
  have hu : unsigned u ('0' :: 'x' :: hexPadded w n) = some n := by
    rw [unsigned, if_pos (.inl rfl), basedDigits_hexPadded u hw hn]
  rw [intBase0, trim_of_graphic u hg]
  exact congrArg (Option.map Int.ofNat) hu

end PyText
