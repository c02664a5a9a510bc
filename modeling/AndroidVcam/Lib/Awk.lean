import AndroidVcam.Lib.TextFile

/-!
# Awk filters over tab-separated tables

An `awk` program that is one condition prints the records for which it holds. A field or a `-v` value
that looks like a decimal number is compared as a number, in the floating-point arithmetic of the
implementation, and any other as text.

* `Arithmetic`: floating-point numbers, exact on small integers; `same`: the operator `==`;
* **`select_lines`**: on whole lines `select` is `List.filter`.
-/

namespace Awk

open TextFile List

/-! ## Numeric strings -/

def isBlank (c : Char) : Bool := c == ' ' || c == '\t'

def trim (s : Text) : Text := (s.dropWhile isBlank).rdropWhile isBlank

def exponent : Text → Option ℤ
  | [] => some 0
  | c :: s =>
    let signed := takeSign s
    if (c = 'e' ∨ c = 'E') ∧ isDigits signed.2 then
      some (if signed.1 then -(digitsValue signed.2 : ℤ) else digitsValue signed.2)
    else none

def fraction : Text → Text × Text
  | '.' :: s => (s.takeWhile Char.isDigit, s.dropWhile Char.isDigit)
  | s => ([], s)

def unsigned (s : Text) : Option ℚ :=
  let whole := s.takeWhile Char.isDigit
  let behind := fraction (s.dropWhile Char.isDigit)
  if whole ++ behind.1 = [] then none
  else (exponent behind.2).map fun e =>
    let scale : ℤ := e - behind.1.length
    (digitsValue (whole ++ behind.1) * 10 ^ scale.toNat : ℚ) / 10 ^ (-scale).toNat

def number (s : Text) : Option ℚ :=
  let signed := takeSign (trim s)
  (unsigned signed.2).map fun value => if signed.1 then -value else value

structure Arithmetic where
  round : ℚ → ℚ
  exact : ∀ n : ℕ, n ≤ 2 ^ 53 → round n = n

/-- `a == b` for two fields or `-v` values. -/
def same (arith : Arithmetic) (a b : Text) : Bool :=
  match number a, number b with
  | some x, some y => arith.round x == arith.round y
  | _, _ => a == b

theorem same_self (arith : Arithmetic) (a : Text) : same arith a a = true := by
  rw [same]
  cases number a with
  | none => exact beq_self_eq_true a
  | some x => exact beq_self_eq_true _

theorem same_iff_of_none {arith : Arithmetic} {a b : Text}
    (h : number a = none ∨ number b = none) : same arith a b = true ↔ a = b := by
  rw [same]
  split
  · rename_i x y ha hb
    rcases h with h | h
    · rw [ha] at h
      cases h
    · rw [hb] at h
      cases h
  · exact beq_iff_eq

theorem head_trim {c : Char} {s : Text} (h : isBlank c = false) : ∃ rest, trim (c :: s) = c :: rest := by
  have hf : (c :: s).dropWhile isBlank = c :: s := by
    rw [dropWhile_cons, if_neg (by rw [h]; exact Bool.false_ne_true)]
  rw [trim, hf]
  have hne : (c :: s).rdropWhile isBlank ≠ [] := fun e => by
    have hall := rdropWhile_eq_nil_iff.mp e c mem_cons_self
    rw [h] at hall
    cases hall
  obtain ⟨first, rest, hcut⟩ := exists_cons_of_ne_nil hne
  obtain ⟨behind, hp⟩ := hcut ▸ rdropWhile_prefix isBlank (c :: s)
  exact ⟨rest, by rw [hcut, (List.cons.inj hp).1]⟩

/-- What starts with none of the characters of a number is no number. -/
theorem number_of_head {c : Char} (s : Text) (hbl : isBlank c = false)
    (hm : c ≠ '-') (hpl : c ≠ '+') (hp : c ≠ '.') (hd : c.isDigit = false) :
    number (c :: s) = none := by
  obtain ⟨rest, ht⟩ := head_trim (s := s) hbl
  have hs : takeSign (c :: rest) = (false, c :: rest) := by
    rw [takeSign.eq_3]
    · exact fun _ e => hm (List.cons.inj e).1
    · exact fun _ e => hpl (List.cons.inj e).1
  have hw : (c :: rest).takeWhile Char.isDigit = [] := by
    rw [takeWhile_cons, hd]
    rfl
  have hb : (c :: rest).dropWhile Char.isDigit = c :: rest := by
    rw [dropWhile_cons, hd]
    rfl
  have hf : fraction (c :: rest) = ([], c :: rest) := by
    rw [fraction.eq_2]
    exact fun _ e => hp (List.cons.inj e).1
  have hu : unsigned (c :: rest) = none := by
    rw [unsigned, hw, hb, hf]
    exact if_pos rfl
  rw [number, ht, hs, hu]
  rfl

/-! ## Tables -/

/-- The fields of a record, with `-F sep`. -/
def fields (sep : Char) (record : Text) : List Text :=
  if record = [] then [] else splitAll sep record

def select (condition : Text → Bool) (text : Text) : Text :=
  ((getlines text).filter condition).flatMap fun record => record ++ ['\n']

/-- **On whole lines the program is a filter.** -/
theorem select_lines (c : Text → Bool) {lines : List Text}
    (h : ∀ line ∈ lines, '\n' ∉ line) :
    select c (lines.flatMap fun line => line ++ ['\n']) =
      (lines.filter c).flatMap fun line => line ++ ['\n'] := by
  have hl : getlines (lines.flatMap fun line => line ++ ['\n']) = lines := by
    rw [flatMap_def, getlines_flatten lines h]
  rw [select, hl]

theorem getlines_select (condition : Text → Bool) (text : Text) :
    getlines (select condition text) = (getlines text).filter condition := by
  rw [select, flatMap_def, getlines_flatten]
  exact fun line hl => newline_notMem_of_mem_getlines (mem_of_mem_filter hl)

end Awk
