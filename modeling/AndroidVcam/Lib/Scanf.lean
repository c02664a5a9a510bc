import AndroidVcam.Lib.TextFile

/-!
# Reading numbers with `scanf`

* **`scanf_commaInts`**: numbers between commas are read back, whatever follows them.
-/

namespace TextFile

open List

inductive Directive
  /-- `%d`. -/
  | int
  | literal (c : Char)

/-- `%d`: the number, cut to 32 bits, and the rest of the input. -/
def scanInt (s : Text) : Option (ℤ × Text) :=
  let read := strtol s
  if read.2 = s then none else some (read.1.bmod (2 ^ 32), read.2)

/-- The values that a format assigns before it fails or ends. -/
def scanf : List Directive → Text → List ℤ
  | [], _ => []
  | .int :: directives, s =>
    match scanInt s with
    | none => []
    | some (value, rest) => value :: scanf directives rest
  | .literal _ :: _, [] => []
  | .literal c :: directives, d :: rest => if c = d then scanf directives rest else []

/-- The format `%d,%d,…` with this number of conversions. -/
def commaInts : ℕ → List Directive
  | 0 => []
  | 1 => [.int]
  | n + 2 => .int :: .literal ',' :: commaInts (n + 1)

variable {digits rest : Text}

theorem scanInt_append (hd : isDigits digits = true) (hra : digitsValue digits < 2 ^ 31)
    (hr : ∀ c ∈ rest.head?, c.isDigit = false) :
    scanInt (digits ++ rest) = some ((digitsValue digits : ℤ), rest) := by
  rw [isDigits, Bool.and_eq_true, Bool.not_eq_true', isEmpty_eq_false_iff, all_eq_true]
    at hd
  have hv : (max (-(2 ^ 63)) (min (2 ^ 63 - 1) (digitsValue digits : ℤ))).bmod (2 ^ 32) =
      digitsValue digits := by
    rw [show max (-(2 ^ 63)) (min (2 ^ 63 - 1) (digitsValue digits : ℤ)) = digitsValue digits by omega]
    exact Int.bmod_eq_of_le (by omega) (by omega)
  have hs : rest ≠ digits ++ rest := by
    intro e
    have hl := congrArg List.length e
    have hpos := length_pos_iff.mpr hd.1
    rw [length_append] at hl
    omega
  rw [scanInt, strtol_append hd.1 hd.2 hr]
  dsimp only
  rw [if_neg hs, hv]

/-- **Numbers between commas are read back.** -/
theorem scanf_commaInts (f : List Text) (hfi : ∀ field ∈ f, isDigits field = true ∧
    digitsValue field < 2 ^ 31) (hr : ∀ c ∈ rest.head?, c.isDigit = false) :
    scanf (commaInts f.length) ([','].intercalate f ++ rest) =
      f.map fun field => (digitsValue field : ℤ) := by
  induction f with
  | nil => rfl
  | cons field f ih =>
    have hf := hfi field mem_cons_self
    cases f with
    | nil =>
      rw [length_singleton, commaInts, scanf,
        show [','].intercalate [field] = field by simp [intercalate],
        scanInt_append hf.1 hf.2 hr]
      rfl
    | cons next f =>
      have hj : [','].intercalate (field :: next :: f) ++ rest =
          field ++ (',' :: ([','].intercalate (next :: f) ++ rest)) := by
        simp [intercalate]
      have hco : ∀ c ∈ (',' :: ([','].intercalate (next :: f) ++ rest)).head?,
          c.isDigit = false := by
        intro c hc
        obtain rfl := Option.some.inj hc
        decide
      have hn := ih fun field' hmem => hfi field' (mem_cons_of_mem _ hmem)
      rw [length_cons, length_cons, commaInts, hj, scanf,
        scanInt_append hf.1 hf.2 hco, map_cons]
      dsimp only
      rw [scanf, if_pos rfl]
      exact congrArg _ hn

end TextFile
