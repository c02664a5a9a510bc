import AndroidVcam.Lib.TextFile
import AndroidVcam.Lib.Hex

/-!
# Words and hexadecimal numbers of a text

* **`word_append`**, **`strtoull16_digits`**: what is printed is read back.
-/

namespace TextFile

open List

def word (s : Text) : Option (Text × Text) :=
  let body := s.dropWhile isCSpace
  let letters := body.takeWhile fun c => !isCSpace c
  if letters = [] then none else some (letters, body.drop letters.length)

def IsWord (s : Text) : Prop := s ≠ [] ∧ ∀ c ∈ s, isCSpace c = false

instance (s : Text) : Decidable (IsWord s) :=
  decidable_of_iff (s ≠ [] ∧ (s.all fun c => !isCSpace c) = true) (by simp [IsWord])

/-- **A word is read back** before white space and the end of the text. -/
theorem word_append {b letters rest : Text} (hb : ∀ c ∈ b, isCSpace c = true)
    (hl : IsWord letters) (hr : ∀ c ∈ rest.head?, isCSpace c = true) :
    word (b ++ (letters ++ rest)) = some (letters, rest) := by
  obtain ⟨hne, hall⟩ := hl
  have hd : (b ++ (letters ++ rest)).dropWhile isCSpace = letters ++ rest := by
    obtain ⟨c, more, rfl⟩ := exists_cons_of_ne_nil hne
    rw [dropWhile_append_of_pos hb, cons_append, dropWhile_cons,
      hall c mem_cons_self, if_neg Bool.false_ne_true]
  have ht : (letters ++ rest).takeWhile (fun c => !isCSpace c) = letters := by
    have hs : rest.takeWhile (fun c => !isCSpace c) = [] := by
      cases rest with
      | nil => rfl
      | cons c rest =>
        rw [takeWhile_cons, hr c rfl]
        rfl
    rw [takeWhile_append_of_pos fun c hc => by rw [hall c hc]; rfl, hs, append_nil]
  rw [word, hd, ht, if_neg hne, drop_left]

/-! ## Numbers -/

def isHexDigit (c : Char) : Bool := (Hex.nibble c).isSome

def hexValue (s : Text) : ℕ := s.foldl (fun n c => n * 16 + (Hex.nibble c).getD 0) 0

/-- What follows the mark `0x`, which a digit has to follow. -/
def skipHexMark : Text → Text
  | '0' :: x :: c :: rest =>
    if (x = 'x' ∨ x = 'X') ∧ isHexDigit c = true then c :: rest else '0' :: x :: c :: rest
  | s => s

/-- `strtoull(s, &end, 16)`: the value, or nothing when it is out of range, and the text at `end`,
which is the whole text when there is no digit. A value with a minus is negated modulo `2 ^ 64`. -/
def strtoull16 (s : Text) : Option ℕ × Text :=
  let signed := takeSign (s.dropWhile isCSpace)
  let body := skipHexMark signed.2
  let digits := body.takeWhile isHexDigit
  if digits = [] then (some 0, s)
  else
    let value := hexValue digits
    (if 2 ^ 64 ≤ value then none
      else some (if signed.1 then (2 ^ 64 - value) % 2 ^ 64 else value),
      body.drop digits.length)

theorem strtoull16_lt {s : Text} {v : ℕ} (h : (strtoull16 s).1 = some v) :
    v < 2 ^ 64 := by
  unfold strtoull16 at h
  dsimp only at h
  split_ifs at h <;> simp only [Option.some.injEq] at h <;> omega

theorem isHexDigit_ne {c d : Char} (hc : isHexDigit c = true) (hd : isHexDigit d = false) : c ≠ d := by
  rintro rfl
  rw [hc] at hd
  cases hd

theorem isCSpace_of_isHexDigit {c : Char} (hc : isHexDigit c = true) : isCSpace c = false := by
  simp [isCSpace, isHexDigit_ne hc (show isHexDigit ' ' = false by decide),
    isHexDigit_ne hc (show isHexDigit '\t' = false by decide),
    isHexDigit_ne hc (show isHexDigit '\n' = false by decide),
    isHexDigit_ne hc (show isHexDigit '\x0b' = false by decide),
    isHexDigit_ne hc (show isHexDigit '\x0c' = false by decide),
    isHexDigit_ne hc (show isHexDigit '\r' = false by decide)]

/-- A text of digits that prints a number, with any number of leading zeros. -/
def PrintsHex (s : Text) (n : ℕ) : Prop :=
  s ≠ [] ∧ (∀ c ∈ s, isHexDigit c = true) ∧ hexValue s = n

instance (s : Text) (n : ℕ) : Decidable (PrintsHex s n) :=
  decidable_of_iff (s ≠ [] ∧ s.all isHexDigit = true ∧ hexValue s = n) (by simp [PrintsHex])

/-- **A number is read back.** -/
theorem strtoull16_digits {s : Text} {n : ℕ} (h : PrintsHex s n) (hn : n < 2 ^ 64) :
    strtoull16 s = (some n, []) := by
  obtain ⟨hne, hall, rfl⟩ := h
  have hs : takeSign (s.dropWhile isCSpace) = (false, s) := by
    obtain ⟨c, more, rfl⟩ := exists_cons_of_ne_nil hne
    have hc := hall c mem_cons_self
    rw [dropWhile_cons, isCSpace_of_isHexDigit hc, if_neg Bool.false_ne_true, takeSign.eq_3]
    · exact fun _ e => isHexDigit_ne hc (by decide) (List.cons.inj e).1
    · exact fun _ e => isHexDigit_ne hc (by decide) (List.cons.inj e).1
  have hm : skipHexMark s = s := by
    unfold skipHexMark
    split
    · next x c rest =>
      have hx := hall x (by simp)
      rw [if_neg]
      rintro ⟨rfl | rfl, -⟩ <;> exact absurd hx (by decide)
    · rfl
  have ht : s.takeWhile isHexDigit = s := takeWhile_eq_self_iff.mpr hall
  rw [strtoull16, hs]
  dsimp only
  rw [hm, ht, if_neg hne, if_neg (Nat.not_le.mpr hn), drop_length]
  rfl

end TextFile
