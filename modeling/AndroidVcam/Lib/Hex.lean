import Mathlib

/-!
# Hexadecimal texts

* **`encode_of_decode`**: a text that is decoded is the encoding of its bytes up to the case of its
  letters.
-/

namespace Hex

open Option

def nibble (c : Char) : Option ℕ :=
  if '0' ≤ c ∧ c ≤ '9' then some (c.toNat - '0'.toNat)
  else if 'a' ≤ c ∧ c ≤ 'f' then some (c.toNat - 'a'.toNat + 10)
  else if 'A' ≤ c ∧ c ≤ 'F' then some (c.toNat - 'A'.toNat + 10)
  else none

def digit (n : ℕ) : Char := Nat.digitChar n

def decode : List Char → Option (List UInt8)
  | [] => some []
  | [_] => none
  | high :: low :: rest => do
    return UInt8.ofNat ((← nibble high) * 16 + (← nibble low)) :: (← decode rest)

def encode (bytes : List UInt8) : List Char :=
  bytes.flatMap fun b => [digit (b.toNat / 16), digit (b.toNat % 16)]

theorem encode_cons (b : UInt8) (bytes : List UInt8) :
    encode (b :: bytes) = digit (b.toNat / 16) :: digit (b.toNat % 16) :: encode bytes := rfl

theorem nibble_digit {n : ℕ} (h : n < 16) : nibble (digit n) = some n := by
  have hall : ∀ n < 16, nibble (digit n) = some n := by decide
  exact hall n h

/-- A digit is the lower-case digit of its value, up to its case. -/
theorem digit_of_nibble {c : Char} {n : ℕ} (h : nibble c = some n) : n < 16 ∧ digit n = c.toLower := by
  have hall : ∀ k < 103, ∀ n < 16, nibble (Char.ofNat k) = some n →
      digit n = (Char.ofNat k).toLower := by decide
  have hb : c.toNat < 103 ∧ n < 16 := by
    have hle (a b : Char) : a ≤ b ↔ a.toNat ≤ b.toNat := Iff.rfl
    unfold nibble at h
    simp only [hle] at h
    have h0 : '0'.toNat = 48 := rfl
    have h9 : '9'.toNat = 57 := rfl
    have ha : 'a'.toNat = 97 := rfl
    have hf : 'f'.toNat = 102 := rfl
    have hA : 'A'.toNat = 65 := rfl
    have hF : 'F'.toNat = 70 := rfl
    split_ifs at h <;> simp only [some.injEq] at h <;> omega
  refine ⟨hb.2, ?_⟩
  have hc := hall c.toNat hb.1 n hb.2
  rw [Char.ofNat_toNat] at hc
  exact hc h

theorem decode_encode (bytes : List UInt8) : decode (encode bytes) = some bytes := by
  induction bytes with
  | nil => rfl
  | cons b bytes ih =>
    have hb := b.toNat_lt
    rw [encode_cons, decode, nibble_digit (by omega), nibble_digit (by omega), ih]
    simp only [bind_eq_bind, bind_some, pure_def]
    rw [Nat.div_add_mod', UInt8.ofNat_toNat]

/-- **A text that is decoded is the encoding of its bytes**, in lower case. -/
theorem encode_of_decode {text : List Char} {b : List UInt8} (h : decode text = some b) :
    encode b = text.map Char.toLower := by
  induction text using decode.induct generalizing b with
  | case1 =>
    cases h
    rfl
  | case2 => cases h
  | case3 high low rest ih =>
    simp only [decode, bind_eq_bind, pure_def, bind_eq_some_iff,
      some.injEq] at h
    obtain ⟨m, hm, n, hn, tail, ht, rfl⟩ := h
    obtain ⟨hm', hh⟩ := digit_of_nibble hm
    obtain ⟨hn', hlow⟩ := digit_of_nibble hn
    have hv : (UInt8.ofNat (m * 16 + n)).toNat = m * 16 + n := by
      rw [UInt8.toNat_ofNat']
      omega
    rw [encode_cons, hv, show (m * 16 + n) / 16 = m by omega,
      show (m * 16 + n) % 16 = n by omega, hh, hlow, ih ht]
    rfl

def Lower (text : List Char) : Prop := text.map Char.toLower = text

instance (text : List Char) : Decidable (Lower text) := inferInstanceAs (Decidable (_ = _))

theorem lower_encode (b : List UInt8) : Lower (encode b) :=
  (encode_of_decode (decode_encode b)).symm

end Hex
