import Mathlib

/-!
# Base64

The standard encoding of bytes by 64 characters, with padding, and a decoder for it.

* `decode`, **`decode_encode`**: decoding gives the bytes back.
-/

namespace Base64

def run (first : Char) (count : ℕ) : List Char :=
  (List.range count).map fun n => Char.ofNat (first.toNat + n)

def alphabet : List Char := run 'A' 26 ++ run 'a' 26 ++ run '0' 10 ++ ['+', '/']

def symbol (n : ℕ) : Char := alphabet.getD n '='

def value (c : Char) : Option ℕ := alphabet.idxOf? c

def encode : List UInt8 → List Char
  | [] => []
  | [a] =>
    let n := a.toNat * 16
    [symbol (n / 64), symbol (n % 64), '=', '=']
  | [a, b] =>
    let n := a.toNat * 1024 + b.toNat * 4
    [symbol (n / 4096), symbol (n / 64 % 64), symbol (n % 64), '=']
  | a :: b :: c :: rest =>
    let n := a.toNat * 65536 + b.toNat * 256 + c.toNat
    symbol (n / 262144) :: symbol (n / 4096 % 64) :: symbol (n / 64 % 64) :: symbol (n % 64) ::
      encode rest

def byte (n : ℕ) : UInt8 := UInt8.ofNat n

def decode : List Char → Option (List UInt8)
  | [] => some []
  | a :: b :: c :: d :: rest => do
    let x ← value a
    let y ← value b
    if c = '=' ∧ d = '=' ∧ rest = [] then return [byte ((x * 64 + y) / 16)]
    else
      let z ← value c
      if d = '=' ∧ rest = [] then
        let n := (x * 64 + y) * 64 + z
        return [byte (n / 1024), byte (n / 4 % 256)]
      else
        let w ← value d
        let n := ((x * 64 + y) * 64 + z) * 64 + w
        return byte (n / 65536) :: byte (n / 256 % 256) :: byte (n % 256) :: (← decode rest)
  | _ => none

/-! ## Characters -/

set_option maxRecDepth 2000 in
theorem value_symbol {n : ℕ} (h : n < 64) : value (symbol n) = some n := by
  have hall : ∀ n < 64, value (symbol n) = some n := by decide
  exact hall n h

theorem symbol_ne {n : ℕ} (h : n < 64) : symbol n ≠ '=' := by
  intro e
  have hv := value_symbol h
  have hpad : value '=' = none := by decide
  rw [e, hpad] at hv
  cases hv

theorem byte_eq {a : UInt8} {n : ℕ} (h : n = a.toNat) : byte n = a := by
  rw [h, byte, UInt8.ofNat_toNat]

/-! ## Texts -/

theorem length_encode (byte : List UInt8) : (encode byte).length = 4 * ((byte.length + 2) / 3) := by
  induction byte using encode.induct with
  | case1 => rfl
  | case2 a => simp [encode]
  | case3 a b => simp [encode]
  | case4 a b c rest ih =>
    simp only [encode, List.length_cons, ih]
    omega

/-- **Decoding gives the bytes back.** -/
theorem decode_encode (bytes : List UInt8) : decode (encode bytes) = some bytes := by
  induction bytes using encode.induct with
  | case1 => rfl
  | case2 a =>
    have ha := a.toNat_lt
    rw [encode, decode, value_symbol (by omega), value_symbol (by omega)]
    simp only [Option.bind_eq_bind, Option.bind_some, and_self, if_true]
    rw [@byte_eq a _ (by omega)]
    rfl
  | case3 a b =>
    have ha := a.toNat_lt
    have hb := b.toNat_lt
    rw [encode, decode, value_symbol (by omega), value_symbol (by omega), value_symbol (by omega)]
    simp only [Option.bind_eq_bind, Option.bind_some, and_self, if_true,
      symbol_ne (Nat.mod_lt _ (by norm_num : 64 > 0)), false_and, if_false]
    rw [@byte_eq a _ (by omega), @byte_eq b _ (by omega)]
    rfl
  | case4 a b c rest ih =>
    have ha := a.toNat_lt
    have hb := b.toNat_lt
    have hc := c.toNat_lt
    rw [encode, decode, value_symbol (by omega), value_symbol (by omega), value_symbol (by omega),
      value_symbol (by omega), ih]
    simp only [Option.bind_eq_bind, Option.bind_some,
      symbol_ne (Nat.mod_lt _ (by norm_num : 64 > 0)), false_and, if_false]
    rw [@byte_eq a _ (by omega), @byte_eq b _ (by omega), @byte_eq c _ (by omega)]
    rfl

end Base64
