import AndroidVcam.Lib.Wire

/-!
# SHA-256

The hash function of FIPS 180-4, on messages of whole bytes. Its constants are the beginnings of the
fractional parts of roots of prime numbers.

* `pad`, `compress`, `digest`: the function;
* **`compressAll_append`**: a message is hashed in parts of whole blocks.
-/

namespace Sha256

open Wire

abbrev Word := BitVec 32

/-- The first 32 bits of the fractional part of the `k`-th root of a number. -/
def rootBits (k n : ℕ) : Word := BitVec.ofNat 32 (Nat.nthRoot k (n * 2 ^ (32 * k)))

def primes : List ℕ := (List.range 312).filter Nat.Prime

def constants : List Word := primes.map (rootBits 3)

/-- A hash value, and the working variables of a block. -/
@[ext]
structure Hash where
  a : Word
  b : Word
  c : Word
  d : Word
  e : Word
  f : Word
  g : Word
  h : Word

def initialHash : Hash :=
  ⟨rootBits 2 2, rootBits 2 3, rootBits 2 5, rootBits 2 7, rootBits 2 11, rootBits 2 13,
    rootBits 2 17, rootBits 2 19⟩

def ch (x y z : Word) : Word := (x &&& y) ^^^ (~~~x &&& z)

def maj (x y z : Word) : Word := (x &&& y) ^^^ (x &&& z) ^^^ (y &&& z)

def bigSigma0 (x : Word) : Word := x.rotateRight 2 ^^^ x.rotateRight 13 ^^^ x.rotateRight 22

def bigSigma1 (x : Word) : Word := x.rotateRight 6 ^^^ x.rotateRight 11 ^^^ x.rotateRight 25

def sigma0 (x : Word) : Word := x.rotateRight 7 ^^^ x.rotateRight 18 ^^^ x >>> 3

def sigma1 (x : Word) : Word := x.rotateRight 17 ^^^ x.rotateRight 19 ^^^ x >>> 10

def messageWord (block : Bytes) (t : ℕ) : Word :=
  BitVec.ofNat 32 (beValue ((block.drop (4 * t)).take 4))

def schedule (block : Bytes) (t : ℕ) : Word :=
  if t < 16 then messageWord block t
  else sigma1 (schedule block (t - 2)) + schedule block (t - 7) + sigma0 (schedule block (t - 15)) +
    schedule block (t - 16)

def round (block : Bytes) (v : Hash) (t : ℕ) : Hash :=
  let t1 := v.h + bigSigma1 v.e + ch v.e v.f v.g + constants.getD t 0 + schedule block t
  let t2 := bigSigma0 v.a + maj v.a v.b v.c
  ⟨t1 + t2, v.a, v.b, v.c, v.d + t1, v.e, v.f, v.g⟩

def compress (hash : Hash) (block : Bytes) : Hash :=
  let v := (List.range 64).foldl (round block) hash
  ⟨v.a + hash.a, v.b + hash.b, v.c + hash.c, v.d + hash.d, v.e + hash.e, v.f + hash.f,
    v.g + hash.g, v.h + hash.h⟩

def compressAll (hash : Hash) (bytes : Bytes) : Hash :=
  if 64 ≤ bytes.length then compressAll (compress hash (bytes.take 64)) (bytes.drop 64) else hash
termination_by bytes.length
decreasing_by rw [List.length_drop]; omega

/-- A one, zeros up to the last eight bytes of a block, and the length in bits. -/
def pad (message : Bytes) : Bytes :=
  message ++ (0x80 :: (List.replicate ((119 - message.length % 64) % 64) 0 ++
    beBytes 8 (8 * message.length)))

def Hash.bytes (hash : Hash) : Bytes :=
  [hash.a, hash.b, hash.c, hash.d, hash.e, hash.f, hash.g, hash.h].flatMap fun word =>
    beBytes 4 word.toNat

def digest (message : Bytes) : Bytes := (compressAll initialHash (pad message)).bytes

/-- **A message is hashed in parts of whole blocks.** -/
theorem compressAll_append {hash : Hash} {done : Bytes} (h : 64 ∣ done.length)
    (rest : Bytes) : compressAll hash (done ++ rest) = compressAll (compressAll hash done) rest := by
  fun_induction compressAll hash done with
  | case1 hash done hl ih =>
    conv_lhs => rw [compressAll]
    rw [if_pos (by rw [List.length_append]; omega), List.take_append_of_le_length hl,
      List.drop_append_of_le_length hl]
    exact ih (by rw [List.length_drop]; omega)
  | case2 hash done hs =>
    obtain rfl : done = [] := List.length_eq_zero_iff.mp (by omega)
    rfl

theorem compressAll_block {hash : Hash} {block : Bytes} (h : block.length = 64) :
    compressAll hash block = compress hash block := by
  rw [compressAll, if_pos h.ge, List.take_of_length_le h.le, List.drop_of_length_le h.le, compressAll,
    if_neg (by decide)]

end Sha256
