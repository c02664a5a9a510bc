import AndroidVcam.Lib.Sha256
import AndroidVcam.Lib.Hex

/-!
# The hash of a module

The class `Sha256` and `sha256FileHex` of `runtime/RuntimeAbiGuard.cpp`.

* `Sha256State.update`, `Sha256State.finish`, `sha256FileHex`;
* `transform_eq`: a block is compressed as FIPS 180-4 says;
* `Holds`: what the members say about the bytes so far, which `update` keeps (`holds_update`);
* **`sha256_correct`**: the digest is that of the bytes, however they are split.
-/

namespace Vcam.Runtime

open Wire Sha256 List

def kSha256Constants : List Word :=
  [0x428a2f98, 0x71374491, 0xb5c0fbcf, 0xe9b5dba5, 0x3956c25b, 0x59f111f1,
    0x923f82a4, 0xab1c5ed5, 0xd807aa98, 0x12835b01, 0x243185be, 0x550c7dc3,
    0x72be5d74, 0x80deb1fe, 0x9bdc06a7, 0xc19bf174, 0xe49b69c1, 0xefbe4786,
    0x0fc19dc6, 0x240ca1cc, 0x2de92c6f, 0x4a7484aa, 0x5cb0a9dc, 0x76f988da,
    0x983e5152, 0xa831c66d, 0xb00327c8, 0xbf597fc7, 0xc6e00bf3, 0xd5a79147,
    0x06ca6351, 0x14292967, 0x27b70a85, 0x2e1b2138, 0x4d2c6dfc, 0x53380d13,
    0x650a7354, 0x766a0abb, 0x81c2c92e, 0x92722c85, 0xa2bfe8a1, 0xa81a664b,
    0xc24b8b70, 0xc76c51a3, 0xd192e819, 0xd6990624, 0xf40e3585, 0x106aa070,
    0x19a4c116, 0x1e376c08, 0x2748774c, 0x34b0bcb5, 0x391c0cb3, 0x4ed8aa4a,
    0x5b9cca4f, 0x682e6ff3, 0x748f82ee, 0x78a5636f, 0x84c87814, 0x8cc70208,
    0x90befffa, 0xa4506ceb, 0xbef9a3f7, 0xc67178f2]

def rotateRight (value : Word) (count : ℕ) : Word := value >>> count ||| value <<< (32 - count)

/-! ## A block -/

/-- The sixteen words of a block, most significant byte first. -/
def blockWord (block : Bytes) (i : ℕ) : Word :=
  let byte := fun k => (block.getD (i * 4 + k) 0).toBitVec.setWidth 32
  byte 0 <<< 24 ||| byte 1 <<< 16 ||| byte 2 <<< 8 ||| byte 3

def nextWord (words : List Word) : Word :=
  let word := fun k => words.getD (words.length - k) 0
  let s0 := rotateRight (word 15) 7 ^^^ rotateRight (word 15) 18 ^^^ word 15 >>> 3
  let s1 := rotateRight (word 2) 17 ^^^ rotateRight (word 2) 19 ^^^ word 2 >>> 10
  word 16 + s0 + word 7 + s1

/-- The first `count` words beyond the sixteen of the block. -/
def expandWords (block : Bytes) : ℕ → List Word
  | 0 => (range 16).map (blockWord block)
  | count + 1 => expandWords block count ++ [nextWord (expandWords block count)]

def transformRound (words : List Word) (v : Hash) (i : ℕ) : Hash :=
  let sum1 := rotateRight v.e 6 ^^^ rotateRight v.e 11 ^^^ rotateRight v.e 25
  let choice := (v.e &&& v.f) ^^^ (~~~v.e &&& v.g)
  let temp1 := v.h + sum1 + choice + kSha256Constants.getD i 0 + words.getD i 0
  let sum0 := rotateRight v.a 2 ^^^ rotateRight v.a 13 ^^^ rotateRight v.a 22
  let majority := (v.a &&& v.b) ^^^ (v.a &&& v.c) ^^^ (v.b &&& v.c)
  let temp2 := sum0 + majority
  ⟨temp1 + temp2, v.a, v.b, v.c, v.d + temp1, v.e, v.f, v.g⟩

def transform (state : Hash) (block : Bytes) : Hash :=
  let v := (range 64).foldl (transformRound (expandWords block 48)) state
  ⟨state.a + v.a, state.b + v.b, state.c + v.c, state.d + v.d, state.e + v.e, state.f + v.f,
    state.g + v.g, state.h + v.h⟩

/-! ## The class -/

structure Sha256State where
  state : Hash := ⟨0x6a09e667, 0xbb67ae85, 0x3c6ef372, 0xa54ff53a, 0x510e527f, 0x9b05688c,
    0x1f83d9ab, 0x5be0cd19⟩
  block : Bytes := replicate 64 0
  blockSize : Fin 64 := 0
  totalBytes : ℕ := 0

/-- `memcpy` or `fill` into the block. -/
def overlay (block : Bytes) (offset : ℕ) (bytes : Bytes) : Bytes :=
  block.take offset ++ (bytes ++ block.drop (offset + bytes.length))

def Sha256State.absorb (d : Sha256State) (input : Bytes) : Sha256State :=
  if _h : input = [] then d
  else
    let copied := min input.length (64 - d.blockSize)
    let block := overlay d.block d.blockSize (input.take copied)
    if hfull : d.blockSize + copied = 64 then
      absorb { d with state := transform d.state block, block, blockSize := 0 } (input.drop copied)
    else absorb { d with block, blockSize := ⟨d.blockSize + copied, by omega⟩ } (input.drop copied)
termination_by input.length
decreasing_by all_goals have := length_pos_iff.mpr _h; rw [length_drop]; omega

def Sha256State.update (d : Sha256State) (input : Bytes) : Sha256State :=
  absorb { d with totalBytes := (d.totalBytes + input.length) % 2 ^ 64 } input

/-- The last block, of which `size` bytes are used. -/
def lastBlock (block : Bytes) (size bitCount : ℕ) : Bytes :=
  overlay (overlay block size (replicate (56 - size) 0)) 56 (beBytes 8 bitCount)

def Sha256State.finish (d : Sha256State) : Bytes :=
  let bitCount := d.totalBytes * 8 % 2 ^ 64
  let block := overlay d.block d.blockSize [0x80]
  let size : ℕ := d.blockSize + 1
  let state :=
    if 56 < size then
      let block := overlay block size (replicate (64 - size) 0)
      transform (transform d.state block) (lastBlock block 0 bitCount)
    else transform d.state (lastBlock block size bitCount)
  state.bytes

/-- The loop of `sha256FileHex`, which ends with the first read that is short. -/
def hashReads (d : Sha256State) (content : Bytes) : Sha256State :=
  if content.length < 64 * 1024 then if content = [] then d else d.update content
  else hashReads (d.update (content.take (64 * 1024))) (content.drop (64 * 1024))
termination_by content.length
decreasing_by rw [length_drop]; omega

/-- `sha256FileHex` on a file that can be read. -/
def sha256FileHex (content : Bytes) : List Char := Hex.encode (hashReads {} content).finish

/-! ## Blocks are compressed as they should be -/

theorem constants_eq : kSha256Constants = constants := by decide +kernel

theorem initialHash_eq : ({} : Sha256State).state = initialHash := by
  ext1 <;> decide +kernel

theorem or_shifted (b₀ b₁ b₂ b₃ : UInt8) :
    b₀.toBitVec.setWidth 32 <<< 24 ||| b₁.toBitVec.setWidth 32 <<< 16 |||
      b₂.toBitVec.setWidth 32 <<< 8 ||| b₃.toBitVec.setWidth 32 =
    BitVec.ofNat 32 (beValue [b₀, b₁, b₂, b₃]) := by
  have h₀ := b₀.toNat_lt
  have h₁ := b₁.toNat_lt
  have h₂ := b₂.toNat_lt
  have h₃ := b₃.toNat_lt
  apply BitVec.eq_of_toNat_eq
  simp only [BitVec.toNat_or, BitVec.toNat_shiftLeft, BitVec.toNat_setWidth, UInt8.toNat_toBitVec,
    BitVec.toNat_ofNat, beValue, leValue, reverse_cons, reverse_nil, nil_append,
    cons_append]
  simp (disch := omega) only [Nat.mod_eq_of_lt, Nat.shiftLeft_eq]
  have hor (i x y : ℕ) (h : y < 2 ^ i) : x * 2 ^ i ||| y = x * 2 ^ i + y := by
    rw [Nat.mul_comm, ← Nat.two_pow_add_eq_or_of_lt h]
  rw [Nat.lor_assoc, Nat.lor_assoc, hor 8 _ _ h₃, hor 16 _ _ (by omega), hor 24 _ _ (by omega)]
  ring

variable {block message : Bytes} {d : Sha256State}

theorem blockWord_eq (h : block.length = 64) {t : ℕ} (ht : t < 16) :
    blockWord block t = messageWord block t := by
  have hb : (block.drop (4 * t)).take 4 = [block.getD (t * 4 + 0) 0, block.getD (t * 4 + 1) 0,
      block.getD (t * 4 + 2) 0, block.getD (t * 4 + 3) 0] := by
    rw [Nat.mul_comm 4 t, drop_eq_getElem_cons (by omega), drop_eq_getElem_cons (by omega),
      drop_eq_getElem_cons (by omega), drop_eq_getElem_cons (by omega)]
    simp only [take_succ_cons, take_zero, getD_eq_getElem?_getD, Nat.add_zero,
      getElem?_eq_getElem (show t * 4 < block.length by omega),
      getElem?_eq_getElem (show t * 4 + 1 < block.length by omega),
      getElem?_eq_getElem (show t * 4 + 2 < block.length by omega),
      getElem?_eq_getElem (show t * 4 + 3 < block.length by omega), Option.getD_some]
  rw [blockWord, messageWord, hb]
  exact or_shifted _ _ _ _

theorem length_expandWords (b : Bytes) (count : ℕ) :
    (expandWords b count).length = 16 + count := by
  induction count with
  | zero => simp [expandWords]
  | succ count ih => rw [expandWords, length_append, ih]; rfl

theorem expandWords_eq (h : block.length = 64) (c : ℕ) :
    expandWords block c = (range (16 + c)).map (schedule block) := by
  induction c with
  | zero =>
    refine map_congr_left fun t ht => ?_
    rw [blockWord_eq h (mem_range.mp ht), schedule, if_pos (mem_range.mp ht)]
  | succ c ih =>
    have hw {k : ℕ} (hk : 0 < k ∧ k ≤ 16) :
        (expandWords block c).getD (16 + c - k) 0 = schedule block (16 + c - k) := by
      rw [ih, getD_eq_getElem?_getD, getElem?_map, getElem?_range (by omega)]
      rfl
    have hn : nextWord (expandWords block c) = schedule block (16 + c) := by
      rw [schedule, if_neg (by omega), nextWord]
      simp only [length_expandWords, hw (k := 15) (by decide), hw (k := 2) (by decide),
        hw (k := 16) (by decide), hw (k := 7) (by decide)]
      rw [show ∀ x : Word, rotateRight x 7 ^^^ rotateRight x 18 ^^^ x >>> 3 = sigma0 x from fun _ => rfl,
        show ∀ x : Word, rotateRight x 17 ^^^ rotateRight x 19 ^^^ x >>> 10 = sigma1 x from fun _ => rfl]
      ring
    rw [expandWords, hn, ih, ← Nat.add_assoc, range_succ, map_append]
    rfl

theorem transform_eq (h : block.length = 64) (state : Hash) :
    transform state block = compress state block := by
  have hf : (range 64).foldl (transformRound (expandWords block 48)) state =
      (range 64).foldl (round block) state := by
    refine foldl_ext _ _ _ fun v t ht => ?_
    have hw : (expandWords block 48).getD t 0 = schedule block t := by
      rw [expandWords_eq h, getD_eq_getElem?_getD, getElem?_map,
        getElem?_range (mem_range.mp ht)]
      rfl
    rw [transformRound, hw, constants_eq]
    rfl
  rw [transform, hf, compress]
  ext1 <;> exact add_comm _ _

/-! ## What the members say -/

theorem take_overlay {b bytes : Bytes} {o : ℕ} (h : o ≤ b.length) :
    (overlay b o bytes).take (o + bytes.length) = b.take o ++ bytes := by
  rw [overlay, ← append_assoc, take_left']
  rw [length_append, length_take, min_eq_left h]

theorem length_overlay {b : Bytes} {o : ℕ}
    (h : o + b.length ≤ block.length) : (overlay block o b).length = block.length := by
  simp only [overlay, length_append, length_take, length_drop]
  omega

theorem overlay_full {bytes : Bytes} {o : ℕ} (h : o + bytes.length = block.length) :
    overlay block o bytes = block.take o ++ bytes := by
  rw [overlay, drop_of_length_le h.ge, append_nil]

/-- The whole blocks of the message are compressed, and the rest is at the front of the block. -/
structure Holds (d : Sha256State) (message : Bytes) : Prop where
  length : d.block.length = 64
  blocks : ∃ done, 64 ∣ done.length ∧ d.state = compressAll initialHash done ∧
    message = done ++ d.block.take d.blockSize

theorem compressAll_transform {done : Bytes} (hd : 64 ∣ done.length)
    (hb : block.length = 64) : transform (compressAll initialHash done) block =
      compressAll initialHash (done ++ block) := by
  rw [compressAll_append hd, compressAll_block hb, transform_eq hb]

theorem holds_absorb {d : Sha256State} {m i : Bytes} (h : Holds d m) :
    Holds (d.absorb i) (m ++ i) ∧ (d.absorb i).totalBytes = d.totalBytes := by
  fun_induction Sha256State.absorb d i generalizing m with
  | case1 d =>
    rw [append_nil]
    exact ⟨h, rfl⟩
  | case2 d i hne copied block hfu =>
    rename_i ih
    obtain ⟨hl, done, hd, hs, hm⟩ := h
    have ht : (i.take copied).length = copied := length_take_of_le (min_le_left _ _)
    have hb : block.length = 64 := (length_overlay (by omega)).trans hl
    have hf : block = d.block.take d.blockSize ++ i.take copied := overlay_full (by omega)
    have hst : Holds { d with state := transform d.state block, block, blockSize := 0 }
        (m ++ i.take copied) := by
      refine ⟨hb, done ++ block, ?_, ?_, ?_⟩
      · rw [length_append, hb]
        omega
      · rw [← compressAll_transform hd hb, ← hs]
      · rw [hm, append_assoc, ← hf]
        exact (append_nil _).symm
    have hr := ih hst
    rwa [append_assoc, take_append_drop] at hr
  | case3 d i hne copied block hfu =>
    rename_i ih
    obtain ⟨hl, done, hd, hs, hm⟩ := h
    have ht : (i.take copied).length = copied := length_take_of_le (min_le_left _ _)
    have hst : Holds { d with block, blockSize := ⟨d.blockSize + copied, by omega⟩ }
        (m ++ i.take copied) := by
      refine ⟨(length_overlay (by omega)).trans hl, done, hd, hs, ?_⟩
      have hfr : block.take (d.blockSize + copied) = d.block.take d.blockSize ++ i.take copied := by
        rw [← take_overlay (by omega), ht]
      rw [hm, append_assoc, ← hfr]
    have hr := ih hst
    rwa [append_assoc, take_append_drop] at hr

theorem holds_update (h : Holds d message) (ht : d.totalBytes = message.length % 2 ^ 64)
    (i : Bytes) :
    Holds (d.update i) (message ++ i) ∧
      (d.update i).totalBytes = (message ++ i).length % 2 ^ 64 := by
  have hs : Holds { d with totalBytes := (d.totalBytes + i.length) % 2 ^ 64 } message :=
    ⟨h.length, h.blocks⟩
  obtain ⟨hh, hsa⟩ := @holds_absorb _ message i hs
  refine ⟨hh, hsa.trans ?_⟩
  dsimp only
  rw [ht, length_append, Nat.mod_add_mod]

theorem lastBlock_eq (hb : block.length = 64) {size : ℕ} (hs : size ≤ 56)
    (bitCount : ℕ) : lastBlock block size bitCount =
      block.take size ++ (replicate (56 - size) 0 ++ beBytes 8 bitCount) := by
  have hz : (replicate (56 - size) (0 : UInt8)).length = 56 - size := length_replicate
  have hbi : (beBytes 8 bitCount).length = 8 := length_beBytes 8 bitCount
  have hfi := length_overlay (show size + (replicate (56 - size) (0 : UInt8)).length ≤
    block.length by omega)
  have hf := @take_overlay block (replicate (56 - size) 0) size (by omega)
  rw [hz, Nat.add_sub_of_le hs] at hf
  rw [lastBlock, overlay_full (by omega), hf, append_assoc]

theorem finish_eq (h : Holds d message) (ht : d.totalBytes = message.length % 2 ^ 64)
    (hsh : message.length < 2 ^ 61) :
    d.finish = digest message := by
  obtain ⟨hle, done, hd, hs, hm⟩ := h
  have hu := d.blockSize.isLt
  have hp : (d.block.take d.blockSize).length = d.blockSize := length_take_of_le (by omega)
  have hsi : message.length % 64 = d.blockSize := by
    rw [hm, length_append, hp]
    omega
  have hb : d.totalBytes * 8 % 2 ^ 64 = 8 * message.length := by omega
  have hma : (overlay d.block d.blockSize [0x80]).length = 64 :=
    (length_overlay (by rw [length_singleton]; omega)).trans hle
  have hf : (overlay d.block d.blockSize [0x80]).take (d.blockSize + 1) =
      d.block.take d.blockSize ++ [0x80] := @take_overlay d.block [0x80] d.blockSize (by omega)
  have hl (n : ℕ) (hn : n ≤ 56) {front : Bytes} (hf : front.length = n) :
      (front ++ (replicate (56 - n) 0 ++ beBytes 8 (8 * message.length))).length = 64 := by
    rw [length_append, length_append, length_replicate, length_beBytes, hf]
    omega
  have hmr : (d.block.take d.blockSize ++ [0x80]).length = (d.blockSize : ℕ) + 1 := by
    rw [length_append, hp]
    rfl
  rw [Sha256State.finish, digest, hb, hs, pad, hsi]
  dsimp only
  congr 1
  split_ifs with hlo
  · have hz : (replicate (64 - (d.blockSize + 1)) (0 : UInt8)).length =
        64 - (d.blockSize + 1) := length_replicate
    have hfi := overlay_full (show d.blockSize + 1 + (replicate (64 - (d.blockSize + 1))
      (0 : UInt8)).length = (overlay d.block d.blockSize [0x80]).length by omega)
    have hfu : (overlay (overlay d.block d.blockSize [0x80]) (d.blockSize + 1)
        (replicate (64 - (d.blockSize + 1)) 0)).length = 64 :=
      (length_overlay (by omega)).trans hma
    rw [compressAll_transform hd hfu, lastBlock_eq hfu (Nat.zero_le _), take_zero,
      compressAll_transform (by rw [length_append, hfu]; omega) (hl 0 (by decide) rfl), hfi,
      hf, hm]
    have hsum : (119 - (d.blockSize : ℕ)) % 64 = 64 - (d.blockSize + 1) + 56 := by omega
    rw [hsum, ← replicate_append_replicate]
    simp only [append_assoc, cons_append, nil_append, Nat.sub_zero]
  · have hsum : (119 - (d.blockSize : ℕ)) % 64 = 56 - (d.blockSize + 1) := by omega
    rw [lastBlock_eq hma (by omega), hf, compressAll_transform hd (hl _ (by omega) hmr),
      hm, hsum]
    simp only [append_assoc, cons_append, nil_append]

theorem holds_hashReads (h : Holds d message) (ht : d.totalBytes = message.length % 2 ^ 64)
    (c : Bytes) :
    Holds (hashReads d c) (message ++ c) ∧
      (hashReads d c).totalBytes = (message ++ c).length % 2 ^ 64 := by
  fun_induction hashReads d c generalizing message with
  | case1 d => simpa using ⟨h, ht⟩
  | case2 d c => exact holds_update h ht c
  | case3 d c =>
    rename_i ih
    obtain ⟨hst, hs⟩ := holds_update h ht (c.take (64 * 1024))
    have hr := ih hst hs
    rwa [append_assoc, take_append_drop] at hr

theorem holds_start : Holds {} [] :=
  ⟨rfl, [], dvd_zero _, by rw [initialHash_eq, compressAll, if_neg (by decide)], rfl⟩

/-- **SHA-256.** Bytes shorter than `2 ^ 61`, split in any way, have the digest of FIPS 180-4, and the
text for a file is the digest of its content. -/
theorem sha256_correct (chunks : List Bytes) (hshort : chunks.flatten.length < 2 ^ 61) :
    (chunks.foldl Sha256State.update {}).finish = digest chunks.flatten ∧
      ∀ content : Bytes, content.length < 2 ^ 61 →
        sha256FileHex content = Hex.encode (digest content) := by
  constructor
  · have hall : ∀ (d : Sha256State) (message : Bytes), Holds d message →
        d.totalBytes = message.length % 2 ^ 64 →
        Holds (chunks.foldl Sha256State.update d) (message ++ chunks.flatten) ∧
          (chunks.foldl Sha256State.update d).totalBytes =
            (message ++ chunks.flatten).length % 2 ^ 64 := by
      clear hshort
      induction chunks with
      | nil => exact fun d message h ht => by simpa using ⟨h, ht⟩
      | cons chunk chunks ih =>
        intro d message h ht
        obtain ⟨hst, hs⟩ := holds_update h ht chunk
        have hr := ih _ _ hst hs
        rwa [append_assoc] at hr
    obtain ⟨hh, ht⟩ := hall {} [] holds_start rfl
    exact finish_eq hh ht hshort
  · intro content hc
    obtain ⟨hh, ht⟩ := holds_hashReads holds_start rfl content
    rw [sha256FileHex, finish_eq hh ht hc]
    rfl

theorem sha256_correct_abc :
    Sha256State.finish (({} : Sha256State).update [0x61] |>.update [] |>.update [0x62, 0x63]) =
        digest [0x61, 0x62, 0x63] ∧
      sha256FileHex [0x61, 0x62, 0x63] = Hex.encode (digest [0x61, 0x62, 0x63]) :=
  have h := sha256_correct [[0x61], [], [0x62, 0x63]] (by decide)
  ⟨h.1, h.2 [0x61, 0x62, 0x63] (by decide)⟩

end Vcam.Runtime
