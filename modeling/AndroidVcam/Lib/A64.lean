import Mathlib

/-!
# A64 instruction words

The encoding tables of the architecture describe an instruction group by rows of fixed bits and
fields. A decoder tests a word with a mask and a value.

* `Encoding.Matches`, **`Encoding.and_mask_iff`**: the bits of a row as a mask and a value;
* `positionDependent`: the groups whose words mean something else at another address, or leave the
  straight line.
-/

namespace A64

/-- A row of an encoding table from bit 31 downwards; `none` stands for a bit of a field. Bits behind
the end of the row belong to fields. -/
abbrev Encoding := List (Option Bool)

def row (text : String) : Encoding := text.toList.map fun c =>
  if c = '0' then some false else if c = '1' then some true else none

namespace Encoding

variable (e : Encoding)

/-- What the row says about bit `i`. -/
def bit (i : ℕ) : Option Bool := e[31 - i]?.join

def Matches (w : BitVec 32) : Prop := ∀ i : Fin 32, ∀ b ∈ e.bit i, w.getLsbD i = b

instance (w : BitVec 32) : Decidable (e.Matches w) :=
  inferInstanceAs (Decidable (∀ i : Fin 32, ∀ b ∈ e.bit i, w.getLsbD i = b))

def mask : BitVec 32 := BitVec.ofFnLE fun i : Fin 32 => (e.bit i).isSome

def value : BitVec 32 := BitVec.ofFnLE fun i : Fin 32 => (e.bit i).getD false

variable {e}

/-- **A row is tested by its mask and its value.** -/
theorem and_mask_iff {w : BitVec 32} : w &&& e.mask = e.value ↔ e.Matches w := by
  have hbit (i : Fin 32) : (w &&& e.mask).getLsbD i = e.value.getLsbD i ↔
      ∀ b ∈ e.bit i, w.getLsbD i = b := by
    rw [BitVec.getLsbD_and, mask, value, BitVec.getLsbD_ofFnLE, BitVec.getLsbD_ofFnLE,
      dif_pos i.isLt, dif_pos i.isLt]
    cases e.bit i with
    | none => simp
    | some b => simp
  constructor
  · intro h i
    exact (hbit i).mp (by rw [h])
  · intro h
    refine BitVec.eq_of_getLsbD_eq fun i hi => ?_
    exact (hbit ⟨i, hi⟩).mpr (h ⟨i, hi⟩)

end Encoding

/-! ## Instruction groups -/

def pcRelativeAddressing : Encoding := row "xxx10000"

/-- Load register (literal): LDR, LDRSW and PRFM, and LDR of a SIMD&FP register. -/
def loadRegisterLiteral : Encoding := row "xx011x00"

def branchImmediate : Encoding := row "x00101"

def branchConditional : Encoding := row "01010100xxxxxxxxxxxxxxxxxxx0xxxx"

def branchConsistent : Encoding := row "01010100xxxxxxxxxxxxxxxxxxx1xxxx"

def compareAndBranch : Encoding := row "x011010"

def testAndBranch : Encoding := row "x011011"

/-- Unconditional branch (register): BR, BLR, RET, ERET and the forms with pointer authentication. -/
def branchRegister : Encoding := row "1101011"

/-- The groups whose words cannot be executed somewhere else. -/
def positionDependent : List Encoding :=
  [pcRelativeAddressing, loadRegisterLiteral, branchImmediate, branchConditional, branchConsistent,
    compareAndBranch, testAndBranch, branchRegister]

end A64
