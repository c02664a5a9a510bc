import AndroidVcam.Lib.Wire

/-!
# A machine that executes A64 words

A processor with byte-addressed little-endian memory, as far as a program that only moves code has
to know it: where execution is, the scratch register x17, and everything else. Addresses wrap around
at `2 ^ 64`.

* `Machine`: what a word does to a state, with the laws of the instructions that reach an absolute
  address;
* `Machine.Straight`, **`steps_straight`**: words that only go on with the next one are executed in
  order;
* **`steps_branch`**: a load of x17 with the address behind it, and a branch to x17.
-/

namespace A64

open Wire List

/-- All of a state but the program counter. -/
structure Data (ρ : Type*) where
  x17 : UInt64
  memory : UInt64 → UInt8
  other : ρ

structure State (ρ : Type*) extends Data ρ where
  pc : UInt64

variable {ρ : Type*}

/-! ## Memory -/

def bytesFrom (memory : UInt64 → UInt8) (address : UInt64) (size : ℕ) : Bytes :=
  (range size).map fun i => memory (address + UInt64.ofNat i)

def Holds (memory : UInt64 → UInt8) (address : UInt64) (bytes : Bytes) : Prop :=
  bytesFrom memory address bytes.length = bytes

instance (memory : UInt64 → UInt8) (address : UInt64) (bytes : Bytes) :
    Decidable (Holds memory address bytes) :=
  inferInstanceAs (Decidable (bytesFrom memory address bytes.length = bytes))

def places (address : UInt64) (size : ℕ) : Set UInt64 :=
  {place | ∃ i < size, place = address + UInt64.ofNat i}

def wordAt (memory : UInt64 → UInt8) (address : UInt64) : BitVec 32 :=
  BitVec.ofNat 32 (leValue (bytesFrom memory address 4))

def doubleAt (memory : UInt64 → UInt8) (address : UInt64) : UInt64 :=
  UInt64.ofNat (leValue (bytesFrom memory address 8))

section Memory

variable {memory m' : UInt64 → UInt8} {address : UInt64}

theorem bytesFrom_congr {size : ℕ} (h : ∀ place ∈ places address size, m' place = memory place) :
    bytesFrom m' address size = bytesFrom memory address size :=
  map_congr_left fun i hi => h _ ⟨i, mem_range.mp hi, rfl⟩

theorem Holds.congr {bytes : Bytes} (h : Holds memory address bytes)
    (hs : ∀ place ∈ places address bytes.length, m' place = memory place) :
    Holds m' address bytes :=
  (bytesFrom_congr hs).trans h

theorem holds_append {b more : Bytes} : Holds memory address (b ++ more) ↔
    Holds memory address b ∧ Holds memory (address + UInt64.ofNat b.length) more := by
  have hs : bytesFrom memory address (b ++ more).length =
      bytesFrom memory address b.length ++
        bytesFrom memory (address + UInt64.ofNat b.length) more.length := by
    simp only [bytesFrom, length_append, range_add, map_append, map_map]
    congr 1
    refine map_congr_left fun i _ => ?_
    simp [UInt64.ofNat_add, UInt64.add_assoc]
  rw [Holds, hs]
  constructor
  · intro h
    exact append_inj h (by simp [bytesFrom])
  · rintro ⟨hb, hm⟩
    rw [hb, hm]

theorem places_subset {start size total : ℕ} (h : start + size ≤ total) :
    places (address + UInt64.ofNat start) size ⊆ places address total := by
  rintro place ⟨i, hi, rfl⟩
  refine ⟨start + i, by omega, ?_⟩
  rw [UInt64.ofNat_add, UInt64.add_assoc]

theorem wordAt_of_holds {word : BitVec 32} (h : Holds memory address (leBytes 4 word.toNat)) :
    wordAt memory address = word := by
  rw [Holds, length_leBytes] at h
  rw [wordAt, h, leValue_leBytes word.isLt, BitVec.ofNat_toNat, BitVec.setWidth_eq]

theorem doubleAt_of_holds {value : UInt64} (h : Holds memory address (leBytes 8 value.toNat)) :
    doubleAt memory address = value := by
  rw [Holds, length_leBytes] at h
  rw [doubleAt, h, leValue_leBytes value.toNat_lt, UInt64.ofNat_toNat]

end Memory

/-! ## Execution -/

def landingPad : BitVec 32 := 0xd503245f

def loadX17 : BitVec 32 := 0x58000051

def branchX17 : BitVec 32 := 0xd61f0220

structure Machine (ρ : Type*) where
  execute : BitVec 32 → State ρ → State ρ
  execute_landingPad : ∀ s, execute landingPad s = { s with pc := s.pc + 4 }
  execute_loadX17 : ∀ s, execute loadX17 s =
    { s with x17 := doubleAt s.memory (s.pc + 8), pc := s.pc + 4 }
  execute_branchX17 : ∀ s, execute branchX17 s = { s with pc := s.x17 }

namespace Machine

variable (m : Machine ρ)

def step (s : State ρ) : State ρ := m.execute (wordAt s.memory s.pc) s

def steps (n : ℕ) (s : State ρ) : State ρ := m.step^[n] s

/-- The words one after the other, wherever they stand. -/
def perform (words : List (BitVec 32)) (s : State ρ) : State ρ :=
  words.foldl (fun s word => m.execute word s) s

/-- A word that goes on with the next one, does not depend on where it stands and does not write
the code. -/
def Straight (code : Set UInt64) (word : BitVec 32) : Prop :=
  ∃ effect : Data ρ → Data ρ,
    (∀ s, m.execute word s = ⟨effect s.toData, s.pc + 4⟩) ∧
    ∀ d, ∀ place ∈ code, (effect d).memory place = d.memory place

variable {m} {code : Set UInt64} {w : List (BitVec 32)} {s : State ρ}

theorem step_of_holds {word : BitVec 32} (h : Holds s.memory s.pc (leBytes 4 word.toNat)) :
    m.step s = m.execute word s := by
  rw [step, wordAt_of_holds h]

theorem steps_one (s : State ρ) : m.steps 1 s = m.step s := rfl

theorem steps_add (n k : ℕ) (s : State ρ) : m.steps (n + k) s = m.steps k (m.steps n s) := by
  rw [steps, Nat.add_comm, Function.iterate_add_apply]
  rfl

theorem Straight.pc {word : BitVec 32} (h : m.Straight code word) (s : State ρ) :
    (m.execute word s).pc = s.pc + 4 := by
  obtain ⟨effect, he, -⟩ := h
  rw [he]

theorem Straight.memory {word : BitVec 32} (h : m.Straight code word) (s : State ρ) {place : UInt64}
    (hp : place ∈ code) : (m.execute word s).memory place = s.memory place := by
  obtain ⟨effect, he, hs⟩ := h
  rw [he]
  exact hs _ place hp

theorem Straight.data {word : BitVec 32} (h : m.Straight code word) {s s' : State ρ}
    (hs : s.toData = s'.toData) : (m.execute word s).toData = (m.execute word s').toData := by
  obtain ⟨effect, he, -⟩ := h
  rw [he, he, hs]

theorem perform_straight (h : ∀ word ∈ w, m.Straight code word) (s : State ρ) :
    (m.perform w s).pc = s.pc + UInt64.ofNat (4 * w.length) ∧
      ∀ place ∈ code, (m.perform w s).memory place = s.memory place := by
  induction w generalizing s with
  | nil => exact ⟨by simp [perform], fun _ _ => rfl⟩
  | cons word w ih =>
    obtain ⟨hw, hwo⟩ := forall_mem_cons.mp h
    obtain ⟨hpc, hm⟩ := ih hwo (m.execute word s)
    refine ⟨?_, fun place hp => (hm place hp).trans (hw.memory s hp)⟩
    change (m.perform w (m.execute word s)).pc = _
    rw [hpc, hw.pc, length_cons, Nat.mul_succ, Nat.add_comm, UInt64.ofNat_add,
      UInt64.add_assoc]
    rfl

theorem perform_congr (h : ∀ word ∈ w, m.Straight code word) {s s' : State ρ}
    (hs : s.toData = s'.toData) : (m.perform w s).toData = (m.perform w s').toData := by
  induction w generalizing s s' with
  | nil => exact hs
  | cons word w ih =>
    obtain ⟨hwo, hw⟩ := forall_mem_cons.mp h
    exact ih hw (hwo.data hs)

/-- **Straight words in memory are executed one after the other.** -/
theorem steps_straight (h : ∀ word ∈ w, m.Straight code word)
    (hh : Holds s.memory s.pc (w.flatMap fun word => leBytes 4 word.toNat))
    (hc : places s.pc (4 * w.length) ⊆ code) :
    m.steps w.length s = m.perform w s := by
  induction w generalizing s with
  | nil => rfl
  | cons word w ih =>
    obtain ⟨hw, hwo⟩ := forall_mem_cons.mp h
    rw [flatMap_cons] at hh
    obtain ⟨hf, hr⟩ := holds_append.mp hh
    have hn : s.pc + UInt64.ofNat (leBytes 4 word.toNat).length = (m.execute word s).pc := by
      rw [length_leBytes, hw.pc]
      rfl
    rw [hn] at hr
    -- The rest of the words is part of the code, and the first one has not written it.
    have hsub : places (m.execute word s).pc (4 * w.length) ⊆ code := by
      rw [← hn, length_leBytes]
      exact (places_subset (by rw [length_cons]; omega)).trans hc
    have hlen : (w.flatMap fun word => leBytes 4 word.toNat).length = 4 * w.length := by
      simp [Nat.mul_comm]
    have hh' : Holds (m.execute word s).memory (m.execute word s).pc
        (w.flatMap fun word => leBytes 4 word.toNat) :=
      hr.congr fun place hp => hw.memory s (hsub (hlen ▸ hp))
    rw [length_cons, Nat.add_comm, steps_add, steps_one, step_of_holds hf,
      ih hwo hh' hsub]
    rfl

/-- **A branch to an absolute address.** -/
theorem steps_branch {address : UInt64} (h : Holds s.memory s.pc
    (leBytes 4 loadX17.toNat ++ leBytes 4 branchX17.toNat ++ leBytes 8 address.toNat)) :
    m.steps 2 s = { s with x17 := address, pc := address } := by
  obtain ⟨hc, ha⟩ := holds_append.mp h
  obtain ⟨hl, hb⟩ := holds_append.mp hc
  have hf : m.step s = { s with x17 := address, pc := s.pc + 4 } := by
    have hd : doubleAt s.memory (s.pc + 8) = address := doubleAt_of_holds ha
    rw [step_of_holds hl, execute_loadX17, hd]
  have hs : m.step { s with x17 := address, pc := s.pc + 4 } =
      { s with x17 := address, pc := address } := by
    rw [step_of_holds hb, execute_branchX17]
  rw [steps_add 1 1, steps_one, steps_one, hf, hs]

end Machine

end A64
