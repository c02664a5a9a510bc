import AndroidVcam.Lib.A64Machine
import AndroidVcam.Runtime.PlanShape

/-!
# What a hook does

The bytes of a plan on a machine that executes them: the entry patch leads to the replacement, and
the trampoline does what the stolen instructions did and goes on behind them. Both use x17 and change
nothing else.

* **`hook_semantics`**.
-/

namespace Vcam.Runtime

open A64 Transaction Wire List

/-- A word that the planner accepts as relocatable. -/
def Accepted (word : BitVec 32) : Prop :=
  isPcRelative word = false ∧ isRegisterControlFlow word = false

def stolen (prologue : Bytes) : List (BitVec 32) := stolenOffsets.map (read32 prologue)

variable {target replacement : UInt64} {prologue : Bytes}

theorem accepted_of_ready (h : (planArm64InlineHook target replacement prologue).status = .ready) :
    ∀ word ∈ stolen prologue, Accepted word := by
  intro word hw
  obtain ⟨offset, ho, rfl⟩ := mem_map.mp hw
  exact movable_iff.mpr ((ready_iff.mp h).2 offset ho)

theorem leBytes_read32 {b : Bytes} {o : ℕ} (h : o + 4 ≤ b.length) :
    leBytes 4 (read32 b o).toNat = (b.drop o).take 4 := by
  have hlt : (read32 b o).toNat < 2 ^ 32 := (read32 b o).isLt
  refine ((read32_eq_iff h hlt).mp ?_).symm
  rw [BitVec.ofNat_toNat, BitVec.setWidth_eq]

theorem flatMap_stolen (h : 16 ≤ prologue.length) :
    (stolen prologue).flatMap (fun word => leBytes 4 word.toNat) = prologue.take 16 := by
  simp only [stolen, stolenOffsets, map_cons, map_nil, flatMap_cons,
    flatMap_nil, append_nil]
  rw [leBytes_read32 (by omega), leBytes_read32 (by omega), leBytes_read32 (by omega),
    leBytes_read32 (by omega), show 16 = 4 + (4 + (4 + 4)) from rfl, take_add, take_add,
    take_add, drop_drop, drop_drop, drop_zero]

section Run

variable {ρ : Type*} {m : Machine ρ} {s : State ρ}

theorem steps_absoluteBranch {a : UInt64} (h : Holds s.memory s.pc (absoluteBranch a)) :
    m.steps 2 s = { s with x17 := a, pc := a } :=
  Machine.steps_branch h

theorem steps_stolen {code : Set UInt64} (hl : 16 ≤ prologue.length)
    (hs : ∀ word ∈ stolen prologue, m.Straight code word)
    (hh : Holds s.memory s.pc (prologue.take 16)) (hc : places s.pc 16 ⊆ code) :
    m.steps 4 s = m.perform (stolen prologue) s := by
  rw [← flatMap_stolen hl] at hh
  exact Machine.steps_straight hs hh hc

/-- The trampoline: a landing pad, the stolen instructions and the branch behind the original. -/
theorem steps_trampoline {code : Set UInt64} {t r : UInt64}
    (hl : 16 ≤ prologue.length) (hs : ∀ word ∈ stolen prologue, m.Straight code word)
    (hc : places t 36 ⊆ code) (hpc : s.pc = t)
    (hh : Holds s.memory t
      (leBytes 4 kBtiCall ++ prologue.take 16 ++ absoluteBranch r)) :
    m.steps 7 s = { m.perform (stolen prologue) { s with pc := t + 4 } with
      x17 := r, pc := r } := by
  subst hpc
  obtain ⟨hf, hb⟩ := holds_append.mp hh
  obtain ⟨hpad, hst⟩ := holds_append.mp hf
  have hlen : (leBytes 4 kBtiCall ++ prologue.take 16).length = 20 := by simp; omega
  rw [hlen] at hb
  have hfi : m.steps 1 s = { s with pc := s.pc + 4 } := by
    have hste : m.step s = m.execute landingPad s := Machine.step_of_holds hpad
    rw [Machine.steps_one, hste, Machine.execute_landingPad]
  have hse : m.steps 4 { s with pc := s.pc + 4 } =
      m.perform (stolen prologue) { s with pc := s.pc + 4 } :=
    steps_stolen hl hs hst ((places_subset (by decide)).trans hc)
  obtain ⟨hpc, hm⟩ := Machine.perform_straight hs { s with pc := s.pc + 4 }
  have ht : m.steps 2 (m.perform (stolen prologue) { s with pc := s.pc + 4 }) =
      { m.perform (stolen prologue) { s with pc := s.pc + 4 } with
        x17 := r, pc := r } := by
    refine steps_absoluteBranch ?_
    have hbe : s.pc + 4 + UInt64.ofNat (4 * (stolen prologue).length) =
        s.pc + UInt64.ofNat 20 := UInt64.add_assoc _ _ _
    rw [hpc, hbe]
    refine hb.congr fun place hp => hm place (hc ?_)
    rw [length_absoluteBranch] at hp
    exact places_subset (by decide) hp
  rw [show 7 = 1 + (4 + 2) from rfl, Machine.steps_add, Machine.steps_add, hfi, hse, ht]

end Run

/-- **What a hook does**, on every machine whose accepted words are straight: the entry patch leads to
the replacement, and the trampoline leads behind the stolen instructions in the state that they
leave. -/
theorem hook_semantics {ρ : Type*} (m : Machine ρ) {target replacement : UInt64}
    {prologue : Bytes} (trampoline : UInt64)
    (hready : (planArm64InlineHook target replacement prologue).status = .ready)
    (hstraight : ∀ word, Accepted word →
      m.Straight (places target 16 ∪ places trampoline 36) word) :
    let plan := planArm64InlineHook target replacement prologue
    (∀ s : State ρ, s.pc = target → Holds s.memory target plan.entryPatch →
      ∃ n, m.steps n s = { s with x17 := replacement, pc := replacement }) ∧
    ∀ s : State ρ, s.pc = trampoline → Holds s.memory trampoline plan.trampoline →
      ∃ n, let reached := m.steps n s
        let original := m.perform (stolen prologue) { s with pc := target }
        reached.pc = target + 16 ∧ reached = { original with x17 := reached.x17 } ∧
          (Holds s.memory target plan.originalBytes →
            m.steps 4 { s with pc := target } = original) := by
  obtain ⟨hp, hpl⟩ := plan_of_ready hready
  have hw : ∀ word ∈ stolen prologue,
      m.Straight (places target 16 ∪ places trampoline 36) word :=
    fun word hwo => hstraight word (accepted_of_ready hready word hwo)
  dsimp only
  rw [hpl]
  constructor
  · rintro s rfl he
    exact ⟨2, steps_absoluteBranch he⟩
  · intro s hpc hh
    have hr := steps_trampoline hp.long hw Set.subset_union_right hpc hh
    obtain ⟨hb, -⟩ := Machine.perform_straight hw { s with pc := target }
    have hd := Machine.perform_congr hw
      (show ({ s with pc := trampoline + 4 } : State ρ).toData = { s with pc := target }.toData
        from rfl)
    refine ⟨7, by rw [hr], ?_, fun ho => ?_⟩
    · have hm := congrArg Data.memory hd
      have hot := congrArg Data.other hd
      have hre : (m.perform (stolen prologue) { s with pc := target }).pc = target + 16 :=
        hb
      rw [hr]
      dsimp only
      rw [hm, hot, hre]
    · exact steps_stolen hp.long hw ho Set.subset_union_left

/-- A machine on which all words but those of an absolute branch do nothing. -/
def plainMachine : Machine Unit where
  execute word s :=
    if word = loadX17 then { s with x17 := doubleAt s.memory (s.pc + 8), pc := s.pc + 4 }
    else if word = branchX17 then { s with pc := s.x17 }
    else { s with pc := s.pc + 4 }
  execute_landingPad _ := rfl
  execute_loadX17 _ := rfl
  execute_branchX17 _ := rfl

theorem straight_plainMachine (code : Set UInt64) {word : BitVec 32} (h : Accepted word) :
    plainMachine.Straight code word := by
  have hl : word ≠ loadX17 := by
    rintro rfl
    exact absurd h.1 (by decide)
  have hb : word ≠ branchX17 := by
    rintro rfl
    exact absurd h.2 (by decide)
  refine ⟨id, fun s => ?_, fun _ _ _ => rfl⟩
  change (if word = loadX17 then _ else if word = branchX17 then _ else _) = _
  rw [if_neg hl, if_neg hb]
  rfl

/-- A memory with the entry patch at `0x1000` and the trampoline at `0x3000`. -/
def hookedMemory (address : UInt64) : UInt8 :=
  let plan := planArm64InlineHook 0x1000 0x2000 nopPrologue
  if address < 0x3000 then plan.entryPatch.getD (address - 0x1000).toNat 0
  else plan.trampoline.getD (address - 0x3000).toNat 0

theorem hook_semantics_nop :
    (∃ n, (plainMachine.steps n ⟨⟨0, hookedMemory, ()⟩, 0x1000⟩).pc = 0x2000) ∧
      ∃ n, (plainMachine.steps n ⟨⟨0, hookedMemory, ()⟩, 0x3000⟩).pc = 0x1010 := by
  obtain ⟨he, ht⟩ := hook_semantics plainMachine 0x3000
    (show (planArm64InlineHook 0x1000 0x2000 nopPrologue).status = .ready by decide)
    fun word => straight_plainMachine _
  constructor
  · obtain ⟨n, hn⟩ := he ⟨⟨0, hookedMemory, ()⟩, 0x1000⟩ rfl (by decide)
    exact ⟨n, by rw [hn]⟩
  · obtain ⟨n, hn, -⟩ := ht ⟨⟨0, hookedMemory, ()⟩, 0x3000⟩ rfl (by decide)
    exact ⟨n, hn⟩

end Vcam.Runtime
