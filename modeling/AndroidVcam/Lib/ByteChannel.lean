import Mathlib

/-!
# Byte streams with short transfers

A descriptor delivers its bytes in segments of any size, with interrupted calls and an error or the
end of the stream in between; it accepts bytes likewise. `readExact` and `writeExact` are the usual
loops around `read` and `write`. They record which part of the buffer every call gets.

* `available`: the bytes that can be read before the end or the first error;
* **`readExact_spec`**: the loop succeeds exactly when enough bytes are available, however they are
  split; `readExact_ranges`, `writeExact_ranges`: every call stays inside the buffer.
-/

namespace ByteChannel

open List

inductive Segment
  | data (bytes : List UInt8)
  /-- A call fails with `EINTR`. -/
  | interrupted
  /-- A call fails otherwise. -/
  | failed
deriving DecidableEq

abbrev Source := List Segment

/-- The bytes before the end of the stream or its first error. -/
def available : Source → List UInt8
  | [] => []
  | .data bytes :: rest => bytes ++ available rest
  | .interrupted :: rest => available rest
  | .failed :: _ => []

structure Range where
  offset : ℕ
  length : ℕ
deriving DecidableEq, Repr

/-- Read exactly `length` bytes into a buffer from `offset` on. -/
def readExact : Source → ℕ → ℕ → Option (List UInt8 × Source) × List Range
  | source, _, 0 => (some ([], source), [])
  | [], offset, n + 1 => (none, [⟨offset, n + 1⟩])
  | .failed :: _, offset, n + 1 => (none, [⟨offset, n + 1⟩])
  | .interrupted :: rest, offset, n + 1 =>
    let next := readExact rest offset (n + 1)
    (next.1, ⟨offset, n + 1⟩ :: next.2)
  | .data bytes :: rest, offset, n + 1 =>
    if n + 1 ≤ bytes.length then
      (some (bytes.take (n + 1), .data (bytes.drop (n + 1)) :: rest), [⟨offset, n + 1⟩])
    else
      let next := readExact rest (offset + bytes.length) (n + 1 - bytes.length)
      (next.1.map fun p => (bytes ++ p.1, p.2), ⟨offset, n + 1⟩ :: next.2)

/-- **What `readExact` returns depends on the available bytes only.** -/
theorem readExact_spec (s : Source) (o n : ℕ) :
    (∀ bytes rest, (readExact s o n).1 = some (bytes, rest) →
        bytes.length = n ∧ available s = bytes ++ available rest) ∧
      ((readExact s o n).1 = none → (available s).length < n) := by
  induction s generalizing o n with
  | nil =>
    cases n with
    | zero => simp +contextual [readExact]
    | succ n => simp [readExact, available]
  | cons segment s ih =>
    cases n with
    | zero => simp +contextual [readExact]
    | succ n =>
      cases segment with
      | failed => simp [readExact, available]
      | interrupted => exact ih o (n + 1)
      | data bytes =>
        by_cases hn : n + 1 ≤ bytes.length
        · simp only [readExact, if_pos hn, reduceCtorEq, false_implies, and_true]
          intro b rest he
          obtain ⟨rfl, rfl⟩ : bytes.take (n + 1) = b ∧ _ = rest := by simpa using he
          simp [available, hn, ← append_assoc]
        · obtain ⟨hs, hno⟩ := ih (o + bytes.length) (n + 1 - bytes.length)
          simp only [readExact, if_neg hn, available]
          refine ⟨fun b rest he => ?_, fun he => ?_⟩
          · obtain ⟨⟨tail, rest'⟩, hne, heq⟩ := Option.map_eq_some_iff.mp he
            obtain ⟨rfl, rfl⟩ : bytes ++ tail = b ∧ rest' = rest := by simpa using heq
            obtain ⟨hl, ha⟩ := hs tail rest' hne
            refine ⟨?_, by rw [ha, append_assoc]⟩
            rw [length_append, hl]
            omega
          · have hlt := hno (Option.map_eq_none_iff.mp he)
            rw [length_append]
            omega

theorem readExact_of_available {s : Source} {b tail : List UInt8}
    (h : available s = b ++ tail) (o : ℕ) :
    ∃ rest, (readExact s o b.length).1 = some (b, rest) ∧
      available rest = tail := by
  obtain ⟨hs, hn⟩ := readExact_spec s o b.length
  cases hr : (readExact s o b.length).1 with
  | none =>
    have hlt := hn hr
    rw [h, length_append] at hlt
    omega
  | some p =>
    obtain ⟨hl, ha⟩ := hs p.1 p.2 hr
    obtain ⟨rfl, rfl⟩ := append_inj (h.symm.trans ha) hl.symm
    exact ⟨p.2, rfl, rfl⟩

/-- Every call of the loop gets a part of the buffer that ends where the buffer ends. -/
theorem readExact_ranges (s : Source) (o n : ℕ) :
    ∀ r ∈ (readExact s o n).2, o ≤ r.offset ∧ r.offset + r.length = o + n := by
  induction s generalizing o n with
  | nil => cases n <;> simp [readExact]
  | cons segment s ih =>
    cases n with
    | zero => simp [readExact]
    | succ n =>
      cases segment with
      | failed => simp [readExact]
      | interrupted =>
        intro r hr
        rcases mem_cons.mp hr with rfl | hr
        · simp
        · exact ih o (n + 1) r hr
      | data bytes =>
        by_cases hn : n + 1 ≤ bytes.length
        · simp [readExact, hn]
        · intro r hr
          simp only [readExact, if_neg hn] at hr
          rcases mem_cons.mp hr with rfl | hr
          · simp
          · have := ih (o + bytes.length) (n + 1 - bytes.length) r hr
            omega

/-- How a descriptor takes the bytes of one call. -/
inductive Acceptance
  | accepted (count : ℕ)
  | interrupted
  | failed
deriving DecidableEq

/-- The end of a loop around `write`. -/
structure Written where
  ok : Bool
  /-- The bytes that were taken. -/
  count : ℕ
  sink : List Acceptance
  ranges : List Range

/-- Write `length` bytes of a buffer from `offset` on. -/
def writeExact : List Acceptance → ℕ → ℕ → Written
  | sink, _, 0 => ⟨true, 0, sink, []⟩
  | [], offset, n + 1 => ⟨true, n + 1, [], [⟨offset, n + 1⟩]⟩
  | .failed :: rest, offset, n + 1 => ⟨false, 0, rest, [⟨offset, n + 1⟩]⟩
  | .interrupted :: rest, offset, n + 1 =>
    let next := writeExact rest offset (n + 1)
    { next with ranges := ⟨offset, n + 1⟩ :: next.ranges }
  | .accepted count :: rest, offset, n + 1 =>
    let took := min count (n + 1)
    let next := writeExact rest (offset + took) (n + 1 - took)
    { next with count := took + next.count, ranges := ⟨offset, n + 1⟩ :: next.ranges }

theorem writeExact_ranges (sink : List Acceptance) (o n : ℕ) :
    ∀ r ∈ (writeExact sink o n).ranges,
      o ≤ r.offset ∧ r.offset + r.length = o + n := by
  induction sink generalizing o n with
  | nil => cases n <;> simp [writeExact]
  | cons answer sink ih =>
    cases n with
    | zero => simp [writeExact]
    | succ n =>
      cases answer with
      | failed => simp [writeExact]
      | interrupted =>
        intro r hr
        rcases mem_cons.mp hr with rfl | hr
        · simp
        · exact ih o (n + 1) r hr
      | accepted count =>
        intro r hr
        simp only [writeExact] at hr
        rcases mem_cons.mp hr with rfl | hr
        · simp
        · have := ih (o + min count (n + 1)) (n + 1 - min count (n + 1)) r hr
          omega

/-- A descriptor that never fails takes everything, however it splits the calls. -/
theorem writeExact_of_unfailing {sink : List Acceptance} (h : .failed ∉ sink) (o n : ℕ) :
    (writeExact sink o n).ok = true ∧ (writeExact sink o n).count = n ∧
      .failed ∉ (writeExact sink o n).sink := by
  induction sink generalizing o n with
  | nil => cases n <;> simp [writeExact]
  | cons answer sink ih =>
    have hr : .failed ∉ sink := fun hmem => h (mem_cons_of_mem _ hmem)
    cases n with
    | zero => exact ⟨rfl, rfl, h⟩
    | succ n =>
      cases answer with
      | failed => exact absurd mem_cons_self h
      | interrupted => exact ih hr o (n + 1)
      | accepted count =>
        obtain ⟨hok, hc, hs⟩ :=
          ih hr (o + min count (n + 1)) (n + 1 - min count (n + 1))
        refine ⟨hok, ?_, hs⟩
        rw [writeExact]
        dsimp only
        rw [hc]
        omega

end ByteChannel
