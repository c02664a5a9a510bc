import AndroidVcam.Runtime.ThreadQuiescence

/-!
# Park requests and resumes in a trace

What a trace of callbacks says about the threads that may be parked. `parkAttempted_` is meant to
follow it.

* `Account`: the flag, the resumes and the requests are as they should be; one lemma for each
  callback that is added to the trace.
-/

namespace Vcam.Runtime

open Dialogue Dialogue.Program List

/-! ## Traces -/

def QuiesceEvent.asks : QuiesceEvent → Option ℤ
  | ⟨.requestThreadPark threadId _, _⟩ => some threadId
  | _ => none

def QuiesceEvent.grants : QuiesceEvent → Option ℤ
  | ⟨.requestThreadPark threadId _, true⟩ => some threadId
  | _ => none

def QuiesceEvent.isWait : QuiesceEvent → Bool
  | ⟨.waitForParkedThreads _ _ _ _, _⟩ => true
  | _ => false

def QuiesceEvent.resumes : QuiesceEvent → Bool
  | ⟨.resumeParkedThreads _, true⟩ => true
  | _ => false

theorem QuiesceEvent.grants_eq_none {e : QuiesceEvent} (h : QuiesceEvent.asks e = none) :
    QuiesceEvent.grants e = none := by
  obtain ⟨request, answer⟩ := e
  cases request <;> first | rfl | cases h

def asked (trace : List QuiesceEvent) : List ℤ := trace.filterMap QuiesceEvent.asks

def granted (trace : List QuiesceEvent) : List ℤ := trace.filterMap QuiesceEvent.grants

def waits (trace : List QuiesceEvent) : ℕ := trace.countP QuiesceEvent.isWait

/-- The last park request is not followed by a successful resume. -/
def Pending (trace : List QuiesceEvent) : Prop :=
  ∃ before event after, trace = before ++ event :: after ∧ (QuiesceEvent.asks event).isSome ∧
    ∀ event ∈ after, QuiesceEvent.resumes event = false

variable {trace : List QuiesceEvent} {e : QuiesceEvent}

theorem asked_concat : asked (trace ++ [e]) = asked trace ++ (QuiesceEvent.asks e).toList := by
  rw [asked, filterMap_append]
  cases h : QuiesceEvent.asks e <;> simp [h, asked]

theorem granted_concat :
    granted (trace ++ [e]) = granted trace ++ (QuiesceEvent.grants e).toList := by
  rw [granted, filterMap_append]
  cases h : QuiesceEvent.grants e <;> simp [h, granted]

theorem waits_concat :
    waits (trace ++ [e]) = waits trace + if QuiesceEvent.isWait e then 1 else 0 := by
  rw [waits, countP_append]
  cases h : QuiesceEvent.isWait e <;> simp [h, waits]

theorem pending_concat : Pending (trace ++ [e]) ↔
    (QuiesceEvent.asks e).isSome ∨ (Pending trace ∧ QuiesceEvent.resumes e = false) := by
  constructor
  · rintro ⟨before, park, after, heq, hp, ha⟩
    obtain rfl | ⟨after, last, rfl⟩ := eq_nil_or_concat after
    · obtain ⟨-, hl⟩ := append_inj' heq rfl
      exact .inl (singleton_inj.mp hl ▸ hp)
    · rw [concat_eq_append] at heq ha
      rw [← cons_append, ← append_assoc] at heq
      obtain ⟨ht, hl⟩ := append_inj' heq rfl
      obtain rfl := singleton_inj.mp hl
      refine .inr ⟨⟨before, park, after, ht, hp, fun other ho => ?_⟩, ha _ (by simp)⟩
      exact ha other (mem_append_left _ ho)
  · rintro (hask | ⟨⟨before, park, after, rfl, hp, ha⟩, hr⟩)
    · exact ⟨trace, e, [], rfl, hask, nofun⟩
    · refine ⟨before, park, after ++ [e], by simp, hp, ?_⟩
      exact forall_mem_append.mpr ⟨ha, by simpa using hr⟩

theorem not_pending_of_asked_eq_nil (h : asked trace = []) : ¬ Pending trace := by
  rintro ⟨before, park, after, rfl, hp, -⟩
  rw [asked, filterMap_eq_nil_iff] at h
  rw [h park (by simp)] at hp
  cases hp

/-! ## The account -/

/-- The flag follows the trace, a resume comes behind a request, no vector was left, and each peer
was asked at most once. -/
structure Account (currentThreadId : ℤ) (parkAttempted : Bool) (trace : List QuiesceEvent) :
    Prop where
  pending : parkAttempted = true ↔ Pending trace
  resumed : Throughout (fun before event _ => ∀ epoch,
    event.request = .resumeParkedThreads epoch → Pending before) trace
  inBounds : ∀ event ∈ trace, event.request ≠ .stray
  nodup : (asked trace).Nodup
  others : currentThreadId ∉ asked trace

namespace Account

variable {current : ℤ} {attempted : Bool}

theorem nil : Account current false [] where
  pending := ⟨nofun, fun h => absurd h (not_pending_of_asked_eq_nil rfl)⟩
  resumed := throughout_nil
  inBounds := nofun
  nodup := nodup_nil
  others := not_mem_nil

theorem resumed_concat (h : Account current attempted trace)
    (he : ∀ epoch, e.request = .resumeParkedThreads epoch → Pending trace) :
    Throughout (fun before e _ => ∀ epoch,
      e.request = .resumeParkedThreads epoch → Pending before) (trace ++ [e]) := by
  refine throughout_append.mpr ⟨h.resumed, throughout_cons.mpr ⟨fun epoch hr => ?_, throughout_nil⟩⟩
  rw [append_nil]
  exact he epoch hr

theorem concat_plain (h : Account current attempted trace)
    (hask : QuiesceEvent.asks e = none)
    (hr : ∀ epoch, e.request ≠ .resumeParkedThreads epoch)
    (hs : e.request ≠ .stray) :
    Account current attempted (trace ++ [e]) where
  pending := by
    have hre : QuiesceEvent.resumes e = false := by
      unfold QuiesceEvent.resumes
      split
      · exact absurd rfl (hr _)
      · rfl
    simp [pending_concat, hask, hre, h.pending]
  resumed := h.resumed_concat fun epoch hrq => absurd hrq (hr epoch)
  inBounds := forall_mem_append.mpr ⟨h.inBounds, by simpa using hs⟩
  nodup := by simpa [asked_concat, hask] using h.nodup
  others := by simpa [asked_concat, hask] using h.others

theorem enumerate (h : Account current attempted trace) {c : ℕ}
    (read : Filled ℤ c) :
    Account current attempted (trace ++ [⟨.enumerateThreads c, read⟩]) :=
  h.concat_plain rfl nofun nofun

theorem wait (h : Account current attempted trace) (e : UInt32) (ids : List ℤ)
    (t : UInt32) {c : ℕ} (w : Filled ParkedThreadSnapshot c) :
    Account current attempted
      (trace ++ [⟨.waitForParkedThreads e ids c t, w⟩]) :=
  h.concat_plain rfl nofun nofun

theorem request (h : Account current attempted trace) {thread : ℤ} {e : UInt32}
    (hc : thread ≠ current) (hnew : thread ∉ asked trace) (a : Bool) :
    Account current true (trace ++ [⟨.requestThreadPark thread e, a⟩]) where
  pending := ⟨fun _ => pending_concat.mpr (.inl rfl), fun _ => rfl⟩
  resumed := h.resumed_concat nofun
  inBounds := forall_mem_append.mpr ⟨h.inBounds, by simp⟩
  nodup := by
    rw [asked_concat]
    exact nodup_append_comm.mp (nodup_cons.mpr ⟨hnew, h.nodup⟩)
  others := by
    rw [asked_concat, mem_append, not_or]
    exact ⟨h.others, by simpa [QuiesceEvent.asks] using hc.symm⟩

theorem resume (h : Account current true trace) (e : UInt32) (a : Bool) :
    Account current (!a) (trace ++ [⟨.resumeParkedThreads e, a⟩]) where
  pending := by
    have hp := h.pending.mp rfl
    cases a <;> simp [pending_concat, QuiesceEvent.asks, QuiesceEvent.resumes, hp]
  resumed := h.resumed_concat fun _ _ => h.pending.mp rfl
  inBounds := forall_mem_append.mpr ⟨h.inBounds, by simp⟩
  nodup := by simpa [asked_concat, QuiesceEvent.asks] using h.nodup
  others := by simpa [asked_concat, QuiesceEvent.asks] using h.others

end Account

end Vcam.Runtime
