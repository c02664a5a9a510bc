import Mathlib

/-!
# Programs that call back

A program puts questions to its environment and goes on with the answers, which may be anything.
`Path` relates the questions and answers of one run to its value. How the answers and the rest of the
world hang together is a relation on single events, which `Follows` carries along a run.

* `Program.run`, `path_run`: the run in which a function of the past gives the answers;
* `Follows`, **`Follows.invariant`**, **`Follows.history`**: the world along the events of a run.
-/

namespace Dialogue

open List

structure Event (ι : Type) (κ : ι → Type) where
  request : ι
  answer : κ request

/-- A program with questions in `ι`, whose answers have the types `κ`. -/
inductive Program (ι : Type) (κ : ι → Type) (α : Type)
  | done (value : α)
  | call (request : ι) (next : κ request → Program ι κ α)

namespace Program

variable {ι : Type} {κ : ι → Type} {α β : Type}

def bind : Program ι κ α → (α → Program ι κ β) → Program ι κ β
  | done value, f => f value
  | call request next, f => call request fun answer => (next answer).bind f

instance : Monad (Program ι κ) where
  pure := done
  bind := bind

def ask (request : ι) : Program ι κ (κ request) := call request done

/-- The program asks, is answered and ends like this. -/
def Path : Program ι κ α → List (Event ι κ) → α → Prop
  | done value, events, result => events = [] ∧ result = value
  | call request next, events, result =>
    ∃ answer rest, events = ⟨request, answer⟩ :: rest ∧ (next answer).Path rest result

variable {p : Program ι κ α} {f : α → Program ι κ β} {events : List (Event ι κ)}

theorem bind_pure_left {value : α} : (pure value >>= f : Program ι κ β) = f value := rfl

theorem path_pure {value r : α} :
    (pure value : Program ι κ α).Path events r ↔ events = [] ∧ r = value := Iff.rfl

theorem path_ask_bind {r : ι} {f : κ r → Program ι κ β} {result : β} :
    (ask r >>= f).Path events result ↔
      ∃ answer rest, events = ⟨r, answer⟩ :: rest ∧ (f answer).Path rest result := Iff.rfl

theorem path_ite {c : Prop} [Decidable c] {q : Program ι κ α} {r : α} :
    (if c then p else q).Path events r ↔
      (c ∧ p.Path events r) ∨ (¬ c ∧ q.Path events r) := by
  split_ifs with hc <;> simp [hc]

/-- **The run of a sequence is the runs of its parts, one behind the other.** -/
theorem path_bind {result : β} : (p >>= f).Path events result ↔
    ∃ first value rest, events = first ++ rest ∧ p.Path first value ∧ (f value).Path rest result := by
  change (p.bind f).Path events result ↔ _
  induction p generalizing events with
  | done value =>
    constructor
    · intro h
      exact ⟨[], value, events, rfl, ⟨rfl, rfl⟩, h⟩
    · rintro ⟨_, _, rest, rfl, ⟨rfl, rfl⟩, h⟩
      exact h
  | call request next ih =>
    constructor
    · rintro ⟨answer, rest, rfl, h⟩
      obtain ⟨first, value, last, rfl, hf, hl⟩ := (ih answer).mp h
      exact ⟨⟨request, answer⟩ :: first, value, last, rfl, ⟨answer, first, rfl, hf⟩, hl⟩
    · rintro ⟨_, value, last, rfl, ⟨answer, first, rfl, hf⟩, hl⟩
      exact ⟨answer, first ++ last, rfl, (ih answer).mpr ⟨first, value, last, rfl, hf, hl⟩⟩

/-- The run in which the answers are a function of the past. -/
def run (answers : List (Event ι κ) → (request : ι) → κ request) :
    List (Event ι κ) → Program ι κ α → α × List (Event ι κ)
  | _, done value => (value, [])
  | past, call request next =>
    let event : Event ι κ := ⟨request, answers past request⟩
    let rest := (next event.answer).run answers (past ++ [event])
    (rest.1, event :: rest.2)

theorem path_run (a : List (Event ι κ) → (request : ι) → κ request)
    (past : List (Event ι κ)) (p : Program ι κ α) :
    p.Path (p.run a past).2 (p.run a past).1 := by
  induction p generalizing past with
  | done value => exact ⟨rfl, rfl⟩
  | call request next ih => exact ⟨_, _, rfl, ih _ _⟩

theorem law_of_mem_run {law : Event ι κ → Prop}
    {a : List (Event ι κ) → (request : ι) → κ request}
    (h : ∀ past request, law ⟨request, a past request⟩) (past : List (Event ι κ))
    (p : Program ι κ α) : ∀ event ∈ (p.run a past).2, law event := by
  induction p generalizing past with
  | done value => exact nofun
  | call request next ih =>
    intro event he
    rcases mem_cons.mp he with rfl | hr
    · exact h past request
    · exact ih _ _ event hr

/-! ## What a program ensures -/

/-- Behind some events, every run of the program ends in a value and a trace of which `post` holds. -/
def Ensures (post : α → List (Event ι κ) → Prop) : List (Event ι κ) → Program ι κ α → Prop
  | past, done value => post value past
  | past, call request next => ∀ answer, (next answer).Ensures post (past ++ [⟨request, answer⟩])

variable {past : List (Event ι κ)} {post : β → List (Event ι κ) → Prop}

theorem ensures_iff_path {post : α → List (Event ι κ) → Prop} :
    p.Ensures post past ↔ ∀ events value, p.Path events value → post value (past ++ events) := by
  induction p generalizing past with
  | done value =>
    constructor
    · rintro h events _ ⟨rfl, rfl⟩
      rwa [append_nil]
    · intro h
      have hend := h [] value ⟨rfl, rfl⟩
      rwa [append_nil] at hend
  | call request next ih =>
    constructor
    · rintro h _ value ⟨answer, rest, rfl, hr⟩
      simpa using (ih answer).mp (h answer) rest value hr
    · intro h answer
      refine (ih answer).mpr fun events value hp => ?_
      simpa using h (⟨request, answer⟩ :: events) value ⟨answer, events, rfl, hp⟩

theorem Ensures.mono {post post' : α → List (Event ι κ) → Prop} (h : p.Ensures post past)
    (hp : ∀ value trace, post value trace → post' value trace) : p.Ensures post' past :=
  ensures_iff_path.mpr fun events value hpa => hp _ _ (ensures_iff_path.mp h events value hpa)

theorem Ensures.keepsPast {post : α → List (Event ι κ) → Prop} (h : p.Ensures post past) :
    p.Ensures (fun value trace => past ⊆ trace ∧ post value trace) past :=
  ensures_iff_path.mpr fun events value hp =>
    ⟨subset_append_left past events, ensures_iff_path.mp h events value hp⟩

theorem ensures_ask_bind {r : ι} {f : κ r → Program ι κ β} :
    (ask r >>= f).Ensures post past ↔
      ∀ answer, (f answer).Ensures post (past ++ [⟨r, answer⟩]) := Iff.rfl

/-- **What a sequence ensures.** -/
theorem ensures_bind :
    (p >>= f).Ensures post past ↔ p.Ensures (fun value trace => (f value).Ensures post trace) past := by
  change (p.bind f).Ensures post past ↔ _
  induction p generalizing past with
  | done value => exact Iff.rfl
  | call request next ih => exact forall_congr' fun answer => ih answer

theorem ensures_ite {c : Prop} [Decidable c] {post : α → List (Event ι κ) → Prop}
    {q : Program ι κ α} (hp : c → p.Ensures post past) (hq : ¬ c → q.Ensures post past) :
    (if c then p else q).Ensures post past := by
  split_ifs with hc
  · exact hp hc
  · exact hq hc

/-! ## Leaving early -/

section Early

variable {ε : Type}

/-- What holds of an early end or of the value. -/
def Either (early : ε → List (Event ι κ) → Prop) (post : α → List (Event ι κ) → Prop) :
    Except ε α → List (Event ι κ) → Prop
  | .error outcome, trace => early outcome trace
  | .ok value, trace => post value trace

variable {ea : ε → List (Event ι κ) → Prop} {x : ExceptT ε (Program ι κ) α}
  {g : α → ExceptT ε (Program ι κ) β}

theorem ensures_early_bind {mid : α → List (Event ι κ) → Prop}
    (hx : Ensures (Either ea mid) past x.run)
    (hg : ∀ value trace, mid value trace → Ensures (Either ea post) trace (g value).run) :
    Ensures (Either ea post) past (x >>= g).run := by
  change Ensures (Either ea post) past (x.run >>= ExceptT.bindCont g)
  refine ensures_bind.mpr (hx.mono ?_)
  rintro (e | value) trace h
  · exact h
  · exact hg value trace h

theorem path_early_bind {r : β} (h : (x >>= g).run.Path events (.ok r)) :
    ∃ first value rest, events = first ++ rest ∧ x.run.Path first (.ok value) ∧
      (g value).run.Path rest (.ok r) := by
  obtain ⟨first, value, rest, rfl, hx, hg⟩ := path_bind.mp h
  cases value with
  | error e => cases hg.2
  | ok value => exact ⟨first, value, rest, rfl, hx, hg⟩

theorem ensures_lift_bind
    (h : p.Ensures (fun value trace => Ensures (Either ea post) trace (g value).run) past) :
    Ensures (Either ea post) past ((liftM p : ExceptT ε (Program ι κ) α) >>= g).run := by
  have hl : Ensures (Either ea fun value trace => Ensures (Either ea post) trace (g value).run)
      past (liftM p : ExceptT ε (Program ι κ) α).run := ensures_bind.mpr (h.mono fun _ _ h => h)
  exact ensures_early_bind hl fun _ _ h => h

theorem lift_pure_bind {value : α} :
    ((liftM (pure value : Program ι κ α) : ExceptT ε (Program ι κ) α) >>= g) = g value := rfl

theorem ensures_run_ite {c : Prop} [Decidable c] {post : Except ε α → List (Event ι κ) → Prop}
    {y : ExceptT ε (Program ι κ) α} (hx : c → Ensures post past x.run)
    (hy : ¬ c → Ensures post past y.run) : Ensures post past (if c then x else y).run := by
  split_ifs with hc
  · exact hx hc
  · exact hy hc

/-- What holds when every answer so far kept the law. -/
def Assuming (law : Event ι κ → Prop) (post : α → List (Event ι κ) → Prop) (value : α)
    (trace : List (Event ι κ)) : Prop :=
  (∀ event ∈ trace, law event) → post value trace

variable {law : Event ι κ → Prop}

theorem ensures_of_not_lawful {post : α → List (Event ι κ) → Prop}
    (h : ¬ ∀ event ∈ past, law event) : p.Ensures (Assuming law post) past := by
  refine ensures_iff_path.mpr fun events value _ hlaw => absurd (fun event he => ?_) h
  exact hlaw event (mem_append_left _ he)

/-- **Behind a lawful trace the rest of a sequence may use what its beginning ensured.** -/
theorem ensures_assuming_bind {mid : α → List (Event ι κ) → Prop}
    (hx : Ensures (Assuming law (Either ea mid)) past x.run)
    (hg : ∀ value trace, (∀ event ∈ trace, law event) → mid value trace →
      Ensures (Assuming law (Either ea post)) trace (g value).run) :
    Ensures (Assuming law (Either ea post)) past (x >>= g).run := by
  change Ensures _ past (x.run >>= ExceptT.bindCont g)
  refine ensures_bind.mpr (hx.mono ?_)
  intro value trace h
  by_cases hlaw : ∀ event ∈ trace, law event
  · cases value with
    | error e => exact fun _ => h hlaw
    | ok value => exact hg value trace hlaw (h hlaw)
  · exact ensures_of_not_lawful hlaw

theorem ensures_assuming_ask {r : ι} {post : κ r → List (Event ι κ) → Prop}
    (h : ∀ answer, law ⟨r, answer⟩ → post answer (past ++ [⟨r, answer⟩])) :
    Ensures (Assuming law (Either ea post)) past
      (liftM (ask r : Program ι κ (κ r)) : ExceptT ε (Program ι κ) (κ r)).run :=
  fun answer hlaw => h answer (hlaw _ (mem_append_right _ mem_cons_self))

end Early

end Program

/-! ## The world -/

section World

variable {ε σ : Type}

/-- What some events in order make of the world. -/
inductive Follows (effect : σ → ε → σ → Prop) : σ → List ε → σ → Prop
  | nil (s : σ) : Follows effect s [] s
  | cons {s s₁ s₂ : σ} {event : ε} {events : List ε} (first : effect s event s₁)
      (rest : Follows effect s₁ events s₂) : Follows effect s (event :: events) s₂

namespace Follows

variable {e : σ → ε → σ → Prop} {s s' : σ} {event : ε} {events : List ε}

theorem nil_iff : Follows e s [] s' ↔ s' = s := by
  constructor
  · rintro ⟨⟩
    rfl
  · rintro rfl
    exact .nil s'

theorem cons_iff : Follows e s (event :: events) s' ↔
    ∃ s₁, e s event s₁ ∧ Follows e s₁ events s' := by
  constructor
  · rintro ⟨⟩
    exact ⟨_, ‹_›, ‹_›⟩
  · rintro ⟨s₁, first, rest⟩
    exact .cons first rest

theorem append_iff {more : List ε} : Follows e s (events ++ more) s' ↔
    ∃ s₁, Follows e s events s₁ ∧ Follows e s₁ more s' := by
  induction events generalizing s with
  | nil => exact ⟨fun h => ⟨s, .nil s, h⟩, fun ⟨_, h, h'⟩ => nil_iff.mp h ▸ h'⟩
  | cons event events ih =>
    rw [cons_append, cons_iff]
    constructor
    · rintro ⟨s₁, first, rest⟩
      obtain ⟨s₂, he, hm⟩ := ih.mp rest
      exact ⟨s₂, .cons first he, hm⟩
    · rintro ⟨s₂, h, hm⟩
      obtain ⟨s₁, first, rest⟩ := cons_iff.mp h
      exact ⟨s₁, first, ih.mpr ⟨s₂, rest, hm⟩⟩

/-- **What every event keeps is kept by all of them.** -/
theorem invariant {I : σ → Prop} (h : Follows e s events s')
    (hst : ∀ event ∈ events, ∀ s s', e s event s' → I s → I s') (hs : I s) : I s' := by
  induction h with
  | nil s => exact hs
  | cons first rest ih =>
    exact ih (fun event he => hst event (mem_cons_of_mem _ he))
      (hst _ mem_cons_self _ _ first hs)

/-- **What holds at the start and is carried on by every event holds at the end**, with the events
so far at hand. -/
theorem history {P : List ε → σ → Prop} (h : Follows e s events s') (hs : P [] s)
    (hst : ∀ before event s₁ s₂, Follows e s before s₁ → P before s₁ → e s₁ event s₂ →
      P (before ++ [event]) s₂) : P events s' := by
  induction events using reverseRecOn generalizing s' with
  | nil => exact nil_iff.mp h ▸ hs
  | append_singleton before event ih =>
    obtain ⟨s₁, hb, hl⟩ := append_iff.mp h
    obtain ⟨s₂, he, hend⟩ := cons_iff.mp hl
    exact nil_iff.mp hend ▸ hst before event s₁ s₂ hb (ih hb) he

end Follows

end World

/-! ## Positions -/

section Positions

variable {ε : Type}

/-- Every event of a trace, with those before it and those behind it. -/
def Throughout (P : List ε → ε → List ε → Prop) (events : List ε) : Prop :=
  ∀ before event after, events = before ++ event :: after → P before event after

variable {P : List ε → ε → List ε → Prop}

theorem throughout_nil : Throughout P [] := by
  intro before event after h
  simp at h

theorem throughout_cons {e : ε} {events : List ε} : Throughout P (e :: events) ↔
    P [] e events ∧ Throughout (fun before => P (e :: before)) events := by
  constructor
  · intro h
    exact ⟨h [] e events rfl, fun before next after heq => h _ next after (by rw [heq]; rfl)⟩
  · rintro ⟨hf, hr⟩ before next after heq
    cases before with
    | nil =>
      obtain ⟨rfl, rfl⟩ := List.cons.inj heq
      exact hf
    | cons first before =>
      obtain ⟨rfl, he⟩ := List.cons.inj heq
      exact hr before next after he

theorem throughout_append {e more : List ε} : Throughout P (e ++ more) ↔
    Throughout (fun before event after => P before event (after ++ more)) e ∧
      Throughout (fun before => P (e ++ before)) more := by
  induction e generalizing P with
  | nil => exact ⟨fun h => ⟨throughout_nil, h⟩, And.right⟩
  | cons event e ih =>
    rw [cons_append, throughout_cons, throughout_cons, ih, and_assoc]
    rfl

theorem Throughout.imp {Q : List ε → ε → List ε → Prop} {events : List ε} (h : Throughout P events)
    (hPQ : ∀ before event after, events = before ++ event :: after → P before event after →
      Q before event after) : Throughout Q events :=
  fun before event after heq => hPQ before event after heq (h before event after heq)

theorem throughout_of_forall {events : List ε}
    (h : ∀ event ∈ events, ∀ before after, P before event after) : Throughout P events :=
  fun before event after heq => h event (heq ▸ by simp) before after

end Positions

end Dialogue
