import AndroidVcam.Lib.Machine
import AndroidVcam.Lib.Shell

/-!
# Two scripts at once

Two processes run scripts on one file tree and take turns in any order, one operation at a time. When
a process starts only while the other one is not in the middle of its script, the outcome is that of
the two scripts one after the other.

* **`Race.serial`**: an exclusive schedule that finishes both is a sequential run.
-/

namespace Shell

open FileTree

variable {α : Type}

namespace Script

theorem run_step (o : Op → Outcome) (s : Script α) (t : Tree) :
    ((s.step o t).1.run o (s.step o t).2).tree = (s.run o t).tree := by
  cases s <;> rfl

def isDone : Script α → Bool
  | done _ => true
  | _ => false

end Script

/-- A script that has not started, or what is left of it. -/
inductive Process (α : Type)
  | waiting (script : Script α)
  | running (rest : Script α)

namespace Process

def waits : Process α → Bool
  | waiting _ => true
  | running _ => false

def busy : Process α → Bool
  | waiting _ => false
  | running rest => !rest.isDone

def Ended (process : Process α) (value : α) : Prop := process = .running (.done value)

def rest : Process α → Script α
  | waiting script => script
  | running script => script

end Process

inductive Side
  | first
  | second
deriving DecidableEq

structure Race (α : Type) where
  first : Process α
  second : Process α
  tree : Tree

namespace Race

variable (oracle : Op → Outcome)

def step (race : Race α) : Side → Race α × List Side
  | .first =>
    let next := race.first.rest.step oracle race.tree
    (⟨.running next.1, race.second, next.2⟩, [.first])
  | .second =>
    let next := race.second.rest.step oracle race.tree
    (⟨race.first, .running next.1, next.2⟩, [.second])

/-- A process starts only while the other one is not in the middle of its script. -/
def Exclusive (race : Race α) : Side → Prop
  | .first => race.first.waits = true → race.second.busy = false
  | .second => race.second.waits = true → race.first.busy = false

instance (race : Race α) : (side : Side) → Decidable (race.Exclusive side)
  | .first => inferInstanceAs (Decidable (_ → _))
  | .second => inferInstanceAs (Decidable (_ → _))

def start (first second : Script α) (t : Tree) : Race α := ⟨.waiting first, .waiting second, t⟩

/-- How far the two processes have come when the one in front has started first. -/
inductive Serial (front behind : Script α) (t : Tree) : Process α → Process α → Tree → Prop
  | idle : Serial front behind t (.waiting front) (.waiting behind) t
  | ahead {rest : Script α} {tree : Tree} :
    (rest.run oracle tree).tree = (front.run oracle t).tree →
      Serial front behind t (.running rest) (.waiting behind) tree
  | followed {value : α} {rest : Script α} {tree : Tree} :
    (rest.run oracle tree).tree = (behind.run oracle (front.run oracle t).tree).tree →
      Serial front behind t (.running (.done value)) (.running rest) tree

variable {oracle} {f b : Script α} {t tree : Tree} {p q : Process α}

theorem Serial.step_front (h : Serial oracle f b t p q tree) :
    Serial oracle f b t (.running (p.rest.step oracle tree).1) q
      (p.rest.step oracle tree).2 := by
  cases h with
  | idle => exact .ahead (Script.run_step oracle f t)
  | ahead hr => exact .ahead ((Script.run_step oracle _ _).trans hr)
  | followed hr => exact .followed hr

/-- The process behind starts when the one in front has ended, or takes the lead. -/
theorem Serial.step_behind (h : Serial oracle f b t p q tree)
    (he : q.waits = true → p.busy = false) :
    Serial oracle f b t p (.running (q.rest.step oracle tree).1)
        (q.rest.step oracle tree).2 ∨
      Serial oracle b f t (.running (q.rest.step oracle tree).1) p
        (q.rest.step oracle tree).2 := by
  cases h with
  | idle => exact .inr (.ahead (Script.run_step oracle b t))
  | @ahead rest tree hr =>
    have hd := he rfl
    cases rest with
    | done value =>
      have ht : tree = (f.run oracle t).tree := hr
      subst ht
      exact .inl (.followed (Script.run_step oracle b _))
    | look next => cases hd
    | perform op next => cases hd
  | followed hr => exact .inl (.followed ((Script.run_step oracle _ _).trans hr))

def InOrder (oracle : Op → Outcome) (first second : Script α) (t : Tree) (race : Race α) : Prop :=
  Serial oracle first second t race.first race.second race.tree ∨
    Serial oracle second first t race.second race.first race.tree

theorem InOrder.step {first second : Script α} {race : Race α} {side : Side}
    (h : InOrder oracle first second t race) (he : race.Exclusive side) :
    InOrder oracle first second t (race.step oracle side).1 := by
  cases side with
  | first =>
    rcases h with h | h
    · exact .inl h.step_front
    · exact (h.step_behind he).symm
  | second =>
    rcases h with h | h
    · exact h.step_behind he
    · exact .inr h.step_front

theorem Serial.ended (h : Serial oracle f b t p q tree) {v : α}
    (hq : q.Ended v) :
    tree = (b.run oracle (f.run oracle t).tree).tree := by
  cases h with
  | idle => cases hq
  | ahead => cases hq
  | followed hr =>
    cases hq
    exact hr

/-- **An exclusive schedule that finishes both scripts is a sequential run.** -/
theorem serial {f s : Script α} {schedule : List Side}
    (h : Machine.Along (step oracle) Exclusive (start f s t) schedule) {race : Race α}
    (hr : (Machine.run (step oracle) (start f s t) schedule).1 = race) {u v : α}
    (hf : race.first.Ended u) (hse : race.second.Ended v) :
    race.tree = (s.run oracle (f.run oracle t).tree).tree ∨
      race.tree = (f.run oracle (s.run oracle t).tree).tree := by
  have ho := Machine.run_history_along (step oracle) (P := fun _ => InOrder oracle f s t)
    (fun _ _ _ hin hsi => hin.step hsi) schedule [] (start f s t) h (.inl .idle)
  rw [hr] at ho
  exact ho.imp (fun hs => hs.ended hse) fun hs => hs.ended hf

end Race

end Shell
