import AndroidVcam.Lib.Machine

/-!
# Publication under a marker file

A publisher replaces a set of files one after the other. It removes a marker file first and puts it
back last; a reader tests the files, the marker last, and opens them afterwards. Each single file
operation is atomic, and the two run in any interleaving.

* `Reader`: a program that tests and opens files, with `eval` for its result on fixed files;
* `publication`: the updates of the publisher; `step`: one operation of either side;
* `Exclusive`: no file is replaced between the last test of the reader and its last open;
* **`one_generation`**: an exclusive run opens the files of one generation, and its result is
  that of the reader on this generation.
-/

namespace Publication

variable {F C α : Type*}

/-- A program that tests and opens files and continues with the answer. -/
inductive Reader (F C α : Type*)
  | done (a : α)
  | canRead (f : F) (next : Bool → Reader F C α)
  | openText (f : F) (next : Option C → Reader F C α)

namespace Reader

def eval (files : F → Option C) : Reader F C α → α
  | done a => a
  | canRead f next => eval files (next (files f).isSome)
  | openText f next => eval files (next (files f))

def opening : Reader F C α → Bool
  | openText _ _ => true
  | _ => false

/-- Test the files in order and continue when all of them are there. -/
def requireAll (reject : α) (body : Reader F C α) : List F → Reader F C α
  | [] => body
  | f :: fs => canRead f fun ok => if ok then requireAll reject body fs else done reject

/-- The program makes no test and opens only files with `p`. -/
def Opens (p : F → Prop) : Reader F C α → Prop
  | done _ => True
  | canRead _ _ => False
  | openText f next => p f ∧ ∀ c, Opens p (next c)

theorem eval_requireAll {files : F → Option C} (reject : α) (body : Reader F C α) (fs : List F) :
    (requireAll reject body fs).eval files =
      if fs.all fun f => (files f).isSome then body.eval files else reject := by
  induction fs with
  | nil => simp [requireAll]
  | cons f fs ih =>
    cases hf : (files f).isSome with
    | false => simp [requireAll, eval, hf]
    | true => simp [requireAll, eval, hf, ih]

end Reader

/-! ## The two sides -/

inductive Update (F : Type*)
  | remove (f : F)
  | replace (f : F)
deriving DecidableEq

def publication (marker : F) (fs : List F) : List (Update F) :=
  .remove marker :: (fs.map .replace ++ [.replace marker])

structure State (F C α : Type*) where
  files : F → Option C
  pending : List (Update F)
  reader : Reader F C α

inductive Actor
  | publisher
  | reader
deriving DecidableEq

variable [DecidableEq F]

def Update.apply (new : F → C) (files : F → Option C) : Update F → F → Option C
  | remove f => Function.update files f none
  | replace f => Function.update files f (some (new f))

/-- One operation of either side; the events are the files that were opened. -/
def step (new : F → C) (s : State F C α) : Actor → State F C α × List (F × Option C)
  | .publisher =>
    match s.pending with
    | [] => (s, [])
    | u :: rest => ({ s with files := u.apply new s.files, pending := rest }, [])
  | .reader =>
    match s.reader with
    | .done _ => (s, [])
    | .canRead f next => ({ s with reader := next (s.files f).isSome }, [])
    | .openText f next => ({ s with reader := next (s.files f) }, [(f, s.files f)])

/-- All files are of the old generation and nothing is published yet. -/
def start (old : F → C) (marker : F) (fs : List F) (reader : Reader F C α) : State F C α :=
  ⟨fun f => some (old f), publication marker fs, reader⟩

/-- No file but the marker is replaced while the reader is about to open one. -/
def Exclusive (marker : F) (s : State F C α) : Actor → Prop
  | .reader => True
  | .publisher =>
    match s.pending with
    | .replace f :: _ => f ≠ marker → s.reader.opening = false
    | _ => True

instance (marker : F) (s : State F C α) : (a : Actor) → Decidable (Exclusive marker s a)
  | .reader => .isTrue trivial
  | .publisher => by
    unfold Exclusive
    dsimp only
    split <;> infer_instance

/-! ## The invariant -/

inductive Publishing (old new : F → C) (marker : F) (fs : List F) (files : F → Option C) :
    List (Update F) → Prop
  | waiting (h : ∀ f, files f = some (old f)) :
      Publishing old new marker fs files (publication marker fs)
  | replacing (done todo : List F) (hfs : fs = done ++ todo) (hmarker : files marker = none)
      (hdone : ∀ f ∈ done, files f = some (new f)) :
      Publishing old new marker fs files (todo.map .replace ++ [.replace marker])
  | finished (h : ∀ f, files f = some (new f)) : Publishing old new marker fs files []

/-- How far the reader is, after opening the files `h`. -/
inductive Reading (old new : F → C) (marker : F) (reject : α) (body : Reader F C α)
    (h : List (F × Option C)) (files : F → Option C) : Reader F C α → Prop
  | testing (hh : h = []) (checks : List F) :
      Reading old new marker reject body h files (.requireAll reject body (checks ++ [marker]))
  | rejected (hh : h = []) : Reading old new marker reject body h files (.done reject)
  | admitted (g : F → C) (hg : g = old ∨ g = new) (reader : Reader F C α)
      (hopens : reader.Opens (· ≠ marker))
      (hfiles : reader.opening = true → ∀ f, f ≠ marker → files f = some (g f))
      (hh : ∀ x ∈ h, x.2 = some (g x.1))
      (heval : reader.eval (fun f => some (g f)) = body.eval fun f => some (g f)) :
      Reading old new marker reject body h files reader

variable {old new : F → C} {marker : F} {fs : List F} {reject : α} {body : Reader F C α}

variable {files : F → Option C}

theorem Publishing.next {u : Update F} {rest : List (Update F)} (hall : ∀ f, f = marker ∨ f ∈ fs)
    (hm : marker ∉ fs) (h : Publishing old new marker fs files (u :: rest)) :
    Publishing old new marker fs (u.apply new files) rest := by
  generalize hp : u :: rest = pending at h
  cases h with
  | waiting hold =>
    obtain ⟨rfl, rfl⟩ := List.cons.inj hp
    exact .replacing [] fs rfl (by simp [Update.apply]) (by simp)
  | replacing done todo hfs hn hd =>
    cases todo with
    | nil =>
      obtain ⟨rfl, rfl⟩ := List.cons.inj hp
      refine .finished fun f => ?_
      rcases hall f with rfl | hf
      · simp [Update.apply]
      · have hne : f ≠ marker := fun e => hm (e ▸ hf)
        rw [hfs, List.append_nil] at hf
        simp [Update.apply, hne, hd f hf]
    | cons f todo =>
      obtain ⟨rfl, rfl⟩ := List.cons.inj hp
      have hne : marker ≠ f := fun e => hm (by rw [hfs, e]; simp)
      refine .replacing (done ++ [f]) todo (by rw [hfs]; simp) ?_ fun x hx => ?_
      · simp [Update.apply, hne, hn]
      · by_cases hxf : x = f
        · simp [Update.apply, hxf]
        · have hx' : x ∈ done := by simpa [hxf] using hx
          simp [Update.apply, hxf, hd x hx']
  | finished => cases hp

omit [DecidableEq F] in
theorem Publishing.generation {p : List (Update F)}
    (h : Publishing old new marker fs files p) (hm : (files marker).isSome = true) :
    ∃ g, (g = old ∨ g = new) ∧ ∀ f, files f = some (g f) := by
  cases h with
  | waiting hold => exact ⟨old, .inl rfl, hold⟩
  | replacing done todo hfs hn => simp [hn] at hm
  | finished hnew => exact ⟨new, .inr rfl, hnew⟩

/-- An exclusive publisher step does not disturb the reader. -/
theorem Reading.publish {h : List (F × Option C)} {reader : Reader F C α} {u : Update F}
    (hr : Reading old new marker reject body h files reader)
    (he : ∀ f, f ≠ marker → u = .replace f → reader.opening = false)
    (hu : ∀ f, u = .remove f → f = marker) :
    Reading old new marker reject body h (u.apply new files) reader := by
  cases hr with
  | testing hh checks => exact .testing hh checks
  | rejected hh => exact .rejected hh
  | admitted g hg reader ho hfi hh hev =>
    refine .admitted g hg reader ho (fun hop f hf => ?_) hh hev
    cases u with
    | remove x =>
      obtain rfl := hu x rfl
      simp [Update.apply, hf, hfi hop f hf]
    | replace x =>
      by_cases hx : x = marker
      · subst hx
        simp [Update.apply, hf, hfi hop f hf]
      · rw [he x hx rfl] at hop
        cases hop

/-- A reader step opens a file of its generation or settles the next test. -/
theorem Reading.next {h : List (F × Option C)} {s : State F C α}
    (hb : body.Opens (· ≠ marker)) (hp : Publishing old new marker fs s.files s.pending)
    (hr : Reading old new marker reject body h s.files s.reader) :
    Reading old new marker reject body (h ++ (step new s .reader).2) s.files
      (step new s .reader).1.reader := by
  obtain ⟨files, pending, reader⟩ := s
  cases hr with
  | testing hh checks =>
    subst hh
    cases checks with
    | nil =>
      cases hm : (files marker).isSome with
      | false => simpa [step, Reader.requireAll, hm] using Reading.rejected rfl
      | true =>
        obtain ⟨g, hg, hfi⟩ := hp.generation hm
        simpa [step, Reader.requireAll, hm] using
          Reading.admitted (h := []) g hg body hb (fun _ f _ => hfi f) (by simp) rfl
    | cons f checks =>
      cases hf : (files f).isSome with
      | false => simpa [step, Reader.requireAll, hf] using Reading.rejected rfl
      | true => simpa [step, Reader.requireAll, hf] using Reading.testing rfl checks
  | rejected hh => simpa [step] using Reading.rejected hh
  | admitted g hg reader ho hfi hh he =>
    cases reader with
    | done a => simpa [step] using Reading.admitted g hg (.done a) ho hfi hh he
    | canRead f next => exact absurd ho (by simp [Reader.Opens])
    | openText f next =>
      have hf : files f = some (g f) := hfi rfl f ho.1
      refine .admitted g hg _ (ho.2 _) (fun _ => hfi rfl) ?_ ?_
      · intro x hx
        rcases List.mem_append.mp hx with hx | hx
        · exact hh x hx
        · obtain rfl : x = (f, files f) := by simpa [step] using hx
          exact hf
      · rw [← he]
        simp [step, Reader.eval, hf]

omit [DecidableEq F] in
theorem Reading.generation {h : List (F × Option C)} {r : Reader F C α}
    (hr : Reading old new marker reject body h files r) :
    ∃ g, (g = old ∨ g = new) ∧ (∀ x ∈ h, x.2 = some (g x.1)) ∧
      ∀ a, r = .done a → a = reject ∨ a = body.eval fun f => some (g f) := by
  cases hr with
  | testing hh checks =>
    refine ⟨old, .inl rfl, by simp [hh], fun a ha => ?_⟩
    cases checks <;> simp [Reader.requireAll] at ha
  | rejected hh =>
    refine ⟨old, .inl rfl, by simp [hh], fun a ha => ?_⟩
    exact .inl (Reader.done.inj ha).symm
  | admitted g hg r ho hf hh he =>
    refine ⟨g, hg, hh, fun a ha => .inr ?_⟩
    rw [← he, ha, Reader.eval]

structure Consistent (old new : F → C) (marker : F) (fs : List F) (reject : α)
    (body : Reader F C α) (h : List (F × Option C)) (s : State F C α) : Prop where
  publishing : Publishing old new marker fs s.files s.pending
  reading : Reading old new marker reject body h s.files s.reader

theorem Consistent.step (hall : ∀ f, f = marker ∨ f ∈ fs) (hm : marker ∉ fs)
    (hb : body.Opens (· ≠ marker)) {h : List (F × Option C)} {s : State F C α} {a : Actor}
    (hc : Consistent old new marker fs reject body h s) (ha : Exclusive marker s a) :
    Consistent old new marker fs reject body (h ++ (step new s a).2) (step new s a).1 := by
  obtain ⟨hpub, hr⟩ := hc
  obtain ⟨files, pending, reader⟩ := s
  cases a with
  | publisher =>
    cases pending with
    | nil => simpa [Publication.step] using ⟨hpub, hr⟩
    | cons u rest =>
      have hre : ∀ f, u = .remove f → f = marker := by
        rintro f rfl
        -- The only removal of the publication is its first update.
        generalize hp : Update.remove f :: rest = pending at hpub
        cases hpub with
        | waiting => exact (Update.remove.inj (List.cons.inj hp).1)
        | replacing done todo => cases todo <;> simp at hp
        | finished => cases hp
      simp only [Publication.step, List.append_nil]
      refine ⟨hpub.next hall hm, hr.publish (fun f hf hu => ?_) hre⟩
      subst hu
      exact ha hf
  | reader =>
    refine ⟨?_, ?_⟩
    · cases reader <;> exact hpub
    · have hn := hr.next hb hpub
      cases reader <;> exact hn

/-- **An exclusive run opens the files of one generation**, and a reader that is not rejected ends
with its result on this generation. -/
theorem one_generation (hall : ∀ f, f = marker ∨ f ∈ fs) (hm : marker ∉ fs)
    (hb : body.Opens (· ≠ marker)) (c : List F) (actors : List Actor)
    (he : Machine.Along (step new) (Exclusive marker)
      (start old marker fs (.requireAll reject body (c ++ [marker]))) actors) :
    let r := Machine.run (step new)
      (start old marker fs (.requireAll reject body (c ++ [marker]))) actors
    ∃ g, (g = old ∨ g = new) ∧ (∀ x ∈ r.2, x.2 = some (g x.1)) ∧
      ∀ a, r.1.reader = .done a → a = reject ∨ a = body.eval fun f => some (g f) := by
  have hs : Consistent old new marker fs reject body []
      (start old marker fs (.requireAll reject body (c ++ [marker]))) :=
    ⟨.waiting fun _ => rfl, .testing rfl c⟩
  have hrun := Machine.run_history_along (step new)
    (fun h s a hc ha => hc.step hall hm hb ha) actors [] _ he hs
  rw [List.nil_append] at hrun
  exact hrun.reading.generation

end Publication
