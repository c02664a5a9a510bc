import AndroidVcam.Lib.TextFile

/-!
# Downloads

`HttpsDownloader` of `backend-java` follows at most five redirects, each checked to be an HTTPS URL,
and copies the body of the answer into the output file. A copy that fails or is empty is deleted.

* `copyBounded_cases`: a copy ends with the whole body in the file or with no file;
* `Disciplined`: HTTPS connections only, at most six, and the whole body or no trace of it;
* `disciplined_follow`, `download_disciplined`: every download is, whatever the servers answer.
-/

namespace Vcam.Downloader

open TextFile

def maxRedirects : ℕ := 5

def maxBytes : ℕ := 2 * 1024 * 1024 * 1024

/-- What is thrown: an exception with a text of this class, or one of the library. -/
inductive Thrown
  | text (message : Text)
  | library
deriving DecidableEq

/-! ## Addresses -/

structure Uri where
  scheme : Option Text
  host : Option Text
  rest : Text

structure Url where
  protocol : Text
  host : Option Text
  file : Text

def Uri.Https (uri : Uri) : Prop :=
  uri.scheme.map (·.map Char.toLower) = some "https".toList ∧ uri.host ≠ none

def Url.Https (url : Url) : Prop := url.protocol = "https" ∧ url.host ≠ none

instance (uri : Uri) : Decidable uri.Https := inferInstanceAs (Decidable (_ ∧ _))

/-- The classes `URI` and `URL`; `none` is an exception. The URL of an HTTPS URI with a host has the
same host. Nothing is said of the others: `https://a,b/` has a host as a URL only. -/
structure Library where
  parse : Text → Option Uri
  toUrl : Uri → Option Url
  resolve : Url → Text → Option Text
  protocol_toUrl : ∀ {uri url}, uri.Https → toUrl uri = some url → url.protocol = "https"
  host_toUrl : ∀ {uri url}, uri.Https → toUrl uri = some url → url.host = uri.host

def requireHttps (java : Library) (value : Text) : Except Thrown Url :=
  match java.parse value with
  | none => .error .library
  | some uri =>
    if ¬ uri.Https then
      .error (.text "an absolute HTTPS URL is required")
    else
      match java.toUrl uri with
      | none => .error .library
      | some url => .ok url

/-! ## Copying -/

/-- What the streams of a copy do: the reads up to the end or an exception, and which of the other
calls succeed. -/
structure Streams where
  opened : Bool
  reads : List (List UInt8)
  ended : Bool
  written : ℕ → Bool
  flushed : Bool
  synced : Bool
  closed : Bool

/-- The loop of `copyBounded`: the total and the bytes given to the sink. -/
def copyLoop (streams : Streams) : ℕ → ℕ → List UInt8 → List (List UInt8) →
    Except Thrown (ℕ × List UInt8)
  | _, total, sink, [] => if streams.ended then .ok (total, sink) else .error .library
  | n, total, sink, chunk :: reads =>
    if maxBytes < total + chunk.length then .error (.text "remote file is too large")
    else if !streams.written n then .error .library
    else copyLoop streams (n + 1) (total + chunk.length) (sink ++ chunk) reads

/-- `copyBounded`: the output file and the exception. The file is deleted where the `catch` block
and the last check do it. -/
def copyBounded (streams : Streams) : Option (List UInt8) × Option Thrown :=
  if !streams.opened then (none, some .library)
  else
    match copyLoop streams 0 0 [] streams.reads with
    | .error thrown => (none, some thrown)
    | .ok (total, sink) =>
      if !streams.flushed || !streams.synced || !streams.closed then (none, some .library)
      else if total = 0 then (none, some (.text "remote file is empty"))
      else (some sink, none)

/-! ## Redirects -/

/-- An answer of a server; `none` is an exception. -/
structure Response where
  status : Option ℤ
  location : Option Text
  announced : ℤ
  stream : Option Streams

def isRedirect (status : ℤ) : Bool :=
  status == 301 || status == 302 || status == 303 || status == 307 || status == 308

/-- The connections that were opened, the output file and the exception. -/
structure Run where
  opened : List Url
  file : Option (List UInt8)
  thrown : Option Thrown

/-- The body of the loop behind a status that is no redirect. -/
def receive (response : Response) (status : ℤ) (file : Option (List UInt8)) :
    Option (List UInt8) × Option Thrown :=
  if status < 200 ∨ 300 ≤ status then (file, some (.text ("server returned HTTP " ++
    (toString status).toList)))
  else if maxBytes < response.announced then (file, some (.text "remote file is too large"))
  else
    match response.stream with
    | none => (file, some .library)
    | some streams => copyBounded streams

def redirected (java : Library) (current : Url) (response : Response) : Except Thrown Url :=
  match response.location with
  | none => .error (.text "redirect has no location")
  | some location =>
    match java.resolve current location with
    | none => .error .library
    | some target => requireHttps java target

/-- The loop of `download` with the number of redirects that are left; `respond` answers the
connections in their order. -/
def follow (java : Library) (respond : ℕ → Url → Response) (file : Option (List UInt8)) :
    (left n : ℕ) → (current : Url) → Run
  | left, n, current =>
    let response := respond n current
    match response.status with
    | none => ⟨[current], file, some .library⟩
    | some status =>
      if isRedirect status then
        match left with
        | 0 => ⟨[current], file, some (.text "too many redirects")⟩
        | left + 1 =>
          match redirected java current response with
          | .error thrown => ⟨[current], file, some thrown⟩
          | .ok next =>
            let run := follow java respond file left (n + 1) next
            { run with opened := current :: run.opened }
      else
        let (file, thrown) := receive response status file
        ⟨[current], file, thrown⟩

def download (java : Library) (respond : ℕ → Url → Response) (initial : Url)
    (file : Option (List UInt8)) : Run :=
  follow java respond file maxRedirects 0 initial

/-! ## Discipline -/

/-- The answer is the last one, a success whose body is in the file. -/
def Delivered (response : Response) (file : Option (List UInt8)) : Prop :=
  ∃ status streams, response.status = some status ∧ 200 ≤ status ∧ status < 300 ∧
    response.stream = some streams ∧ streams.ended = true ∧ file = some streams.reads.flatten ∧
    1 ≤ streams.reads.flatten.length ∧ streams.reads.flatten.length ≤ 2 ^ 31

/-- Only HTTPS connections, as many as allowed; the whole body of the last answer, behind nothing but
redirects; or no trace of it. -/
structure Disciplined (respond : ℕ → Url → Response) (before : Option (List UInt8)) (n limit : ℕ)
    (run : Run) : Prop where
  https : ∀ url ∈ run.opened, url.Https
  bounded : run.opened.length ≤ limit
  returned : run.thrown = none → ∃ redirects last, run.opened = redirects ++ [last] ∧
    (∀ i url, redirects[i]? = some url →
      ∃ status, (respond (n + i) url).status = some status ∧ isRedirect status = true) ∧
    Delivered (respond (n + redirects.length) last) run.file
  threw : run.thrown ≠ none → run.file = none ∨ run.file = before

theorem https_of_requireHttps {java : Library} {v : Text} {url : Url}
    (h : requireHttps java v = .ok url) : url.Https := by
  rw [requireHttps] at h
  split at h
  · cases h
  · split_ifs at h with hs
    split at h
    · cases h
    · cases h
      exact ⟨java.protocol_toUrl hs ‹_›, java.host_toUrl hs ‹_› ▸ hs.2⟩

theorem https_of_redirected {java : Library} {c next : Url} {r : Response}
    (h : redirected java c r = .ok next) : next.Https := by
  rw [redirected] at h
  split at h
  · cases h
  · split at h
    · cases h
    · exact https_of_requireHttps h

theorem copyLoop_ok {s : Streams} {n t t' : ℕ} {sink sink' : List UInt8}
    {r : List (List UInt8)} (h : copyLoop s n t sink r = .ok (t', sink'))
    (ht : t ≤ maxBytes) : s.ended = true ∧ sink' = sink ++ r.flatten ∧
      t' = t + r.flatten.length ∧ t' ≤ maxBytes := by
  induction r generalizing n t sink with
  | nil =>
    rw [copyLoop] at h
    split_ifs at h with he
    cases h
    exact ⟨he, by simp, by simp, ht⟩
  | cons chunk r ih =>
    rw [copyLoop] at h
    split_ifs at h with hm
    obtain ⟨he, hs, hl, hb⟩ := ih h (not_lt.mp hm)
    rw [List.flatten_cons, List.length_append, ← List.append_assoc, ← Nat.add_assoc]
    exact ⟨he, hs, hl, hb⟩

/-- **A copy ends with the whole body in the file or with no file.** -/
theorem copyBounded_cases (s : Streams) :
    (∃ thrown, copyBounded s = (none, some thrown)) ∨
      copyBounded s = (some s.reads.flatten, none) ∧ s.ended = true ∧
        1 ≤ s.reads.flatten.length ∧ s.reads.flatten.length ≤ 2 ^ 31 := by
  rw [copyBounded]
  by_cases ho : (!s.opened) = true
  · exact .inl ⟨_, if_pos ho⟩
  rw [if_neg ho]
  cases hl : copyLoop s 0 0 [] s.reads with
  | error thrown => exact .inl ⟨thrown, rfl⟩
  | ok copied =>
    obtain ⟨total, sink⟩ := copied
    obtain ⟨he, rfl, rfl, hb⟩ := copyLoop_ok hl (Nat.zero_le _)
    dsimp only
    rw [Nat.zero_add] at hb ⊢
    split_ifs with _ hz
    · exact .inl ⟨_, rfl⟩
    · exact .inl ⟨_, rfl⟩
    · exact .inr ⟨rfl, he, Nat.pos_of_ne_zero hz, hb⟩

theorem receive_cases (r : Response) {s : ℤ} (hs : r.status = some s)
    (file : Option (List UInt8)) :
    ((receive r s file).2 = none ∧ Delivered r (receive r s file).1) ∨
      (receive r s file).2 ≠ none ∧ ((receive r s file).1 = none ∨
        (receive r s file).1 = file) := by
  rw [receive]
  split_ifs with hr hm
  · exact .inr ⟨nofun, .inr rfl⟩
  · exact .inr ⟨nofun, .inr rfl⟩
  · split
    · exact .inr ⟨nofun, .inr rfl⟩
    · rename_i streams hstream
      rcases copyBounded_cases streams with ⟨thrown, hc⟩ | ⟨hc, he, h1, h2⟩
      · rw [hc]
        exact .inr ⟨nofun, .inl rfl⟩
      · rw [hc]
        exact .inl ⟨rfl, s, streams, hs, by omega, by omega, hstream, he, rfl, h1, h2⟩

theorem disciplined_single {r : ℕ → Url → Response} {b file : Option (List UInt8)}
    {n l : ℕ} {url : Url} {t : Option Thrown} (hu : url.Https)
    (hr : t = none → Delivered (r n url) file)
    (ht : t ≠ none → file = none ∨ file = b) :
    Disciplined r b n (l + 1) ⟨[url], file, t⟩ where
  https := List.forall_mem_singleton.mpr hu
  bounded := Nat.le_add_left 1 l
  returned := fun h => ⟨[], url, rfl, nofun, hr h⟩
  threw := ht

theorem Disciplined.cons {r : ℕ → Url → Response} {b : Option (List UInt8)} {n l : ℕ}
    {run : Run} (h : Disciplined r b (n + 1) l run) {url : Url} (hu : url.Https)
    {s : ℤ} (hs : (r n url).status = some s) (hr : isRedirect s = true) :
    Disciplined r b n (l + 1) { run with opened := url :: run.opened } where
  https := List.forall_mem_cons.mpr ⟨hu, h.https⟩
  bounded := Nat.succ_le_succ h.bounded
  returned := by
    intro ht
    obtain ⟨redirects, last, ho, hall, hd⟩ := h.returned ht
    refine ⟨url :: redirects, last, congrArg (url :: ·) ho, fun i other hi => ?_, ?_⟩
    · cases i with
      | zero =>
        cases hi
        exact ⟨s, hs, hr⟩
      | succ i =>
        rw [← Nat.add_assoc, Nat.add_right_comm]
        exact hall i other hi
    · rwa [List.length_cons, ← Nat.add_assoc, Nat.add_right_comm]
  threw := h.threw

theorem disciplined_receive {r : ℕ → Url → Response} {n l : ℕ} {c : Url} {s : ℤ}
    (hc : c.Https) (hs : (r n c).status = some s)
    (file : Option (List UInt8)) : Disciplined r file n (l + 1)
      ⟨[c], (receive (r n c) s file).1,
        (receive (r n c) s file).2⟩ := by
  rcases receive_cases (r n c) hs file with ⟨ht, hd⟩ | ⟨ht, hf⟩
  · exact disciplined_single hc (fun _ => hd) fun h => absurd ht h
  · exact disciplined_single hc (fun h => absurd h ht) fun _ => hf

theorem disciplined_follow (java : Library) (r : ℕ → Url → Response)
    (file : Option (List UInt8)) (left n : ℕ) {c : Url} (hc : c.Https) :
    Disciplined r file n (left + 1) (follow java r file left n c) := by
  have ht {url : Url} (hu : url.Https) (n limit : ℕ) (thrown : Thrown) :
      Disciplined r file n (limit + 1) ⟨[url], file, some thrown⟩ :=
    disciplined_single hu nofun fun _ => .inr rfl
  -- By induction on the redirects that are left.
  induction left generalizing n c with
  | zero =>
    rw [follow]
    cases hs : (r n c).status with
    | none => exact ht hc n 0 _
    | some status =>
      dsimp only
      split_ifs
      · exact ht hc n 0 _
      · exact disciplined_receive hc hs file
  | succ left ih =>
    rw [follow]
    cases hs : (r n c).status with
    | none => exact ht hc n _ _
    | some status =>
      dsimp only
      split_ifs with hr
      · cases hn : redirected java c (r n c) with
        | error thrown => exact ht hc n _ thrown
        | ok next => exact (ih (n + 1) (https_of_redirected hn)).cons hc hs hr
      · exact disciplined_receive hc hs file

/-- **Downloads are disciplined**, whatever the servers answer. -/
theorem download_disciplined (java : Library) (respond : ℕ → Url → Response) {value : Text}
    {initial : Url} (h : requireHttps java value = .ok initial) (file : Option (List UInt8)) :
    Disciplined respond file 0 6 (download java respond initial file) :=
  disciplined_follow java respond file maxRedirects 0 (https_of_requireHttps h)

/-- A library for addresses of the form `scheme://host/path`, and for redirects to a path. -/
def plainLibrary : Library where
  parse := fun value =>
    let scheme := value.takeWhile (· ≠ ':')
    let authority := value.drop (scheme.length + 3)
    let host := authority.takeWhile (· ≠ '/')
    if scheme ≠ [] ∧ (scheme ++ "://").isPrefixOf value then
      some ⟨some scheme, if host ≠ [] ∧ host.all fun c => c.isAlphanum || c == '.' || c == '-'
        then some host else none, authority.drop host.length⟩
    else none
  toUrl := fun uri => uri.scheme.map fun scheme => ⟨scheme.map Char.toLower, uri.host, uri.rest⟩
  resolve := fun url location =>
    if location.head? = some '/' then
      url.host.map fun host => url.protocol ++ "://" ++ host ++ location
    else some location
  protocol_toUrl := by
    rintro ⟨_ | scheme, host, rest⟩ url hu h <;> cases h
    exact Option.some.inj hu.1
  host_toUrl := by
    rintro ⟨_ | scheme, host, rest⟩ url _ h <;> cases h
    rfl

/-- A redirect to another path of the host, and then a body of one byte. -/
def movedByte (n : ℕ) (_ : Url) : Response :=
  if n = 0 then ⟨some 302, some "/gitweb/ffmpeg.git", 0, none⟩
  else ⟨some 200, none, 1, some ⟨true, [[7]], true, fun _ => true, true, true, true⟩⟩

def ffmpegUrl : Url := ⟨"https", some "git.ffmpeg.org", "/ffmpeg.git"⟩

theorem download_disciplined_ffmpeg :
    Disciplined movedByte none 0 6 (download plainLibrary movedByte ffmpegUrl none) ∧
      (download plainLibrary movedByte ffmpegUrl none).opened.map Url.file =
        ["/ffmpeg.git", "/gitweb/ffmpeg.git"] ∧
      (download plainLibrary movedByte ffmpegUrl none).file = some [7] :=
  ⟨download_disciplined plainLibrary _ (show requireHttps plainLibrary
    "HTTPS://git.ffmpeg.org/ffmpeg.git" = _ from rfl) none, by decide +kernel,
    by decide +kernel⟩

end Vcam.Downloader
