import AndroidVcam.Daemon.Transfer
import AndroidVcam.Controller.RouteRemoval

/-!
# Importing media

The daemon forwards the payload of `provider-import-media` to the controller and closes the pipe,
also when the client stopped in the middle. The controller takes the end of its input for the end of
the media and renames what it got to `source.media`. The daemon then reports 74 for a file that was
replaced, and 70 when the controller was killed behind its rename.

* `Imports`, `run_importProviderMedia`: when the controller replaces `source.media`;
* `Ending`, `importMedia`: both processes, with a controller that may be killed at any operation;
* `ImportSafe`: a request that is cut off or answered with a failure leaves `source.media` alone;
* `Spoils`: the controller gets to its rename in a request that fails behind it;
* **`importSafe_iff`**: an import is safe exactly when it does not spoil the file;
* `cutOff_replaces_media`: 65536 of 65537 bytes are published.
-/

namespace Vcam

open TextFile FileTree Shell ByteChannel Vcam.Daemon List Script

namespace Controller

/-! ## The controller -/

def mediaFile (id : Text) : Text := frameFile id "source.media"

def mediaDraft (id : Text) : Text := mediaFile id ++ ".new"

theorem location_mediaDraft (id : Text) :
    location (mediaDraft id) = "source.media.new".toList :: location (framePath id) := by
  have h : mediaDraft id = frameFile id "source.media.new" := by
    simp only [mediaDraft, mediaFile, frameFile, append_assoc]
    rfl
  rw [h, location_frameFile id (by decide)]

theorem mediaDraft_apart (id : Text) : location (mediaDraft id) ≠ location (mediaFile id) := by
  rw [location_mediaDraft, mediaFile, location_frameFile id (by decide)]
  exact fun h => absurd (List.cons.inj h).1 (by decide)

structure Importable (t : Tree) (id : Text) : Prop where
  valid : validId id = true
  there : providerExists t id = true
  user : isPhysical id = false
  video : metaValue t "type" (stateFile id "meta") = "video"

structure Imports (oracle : Op → Outcome) (t : Tree) (id : Text) (input : Bytes) : Prop where
  importable : Importable t id
  draft : Writable t (mediaDraft id)
  written : oracle (.write (mediaDraft id) (byteText input)) = .ok
  nonempty : input ≠ []
  writable : Writable t (mediaFile id)
  renamed : oracle (.rename (mediaDraft id) (mediaFile id)) = .ok

variable {oracle : Op → Outcome} {t : Tree} {id : Text} {i : Bytes}

theorem content_mediaFile_write (t : Tree) (c : Text) (o : Outcome) :
    (exec t (.write (mediaDraft id) c) o).1.content (mediaFile id) =
      t.content (mediaFile id) :=
  @content_exec (.write (mediaDraft id) c) rfl _ (mediaDraft_apart id).symm t o

theorem content_mediaFile_remove (t : Tree) (o : Outcome) :
    (exec t (.remove (mediaDraft id)) o).1.content (mediaFile id) =
      t.content (mediaFile id) :=
  @content_exec (.remove (mediaDraft id)) rfl _ (mediaDraft_apart id).symm t o

theorem hasSize_of_content {path c : Text} (h : t.content path = some c) :
    t.hasSize path = !c.isEmpty := by
  rw [Tree.hasSize, h, Option.any_some]

/-- `import_provider_media` behind its checks. -/
def storeMedia (id : Text) (input : Bytes) : Script Reply := do
  if !(← Script.status (.write (mediaDraft id) (byteText input))) then
    exec_ (.remove (mediaDraft id))
    return refuse 4 "media import failed"
  else if !(← Script.files).hasSize (mediaDraft id) then
    exec_ (.remove (mediaDraft id))
    return refuse 5 "imported media is empty"
  else if !(← Script.status (.rename (mediaDraft id) (mediaFile id))) then return refuse 4 ""
  else return say "imported"

theorem run_importProviderMedia_checked (h : Importable t id) :
    (importProviderMedia id i).run oracle t = (storeMedia id i).run oracle t := by
  rw [importProviderMedia, run_checked h.valid h.there h.user, if_neg (not_not.mpr h.video)]
  rfl

theorem run_importProviderMedia_refused (h : ¬ Importable t id) :
    ∃ reply : Reply, reply.status ≠ 0 ∧
      (importProviderMedia id i).run oracle t = ⟨reply, t, []⟩ := by
  have hn (status : ℕ) (message : String) : (refuse (status + 1) message).status ≠ 0 := nofun
  rw [importProviderMedia]
  by_cases hc : (validId id && providerExists t id) = true
  · obtain ⟨hv, ht⟩ := Bool.and_eq_true_iff.mp hc
    by_cases hp : isPhysical id = true
    · refine ⟨_, hn 2 "", ?_⟩
      rw [run_bind, run_files]
      simp only [hv, ht, hp]
      rfl
    · rw [run_checked hv ht (by simpa using hp)]
      refine ⟨_, hn 2 "provider is not a local video", ?_⟩
      rw [if_pos fun hty => h ⟨hv, ht, by simpa using hp, hty⟩]
      rfl
  · exact ⟨_, hn 1 "provider not found", run_unchecked (by simpa using hc)⟩

/-- With all of its operations succeeding the import replaces the media. -/
theorem run_storeMedia_of_imports (h : Imports oracle t id i) :
    ((storeMedia id i).run oracle t).value.status = 0 ∧
      ((storeMedia id i).run oracle t).tree.content (mediaFile id) = some (byteText i) := by
  obtain ⟨t₁, hwr, hw⟩ := exec_write h.draft (byteText i) .ok
  obtain ⟨t₂, hre, hr⟩ := exec_rename (h.writable.congr hw.directories)
    (mediaDraft_apart id) hw.content_self
  have hs : t₁.hasSize (mediaDraft id) = true := by
    rw [hasSize_of_content hw.content_self]
    cases i with
    | nil => exact absurd rfl h.nonempty
    | cons b i => rfl
  rw [storeMedia, run_bind, run_status, h.written, hwr]
  simp only [Outcome.good, Bool.not_true, Bool.false_eq_true, if_false, run_bind,
    run_files, hs, run_status, h.renamed, hre, run_pure]
  exact ⟨rfl, hr.content_self⟩

theorem run_storeMedia_of_not_imports (hi : Importable t id)
    (h : ¬ Imports oracle t id i) :
    ((storeMedia id i).run oracle t).value.status ≠ 0 ∧
      ((storeMedia id i).run oracle t).tree.content (mediaFile id) =
        t.content (mediaFile id) := by
  have hk := @content_mediaFile_write id t (byteText i)
    (oracle (.write (mediaDraft id) (byteText i)))
  rw [storeMedia, run_bind, run_status]
  cases hwri : (exec t (.write (mediaDraft id) (byteText i))
      (oracle (.write (mediaDraft id) (byteText i)))).2 with
  | false =>
    simp only [Bool.not_false, if_true, run_bind, run_exec_, run_pure]
    exact ⟨by decide, (content_mediaFile_remove _ _).trans hk⟩
  | true =>
    obtain ⟨hd, hok, hw⟩ := of_exec_write hwri
    have hs := hasSize_of_content hw.content_self
    simp only [Bool.not_true, Bool.false_eq_true, if_false, run_bind, run_files, hs]
    cases he : (byteText i).isEmpty with
    | true =>
      simp only [Bool.not_true, Bool.not_false, if_true, run_bind, run_exec_,
        run_pure]
      exact ⟨by decide, (content_mediaFile_remove _ _).trans hk⟩
    | false =>
      simp only [Bool.not_false, Bool.not_true, Bool.false_eq_true, if_false, run_bind,
        run_status]
      -- The rename has failed, or the import would have gone through.
      have hr : (exec (exec t (.write (mediaDraft id) (byteText i))
          (oracle (.write (mediaDraft id) (byteText i)))).1
          (.rename (mediaDraft id) (mediaFile id))
          (oracle (.rename (mediaDraft id) (mediaFile id)))).2 = false := by
        by_contra hdo
        obtain ⟨hwr, hre⟩ := of_exec_rename (Bool.not_eq_false _ ▸ hdo)
        refine h ⟨hi, hd, hok, ?_, hwr.congr hw.directories.symm, hre⟩
        rintro rfl
        cases he
      simp only [hr, Bool.not_false, if_true, run_pure]
      rw [exec_rename_failed hr]
      exact ⟨by decide, hk⟩

/-- **What the controller makes of its input**: the new media and status 0, or a failure and the old
media. -/
theorem run_importProviderMedia (o : Op → Outcome) (t : Tree) (id : Text)
    (i : Bytes) :
    (Imports o t id i ∧
        ((importProviderMedia id i).run o t).value.status = 0 ∧
        ((importProviderMedia id i).run o t).tree.content (mediaFile id) =
          some (byteText i)) ∨
      (¬ Imports o t id i ∧
        ((importProviderMedia id i).run o t).value.status ≠ 0 ∧
        ((importProviderMedia id i).run o t).tree.content (mediaFile id) =
          t.content (mediaFile id)) := by
  by_cases hi : Importable t id
  · rw [run_importProviderMedia_checked hi]
    by_cases h : Imports o t id i
    · exact .inl ⟨h, run_storeMedia_of_imports h⟩
    · exact .inr ⟨h, run_storeMedia_of_not_imports hi h⟩
  · obtain ⟨reply, hs, hrun⟩ := @run_importProviderMedia_refused o t id i hi
    rw [hrun]
    exact .inr ⟨fun h => hi h.importable, hs, rfl⟩

/-- Behind the checks a write and one more operation are performed. -/
theorem events_storeMedia : ∃ first second, ((storeMedia id i).run oracle t).events =
    [⟨.write (mediaDraft id) (byteText i), first⟩, second] := by
  rw [storeMedia, events_bind, run_status]
  dsimp only
  split_ifs
  · exact ⟨_, _, rfl⟩
  · rw [run_files_bind]
    split_ifs
    · exact ⟨_, _, rfl⟩
    · rw [events_bind, run_status]
      dsimp only
      split_ifs <;> exact ⟨_, _, rfl⟩

/-- A controller that is killed has replaced the media when it got behind its second operation. -/
theorem content_filesAfter (o : Op → Outcome) (t : Tree) (id : Text) (i : Bytes) (n : ℕ) :
    ((importProviderMedia id i).filesAfter o n t).content (mediaFile id) =
      if 2 ≤ n then ((importProviderMedia id i).run o t).tree.content (mediaFile id)
      else t.content (mediaFile id) := by
  by_cases hi : Importable t id
  case neg =>
    obtain ⟨reply, -, hrun⟩ := @run_importProviderMedia_refused o t id i hi
    rw [filesAfter_of_le (by rw [hrun]; exact Nat.zero_le n), hrun, ite_self]
  obtain ⟨first, second, he⟩ := @events_storeMedia o t id i
  rw [← run_importProviderMedia_checked hi] at he
  split_ifs with hn
  · rw [filesAfter_of_le (by rw [he]; exact hn)]
  · rw [filesAfter, he]
    obtain rfl | rfl : n = 0 ∨ n = 1 := by omega
    · rfl
    · exact content_mediaFile_write t _ _

/-! ## The daemon and the controller -/

/-- How the process of the controller ends. -/
inductive Ending
  /-- It gets to its end, and its status is that of the command. -/
  | exited
  /-- `execv` fails, and the child exits with 127. -/
  | notExecuted
  /-- A signal kills it behind so many of its operations. -/
  | killed (performed : ℕ)

namespace Ending

/-- What `waitpid` tells: `WEXITSTATUS`, unless `WIFEXITED` is false. -/
def exitStatus (status : ℕ) : Ending → Option ℕ
  | exited => some status
  | notExecuted => some 127
  | killed _ => none

/-- The files such a controller leaves. -/
def files (oracle : Op → Outcome) (script : Script Reply) (t : Tree) : Ending → Tree
  | exited => (script.run oracle t).tree
  | notExecuted => t
  | killed performed => script.filesAfter oracle performed t

/-- The controller performs its second operation, which is the rename of an import. -/
def Renames : Ending → Prop
  | exited => True
  | notExecuted => False
  | killed performed => 2 ≤ performed

end Ending

/-- A `provider-import-media` request behind its arguments: the files and the answer. The controller
runs on what the daemon forwards, and the daemon waits for its status. -/
def importMedia (daemon : DaemonEnv) (ending : Ending) (oracle : Op → Outcome) (t : Tree) (id : Text)
    (call : Invocation) (client : Source) : Tree × ControllerRun :=
  let script := importProviderMedia id (runController daemon call client).input
  let status := (script.run oracle t).value.status
  (if daemon.inputPipe && daemon.outputPipe && daemon.forked then ending.files oracle script t else t,
    runController { daemon with exitStatus := ending.exitStatus status } call client)

section Import

variable (daemon : DaemonEnv) (ending : Ending) (oracle : Op → Outcome) (t : Tree) (id : Text)
  (call : Invocation) (client : Source)

def Kept : Prop := (importMedia daemon ending oracle t id call client).1.content (mediaFile id) =
  t.content (mediaFile id)

/-- An import that is cut off, or that the daemon calls a failure, leaves the media alone. -/
structure ImportSafe : Prop where
  cutOff : (available client).length < call.payloadLength →
    Kept daemon ending oracle t id call client
  failed : (importMedia daemon ending oracle t id call client).2.code ≠ 0 →
    Kept daemon ending oracle t id call client

/-- The controller replaces the media by what was forwarded, and then the request fails. -/
structure Spoils : Prop where
  forks : daemon.Forks
  renames : ending.Renames
  reads : .failed ∉ daemon.controllerInput
  imports : Imports oracle t id (forwarded call.payloadLength (available client))
  new : t.content (mediaFile id) ≠ some (byteText (forwarded call.payloadLength (available client)))
  fails : ¬ (ending = .exited ∧ daemon.Completes call.payloadLength client)

variable {daemon ending oracle t id call client}

/-- **What a controller that was started leaves**: the media it was given, when it gets to its
rename and the rename succeeds. -/
theorem content_importMedia (hfo : daemon.Forks) :
    (ending.Renames ∧ Imports oracle t id (runController daemon call client).input ∧
        (importMedia daemon ending oracle t id call client).1.content (mediaFile id) =
          some (byteText (runController daemon call client).input)) ∨
      (¬ (ending.Renames ∧ Imports oracle t id (runController daemon call client).input) ∧
        Kept daemon ending oracle t id call client) := by
  obtain ⟨hi, ho, hf⟩ := hfo
  have hr := run_importProviderMedia oracle t id (runController daemon call client).input
  simp only [Kept, importMedia, hi, ho, hf, Bool.and_self, if_true]
  cases ending with
  | notExecuted => exact .inr ⟨fun h => h.1, rfl⟩
  | exited =>
    rcases hr with ⟨him, -, hc⟩ | ⟨hn, -, hc⟩
    · exact .inl ⟨trivial, him, hc⟩
    · exact .inr ⟨fun h => hn h.2, hc⟩
  | killed performed =>
    rw [Ending.files, content_filesAfter]
    by_cases hp : 2 ≤ performed
    · rw [if_pos hp]
      rcases hr with ⟨him, -, hc⟩ | ⟨hn, -, hc⟩
      · exact .inl ⟨hp, him, hc⟩
      · exact .inr ⟨fun h => hn h.2, hc⟩
    · exact .inr ⟨fun h => hp h.1, if_neg hp⟩

theorem kept_of_not_forks (hf : ¬ daemon.Forks) : Kept daemon ending oracle t id call client := by
  have hp : ¬ (daemon.inputPipe && daemon.outputPipe && daemon.forked) = true := by
    rw [Bool.and_eq_true, Bool.and_eq_true]
    exact fun h => hf ⟨h.1.1, h.1.2, h.2⟩
  rw [Kept, importMedia, if_neg hp]

/-- An import that goes through is reported as a success exactly when the controller exits and
everything arrived. -/
theorem code_importMedia (hf : daemon.Forks) (hr : .failed ∉ daemon.controllerInput)
    (hsh : (printed daemon.controllerOutput).length < maxOutput)
    (hi : Imports oracle t id (runController daemon call client).input) :
    (importMedia daemon ending oracle t id call client).2.code = 0 ↔
      ending = .exited ∧ daemon.Completes call.payloadLength client := by
  have hs : ((importProviderMedia id (runController daemon call client).input).run oracle
      t).value.status = 0 := by
    rcases run_importProviderMedia oracle t id (runController daemon call client).input with
      ⟨-, hs, -⟩ | ⟨hnot, -⟩
    · exact hs
    · exact absurd hi hnot
  rw [importMedia, hs]
  have hc := @code_runController { daemon with exitStatus := ending.exitStatus 0 } hf call client hr
    hsh
  refine hc.trans (and_congr_left' ?_)
  cases ending <;> simp [Ending.exitStatus]

theorem Spoils.not_importSafe (h : Spoils daemon ending oracle t id call client)
    (hs : (printed daemon.controllerOutput).length < maxOutput) :
    ¬ ImportSafe daemon ending oracle t id call client := by
  intro hsa
  have hin := @input_runController daemon h.forks call client h.reads
  have hi := hin ▸ h.imports
  have hk : Kept daemon ending oracle t id call client :=
    hsa.failed fun hz => h.fails ((code_importMedia h.forks h.reads hs hi).mp hz)
  rcases content_importMedia h.forks with ⟨-, -, hc⟩ | ⟨hn, -⟩
  · rw [Kept, hc, hin] at hk
    exact h.new hk.symm
  · exact hn ⟨h.renames, hi⟩

/-- **An import is safe exactly when it does not spoil the media.** The controller that gets to its
rename has read its input to the end, and prints less than 4 MiB. -/
theorem importSafe_iff
    (hreads : ending.Renames → Imports oracle t id (runController daemon call client).input →
      .failed ∉ daemon.controllerInput)
    (hshort : (printed daemon.controllerOutput).length < maxOutput) :
    ImportSafe daemon ending oracle t id call client ↔
      ¬ Spoils daemon ending oracle t id call client := by
  refine ⟨fun hsa hs => hs.not_importSafe hshort hsa, fun hs => ?_⟩
  by_cases hf : daemon.Forks
  case neg => exact ⟨fun _ => kept_of_not_forks hf, fun _ => kept_of_not_forks hf⟩
  rcases content_importMedia hf with ⟨hr, hi, hco⟩ | ⟨-, hk⟩
  · have hre := hreads hr hi
    have hinp := @input_runController daemon hf call client hre
    have hk : ¬ (ending = .exited ∧ daemon.Completes call.payloadLength client) →
        Kept daemon ending oracle t id call client := by
      intro hin
      by_contra hch
      rw [Kept, hco, hinp] at hch
      exact hs ⟨hf, hr, hre, hinp ▸ hi, fun h => hch h.symm, hin⟩
    refine ⟨fun hcut => hk fun hc => ?_, fun hcode => hk fun hc => ?_⟩
    · exact absurd hc.2.1 (not_le.mpr hcut)
    · exact hcode ((code_importMedia hf hre hshort hi).mpr hc)
  · exact ⟨fun _ => hk, fun _ => hk⟩

end Import

/-! ## A device with one video -/

def videoTree : Tree := buildTree
  [.mkdir "/data/adb/android_vcam/providers/desk",
    .write "/data/adb/android_vcam/providers/desk/meta" "type=video\n",
    .mkdir "/data/vendor/camera/vcam/providers/desk"]

/-- Nothing fails, and the controller reports its import. -/
def videoDaemon : DaemonEnv where
  authorised := true
  controller := literalBytes "vcamctl"
  allocated _ := true
  inputPipe := true
  outputPipe := true
  forked := true
  outputAllocated := true
  messageAllocated := true
  controllerOutput := [.data (literalBytes "imported\n")]
  controllerInput := []
  client := []
  exitStatus := none

def videoCall (payloadLength : ℕ) : Invocation where
  argumentCount := 1
  payloadLength := payloadLength
  command := literalBytes "provider-import-media"
  arguments := [some .controller, some .command, some (.argument 0 4)] ++ replicate 7 none
  values := [literalBytes "desk"]

theorem importable_videoTree : Importable videoTree "desk" :=
  ⟨by decide +kernel, by decide +kernel, by decide +kernel, by decide +kernel⟩

theorem imports_videoTree {i : Bytes} (h : i ≠ []) :
    Imports noFailure videoTree "desk" i where
  importable := importable_videoTree
  draft := ⟨"source.media.new", location "/data/vendor/camera/vcam/providers/desk",
    by decide +kernel, by decide +kernel, by decide +kernel⟩
  written := rfl
  nonempty := h
  writable := ⟨"source.media", location "/data/vendor/camera/vcam/providers/desk",
    by decide +kernel, by decide +kernel, by decide +kernel⟩
  renamed := rfl

/-- Three bytes that arrive in two parts are imported safely. -/
theorem short_import_safe : ImportSafe videoDaemon .exited noFailure videoTree "desk"
    (videoCall 3) [.data [1], .interrupted, .data [2, 3]] :=
  (importSafe_iff (fun _ _ => not_mem_nil) (by decide)).mpr fun h =>
    h.fails ⟨rfl, by decide, rfl, by decide⟩

/-- A client that stops one byte before the end of two chunks. -/
def cutOffClient : Source := [.data (replicate transferSize 0)]

theorem forwarded_cutOff :
    forwarded (transferSize + 1) (available cutOffClient) = replicate transferSize 0 := by
  have hs : 0 < transferSize := by decide
  have hb : available cutOffClient = replicate transferSize 0 := append_nil _
  rw [hb, forwarded, length_replicate, if_neg (by omega), Nat.div_self hs, Nat.one_mul,
    take_of_length_le (by rw [length_replicate])]

/-- The first chunk becomes the new media, although the answer is a failure. -/
theorem cutOff_replaces_media : ¬ ImportSafe videoDaemon .exited noFailure videoTree "desk"
    (videoCall (transferSize + 1)) cutOffClient := by
  have hb : available cutOffClient = replicate transferSize 0 := append_nil _
  have hn : replicate transferSize (0 : UInt8) ≠ [] := by
    intro h
    have := congrArg List.length h
    rw [length_replicate] at this
    exact absurd this (by decide)
  have hs : Spoils videoDaemon .exited noFailure videoTree "desk"
      (videoCall (transferSize + 1)) cutOffClient := by
    refine ⟨⟨rfl, rfl, rfl⟩, trivial, not_mem_nil, ?_, ?_, fun h => ?_⟩
    · rw [show (videoCall (transferSize + 1)).payloadLength = transferSize + 1 from rfl,
        forwarded_cutOff]
      exact imports_videoTree hn
    · rw [show videoTree.content (mediaFile "desk") = none by decide +kernel]
      nofun
    · have ha := h.2.1
      rw [hb, length_replicate] at ha
      exact absurd ha (by show ¬ transferSize + 1 ≤ transferSize; omega)
  exact hs.not_importSafe (by decide)

end Controller

end Vcam
