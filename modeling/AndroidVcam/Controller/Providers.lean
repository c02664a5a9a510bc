import AndroidVcam.Controller.FramePublisher
import AndroidVcam.Controller.Routes

/-!
# The provider commands

The commands of `apmodule/vcamctl` that create, start, change and remove providers. A provider is a
directory with its `meta` file under the state directory and one with its frames under the frame
directory.

* `Request`, `vcamctl`: the commands that the control daemon admits, and the dispatcher.
-/

namespace Vcam

open TextFile FileTree Shell Script

namespace Controller

/-! ## Configuration -/

/-- `write_runtime_config`; its exit status is that of the labelling, which is always 0. -/
def writeRuntimeConfig (id : Text) : Script Unit := do
  let files ← Script.files
  let metaFile := stateFile id "meta"
  exec_ (.write (frameFile id "source.cfg")
    (configValue files "fps" metaFile "15" ++ ',' :: configValue files "max_width" metaFile "1280" ++
      ',' :: configValue files "max_height" metaFile "720" ++ ['\n']))
  exec_ (.write (frameFile id "view-0.cfg")
    (configValue files "view0" metaFile "0,1000,500,500" ++ ['\n']))
  exec_ (.write (frameFile id "view-1.cfg")
    (configValue files "view1" metaFile "0,1000,500,500" ++ ['\n']))

def providerTypes : List Text :=
  ["pattern", "image", "video", "http", "https", "hls",
    "rtsp"]

def metaLine (key : String) (value : Text) : Text := fieldLine (key.toList, value) ++ ['\n']

def newMeta (type nameB64 sourceB64 : Text) : Text :=
  metaLine "type" type ++ metaLine "name_b64" nameB64 ++ metaLine "source_b64" sourceB64 ++
    metaLine "fps" "15" ++ metaLine "max_width" "1280" ++
    metaLine "max_height" "720" ++ metaLine "view0" "0,1000,500,500" ++
    metaLine "view1" "0,1000,500,500"

def addProvider (id type nameB64 sourceB64 : Text) : Script Reply := do
  if !validId id then return refuse 2 "invalid provider id"
  else if isPhysical id then return refuse 2 "reserved provider id"
  else if !providerTypes.contains type then return refuse 2 "unsupported provider type"
  else if !(validBase64 nameB64 && validBase64 sourceB64) then
    return refuse 2 "invalid provider encoding"
  else if !(← prepareDirs) then return refuse 3 ""
  else
    let files ← Script.files
    if files.isThere (statePath id) then return refuse 4 "provider already exists"
    else if !(← makeDirectories [statePath id, framePath id]) then return refuse 3 ""
    else
      exec_ (.write (stateFile id "meta") (newMeta type nameB64 sourceB64))
      writeRuntimeConfig id
      return say "added"

/-- `awk '!/^(key|…)=/'`. -/
def dropKeys (keys : List String) (text : Text) : Text :=
  Awk.select (fun line => !keys.any fun key => (key.toList ++ ['=']).isPrefixOf line) text

def configKeys : List String := ["fps", "max_width", "max_height", "view0", "view1"]

def configLines (fps maxWidth maxHeight view0 view1 : Text) : Text :=
  metaLine "fps" fps ++ metaLine "max_width" maxWidth ++ metaLine "max_height" maxHeight ++
    metaLine "view0" view0 ++ metaLine "view1" view1

def providerConfigSet (env : Env) (id fps maxWidth maxHeight view0 view1 : Text) :
    Script Reply := do
  let files ← Script.files
  if !(validId id && providerExists files id) then return refuse 2 "provider not found"
  else if isPhysical id then return refuse 3 ""
  else if !(validSourceConfig env fps maxWidth maxHeight && validView env view0 &&
      validView env view1) then
    return refuse 2 "invalid provider configuration"
  else
    let metaFile := stateFile id "meta"
    let temporary := metaFile ++ ".new"
    if !(← Script.status (.filter (dropKeys configKeys) metaFile temporary)) then return refuse 4 ""
    else
      exec_ (.append temporary (configLines fps maxWidth maxHeight view0 view1))
      if !(← Script.status (.rename temporary metaFile)) then return refuse 4 ""
      else
        writeRuntimeConfig id
        return say "configured"

/-! ## Starting and stopping -/

/-- The part of `stop_provider` for a running stream: the signals go to the process whose ID is in
`stream.pid`. -/
def stopStream (pidFile : Text) : Script Unit := do
  if (← Script.files).isFile pidFile then
    exec_ (.read pidFile)
    exec_ (.remove pidFile)
  else return ()

def stopProvider (id : Text) (preserveAutostart : Bool) : Script Unit := do
  stopStream (stateFile id "stream.pid")
  exec_ (.remove (frameFile id "enabled"))
  exec_ (.remove (frameFile id "frame.rgb.new"))
  if preserveAutostart then return () else exec_ (.remove (stateFile id "autostart"))

def markStarted (id : Text) : Script Unit := do
  exec_ (.touch (stateFile id "autostart"))
  exec_ (.touch (frameFile id "enabled"))

/-- What the runner of a stream does in the first 15 seconds. -/
structure Stream where
  pid : ℕ
  /-- The frame it publishes. -/
  frame : Option Text
  /-- What it writes to its log. -/
  log : Text

/-- The message for a stream without a frame, with the last line of its log. -/
def noFrameMessage (log : Text) : Text :=
  let lastError := (getlines log).getLast?.getD []
  if lastError.isEmpty then "video source did not produce a frame within 15 seconds"
  else "video source did not produce a frame: " ++ lastError

def writeIfAny (path : Text) : Option Text → Script Unit
  | none => return ()
  | some content => exec_ (.write path content)

/-- The part of `start_provider` for streams. -/
def startStream (env : Env) (id : Text) (stream : Stream) : Script Reply := do
  exec_ (.touch (stateFile id "autostart"))
  Script.call 503 (stopProvider id true)
  if !env.runner then return refuse 4 "provider runner not found"
  else
    let frame := frameFile id "frame.rgb"
    exec_ (.remove frame)
    exec_ (.touch (frameFile id "enabled"))
    exec_ (.write (stateFile id "stream.log") stream.log)
    exec_ (.write (stateFile id "stream.pid") (decimal stream.pid ++ ['\n']))
    writeIfAny frame stream.frame
    if (← Script.files).hasSize frame then return say "started"
    else
      Script.call 528 (stopProvider id true)
      return ⟨6, noFrameMessage stream.log⟩

def startProvider (env : Env) (id : Text) (stream : Stream) : Script Reply := do
  let files ← Script.files
  if !(validId id && providerExists files id) then return refuse 2 "provider not found"
  else if isPhysical id then return say "physical provider is always running"
  else
    let type := metaValue files "type" (stateFile id "meta")
    if type = "pattern" then
      markStarted id
      return say "started"
    else if type = "image" then
      if !files.isFile (frameFile id "frame.rgb") then
        return refuse 5 "image provider has no published frame"
      else
        markStarted id
        return say "started"
    else startStream env id stream

/-! ## Changing and removing -/

/-- The sources that fit a type: `case "$type:$source"`. -/
def sourceMatches (type source : Text) : Bool :=
  let subject := type ++ ':' :: source
  subject == "pattern:" || subject == "image:" ||
    ["video:".toList, "https:https://".toList, "http:http://".toList, "hls:http://".toList,
      "hls:https://".toList, "rtsp:rtsp://".toList].any fun stem => stem.isPrefixOf subject

def updateKeys : List String := ["name_b64", "source_b64"] ++ configKeys

structure ProviderValues where
  nameB64 : Text
  sourceB64 : Text
  fps : Text
  maxWidth : Text
  maxHeight : Text
  view0 : Text
  view1 : Text

def updateLines (values : ProviderValues) : Text :=
  metaLine "name_b64" values.nameB64 ++ metaLine "source_b64" values.sourceB64 ++
    configLines values.fps values.maxWidth values.maxHeight values.view0 values.view1

def validValues (env : Env) (values : ProviderValues) : Bool :=
  validBase64 values.nameB64 && validBase64 values.sourceB64 &&
    validSourceConfig env values.fps values.maxWidth values.maxHeight &&
    validView env values.view0 && validView env values.view1

/-- The end of `provider_update`: a stream that was on is started with the new source, or put back
with the old one. -/
def restartUpdated (env : Env) (id type backup : Text) (wasEnabled : Bool)
    (started retried : Stream) : Script Reply := do
  if type = "pattern" ∨ type = "image" ∨ !wasEnabled then
    exec_ (.remove backup)
    return say "updated"
  else
    Script.call 400 (stopProvider id false)
    let reply ← Script.call 401 (startProvider env id started)
    if reply.status ≠ 0 then
      exec_ (.copy backup (stateFile id "meta"))
      Script.call 405 (writeRuntimeConfig id)
      let _ ← Script.call 406 (startProvider env id retried)
      exec_ (.remove backup)
      return ⟨6, "provider update failed: " ++ reply.message⟩
    else
      exec_ (.remove backup)
      return say "updated"

def backupFile (env : Env) (id : Text) : Text :=
  stateFile id "meta" ++ ".backup-" ++ decimal env.pid

def updateFile (env : Env) (id : Text) : Text :=
  stateFile id "meta" ++ ".new-" ++ decimal env.pid

/-- `provider_update` behind its checks. The branch for a failed `write_runtime_config` is never
taken. -/
def applyUpdate (env : Env) (id type : Text) (values : ProviderValues) (started retried : Stream) :
    Script Reply := do
  let metaFile := stateFile id "meta"
  let backup := backupFile env id
  let temporary := updateFile env id
  if !(← Script.status (.copy metaFile backup)) then return refuse 4 ""
  else
    let files ← Script.files
    let wasEnabled := files.isThere (frameFile id "enabled") || files.isThere (stateFile id "autostart")
    if !(← Script.status (.filter (dropKeys updateKeys) metaFile temporary)) then
      exec_ (.remove backup)
      exec_ (.remove temporary)
      return refuse 4 ""
    else
      exec_ (.append temporary (updateLines values))
      if !(← Script.status (.rename temporary metaFile)) then
        exec_ (.remove backup)
        return refuse 4 ""
      else
        Script.call 396 (writeRuntimeConfig id)
        restartUpdated env id type backup wasEnabled started retried

def providerUpdate (env : Env) (id : Text) (values : ProviderValues) (started retried : Stream) :
    Script Reply := do
  let files ← Script.files
  if !(validId id && providerExists files id) then return refuse 2 "provider not found"
  else if isPhysical id then return refuse 3 "physical provider is read-only"
  else if !validValues env values then return refuse 2 "invalid provider update"
  else
    let type := metaValue files "type" (stateFile id "meta")
    match env.base64 values.sourceB64 with
    | none => return refuse 2 ""
    | some source =>
      if !sourceMatches type source then
        return refuse 2 "source URL does not match provider type"
      else applyUpdate env id type values started retried

/-- `NF == 3 && $3 != provider_id`. -/
def keepsProvider (arith : Awk.Arithmetic) (id record : Text) : Bool :=
  match Awk.fields '\t' record with
  | [_, _, third] => !Awk.same arith third id
  | _ => false

def removal (env : Env) (id : Text) : Script Reply := do
  stopProvider id false
  updateRoutes (Awk.select (keepsProvider env.arith id)) []
  exec_ (.removeTree (statePath id))
  exec_ (.removeTree (framePath id))
  return say "removed"

def removeProvider (env : Env) (id : Text) : Script Reply := do
  if !validId id then return refuse 2 "invalid provider id"
  else if isPhysical id then return refuse 3 "physical providers cannot be removed"
  else
    let files ← Script.files
    if !files.isDirectory (statePath id) then return refuse 4 "provider not found"
    else removal env id

/-! ## Frames and media -/

def publishProviderStdin (env : Env) (id : Text) (input : Bytes) : Script Reply := do
  let files ← Script.files
  if !(validId id && providerExists files id) then return refuse 2 "provider not found"
  else if isPhysical id then return refuse 3 ""
  else if !env.publisher then return refuse 4 "vcam-publisher not found"
  else
    let status ← FramePublisher.publisherMain (frameFile id "frame.rgb") input
    if status ≠ 0 then return refuse 5 "frame publish failed"
    else
      exec_ (.touch (frameFile id "enabled"))
      return say "published"

def importProviderMedia (id : Text) (input : Bytes) : Script Reply := do
  let files ← Script.files
  if !(validId id && providerExists files id) then return refuse 2 "provider not found"
  else if isPhysical id then return refuse 3 ""
  else if metaValue files "type" (stateFile id "meta") ≠ "video" then
    return refuse 3 "provider is not a local video"
  else
    let destination := frameFile id "source.media"
    let temporary := destination ++ ".new"
    if !(← Script.status (.write temporary (byteText input))) then
      exec_ (.remove temporary)
      return refuse 4 "media import failed"
    else if !(← Script.files).hasSize temporary then
      exec_ (.remove temporary)
      return refuse 5 "imported media is empty"
    else if !(← Script.status (.rename temporary destination)) then return refuse 4 ""
    else return say "imported"

/-- The files that the programs behind a preview write, `none` for one that fails. -/
structure Preview where
  media : Option Text
  bundle : Option Text
  frame : Option Text
  thumbnail : Option Text

/-- A program that writes one file of the preview directory. -/
def writePreview (path : Text) : Option Text → Script Bool
  | none => return false
  | some content => Script.status (.write path content)

/-- The file that the streamer needs besides the source. -/
def previewInput (type directory : Text) (preview : Preview) : Script Bool :=
  if type = "https" then writePreview (directory ++ "/source.media") preview.media
  else if type = "hls" then
    writePreview (directory ++ "/ca-bundle.pem") preview.bundle
  else return true

def previewStream (env : Env) (type directory : Text) (preview : Preview) : Script Reply := do
  if !(← Script.status (.mkdir directory)) then return refuse 3 ""
  else if !(← previewInput type directory preview) then return refuse 6 ""
  else
    let frame := directory ++ "/frame.rgb"
    if !(← writePreview frame preview.frame) then return refuse 6 ""
    else if !(← Script.files).hasSize frame then return refuse 6 "preview source produced no frame"
    else if !(← writePreview (directory ++ "/preview.rgb") preview.thumbnail) then
      return refuse 6 ""
    else return ⟨0, env.encode64 (preview.thumbnail.getD [])⟩

def previewThumbnail (env : Env) (directory : Text) (preview : Preview) : Script Reply := do
  let thumbnail := directory ++ "/frame.rgb"
  if !(← Script.status (.mkdir directory)) then return refuse 5 ""
  else if !(← writePreview thumbnail preview.thumbnail) then
    return refuse 5 "provider preview thumbnail failed"
  else if !(← Script.files).hasSize thumbnail then
    return refuse 5 "provider preview thumbnail is empty"
  else return ⟨0, env.encode64 (preview.thumbnail.getD [])⟩

def previewTypes : List Text := ["rtsp", "http", "https", "hls"]

/-- `$PROVIDER_FRAME_DIR/.preview-$$`. -/
def previewDirectory (env : Env) : Text :=
  providerFrameDir ++ '/' :: (".preview-" ++ decimal env.pid)

/-- `$PROVIDER_FRAME_DIR/.frame-preview-$$`. -/
def framePreviewDirectory (env : Env) : Text :=
  providerFrameDir ++ '/' :: (".frame-preview-" ++ decimal env.pid)

def previewSource (env : Env) (type sourceB64 : Text) (preview : Preview) : Script Reply := do
  if !previewTypes.contains type then return refuse 2 "unsupported preview source type"
  else if !validBase64 sourceB64 then return refuse 2 "invalid source encoding"
  else
    match env.base64 sourceB64 with
    | none => return refuse 2 ""
    | some source =>
      if !sourceMatches type source then return refuse 2 "source URL does not match provider type"
      else if !(← prepareDirs) then return refuse 3 ""
      else if !env.streamer then return refuse 4 "vcam-streamer not found"
      else if !env.publisher then return refuse 4 "vcam-publisher not found"
      else
        -- The directory is removed by a trap, however the script ends.
        let reply ← previewStream env type (previewDirectory env) preview
        exec_ (.removeTree (previewDirectory env))
        return reply

def providerFrame (env : Env) (id : Text) (preview : Preview) : Script Reply := do
  let files ← Script.files
  if !(validId id && providerExists files id) then return refuse 2 "provider not found"
  else if isPhysical id then return refuse 3 "physical provider has no virtual frame"
  else if !files.hasSize (frameFile id "frame.rgb") then
    return refuse 5 "provider has no preview frame; start it first"
  else if !env.publisher then return refuse 4 "vcam-publisher not found"
  else
    let reply ← previewThumbnail env (framePreviewDirectory env) preview
    exec_ (.removeTree (framePreviewDirectory env))
    return reply

/-! ## The other commands -/

def listProviders : Script Reply := do
  let files ← Script.files
  if !files.isDirectory providerStateDir || !files.isDirectory providerFrameDir then
    if !(← prepareDirs) then return refuse 1 "" else return say ""
  else return say ""

def listRoutes : Script Reply := do
  if !(← Script.files).isFile routesFile then
    if !(← prepareDirs) then return refuse 1 "" else return say ""
  else return say ""

def disableRouting (env : Env) : Script Reply := do
  if !(← prepareDirs) then return refuse 1 ""
  else
    let temporary := routingDisabledFile ++ ".new." ++ decimal env.pid
    if !(← Script.status (.write temporary [])) then return refuse 2 ""
    else if !(← Script.status (.rename temporary routingDisabledFile)) then return refuse 3 ""
    else return say "disabled"

def enableRouting : Script Reply := do
  if !(← prepareDirs) then return refuse 1 ""
  else if !(← Script.status (.remove routingDisabledFile)) then return refuse 2 ""
  else return say "enabled"

def refreshProfile (probe : Option Text) : Script Unit := do
  if metaValue (← Script.files) "schema_version" profileFile ≠ "7" then
    writeIfAny profileFile probe
  else return ()

def printCapabilities (probe : Option Text) : Script Reply := do
  refreshProfile probe
  if !(← Script.files).isFile profileFile then
    return refuse 1 "device capability profile unavailable"
  else return say ""

def providerConfig (id : Text) : Script Reply := do
  let files ← Script.files
  if !(validId id && providerExists files id) then return refuse 2 "provider not found"
  else if isPhysical id then return refuse 3 "physical provider is read-only"
  else return say ""

/-! ## The dispatcher -/

/-- What other programs do while a command runs. -/
structure Programs where
  started : Stream
  retried : Stream
  preview : Preview
  probe : Option Text

/-- A command of the control daemon with its arguments. -/
inductive Request
  | status
  | capabilities
  | diagnostics
  | providers
  | addProvider (id type nameB64 sourceB64 : Text)
  | removeProvider (id : Text)
  | startProvider (id : Text)
  | stopProvider (id : Text)
  | previewSource (type sourceB64 : Text)
  | providerFrame (id : Text)
  | providerUpdate (id : Text) (values : ProviderValues)
  | publishProviderStdin (id : Text) (input : Bytes)
  | importProviderMedia (id : Text) (input : Bytes)
  | providerConfig (id : Text)
  | providerConfigSet (id fps maxWidth maxHeight view0 view1 : Text)
  | routes
  | setRoute (package target provider : Text)
  | removeRoute (package target : Text)
  | saveRoutes (package provider0 provider1 : Text)
  | enableRouting
  | disableRouting
  | usage

/-- `case "$1" in`, for the commands of the control daemon. -/
def Request.parse (command : Text) (arguments : List Text) (input : Bytes) : Request :=
  let argument (index : ℕ) := arguments.getD index []
  if command = "status" then .status
  else if command = "capabilities" then .capabilities
  else if command = "diagnostics" then .diagnostics
  else if command = "providers" then .providers
  else if command = "provider-add" then
    .addProvider (argument 0) (argument 1) (argument 2) (argument 3)
  else if command = "provider-remove" then .removeProvider (argument 0)
  else if command = "provider-start" then .startProvider (argument 0)
  else if command = "provider-stop" then .stopProvider (argument 0)
  else if command = "source-preview" then .previewSource (argument 0) (argument 1)
  else if command = "provider-frame" then .providerFrame (argument 0)
  else if command = "provider-update" then
    .providerUpdate (argument 0) ⟨argument 1, argument 2, argument 3, argument 4, argument 5,
      argument 6, argument 7⟩
  else if command = "provider-publish-stdin" then .publishProviderStdin (argument 0) input
  else if command = "provider-import-media" then .importProviderMedia (argument 0) input
  else if command = "provider-config" then .providerConfig (argument 0)
  else if command = "provider-config-set" then
    .providerConfigSet (argument 0) (argument 1) (argument 2) (argument 3) (argument 4) (argument 5)
  else if command = "routes" then .routes
  else if command = "route-set" then .setRoute (argument 0) (argument 1) (argument 2)
  else if command = "route-remove" then .removeRoute (argument 0) (argument 1)
  else if command = "route-save" then .saveRoutes (argument 0) (argument 1) (argument 2)
  else if command = "routing-enable" then .enableRouting
  else if command = "routing-disable" then .disableRouting
  else .usage

def Request.script (env : Env) (programs : Programs) : Request → Script Reply
  | status => return say ""
  | capabilities => printCapabilities programs.probe
  | diagnostics => return say ""
  | providers => listProviders
  | addProvider id type nameB64 sourceB64 => Controller.addProvider id type nameB64 sourceB64
  | removeProvider id => Controller.removeProvider env id
  | startProvider id => Controller.startProvider env id programs.started
  | stopProvider id => do
    Controller.stopProvider id false
    return say "stopped"
  | previewSource type sourceB64 => Controller.previewSource env type sourceB64 programs.preview
  | providerFrame id => Controller.providerFrame env id programs.preview
  | providerUpdate id values =>
    Controller.providerUpdate env id values programs.started programs.retried
  | publishProviderStdin id input => Controller.publishProviderStdin env id input
  | importProviderMedia id input => Controller.importProviderMedia id input
  | providerConfig id => Controller.providerConfig id
  | providerConfigSet id fps maxWidth maxHeight view0 view1 =>
    Controller.providerConfigSet env id fps maxWidth maxHeight view0 view1
  | routes => listRoutes
  | setRoute package target provider => Controller.setRoute env package target provider
  | removeRoute package target => Controller.removeRoute env package target
  | saveRoutes package provider0 provider1 =>
    Controller.saveRoutes env package provider0 provider1
  | enableRouting => Controller.enableRouting
  | disableRouting => Controller.disableRouting env
  | usage => return refuse 64 "usage: vcamctl"

def vcamctl (env : Env) (programs : Programs) (command : Text) (arguments : List Text)
    (input : Bytes) : Script Reply :=
  (Request.parse command arguments input).script env programs

/-! ## The checks of the commands about one provider -/

section Checked

variable {o : Op → Outcome} {t : Tree} {id : Text} {p : Reply}
  {body : Tree → Script Reply}

theorem run_unchecked (h : (validId id && providerExists t id) = false) :
    Script.run o (do
      let files ← Script.files
      if !(validId id && providerExists files id) then return refuse 2 "provider not found"
      else if isPhysical id then return p
      else body files) t = ⟨refuse 2 "provider not found", t, []⟩ := by
  rw [run_bind, run_files]
  dsimp only
  rw [h]
  rfl

theorem run_checked (hid : validId id = true) (he : providerExists t id = true)
    (hp : isPhysical id = false) :
    Script.run o (do
      let files ← Script.files
      if !(validId id && providerExists files id) then return refuse 2 "provider not found"
      else if isPhysical id then return p
      else body files) t = (body t).run o t := by
  rw [run_bind, run_files]
  dsimp only
  rw [hid, he, hp]
  rfl

end Checked

end Controller

end Vcam
