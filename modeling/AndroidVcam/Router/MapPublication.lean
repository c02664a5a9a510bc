import AndroidVcam.Lib.Publication
import AndroidVcam.Router.OnTransact

/-!
# Requests during a map publication

`portable-module/camera-map.sh` publishes the map files one by one: it removes `topology.conf`,
replaces `targets.tsv`, `camera1-targets.tsv` and `camera1-map.tsv`, and puts the new
`topology.conf` in place. A routed request of `runtime/platform/AndroidCameraServiceRouter.cpp`
tests the four files in `routingMapsReady` and opens the maps it needs later.

* `eval_routedReader`: on files that do not change it ends as `cameraRequest` does;
* **`reads_one_generation`**: without a replacement between the last test of a request and its last
  open, all of its reads are of one generation, and `outcome_one_generation`;
* `lateRequest_mixed`: with one, a request is sent to a camera that neither generation asks for.
-/

namespace Vcam

open TextFile Publication ScopedCameraRouter RouteResolver FileSystem

inductive MapFile
  | targets
  | camera1Targets
  | camera1Map
  | topology
deriving DecidableEq, Repr

def MapFile.path : MapFile → Text
  | targets => kDefaultTargetMapPath
  | camera1Targets => kDefaultCamera1TargetMapPath
  | camera1Map => kDefaultCamera1MapPath
  | topology => kRuntimeTopologyPath

/-- The maps in the order in which they are replaced; `topology.conf` is the marker. -/
def mapNames : List MapFile := [.targets, .camera1Targets, .camera1Map]

abbrev MapContents := MapFile → Option Text

/-- The device with another content, or no file, at a path. -/
def withText (fs : FileSystem) (path : Text) (content : Option Text) : FileSystem := fun p =>
  if p = path then content.map (⟨·, true⟩) else fs p

def withMaps (fs : FileSystem) (maps : MapContents) : FileSystem :=
  [MapFile.targets, .camera1Targets, .camera1Map, .topology].foldl
    (fun fs f => withText fs f.path (maps f)) fs

abbrev RouterEnv.onMaps {β : Type} (env : RouterEnv β) (maps : MapContents) : RouterEnv β :=
  { env with fs := withMaps env.fs maps }

/-! ## A request as a reader -/

section Reader

variable {β ι : Type} (P : Platform β ι) (env : RouterEnv β) (req : Request β)
  (obs : ParcelObservation)

/-- The map that gives the slot of the requested camera. -/
def targetFileFor (shape : BinderPayloadShape) : MapFile :=
  if shape.integerId then .camera1Targets else .targets

/-- The replacement of the camera; integer IDs need `camera1-map.tsv`. -/
def replaceReader (replacementCameraId : Text) : Reader MapFile Text (Outcome β) :=
  if replacementCameraId = [] then .done (.forwarded req.data .unchanged)
  else if obs.transaction.payloadShape.integerId then
    .openText .camera1Map fun content =>
      let seen := { env with fs := withText env.fs MapFile.camera1Map.path content }
      .done (forwardReplaced P seen req obs replacementCameraId).outcome
  else .done (forwardReplaced P env req obs replacementCameraId).outcome

/-- A configured physical route: the visible ID of the provider's slot is in `targets.tsv`. -/
def physicalReader (providerId : Text) : Reader MapFile Text (Outcome β) :=
  .openText .targets fun content =>
    let physicalCameraId := physicalCameraIdForProvider
      (withText env.fs MapFile.targets.path content) providerId
      kDefaultTargetMapPath
    if physicalCameraId = [] then
      .done (rejectCameraRequest req "Physical camera source unavailable")
    else if physicalCameraId ≠ obs.cameraId then replaceReader P env req obs physicalCameraId
    else .done (.forwarded req.data .unchanged)

/-- The route and the replacement, with every map opened where the method opens it. -/
def routeReader (package : Text) : Reader MapFile Text (Outcome β) :=
  let file := targetFileFor obs.transaction.payloadShape
  .openText file fun content =>
    let route := routeFor obs (withText env.fs file.path content) package
    if route.configured = true ∧ route.available = false then
      .done (.forwarded req.data .unchanged)
    else if route.redirected then replaceReader P env req obs route.effectiveCameraId
    else if route.configured = true ∧
        0 ≤ physicalIdFromProvider route.providerId then
      physicalReader P env req obs route.providerId
    else .done (.forwarded req.data .unchanged)

/-- A routed request: `routingMapsReady` and then the route. -/
def routedReader : Reader MapFile Text (Outcome β) :=
  let obs := observation P env req
  .requireAll (rejectCameraRequest req "Camera routing topology unavailable")
    (routeReader P env req obs (attributePackage P env obs true).1)
    [.targets, .camera1Targets, .camera1Map, .topology]

end Reader

variable {β ι : Type} {P : Platform β ι} {env : RouterEnv β} {req : Request β}
  {obs : ParcelObservation}

theorem opens_replaceReader (requested : Text) :
    (replaceReader P env req obs requested).Opens (· ≠ .topology) := by
  unfold replaceReader
  split_ifs
  · trivial
  · exact ⟨by decide, fun _ => trivial⟩
  · trivial

theorem opens_physicalReader (p : Text) :
    (physicalReader P env req obs p).Opens (· ≠ .topology) := by
  refine ⟨by decide, fun content => ?_⟩
  dsimp only
  split_ifs
  · trivial
  · exact opens_replaceReader _
  · trivial

theorem opens_routeReader (p : Text) :
    (routeReader P env req obs p).Opens (· ≠ .topology) := by
  refine ⟨?_, fun content => ?_⟩
  · unfold targetFileFor
    split_ifs <;> decide
  · dsimp only
    split_ifs
    · trivial
    · exact opens_replaceReader _
    · exact opens_physicalReader _
    · trivial

/-! ## The same request on files that do not change -/

section Fixed

variable {fs fs' : FileSystem} {maps : MapContents}

theorem openText_withText (path : Text) (content : Option Text) :
    (withText fs path content).openText path = content := by
  cases content <;> simp [withText, openText]

theorem withText_of_ne {path p : Text} (c : Option Text) (h : p ≠ path) :
    withText fs path c p = fs p := by
  rw [withText, if_neg h]

/-- The two devices differ in map files only. -/
def SameOutsideMaps (fs fs' : FileSystem) : Prop := ∀ p, (∀ f : MapFile, p ≠ f.path) → fs p = fs' p

theorem sameOutsideMaps_withText (f : MapFile) (c : Option Text) :
    SameOutsideMaps (withText fs f.path c) fs :=
  fun _ hp => withText_of_ne c (hp f)

theorem sameOutsideMaps_withMaps : SameOutsideMaps (withMaps fs maps) fs := by
  intro p hp
  simp only [withMaps, List.foldl_cons, List.foldl_nil, withText_of_ne _ (hp _)]

theorem withMaps_path (f : MapFile) :
    withMaps fs maps f.path = (maps f).map (⟨·, true⟩) := by
  cases f <;> simp +decide [withMaps, withText]

theorem openText_withMaps (f : MapFile) : (withMaps fs maps).openText f.path = maps f := by
  rw [openText, withMaps_path]
  cases maps f <;> simp

theorem canRead_withMaps (f : MapFile) : (withMaps fs maps).canRead f.path = (maps f).isSome := by
  rw [canRead, withMaps_path]
  cases maps f <;> simp

theorem routingMapsReady_withMaps : routingMapsReady (withMaps fs maps) =
    [MapFile.targets, .camera1Targets, .camera1Map, .topology].all fun f => (maps f).isSome := by
  have hr : routingMapsReady (withMaps fs maps) =
      ((withMaps fs maps).canRead MapFile.targets.path &&
        (withMaps fs maps).canRead MapFile.camera1Targets.path &&
        (withMaps fs maps).canRead MapFile.camera1Map.path &&
        (withMaps fs maps).canRead MapFile.topology.path) := rfl
  simp [hr, canRead_withMaps, Bool.and_assoc]

theorem enabledPath_ne (p : Text) (f : MapFile) :
    enabledPath p kRuntimeProvidersPath ≠ f.path := by
  intro h
  have hp : kRuntimeProvidersPath <+: f.path := by
    rw [← h, enabledPath, List.append_assoc]
    exact List.prefix_append _ _
  cases f <;> revert hp <;> decide

theorem resolveProvider_congr (h : SameOutsideMaps fs fs') (p : Text) (slot : ℤ) :
    resolveProviderForPackage fs p slot kRuntimeRoutesPath
        kRuntimeProvidersPath =
      resolveProviderForPackage fs' p slot kRuntimeRoutesPath
        kRuntimeProvidersPath := by
  have hr : fs.openText kRuntimeRoutesPath = fs'.openText kRuntimeRoutesPath := by
    rw [openText, h _ (by intro f; cases f <;> decide), openText]
  have hd : fs.good (kRuntimeRoutesPath ++ ".disabled") =
      fs'.good (kRuntimeRoutesPath ++ ".disabled") := by
    rw [good, openText, h _ (by intro f; cases f <;> decide),
      good, openText]
  have he : ∀ provider,
      fs.good (enabledPath provider kRuntimeProvidersPath) =
        fs'.good (enabledPath provider kRuntimeProvidersPath) := by
    intro provider
    rw [good, openText, h _ (enabledPath_ne provider), good,
      openText]
  simp only [resolveProviderForPackage, selectionForProvider, hr,
    hd, he]

theorem routeFor_congr (h : SameOutsideMaps fs fs')
    (hmap : fs.openText (targetMapFor obs.transaction.payloadShape) =
      fs'.openText (targetMapFor obs.transaction.payloadShape)) (package : Text) :
    routeFor obs fs package = routeFor obs fs' package := by
  have hs : targetSlot fs obs.cameraId
        (targetMapFor obs.transaction.payloadShape) =
      targetSlot fs' obs.cameraId
        (targetMapFor obs.transaction.payloadShape) := by
    rw [targetSlot, hmap, targetSlot]
  simp only [routeFor, resolve, hs, resolveProvider_congr h]

theorem targetFileFor_path (shape : BinderPayloadShape) :
    (targetFileFor shape).path = targetMapFor shape := by
  unfold targetFileFor targetMapFor
  split_ifs <;> rfl

theorem routeFor_withMaps (package : Text) :
    routeFor obs (withText fs (targetFileFor obs.transaction.payloadShape).path
        (maps (targetFileFor obs.transaction.payloadShape))) package =
      routeFor obs (withMaps fs maps) package := by
  refine routeFor_congr (fun p hp => ?_) ?_ package
  · rw [sameOutsideMaps_withText _ _ p hp, sameOutsideMaps_withMaps p hp]
  · rw [← targetFileFor_path, openText_withText, openText_withMaps]

theorem physicalCameraId_withMaps (p : Text) :
    physicalCameraIdForProvider
        (withText fs MapFile.targets.path (maps .targets)) p
        kDefaultTargetMapPath =
      physicalCameraIdForProvider (withMaps fs maps) p
        kDefaultTargetMapPath := by
  have hmap : (withText fs MapFile.targets.path (maps .targets)).openText MapFile.targets.path =
      (withMaps fs maps).openText MapFile.targets.path := by
    rw [openText_withText, openText_withMaps]
  simp only [physicalCameraIdForProvider, visibleIdForSlot]
  rw [show kDefaultTargetMapPath = MapFile.targets.path from rfl, hmap]

theorem forwardReplaced_congr {replacementCameraId : Text}
    (hin : obs.transaction.payloadShape.integerId = true →
      camera1IndexForId fs replacementCameraId
          kDefaultCamera1MapPath =
        camera1IndexForId fs' replacementCameraId
          kDefaultCamera1MapPath) :
    forwardReplaced P { env with fs := fs } req obs replacementCameraId =
      forwardReplaced P { env with fs := fs' } req obs replacementCameraId := by
  unfold forwardReplaced
  split_ifs with hi
  · dsimp only
    rw [hin hi]
    rfl
  · rfl

theorem eval_replaceReader (requested : Text) :
    (replaceReader P env req obs requested).eval maps =
      if requested = [] then .forwarded req.data .unchanged
      else (forwardReplaced P (env.onMaps maps) req obs
        requested).outcome := by
  have hmap : (withText env.fs MapFile.camera1Map.path (maps .camera1Map)).openText
      kDefaultCamera1MapPath =
      (withMaps env.fs maps).openText kDefaultCamera1MapPath := by
    rw [show kDefaultCamera1MapPath = MapFile.camera1Map.path from rfl,
      openText_withText, openText_withMaps]
  unfold replaceReader
  split_ifs with hr hi
  · rfl
  · simp only [Reader.eval]
    rw [forwardReplaced_congr fun _ => ?_]
    rw [camera1IndexForId, hmap, camera1IndexForId]
  · exact congrArg Transacted.outcome (forwardReplaced_congr fun h => absurd h hi)

/-- The route as a reader and as one call on the device agree. -/
theorem eval_routeReader (p : Text) :
    (routeReader P env req obs p).eval maps =
      match (decideReplacement obs (withMaps env.fs maps) p).1 with
      | .error message => rejectCameraRequest req message
      | .ok replacement =>
        if replacement = [] then .forwarded req.data .unchanged
        else (forwardReplaced P (env.onMaps maps) req obs
          replacement).outcome := by
  simp only [routeReader, Reader.eval, routeFor_withMaps, decideReplacement]
  generalize routeFor obs (withMaps env.fs maps) p = route
  by_cases hu : route.configured = true ∧ route.available = false
  · simp [hu, Reader.eval]
  · by_cases hr : route.redirected = true
    · simp only [if_neg hu, if_pos hr, eval_replaceReader]
    · by_cases hp : route.configured = true ∧
          0 ≤ physicalIdFromProvider route.providerId
      · simp only [if_neg hu, if_neg hr, if_pos hp, physicalReader,
          Reader.eval, physicalCameraId_withMaps]
        split_ifs with hn ho
        · rfl
        · rw [eval_replaceReader]
        · simp [Reader.eval]
      · simp [hu, hr, hp, Reader.eval]

/-- **A routed request on maps that do not change ends as the method does.** -/
theorem eval_routedReader (hph : env.physicalRoutingEnabled = true)
    (hs : (req.shape env).singleCamera = true)
    (ho : (observation P env req).status = .observed)
    (he : isInternalCameraId (observation P env req).cameraId = false)
    (hid : (observation P env req).cameraId ≠ [])
    (ha : routingPolicyActive (withMaps env.fs maps) = true) :
    (routedReader P env req).eval maps =
      (onTransact P (env.onMaps maps) req).outcome := by
  have hout : (onTransact P (env.onMaps maps) req).outcome = _ := outcome_single hph hs
  have hobs : observation P (env.onMaps maps) req = observation P env req := rfl
  have hp : verifiedPackage P (env.onMaps maps) req =
      (attributePackage P env (observation P env req) true).1 := by
    rw [verifiedPackage, hobs, show (env.onMaps maps).fs = withMaps env.fs maps from rfl, ha]
    rfl
  rw [hout, hobs, hp, routedReader, Reader.eval_requireAll, ← routingMapsReady_withMaps]
  simp only [ho, he, ha, hid, eval_routeReader]
  cases hr : routingMapsReady (withMaps env.fs maps) with
  | false => rfl
  | true => rfl

end Fixed

/-! ## Publications -/

abbrev Generation := MapFile → Text

/-- The old maps are in place, the publication of the new ones is due and a request arrives. -/
def publishing (P : Platform β ι) (env : RouterEnv β) (req : Request β) (old : Generation) :
    State MapFile Text (Outcome β) :=
  start old .topology mapNames (routedReader P env req)

theorem mem_mapNames (f : MapFile) : f = .topology ∨ f ∈ mapNames := by cases f <;> decide

/-- **The reads of one request are of one generation** in every interleaving with a publication
that replaces no map between the last test of the request and its last open. -/
theorem reads_one_generation (P : Platform β ι) (env : RouterEnv β) (req : Request β)
    (old new : Generation) (actors : List Actor)
    (hexcl : Machine.Along (step new) (Exclusive .topology) (publishing P env req old) actors) :
    ∃ g, (g = old ∨ g = new) ∧
      ∀ x ∈ (Machine.run (step new) (publishing P env req old) actors).2, x.2 = some (g x.1) := by
  obtain ⟨g, hg, hr, -⟩ := one_generation mem_mapNames (by decide) (opens_routeReader _)
    mapNames actors hexcl
  exact ⟨g, hg, hr⟩

theorem routingPolicyActive_withMaps {fs : FileSystem} {maps : MapContents} :
    routingPolicyActive (withMaps fs maps) = routingPolicyActive fs := by
  have h : SameOutsideMaps (withMaps fs maps) fs := sameOutsideMaps_withMaps
  simp only [routingPolicyActive, existsFile, nonEmptyFile,
    h kRuntimeRoutesDisabledPath fun f => by cases f <;> decide,
    h kRuntimeRoutesPath fun f => by cases f <;> decide]

/-- **A request ends as if one generation had been there all the time**, or is rejected because the
maps are being replaced. -/
theorem outcome_one_generation {old new : Generation} {a : List Actor}
    (hp : env.physicalRoutingEnabled = true) (hs : (req.shape env).singleCamera = true)
    (ho : (observation P env req).status = .observed)
    (he : isInternalCameraId (observation P env req).cameraId = false)
    (hid : (observation P env req).cameraId ≠ [])
    (ha : routingPolicyActive env.fs = true)
    (hexc : Machine.Along (step new) (Exclusive .topology) (publishing P env req old) a)
    {out : Outcome β}
    (hd : (Machine.run (step new) (publishing P env req old) a).1.reader = .done out) :
    out = rejectCameraRequest req "Camera routing topology unavailable" ∨
      ∃ g, (g = old ∨ g = new) ∧
        out = (onTransact P (env.onMaps fun f => some (g f)) req).outcome := by
  obtain ⟨g, hg, -, hr⟩ := one_generation mem_mapNames (by decide) (opens_routeReader _)
    mapNames a hexc
  refine (hr out hd).imp_right fun hev => ⟨g, hg, ?_⟩
  rw [← eval_routedReader hp hs ho he hid (routingPolicyActive_withMaps.trans ha), routedReader,
    Reader.eval_requireAll, hev]
  simp

/-! ## Two generations with swapped cameras -/

/-- Back camera `2` and front camera `3`. -/
def backFirst : Generation
  | .targets => "2\t0\n3\t1\n"
  | .camera1Targets => "0\t0\n1\t1\n"
  | .camera1Map => "2\t0\n3\t1\n1000\t4\n1001\t5\n"
  | .topology => "schema=1\n"

def frontFirst : Generation
  | .targets => "3\t0\n2\t1\n"
  | .camera1Targets => "0\t0\n1\t1\n"
  | .camera1Map => "3\t0\n2\t1\n1000\t4\n1001\t5\n"
  | .topology => "schema=1\n"

/-- A device on which every application gets the front camera for the back one. -/
abbrev frontEnv : RouterEnv AndroidFormat.Cell :=
  androidEnv (.ofList [(kRuntimeRoutesPath, "*\t0\tphysical-1\n")]) fun _ => []

/-- The camera that a finished request asks the service for. -/
def forwardedCamera (shape : BinderPayloadShape)
    (s : State MapFile Text (Outcome AndroidFormat.Cell)) : Option CameraName :=
  match s.reader with
  | .done (.forwarded data _) => cameraField androidFormat shape data.cells
  | _ => none

/-- The maps are replaced while the request tests them. -/
def testedMeanwhile : List Actor :=
  [.reader, .publisher, .publisher, .reader, .publisher, .publisher, .reader, .publisher] ++
    List.replicate 4 .reader

theorem reads_one_generation_overlapping :
    ∃ g, (g = backFirst ∨ g = frontFirst) ∧
      ∀ x ∈ (Machine.run (step frontFirst) (publishing androidPlatform frontEnv
        (clientRequest 12 (.index 0) []) backFirst) testedMeanwhile).2, x.2 = some (g x.1) := by
  exact reads_one_generation androidPlatform frontEnv _ backFirst frontFirst testedMeanwhile
    (by decide +kernel)

theorem outcome_one_generation_overlapping :
    let r := Machine.run (step frontFirst) (publishing androidPlatform frontEnv
      (clientRequest 12 (.index 0) []) backFirst) testedMeanwhile
    ∃ out, r.1.reader = .done out ∧
      (out = rejectCameraRequest (clientRequest 12 (.index 0) [])
        "Camera routing topology unavailable" ∨
        ∃ g, (g = backFirst ∨ g = frontFirst) ∧ out = (onTransact androidPlatform
          (frontEnv.onMaps fun f => some (g f)) (clientRequest 12 (.index 0) [])).outcome) := by
  intro r
  have hc : forwardedCamera .integerCameraId r.1 = some (.index 1) := by decide +kernel
  rcases hr : r.1.reader with out | _ | _
  · exact ⟨out, rfl, outcome_one_generation (by decide) (by decide) (by decide +kernel)
      (by decide +kernel) (by decide +kernel) (by decide) (by decide +kernel) hr⟩
  all_goals simp [forwardedCamera, hr] at hc

/-- The maps are replaced after the request has read `targets.tsv`. -/
def lateRequest : List Actor :=
  List.replicate 6 .reader ++ List.replicate 5 .publisher ++ [.reader]

/-- **A publication between two reads sends a request to the wrong camera.** Both generations route
Camera1 index 0 to index 1; the request that reads `targets.tsv` of the one and `camera1-map.tsv` of
the other is forwarded for index 0. -/
theorem lateRequest_mixed :
    let r := Machine.run (step frontFirst) (publishing androidPlatform frontEnv
      (clientRequest 12 (.index 0) []) backFirst) lateRequest
    r.2 = [(.camera1Targets, some (backFirst .camera1Targets)),
      (.targets, some (backFirst .targets)), (.camera1Map, some (frontFirst .camera1Map))] ∧
    forwardedCamera .integerCameraId r.1 = some (.index 0) ∧
    ¬ ∃ g, (g = backFirst ∨ g = frontFirst) ∧ ∀ x ∈ r.2, x.2 = some (g x.1) := by
  intro r
  have hr : r.2 = [(.camera1Targets, some (backFirst .camera1Targets)),
      (.targets, some (backFirst .targets)), (.camera1Map, some (frontFirst .camera1Map))] := by
    decide +kernel
  refine ⟨hr, by decide +kernel, ?_⟩
  rw [hr]
  rintro ⟨g, rfl | rfl, hg⟩
  · have hmap := hg (.camera1Map, some (frontFirst .camera1Map)) (by simp)
    revert hmap
    decide
  · have ht := hg (.targets, some (backFirst .targets)) (by simp)
    revert ht
    decide

end Vcam
