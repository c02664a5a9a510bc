import AndroidVcam.Lib.Scanf
import AndroidVcam.Controller.RuntimeConfig

/-!
# View settings

The view of a provider is a text of four numbers: rotation, scale and centre, in thousandths. The
controller checks it (`valid_view`) and writes it to a file, from which the camera HAL and the AIDL
provider read it with `fscanf`; the manager decodes the text itself.

* `openText_writeRuntimeConfig`: what the controller writes is what the others open;
* **`sameViews_iff`**: all of them mean the same, but for a comma at the end.
-/

namespace Vcam.Hal

open TextFile FileSystem Shell List Controller

/-- Rotation in degrees, the others in thousandths. -/
structure SourceView where
  rotation : ℤ
  scale : ℤ
  centerX : ℤ
  centerY : ℤ
deriving DecidableEq

def defaultView : SourceView := ⟨0, 1000, 500, 500⟩

structure RgbTransform where
  rotationDegrees : ℤ
  scale : ℤ
  centerX : ℤ
  centerY : ℤ
deriving DecidableEq

def defaultTransform : RgbTransform := ⟨0, 1000, 500, 500⟩

/-! ## The readers of the file -/

/-- `find_last_of('/')` and `substr`: the text before the last slash. -/
def directoryOf (path : Text) : Option Text :=
  if '/' ∈ path then some (path.reverse.dropWhile (· ≠ '/')).tail.reverse else none

def isRotation (rotation : ℤ) : Bool :=
  rotation == 0 || rotation == 90 || rotation == 180 || rotation == 270

/-- The numbers of an open view file, or the default ones. -/
def readView : Option Text → SourceView
  | none => defaultView
  | some text =>
    match scanf (commaInts 4) text with
    | [rotation, scale, centerX, centerY] =>
      if isRotation rotation = false ∨ scale < 100 ∨ 8000 < scale ∨ centerX < 0 ∨ 1000 < centerX ∨
          centerY < 0 ∨ 1000 < centerY then defaultView
      else ⟨rotation, scale, centerX, centerY⟩
    | _ => defaultView

/-- The two loops that bring an angle into range; each round moves it by a turn. -/
def normalizeRotation (total : ℤ) : ℤ :=
  let raised := (fun t : ℤ => if t ≤ -270 then t + 360 else t)^[total.natAbs / 360 + 1] total
  (fun t : ℤ => if 270 < t then t - 360 else t)^[raised.natAbs / 360 + 1] raised

def transformOf (view : SourceView) (sensorOrientation : ℤ) : RgbTransform :=
  ⟨normalizeRotation (view.rotation - sensorOrientation), view.scale, view.centerX, view.centerY⟩

def kFrameDurationNs : ℤ := 33333333

variable (fs : FileSystem)

/-- The duration of a frame from `source.cfg`. -/
def sourceFrameDuration (directory : Text) : ℤ :=
  match openText fs (directory ++ "/source.cfg") with
  | none => kFrameDurationNs
  | some text =>
    match scanf (commaInts 3) text with
    | [fps, _, _] => if 1 ≤ fps ∧ fps ≤ 60 then 1000000000 / fps else kFrameDurationNs
    | _ => kFrameDurationNs

/-- `loadSourceConfigurationLocked`: `sourceTransform_` and `sourceFrameDurationNs_`. -/
def loadSourceConfigurationLocked (id : ℤ) (sourcePath : Text) : RgbTransform × ℤ :=
  match directoryOf sourcePath with
  | none => (defaultTransform, kFrameDurationNs)
  | some directory =>
    let view := readView (openText fs (directory ++ "/view-" ++ decimalInt id ++ ".cfg"))
    (transformOf view (if id = 0 then 90 else 270), sourceFrameDuration fs directory)

def loadSourceTransform (framePath : Text) (cameraId : ℕ) : RgbTransform :=
  match directoryOf framePath with
  | none => defaultTransform
  | some directory =>
    let view := readView (openText fs (directory ++ "/view-" ++ decimal cameraId ++ ".cfg"))
    transformOf view (if cameraId = 0 then 90 else 270)

/-! ## The manager -/

def parseInt (s : Text) : Option ℤ :=
  let signed := takeSign s
  if !isDigits signed.2 then none
  else
    let value : ℤ := if signed.1 then -digitsValue signed.2 else digitsValue signed.2
    if -(2 ^ 31) ≤ value ∧ value < 2 ^ 31 then some value else none

/-- `SourceTransformView.Setting.decode`. A number that cannot be parsed ends it with what has been
set so far. -/
def Setting.decode (encoded : Option Text) : SourceView :=
  match encoded with
  | none => defaultView
  | some text =>
    match splitAll ',' text with
    | [f₀, f₁, f₂, f₃] =>
      match parseInt f₀ with
      | none => defaultView
      | some rotation =>
        let rotated := if isRotation rotation then { defaultView with rotation := rotation }
          else defaultView
        match parseInt f₁ with
        | none => rotated
        | some scale =>
          let scaled := { rotated with scale := max 100 (min 8000 scale) }
          match parseInt f₂ with
          | none => scaled
          | some x =>
            let moved := { scaled with centerX := max 0 (min 1000 x) }
            match parseInt f₃ with
            | none => moved
            | some y => { moved with centerY := max 0 (min 1000 y) }
    | _ => defaultView

/-! ## The file of a provider -/

/-- A view of the `meta` file gets into its own file as one line. -/
theorem openText_writeRuntimeConfig {t : FileTree.Tree} {id text : Text} {config : String × Text}
    (ht : t.content (stateFile id "meta") = some text)
    (hc : config ∈ runtimeConfig text)
    (hw : Writable t (frameFile id config.1)) :
    openText ((writeRuntimeConfig id).run noFailure t).tree.files
      (frameFile id config.1) = some (config.2 ++ ['\n']) := by
  rw [FileTree.Tree.openText_files, run_writeRuntimeConfig ht]
  have hn : ((runtimeConfig text).map Prod.fst).Nodup :=
    show configNames.Nodup by decide
  refine content_writeLines (fun other ho => ?_) hn hc hw
  exact proper_of_mem_configNames (fst_of_mem_runtimeConfig ho)

/-! ## The numbers that were checked -/

/-- The numbers in the fields of `valid_view`. -/
def checkedView (view : Text) : SourceView :=
  match commaFields view with
  | [rotation, zoom, x, y] => ⟨digitsValue rotation, digitsValue zoom, digitsValue x, digitsValue y⟩
  | _ => defaultView

/-- Everyone who reads the view gets the numbers that were checked. -/
structure SameViews (view : Text) : Prop where
  hal : ∀ (fs : FileSystem) (id : ℤ) (sourcePath directory : Text),
    directoryOf sourcePath = some directory →
    openText fs (directory ++ "/view-" ++ decimalInt id ++ ".cfg") =
      some (view ++ ['\n']) →
    (loadSourceConfigurationLocked fs id sourcePath).1 =
      transformOf (checkedView view) (if id = 0 then 90 else 270)
  aidl : ∀ (fs : FileSystem) (cameraId : ℕ) (framePath directory : Text),
    directoryOf framePath = some directory →
    openText fs (directory ++ "/view-" ++ decimal cameraId ++ ".cfg") =
      some (view ++ ['\n']) →
    loadSourceTransform fs framePath cameraId =
      transformOf (checkedView view) (if cameraId = 0 then 90 else 270)
  manager : Setting.decode (some view) = checkedView view

/-- The fields of a view and their numbers. -/
structure ViewFields (view rotation zoom x y : Text) : Prop where
  fields : commaFields view = [rotation, zoom, x, y]
  digits : ∀ field ∈ [rotation, zoom, x, y], isDigits field = true
  rotated : isRotation (digitsValue rotation) = true
  zoomed : 100 ≤ digitsValue zoom ∧ digitsValue zoom ≤ 8000
  left : digitsValue x ≤ 1000
  top : digitsValue y ≤ 1000

variable {env : Controller.Env} {view : Text}

theorem isDigits_of_validNumber {s : Text} {low high : ℤ}
    (h : validNumberBetween env s low high = true) : isDigits s = true ∧
      low ≤ env.integer s ∧ env.integer s ≤ high := by
  rw [validNumberBetween] at h
  split_ifs at h with hbad
  rw [Bool.or_eq_true, not_or, Bool.not_eq_true, Bool.not_eq_true, any_eq_false] at hbad
  rw [Bool.and_eq_true, decide_eq_true_iff, decide_eq_true_iff] at h
  refine ⟨?_, h⟩
  rw [isDigits, hbad.1, Bool.not_false, Bool.true_and, all_eq_true]
  intro c hc
  have hd : '0' ≤ c ∧ c ≤ '9' := by simpa [isDecimal] using hbad.2 c hc
  rw [Char.isDigit, Bool.and_eq_true, decide_eq_true_iff, decide_eq_true_iff]
  exact hd

theorem viewFields_of_valid (he : ∀ s, isDigits s = true → env.integer s = digitsValue s)
    (h : validView env view = true) : ∃ rotation zoom x y,
      ViewFields view rotation zoom x y := by
  rw [validView] at h
  split at h
  · rename_i rotation zoom x y hf
    rw [Bool.and_eq_true, Bool.and_eq_true, Bool.and_eq_true] at h
    obtain ⟨hr, ⟨hzo, hx⟩, hy⟩ := h
    obtain ⟨hz, hzr⟩ := isDigits_of_validNumber hzo
    obtain ⟨hxd, hxr⟩ := isDigits_of_validNumber hx
    obtain ⟨hyd, hyr⟩ := isDigits_of_validNumber hy
    rw [he _ hz] at hzr
    rw [he _ hxd] at hxr
    rw [he _ hyd] at hyr
    have hk : isDigits rotation = true ∧ isRotation (digitsValue rotation) = true := by
      have hmem : rotation ∈ ["0".toList, "90".toList, "180".toList, "270".toList] :=
        contains_iff_mem.mp hr
      simp only [mem_cons, not_mem_nil, or_false] at hmem
      rcases hmem with rfl | rfl | rfl | rfl <;> decide
    refine ⟨rotation, zoom, x, y, hf, ?_, hk.2, by omega, by omega, by omega⟩
    simp [hk.1, hz, hxd, hyd]
  · cases h

theorem lt_of_isRotation {n : ℕ} (h : isRotation n = true) : n ≤ 270 := by
  simp only [isRotation, Bool.or_eq_true, beq_iff_eq] at h
  omega

theorem parseInt_digits {s : Text} (h : isDigits s = true) (hr : digitsValue s < 2 ^ 31) :
    parseInt s = some (digitsValue s : ℤ) := by
  have hs : takeSign s = (false, s) := by
    rw [isDigits, Bool.and_eq_true, all_eq_true] at h
    unfold takeSign
    split
    · exact absurd (h.2 '-' mem_cons_self) (by decide)
    · exact absurd (h.2 '+' mem_cons_self) (by decide)
    · rfl
  rw [parseInt, hs]
  dsimp only
  rw [h, Bool.not_true, if_neg Bool.false_ne_true, if_neg Bool.false_ne_true, if_pos (by omega)]

section Fields

variable {rotation zoom x y : Text} (h : ViewFields view rotation zoom x y)

include h

/-- A view is its fields between commas, with or without a comma at the end. -/
theorem ViewFields.split :
    (splitAll ',' view = [rotation, zoom, x, y] ∧
      view = [','].intercalate [rotation, zoom, x, y]) ∨
    (splitAll ',' view = [rotation, zoom, x, y, []] ∧
      view = [','].intercalate [rotation, zoom, x, y] ++ [',']) := by
  have hj := intercalate_splitAll ',' view
  have hf := h.fields
  rw [commaFields] at hf
  split_ifs at hf with hl
  · right
    have hp : splitAll ',' view = [rotation, zoom, x, y, []] := by
      have hs := dropLast_append_getLast? [] hl
      rw [hf] at hs
      exact hs.symm
    refine ⟨hp, ?_⟩
    rw [← hj, hp]
    simp [intercalate]
  · left
    exact ⟨hf, by rw [← hj, hf]⟩

theorem ViewFields.last_ne (hv : view = [','].intercalate [rotation, zoom, x, y]) : view.getLast? ≠ some ',' := by
  have hy := h.digits y (by simp)
  rw [isDigits, Bool.and_eq_true, Bool.not_eq_true', isEmpty_eq_false_iff, all_eq_true] at hy
  have hl : view.getLast? = y.getLast? := by
    have hend : view = (rotation ++ ',' :: zoom ++ ',' :: x ++ [',']) ++ y := by
      rw [hv]
      simp [intercalate]
    rw [hend, getLast?_append_of_ne_nil _ hy.1]
  rw [hl]
  intro hc
  have hd := hy.2 ',' (mem_of_getLast? hc)
  exact absurd hd (by decide)

theorem ViewFields.checked : checkedView view =
    ⟨digitsValue rotation, digitsValue zoom, digitsValue x, digitsValue y⟩ := by
  rw [checkedView, h.fields]

/-- **`fscanf` reads the numbers that were checked**, with or without a comma at the end. -/
theorem ViewFields.readView_eq :
    readView (some (view ++ ['\n'])) = checkedView view := by
  have hr := lt_of_isRotation h.rotated
  have hz := h.zoomed
  have hl := h.left
  have htop := h.top
  have hn : ∀ field ∈ [rotation, zoom, x, y], isDigits field = true ∧
      digitsValue field < 2 ^ 31 := by
    intro field hf
    refine ⟨h.digits field hf, ?_⟩
    simp only [mem_cons, not_mem_nil, or_false] at hf
    rcases hf with rfl | rfl | rfl | rfl <;> omega
  have hs : scanf (commaInts 4) (view ++ ['\n']) =
      [(digitsValue rotation : ℤ), digitsValue zoom, digitsValue x, digitsValue y] := by
    rcases h.split with ⟨-, hv⟩ | ⟨-, hv⟩
    · rw [hv]
      exact scanf_commaInts _ hn fun c hc => by obtain rfl := Option.some.inj hc; decide
    · rw [hv, append_assoc]
      exact scanf_commaInts _ hn fun c hc => by obtain rfl := Option.some.inj hc; decide
  rw [readView, hs, h.checked]
  dsimp only
  rw [if_neg]
  rintro (ht | hra)
  · exact Bool.false_ne_true (ht.symm.trans h.rotated)
  · omega

theorem ViewFields.decode_eq (hs : splitAll ',' view = [rotation, zoom, x, y]) :
    Setting.decode (some view) = checkedView view := by
  have hro := lt_of_isRotation h.rotated
  have hz := h.zoomed
  have hl := h.left
  have htop := h.top
  have hp (field : Text) (hf : field ∈ [rotation, zoom, x, y])
      (hr : digitsValue field < 2 ^ 31) : parseInt field = some (digitsValue field : ℤ) :=
    parseInt_digits (h.digits field hf) hr
  rw [Setting.decode, hs, h.checked]
  dsimp only
  rw [hp rotation (by simp) (by omega), hp zoom (by simp) (by omega),
    hp x (by simp) (by omega), hp y (by simp) (by omega)]
  dsimp only
  rw [if_pos h.rotated, max_eq_right (by omega), min_eq_right (by omega), max_eq_right (by omega),
    min_eq_right (by omega), max_eq_right (by omega), min_eq_right (by omega)]

end Fields

/-- **A checked view means the same to everyone** unless it ends in a comma and is not the default
view, which is all that the manager makes of it. -/
theorem sameViews_iff (hexact : ∀ s, isDigits s = true → env.integer s = digitsValue s)
    (hvalid : validView env view = true) :
    SameViews view ↔ view.getLast? ≠ some ',' ∨ checkedView view = defaultView := by
  obtain ⟨rotation, zoom, x, y, h⟩ := viewFields_of_valid hexact hvalid
  have hhal : ∀ (fs : FileSystem) (id : ℤ) (sourcePath directory : Text),
      directoryOf sourcePath = some directory →
      openText fs (directory ++ "/view-" ++ decimalInt id ++ ".cfg") =
        some (view ++ ['\n']) →
      (loadSourceConfigurationLocked fs id sourcePath).1 =
        transformOf (checkedView view) (if id = 0 then 90 else 270) := by
    intro fs id sourcePath directory hd ho
    rw [loadSourceConfigurationLocked, hd]
    dsimp only
    rw [ho, h.readView_eq]
  have ha : ∀ (fs : FileSystem) (cameraId : ℕ) (framePath directory : Text),
      directoryOf framePath = some directory →
      openText fs (directory ++ "/view-" ++ decimal cameraId ++ ".cfg") =
        some (view ++ ['\n']) →
      loadSourceTransform fs framePath cameraId =
        transformOf (checkedView view) (if cameraId = 0 then 90 else 270) := by
    intro fs cameraId framePath directory hd ho
    rw [loadSourceTransform, hd]
    dsimp only
    rw [ho, h.readView_eq]
  rcases h.split with ⟨hs, hv⟩ | ⟨hs, hv⟩
  · exact iff_of_true ⟨hhal, ha, h.decode_eq hs⟩ (.inl (h.last_ne hv))
  · have hde : Setting.decode (some view) = defaultView := by rw [Setting.decode, hs]
    have hco : view.getLast? = some ',' := by rw [hv, getLast?_concat]
    constructor
    · intro hsa
      exact .inr (hsa.manager.symm.trans hde)
    · rintro (hne | hc)
      · exact absurd hco hne
      · exact ⟨hhal, ha, hde.trans hc.symm⟩

/-- A turned and magnified view. -/
theorem turnedView_same : SameViews "90,2000,500,0250" :=
  (@sameViews_iff plainEnv _ (fun _ _ => rfl) (by decide)).mpr (.inl (by decide))

/-- The same view with a comma at the end is accepted, and the manager shows the default one. -/
theorem commaView_differs : validView plainEnv "90,2000,500,0250," = true ∧
    Setting.decode (some "90,2000,500,0250,") = defaultView ∧
    checkedView "90,2000,500,0250," = ⟨90, 2000, 500, 250⟩ ∧
    ¬SameViews "90,2000,500,0250," := by
  refine ⟨by decide, by decide, by decide, fun h => ?_⟩
  exact absurd h.manager (by decide)

end Vcam.Hal
