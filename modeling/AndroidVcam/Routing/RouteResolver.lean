import AndroidVcam.Lib.TextFile

/-!
# The route table

`hal/src/RouteResolver.cpp`: a line of `routes.tsv` sends one package (or `*`, every package) and
one target slot to a provider. The resolver is shared by the Binder router, the OEM proxy, the
standalone camera and the AIDL provider.

* `resolve_cases`: a selection is the physical fallback or a configured provider whose
  availability is `providerAvailable`;
* `resolve_empty_package`: without a package only `*` lines apply.
-/

namespace Vcam

open TextFile

/-- Which kind of route line a selection comes from. -/
inductive RouteMatchKind
  | none
  | package
  | global
deriving DecidableEq, Repr

structure ProviderSelection where
  providerId : Text
  configured : Bool
  available : Bool
  matched : RouteMatchKind
deriving DecidableEq

namespace RouteResolver

def kDefaultRoutesPath : Text := "/data/vendor/camera/vcam/routes.tsv"

def kDefaultProvidersPath : Text := "/data/vendor/camera/vcam/providers"

def allowedIdCharacter (c : Char) : Bool :=
  (decide ('a' ≤ c) && decide (c ≤ 'z')) || (decide ('A' ≤ c) && decide (c ≤ 'Z')) ||
    (decide ('0' ≤ c) && decide (c ≤ '9')) || c == '.' || c == '_' || c == '-'

def validProviderId (value : Text) : Bool :=
  !value.isEmpty && decide (value.length ≤ 64) && value.all allowedIdCharacter

/-- The first characters of every physical provider ID. -/
def physicalStem : Text := "physical-"

def defaultPhysicalProvider (cameraId : ℤ) : Text := physicalStem ++ decimalInt cameraId

/-- The slot of a physical provider, `-1` for every other provider. -/
def physicalIdFromProvider (provider : Text) : ℤ :=
  if physicalStem.isPrefixOf provider then
    let value := cStr (provider.drop physicalStem.length)
    let parsed := strtol value
    if value ≠ [] ∧ parsed.2 = [] ∧ 0 ≤ parsed.1 ∧ parsed.1 ≤ 1 then parsed.1 else -1
  else -1

def framePath (provider providersPath : Text) : Text :=
  providersPath ++ '/' :: provider ++ "/frame.rgb"

def enabledPath (provider providersPath : Text) : Text :=
  providersPath ++ '/' :: provider ++ "/enabled"

/-- Package, target and provider of a route line; the provider is everything after the second
tab. -/
def parseRouteLine (line : Text) : Option (Text × Text × Text) :=
  (splitFirst '\t' line).bind fun p =>
    (splitFirst '\t' p.2).map fun q => (p.1, q.1, q.2)

/-- The loop of the resolver. A package line ends it; the first `*` line with a non-empty
provider is kept for the end of the table. -/
def scanRoutes (packageName target : Text) : Text → List Text → Text × RouteMatchKind
  | globalProvider, [] =>
    if globalProvider.isEmpty then ([], .none) else (globalProvider, .global)
  | globalProvider, line :: lines =>
    match parseRouteLine (popCR line) with
    | none => scanRoutes packageName target globalProvider lines
    | some (routePackage, routeTarget, provider) =>
      if routeTarget ≠ target then scanRoutes packageName target globalProvider lines
      else if packageName ≠ [] ∧ routePackage = packageName then (provider, .package)
      else if routePackage = ['*'] ∧ globalProvider = [] then
        scanRoutes packageName target provider lines
      else scanRoutes packageName target globalProvider lines

variable (fs : FileSystem)

/-- A provider named by a route can be used: its ID is well formed, and it is physical or has its
`enabled` marker. -/
def providerAvailable (provider providersPath : Text) : Bool :=
  validProviderId provider &&
    (decide (0 ≤ physicalIdFromProvider provider) || fs.good (enabledPath provider providersPath))

def selectionForProvider (providersPath provider : Text) (kind : RouteMatchKind) :
    ProviderSelection :=
  if !validProviderId provider then ⟨provider, true, false, kind⟩
  else if 0 ≤ physicalIdFromProvider provider then ⟨provider, true, true, kind⟩
  else ⟨provider, true, fs.good (enabledPath provider providersPath), kind⟩

def resolveProviderForPackage (packageName : Text) (cameraId : ℤ)
    (routesPath providersPath : Text) : ProviderSelection :=
  let fallback : ProviderSelection := ⟨defaultPhysicalProvider cameraId, false, true, .none⟩
  if fs.good (routesPath ++ ".disabled") then fallback
  else match fs.openText routesPath with
    | none => fallback
    | some content =>
      match scanRoutes packageName (decimalInt cameraId) [] (getlines content) with
      | (_, .none) => fallback
      | (provider, kind) => selectionForProvider fs providersPath provider kind

def providerForPackage (packageName : Text) (cameraId : ℤ) (routesPath providersPath : Text) :
    Text :=
  let selection := resolveProviderForPackage fs packageName cameraId routesPath providersPath
  if selection.available then selection.providerId else defaultPhysicalProvider cameraId

/-! ## Physical providers -/

theorem physicalId_default {t : ℤ} (ht : t = 0 ∨ t = 1) :
    physicalIdFromProvider (defaultPhysicalProvider t) = t := by
  rcases ht with rfl | rfl <;> decide

/-! ## Selections -/

variable {fs} {package : Text} {camera : ℤ} {routes providers : Text}

theorem selectionForProvider_eq (p : Text) (kind : RouteMatchKind) :
    selectionForProvider fs providers p kind =
      ⟨p, true, providerAvailable fs p providers, kind⟩ := by
  unfold selectionForProvider providerAvailable
  cases validProviderId p with
  | false => simp
  | true =>
    by_cases hp : 0 ≤ physicalIdFromProvider p
    · simp [hp]
    · simp [hp]

/-- **The two kinds of selection.** A lookup ends in the physical fallback or in the provider of a
route line. -/
theorem resolve_cases (fs : FileSystem) (package : Text) (camera : ℤ)
    (routes providers : Text) :
    resolveProviderForPackage fs package camera routes providers =
        ⟨defaultPhysicalProvider camera, false, true, .none⟩ ∨
      ∃ provider kind, kind ≠ .none ∧
        resolveProviderForPackage fs package camera routes providers =
          ⟨provider, true, providerAvailable fs provider providers, kind⟩ := by
  unfold resolveProviderForPackage
  dsimp only
  split
  · exact .inl rfl
  · split
    · exact .inl rfl
    · split
      · exact .inl rfl
      · rename_i provider kind hk _
        exact .inr ⟨provider, kind, hk, selectionForProvider_eq ..⟩

theorem configured_of_not_physical (hcam : camera = 0 ∨ camera = 1)
    (hp : physicalIdFromProvider (resolveProviderForPackage fs package camera routes
      providers).providerId < 0) :
    (resolveProviderForPackage fs package camera routes providers).configured =
      true := by
  rcases resolve_cases fs package camera routes providers with h | ⟨_, _, _, h⟩
  · rw [h] at hp
    change physicalIdFromProvider (defaultPhysicalProvider camera) < 0 at hp
    rw [physicalId_default hcam] at hp
    omega
  · rw [h]

theorem scanRoutes_empty_package (t : Text) (package : Text) (l : List Text) :
    (scanRoutes [] t package l).2 ≠ .package := by
  induction l generalizing package with
  | nil =>
    rw [scanRoutes]
    split_ifs <;> simp
  | cons line l ih =>
    rw [scanRoutes]
    split
    · exact ih _
    · split_ifs with _ h
      · exact ih _
      · exact absurd rfl h.1
      · exact ih _
      · exact ih _

/-- **Only `*` lines apply without a package.** -/
theorem resolve_empty_package (fs : FileSystem) (camera : ℤ) (routes providers : Text) :
    (resolveProviderForPackage fs [] camera routes providers).matched ≠ .package := by
  unfold resolveProviderForPackage
  dsimp only
  split
  · simp
  · split
    · simp
    · rename_i content _
      have hsc := scanRoutes_empty_package (decimalInt camera) [] (getlines content)
      split
      · simp
      · rename_i provider kind _ hs
        rw [selectionForProvider_eq]
        rw [hs] at hsc
        exact hsc

end RouteResolver

end Vcam
