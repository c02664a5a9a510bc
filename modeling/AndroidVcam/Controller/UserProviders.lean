import AndroidVcam.Controller.Providers
import AndroidVcam.Routing.ScopedCameraRouter

/-!
# User providers and physical cameras

`add_provider` reserves the two IDs `physical-0` and `physical-1`; the resolver takes every ID for a
physical camera whose text behind `physical-` is a number with the value 0 or 1 for `strtol`.

* **`physicalId_iff`**: the IDs that the resolver takes for physical cameras;
* `IsUserProvider`: what a route to a user provider should mean;
* **`userProvider_iff`**: the IDs of added providers for which it does.
-/

namespace Vcam

open TextFile FileTree Shell List ScopedCameraRouter RouteResolver

namespace Controller

/-! ## Numbers with the value of a slot -/

/-- Zeros, with or without a minus, or a 1 behind zeros. -/
inductive SpellsSlot : Text → Prop
  | zero (n : ℕ) : SpellsSlot (replicate (n + 1) '0')
  | minusZero (n : ℕ) : SpellsSlot ('-' :: replicate (n + 1) '0')
  | one (n : ℕ) : SpellsSlot (replicate n '0' ++ ['1'])

def NamesSlot (id : Text) : Prop := ∃ value, id = physicalStem ++ value ∧ SpellsSlot value

/-- What the resolver asks of the number behind `physical-`. -/
def readsSlot (value : Text) : Prop :=
  value ≠ [] ∧ (strtol value).2 = [] ∧ 0 ≤ (strtol value).1 ∧ (strtol value).1 ≤ 1

variable {value id : Text}

theorem readsSlot_of_spellsSlot (h : SpellsSlot value) : readsSlot value := by
  have hz (n : ℕ) : ∀ c ∈ replicate n '0', c.isDigit = true := fun c hc => by
    rw [eq_of_mem_replicate hc]
    rfl
  cases h with
  | zero n =>
    have hne : replicate (n + 1) '0' ≠ [] := cons_ne_nil _ _
    rw [readsSlot, (strtol_digits hne (hz _)).1, digitsValue_zeros]
    exact ⟨hne, rfl, by norm_num, by norm_num⟩
  | minusZero n =>
    have hne : replicate (n + 1) '0' ≠ [] := cons_ne_nil _ _
    rw [readsSlot, (strtol_digits hne (hz _)).2, digitsValue_zeros]
    exact ⟨cons_ne_nil _ _, rfl, by norm_num, by norm_num⟩
  | one n =>
    have hne : replicate n '0' ++ ['1'] ≠ [] := append_ne_nil_of_right_ne_nil _ (by decide)
    have hd : ∀ c ∈ replicate n '0' ++ ['1'], c.isDigit = true :=
      forall_mem_append.mpr ⟨hz n, forall_mem_singleton.mpr rfl⟩
    have hone : '1'.toNat - '0'.toNat = 1 := rfl
    rw [readsSlot, (strtol_digits hne hd).1, digitsValue_concat, digitsValue_zeros, hone]
    exact ⟨hne, rfl, by norm_num, by norm_num⟩

theorem spellsSlot_of_readsSlot (hs : ∀ c ∈ value, isCSpace c = false) (hp : '+' ∉ value)
    (h : readsSlot value) : SpellsSlot value := by
  obtain ⟨hne, hend, hlow, hh⟩ := h
  obtain ⟨digits, hd, hall, rfl | rfl⟩ := eq_digits_of_strtol hs hp hne hend
  · rw [(strtol_digits hd hall).1] at hlow hh
    dsimp only at hlow hh
    obtain hv | hv : digitsValue value = 0 ∨ digitsValue value = 1 := by omega
    · obtain ⟨n, hn⟩ := Nat.exists_eq_succ_of_ne_zero (mt length_eq_zero_iff.mp hd)
      rw [eq_zeros_of_digitsValue hall hv, hn]
      exact .zero n
    · obtain ⟨n, rfl⟩ := eq_one_of_digitsValue hall hv
      exact .one n
  · rw [(strtol_digits hd hall).2] at hlow hh
    dsimp only at hlow hh
    have hv : digitsValue digits = 0 := by omega
    obtain ⟨n, hn⟩ := Nat.exists_eq_succ_of_ne_zero (mt length_eq_zero_iff.mp hd)
    rw [eq_zeros_of_digitsValue hall hv, hn]
    exact .minusZero n

/-- **The IDs that the resolver takes for physical cameras.** -/
theorem physicalId_iff (hid : validId id = true) :
    physicalIdFromProvider id = -1 ↔ ¬NamesSlot id := by
  have hnot (c : Char) (hc : idCharacter c = false) : c ∉ id := notMem_of_validName hid hc
  rw [physicalIdFromProvider]
  by_cases hs : physicalStem.isPrefixOf id = true
  · obtain ⟨value, rfl⟩ := isPrefixOf_iff_prefix.mp hs
    have hnot (c : Char) (hc : idCharacter c = false) : c ∉ value := fun hm =>
      hnot c hc (mem_append_right _ hm)
    have hspa : ∀ c ∈ value, isCSpace c = false := fun c hm => by
      have ho (d : Char) (hd : idCharacter d = false) : c ≠ d := fun e => hnot d hd (e ▸ hm)
      simp [isCSpace, ho ' ' (by decide), ho '\t' (by decide), ho '\n' (by decide),
        ho '\x0b' (by decide), ho '\x0c' (by decide), ho '\r' (by decide)]
    have hn : NamesSlot (physicalStem ++ value) ↔ readsSlot value := by
      constructor
      · rintro ⟨other, heq, hsp⟩
        rw [append_cancel_left heq]
        exact readsSlot_of_spellsSlot hsp
      · intro hr
        exact ⟨value, rfl, spellsSlot_of_readsSlot hspa (hnot '+' (by decide)) hr⟩
    rw [if_pos hs, drop_left, cStr_eq_self_iff.mpr (hnot '\x00' (by decide)), hn]
    dsimp only
    split_ifs with hr
    · refine iff_of_false (fun h => ?_) (not_not.mpr hr)
      have hlow := hr.2.2.1
      omega
    · exact iff_of_true rfl hr
  · rw [if_neg hs]
    refine iff_of_true rfl fun h => hs ?_
    obtain ⟨value, rfl, -⟩ := h
    exact isPrefixOf_iff_prefix.mpr (prefix_append _ _)

/-! ## Routes to user providers -/

/-- A route to this ID is a route to a virtual camera: it is available exactly when the `enabled`
marker is there, and no request that it applies to is left with a physical camera. -/
structure IsUserProvider (id : Text) : Prop where
  physicalId : physicalIdFromProvider id = -1
  available : ∀ (fs : FileSystem) (package : Text) (camera : ℤ) (routesPath providersPath : Text),
    let selection :=
      resolveProviderForPackage fs package camera routesPath providersPath
    selection.configured = true → selection.providerId = id →
      selection.available = fs.good (enabledPath id providersPath)
  virtual : ∀ (fs : FileSystem) (package camera routesPath providersPath targetMapPath : Text),
    let route :=
      resolve fs package camera routesPath providersPath targetMapPath
    route.configured = true → route.providerId = id →
      isInternalCameraId route.effectiveCameraId = true ∧
        route.redirected = route.available

theorem isUserProvider_iff (hid : validId id = true) :
    IsUserProvider id ↔ physicalIdFromProvider id = -1 := by
  refine ⟨fun h => h.physicalId, fun hph => ⟨hph, ?_, ?_⟩⟩
  · intro fs package camera routesPath providersPath selection hc hp
    rcases resolve_cases fs package camera routesPath providersPath with
      hca | ⟨provider, kind, -, hca⟩
    · rw [show selection = _ from hca] at hc
      cases hc
    · rw [show selection = _ from hca] at hp ⊢
      obtain rfl : provider = id := hp
      change providerAvailable fs provider providersPath = _
      rw [providerAvailable, ← validId_eq_validProviderId, hid, hph]
      simp
  · intro fs package camera routesPath providersPath targetMapPath route hc hp
    simp only [route, resolve] at hc hp ⊢
    split_ifs at hc hp ⊢ with ht hca
    · have hp : (resolveProviderForPackage fs package
          (targetSlot fs camera targetMapPath) routesPath
          providersPath).providerId = id := hp
      rw [hp, hph] at hca
      omega
    · exact ⟨isInternal_internalIdForSlot _, rfl⟩

/-- **Which added providers are never taken for physical cameras.** -/
theorem userProvider_iff (id type nameB64 sourceB64 : Text) (t : Tree) (oracle : Op → Outcome)
    (h : ((addProvider id type nameB64 sourceB64).run oracle t).value.status = 0) :
    IsUserProvider id ↔ ¬NamesSlot id := by
  have hid : validId id = true := by
    by_contra hid
    rw [Bool.not_eq_true] at hid
    rw [addProvider, hid] at h
    cases h
  rw [isUserProvider_iff hid, physicalId_iff hid]

/-- `physical-00` can be added and is taken for the back camera. -/
theorem physical00_not_user :
    ((addProvider "physical-00" "image" [] []).run noFailure .empty).value =
      say "added" ∧
    physicalIdFromProvider "physical-00" = 0 ∧
    ¬IsUserProvider "physical-00" := by
  have hp : physicalIdFromProvider "physical-00" = 0 := by decide
  refine ⟨by decide +kernel, hp, fun h => ?_⟩
  have := h.physicalId
  omega

/-- `desk` is a user provider. -/
theorem desk_user : IsUserProvider "desk" :=
  (userProvider_iff "desk" "image" [] [] .empty noFailure (by decide +kernel)).mpr
    fun ⟨_, heq, _⟩ => absurd (List.cons.inj heq).1 (by decide)

end Controller

end Vcam
