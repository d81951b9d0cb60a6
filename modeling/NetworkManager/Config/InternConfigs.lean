import NetworkManager.Config.InternFile

/-!
# Configurations of the user and internal ones

The configuration that is read from files has neither groups nor keys that are for internal use.  An
internal configuration marks exactly those of its groups that are atomic sections.
-/

namespace NetworkManager.Config

open GKeyFile List Option

variable {atomicSections : List Text} {group : Text}

structure UserConfig (keyfile : GKeyFile) : Prop where
  not_intern : ∀ group, keyfile.hasGroup group = true → isIntern group = false
  not_config : keyfile.hasGroup groupConfig = false
  not_marker : ∀ group key, keyfile.hasKey group key = true → isMarker key = false

/-- An internal configuration: it replaces those groups that are atomic sections. -/
structure InternConfig (atomicSections : List Text) (keyfile : GKeyFile) : Prop where
  was_iff : ∀ group, isIntern group = false → keyfile.hasGroup group = true →
    keyfile.hasKey group keyAtomicSectionWas = isAtomicSection atomicSections group
  named : ∀ group key, keyfile.hasKey group key = true → key ≠ []

variable {key : Text}

theorem marker_keysWas (nonempty : key ≠ []) : isMarker (keysWas ++ key) = true := by
  rw [isMarker, rest_append nonempty, isSome_some, Bool.or_true]

variable {keyfile : GKeyFile}

theorem hasGroup_setValue_iff {key value other : Text} :
    (keyfile.setValue group key value).hasGroup other = true ↔
      other = group ∨ keyfile.hasGroup other = true := by
  by_cases same : other = group
  · rw [same]
    exact iff_of_true (hasGroup_setValue ..) (.inl rfl)
  · rw [hasGroup, get_setValue_of_ne _ same, hasGroup]
    exact ⟨.inr, fun given => given.resolve_left same⟩

theorem UserConfig.setValue (user : UserConfig keyfile) (not_intern : isIntern group = false)
    (not_config : group ≠ groupConfig) (not_marker : isMarker key = false) (value : Text) :
    UserConfig (keyfile.setValue group key value) where
  not_intern other present := by
    obtain rfl | present := hasGroup_setValue_iff.mp present
    · exact not_intern
    · exact user.not_intern other present
  not_config := by
    refine Bool.eq_false_iff.mpr fun present => ?_
    obtain same | present := hasGroup_setValue_iff.mp present
    · exact not_config same.symm
    · rw [user.not_config] at present
      cases present
  not_marker other place has_key := by
    obtain ⟨_, rfl⟩ | has_key := hasKey_setValue.mp has_key
    · exact not_marker
    · exact user.not_marker other place has_key

theorem hasGroup_removeKey_eq (keyfile : GKeyFile) (group key other : Text) :
    (keyfile.removeKey group key).hasGroup other = keyfile.hasGroup other := by
  by_cases same : other = group
  · rw [same, hasGroup_removeKey]
  · rw [hasGroup, get_removeKey_of_ne _ same, hasGroup]

theorem UserConfig.removeKey (user : UserConfig keyfile) (group key : Text) :
    UserConfig (keyfile.removeKey group key) where
  not_intern other present :=
    user.not_intern other ((hasGroup_removeKey_eq keyfile group key other).symm.trans present)
  not_config := (hasGroup_removeKey_eq keyfile group key groupConfig).trans user.not_config
  not_marker other place has_key :=
    user.not_marker other place (hasKey_of_removeKey has_key)

theorem isMarker_concat (marker : isMarker key = true) (c : Char) :
    isMarker (key ++ [c]) = true := by
  rw [isMarker, Bool.or_eq_true_iff, isSome_iff_exists, isSome_iff_exists] at marker
  obtain ⟨base, base_eq⟩ | ⟨base, base_eq⟩ := marker
  · obtain ⟨rfl, _⟩ := rest_eq_some.mp base_eq
    rw [append_assoc, isMarker, rest_append (by simp), isSome_some, Bool.true_or]
  · obtain ⟨rfl, _⟩ := rest_eq_some.mp base_eq
    rw [append_assoc, marker_keysWas (by simp)]

theorem not_marker_of_isProtected (open_key : isProtected key = false) : isMarker key = false := by
  rw [isProtected, Bool.or_eq_false_iff] at open_key
  rw [isMarker, Bool.or_comm]
  exact open_key.1

theorem not_marker_of_extendedKey {key baseKey : Text} {adds : Bool}
    (open_key : isProtected key = false) (extends_key : extendedKey key = some (baseKey, adds)) :
    isMarker baseKey = false := by
  refine Bool.eq_false_iff.mpr fun marker => ?_
  have base_eq : ∃ c, key = baseKey ++ [c] := by
    unfold extendedKey at extends_key
    split at extends_key
    · split at extends_key
      · rename_i last
        obtain ⟨rfl, _⟩ := Prod.mk.inj (Option.some.inj extends_key)
        exact ⟨'+', (dropLast_append_getLast? _ last).symm⟩
      · split at extends_key
        · rename_i last
          obtain ⟨rfl, _⟩ := Prod.mk.inj (Option.some.inj extends_key)
          exact ⟨'-', (dropLast_append_getLast? _ last).symm⟩
        · cases extends_key
    · cases extends_key
  obtain ⟨c, rfl⟩ := base_eq
  have longer := isMarker_concat marker c
  rw [not_marker_of_isProtected open_key] at longer
  cases longer

theorem UserConfig.readKey (user : UserConfig keyfile) (not_intern : isIntern group = false)
    (not_config : group ≠ groupConfig) (environment : Environment) (kf : GKeyFile) (key : Text) :
    UserConfig (readKey environment kf group keyfile key) := by
  unfold Config.readKey
  split
  · exact user
  · rename_i open_key
    rw [Bool.not_eq_true] at open_key
    split
    · rename_i baseKey adds extends_key
      have not_marker := not_marker_of_extendedKey open_key extends_key
      split
      · unfold extendStringList
        dsimp only
        split <;> split
        · exact (user.setValue not_intern not_config not_marker _).setValue not_intern not_config
            not_marker _
        · exact (user.setValue not_intern not_config not_marker _).removeKey _ _
        · exact user.setValue not_intern not_config not_marker _
        · exact user.removeKey _ _
      · split
        · exact user.setValue not_intern not_config not_marker _
        · exact user
    · split
      · exact user.setValue not_intern not_config (not_marker_of_isProtected open_key) _
      · exact user

theorem userConfig_readConfigs (environment : Environment) (files : List ConfigFile) :
    UserConfig (readConfigs environment files) := by
  refine foldlRecOn files _ ?_ ?_
  · refine ⟨fun _ impossible => ?_, rfl, fun _ _ impossible => ?_⟩
    · cases impossible
    · cases impossible
  · intro keyfile user file _
    unfold readConfig
    split
    · exact user
    · refine foldlRecOn _ _ user fun keyfile user group listed => ?_
      have not_config : group ≠ groupConfig := by
        have in_groups := (sortGroups_perm _).mem_iff.mp listed
        rw [getGroups_removeGroup, mem_filter, decide_eq_true_iff] at in_groups
        exact in_groups.2
      unfold readGroup
      split
      · exact user
      · rename_i not_intern
        split
        · exact user
        · exact foldlRecOn _ _ user fun keyfile user key _ =>
            user.readKey (Bool.eq_false_iff.mpr not_intern) not_config environment _ key

theorem hasKey_foldl_mark {groups : List Text} :
    (groups.foldl (fun keyfileNew group =>
      if isAtomicSection atomicSections group then keyfileNew.setValue group keyAtomicSectionWas []
      else keyfileNew) keyfile).hasKey group key = true ↔
        (key = keyAtomicSectionWas ∧ group ∈ groups ∧
          isAtomicSection atomicSections group = true) ∨ keyfile.hasKey group key = true := by
  induction groups generalizing keyfile with
  | nil => simp
  | cons other groups ih =>
    rw [foldl_cons, ih, mem_cons]
    split
    · rename_i atomic
      rw [hasKey_setValue]
      constructor
      · rintro (⟨was, listed, section_of⟩ | ⟨rfl, was⟩ | has_key)
        · exact .inl ⟨was, .inr listed, section_of⟩
        · exact .inl ⟨was, .inl rfl, atomic⟩
        · exact .inr has_key
      · rintro (⟨was, rfl | listed, section_of⟩ | has_key)
        · exact .inr (.inl ⟨rfl, was⟩)
        · exact .inl ⟨was, listed, section_of⟩
        · exact .inr (.inr has_key)
    · rename_i not_atomic
      constructor
      · rintro (⟨was, listed, section_of⟩ | has_key)
        · exact .inl ⟨was, .inr listed, section_of⟩
        · exact .inr has_key
      · rintro (⟨was, rfl | listed, section_of⟩ | has_key)
        · exact absurd section_of not_atomic
        · exact .inl ⟨was, listed, section_of⟩
        · exact .inr has_key

theorem getGroups_foldl_mark {groups : List Text}
    (listed : ∀ group ∈ groups, group ∈ keyfile.getGroups) :
    (groups.foldl (fun keyfileNew group =>
      if isAtomicSection atomicSections group then keyfileNew.setValue group keyAtomicSectionWas []
      else keyfileNew) keyfile).getGroups = keyfile.getGroups := by
  induction groups generalizing keyfile with
  | nil => rfl
  | cons group groups ih =>
    have same : (if isAtomicSection atomicSections group then
        keyfile.setValue group keyAtomicSectionWas [] else keyfile).getGroups =
          keyfile.getGroups := by
      split
      · rw [getGroups_setValue, addGroup, if_pos (listed group (.head _))]
      · rfl
    rw [foldl_cons, ih, same]
    intro other in_groups
    rw [same]
    exact listed other (.tail _ in_groups)

/-- What `nm_config_set_values` uses is an internal configuration, if only atomic sections are
marked as such. -/
theorem internConfig_setValues {keyfileInternNew : GKeyFile}
    (marked : ∀ group, isIntern group = false →
      keyfileInternNew.hasKey group keyAtomicSectionWas = true →
        isAtomicSection atomicSections group = true)
    (named : ∀ group key, keyfileInternNew.hasKey group key = true → key ≠ []) :
    InternConfig atomicSections (setValues atomicSections keyfileInternNew) where
  was_iff group not_intern present := by
    have groups_eq : (setValues atomicSections keyfileInternNew).getGroups =
        (keyfileCopy .empty keyfileInternNew).getGroups := getGroups_foldl_mark fun _ => id
    rw [Bool.eq_iff_iff]
    refine hasKey_foldl_mark.trans ⟨?_, fun atomic => ?_⟩
    · rintro (⟨_, _, atomic⟩ | has_was)
      · exact atomic
      · rw [hasKey_keyfileCopy] at has_was
        exact marked group not_intern has_was
    · refine .inl ⟨rfl, ?_, atomic⟩
      rw [← groups_eq]
      exact mem_getGroups.mpr present
  named group key has_key := by
    obtain ⟨rfl, _⟩ | has_key := hasKey_foldl_mark.mp has_key
    · decide
    · rw [hasKey_keyfileCopy] at has_key
      exact named group key has_key

end NetworkManager.Config
