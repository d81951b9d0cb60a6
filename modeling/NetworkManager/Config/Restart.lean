import NetworkManager.Config.InternRestore

/-!
# The internal configuration after a restart

What is merged after the internal configuration was written and read again is compared with what was
merged before, for each kind of group.
-/

namespace NetworkManager.Config

open GKeyFile Option

variable {strings : StringValues} {atomicSections : List Text}
  {keyfileIntern keyfileConf : GKeyFile} {group : Text}

/-- Two internal configurations have the same effect on a group of the user. -/
def SameEffect (keyfileConf : GKeyFile) (group : Text) (a b : GKeyFile) : Prop :=
  (mergeKeyfiles (some keyfileConf) (some a)).hasGroup group =
      (mergeKeyfiles (some keyfileConf) (some b)).hasGroup group ∧
    ∀ key, (mergeKeyfiles (some keyfileConf) (some a)).getValue group key =
      (mergeKeyfiles (some keyfileConf) (some b)).getValue group key

theorem getValue_eq_none_of_isMarker (user : UserConfig keyfileConf) {key : Text}
    (marker : isMarker key = true) : keyfileConf.getValue group key = none := by
  cases value_eq : keyfileConf.getValue group key with
  | none => rfl
  | some value =>
    have not_marker := user.not_marker group key (by
      rw [hasKey, value_eq, isSome_some])
    rw [marker] at not_marker
    cases not_marker

section

variable (single : SingleKeys atomicSections keyfileIntern group)

include single

theorem SingleKeys.replaces_eq :
    replaces keyfileIntern group = false := by
  rw [replaces, single.no_was, Bool.and_false]

theorem SingleKeys.setsKey_eq (key : Text) : setsKey keyfileIntern group key = !isMarker key := by
  rw [setsKey, single.not_intern, single.no_was, if_neg Bool.false_ne_true,
    if_neg Bool.false_ne_true]

omit single in
theorem getValue_mergeKeyfiles_single (user : UserConfig keyfileConf)
    (single : SingleKeys atomicSections keyfileIntern group) (key : Text) :
    (mergeKeyfiles (some keyfileConf) (some keyfileIntern)).getValue group key =
      if overwrites keyfileIntern keyfileConf group key then keyfileIntern.getValue group key
      else if hidesUserKey keyfileIntern keyfileConf group key then none
      else keyfileConf.getValue group key := by
  rw [getValue_mergeKeyfiles, mergedValue, single.setsKey_eq, single.replaces_eq, Bool.or_false]
  unfold overwrites hidesUserKey
  cases marker : isMarker key with
  | true =>
    rw [getValue_eq_none_of_isMarker user marker]
    simp
  | false =>
    cases has_key : keyfileIntern.hasKey group key with
    | true =>
      by_cases same : keyfileIntern.getValue group key = keyfileConf.getValue group key
      · simp [same, hidesKey, has_key]
      · simp [same]
    | false =>
      cases value_eq : keyfileConf.getValue group key with
      | none => simp [hasKey, value_eq]
      | some value => simp [hasKey, value_eq]

theorem hasGroup_mergeKeyfiles_single :
    (mergeKeyfiles (some keyfileConf) (some keyfileIntern)).hasGroup group = true ↔
      (∃ key, overwrites keyfileIntern keyfileConf group key = true) ∨
        ∃ key, keyfileConf.hasKey group key = true := by
  rw [hasGroup_mergeKeyfiles, single.replaces_eq]
  constructor
  · rintro (⟨key, has_key, sets⟩ | ⟨_, has_user⟩)
    · rw [single.setsKey_eq, Bool.not_eq_true'] at sets
      by_cases same : keyfileIntern.getValue group key = keyfileConf.getValue group key
      · refine .inr ⟨key, ?_⟩
        rw [hasKey, ← same]
        exact has_key
      · exact .inl ⟨key, by simp [overwrites, sets, has_key, same]⟩
    · exact .inr has_user
  · rintro (⟨key, overwriting⟩ | has_user)
    · refine .inl ⟨key, hasKey_of_overwrites overwriting, ?_⟩
      rw [single.setsKey_eq, not_marker_of_overwrites overwriting, Bool.not_false]
    · exact .inr ⟨rfl, has_user⟩

end

/-- Two groups whose keys are overwritten one by one have the same effect if they overwrite and hide
the same keys. -/
theorem SameEffect.of_single (user : UserConfig keyfileConf) {a b : GKeyFile}
    (single_a : SingleKeys atomicSections a group) (single_b : SingleKeys atomicSections b group)
    (same_over : ∀ key, overwrites a keyfileConf group key = overwrites b keyfileConf group key)
    (same_value : ∀ key, overwrites b keyfileConf group key = true →
      a.getValue group key = b.getValue group key)
    (same_hidden : ∀ key, hidesUserKey a keyfileConf group key =
      hidesUserKey b keyfileConf group key) : SameEffect keyfileConf group a b := by
  refine ⟨?_, fun key => ?_⟩
  · rw [Bool.eq_iff_iff, hasGroup_mergeKeyfiles_single single_a,
      hasGroup_mergeKeyfiles_single single_b]
    simp only [same_over]
  · rw [getValue_mergeKeyfiles_single user single_a, getValue_mergeKeyfiles_single user single_b,
      same_over, same_hidden]
    split
    · rename_i overwriting
      exact same_value key overwriting
    · rfl

theorem getValue_mergeKeyfiles_replaced (replaced : replaces keyfileIntern group = true)
    (key : Text) :
    (mergeKeyfiles (some keyfileConf) (some keyfileIntern)).getValue group key =
      if key = keyAtomicSectionWas then none else keyfileIntern.getValue group key := by
  obtain ⟨not_intern, has_was⟩ := Bool.and_eq_true_iff.mp replaced
  rw [Bool.not_eq_true'] at not_intern
  rw [getValue_mergeKeyfiles, mergedValue, replaced, Bool.or_true, if_pos rfl, setsKey, not_intern,
    if_neg Bool.false_ne_true, has_was, if_pos rfl]
  by_cases was : key = keyAtomicSectionWas
  · rw [if_neg (by simp [was]), if_pos was]
  · rw [if_neg was, decide_eq_true was, Bool.and_true, getValue_of_hasKey]

theorem hasGroup_mergeKeyfiles_replaced (replaced : replaces keyfileIntern group = true) :
    (mergeKeyfiles (some keyfileConf) (some keyfileIntern)).hasGroup group = true ↔
      ∃ key, key ≠ keyAtomicSectionWas ∧ keyfileIntern.hasKey group key = true := by
  obtain ⟨not_intern, has_was⟩ := Bool.and_eq_true_iff.mp replaced
  rw [Bool.not_eq_true'] at not_intern
  rw [hasGroup_mergeKeyfiles, replaced]
  simp [setsKey, not_intern, has_was, and_comm]

theorem SameEffect.of_replaced {a b : GKeyFile} (replaced_a : replaces a group = true)
    (replaced_b : replaces b group = true) (same : ∀ key, key ≠ keyAtomicSectionWas →
      a.getValue group key = b.getValue group key) : SameEffect keyfileConf group a b := by
  refine ⟨?_, fun key => ?_⟩
  · rw [Bool.eq_iff_iff, hasGroup_mergeKeyfiles_replaced replaced_a,
      hasGroup_mergeKeyfiles_replaced replaced_b]
    refine exists_congr fun key => and_congr_right fun not_was => ?_
    rw [hasKey, hasKey, same key not_was]
  · rw [getValue_mergeKeyfiles_replaced replaced_a, getValue_mergeKeyfiles_replaced replaced_b]
    split
    · rfl
    · rename_i not_was
      exact same key not_was

theorem SameEffect.of_no_keys {a : GKeyFile} (no_keys : ∀ key, a.getValue group key = none) :
    SameEffect keyfileConf group a .empty := by
  have no_key : ∀ key, a.hasKey group key = false := by
    intro key
    rw [hasKey, no_keys, isSome_none]
  have empty_no_key : ∀ key, GKeyFile.empty.hasKey group key = false := fun _ => rfl
  refine ⟨?_, fun key => ?_⟩
  · rw [Bool.eq_iff_iff, hasGroup_mergeKeyfiles, hasGroup_mergeKeyfiles]
    simp [replaces, no_key, empty_no_key]
  · rw [getValue_mergeKeyfiles, getValue_mergeKeyfiles]
    simp [mergedValue, replaces, hidesKey, no_key, empty_no_key]

/-- Nor is there one if a group is replaced that the user does not have, without setting a key. -/
theorem SameEffect.of_replaced_empty {a : GKeyFile} (replaced : replaces a group = true)
    (no_keys : ∀ key, key ≠ keyAtomicSectionWas → a.getValue group key = none)
    (no_user : ∀ key, keyfileConf.getValue group key = none) :
    SameEffect keyfileConf group a .empty := by
  refine ⟨?_, fun key => ?_⟩
  · rw [Bool.eq_iff_iff, hasGroup_mergeKeyfiles_replaced replaced, hasGroup_mergeKeyfiles]
    refine iff_of_false ?_ ?_
    · rintro ⟨key, not_was, has_key⟩
      rw [hasKey, no_keys key not_was] at has_key
      cases has_key
    · rintro (⟨key, has_key, _⟩ | ⟨_, key, has_user⟩)
      · cases has_key
      · rw [hasKey, no_user] at has_user
        cases has_user
  · rw [getValue_mergeKeyfiles_replaced replaced, getValue_mergeKeyfiles,
      mergedValue_of_hasGroup rfl, no_user]
    split
    · rfl
    · rename_i not_was
      exact no_keys key not_was

theorem SameEffect.symm {a b : GKeyFile} (same : SameEffect keyfileConf group a b) :
    SameEffect keyfileConf group b a := ⟨same.1.symm, fun key => (same.2 key).symm⟩

theorem SameEffect.trans {a b c : GKeyFile} (first : SameEffect keyfileConf group a b)
    (second : SameEffect keyfileConf group b c) : SameEffect keyfileConf group a c :=
  ⟨first.1.trans second.1, fun key => (first.2 key).trans (second.2 key)⟩

theorem sameEffect_readBack_single (user : UserConfig keyfileConf)
    (round_trip : ∀ string, strings.parse (strings.format string) = some string)
    (intern : InternConfig atomicSections keyfileIntern)
    (present : keyfileIntern.hasGroup group = true)
    (single : SingleKeys atomicSections keyfileIntern group) (not_config : group ≠ groupConfig) :
    SameEffect keyfileConf group
      (readBack strings atomicSections keyfileIntern keyfileConf).keyfileIntern keyfileIntern := by
  obtain ⟨values, marks⟩ :=
    getValue_readBack_single keyfileConf strings round_trip intern present single not_config
  have same_over : ∀ key, overwrites
      (readBack strings atomicSections keyfileIntern keyfileConf).keyfileIntern keyfileConf group
        key = overwrites keyfileIntern keyfileConf group key := by
    intro key
    cases marker : isMarker key with
    | true => simp [overwrites, marker]
    | false =>
      cases overwriting : overwrites keyfileIntern keyfileConf group key with
      | true =>
        have value_eq := values key marker
        rw [if_pos overwriting] at value_eq
        unfold overwrites at overwriting ⊢
        rw [hasKey, value_eq]
        exact overwriting
      | false =>
        have value_eq := values key marker
        rw [if_neg (by simp [overwriting])] at value_eq
        simp [overwrites, hasKey, value_eq]
  have no_was : (readBack strings atomicSections keyfileIntern keyfileConf).keyfileIntern.hasKey
      group keyAtomicSectionWas = false := by
    rw [hasKey, values keyAtomicSectionWas (by decide), if_neg, isSome_none]
    simp [overwrites, single.no_was]
  refine SameEffect.of_single user ⟨single.not_intern, single.not_atomic, no_was⟩ single same_over
    ?_ ?_
  · intro key overwriting
    rw [values key (not_marker_of_overwrites overwriting), if_pos overwriting]
  · intro key
    cases marker : isMarker key with
    | true => simp [hidesUserKey, marker]
    | false =>
      by_cases empty : key = []
      · simp [hidesUserKey, hidesKey, empty]
      · have mark := marks key empty
        have value_eq := values key marker
        rw [hidesUserKey, hidesKey, single.not_intern, no_was, marker, hasKey, mark]
        cases hides : hidesUserKey keyfileIntern keyfileConf group key with
        | true =>
          rw [not_overwrites_of_hidesUserKey hides, if_neg Bool.false_ne_true] at value_eq
          rw [hasKey, value_eq, hasKey_of_hidesUserKey hides]
          simp [empty]
        | false => simp

theorem InternConfig.replaces_of_isAtomic (intern : InternConfig atomicSections keyfileIntern)
    (present : keyfileIntern.hasGroup group = true)
    (atomic : isAtomic atomicSections group = true) : replaces keyfileIntern group = true := by
  have not_intern := not_intern_of_isAtomic atomic
  rw [isAtomic, not_intern, Bool.not_false, Bool.true_and] at atomic
  rw [replaces, not_intern, intern.was_iff group not_intern present, atomic]
  rfl

theorem sameEffect_readBack_atomic
    (round_trip : ∀ string, strings.parse (strings.format string) = some string)
    (intern : InternConfig atomicSections keyfileIntern)
    (present : keyfileIntern.hasGroup group = true)
    (atomic : isAtomic atomicSections group = true) (not_config : group ≠ groupConfig) :
    SameEffect keyfileConf group
      (readBack strings atomicSections keyfileIntern keyfileConf).keyfileIntern keyfileIntern := by
  have values := getValue_readBack_atomic strings keyfileIntern keyfileConf round_trip atomic
    not_config
  have not_intern := not_intern_of_isAtomic atomic
  have replaced := intern.replaces_of_isAtomic present atomic
  cases skips : skipped keyfileIntern keyfileConf group with
  | false =>
    rw [skips] at values
    refine SameEffect.of_replaced ?_ replaced ?_
    · rw [replaces, not_intern, hasKey, values, if_neg Bool.false_ne_true, if_pos rfl]
      rfl
    · intro key not_was
      rw [values, if_neg Bool.false_ne_true, if_neg not_was]
  | true =>
    rw [skips] at values
    obtain ⟨keys, keys_eq⟩ := exists_getKeys present
    rw [skipped, keys_eq, all_some, skipsSection, Bool.and_eq_true_iff,
      Bool.not_eq_true', Bool.or_eq_true_iff, decide_eq_true_iff, decide_eq_true_iff] at skips
    refine (SameEffect.of_no_keys fun key => ?_).trans
      (SameEffect.of_replaced_empty replaced ?_ ?_).symm
    · rw [values, if_pos rfl]
    · intro key not_was
      refine not_isSome_iff_eq_none.mp fun has_key => ?_
      have listed := (mem_keys_iff keys_eq).mpr has_key
      obtain rfl | rfl := skips.1
      · cases listed
      · exact not_was (List.mem_singleton.mp listed)
    · exact getValue_eq_none_of_hasGroup skips.2

theorem sameEffect_readBack_intern
    (round_trip : ∀ string, strings.parse (strings.format string) = some string)
    (intern : isIntern group = true) :
    SameEffect keyfileConf group
      (readBack strings atomicSections keyfileIntern keyfileConf).keyfileIntern keyfileIntern := by
  have values := getValue_readBack_intern strings atomicSections keyfileIntern keyfileConf
    round_trip intern
  have sets : ∀ (keyfile : GKeyFile) (key : Text), setsKey keyfile group key = true := by
    intro keyfile key
    rw [setsKey, if_pos intern]
  refine ⟨?_, fun key => ?_⟩
  · rw [Bool.eq_iff_iff, hasGroup_mergeKeyfiles, hasGroup_mergeKeyfiles]
    simp only [sets, hasKey, values, replaces, intern]
  · rw [getValue_mergeKeyfiles, getValue_mergeKeyfiles]
    simp only [mergedValue, hidesKey, sets, hasKey, values, replaces, intern]

/-- The internal configuration has something that is stored apart from atomic sections: a key of a
group that the user cannot set, or a key that overwrites one of the user or hides one. -/
def HasStored (atomicSections : List Text) (keyfileIntern keyfileConf : GKeyFile) : Prop :=
  ∃ group key, isIntern group = true ∧ keyfileIntern.hasKey group key = true ∨
    isAtomic atomicSections group = false ∧
      (overwrites keyfileIntern keyfileConf group key = true ∨
        hidesUserKey keyfileIntern keyfileConf group key = true)

/-- Whether the internal configuration survives: it sets nothing in the group about the file itself,
and has something stored apart from atomic sections, unless those have just what the user has. -/
structure Survives (atomicSections : List Text) (keyfileIntern keyfileConf : GKeyFile) : Prop where
  not_config : ∀ key, keyfileIntern.hasKey groupConfig key = true →
    setsKey keyfileIntern groupConfig key = false
  has_stored : HasStored atomicSections keyfileIntern keyfileConf ∨
    ∀ group key, keyfileIntern.hasGroup group = true → isAtomic atomicSections group = true →
      (if key = keyAtomicSectionWas then none else keyfileIntern.getValue group key) =
        keyfileConf.getValue group key

/-- The internal configuration that was written and is read again has the same effect, and need not
be written again. -/
def Restored (strings : StringValues) (atomicSections : List Text)
    (keyfileIntern keyfileConf : GKeyFile) : Prop :=
  let (keyfileRead, needsRewrite) := internConfigRead strings atomicSections
    (internConfigWrite strings atomicSections keyfileIntern keyfileConf) keyfileConf
  let before := mergeKeyfiles (some keyfileConf) (some keyfileIntern)
  let after := mergeKeyfiles (some keyfileConf) keyfileRead
  (∀ group, after.hasGroup group = before.hasGroup group) ∧
    (∀ group key, after.getValue group key = before.getValue group key) ∧ needsRewrite = false

section

variable (user : UserConfig keyfileConf)

include user

theorem hasIntern_readBack_iff
    (round_trip : ∀ string, strings.parse (strings.format string) = some string)
    (intern : InternConfig atomicSections keyfileIntern)
    (not_config : ∀ key, keyfileIntern.hasKey groupConfig key = true →
      setsKey keyfileIntern groupConfig key = false) :
    (readBack strings atomicSections keyfileIntern keyfileConf).hasIntern = true ↔
      HasStored atomicSections keyfileIntern keyfileConf := by
  rw [(readBack_flags intern round_trip).2]
  constructor
  · rintro ⟨group, key, _, has_key, carried⟩
    have present : keyfileIntern.hasGroup group = true := by
      cases present : keyfileIntern.hasGroup group with
      | true => rfl
      | false =>
        have unwritten : (internConfigWrite strings atomicSections keyfileIntern
            keyfileConf).hasGroup group = false := not_hasGroup_internConfigWrite present
        rw [not_hasKey_of_hasGroup unwritten] at has_key
        cases has_key
    obtain is_intern | atomic | single := intern.kinds present
    · rw [hasKey, getValue_internConfigWrite_intern _ _ _ _ is_intern] at has_key
      exact ⟨group, key, .inl ⟨is_intern, has_key⟩⟩
    · rw [carries, not_intern_of_isAtomic atomic, atomic] at carried
      cases carried
    · obtain ⟨set_eq, _, only_markers⟩ : WrittenKeys keyfileIntern keyfileConf group _ :=
        writtenKeys_internConfigWrite strings intern present single
      rw [hasKey] at has_key
      cases was : rest keysWas key with
      | some base =>
        obtain ⟨rfl, nonempty⟩ := rest_eq_some.mp was
        rw [carries_keysWas single nonempty] at carried
        exact ⟨group, base, .inr ⟨single.atomic, .inr carried⟩⟩
      | none =>
        cases set : rest keysSet key with
        | none =>
          rw [only_markers key (by rw [isMarker, was, set]; rfl)] at has_key
          cases has_key
        | some base =>
          obtain ⟨rfl, _⟩ := rest_eq_some.mp set
          rw [set_eq] at has_key
          split at has_key
          · rename_i overwriting
            exact ⟨group, base, .inr ⟨single.atomic, .inl overwriting⟩⟩
          · cases has_key
  · rintro ⟨group, key, ⟨is_intern, has_key⟩ | ⟨not_atomic, effect⟩⟩
    · refine ⟨group, key, intern_ne_config is_intern, ?_, ?_⟩
      · rwa [hasKey, getValue_internConfigWrite_intern _ _ _ _ is_intern]
      · rw [carries, is_intern, Bool.true_or]
    · have present : keyfileIntern.hasGroup group = true := by
        obtain overwriting | hides := effect
        · exact hasGroup_of_hasKey (hasKey_of_overwrites overwriting)
        · exact hasGroup_of_hasKey
            (hasKey_of_hidesKey (hidesKey_of_hidesUserKey hides))
      obtain is_intern | atomic | single := intern.kinds present
      · obtain overwriting | hides := effect
        · refine ⟨group, key, intern_ne_config is_intern, ?_, ?_⟩
          · rw [hasKey, getValue_internConfigWrite_intern _ _ _ _ is_intern]
            exact hasKey_of_overwrites overwriting
          · rw [carries, is_intern, Bool.true_or]
        · have hides_key := hidesKey_of_hidesUserKey hides
          rw [hidesKey, is_intern] at hides_key
          cases hides_key
      · rw [atomic] at not_atomic
        cases not_atomic
      · obtain ⟨set_eq, was_eq, _⟩ : WrittenKeys keyfileIntern keyfileConf group _ :=
          writtenKeys_internConfigWrite strings intern present single
        obtain overwriting | hides := effect
        · have nonempty := intern.named group key (hasKey_of_overwrites overwriting)
          refine ⟨group, keysSet ++ key, ?_, ?_, carries_keysSet single nonempty⟩
          · rintro rfl
            have sets := not_config key (hasKey_of_overwrites overwriting)
            rw [single.setsKey_eq, not_marker_of_overwrites overwriting] at sets
            cases sets
          · rw [hasKey, set_eq, if_pos overwriting]
            exact hasKey_of_overwrites overwriting
        · have nonempty := nonempty_of_hidesKey (hidesKey_of_hidesUserKey hides)
          have has_user := hasKey_of_hidesUserKey hides
          refine ⟨group, keysWas ++ key, ?_, ?_, (carries_keysWas single nonempty).trans hides⟩
          · rintro rfl
            rw [not_hasKey_of_hasGroup user.not_config] at has_user
            cases has_user
          · rw [hasKey, was_eq, hides, Bool.or_true, if_pos rfl]
            exact has_user

theorem sameEffect_readBack
    (round_trip : ∀ string, strings.parse (strings.format string) = some string)
    (intern : InternConfig atomicSections keyfileIntern) (not_config : group ≠ groupConfig) :
    SameEffect keyfileConf group
      (readBack strings atomicSections keyfileIntern keyfileConf).keyfileIntern keyfileIntern := by
  cases present : keyfileIntern.hasGroup group with
  | true =>
    obtain is_intern | atomic | single := intern.kinds present
    · exact sameEffect_readBack_intern round_trip is_intern
    · exact sameEffect_readBack_atomic round_trip intern present atomic not_config
    · exact sameEffect_readBack_single user round_trip intern present single not_config
  | false =>
    refine (SameEffect.of_no_keys ?_).trans
      (SameEffect.of_no_keys (getValue_eq_none_of_hasGroup present)).symm
    obtain ⟨written, _⟩ | ⟨_, read_eq⟩ :=
      get_readBack strings atomicSections keyfileIntern keyfileConf group
    · rw [not_hasGroup_internConfigWrite present] at written
      cases written
    · exact getValue_of_get_eq_none read_eq

theorem not_hasGroup_mergeKeyfiles_empty_config :
    (mergeKeyfiles (some keyfileConf) (some .empty)).hasGroup groupConfig = false := by
  refine Bool.eq_false_iff.mpr fun present => ?_
  obtain ⟨_, has_key, _⟩ | ⟨_, _, has_user⟩ := hasGroup_mergeKeyfiles.mp present
  · cases has_key
  · rw [not_hasKey_of_hasGroup user.not_config] at has_user
    cases has_user

theorem sameEffect_config_empty
    (not_config : ∀ key, keyfileIntern.hasKey groupConfig key = true →
      setsKey keyfileIntern groupConfig key = false) :
    SameEffect keyfileConf groupConfig keyfileIntern .empty := by
  have no_user := getValue_eq_none_of_hasGroup user.not_config
  refine ⟨?_, fun key => ?_⟩
  · rw [not_hasGroup_mergeKeyfiles_empty_config user]
    refine Bool.eq_false_iff.mpr fun present => ?_
    obtain ⟨key, has_key, sets⟩ | ⟨_, _, has_user⟩ := hasGroup_mergeKeyfiles.mp present
    · rw [not_config key has_key] at sets
      cases sets
    · rw [not_hasKey_of_hasGroup user.not_config] at has_user
      cases has_user
  · have empty_value : mergedValue .empty groupConfig key none = none :=
      mergedValue_of_hasGroup rfl _ _
    rw [getValue_mergeKeyfiles, getValue_mergeKeyfiles, no_user, empty_value, mergedValue, if_neg,
      ite_self]
    intro both
    obtain ⟨has_key, sets⟩ := Bool.and_eq_true_iff.mp both
    rw [not_config key has_key] at sets
    cases sets

end

theorem overwrites_empty (key : Text) : overwrites .empty keyfileConf group key = false := by
  have no_key : GKeyFile.empty.hasKey group key = false := rfl
  rw [overwrites, no_key, Bool.and_false, Bool.false_and]

theorem hidesUserKey_empty (key : Text) : hidesUserKey .empty keyfileConf group key = false := by
  have no_key : GKeyFile.empty.hasKey group (keysWas ++ key) = false := rfl
  rw [hidesUserKey, hidesKey, no_key, Bool.and_false, Bool.false_and, Bool.false_and,
    Bool.false_and]

theorem sameEffect_empty (user : UserConfig keyfileConf)
    (intern : InternConfig atomicSections keyfileIntern)
    (not_stored : ¬ HasStored atomicSections keyfileIntern keyfileConf)
    (as_user : ∀ key, keyfileIntern.hasGroup group = true →
      isAtomic atomicSections group = true →
        (if key = keyAtomicSectionWas then none else keyfileIntern.getValue group key) =
          keyfileConf.getValue group key) :
    SameEffect keyfileConf group keyfileIntern .empty := by
  cases present : keyfileIntern.hasGroup group with
  | false => exact SameEffect.of_no_keys (getValue_eq_none_of_hasGroup present)
  | true =>
    obtain is_intern | atomic | single := intern.kinds present
    · refine SameEffect.of_no_keys fun key => not_isSome_iff_eq_none.mp fun has_key => ?_
      exact not_stored ⟨group, key, .inl ⟨is_intern, has_key⟩⟩
    · have replaced := intern.replaces_of_isAtomic present atomic
      have values := fun key => as_user key present atomic
      refine ⟨?_, fun key => ?_⟩
      · rw [Bool.eq_iff_iff, hasGroup_mergeKeyfiles_replaced replaced, hasGroup_mergeKeyfiles]
        constructor
        · rintro ⟨key, not_was, has_key⟩
          refine .inr ⟨Bool.and_false _, key, ?_⟩
          rw [hasKey, ← values, if_neg not_was]
          exact has_key
        · rintro (⟨_, has_key, _⟩ | ⟨_, key, has_user⟩)
          · cases has_key
          · rw [hasKey, ← values] at has_user
            split at has_user
            · cases has_user
            · rename_i not_was
              exact ⟨key, not_was, has_user⟩
      · have empty_value : mergedValue .empty group key (keyfileConf.getValue group key) =
            keyfileConf.getValue group key := mergedValue_of_hasGroup rfl _ _
        rw [getValue_mergeKeyfiles_replaced replaced, getValue_mergeKeyfiles, empty_value, values]
    · have not_over : ∀ key, overwrites keyfileIntern keyfileConf group key = false := by
        intro key
        refine Bool.eq_false_iff.mpr fun overwriting => ?_
        exact not_stored ⟨group, key, .inr ⟨single.atomic, .inl overwriting⟩⟩
      have not_hidden : ∀ key, hidesUserKey keyfileIntern keyfileConf group key = false := by
        intro key
        refine Bool.eq_false_iff.mpr fun hides => ?_
        exact not_stored ⟨group, key, .inr ⟨single.atomic, .inr hides⟩⟩
      exact SameEffect.of_single user single ⟨single.not_intern, single.not_atomic, rfl⟩
        (fun key => (not_over key).trans (overwrites_empty key).symm)
        (fun key overwriting => by
          rw [overwrites_empty] at overwriting
          cases overwriting)
        (fun key => (not_hidden key).trans (hidesUserKey_empty key).symm)

theorem internConfigRead_eq (user : UserConfig keyfileConf)
    (no_global_dns : ∀ group, keyfileConf.hasGroup group = true →
      groupsGlobalDnsDomain.isPrefixOf group = false)
    (round_trip : ∀ string, strings.parse (strings.format string) = some string)
    (intern : InternConfig atomicSections keyfileIntern) :
    internConfigRead strings atomicSections
        (internConfigWrite strings atomicSections keyfileIntern keyfileConf) keyfileConf =
      (if (readBack strings atomicSections keyfileIntern keyfileConf).hasIntern then
          some (readBack strings atomicSections keyfileIntern keyfileConf).keyfileIntern
        else none, false) := by
  have no_global : hasGlobalDnsConfig keyfileConf = false := by
    rw [hasGlobalDnsConfig, Bool.or_eq_false_iff]
    refine ⟨?_, List.any_eq_false.mpr fun group listed => ?_⟩
    · refine Bool.eq_false_iff.mpr fun present => ?_
      exact absurd (user.not_intern _ present) (by decide)
    · rw [no_global_dns group (mem_getGroups.mp listed)]
      exact Bool.false_ne_true
  have up_to_date : (readBack strings atomicSections keyfileIntern keyfileConf).needsRewrite =
      false := (readBack_flags intern round_trip).1
  unfold internConfigRead
  dsimp only
  rw [no_global, if_neg Bool.false_ne_true]
  exact congrArg (Prod.mk _) up_to_date

theorem restored_iff_survives (user : UserConfig keyfileConf)
    (no_global_dns : ∀ group, keyfileConf.hasGroup group = true →
      groupsGlobalDnsDomain.isPrefixOf group = false)
    (round_trip : ∀ string, strings.parse (strings.format string) = some string)
    (intern : InternConfig atomicSections keyfileIntern) :
    Restored strings atomicSections keyfileIntern keyfileConf ↔
      Survives atomicSections keyfileIntern keyfileConf := by
  unfold Restored
  rw [internConfigRead_eq user no_global_dns round_trip intern]
  dsimp only
  have empty_merge : mergeKeyfiles (some keyfileConf) none =
      mergeKeyfiles (some keyfileConf) (some .empty) := rfl
  have config_unread : SameEffect keyfileConf groupConfig
      (readBack strings atomicSections keyfileIntern keyfileConf).keyfileIntern .empty :=
    SameEffect.of_no_keys (getValue_eq_none_of_hasGroup
      (not_hasGroup_readBack_config strings atomicSections keyfileIntern keyfileConf))
  constructor
  · rintro ⟨same_groups, same_values, _⟩
    have not_config : ∀ key, keyfileIntern.hasKey groupConfig key = true →
        setsKey keyfileIntern groupConfig key = false := by
      intro key has_key
      refine Bool.eq_false_iff.mpr fun sets => ?_
      have before_has : (mergeKeyfiles (some keyfileConf) (some keyfileIntern)).hasGroup
          groupConfig = true := hasGroup_mergeKeyfiles.mpr (.inl ⟨key, has_key, sets⟩)
      have empty_lacks := not_hasGroup_mergeKeyfiles_empty_config user
      rw [← same_groups] at before_has
      split at before_has
      · rw [config_unread.1, empty_lacks] at before_has
        cases before_has
      · rw [empty_merge, empty_lacks] at before_has
        cases before_has
    refine ⟨not_config, ?_⟩
    by_cases stored : HasStored atomicSections keyfileIntern keyfileConf
    · exact .inl stored
    · refine .inr fun group key present atomic => ?_
      have not_read : (readBack strings atomicSections keyfileIntern keyfileConf).hasIntern =
          false :=
        Bool.eq_false_iff.mpr fun read =>
          stored ((hasIntern_readBack_iff user round_trip intern not_config).mp read)
      have same := same_values group key
      rw [not_read, if_neg Bool.false_ne_true, empty_merge, getValue_mergeKeyfiles,
        mergedValue_of_hasGroup rfl,
        getValue_mergeKeyfiles_replaced (intern.replaces_of_isAtomic present atomic)] at same
      exact same.symm
  · rintro ⟨not_config, has_stored⟩
    cases read : (readBack strings atomicSections keyfileIntern keyfileConf).hasIntern with
    | true =>
      rw [if_pos rfl]
      have same : ∀ group, SameEffect keyfileConf group
          (readBack strings atomicSections keyfileIntern keyfileConf).keyfileIntern
            keyfileIntern := by
        intro group
        by_cases is_config : group = groupConfig
        · rw [is_config]
          exact config_unread.trans (sameEffect_config_empty user not_config).symm
        · exact sameEffect_readBack user round_trip intern is_config
      exact ⟨fun group => (same group).1, fun group => (same group).2, rfl⟩
    | false =>
      rw [if_neg Bool.false_ne_true, empty_merge]
      have not_stored : ¬ HasStored atomicSections keyfileIntern keyfileConf := by
        intro stored
        rw [(hasIntern_readBack_iff user round_trip intern not_config).mpr stored] at read
        cases read
      have as_user := has_stored.resolve_left not_stored
      have same : ∀ group, SameEffect keyfileConf group keyfileIntern .empty := fun group =>
        sameEffect_empty user intern not_stored (as_user group)
      exact ⟨fun group => (same group).1.symm, fun group key => ((same group).2 key).symm, rfl⟩

/-- Strings without escapes. -/
def exampleStrings : StringValues := ⟨id, some⟩

def exampleUserFile : ConfigFile where
  kf := GKeyFile.empty.setValue "main".toList "dns".toList "default".toList
  isBaseConfig := true

/-- Connectivity checking is the only section of the internal configuration. -/
def exampleConnectivity : GKeyFile :=
  GKeyFile.empty.setValue "connectivity".toList "enabled".toList "false".toList

/-- The internal configuration has another DNS plugin, too. -/
def exampleDns : GKeyFile :=
  exampleConnectivity.setValue "main".toList "dns".toList "none".toList

theorem internConfig_exampleConnectivity :
    InternConfig ["connectivity".toList]
      (setValues ["connectivity".toList] exampleConnectivity) := by
  refine internConfig_setValues (fun group _ has_was => ?_) (fun group key has_key => ?_)
  · obtain ⟨_, was⟩ | impossible := hasKey_setValue.mp has_was
    · exact absurd was (by decide)
    · cases impossible
  · obtain ⟨_, rfl⟩ | impossible := hasKey_setValue.mp has_key
    · decide
    · cases impossible

theorem internConfig_exampleDns :
    InternConfig ["connectivity".toList] (setValues ["connectivity".toList] exampleDns) := by
  refine internConfig_setValues (fun group _ has_was => ?_) (fun group key has_key => ?_)
  · obtain ⟨_, was⟩ | has_was := hasKey_setValue.mp has_was
    · exact absurd was (by decide)
    · obtain ⟨_, was⟩ | impossible := hasKey_setValue.mp has_was
      · exact absurd was (by decide)
      · cases impossible
  · obtain ⟨_, rfl⟩ | has_key := hasKey_setValue.mp has_key
    · decide
    · obtain ⟨_, rfl⟩ | impossible := hasKey_setValue.mp has_key
      · decide
      · cases impossible

/-- The section that is atomic is lost, as there is nothing else. -/
theorem not_restored_onlyAtomic :
    UserConfig (readConfigs exampleEnvironment [exampleUserFile]) ∧
      (∀ group ∈ (readConfigs exampleEnvironment [exampleUserFile]).getGroups,
        groupsGlobalDnsDomain.isPrefixOf group = false) ∧
      InternConfig ["connectivity".toList]
        (setValues ["connectivity".toList] exampleConnectivity) ∧
      ¬ Restored exampleStrings ["connectivity".toList]
        (setValues ["connectivity".toList] exampleConnectivity)
          (readConfigs exampleEnvironment [exampleUserFile]) := by
  refine ⟨userConfig_readConfigs _ _, by decide +kernel, internConfig_exampleConnectivity, ?_⟩
  rintro ⟨_, same_values, _⟩
  exact absurd (same_values "connectivity".toList "enabled".toList) (by decide +kernel)

theorem restored_iff_survives_dns :
    Restored exampleStrings ["connectivity".toList]
      (setValues ["connectivity".toList] exampleDns)
        (readConfigs exampleEnvironment [exampleUserFile]) := by
  have no_global_dns : ∀ group ∈ (readConfigs exampleEnvironment [exampleUserFile]).getGroups,
      groupsGlobalDnsDomain.isPrefixOf group = false := by
    decide +kernel
  have no_config : (setValues ["connectivity".toList] exampleDns).hasGroup groupConfig = false := by
    decide +kernel
  have survives : Survives ["connectivity".toList] (setValues ["connectivity".toList] exampleDns)
      (readConfigs exampleEnvironment [exampleUserFile]) := by
    refine ⟨fun key has_key => ?_, .inl ⟨"main".toList, "dns".toList, .inr ⟨by decide, .inl ?_⟩⟩⟩
    · rw [not_hasKey_of_hasGroup no_config] at has_key
      cases has_key
    · decide +kernel
  exact (restored_iff_survives (userConfig_readConfigs _ _)
    (fun group present => no_global_dns group (mem_getGroups.mpr present))
    (fun _ => rfl) internConfig_exampleDns).mpr survives

end NetworkManager.Config
