import NetworkManager.Config.InternConfigs

/-!
# What is written of the internal configuration

A group of the internal configuration that the user cannot set is written as it is, and so is an
atomic section, with a mark that has what it replaces.  Of other groups only those keys are written
that have an effect, each with the value of the user that it overwrites or hides.
-/

namespace NetworkManager.Config

open GKeyFile List Option

def overwrites (keyfileIntern keyfileConf : GKeyFile) (group key : Text) : Bool :=
  !isMarker key && keyfileIntern.hasKey group key &&
    keyfileIntern.getValue group key ≠ keyfileConf.getValue group key

def hidesUserKey (keyfileIntern keyfileConf : GKeyFile) (group key : Text) : Bool :=
  hidesKey keyfileIntern group key && !isMarker key && keyfileConf.hasKey group key

structure SingleKeys (atomicSections : List Text) (keyfile : GKeyFile) (group : Text) : Prop where
  not_intern : isIntern group = false
  not_atomic : isAtomicSection atomicSections group = false
  no_was : keyfile.hasKey group keyAtomicSectionWas = false

variable {strings : StringValues} {atomicSections : List Text}
  {keyfileIntern keyfileConf : GKeyFile} {group : Text}

theorem SingleKeys.atomic (single : SingleKeys atomicSections keyfileIntern group) :
    isAtomic atomicSections group = false := by
  rw [isAtomic, single.not_atomic, Bool.and_false]

variable {key : Text}

theorem SingleKeys.hidesKey_iff (single : SingleKeys atomicSections keyfileIntern group) :
    hidesKey keyfileIntern group key = true ↔
      key ≠ [] ∧ keyfileIntern.hasKey group (keysWas ++ key) = true ∧
        keyfileIntern.hasKey group key = false := by
  unfold hidesKey
  simp [single.not_intern, single.no_was, and_assoc]

/-- What one turn writes: a key that overwrites one of the user, or one that hides one, or
nothing. -/
theorem writeKey_cases (single : SingleKeys atomicSections keyfileIntern group) (keyfile : GKeyFile)
    (has_key : keyfileIntern.hasKey group key = true) :
    let written := writeKey atomicSections keyfileIntern keyfileConf group keyfile key
    (overwrites keyfileIntern keyfileConf group key = true ∧
      ∃ value, keyfileIntern.getValue group key = some value ∧
        written = (match keyfileConf.getValue group key with
          | some valueWas => keyfile.setValue group (keysWas ++ key) valueWas
          | none => keyfile).setValue group (keysSet ++ key) value) ∨
      overwrites keyfileIntern keyfileConf group key = false ∧
        ((∃ hidden value, key = keysWas ++ hidden ∧
            hidesUserKey keyfileIntern keyfileConf group hidden = true ∧
              keyfileConf.getValue group hidden = some value ∧
                written = keyfile.setValue group key value) ∨
          (∀ hidden, key = keysWas ++ hidden →
              hidesUserKey keyfileIntern keyfileConf group hidden = false) ∧
            written = keyfile) := by
  intro written
  obtain ⟨value, value_eq⟩ := isSome_iff_exists.mp has_key
  have written_eq : written = writeKey atomicSections keyfileIntern keyfileConf group keyfile key :=
    rfl
  have not_was : key ≠ keyAtomicSectionWas := by
    rintro rfl
    rw [single.no_was] at has_key
    cases has_key
  unfold writeKey at written_eq
  rw [single.atomic, single.not_intern, if_neg (by simp [not_was]), value_eq] at written_eq
  dsimp only at written_eq
  rw [if_neg (by simp)] at written_eq
  cases set : (rest keysSet key).isSome with
  | true =>
    rw [set, if_pos rfl] at written_eq
    refine .inr ⟨by simp [overwrites, isMarker, set], .inr ⟨?_, written_eq⟩⟩
    rintro hidden rfl
    rw [rest_keysSet_keysWas] at set
    cases set
  | false =>
    rw [set, if_neg Bool.false_ne_true] at written_eq
    cases was : rest keysWas key with
    | some hidden =>
      rw [was] at written_eq
      obtain ⟨rfl, nonempty⟩ := rest_eq_some.mp was
      refine .inr ⟨by simp [overwrites, isMarker, was], ?_⟩
      dsimp only at written_eq
      have only_hidden : ∀ {other}, keysWas ++ hidden = keysWas ++ other → hidden = other :=
        append_cancel_left
      cases marker : isMarker hidden with
      | true =>
        rw [← isMarker, marker, if_pos rfl] at written_eq
        refine .inr ⟨?_, written_eq⟩
        intro other same
        simp [hidesUserKey, ← only_hidden same, marker]
      | false =>
        rw [← isMarker, marker, if_neg Bool.false_ne_true] at written_eq
        cases present : keyfileIntern.hasKey group hidden with
        | true =>
          rw [present, if_pos rfl] at written_eq
          refine .inr ⟨?_, written_eq⟩
          intro other same
          simp [hidesUserKey, hidesKey, ← only_hidden same, present]
        | false =>
          rw [present, if_neg Bool.false_ne_true] at written_eq
          cases user : keyfileConf.getValue group hidden with
          | none =>
            rw [user] at written_eq
            refine .inr ⟨?_, written_eq⟩
            intro other same
            simp [hidesUserKey, ← only_hidden same, hasKey, user]
          | some valueWas =>
            rw [user] at written_eq
            refine .inl ⟨hidden, valueWas, rfl, ?_, user, written_eq⟩
            have hides := single.hidesKey_iff.mpr ⟨nonempty, has_key, present⟩
            simp [hidesUserKey, hides, marker, hasKey, user]
    | none =>
      rw [was] at written_eq
      dsimp only at written_eq
      have not_marker : isMarker key = false := by simp [isMarker, was, set]
      have not_hidden : ∀ hidden, key = keysWas ++ hidden →
          hidesUserKey keyfileIntern keyfileConf group hidden = false := by
        intro hidden key_eq
        cases hides : hidesUserKey keyfileIntern keyfileConf group hidden with
        | false => rfl
        | true =>
          have hides_key : hidesKey keyfileIntern group hidden = true := by
            simp only [hidesUserKey, Bool.and_eq_true] at hides
            exact hides.1.1
          rw [key_eq, rest_append (nonempty_of_hidesKey hides_key)] at was
          cases was
      by_cases same : some value = keyfileConf.getValue group key
      · rw [if_pos same] at written_eq
        refine .inr ⟨?_, .inr ⟨not_hidden, written_eq⟩⟩
        simp [overwrites, value_eq, same]
      · rw [if_neg same] at written_eq
        refine .inl ⟨?_, value, value_eq, written_eq⟩
        simp [overwrites, not_marker, has_key, value_eq, same]

theorem hidesKey_of_hidesUserKey (hides : hidesUserKey keyfileIntern keyfileConf group key = true) :
    hidesKey keyfileIntern group key = true := by
  simp only [hidesUserKey, Bool.and_eq_true] at hides
  exact hides.1.1

theorem hasKey_of_overwrites (overwriting : overwrites keyfileIntern keyfileConf group key = true) :
    keyfileIntern.hasKey group key = true := by
  simp only [overwrites, Bool.and_eq_true] at overwriting
  exact overwriting.1.2

variable {keys : List Text}

theorem getValue_foldl_writeKey_set (single : SingleKeys atomicSections keyfileIntern group)
    (keys_eq : keyfileIntern.getKeys group = some keys) (keyfile : GKeyFile) (key : Text) :
    (keys.foldl (writeKey atomicSections keyfileIntern keyfileConf group) keyfile).getValue group
        (keysSet ++ key) =
      if overwrites keyfileIntern keyfileConf group key then keyfileIntern.getValue group key
      else keyfile.getValue group (keysSet ++ key) := by
  have turn : ∀ keyfile : GKeyFile, ∀ other ∈ keys,
      (writeKey atomicSections keyfileIntern keyfileConf group keyfile other).getValue group
          (keysSet ++ key) =
        if decide (other = key) && overwrites keyfileIntern keyfileConf group key then
          keyfileIntern.getValue group key
        else keyfile.getValue group (keysSet ++ key) := by
    intro keyfile other listed
    have not_key : overwrites keyfileIntern keyfileConf group other = false →
        (decide (other = key) && overwrites keyfileIntern keyfileConf group key) = false := by
      intro overwriting
      by_cases same : other = key
      · rw [← same, overwriting, Bool.and_false]
      · rw [decide_eq_false same, Bool.false_and]
    obtain ⟨overwriting, value, value_eq, written⟩ |
      ⟨overwriting, ⟨hidden, value, rfl, _, _, written⟩ | ⟨_, written⟩⟩ :=
      writeKey_cases single keyfile ((mem_keys_iff keys_eq).mp listed)
    · rw [written, getValue_setValue]
      by_cases same : other = key
      · rw [if_pos (by rw [same]), ← same, overwriting, decide_eq_true rfl, Bool.and_self, if_pos rfl,
          value_eq]
      · rw [if_neg fun given => same (append_cancel_left given).symm, decide_eq_false same,
          Bool.false_and, if_neg Bool.false_ne_true]
        split
        · rw [getValue_setValue, if_neg (append_keysSet_ne_keysWas _ _)]
        · rfl
    · rw [written, getValue_setValue, if_neg (append_keysSet_ne_keysWas _ _),
        not_key overwriting, if_neg Bool.false_ne_true]
    · rw [written, not_key overwriting, if_neg Bool.false_ne_true]
  refine Loop.foldl_assign_at (fun keyfile : GKeyFile => keyfile.getValue group (keysSet ++ key))
    turn (and_iff_right_of_imp fun overwriting => ?_) keyfile
  exact (mem_keys_iff keys_eq).mpr (hasKey_of_overwrites overwriting)

theorem not_marker_of_overwrites
    (overwriting : overwrites keyfileIntern keyfileConf group key = true) :
    isMarker key = false := by
  simp only [overwrites, Bool.and_eq_true, Bool.not_eq_true'] at overwriting
  exact overwriting.1.1

theorem hasKey_of_hidesUserKey (hides : hidesUserKey keyfileIntern keyfileConf group key = true) :
    keyfileConf.hasKey group key = true := by
  simp only [hidesUserKey, Bool.and_eq_true] at hides
  exact hides.2

theorem getValue_foldl_writeKey_was (single : SingleKeys atomicSections keyfileIntern group)
    (keys_eq : keyfileIntern.getKeys group = some keys) {keyfile : GKeyFile}
    (unset : keyfile.getValue group (keysWas ++ key) = none) :
    (keys.foldl (writeKey atomicSections keyfileIntern keyfileConf group) keyfile).getValue group
        (keysWas ++ key) =
      if overwrites keyfileIntern keyfileConf group key ||
        hidesUserKey keyfileIntern keyfileConf group key then keyfileConf.getValue group key
      else none := by
  let assigns (other : Text) : Bool :=
    (other = key ∧ overwrites keyfileIntern keyfileConf group key = true ∨
      other = keysWas ++ key ∧ hidesUserKey keyfileIntern keyfileConf group key = true) ∧
        keyfileConf.hasKey group key = true
  have turn : ∀ keyfile : GKeyFile, ∀ other ∈ keys,
      (writeKey atomicSections keyfileIntern keyfileConf group keyfile other).getValue group
          (keysWas ++ key) =
        if assigns other then keyfileConf.getValue group key
        else keyfile.getValue group (keysWas ++ key) := by
    intro keyfile other listed
    obtain ⟨overwriting, value, value_eq, written⟩ |
      ⟨overwriting, ⟨hidden, value, rfl, hides, user, written⟩ | ⟨not_hidden, written⟩⟩ :=
      writeKey_cases single keyfile ((mem_keys_iff keys_eq).mp listed)
    · rw [written, getValue_setValue, if_neg fun same =>
        append_keysSet_ne_keysWas _ _ same.symm]
      by_cases same : other = key
      · obtain rfl := same
        cases user : keyfileConf.getValue group other with
        | none =>
          rw [if_neg]
          simp [assigns, hasKey, user]
        | some valueWas =>
          dsimp only
          rw [getValue_setValue, if_pos rfl, if_pos]
          simp [assigns, hasKey, user, overwriting]
      · have kept : ¬ assigns other = true := by
          simp only [assigns, decide_eq_true_iff]
          rintro ⟨⟨is_key, _⟩ | ⟨rfl, hides⟩, _⟩
          · exact same is_key
          · have marker := marker_keysWas (nonempty_of_hidesKey (hidesKey_of_hidesUserKey hides))
            rw [not_marker_of_overwrites overwriting] at marker
            cases marker
        rw [if_neg kept]
        split
        · rw [getValue_setValue, if_neg fun given =>
            same (append_cancel_left given).symm]
        · rfl
    · rw [written, getValue_setValue]
      by_cases same : hidden = key
      · obtain rfl := same
        rw [if_pos rfl, if_pos, user]
        simp [assigns, hasKey, user, hides]
      · rw [if_neg fun given => same (append_cancel_left given).symm, if_neg]
        simp only [assigns, decide_eq_true_iff]
        rintro ⟨⟨rfl, over_key⟩ | ⟨given, _⟩, _⟩
        · rw [overwriting] at over_key
          cases over_key
        · exact same (append_cancel_left given)
    · rw [written, if_neg]
      simp only [assigns, decide_eq_true_iff]
      rintro ⟨⟨rfl, over_key⟩ | ⟨key_eq, hides⟩, _⟩
      · rw [overwriting] at over_key
        cases over_key
      · rw [not_hidden key key_eq] at hides
        cases hides
  rw [Loop.foldl_assign (fun keyfile : GKeyFile => keyfile.getValue group (keysWas ++ key)) turn,
    unset]
  cases user : keyfileConf.getValue group key with
  | none => rw [ite_self, ite_self]
  | some valueWas =>
    have has_user : keyfileConf.hasKey group key = true := by
      rw [hasKey, user, isSome_some]
    congr 1
    rw [eq_iff_iff, List.any_eq_true, Bool.or_eq_true_iff]
    simp only [assigns, decide_eq_true_iff]
    constructor
    · rintro ⟨other, _, ⟨_, overwriting⟩ | ⟨_, hides⟩, _⟩
      · exact .inl overwriting
      · exact .inr hides
    · rintro (overwriting | hides)
      · exact ⟨key, (mem_keys_iff keys_eq).mpr (hasKey_of_overwrites overwriting),
          .inl ⟨rfl, overwriting⟩, has_user⟩
      · exact ⟨keysWas ++ key, (mem_keys_iff keys_eq).mpr
          (hasKey_of_hidesKey (hidesKey_of_hidesUserKey hides)), .inr ⟨rfl, hides⟩, has_user⟩

theorem getValue_foldl_writeKey_other (single : SingleKeys atomicSections keyfileIntern group)
    (keys_eq : keyfileIntern.getKeys group = some keys) (named : [] ∉ keys) (keyfile : GKeyFile)
    (not_marker : isMarker key = false) :
    (keys.foldl (writeKey atomicSections keyfileIntern keyfileConf group) keyfile).getValue group
        key = keyfile.getValue group key := by
  refine Loop.foldl_unchanged (fun keyfile : GKeyFile => keyfile.getValue group key) ?_ keyfile
  intro keyfile other listed
  have nonempty : other ≠ [] := fun empty => named (empty ▸ listed)
  have ne_set : key ≠ keysSet ++ other := by
    rintro rfl
    rw [isMarker, rest_append nonempty] at not_marker
    cases not_marker
  have ne_was : key ≠ keysWas ++ other := by
    rintro rfl
    rw [marker_keysWas nonempty] at not_marker
    cases not_marker
  obtain ⟨_, value, _, written⟩ | ⟨_, ⟨hidden, value, rfl, hides, _, written⟩ | ⟨_, written⟩⟩ :=
    writeKey_cases single keyfile ((mem_keys_iff keys_eq).mp listed)
  · rw [written, getValue_setValue, if_neg ne_set]
    split
    · rw [getValue_setValue, if_neg ne_was]
    · rfl
  · rw [written, getValue_setValue, if_neg]
    rintro rfl
    rw [marker_keysWas (nonempty_of_hidesKey (hidesKey_of_hidesUserKey hides))] at not_marker
    cases not_marker
  · rw [written]

theorem not_intern_of_isAtomic (atomic : isAtomic atomicSections group = true) :
    isIntern group = false := by
  rw [isAtomic, Bool.and_eq_true_iff, Bool.not_eq_true'] at atomic
  exact atomic.1

theorem get_writeKey_of_ne (keyfile : GKeyFile) {other : Text} (ne : other ≠ group) (key : Text) :
    (writeKey atomicSections keyfileIntern keyfileConf group keyfile key).groups.get other =
      keyfile.groups.get other := by
  unfold writeKey
  split
  · rfl
  · split
    · rfl
    · split
      · exact get_setValue_of_ne _ ne _ _
      · split
        · rfl
        · split
          · split
            · rfl
            · split
              · rfl
              · split
                · exact get_setValue_of_ne _ ne _ _
                · rfl
          · dsimp only
            split
            · rfl
            · rw [get_setValue_of_ne _ ne]
              split
              · exact get_setValue_of_ne _ ne _ _
              · rfl

theorem get_foldl_writeKey_of_ne (keys : List Text) (keyfile : GKeyFile) {other : Text}
    (ne : other ≠ group) :
    (keys.foldl (writeKey atomicSections keyfileIntern keyfileConf group)
      keyfile).groups.get other = keyfile.groups.get other :=
  Loop.foldl_unchanged (fun keyfile : GKeyFile => keyfile.groups.get other)
    (fun keyfile key _ => get_writeKey_of_ne keyfile ne key) keyfile

theorem get_writeGroup_of_ne (keyfile : GKeyFile) {group other : Text} (ne : other ≠ group) :
    (writeGroup strings atomicSections keyfileIntern keyfileConf keyfile group).groups.get other =
      keyfile.groups.get other := by
  unfold writeGroup
  split
  · rfl
  · split
    · rfl
    · rw [get_foldl_writeKey_of_ne _ _ ne]
      split
      · exact get_setValue_of_ne _ ne _ _
      · rfl

theorem get_internConfigWrite (strings : StringValues) (atomicSections : List Text)
    (keyfileConf : GKeyFile) (present : keyfileIntern.hasGroup group = true) :
    ∃ before : GKeyFile, before.groups.get group = none ∧
      (internConfigWrite strings atomicSections keyfileIntern keyfileConf).groups.get group =
        (writeGroup strings atomicSections keyfileIntern keyfileConf before group).groups.get
          group := by
  have sorted := InPlaceSort.sort_perm
    (fun a b => internConfigWriteSortFcn atomicSections a.1 b.1) keyfileIntern.getGroups
  exact Loop.foldl_component (fun keyfile : GKeyFile => keyfile.groups.get)
    (fun keyfile group other ne => get_writeGroup_of_ne keyfile ne)
    (sorted.nodup_iff.mpr keyfileIntern.nodup_getGroups)
    (sorted.mem_iff.mpr (mem_getGroups.mpr present)) .empty

theorem not_hasGroup_internConfigWrite (absent : keyfileIntern.hasGroup group = false) :
    (internConfigWrite strings atomicSections keyfileIntern keyfileConf).hasGroup group =
      false := by
  have sorted := InPlaceSort.sort_perm
    (fun a b => internConfigWriteSortFcn atomicSections a.1 b.1) keyfileIntern.getGroups
  have unchanged : (internConfigWrite strings atomicSections keyfileIntern keyfileConf).groups.get
      group = GKeyFile.empty.groups.get group :=
    Loop.foldl_unchanged (fun keyfile : GKeyFile => keyfile.groups.get group)
      (fun keyfile other listed => get_writeGroup_of_ne keyfile fun same =>
        not_hasGroup_iff.mpr absent (same ▸ sorted.mem_iff.mp listed)) .empty
  exact hasGroup_congr unchanged

structure WrittenKeys (keyfileIntern keyfileConf : GKeyFile) (group : Text) (keyfile : GKeyFile) :
    Prop where
  set_eq : ∀ key, keyfile.getValue group (keysSet ++ key) =
    if overwrites keyfileIntern keyfileConf group key then keyfileIntern.getValue group key
    else none
  was_eq : ∀ key, keyfile.getValue group (keysWas ++ key) =
    if overwrites keyfileIntern keyfileConf group key ||
      hidesUserKey keyfileIntern keyfileConf group key then keyfileConf.getValue group key else none
  only_markers : ∀ key, isMarker key = false → keyfile.getValue group key = none

theorem writtenKeys_internConfigWrite (strings : StringValues)
    (intern : InternConfig atomicSections keyfileIntern)
    (present : keyfileIntern.hasGroup group = true)
    (single : SingleKeys atomicSections keyfileIntern group) :
    WrittenKeys keyfileIntern keyfileConf group
      (internConfigWrite strings atomicSections keyfileIntern keyfileConf) := by
  obtain ⟨before, before_eq, written_eq⟩ :=
    get_internConfigWrite strings atomicSections keyfileConf present
  obtain ⟨keys, keys_eq⟩ := exists_getKeys present
  have unset := getValue_of_get_eq_none before_eq
  have group_eq : writeGroup strings atomicSections keyfileIntern keyfileConf before group =
      keys.foldl (writeKey atomicSections keyfileIntern keyfileConf group) before := by
    unfold writeGroup
    rw [keys_eq]
    dsimp only
    rw [single.atomic, Bool.false_and, if_neg Bool.false_ne_true, if_neg Bool.false_ne_true]
  have named : [] ∉ keys := fun listed =>
    intern.named group [] ((mem_keys_iff keys_eq).mp listed) rfl
  rw [group_eq] at written_eq
  refine ⟨fun key => ?_, fun key => ?_, fun key not_marker => ?_⟩
  · rw [getValue_congr written_eq, getValue_foldl_writeKey_set single keys_eq, unset]
  · rw [getValue_congr written_eq, getValue_foldl_writeKey_was single keys_eq (unset _)]
  · rw [getValue_congr written_eq,
      getValue_foldl_writeKey_other single keys_eq named before not_marker, unset]

theorem getValue_of_hasKey (keyfile : GKeyFile) (group key : Text) :
    (if keyfile.hasKey group key then keyfile.getValue group key else none) =
      keyfile.getValue group key := by
  split
  · rfl
  · rename_i absent
    exact (not_isSome_iff_eq_none.mp absent).symm

theorem getValue_foldl_writeKey_whole
    (whole : (isIntern group || isAtomic atomicSections group) = true)
    (keys_eq : keyfileIntern.getKeys group = some keys) (keyfile : GKeyFile) (place : Text) :
    (keys.foldl (writeKey atomicSections keyfileIntern keyfileConf group) keyfile).getValue group
        place =
      if keyfileIntern.hasKey group place && (isIntern group || place ≠ keyAtomicSectionWas) then
        keyfileIntern.getValue group place
      else keyfile.getValue group place := by
  have turn : ∀ keyfile : GKeyFile, ∀ key ∈ keys,
      (writeKey atomicSections keyfileIntern keyfileConf group keyfile key).getValue group place =
        if decide (key = place) && (isIntern group || place ≠ keyAtomicSectionWas) then
          keyfileIntern.getValue group place
        else keyfile.getValue group place := by
    intro keyfile key listed
    obtain ⟨value, value_eq⟩ := isSome_iff_exists.mp (isSome_getValue keys_eq listed)
    unfold writeKey
    rw [value_eq, whole]
    dsimp only
    rw [if_pos rfl]
    by_cases same : key = place
    · obtain rfl := same
      rw [value_eq]
      cases isIntern group with
      | true => rw [if_neg (by simp), getValue_setValue, if_pos rfl, if_pos (by simp)]
      | false =>
        by_cases was : key = keyAtomicSectionWas
        · rw [if_pos (by simp [was]), if_neg (by simp [was])]
        · rw [if_neg (by simp [was]), getValue_setValue, if_pos rfl, if_pos (by simp [was])]
    · rw [decide_eq_false same, Bool.false_and, if_neg Bool.false_ne_true]
      split
      · rfl
      · rw [getValue_setValue, if_neg fun given => same given.symm]
  refine Loop.foldl_assign_at (fun keyfile : GKeyFile => keyfile.getValue group place) turn ?_
    keyfile
  rw [mem_keys_iff keys_eq, Bool.and_eq_true_iff]

theorem getValue_internConfigWrite_intern (strings : StringValues) (atomicSections : List Text)
    (keyfileIntern keyfileConf : GKeyFile) (intern : isIntern group = true) (key : Text) :
    (internConfigWrite strings atomicSections keyfileIntern keyfileConf).getValue group key =
      keyfileIntern.getValue group key := by
  cases present : keyfileIntern.hasGroup group with
  | false =>
    rw [getValue_eq_none_of_hasGroup (not_hasGroup_internConfigWrite present),
      getValue_eq_none_of_hasGroup present]
  | true =>
    obtain ⟨before, before_eq, written_eq⟩ :=
      get_internConfigWrite strings atomicSections keyfileConf present
    obtain ⟨keys, keys_eq⟩ := exists_getKeys present
    have not_atomic : isAtomic atomicSections group = false := by
      rw [isAtomic, intern, Bool.not_true, Bool.false_and]
    have group_eq : writeGroup strings atomicSections keyfileIntern keyfileConf before group =
        keys.foldl (writeKey atomicSections keyfileIntern keyfileConf group) before := by
      unfold writeGroup
      rw [keys_eq]
      dsimp only
      rw [not_atomic, Bool.false_and, if_neg Bool.false_ne_true, if_neg Bool.false_ne_true]
    rw [group_eq] at written_eq
    rw [getValue_congr written_eq, getValue_foldl_writeKey_whole (by rw [intern, Bool.true_or])
      keys_eq, intern, Bool.true_or, Bool.and_true, getValue_of_get_eq_none before_eq,
      getValue_of_hasKey]

/-- Whether an atomic section is not written, as it neither has keys nor replaces a group. -/
def skipped (keyfileIntern keyfileConf : GKeyFile) (group : Text) : Bool :=
  (keyfileIntern.getKeys group).all fun keys => skipsSection keyfileConf group keys

theorem getValue_internConfigWrite_atomic (strings : StringValues) {atomicSections : List Text}
    (keyfileIntern keyfileConf : GKeyFile) (atomic : isAtomic atomicSections group = true)
    (key : Text) :
    (internConfigWrite strings atomicSections keyfileIntern keyfileConf).getValue group key =
      if skipped keyfileIntern keyfileConf group then none
      else if key = keyAtomicSectionWas then
        some (strings.format (keyfileSerializeSection keyfileConf group))
      else keyfileIntern.getValue group key := by
  unfold skipped
  cases present : keyfileIntern.hasGroup group with
  | false =>
    rw [getValue_eq_none_of_hasGroup (not_hasGroup_internConfigWrite present),
      getKeys_eq_none.mpr present, all_none, if_pos rfl]
  | true =>
    obtain ⟨before, before_eq, written_eq⟩ :=
      get_internConfigWrite strings atomicSections keyfileConf present
    obtain ⟨keys, keys_eq⟩ := exists_getKeys present
    have unset := getValue_of_get_eq_none before_eq
    have not_intern := not_intern_of_isAtomic atomic
    rw [getValue_congr written_eq, keys_eq, all_some]
    unfold writeGroup
    rw [keys_eq]
    dsimp only
    rw [atomic, Bool.true_and, if_pos rfl]
    cases skipsSection keyfileConf group keys with
    | true => rw [if_pos rfl, if_pos rfl, unset]
    | false =>
      rw [if_neg Bool.false_ne_true, if_neg Bool.false_ne_true,
        getValue_foldl_writeKey_whole (by rw [atomic, Bool.or_true]) keys_eq, not_intern,
        Bool.false_or, StringValues.setString, getValue_setValue, unset]
      by_cases was : key = keyAtomicSectionWas
      · rw [if_neg (by simp [was]), if_pos was, if_pos was]
      · rw [if_neg was, if_neg was, decide_eq_true was, Bool.and_true, getValue_of_hasKey]

theorem not_skipped_of_hasGroup {strings : StringValues} {atomicSections : List Text}
    {keyfileIntern keyfileConf : GKeyFile} (atomic : isAtomic atomicSections group = true)
    (written : (internConfigWrite strings atomicSections keyfileIntern keyfileConf).hasGroup group =
      true) : skipped keyfileIntern keyfileConf group = false := by
  unfold skipped
  cases present : keyfileIntern.hasGroup group with
  | false =>
    rw [not_hasGroup_internConfigWrite present] at written
    cases written
  | true =>
    obtain ⟨before, before_eq, written_eq⟩ :=
      get_internConfigWrite strings atomicSections keyfileConf present
    obtain ⟨keys, keys_eq⟩ := exists_getKeys present
    rw [keys_eq, all_some]
    cases skips : skipsSection keyfileConf group keys with
    | false => rfl
    | true =>
      have group_eq : writeGroup strings atomicSections keyfileIntern keyfileConf before group =
          before := by
        unfold writeGroup
        rw [keys_eq]
        dsimp only
        rw [atomic, skips, Bool.and_self, if_pos rfl]
      rw [hasGroup, written_eq, group_eq, before_eq] at written
      cases written

end NetworkManager.Config
