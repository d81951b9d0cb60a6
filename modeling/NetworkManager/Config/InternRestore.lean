import NetworkManager.Config.InternWritten

/-!
# Restoring the internal configuration

The internal configuration that is read from its file has the same effect as the one that was
written, group by group, and the file is not written again.  But the reader only takes it if it has
something apart from atomic sections.  This file finds when the whole is restored.
-/

namespace NetworkManager.Config

open GKeyFile Option

variable {strings : StringValues} {atomicSections : List Text}
  {keyfileIntern keyfileConf : GKeyFile} {group : Text} {key : Text} {keyfile : GKeyFile}

theorem not_overwrites_of_hidesUserKey
    (hides : hidesUserKey keyfileIntern keyfileConf group key = true) :
    overwrites keyfileIntern keyfileConf group key = false := by
  rw [overwrites, not_hasKey_of_hidesKey (hidesKey_of_hidesUserKey hides), Bool.and_false,
    Bool.false_and]

/-- What one turn reads of what was written: a key that overwrites one of the user, or one that
hides one, or nothing. -/
theorem internReadKey_cases (single : SingleKeys atomicSections keyfileIntern group)
    (written : WrittenKeys keyfileIntern keyfileConf group keyfile) (read : InternRead)
    (has_key : keyfile.hasKey group key = true) :
    let next := internReadKey atomicSections keyfile keyfileConf group read key
    (∃ base value, key = keysSet ++ base ∧ base ≠ [] ∧
      overwrites keyfileIntern keyfileConf group base = true ∧
        keyfileIntern.getValue group base = some value ∧ next = read.setValue group base value) ∨
      (∃ base, key = keysWas ++ base ∧ base ≠ [] ∧
        hidesUserKey keyfileIntern keyfileConf group base = true ∧
          next = read.setValue group key []) ∨
        ∃ base, key = keysWas ++ base ∧ base ≠ [] ∧
          hidesUserKey keyfileIntern keyfileConf group base = false ∧ next = read := by
  intro next
  obtain ⟨value, value_eq⟩ := isSome_iff_exists.mp has_key
  have next_eq : next = internReadKey atomicSections keyfile keyfileConf group read key := rfl
  unfold internReadKey at next_eq
  rw [value_eq] at next_eq
  dsimp only at next_eq
  rw [single.not_intern, single.atomic, if_neg Bool.false_ne_true, if_neg Bool.false_ne_true]
    at next_eq
  cases set : rest keysSet key with
  | some base =>
    obtain ⟨rfl, nonempty⟩ := rest_eq_some.mp set
    rw [set] at next_eq
    dsimp only at next_eq
    rw [written.set_eq] at value_eq
    split at value_eq
    · rename_i overwriting
      rw [written.was_eq, overwriting, Bool.true_or, if_pos rfl, if_neg fun ne => ne rfl] at next_eq
      exact .inl ⟨base, value, rfl, nonempty, overwriting, value_eq, next_eq⟩
    · cases value_eq
  | none =>
    rw [set] at next_eq
    dsimp only at next_eq
    cases was : rest keysWas key with
    | none =>
      have not_marker : isMarker key = false := by
        rw [isMarker, set, was, isSome_none, Bool.or_self]
      rw [written.only_markers key not_marker] at value_eq
      cases value_eq
    | some base =>
      obtain ⟨rfl, nonempty⟩ := rest_eq_some.mp was
      rw [was] at next_eq
      dsimp only at next_eq
      have has_set : keyfile.hasKey group (keysSet ++ base) =
          overwrites keyfileIntern keyfileConf group base := by
        rw [hasKey, written.set_eq]
        split
        · rename_i overwriting
          rw [overwriting]
          exact hasKey_of_overwrites overwriting
        · rename_i not_over
          rw [Bool.not_eq_true _ |>.mp not_over, isSome_none]
      cases hides : hidesUserKey keyfileIntern keyfileConf group base with
      | true =>
        rw [written.was_eq, hides, Bool.or_true, if_pos rfl] at value_eq
        rw [has_set, not_overwrites_of_hidesUserKey hides, if_neg Bool.false_ne_true,
          value_eq, if_neg fun ne => ne rfl] at next_eq
        exact .inr (.inl ⟨base, rfl, nonempty, hides, next_eq⟩)
      | false =>
        rw [written.was_eq, hides, Bool.or_false] at value_eq
        split at value_eq
        · rename_i overwriting
          rw [has_set, overwriting, if_pos rfl] at next_eq
          exact .inr (.inr ⟨base, rfl, nonempty, hides, next_eq⟩)
        · cases value_eq

variable {keys : List Text}

theorem getValue_foldl_internReadKey (single : SingleKeys atomicSections keyfileIntern group)
    (written : WrittenKeys keyfileIntern keyfileConf group keyfile)
    (keys_eq : keyfile.getKeys group = some keys) (read : InternRead)
    (not_marker : isMarker key = false) :
    (keys.foldl (internReadKey atomicSections keyfile keyfileConf group)
        read).keyfileIntern.getValue group key =
      if overwrites keyfileIntern keyfileConf group key then keyfileIntern.getValue group key
      else read.keyfileIntern.getValue group key := by
  have turn : ∀ read : InternRead, ∀ other ∈ keys,
      (internReadKey atomicSections keyfile keyfileConf group read other).keyfileIntern.getValue
          group key =
        if decide (other = keysSet ++ key) && overwrites keyfileIntern keyfileConf group key then
          keyfileIntern.getValue group key
        else read.keyfileIntern.getValue group key := by
    intro read other listed
    have no_was : ∀ {base}, (decide (keysWas ++ base = keysSet ++ key) &&
        overwrites keyfileIntern keyfileConf group key) = false := by
      intro base
      rw [decide_eq_false fun same => append_keysSet_ne_keysWas _ _ same.symm, Bool.false_and]
    obtain ⟨base, value, rfl, _, overwriting, value_eq, next_eq⟩ | ⟨base, rfl, nonempty, _, next_eq⟩ |
      ⟨base, rfl, _, _, next_eq⟩ := internReadKey_cases single written read
        ((mem_keys_iff keys_eq).mp listed)
    · rw [next_eq]
      show (read.keyfileIntern.setValue group base value).getValue group key = _
      rw [getValue_setValue]
      by_cases same : key = base
      · rw [if_pos same, same, decide_eq_true rfl, overwriting, Bool.and_self, if_pos rfl, value_eq]
      · rw [if_neg same, decide_eq_false fun given => same (List.append_cancel_left given).symm,
          Bool.false_and, if_neg Bool.false_ne_true]
    · rw [next_eq, no_was, if_neg Bool.false_ne_true]
      show (read.keyfileIntern.setValue group (keysWas ++ base) []).getValue group key = _
      rw [getValue_setValue, if_neg]
      rintro rfl
      rw [marker_keysWas nonempty] at not_marker
      cases not_marker
    · rw [next_eq, no_was, if_neg Bool.false_ne_true]
  refine Loop.foldl_assign_at (fun read : InternRead => read.keyfileIntern.getValue group key) turn
    (and_iff_right_of_imp fun overwriting => ?_) read
  rw [mem_keys_iff keys_eq, hasKey, written.set_eq, if_pos overwriting]
  exact hasKey_of_overwrites overwriting

theorem getValue_foldl_internReadKey_was (single : SingleKeys atomicSections keyfileIntern group)
    (written : WrittenKeys keyfileIntern keyfileConf group keyfile)
    (keys_eq : keyfile.getKeys group = some keys) (read : InternRead) (nonempty : key ≠ []) :
    (keys.foldl (internReadKey atomicSections keyfile keyfileConf group)
        read).keyfileIntern.getValue group (keysWas ++ key) =
      if hidesUserKey keyfileIntern keyfileConf group key then some []
      else read.keyfileIntern.getValue group (keysWas ++ key) := by
  have turn : ∀ read : InternRead, ∀ other ∈ keys,
      (internReadKey atomicSections keyfile keyfileConf group read other).keyfileIntern.getValue
          group (keysWas ++ key) =
        if decide (other = keysWas ++ key) && hidesUserKey keyfileIntern keyfileConf group key then
          some []
        else read.keyfileIntern.getValue group (keysWas ++ key) := by
    intro read other listed
    obtain ⟨base, value, rfl, _, overwriting, value_eq, next_eq⟩ | ⟨base, rfl, _, hides, next_eq⟩ |
      ⟨base, rfl, _, shows, next_eq⟩ := internReadKey_cases single written read
        ((mem_keys_iff keys_eq).mp listed)
    · rw [next_eq, decide_eq_false (append_keysSet_ne_keysWas _ _), Bool.false_and,
        if_neg Bool.false_ne_true]
      show (read.keyfileIntern.setValue group base value).getValue group (keysWas ++ key) = _
      rw [getValue_setValue, if_neg]
      rintro rfl
      have marker := not_marker_of_overwrites overwriting
      rw [marker_keysWas nonempty] at marker
      cases marker
    · rw [next_eq]
      show (read.keyfileIntern.setValue group (keysWas ++ base) []).getValue group _ = _
      rw [getValue_setValue]
      by_cases same : key = base
      · rw [if_pos (by rw [same]), same, decide_eq_true rfl, hides, Bool.and_self, if_pos rfl]
      · rw [if_neg fun given => same (List.append_cancel_left given),
          decide_eq_false fun given => same (List.append_cancel_left given).symm,
          Bool.false_and, if_neg Bool.false_ne_true]
    · rw [next_eq, if_neg]
      rw [Bool.and_eq_true_iff, decide_eq_true_iff]
      rintro ⟨same, hides⟩
      rw [List.append_cancel_left same, hides] at shows
      cases shows
  refine Loop.foldl_assign_at (fun read : InternRead => read.keyfileIntern.getValue group
    (keysWas ++ key)) turn (and_iff_right_of_imp fun hides => ?_) read
  rw [mem_keys_iff keys_eq, hasKey, written.was_eq, hides, Bool.or_true, if_pos rfl]
  exact hasKey_of_hidesUserKey hides

/-- Whether a key in the file makes the internal configuration worth having. -/
def carries (atomicSections : List Text) (keyfileIntern keyfileConf : GKeyFile) (group key : Text) :
    Bool :=
  isIntern group || !isAtomic atomicSections group &&
    match rest keysWas key with
    | some base => hidesUserKey keyfileIntern keyfileConf group base
    | none => (rest keysSet key).isSome

theorem carries_keysSet (single : SingleKeys atomicSections keyfileIntern group)
    (nonempty : key ≠ []) :
    carries atomicSections keyfileIntern keyfileConf group (keysSet ++ key) = true := by
  rw [carries, single.not_intern, single.atomic, rest_keysWas_keysSet, rest_append nonempty]
  rfl

theorem carries_keysWas (single : SingleKeys atomicSections keyfileIntern group)
    (nonempty : key ≠ []) :
    carries atomicSections keyfileIntern keyfileConf group (keysWas ++ key) =
      hidesUserKey keyfileIntern keyfileConf group key := by
  rw [carries, single.not_intern, single.atomic, rest_append nonempty]
  rfl

theorem internReadKey_flags
    (written : SingleKeys atomicSections keyfileIntern group →
      WrittenKeys keyfileIntern keyfileConf group keyfile)
    (kinds : isIntern group = true ∨ isAtomic atomicSections group = true ∨
      SingleKeys atomicSections keyfileIntern group) (read : InternRead)
    (has_key : keyfile.hasKey group key = true) :
    let next := internReadKey atomicSections keyfile keyfileConf group read key
    next.needsRewrite = read.needsRewrite ∧
      next.hasIntern =
        if carries atomicSections keyfileIntern keyfileConf group key then true
        else read.hasIntern := by
  intro next
  obtain ⟨value, value_eq⟩ := isSome_iff_exists.mp has_key
  obtain intern | atomic | single := kinds
  · have next_eq : next = read.setValue group key value := by
      show internReadKey _ _ _ _ _ _ = _
      rw [internReadKey, value_eq]
      dsimp only
      rw [intern, if_pos rfl]
    rw [next_eq, carries, intern, Bool.true_or, if_pos rfl]
    exact ⟨rfl, rfl⟩
  · have not_intern := not_intern_of_isAtomic atomic
    have next_eq : next = if key = keyAtomicSectionWas then read
        else { read with keyfileIntern := read.keyfileIntern.setValue group key value } := by
      show internReadKey _ _ _ _ _ _ = _
      rw [internReadKey, value_eq]
      dsimp only
      rw [not_intern, if_neg Bool.false_ne_true, atomic, if_pos rfl]
    rw [next_eq, carries, not_intern, Bool.false_or, atomic, Bool.not_true, Bool.false_and,
      if_neg Bool.false_ne_true]
    split
    · exact ⟨rfl, rfl⟩
    · exact ⟨rfl, rfl⟩
  · obtain ⟨base, value, rfl, nonempty, _, _, next_eq⟩ | ⟨base, rfl, nonempty, hides, next_eq⟩ |
      ⟨base, rfl, nonempty, shows, next_eq⟩ :=
      internReadKey_cases single (written single) read has_key
    · have next_eq : next = read.setValue group base value := next_eq
      rw [next_eq, carries_keysSet single nonempty, if_pos rfl]
      exact ⟨rfl, rfl⟩
    · have next_eq : next = read.setValue group (keysWas ++ base) [] := next_eq
      rw [next_eq, carries_keysWas single nonempty, hides, if_pos rfl]
      exact ⟨rfl, rfl⟩
    · have next_eq : next = read := next_eq
      rw [next_eq, carries_keysWas single nonempty, shows, if_neg Bool.false_ne_true]
      exact ⟨rfl, rfl⟩

theorem getValue_foldl_internReadKey_whole
    (whole : (isIntern group || isAtomic atomicSections group) = true)
    (keys_eq : keyfile.getKeys group = some keys) (read : InternRead) (place : Text) :
    (keys.foldl (internReadKey atomicSections keyfile keyfileConf group)
        read).keyfileIntern.getValue group place =
      if keyfile.hasKey group place && (isIntern group || place ≠ keyAtomicSectionWas) then
        keyfile.getValue group place
      else read.keyfileIntern.getValue group place := by
  have turn : ∀ read : InternRead, ∀ key ∈ keys,
      (internReadKey atomicSections keyfile keyfileConf group read key).keyfileIntern.getValue group
          place =
        if decide (key = place) && (isIntern group || place ≠ keyAtomicSectionWas) then
          keyfile.getValue group place
        else read.keyfileIntern.getValue group place := by
    intro read key listed
    obtain ⟨value, value_eq⟩ := isSome_iff_exists.mp (isSome_getValue keys_eq listed)
    have set_value : (read.keyfileIntern.setValue group key value).getValue group place =
        if decide (key = place) then keyfile.getValue group place
        else read.keyfileIntern.getValue group place := by
      rw [getValue_setValue]
      by_cases same : place = key
      · rw [if_pos same, same, decide_eq_true rfl, if_pos rfl, value_eq]
      · rw [if_neg same, decide_eq_false fun given => same given.symm, if_neg Bool.false_ne_true]
    unfold internReadKey
    rw [value_eq]
    dsimp only
    cases intern : isIntern group with
    | true =>
      rw [if_pos rfl, Bool.true_or, Bool.and_true]
      exact set_value
    | false =>
      rw [intern, Bool.false_or] at whole
      rw [whole, if_neg Bool.false_ne_true, if_pos rfl, Bool.false_or]
      by_cases was : key = keyAtomicSectionWas
      · rw [if_pos was, if_neg]
        rw [Bool.and_eq_true_iff, decide_eq_true_iff, decide_eq_true_iff]
        rintro ⟨rfl, not_was⟩
        exact not_was was
      · rw [if_neg was]
        refine set_value.trans (if_congr ?_ rfl rfl)
        rw [Bool.and_eq_true_iff, decide_eq_true_iff, decide_eq_true_iff]
        exact ⟨fun same => ⟨same, same ▸ was⟩, And.left⟩
  refine Loop.foldl_assign_at (fun read : InternRead => read.keyfileIntern.getValue group place)
    turn ?_ read
  rw [mem_keys_iff keys_eq, Bool.and_eq_true_iff]

theorem get_internReadKey_of_ne (keyfile : GKeyFile) (read : InternRead) {other : Text}
    (ne : other ≠ group) (key : Text) :
    (internReadKey atomicSections keyfile keyfileConf group read key).keyfileIntern.groups.get
      other = read.keyfileIntern.groups.get other := by
  unfold internReadKey
  split
  · rfl
  · split
    · exact get_setValue_of_ne _ ne _ _
    · split
      · split
        · rfl
        · exact get_setValue_of_ne _ ne _ _
      · split
        · split
          · rfl
          · exact get_setValue_of_ne _ ne _ _
        · split
          · split
            · rfl
            · split
              · rfl
              · exact get_setValue_of_ne _ ne _ _
          · rfl

theorem get_internReadGroup_of_ne (keyfile : GKeyFile) (read : InternRead) {group other : Text}
    (ne : other ≠ group) :
    (internReadGroup strings atomicSections keyfile keyfileConf read group).keyfileIntern.groups.get
      other = read.keyfileIntern.groups.get other := by
  have keys_read : ∀ (keys : List Text) (read : InternRead),
      (keys.foldl (internReadKey atomicSections keyfile keyfileConf group)
        read).keyfileIntern.groups.get other = read.keyfileIntern.groups.get other :=
    fun keys => Loop.foldl_unchanged (fun read : InternRead => read.keyfileIntern.groups.get other)
      fun read key _ => get_internReadKey_of_ne keyfile read ne key
  unfold internReadGroup
  split
  · rfl
  · split
    · rfl
    · dsimp only
      split
      · split
        · rfl
        · rw [keys_read]
          exact get_setValue_of_ne _ ne _ _
      · exact keys_read _ _

theorem InternConfig.kinds (intern : InternConfig atomicSections keyfileIntern)
    (present : keyfileIntern.hasGroup group = true) :
    isIntern group = true ∨ isAtomic atomicSections group = true ∨
      SingleKeys atomicSections keyfileIntern group := by
  cases is_intern : isIntern group with
  | true => exact .inl rfl
  | false =>
    cases section_of : isAtomicSection atomicSections group with
    | true => exact .inr (.inl (by rw [isAtomic, is_intern, section_of]; rfl))
    | false =>
      refine .inr (.inr ⟨is_intern, section_of, ?_⟩)
      rw [intern.was_iff group is_intern present, section_of]

theorem getString_internConfigWrite (round_trip : ∀ string,
      strings.parse (strings.format string) = some string)
    (atomic : isAtomic atomicSections group = true)
    (written : (internConfigWrite strings atomicSections keyfileIntern keyfileConf).hasGroup group =
      true) :
    strings.getString (internConfigWrite strings atomicSections keyfileIntern keyfileConf) group
      keyAtomicSectionWas = some (keyfileSerializeSection keyfileConf group) := by
  rw [StringValues.getString, getValue_internConfigWrite_atomic strings keyfileIntern keyfileConf
    atomic, not_skipped_of_hasGroup atomic written, if_neg Bool.false_ne_true, if_pos rfl,
    bind_some, round_trip]

theorem internReadGroup_eq (read : InternRead) (not_config : group ≠ groupConfig)
    (keys_eq : (internConfigWrite strings atomicSections keyfileIntern keyfileConf).getKeys group =
      some keys) (round_trip : ∀ string, strings.parse (strings.format string) = some string) :
    internReadGroup strings atomicSections
        (internConfigWrite strings atomicSections keyfileIntern keyfileConf) keyfileConf read
          group =
      keys.foldl (internReadKey atomicSections
          (internConfigWrite strings atomicSections keyfileIntern keyfileConf) keyfileConf group)
        (if isAtomic atomicSections group then
          { read with
            keyfileIntern := read.keyfileIntern.setValue group keyAtomicSectionWas [] }
        else read) := by
  unfold internReadGroup
  rw [if_neg not_config, keys_eq]
  dsimp only
  cases atomic : isAtomic atomicSections group with
  | false => rw [if_neg Bool.false_ne_true, if_neg Bool.false_ne_true]
  | true =>
    have present : (internConfigWrite strings atomicSections keyfileIntern keyfileConf).hasGroup
        group = true := by
      cases present : (internConfigWrite strings atomicSections keyfileIntern
        keyfileConf).hasGroup group with
      | true => rfl
      | false =>
        rw [getKeys_eq_none.mpr present] at keys_eq
        cases keys_eq
    rw [if_pos rfl, getString_internConfigWrite round_trip atomic present,
      if_neg fun ne => ne rfl, if_pos rfl]

/-- The variables of the reader after it read the groups that were written. -/
def readBack (strings : StringValues) (atomicSections : List Text)
    (keyfileIntern keyfileConf : GKeyFile) : InternRead :=
  let keyfile := internConfigWrite strings atomicSections keyfileIntern keyfileConf
  keyfile.getGroups.foldl (internReadGroup strings atomicSections keyfile keyfileConf)
    ⟨.empty, false, false⟩

/-- Nothing is outdated, and a group counts if one of its keys does. -/
theorem readBack_flags (intern : InternConfig atomicSections keyfileIntern)
    (round_trip : ∀ string, strings.parse (strings.format string) = some string) :
    let keyfile := internConfigWrite strings atomicSections keyfileIntern keyfileConf
    let read := readBack strings atomicSections keyfileIntern keyfileConf
    read.needsRewrite = false ∧
      (read.hasIntern = true ↔ ∃ group key, group ≠ groupConfig ∧ keyfile.hasKey group key = true ∧
        carries atomicSections keyfileIntern keyfileConf group key = true) := by
  intro keyfile read
  let counts (group : Text) : Bool := group ≠ groupConfig &&
    (keyfile.getKeys group).any fun keys =>
      keys.any (carries atomicSections keyfileIntern keyfileConf group)
  have turn : ∀ read : InternRead, ∀ group ∈ keyfile.getGroups,
      let next := internReadGroup strings atomicSections keyfile keyfileConf read group
      next.needsRewrite = read.needsRewrite ∧
        next.hasIntern = if counts group then true else read.hasIntern := by
    intro read group listed
    dsimp only
    by_cases is_config : group = groupConfig
    · rw [internReadGroup, if_pos is_config]
      refine ⟨rfl, ?_⟩
      rw [if_neg]
      simp [counts, is_config]
    · have written := mem_getGroups.mp listed
      obtain ⟨keys, keys_eq⟩ := exists_getKeys written
      have present : keyfileIntern.hasGroup group = true := by
        cases present : keyfileIntern.hasGroup group with
        | true => rfl
        | false =>
          rw [not_hasGroup_internConfigWrite present] at written
          cases written
      have flags := fun read key (in_keys : key ∈ keys) => internReadKey_flags
        (fun single => writtenKeys_internConfigWrite strings intern present single)
        (intern.kinds present) read ((mem_keys_iff keys_eq).mp in_keys)
      rw [internReadGroup_eq read is_config keys_eq round_trip]
      refine ⟨(Loop.foldl_unchanged InternRead.needsRewrite
        (fun read key in_keys => (flags read key in_keys).1) _).trans ?_,
        (Loop.foldl_assign InternRead.hasIntern
          (fun read key in_keys => (flags read key in_keys).2) _).trans ?_⟩
      · split
        · rfl
        · rfl
      · have counts_eq : counts group =
            keys.any (carries atomicSections keyfileIntern keyfileConf group) := by
          simp only [counts, keys_eq, any_some]
          rw [decide_eq_true is_config, Bool.true_and]
        rw [counts_eq]
        congr 1
        split
        · rfl
        · rfl
  refine ⟨Loop.foldl_unchanged InternRead.needsRewrite
    (fun read group listed => (turn read group listed).1) _, ?_⟩
  have has_intern : read.hasIntern = if keyfile.getGroups.any counts then true else false :=
    Loop.foldl_assign InternRead.hasIntern (fun read group listed => (turn read group listed).2) _
  rw [has_intern, Bool.if_false_right, Bool.and_true, Bool.decide_eq_true, List.any_eq_true]
  constructor
  · rintro ⟨group, _, counted⟩
    obtain ⟨not_config, has_keys⟩ := Bool.and_eq_true_iff.mp counted
    obtain ⟨keys, keys_eq, some_key⟩ := (Option.any_eq_true _ _).mp has_keys
    obtain ⟨key, listed, carried⟩ := List.any_eq_true.mp some_key
    exact ⟨group, key, of_decide_eq_true not_config, (mem_keys_iff keys_eq).mp listed, carried⟩
  · rintro ⟨group, key, not_config, has_key, carried⟩
    have written := hasGroup_of_hasKey has_key
    obtain ⟨keys, keys_eq⟩ := exists_getKeys written
    refine ⟨group, mem_getGroups.mpr written, ?_⟩
    refine Bool.and_eq_true_iff.mpr ⟨decide_eq_true not_config, ?_⟩
    rw [keys_eq, any_some]
    exact List.any_eq_true.mpr ⟨key, (mem_keys_iff keys_eq).mpr has_key, carried⟩

theorem get_readBack (strings : StringValues) (atomicSections : List Text)
    (keyfileIntern keyfileConf : GKeyFile) (group : Text) :
    let keyfile := internConfigWrite strings atomicSections keyfileIntern keyfileConf
    let read := readBack strings atomicSections keyfileIntern keyfileConf
    (keyfile.hasGroup group = true ∧ ∃ before : InternRead,
      before.keyfileIntern.groups.get group = none ∧ read.keyfileIntern.groups.get group =
        (internReadGroup strings atomicSections keyfile keyfileConf before
          group).keyfileIntern.groups.get group) ∨
      keyfile.hasGroup group = false ∧ read.keyfileIntern.groups.get group = none := by
  intro keyfile read
  have own : ∀ (read : InternRead) (group other : Text), other ≠ group →
      (internReadGroup strings atomicSections keyfile keyfileConf read
        group).keyfileIntern.groups.get other = read.keyfileIntern.groups.get other :=
    fun read _ _ ne => get_internReadGroup_of_ne keyfile read ne
  cases written : keyfile.hasGroup group with
  | true =>
    exact .inl ⟨rfl, Loop.foldl_component (fun read : InternRead => read.keyfileIntern.groups.get)
      own keyfile.nodup_getGroups (mem_getGroups.mpr written) ⟨.empty, false, false⟩⟩
  | false =>
    exact .inr ⟨rfl, Loop.foldl_unchanged
      (fun read : InternRead => read.keyfileIntern.groups.get group)
      (fun read other listed => own read other group fun same =>
        not_hasGroup_iff.mpr written (same ▸ listed)) ⟨.empty, false, false⟩⟩

theorem not_hasGroup_readBack_config (strings : StringValues) (atomicSections : List Text)
    (keyfileIntern keyfileConf : GKeyFile) :
    (readBack strings atomicSections keyfileIntern keyfileConf).keyfileIntern.hasGroup groupConfig =
      false := by
  obtain ⟨_, before, before_eq, read_eq⟩ | ⟨_, read_eq⟩ :=
    get_readBack strings atomicSections keyfileIntern keyfileConf groupConfig
  · rw [internReadGroup, if_pos rfl, before_eq] at read_eq
    rw [hasGroup, read_eq, isSome_none]
  · rw [hasGroup, read_eq, isSome_none]

theorem intern_ne_config (intern : isIntern group = true) : group ≠ groupConfig := by
  rintro rfl
  exact absurd intern (by decide)

theorem getValue_readBack_intern (strings : StringValues) (atomicSections : List Text)
    (keyfileIntern keyfileConf : GKeyFile)
    (round_trip : ∀ string, strings.parse (strings.format string) = some string)
    (intern : isIntern group = true) (key : Text) :
    (readBack strings atomicSections keyfileIntern keyfileConf).keyfileIntern.getValue group key =
      keyfileIntern.getValue group key := by
  rw [← getValue_internConfigWrite_intern strings atomicSections keyfileIntern keyfileConf intern]
  obtain ⟨written, before, before_eq, read_eq⟩ | ⟨unwritten, read_eq⟩ :=
    get_readBack strings atomicSections keyfileIntern keyfileConf group
  · obtain ⟨keys, keys_eq⟩ := exists_getKeys written
    have not_atomic : isAtomic atomicSections group = false := by
      rw [isAtomic, intern, Bool.not_true, Bool.false_and]
    rw [internReadGroup_eq before (intern_ne_config intern) keys_eq round_trip, not_atomic,
      if_neg Bool.false_ne_true] at read_eq
    rw [getValue_congr read_eq, getValue_foldl_internReadKey_whole (by rw [intern, Bool.true_or])
      keys_eq, intern, Bool.true_or, Bool.and_true, getValue_of_get_eq_none before_eq,
      getValue_of_hasKey]
  · rw [getValue_of_get_eq_none read_eq, getValue_eq_none_of_hasGroup unwritten]

theorem getValue_readBack_atomic (strings : StringValues) (keyfileIntern keyfileConf : GKeyFile)
    (round_trip : ∀ string, strings.parse (strings.format string) = some string)
    (atomic : isAtomic atomicSections group = true) (not_config : group ≠ groupConfig)
    (key : Text) :
    (readBack strings atomicSections keyfileIntern keyfileConf).keyfileIntern.getValue group key =
      if skipped keyfileIntern keyfileConf group then none
      else if key = keyAtomicSectionWas then some []
      else keyfileIntern.getValue group key := by
  have written_eq := getValue_internConfigWrite_atomic strings keyfileIntern keyfileConf atomic
  obtain ⟨written, before, before_eq, read_eq⟩ | ⟨unwritten, read_eq⟩ :=
    get_readBack strings atomicSections keyfileIntern keyfileConf group
  · obtain ⟨keys, keys_eq⟩ := exists_getKeys written
    have not_skipped := not_skipped_of_hasGroup atomic written
    rw [not_skipped] at written_eq ⊢
    rw [internReadGroup_eq before not_config keys_eq round_trip, if_pos atomic] at read_eq
    rw [getValue_congr read_eq, getValue_foldl_internReadKey_whole (by rw [atomic, Bool.or_true])
      keys_eq, not_intern_of_isAtomic atomic, Bool.false_or, getValue_setValue,
      getValue_of_get_eq_none before_eq, hasKey, written_eq,
      if_neg Bool.false_ne_true, if_neg Bool.false_ne_true]
    by_cases was : key = keyAtomicSectionWas
    · rw [if_neg (by simp [was]), if_pos was, if_pos was]
    · rw [if_neg was, if_neg was, if_neg was, decide_eq_true was, Bool.and_true]
      exact getValue_of_hasKey keyfileIntern group key
  · have is_skipped : skipped keyfileIntern keyfileConf group = true := by
      have no_was := written_eq keyAtomicSectionWas
      rw [getValue_eq_none_of_hasGroup unwritten, if_pos rfl] at no_was
      split at no_was
      · assumption
      · cases no_was
    rw [getValue_of_get_eq_none read_eq, if_pos is_skipped]

/-- What is restored of a group whose keys are overwritten one by one: the keys that overwrite one
of the user or hide one. -/
theorem getValue_readBack_single (keyfileConf : GKeyFile) (strings : StringValues)
    (round_trip : ∀ string, strings.parse (strings.format string) = some string)
    (intern : InternConfig atomicSections keyfileIntern)
    (present : keyfileIntern.hasGroup group = true)
    (single : SingleKeys atomicSections keyfileIntern group) (not_config : group ≠ groupConfig) :
    let read := readBack strings atomicSections keyfileIntern keyfileConf
    (∀ key, isMarker key = false → read.keyfileIntern.getValue group key =
      if overwrites keyfileIntern keyfileConf group key then keyfileIntern.getValue group key
      else none) ∧
    ∀ key, key ≠ [] → read.keyfileIntern.getValue group (keysWas ++ key) =
      if hidesUserKey keyfileIntern keyfileConf group key then some [] else none := by
  intro read
  have written_keys : WrittenKeys keyfileIntern keyfileConf group _ :=
    writtenKeys_internConfigWrite strings intern present single
  obtain ⟨written, before, before_eq, read_eq⟩ | ⟨unwritten, read_eq⟩ :=
    get_readBack strings atomicSections keyfileIntern keyfileConf group
  · obtain ⟨keys, keys_eq⟩ := exists_getKeys written
    rw [internReadGroup_eq before not_config keys_eq round_trip, single.atomic,
      if_neg Bool.false_ne_true] at read_eq
    refine ⟨fun key not_marker => ?_, fun key nonempty => ?_⟩
    · rw [getValue_congr read_eq, getValue_foldl_internReadKey single written_keys keys_eq before
        not_marker, getValue_of_get_eq_none before_eq]
    · rw [getValue_congr read_eq,
        getValue_foldl_internReadKey_was single written_keys keys_eq before nonempty,
        getValue_of_get_eq_none before_eq]
  · refine ⟨fun key not_marker => ?_, fun key nonempty => ?_⟩
    · rw [getValue_of_get_eq_none read_eq, ← written_keys.set_eq,
        getValue_eq_none_of_hasGroup unwritten]
    · rw [getValue_of_get_eq_none read_eq, if_neg]
      intro hides
      have was_eq := written_keys.was_eq key
      rw [getValue_eq_none_of_hasGroup unwritten, hides, Bool.or_true, if_pos rfl] at was_eq
      have has_user := hasKey_of_hidesUserKey hides
      rw [hasKey, ← was_eq] at has_user
      cases has_user

end NetworkManager.Config
