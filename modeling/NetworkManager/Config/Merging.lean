import NetworkManager.Config.KeyFile
import NetworkManager.Library.Loop

/-!
# What a merged configuration has

The internal configuration is merged into a copy of the configuration of the user.  This file says
what the result has at each key: a group of the internal configuration either is apart from the
groups of the user, or replaces the whole group, or sets and hides single keys.
-/

namespace NetworkManager.Config

open GKeyFile List Option

/-- The groups that the user cannot set. -/
def isIntern (group : Text) : Bool := groupsIntern.isPrefixOf group

def isMarker (key : Text) : Bool := (rest keysSet key).isSome || (rest keysWas key).isSome

theorem rest_eq_some {start text others : Text} :
    rest start text = some others ↔ text = start ++ others ∧ others ≠ [] := by
  unfold rest
  constructor
  · intro given
    split at given
    · rename_i starts
      obtain rfl := Option.some.inj given
      refine ⟨(prefix_iff_eq_append.mp (List.isPrefixOf_iff_prefix.mp starts.1)).symm, ?_⟩
      intro empty
      have no_length := congrArg length empty
      rw [length_drop, length_nil] at no_length
      omega
    · cases given
  · rintro ⟨rfl, nonempty⟩
    rw [if_pos, drop_left]
    refine ⟨List.isPrefixOf_iff_prefix.mpr (prefix_append _ _), ?_⟩
    rw [length_append]
    exact Nat.lt_add_of_pos_right (length_pos_iff.mpr nonempty)

theorem rest_append {others : Text} (nonempty : others ≠ []) (start : Text) :
    rest start (start ++ others) = some others := rest_eq_some.mpr ⟨rfl, nonempty⟩

theorem append_keysSet_ne_keysWas (a b : Text) : keysSet ++ a ≠ keysWas ++ b := by
  intro same
  have second := congrArg (·[1]?) same
  simp [keysSet, keysWas] at second

theorem rest_keysWas_keysSet (others : Text) : rest keysWas (keysSet ++ others) = none := by
  cases given : rest keysWas (keysSet ++ others) with
  | none => rfl
  | some _ => exact absurd (rest_eq_some.mp given).1 (append_keysSet_ne_keysWas _ _)

theorem rest_keysSet_keysWas (others : Text) : rest keysSet (keysWas ++ others) = none := by
  cases given : rest keysSet (keysWas ++ others) with
  | none => rfl
  | some _ => exact absurd (rest_eq_some.mp given).1.symm (append_keysSet_ne_keysWas _ _)

theorem get_copyKey_of_ne (src dst : GKeyFile) {group other : Text} (ne : other ≠ group)
    (key : Text) : (copyKey src group dst key).groups.get other = dst.groups.get other := by
  unfold copyKey
  split
  · exact dst.get_setValue_of_ne ne _ _
  · exact dst.get_removeKey_of_ne ne _

theorem get_copyGroup_of_ne (src dst : GKeyFile) {group other : Text} (ne : other ≠ group) :
    (copyGroup src dst group).groups.get other = dst.groups.get other := by
  unfold copyGroup
  split
  · rfl
  · exact Loop.foldl_unchanged (fun keyfile : GKeyFile => keyfile.groups.get other)
      (fun dst key _ => get_copyKey_of_ne src dst ne key) dst

theorem getValue_copyGroup (src dst : GKeyFile) (group place : Text) :
    (copyGroup src dst group).getValue group place =
      if src.hasKey group place then src.getValue group place else dst.getValue group place := by
  unfold copyGroup
  split
  · rename_i absent
    rw [not_hasKey_of_hasGroup (getKeys_eq_none.mp absent), if_neg Bool.false_ne_true]
  · rename_i keys keys_eq
    have turn : ∀ dst : GKeyFile, ∀ key ∈ keys, (copyKey src group dst key).getValue group place =
        if decide (place = key) then src.getValue group place
        else dst.getValue group place := by
      intro dst key listed
      obtain ⟨value, value_eq⟩ := isSome_iff_exists.mp (isSome_getValue keys_eq listed)
      rw [copyKey, value_eq]
      dsimp only
      rw [getValue_setValue]
      by_cases same : place = key
      · rw [if_pos same, if_pos (decide_eq_true same), same, value_eq]
      · rw [if_neg same, if_neg (by simpa using same)]
    rw [Loop.foldl_assign (fun keyfile : GKeyFile => keyfile.getValue group place) turn]
    congr 1
    rw [eq_iff_iff, List.any_eq_true, ← mem_keys_iff keys_eq]
    simp

variable {group : Text} {keyfileIntern : GKeyFile}

theorem getValue_congr {a b : GKeyFile} (same : a.groups.get group = b.groups.get group)
    (key : Text) :
    a.getValue group key = b.getValue group key := by
  rw [getValue, getValue, same]

theorem getValue_of_get_eq_none {keyfile : GKeyFile} (absent : keyfile.groups.get group = none)
    (key : Text) :
    keyfile.getValue group key = none := by
  rw [getValue, absent, bind_none]

theorem hasGroup_congr {a b : GKeyFile} (same : a.groups.get group = b.groups.get group) :
    a.hasGroup group = b.hasGroup group := by
  rw [hasGroup, hasGroup, same]

theorem not_hasGroup_iff {keyfile : GKeyFile} :
    group ∉ keyfile.getGroups ↔ keyfile.hasGroup group = false := by
  rw [mem_getGroups, Bool.not_eq_true]

theorem getValue_keyfileCopy (src : GKeyFile) (group key : Text) :
    (keyfileCopy .empty src).getValue group key = src.getValue group key := by
  unfold keyfileCopy
  by_cases listed : group ∈ src.getGroups
  · obtain ⟨before, before_eq, after_eq⟩ := Loop.foldl_component
      (fun keyfile : GKeyFile => keyfile.groups.get)
      (fun dst group other ne => get_copyGroup_of_ne src dst ne) src.nodup_getGroups listed .empty
    rw [getValue_congr after_eq, getValue_copyGroup, getValue_congr before_eq, getValue_empty]
    split
    · rfl
    · rename_i no_key
      exact (not_isSome_iff_eq_none.mp no_key).symm
  · have unchanged : (src.getGroups.foldl (copyGroup src) .empty).groups.get group =
        GKeyFile.empty.groups.get group :=
      Loop.foldl_unchanged (fun keyfile : GKeyFile => keyfile.groups.get group)
        (fun dst other in_groups => get_copyGroup_of_ne src dst fun same =>
          listed (same ▸ in_groups)) .empty
    rw [getValue_congr unchanged, getValue_empty,
      getValue_eq_none_of_hasGroup (not_hasGroup_iff.mp listed)]

theorem hasKey_keyfileCopy (src : GKeyFile) (group key : Text) :
    (keyfileCopy .empty src).hasKey group key = src.hasKey group key := by
  rw [hasKey, getValue_keyfileCopy, hasKey]

theorem hasGroup_keyfileCopy {src : GKeyFile} :
    (keyfileCopy .empty src).hasGroup group = true ↔ ∃ key, src.hasKey group key = true := by
  rw [← mem_getGroups, getGroups_keyfileCopy, mem_filter]
  rw [Option.any_eq_true]
  constructor
  · rintro ⟨_, keys, keys_eq, nonempty⟩
    obtain ⟨key, others, rfl⟩ := exists_cons_of_ne_nil (of_decide_eq_true nonempty)
    exact ⟨key, (mem_keys_iff keys_eq).mp mem_cons_self⟩
  · rintro ⟨key, has_key⟩
    refine ⟨mem_getGroups.mpr (hasGroup_of_hasKey has_key), ?_⟩
    cases keys_eq : src.getKeys group with
    | none =>
      rw [not_hasKey_of_hasGroup (getKeys_eq_none.mp keys_eq)] at has_key
      cases has_key
    | some keys =>
      refine ⟨keys, rfl, decide_eq_true ?_⟩
      exact ne_nil_of_mem ((mem_keys_iff keys_eq).mpr has_key)

section

variable (keyfileIntern : GKeyFile)

def replaces (group : Text) : Bool :=
  !isIntern group && keyfileIntern.hasKey group keyAtomicSectionWas

def setsKey (group key : Text) : Bool :=
  if isIntern group then true
  else if keyfileIntern.hasKey group keyAtomicSectionWas then key ≠ keyAtomicSectionWas
  else !isMarker key

def hidesKey (group key : Text) : Bool :=
  !isIntern group && !keyfileIntern.hasKey group keyAtomicSectionWas && key ≠ [] &&
    keyfileIntern.hasKey group (keysWas ++ key) && !keyfileIntern.hasKey group key

end

section

variable {group key : Text} (hides : hidesKey keyfileIntern group key = true)

include hides

theorem nonempty_of_hidesKey : key ≠ [] := by
  rintro rfl
  simp [hidesKey] at hides

theorem hasKey_of_hidesKey : keyfileIntern.hasKey group (keysWas ++ key) = true := by
  simp only [hidesKey, Bool.and_eq_true] at hides
  exact hides.1.2

theorem not_hasKey_of_hidesKey : keyfileIntern.hasKey group key = false := by
  simp only [hidesKey, Bool.and_eq_true, Bool.not_eq_true'] at hides
  exact hides.2

theorem setsKey_of_hidesKey : setsKey keyfileIntern group (keysWas ++ key) = false := by
  have marker : isMarker (keysWas ++ key) = true := by
    rw [isMarker, rest_append (nonempty_of_hidesKey hides), isSome_some, Bool.or_true]
  unfold hidesKey at hides
  unfold setsKey
  cases intern : isIntern group with
  | true => simp [intern] at hides
  | false =>
    cases atomic : keyfileIntern.hasKey group keyAtomicSectionWas with
    | true => simp [atomic] at hides
    | false => simp [marker]

end

/-- What one turn does: it sets a key, or removes the key that is hidden, or nothing. -/
theorem mergeKey_cases (keyfileIntern keyfile : GKeyFile) (group : Text) {key : Text}
    (has_key : keyfileIntern.hasKey group key = true) :
    let merged := mergeKey keyfileIntern group (isIntern group) (replaces keyfileIntern group)
      keyfile key
    (∃ value, setsKey keyfileIntern group key = true ∧
      keyfileIntern.getValue group key = some value ∧ merged = keyfile.setValue group key value) ∨
      setsKey keyfileIntern group key = false ∧
        ((∃ hidden, key = keysWas ++ hidden ∧ hidesKey keyfileIntern group hidden = true ∧
            merged = keyfile.removeKey group hidden) ∨
          (∀ hidden, key = keysWas ++ hidden → hidesKey keyfileIntern group hidden = false) ∧
            merged = keyfile) := by
  intro merged
  obtain ⟨value, value_eq⟩ := isSome_iff_exists.mp has_key
  have merged_eq : merged = mergeKey keyfileIntern group (isIntern group)
    (replaces keyfileIntern group) keyfile key := rfl
  unfold mergeKey replaces at merged_eq
  rw [value_eq] at merged_eq
  unfold setsKey
  cases intern : isIntern group with
  | true =>
    rw [intern] at merged_eq
    exact .inl ⟨value, rfl, value_eq, merged_eq⟩
  | false =>
    rw [intern] at merged_eq
    cases atomic : keyfileIntern.hasKey group keyAtomicSectionWas with
    | true =>
      rw [atomic] at merged_eq
      by_cases was : key = keyAtomicSectionWas
      · refine .inr ⟨by simp [was], .inr ⟨?_, ?_⟩⟩
        · intro hidden _
          simp [hidesKey, atomic]
        · rw [merged_eq, if_pos (by simp [was])]
      · refine .inl ⟨value, by simp [was], value_eq, ?_⟩
        rw [merged_eq, if_neg (by simp [was])]
        rfl
    | false =>
      rw [atomic] at merged_eq
      rw [if_neg (by simp)] at merged_eq
      have single_keys : (!false && !(!false && false)) = true := rfl
      rw [single_keys, if_pos rfl] at merged_eq
      cases was : rest keysWas key with
      | some hidden =>
        rw [was] at merged_eq
        obtain ⟨rfl, nonempty⟩ := rest_eq_some.mp was
        refine .inr ⟨by simp [isMarker, was], ?_⟩
        dsimp only at merged_eq
        cases present : keyfileIntern.hasKey group hidden with
        | true =>
          rw [present, if_pos rfl] at merged_eq
          refine .inr ⟨?_, merged_eq⟩
          intro other same
          rw [append_cancel_left_eq] at same
          simp [hidesKey, ← same, present]
        | false =>
          rw [present, if_neg Bool.false_ne_true] at merged_eq
          refine .inl ⟨hidden, rfl, ?_, merged_eq⟩
          simp [hidesKey, intern, atomic, nonempty, has_key, present]
      | none =>
        rw [was] at merged_eq
        dsimp only at merged_eq
        have not_hidden : ∀ hidden, key = keysWas ++ hidden →
            hidesKey keyfileIntern group hidden = false := by
          intro hidden key_eq
          cases hides : hidesKey keyfileIntern group hidden with
          | false => rfl
          | true =>
            rw [key_eq, rest_append (nonempty_of_hidesKey hides)] at was
            cases was
        cases set : (rest keysSet key).isSome with
        | true =>
          rw [set, if_pos (by rfl)] at merged_eq
          exact .inr ⟨by simp [isMarker, set], .inr ⟨not_hidden, merged_eq⟩⟩
        | false =>
          rw [set, if_neg (by simp)] at merged_eq
          exact .inl ⟨value, by simp [isMarker, was, set], value_eq, merged_eq⟩

theorem get_mergeKey_of_ne (keyfileIntern keyfile : GKeyFile) {group other : Text}
    (ne : other ≠ group) {key : Text} (has_key : keyfileIntern.hasKey group key = true) :
    (mergeKey keyfileIntern group (isIntern group) (replaces keyfileIntern group) keyfile
      key).groups.get other = keyfile.groups.get other := by
  obtain ⟨value, _, _, merged_eq⟩ | ⟨_, ⟨hidden, _, _, merged_eq⟩ | ⟨_, merged_eq⟩⟩ :=
    mergeKey_cases keyfileIntern keyfile group has_key
  · rw [merged_eq, get_setValue_of_ne _ ne]
  · rw [merged_eq, get_removeKey_of_ne _ ne]
  · rw [merged_eq]

variable {keys : List Text}

theorem mergeGroup_eq (keys_eq : keyfileIntern.getKeys group = some keys) (keyfile : GKeyFile) :
    mergeGroup keyfileIntern keyfile group =
      keys.foldl (mergeKey keyfileIntern group (isIntern group) (replaces keyfileIntern group))
        (if replaces keyfileIntern group then keyfile.removeGroup group else keyfile) := by
  unfold mergeGroup
  rw [keys_eq]
  rfl

theorem get_mergeGroup_of_ne (keyfileIntern keyfile : GKeyFile) {group other : Text}
    (ne : other ≠ group) :
    (mergeGroup keyfileIntern keyfile group).groups.get other = keyfile.groups.get other := by
  cases keys_eq : keyfileIntern.getKeys group with
  | none =>
    unfold mergeGroup
    rw [keys_eq]
  | some keys =>
    rw [mergeGroup_eq keys_eq, Loop.foldl_unchanged
      (fun keyfile : GKeyFile => keyfile.groups.get other)
      (fun keyfile key listed => get_mergeKey_of_ne keyfileIntern keyfile ne
        ((mem_keys_iff keys_eq).mp listed))]
    split
    · exact get_removeGroup_of_ne _ ne
    · rfl

def mergedValue (keyfileIntern : GKeyFile) (group key : Text) (old : Option Text) : Option Text :=
  if keyfileIntern.hasKey group key && setsKey keyfileIntern group key then
    keyfileIntern.getValue group key
  else if hidesKey keyfileIntern group key || replaces keyfileIntern group then none
  else old

theorem getValue_mergeGroup (keys_eq : keyfileIntern.getKeys group = some keys) (keyfile : GKeyFile)
    (place : Text) :
    (mergeGroup keyfileIntern keyfile group).getValue group place =
      mergedValue keyfileIntern group place (keyfile.getValue group place) := by
  rw [mergeGroup_eq keys_eq]
  -- What the turns assign to the place: the value that is set, unless the key is hidden.
  let assigned : Option Text :=
    if keyfileIntern.hasKey group place && setsKey keyfileIntern group place then
      keyfileIntern.getValue group place
    else none
  have turn : ∀ keyfile : GKeyFile, ∀ key ∈ keys,
      (mergeKey keyfileIntern group (isIntern group) (replaces keyfileIntern group) keyfile
        key).getValue group place =
        if decide (place = key ∧ setsKey keyfileIntern group key = true ∨
          key = keysWas ++ place ∧ hidesKey keyfileIntern group place = true) then assigned
        else keyfile.getValue group place := by
    intro keyfile key listed
    have has_key := (mem_keys_iff keys_eq).mp listed
    obtain ⟨value, sets, value_eq, merged_eq⟩ |
      ⟨sets, ⟨hidden, rfl, hides, merged_eq⟩ | ⟨not_hidden, merged_eq⟩⟩ :=
      mergeKey_cases keyfileIntern keyfile group has_key
    · rw [merged_eq, getValue_setValue]
      by_cases same : place = key
      · obtain rfl := same
        have assigned_eq : assigned = some value := by
          simp only [assigned, has_key, sets, value_eq, Bool.and_self, if_pos]
        rw [if_pos rfl, if_pos (decide_eq_true (.inl ⟨rfl, sets⟩)), assigned_eq]
      · rw [if_neg same, if_neg]
        rw [decide_eq_true_iff]
        rintro (⟨same_key, _⟩ | ⟨rfl, hides⟩)
        · exact same same_key
        · rw [setsKey_of_hidesKey hides] at sets
          cases sets
    · rw [merged_eq, getValue_removeKey]
      by_cases same : place = hidden
      · obtain rfl := same
        have assigned_eq : assigned = none := by
          simp only [assigned, not_hasKey_of_hidesKey hides, Bool.false_and, Bool.false_eq_true,
            if_false]
        rw [if_pos rfl, if_pos (decide_eq_true (.inr ⟨rfl, hides⟩)), assigned_eq]
      · rw [if_neg same, if_neg]
        rw [decide_eq_true_iff]
        rintro (⟨_, sets_key⟩ | ⟨same_key, _⟩)
        · rw [sets] at sets_key
          cases sets_key
        · exact same (append_cancel_left same_key).symm
    · rw [merged_eq, if_neg]
      rw [decide_eq_true_iff]
      rintro (⟨_, sets_key⟩ | ⟨key_eq, hides⟩)
      · rw [sets] at sets_key
        cases sets_key
      · rw [not_hidden place key_eq] at hides
        cases hides
  have assigned_iff : (keys.any fun key =>
      decide (place = key ∧ setsKey keyfileIntern group key = true ∨
        key = keysWas ++ place ∧ hidesKey keyfileIntern group place = true)) =
        (keyfileIntern.hasKey group place && setsKey keyfileIntern group place ||
          hidesKey keyfileIntern group place) := by
    rw [Bool.eq_iff_iff, List.any_eq_true, Bool.or_eq_true_iff, Bool.and_eq_true_iff,
      ← mem_keys_iff keys_eq]
    constructor
    · rintro ⟨key, listed, given⟩
      obtain ⟨rfl, sets⟩ | ⟨_, hides⟩ := of_decide_eq_true given
      · exact .inl ⟨listed, sets⟩
      · exact .inr hides
    · rintro (⟨listed, sets⟩ | hides)
      · exact ⟨place, listed, decide_eq_true (.inl ⟨rfl, sets⟩)⟩
      · exact ⟨keysWas ++ place, (mem_keys_iff keys_eq).mpr (hasKey_of_hidesKey hides),
          decide_eq_true (.inr ⟨rfl, hides⟩)⟩
  rw [Loop.foldl_assign (fun keyfile : GKeyFile => keyfile.getValue group place) turn, assigned_iff]
  dsimp only [assigned]
  unfold mergedValue
  cases keyfileIntern.hasKey group place && setsKey keyfileIntern group place with
  | true => rfl
  | false =>
    cases hidesKey keyfileIntern group place with
    | true => rfl
    | false =>
      cases replaces keyfileIntern group with
      | true => exact getValue_removeGroup _ _ _
      | false => rfl

theorem hasGroup_mergeGroup (keys_eq : keyfileIntern.getKeys group = some keys) (keyfile : GKeyFile) :
    (mergeGroup keyfileIntern keyfile group).hasGroup group =
      (keys.any (setsKey keyfileIntern group) ||
        !replaces keyfileIntern group && keyfile.hasGroup group) := by
  rw [mergeGroup_eq keys_eq]
  have turn : ∀ keyfile : GKeyFile, ∀ key ∈ keys,
      (mergeKey keyfileIntern group (isIntern group) (replaces keyfileIntern group) keyfile
        key).hasGroup group =
        if setsKey keyfileIntern group key then true else keyfile.hasGroup group := by
    intro keyfile key listed
    obtain ⟨value, sets, _, merged_eq⟩ | ⟨sets, ⟨hidden, _, _, merged_eq⟩ | ⟨_, merged_eq⟩⟩ :=
      mergeKey_cases keyfileIntern keyfile group ((mem_keys_iff keys_eq).mp listed)
    · rw [merged_eq, hasGroup_setValue, sets, if_pos rfl]
    · rw [merged_eq, hasGroup_removeKey, sets, if_neg Bool.false_ne_true]
    · rw [merged_eq, sets, if_neg Bool.false_ne_true]
  rw [Loop.foldl_assign (fun keyfile : GKeyFile => keyfile.hasGroup group) turn]
  cases keys.any (setsKey keyfileIntern group) with
  | true => rfl
  | false =>
    cases replaces keyfileIntern group with
    | true => exact hasGroup_removeGroup _ _
    | false => rfl

theorem get_mergeKeyfiles (keyfileUser keyfileIntern : GKeyFile) (group : Text) :
    (keyfileIntern.hasGroup group = true ∧ ∃ before : GKeyFile,
      before.groups.get group = (keyfileCopy .empty keyfileUser).groups.get group ∧
        (mergeKeyfiles (some keyfileUser) (some keyfileIntern)).groups.get group =
          (mergeGroup keyfileIntern before group).groups.get group) ∨
      keyfileIntern.hasGroup group = false ∧
        (mergeKeyfiles (some keyfileUser) (some keyfileIntern)).groups.get group =
          (keyfileCopy .empty keyfileUser).groups.get group := by
  have sorted := sortGroups_perm keyfileIntern.getGroups
  cases present : keyfileIntern.hasGroup group with
  | true =>
    have listed : group ∈ sortGroups keyfileIntern.getGroups :=
      sorted.mem_iff.mpr (mem_getGroups.mpr present)
    exact .inl ⟨rfl, Loop.foldl_component (fun keyfile : GKeyFile => keyfile.groups.get)
      (fun keyfile group other ne => get_mergeGroup_of_ne keyfileIntern keyfile
        ne) (sorted.nodup_iff.mpr keyfileIntern.nodup_getGroups) listed _⟩
  | false =>
    have not_listed : group ∉ sortGroups keyfileIntern.getGroups := by
      rw [sorted.mem_iff]
      exact not_hasGroup_iff.mpr present
    exact .inr ⟨rfl, Loop.foldl_unchanged (fun keyfile : GKeyFile => keyfile.groups.get group)
      (fun keyfile other in_groups => get_mergeGroup_of_ne keyfileIntern keyfile fun same =>
        not_listed (same ▸ in_groups)) _⟩

theorem mergedValue_of_hasGroup (absent : keyfileIntern.hasGroup group = false) (key : Text)
    (old : Option Text) :
    mergedValue keyfileIntern group key old = old := by
  have no_key := fun key => not_hasKey_of_hasGroup absent key
  simp [mergedValue, hidesKey, replaces, no_key]

theorem getValue_mergeKeyfiles (keyfileUser keyfileIntern : GKeyFile) (group key : Text) :
    (mergeKeyfiles (some keyfileUser) (some keyfileIntern)).getValue group key =
      mergedValue keyfileIntern group key (keyfileUser.getValue group key) := by
  obtain ⟨present, before, before_eq, merged_eq⟩ | ⟨absent, merged_eq⟩ :=
    get_mergeKeyfiles keyfileUser keyfileIntern group
  · obtain ⟨keys, keys_eq⟩ := exists_getKeys present
    rw [getValue_congr merged_eq, getValue_mergeGroup keys_eq, getValue_congr before_eq,
      getValue_keyfileCopy]
  · rw [getValue_congr merged_eq, getValue_keyfileCopy, mergedValue_of_hasGroup absent]

theorem hasGroup_mergeKeyfiles {keyfileUser keyfileIntern : GKeyFile} :
    (mergeKeyfiles (some keyfileUser) (some keyfileIntern)).hasGroup group = true ↔
      (∃ key, keyfileIntern.hasKey group key = true ∧ setsKey keyfileIntern group key = true) ∨
        replaces keyfileIntern group = false ∧ ∃ key, keyfileUser.hasKey group key = true := by
  obtain ⟨present, before, before_eq, merged_eq⟩ | ⟨absent, merged_eq⟩ :=
    get_mergeKeyfiles keyfileUser keyfileIntern group
  · obtain ⟨keys, keys_eq⟩ := exists_getKeys present
    rw [hasGroup_congr merged_eq, hasGroup_mergeGroup keys_eq, hasGroup_congr before_eq,
      Bool.or_eq_true_iff, Bool.and_eq_true_iff, hasGroup_keyfileCopy, List.any_eq_true,
      Bool.not_eq_true']
    refine or_congr_left (exists_congr fun key => ?_)
    rw [mem_keys_iff keys_eq]
  · have no_key := fun key => not_hasKey_of_hasGroup absent key
    rw [hasGroup_congr merged_eq, hasGroup_keyfileCopy]
    simp [replaces, no_key]

end NetworkManager.Config
