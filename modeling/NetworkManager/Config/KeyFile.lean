import NetworkManager.Library.InPlaceSort
import NetworkManager.Library.OrderedMap

/-!
# Configuration key files

The configuration is kept in key files, whose groups and keys have an order.  The sections for
connections and devices are sorted such that merging files one after the other gives them in the
order of increasing priority.
-/

namespace NetworkManager.Config

open List Option

/-- A name or a value. -/
abbrev Text := List Char

/-- `GKeyFile`. -/
structure GKeyFile where
  groups : OrderedMap Text (OrderedMap Text Text)
  deriving DecidableEq

namespace GKeyFile

/-- `nm_config_create_keyfile`. -/
def empty : GKeyFile := ⟨.empty⟩

section

variable (keyfile : GKeyFile)

/-- `g_key_file_get_groups`. -/
def getGroups : List Text := keyfile.groups.keys

/-- `g_key_file_get_keys`, without a value if there is no such group. -/
def getKeys (group : Text) : Option (List Text) :=
  (keyfile.groups.get group).map OrderedMap.keys

/-- `g_key_file_has_group`. -/
def hasGroup (group : Text) : Bool := (keyfile.groups.get group).isSome

/-- `g_key_file_get_value`. -/
def getValue (group key : Text) : Option Text :=
  (keyfile.groups.get group).bind fun keys => keys.get key

/-- `g_key_file_has_key`. -/
def hasKey (group key : Text) : Bool := (keyfile.getValue group key).isSome

/-- `g_key_file_set_value`. -/
def setValue (group key value : Text) : GKeyFile :=
  ⟨keyfile.groups.set group (((keyfile.groups.get group).getD .empty).set key value)⟩

/-- `g_key_file_remove_key`. -/
def removeKey (group key : Text) : GKeyFile :=
  match keyfile.groups.get group with
  | none => keyfile
  | some keys => ⟨keyfile.groups.set group (keys.erase key)⟩

/-- `g_key_file_remove_group`. -/
def removeGroup (group : Text) : GKeyFile := ⟨keyfile.groups.erase group⟩

end

variable {keyfile : GKeyFile} {group : Text}

theorem mem_getGroups :
    group ∈ keyfile.getGroups ↔ keyfile.hasGroup group = true := OrderedMap.get_isSome.symm

theorem nodup_getGroups (keyfile : GKeyFile) : keyfile.getGroups.Nodup :=
  keyfile.groups.nodup_keys

theorem getValue_empty (group key : Text) : empty.getValue group key = none := rfl

theorem get_setValue_of_ne (keyfile : GKeyFile) {group other : Text} (ne : other ≠ group)
    (key value : Text) :
    (keyfile.setValue group key value).groups.get other = keyfile.groups.get other :=
  OrderedMap.get_set_of_ne _ ne _

theorem get_removeKey_of_ne (keyfile : GKeyFile) {group other : Text} (ne : other ≠ group)
    (key : Text) : (keyfile.removeKey group key).groups.get other = keyfile.groups.get other := by
  unfold removeKey
  split
  · rfl
  · exact OrderedMap.get_set_of_ne _ ne _

theorem get_removeGroup_of_ne (keyfile : GKeyFile) {group other : Text} (ne : other ≠ group) :
    (keyfile.removeGroup group).groups.get other = keyfile.groups.get other := by
  rw [removeGroup, OrderedMap.get_erase, if_neg ne]

theorem getValue_setValue (keyfile : GKeyFile) (group key value place : Text) :
    (keyfile.setValue group key value).getValue group place =
      if place = key then some value else keyfile.getValue group place := by
  unfold getValue setValue
  rw [OrderedMap.get_set_self, bind_some, OrderedMap.get_set]
  cases keyfile.groups.get group <;> rfl

theorem getValue_removeKey (keyfile : GKeyFile) (group key place : Text) :
    (keyfile.removeKey group key).getValue group place =
      if place = key then none else keyfile.getValue group place := by
  unfold removeKey getValue
  split
  · rename_i absent
    rw [absent, bind_none, ite_self]
  · rename_i keys found
    rw [OrderedMap.get_set_self, found, bind_some, bind_some, OrderedMap.get_erase]

theorem getValue_removeGroup (keyfile : GKeyFile) (group place : Text) :
    (keyfile.removeGroup group).getValue group place = none := by
  rw [getValue, removeGroup, OrderedMap.get_erase, if_pos rfl, bind_none]

theorem hasGroup_setValue (keyfile : GKeyFile) (group key value : Text) :
    (keyfile.setValue group key value).hasGroup group = true := by
  rw [hasGroup, setValue, OrderedMap.get_set_self, isSome_some]

theorem hasGroup_removeKey (keyfile : GKeyFile) (group key : Text) :
    (keyfile.removeKey group key).hasGroup group = keyfile.hasGroup group := by
  unfold removeKey hasGroup
  split
  · rfl
  · rename_i keys found
    rw [OrderedMap.get_set_self, found, isSome_some, isSome_some]

theorem hasGroup_removeGroup (keyfile : GKeyFile) (group : Text) :
    (keyfile.removeGroup group).hasGroup group = false := by
  rw [hasGroup, removeGroup, OrderedMap.get_erase, if_pos rfl, isSome_none]

theorem hasGroup_of_hasKey {group key : Text} (has_key : keyfile.hasKey group key = true) :
    keyfile.hasGroup group = true := by
  unfold hasKey getValue at has_key
  unfold hasGroup
  cases found : keyfile.groups.get group with
  | none =>
    rw [found] at has_key
    exact has_key
  | some _ => rfl

theorem mem_keys_iff {group key : Text} {keys : List Text}
    (keys_eq : keyfile.getKeys group = some keys) :
    key ∈ keys ↔ keyfile.hasKey group key = true := by
  obtain ⟨values, found, rfl⟩ := map_eq_some_iff.mp keys_eq
  rw [hasKey, getValue, found, bind_some, OrderedMap.get_isSome]

theorem getKeys_eq_none : keyfile.getKeys group = none ↔ keyfile.hasGroup group = false := by
  rw [getKeys, map_eq_none_iff, hasGroup, isSome_eq_false_iff, isNone_iff_eq_none]

theorem getValue_eq_none_of_hasGroup (absent : keyfile.hasGroup group = false) (key : Text) :
    keyfile.getValue group key = none := by
  cases value_eq : keyfile.getValue group key with
  | none => rfl
  | some value =>
    have has_key : keyfile.hasKey group key = true := by rw [hasKey, value_eq, isSome_some]
    rw [hasGroup_of_hasKey has_key] at absent
    cases absent

theorem not_hasKey_of_hasGroup (absent : keyfile.hasGroup group = false) (key : Text) :
    keyfile.hasKey group key = false := by
  rw [hasKey, getValue_eq_none_of_hasGroup absent, isSome_none]

theorem exists_getKeys (present : keyfile.hasGroup group = true) :
    ∃ keys, keyfile.getKeys group = some keys := by
  cases keys_eq : keyfile.getKeys group with
  | none =>
    rw [getKeys_eq_none.mp keys_eq] at present
    cases present
  | some keys => exact ⟨keys, rfl⟩

theorem hasKey_setValue {group key value other place : Text} :
    (keyfile.setValue group key value).hasKey other place = true ↔
      other = group ∧ place = key ∨ keyfile.hasKey other place = true := by
  unfold hasKey
  by_cases same : other = group
  · rw [same, getValue_setValue]
    by_cases same_key : place = key
    · simp [same_key]
    · simp [same_key]
  · rw [getValue, get_setValue_of_ne _ same, ← getValue]
    simp [same]

theorem hasKey_of_removeKey {group key other place : Text}
    (has_key : (keyfile.removeKey group key).hasKey other place = true) :
    keyfile.hasKey other place = true := by
  unfold hasKey at has_key ⊢
  by_cases same : other = group
  · rw [same, getValue_removeKey] at has_key
    split at has_key
    · cases has_key
    · rwa [same]
  · rwa [getValue, get_removeKey_of_ne _ same, ← getValue] at has_key

def addGroup (groups : List Text) (group : Text) : List Text :=
  if group ∈ groups then groups else groups ++ [group]

theorem getGroups_setValue (keyfile : GKeyFile) (group key value : Text) :
    (keyfile.setValue group key value).getGroups = addGroup keyfile.getGroups group := by
  rw [getGroups, setValue, OrderedMap.keys_set]
  unfold addGroup getGroups
  congr

theorem getGroups_removeKey (keyfile : GKeyFile) (group key : Text) :
    (keyfile.removeKey group key).getGroups = keyfile.getGroups := by
  unfold removeKey
  split
  · rfl
  · rename_i keys found
    exact (OrderedMap.keys_set ..).trans (if_pos (OrderedMap.mem_keys_of_get found))

theorem getGroups_removeGroup (keyfile : GKeyFile) (group : Text) :
    (keyfile.removeGroup group).getGroups = keyfile.getGroups.filter (· ≠ group) :=
  OrderedMap.keys_erase ..

theorem addGroup_self (groups : List Text) (group : Text) :
    addGroup (addGroup groups group) group = addGroup groups group := by
  have listed : group ∈ addGroup groups group := by
    unfold addGroup
    split
    · assumption
    · simp
  exact if_pos listed

theorem getGroups_foldl {step : GKeyFile → Text → GKeyFile} {adds : Text → Bool} {keys : List Text}
    (step_groups : ∀ keyfile, ∀ key ∈ keys, (step keyfile key).getGroups =
      if adds key then addGroup keyfile.getGroups group else keyfile.getGroups) (keyfile : GKeyFile) :
    (keys.foldl step keyfile).getGroups =
      if keys.any adds then addGroup keyfile.getGroups group else keyfile.getGroups := by
  induction keys generalizing keyfile with
  | nil => rfl
  | cons key keys ih =>
    rw [foldl_cons, ih fun keyfile other listed =>
        step_groups keyfile other (mem_cons_of_mem _ listed),
      step_groups keyfile key mem_cons_self, any_cons]
    cases adds key <;> cases keys.any adds <;> simp [addGroup_self]

theorem filter_getGroups_foldl {kind adds : Text → Bool} {step : GKeyFile → Text → GKeyFile}
    (added : ∀ keyfile group, kind group = true → (step keyfile group).getGroups =
      if adds group then addGroup keyfile.getGroups group else keyfile.getGroups)
    (others : ∀ keyfile group, kind group = false →
      (step keyfile group).getGroups.filter kind = keyfile.getGroups.filter kind)
    {groups : List Text} (keyfile : GKeyFile)
    (distinct : (keyfile.getGroups.filter kind ++ groups.filter kind).Nodup) :
    (groups.foldl step keyfile).getGroups.filter kind =
      keyfile.getGroups.filter kind ++ (groups.filter kind).filter adds := by
  induction groups generalizing keyfile with
  | nil => simp
  | cons group groups ih =>
    rw [foldl_cons]
    cases of_kind : kind group with
    | false =>
      rw [filter_cons_of_neg (by simp [of_kind])] at distinct ⊢
      have unchanged := others keyfile group of_kind
      rw [ih _ (by rwa [unchanged]), unchanged]
    | true =>
      rw [filter_cons_of_pos of_kind] at distinct ⊢
      have absent : group ∉ keyfile.getGroups := by
        intro listed
        exact disjoint_of_nodup_append distinct
          (mem_filter.mpr ⟨listed, of_kind⟩) mem_cons_self
      have step_filter : (step keyfile group).getGroups.filter kind =
          keyfile.getGroups.filter kind ++ if adds group then [group] else [] := by
        rw [added keyfile group of_kind]
        cases adds group with
        | false => simp
        | true =>
          unfold addGroup
          rw [if_pos rfl, if_neg absent, filter_append]
          simp [of_kind]
      rw [ih]
      · rw [step_filter, filter_cons, append_assoc]
        cases adds group <;> simp
      · rw [step_filter]
        refine distinct.sublist ?_
        cases adds group <;> simp

end GKeyFile

/-- `NM_CONFIG_KEYFILE_GROUPPREFIX_CONNECTION`. -/
def groupsConnection : Text := "connection".toList

/-- `NM_CONFIG_KEYFILE_GROUPPREFIX_DEVICE`. -/
def groupsDevice : Text := "device".toList

/-- `NM_CONFIG_KEYFILE_GROUPPREFIX_INTERN`. -/
def groupsIntern : Text := ".intern.".toList

/-- `NM_CONFIG_KEYFILE_GROUP_CONFIG`. -/
def groupConfig : Text := ".config".toList

/-- `NM_CONFIG_KEYFILE_KEY_ATOMIC_SECTION_WAS`. -/
def keyAtomicSectionWas : Text := ".was".toList

/-- `NM_CONFIG_KEYFILE_KEYPREFIX_WAS`. -/
def keysWas : Text := ".was.".toList

/-- `NM_CONFIG_KEYFILE_KEYPREFIX_SET`. -/
def keysSet : Text := ".set.".toList

/-- What follows the beginning of a text, if there is anything: the text passes `_HAS_PREFIX`
exactly if there is. -/
def rest (start text : Text) : Option Text :=
  if start.isPrefixOf text ∧ start.length < text.length then some (text.drop start.length) else none

def isConnection (group : Text) : Bool := groupsConnection.isPrefixOf group

def isDevice (group : Text) : Bool := groupsDevice.isPrefixOf group

/-- `_sort_groups_cmp`, of names with their places in the array. -/
def sortGroupsCmp (a b : Text × Nat) : Ordering :=
  if isConnection a.1 ≠ isConnection b.1 then if isConnection a.1 then .gt else .lt
  else if isConnection a.1 then if a.2 > b.2 then .lt else .gt
  else if isDevice a.1 ≠ isDevice b.1 then if isDevice a.1 then .gt else .lt
  else if isDevice a.1 then if a.2 > b.2 then .lt else .gt
  else .eq

/-- `_nm_config_sort_groups`. -/
def sortGroups (groups : List Text) : List Text :=
  if groups.length > 1 then InPlaceSort.sort sortGroupsCmp groups else groups

def groupRank (group : Text) : Nat :=
  if isConnection group then 2 else if isDevice group then 1 else 0

theorem ranks_sortGroupsCmp : InPlaceSort.Ranks sortGroupsCmp groupRank fun rank => rank ≠ 0 := by
  intro a b before
  unfold sortGroupsCmp groupRank
  have not_after : ¬ b.2 < a.2 := Nat.not_lt.mpr before.le
  cases isConnection a.1 <;> cases isConnection b.1 <;> cases isDevice a.1 <;>
    cases isDevice b.1 <;> simp [not_after]

theorem sortGroups_perm (groups : List Text) : (sortGroups groups).Perm groups := by
  unfold sortGroups
  split
  · exact InPlaceSort.sort_perm _ _
  · exact Perm.refl _

theorem ofRank_sortGroups {rank : Nat} (sections : rank ≠ 0) (groups : List Text) :
    InPlaceSort.ofRank groupRank rank (sortGroups groups) =
      (InPlaceSort.ofRank groupRank rank groups).reverse := by
  unfold sortGroups
  split
  · rw [InPlaceSort.ofRank_sort ranks_sortGroupsCmp, if_pos (decide_eq_true sections)]
  · rename_i short
    match groups, short with
    | [], _ => rfl
    | [group], _ =>
      unfold InPlaceSort.ofRank
      by_cases same : groupRank group = rank <;> simp [same]
    | _ :: _ :: _, short => simp at short

/-- One turn of the loop over keys in `_nm_keyfile_copy`. -/
def copyKey (src : GKeyFile) (group : Text) (dst : GKeyFile) (key : Text) : GKeyFile :=
  match src.getValue group key with
  | some value => dst.setValue group key value
  | none => dst.removeKey group key

/-- One turn of the loop over groups in `_nm_keyfile_copy`. -/
def copyGroup (src dst : GKeyFile) (group : Text) : GKeyFile :=
  match src.getKeys group with
  | none => dst
  | some keys => keys.foldl (copyKey src group) dst

/-- `_nm_keyfile_copy`. -/
def keyfileCopy (dst src : GKeyFile) : GKeyFile := src.getGroups.foldl (copyGroup src) dst

/-- One turn of the loop over keys in `_merge_keyfiles`. -/
def mergeKey (keyfileIntern : GKeyFile) (group : Text) (isIntern isAtomic : Bool)
    (keyfile : GKeyFile) (key : Text) : GKeyFile :=
  if isAtomic && key = keyAtomicSectionWas then keyfile
  else
    match if !isIntern && !isAtomic then rest keysWas key else none with
    | some keyBase =>
      if keyfileIntern.hasKey group keyBase then keyfile else keyfile.removeKey group keyBase
    | none =>
      if !isIntern && !isAtomic && (rest keysSet key).isSome then keyfile
      else
        match keyfileIntern.getValue group key with
        | some value => keyfile.setValue group key value
        | none => keyfile

/-- One turn of the loop over groups in `_merge_keyfiles`. -/
def mergeGroup (keyfileIntern keyfile : GKeyFile) (group : Text) : GKeyFile :=
  match keyfileIntern.getKeys group with
  | none => keyfile
  | some keys =>
    let isIntern := groupsIntern.isPrefixOf group
    let isAtomic := !isIntern && keyfileIntern.hasKey group keyAtomicSectionWas
    keys.foldl (mergeKey keyfileIntern group isIntern isAtomic)
      (if isAtomic then keyfile.removeGroup group else keyfile)

/-- `_merge_keyfiles`. -/
def mergeKeyfiles (keyfileUser keyfileIntern : Option GKeyFile) : GKeyFile :=
  let keyfile :=
    match keyfileUser with
    | some keyfileUser => keyfileCopy .empty keyfileUser
    | none => .empty
  match keyfileIntern with
  | none => keyfile
  | some keyfileIntern =>
    (sortGroups keyfileIntern.getGroups).foldl (mergeGroup keyfileIntern) keyfile

theorem isSome_getValue {keyfile : GKeyFile} {group key : Text} {keys : List Text}
    (keys_eq : keyfile.getKeys group = some keys) (listed : key ∈ keys) :
    (keyfile.getValue group key).isSome = true := by
  obtain ⟨values, found, rfl⟩ := map_eq_some_iff.mp keys_eq
  rw [GKeyFile.getValue, found]
  exact OrderedMap.get_isSome.mpr listed

theorem getGroups_copyGroup (src dst : GKeyFile) (group : Text) :
    (copyGroup src dst group).getGroups =
      if (src.getKeys group).any (· ≠ []) then GKeyFile.addGroup dst.getGroups group
      else dst.getGroups := by
  unfold copyGroup
  split
  · rename_i absent
    rw [absent]
    rfl
  · rename_i keys keys_eq
    have step_groups : ∀ dst : GKeyFile, ∀ key ∈ keys, (copyKey src group dst key).getGroups =
        if (fun _ => true) key then GKeyFile.addGroup dst.getGroups group else dst.getGroups := by
      intro dst key listed
      obtain ⟨value, value_eq⟩ := isSome_iff_exists.mp (isSome_getValue keys_eq listed)
      rw [copyKey, value_eq]
      exact GKeyFile.getGroups_setValue dst group key value
    rw [GKeyFile.getGroups_foldl step_groups, keys_eq]
    cases keys <;> rfl

theorem getGroups_keyfileCopy (src : GKeyFile) :
    (keyfileCopy .empty src).getGroups =
      src.getGroups.filter fun group => (src.getKeys group).any (· ≠ []) := by
  have all_groups : ∀ groups : List Text, groups.filter (fun _ => true) = groups :=
    fun groups => filter_eq_self.mpr fun _ _ => rfl
  have distinct : (GKeyFile.empty.getGroups.filter (fun _ => true) ++
      src.getGroups.filter (fun _ => true)).Nodup := by
    rw [all_groups, all_groups]
    exact src.nodup_getGroups
  have copied := GKeyFile.filter_getGroups_foldl
    (fun dst group _ => getGroups_copyGroup src dst group)
    (fun _ _ impossible => absurd impossible (by simp)) .empty distinct
  rw [all_groups, all_groups, all_groups] at copied
  exact copied

end NetworkManager.Config
