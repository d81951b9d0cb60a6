import NetworkManager.Config.KeyFile
import NetworkManager.Core.MatchSpec

/-!
# Sections for connections and devices

The configuration files are merged into one key file, and the sections for connections (or devices)
are listed with decreasing priority.  Within a file the groups are turned around before they are
merged, so that turning around all sections in the end gives each file from top to bottom.  This
file finds the order of the sections and the one that is looked up.
-/

namespace NetworkManager.Config

open GKeyFile List Option

open MatchSpec (matchSpecSplit matchSpecJoin)

/-- What the files are read with: functions of the key file library on values, a value of the build
configuration, and the condition under which a snippet is ignored. -/
structure Environment where
  /-- `g_key_file_get_string`, from a value. -/
  parseString : Text → Option Text
  /-- `g_key_file_get_string_list`, from a value. -/
  parseStringList : Text → Option (List Text)
  /-- The value that `nm_config_keyfile_set_string_list` sets. -/
  stringListValue : List Text → Text
  /-- `NM_CONFIG_DEFAULT_MAIN_PLUGINS`. -/
  defaultMainPlugins : Text
  ignoreConfigSnippet : GKeyFile → Bool → Bool

/-- `_setting_is_device_spec`. -/
def settingIsDeviceSpec (group key : Text) : Bool :=
  (group = "main".toList && key = "no-auto-default".toList) ||
  (group = "main".toList && key = "ignore-carrier".toList) ||
  (group = "main".toList && key = "assume-ipv6ll-only".toList) ||
  (group = "keyfile".toList && key = "unmanaged-devices".toList) ||
  (isConnection group && key = "match-device".toList) ||
  (isDevice group && key = "match-device".toList)

/-- `_setting_is_string_list`. -/
def settingIsStringList (group key : Text) : Bool :=
  (group = "main".toList && key = "plugins".toList) ||
  (group = "main".toList && key = "debug".toList) ||
  (group = "logging".toList && key = "domains".toList) ||
  ".test-append-stringlist".toList.isPrefixOf group

/-- The keys that the user cannot set. -/
def isProtected (key : Text) : Bool :=
  (rest keysWas key).isSome || (rest keysSet key).isSome || key = keyAtomicSectionWas

def extendedKey (key : Text) : Option (Text × Bool) :=
  if key.length > 1 then
    if key.getLast? = some '+' then some (key.dropLast, true)
    else if key.getLast? = some '-' then some (key.dropLast, false)
    else none
  else none

/-- The elements of a list after others are added to it or removed from it. -/
def mergeLists (adds : Bool) (old new : List Text) : List Text :=
  (old.filter fun word => adds || !new.contains word) ++
    (new.filter fun word => adds && !old.contains word)

section ReadConfig

variable (environment : Environment)

/-- The branch of `read_config` for a key that extends a string list. -/
def extendStringList (kf keyfile : GKeyFile) (group key baseKey : Text) (adds : Bool) : GKeyFile :=
  let oldVal := (keyfile.getValue group baseKey).bind environment.parseStringList
  let newVal := (kf.getValue group key).bind environment.parseStringList
  let unspecified := oldVal.isNone && !keyfile.hasKey group baseKey &&
    group = "main".toList && baseKey = "plugins".toList
  let keyfile :=
    if unspecified then keyfile.setValue group baseKey environment.defaultMainPlugins else keyfile
  let oldVal :=
    if unspecified then environment.parseStringList environment.defaultMainPlugins else oldVal
  let new := mergeLists adds (oldVal.getD []) (newVal.getD [])
  if new.length > 0 then keyfile.setValue group baseKey (environment.stringListValue new)
  else keyfile.removeKey group baseKey

/-- The branch of `read_config` for a key that extends a list of device specifications. -/
def extendDeviceSpec (kf keyfile : GKeyFile) (group key baseKey : Text) (adds : Bool) : GKeyFile :=
  let oldVal := ((keyfile.getValue group baseKey).map matchSpecSplit).getD []
  let newVal := ((kf.getValue group key).map matchSpecSplit).getD []
  let new := mergeLists adds oldVal newVal
  keyfile.setValue group baseKey (if new.length > 0 then matchSpecJoin new else [])

/-- One turn of the loop over keys in `read_config`. -/
def readKey (kf : GKeyFile) (group : Text) (keyfile : GKeyFile) (key : Text) : GKeyFile :=
  if isProtected key then keyfile
  else
    match extendedKey key with
    | some (baseKey, adds) =>
      if settingIsStringList group baseKey then
        extendStringList environment kf keyfile group key baseKey adds
      else if settingIsDeviceSpec group baseKey then
        extendDeviceSpec kf keyfile group key baseKey adds
      else keyfile
    | none =>
      match kf.getValue group key with
      | some newValue => keyfile.setValue group key newValue
      | none => keyfile

/-- One turn of the loop over groups in `read_config`. -/
def readGroup (kf keyfile : GKeyFile) (group : Text) : GKeyFile :=
  if groupsIntern.isPrefixOf group then keyfile
  else
    match kf.getKeys group with
    | none => keyfile
    | some keys => keys.foldl (readKey environment kf group) keyfile

/-- A file that was loaded. -/
structure ConfigFile where
  kf : GKeyFile
  /-- Whether it is the main file. -/
  isBaseConfig : Bool

/-- `read_config`, of a file that was loaded. -/
def readConfig (keyfile : GKeyFile) (file : ConfigFile) : GKeyFile :=
  if environment.ignoreConfigSnippet file.kf file.isBaseConfig then keyfile
  else
    let kf := file.kf.removeGroup groupConfig
    (sortGroups kf.getGroups).foldl (readGroup environment kf) keyfile

end ReadConfig

/-- `MatchSectionInfo`. -/
structure MatchSectionInfo where
  groupName : Text
  matchDevice : Option (List Text)
  /-- Whether no later section is looked up. -/
  stopMatch : Bool
  deriving DecidableEq

/-- `_get_connection_info_init`. -/
def getConnectionInfoInit (keyfile : GKeyFile) (group : Text) : MatchSectionInfo where
  groupName := group
  matchDevice := (keyfile.getValue group "match-device".toList).map matchSpecSplit
  stopMatch := ((keyfile.getValue group "stop-match".toList).bind Ascii.strToBool).getD false

/-- `_match_section_infos_construct`. -/
def matchSectionInfosConstruct (keyfile : GKeyFile) (start : Text) : List MatchSectionInfo :=
  let groups := keyfile.getGroups.filter start.isPrefixOf
  let connectionTag := (groups.filter fun group => group.length = start.length).getLast?
  let tagged := groups.filter fun group => group.length ≠ start.length
  (tagged.reverse ++ connectionTag.toList).map (getConnectionInfoInit keyfile)

/-- `_match_section_infos_lookup`, with the section and the value.  The device or link is given by
the specifications that it matches; there may be none. -/
def matchSectionInfosLookup (parseString : Text → Option Text) (keyfile : GKeyFile)
    (property : Text) (target : Option (List Text → Bool)) :
    List MatchSectionInfo → Option (MatchSectionInfo × Option Text)
  | [] => none
  | info :: infos =>
    let value := (keyfile.getValue info.groupName property).bind parseString
    if value.isNone && !info.stopMatch then
      matchSectionInfosLookup parseString keyfile property target infos
    else
      let matching : Bool :=
        match info.matchDevice with
        | some spec => target.any fun matchList => matchList spec
        | none => true
      if matching then some (info, value)
      else matchSectionInfosLookup parseString keyfile property target infos

inductive SectionKind where
  | connection
  | device
  deriving DecidableEq, Repr

namespace SectionKind

/-- The beginning of the names of the sections. -/
def start : SectionKind → Text
  | .connection => groupsConnection
  | .device => groupsDevice

def has (kind : SectionKind) (group : Text) : Bool := kind.start.isPrefixOf group

/-- Whether `read_config` takes over a key of a section.  A key that extends another one is dropped
unless that is a list. -/
def takesKey (group key : Text) : Bool :=
  !isProtected key &&
    match extendedKey key with
    | some (baseKey, _) => settingIsDeviceSpec group baseKey
    | none => true

/-- Whether `read_config` takes over a section of a file, because of one of its keys. -/
def takesSection (kf : GKeyFile) (group : Text) : Bool :=
  (kf.getKeys group).any fun keys => keys.any (takesKey group)

/-- The sections of a file from top to bottom. -/
def sectionsOf (kind : SectionKind) (file : ConfigFile) : List Text :=
  (file.kf.getGroups.filter kind.has).filter (takesSection file.kf)

def filesRead (environment : Environment) (files : List ConfigFile) : List ConfigFile :=
  files.filter fun file => !environment.ignoreConfigSnippet file.kf file.isBaseConfig

/-- The sections by their priority: later files first, each file from top to bottom, and the section
whose name is just the beginning of the others last. -/
def sectionOrder (kind : SectionKind) (environment : Environment) (files : List ConfigFile) :
    List Text :=
  let sections := (filesRead environment files).reverse.flatMap kind.sectionsOf
  (sections.filter fun group => group ≠ kind.start) ++
    (sections.filter fun group => group = kind.start)

end SectionKind

theorem head_of_isPrefixOf {start text : Text} (starts : start.isPrefixOf text = true)
    (nonempty : start ≠ []) : text.head? = start.head? := by
  obtain ⟨others, rfl⟩ := isPrefixOf_iff_prefix.mp starts
  obtain ⟨c, tail, rfl⟩ := exists_cons_of_ne_nil nonempty
  rfl

variable {kind : SectionKind} {group : Text}

section

variable (section_of : kind.has group = true)

include section_of

theorem head_of_has : group.head? = some 'c' ∨ group.head? = some 'd' := by
  cases kind with
  | connection => exact .inl (head_of_isPrefixOf section_of (by decide))
  | device => exact .inr (head_of_isPrefixOf section_of (by decide))

theorem has_apart {text : Text} (nonempty : text ≠ []) (not_c : text.head? ≠ some 'c')
    (not_d : text.head? ≠ some 'd') :
    group ≠ text ∧ text.isPrefixOf group = false := by
  have head := head_of_has section_of
  refine ⟨?_, ?_⟩
  · rintro rfl
    exact head.elim not_c not_d
  · cases starts : text.isPrefixOf group with
    | false => rfl
    | true =>
      rw [head_of_isPrefixOf starts nonempty] at head
      exact absurd head (not_or.mpr ⟨not_c, not_d⟩)

theorem not_stringList_of_has (key : Text) : settingIsStringList group key = false := by
  unfold settingIsStringList
  rw [decide_eq_false (has_apart section_of (by decide) (by decide) (by decide)).1,
    decide_eq_false (has_apart section_of (by decide) (by decide) (by decide)).1,
    (has_apart section_of (by decide) (by decide) (by decide)).2]
  rfl

theorem has_not_intern : groupsIntern.isPrefixOf group = false ∧ group ≠ groupConfig :=
  ⟨(has_apart section_of (by decide) (by decide) (by decide)).2,
    (has_apart section_of (by decide) (by decide) (by decide)).1⟩

end

section

variable (environment : Environment) {kind : SectionKind} {group : Text} {keyfile : GKeyFile}

theorem getGroups_readKey (section_of : kind.has group = true) {kf : GKeyFile} {key : Text}
    (has_value : (kf.getValue group key).isSome = true) (keyfile : GKeyFile) :
    (readKey environment kf group keyfile key).getGroups =
      if SectionKind.takesKey group key then GKeyFile.addGroup keyfile.getGroups group
      else keyfile.getGroups := by
  unfold readKey SectionKind.takesKey
  cases isProtected key with
  | true => rfl
  | false =>
    rw [if_neg Bool.false_ne_true]
    cases extendedKey key with
    | some extended =>
      dsimp only
      rw [not_stringList_of_has section_of, if_neg Bool.false_ne_true]
      by_cases device_spec : settingIsDeviceSpec group extended.1 = true
      · rw [if_pos device_spec, if_pos (by simpa using device_spec)]
        exact getGroups_setValue ..
      · rw [if_neg device_spec, if_neg (by simpa using device_spec)]
    | none =>
      obtain ⟨value, value_eq⟩ := isSome_iff_exists.mp has_value
      rw [value_eq]
      exact getGroups_setValue ..

theorem getGroups_readGroup (section_of : kind.has group = true) (kf keyfile : GKeyFile) :
    (readGroup environment kf keyfile group).getGroups =
      if SectionKind.takesSection kf group then GKeyFile.addGroup keyfile.getGroups group
      else keyfile.getGroups := by
  unfold readGroup SectionKind.takesSection
  rw [(has_not_intern section_of).1, if_neg Bool.false_ne_true]
  split
  · rename_i absent
    rw [absent]
    rfl
  · rename_i keys keys_eq
    rw [keys_eq, any_some]
    exact getGroups_foldl (fun keyfile key listed =>
      getGroups_readKey environment section_of (isSome_getValue keys_eq listed) keyfile) keyfile

theorem filter_getGroups_readKey (other : kind.has group = false) (kf keyfile : GKeyFile)
    (key : Text) :
    (readKey environment kf group keyfile key).getGroups.filter kind.has =
      keyfile.getGroups.filter kind.has := by
  have set_filter : ∀ (keyfile : GKeyFile) (key value : Text),
      (keyfile.setValue group key value).getGroups.filter kind.has =
        keyfile.getGroups.filter kind.has := by
    intro keyfile key value
    rw [getGroups_setValue, addGroup]
    split
    · rfl
    · rw [filter_append, filter_cons_of_neg (by simp [other]), filter_nil, append_nil]
  unfold readKey
  split
  · rfl
  · split
    · split
      · unfold extendStringList
        dsimp only
        split
        · split
          · rw [set_filter, set_filter]
          · rw [getGroups_removeKey, set_filter]
        · split
          · exact set_filter ..
          · rw [getGroups_removeKey]
      · split
        · exact set_filter ..
        · rfl
    · split
      · exact set_filter ..
      · rfl

theorem filter_getGroups_readGroup (other : kind.has group = false) (kf keyfile : GKeyFile) :
    (readGroup environment kf keyfile group).getGroups.filter kind.has =
      keyfile.getGroups.filter kind.has := by
  unfold readGroup
  split
  · rfl
  · split
    · rfl
    · rename_i keys _
      clear * - other
      induction keys generalizing keyfile with
      | nil => rfl
      | cons key keys ih =>
        rw [foldl_cons, ih, filter_getGroups_readKey environment other]

def SectionKind.rank : SectionKind → Nat
  | .connection => 2
  | .device => 1

theorem groupRank_eq_iff (kind : SectionKind) (group : Text) :
    groupRank group = kind.rank ↔ kind.has group = true := by
  cases kind with
  | connection =>
    show groupRank group = 2 ↔ isConnection group = true
    unfold groupRank
    split
    · rename_i is_connection
      exact iff_of_true rfl is_connection
    · rename_i not_connection
      refine iff_of_false ?_ not_connection
      split <;> decide
  | device =>
    show groupRank group = 1 ↔ isDevice group = true
    unfold groupRank
    split
    · rename_i is_connection
      refine iff_of_false (by decide) fun is_device => ?_
      have c_head := head_of_isPrefixOf is_connection (by decide)
      rw [head_of_isPrefixOf is_device (by decide)] at c_head
      exact absurd c_head (by decide)
    · split
      · rename_i is_device
        exact iff_of_true rfl is_device
      · rename_i not_device
        exact iff_of_false (by decide) not_device

theorem filter_sortGroups (kind : SectionKind) (groups : List Text) :
    (sortGroups groups).filter kind.has = (groups.filter kind.has).reverse := by
  have of_rank : ∀ groups, InPlaceSort.ofRank groupRank kind.rank groups =
      groups.filter kind.has := by
    intro groups
    refine filter_congr fun group _ => ?_
    rw [Bool.eq_iff_iff, decide_eq_true_iff]
    exact groupRank_eq_iff kind group
  have rank_ne : kind.rank ≠ 0 := by cases kind <;> decide
  rw [← of_rank, ← of_rank, ofRank_sortGroups rank_ne]

theorem filter_removeGroup (kind : SectionKind) (kf : GKeyFile) :
    (kf.removeGroup groupConfig).getGroups.filter kind.has = kf.getGroups.filter kind.has ∧
      ∀ group, kind.has group = true →
        SectionKind.takesSection (kf.removeGroup groupConfig) group =
          SectionKind.takesSection kf group := by
  refine ⟨?_, ?_⟩
  · rw [getGroups_removeGroup, List.filter_filter]
    refine filter_congr fun group _ => ?_
    cases section_of : kind.has group with
    | false => rfl
    | true => simp [(has_not_intern section_of).2]
  · intro group section_of
    have same : (kf.removeGroup groupConfig).getKeys group = kf.getKeys group := by
      unfold getKeys removeGroup
      rw [OrderedMap.get_erase, if_neg (has_not_intern section_of).2]
    unfold SectionKind.takesSection
    rw [same]

theorem filter_getGroups_readConfig {file : ConfigFile}
    (read : environment.ignoreConfigSnippet file.kf file.isBaseConfig = false)
    (distinct : (keyfile.getGroups.filter kind.has ++ file.kf.getGroups.filter kind.has).Nodup) :
    (readConfig environment keyfile file).getGroups.filter kind.has =
      keyfile.getGroups.filter kind.has ++ (kind.sectionsOf file).reverse := by
  obtain ⟨same_groups, same_sections⟩ := filter_removeGroup kind file.kf
  unfold readConfig
  rw [read, if_neg Bool.false_ne_true]
  dsimp only
  have sorted_distinct : (keyfile.getGroups.filter kind.has ++
      (sortGroups (file.kf.removeGroup groupConfig).getGroups).filter kind.has).Nodup := by
    rw [filter_sortGroups, same_groups]
    exact ((Perm.refl _).append (reverse_perm _)).nodup_iff.mpr distinct
  rw [filter_getGroups_foldl
    (fun keyfile group section_of =>
      getGroups_readGroup environment section_of (file.kf.removeGroup groupConfig) keyfile)
    (fun keyfile group other =>
      filter_getGroups_readGroup environment other (file.kf.removeGroup groupConfig) keyfile)
    keyfile sorted_distinct, filter_sortGroups, same_groups, filter_reverse]
  unfold SectionKind.sectionsOf
  rw [filter_congr fun group listed =>
    same_sections group (mem_filter.mp listed).2]

/-- `read_config` for one file after the other. -/
def readConfigs (files : List ConfigFile) : GKeyFile :=
  files.foldl (readConfig environment) .empty

theorem filter_getGroups_foldl_readConfig {files : List ConfigFile}
    (distinct : (keyfile.getGroups.filter kind.has ++
      (SectionKind.filesRead environment files).flatMap fun file =>
        file.kf.getGroups.filter kind.has).Nodup) :
    (files.foldl (readConfig environment) keyfile).getGroups.filter kind.has =
      keyfile.getGroups.filter kind.has ++
        (SectionKind.filesRead environment files).flatMap fun file =>
          (kind.sectionsOf file).reverse := by
  induction files generalizing keyfile with
  | nil => simp [SectionKind.filesRead]
  | cons file files ih =>
    unfold SectionKind.filesRead at distinct ih ⊢
    rw [foldl_cons]
    cases ignored : environment.ignoreConfigSnippet file.kf file.isBaseConfig with
    | true =>
      rw [filter_cons_of_neg (by simp [ignored])] at distinct ⊢
      have unread : readConfig environment keyfile file = keyfile := if_pos ignored
      rw [unread]
      exact ih distinct
    | false =>
      rw [filter_cons_of_pos (by simp [ignored])] at distinct ⊢
      rw [flatMap_cons] at distinct ⊢
      have first_distinct : (keyfile.getGroups.filter kind.has ++
          file.kf.getGroups.filter kind.has).Nodup := by
        rw [← append_assoc] at distinct
        exact distinct.sublist (sublist_append_left _ _)
      have first := filter_getGroups_readConfig environment ignored first_distinct
      rw [ih, first, append_assoc]
      rw [first, append_assoc]
      have fewer : (keyfile.getGroups.filter kind.has ++ (kind.sectionsOf file ++
          (files.filter fun file =>
            !environment.ignoreConfigSnippet file.kf file.isBaseConfig).flatMap fun file =>
              file.kf.getGroups.filter kind.has)).Nodup :=
        distinct.sublist ((Sublist.refl _).append (filter_sublist.append (Sublist.refl _)))
      exact ((Perm.refl _).append ((reverse_perm _).append (Perm.refl _))).nodup_iff.mpr fewer

/-- Every section has a key. -/
def Filled (keyfile : GKeyFile) : Prop :=
  ∀ (kind : SectionKind) (group : Text), kind.has group = true → keyfile.getKeys group ≠ some []

theorem Filled.setValue (filled : Filled keyfile) (group key value : Text) :
    Filled (keyfile.setValue group key value) := by
  intro kind other section_of
  unfold getKeys GKeyFile.setValue
  rw [OrderedMap.get_set]
  split
  · intro empty
    have listed : key ∈ (((keyfile.groups.get group).getD .empty).set key value).keys :=
      OrderedMap.mem_keys_set.mpr (.inr rfl)
    rw [Option.some.inj empty] at listed
    cases listed
  · exact filled kind other section_of

theorem Filled.removeKey (filled : Filled keyfile)
    (other : ∀ kind : SectionKind, kind.has group = false) (key : Text) :
    Filled (keyfile.removeKey group key) := by
  intro kind section_group section_of
  have ne : section_group ≠ group := by
    rintro rfl
    rw [other kind] at section_of
    cases section_of
  have same : (keyfile.removeKey group key).getKeys section_group =
      keyfile.getKeys section_group := by
    unfold GKeyFile.removeKey getKeys
    split
    · rfl
    · rw [OrderedMap.get_set_of_ne _ ne]
  rw [same]
  exact filled kind section_group section_of

theorem Filled.readKey (filled : Filled keyfile) (kf : GKeyFile) (group key : Text) :
    Filled (readKey environment kf group keyfile key) := by
  unfold Config.readKey
  split
  · exact filled
  · split
    · split
      · rename_i baseKey _ _ string_list
        have other : ∀ kind : SectionKind, kind.has group = false := by
          intro kind
          cases section_of : kind.has group with
          | false => rfl
          | true =>
            rw [not_stringList_of_has section_of] at string_list
            cases string_list
        unfold extendStringList
        dsimp only
        split <;> split
        · exact (filled.setValue _ _ _).setValue _ _ _
        · exact (filled.setValue _ _ _).removeKey other _
        · exact filled.setValue _ _ _
        · exact filled.removeKey other _
      · split
        · exact filled.setValue _ _ _
        · exact filled
    · split
      · exact filled.setValue _ _ _
      · exact filled

theorem Filled.readGroup (filled : Filled keyfile) (kf : GKeyFile) (group : Text) :
    Filled (readGroup environment kf keyfile group) := by
  unfold Config.readGroup
  split
  · exact filled
  · split
    · exact filled
    · exact foldlRecOn _ _ filled fun _ filled key _ => filled.readKey environment kf group key

theorem Filled.readConfigs (files : List ConfigFile) : Filled (readConfigs environment files) := by
  refine foldlRecOn files _ ?_ ?_
  · intro kind group _ impossible
    cases impossible
  · intro keyfile filled file _
    unfold readConfig
    split
    · exact filled
    · exact foldlRecOn _ _ filled fun _ filled group _ => filled.readGroup environment _ group

theorem filter_getGroups_mergeKeyfiles (filled : Filled keyfile) :
    (mergeKeyfiles (some keyfile) none).getGroups.filter kind.has =
      keyfile.getGroups.filter kind.has := by
  unfold mergeKeyfiles
  dsimp only
  rw [getGroups_keyfileCopy, List.filter_filter]
  refine filter_congr fun group listed => ?_
  cases section_of : kind.has group with
  | false => rfl
  | true =>
    obtain ⟨keys, keys_eq⟩ := isSome_iff_exists.mp (OrderedMap.get_isSome.mpr listed)
    have keys_some : keyfile.getKeys group = some keys.keys := by
      rw [getKeys, keys_eq, map_some]
    have nonempty : keys.keys ≠ [] := by
      intro empty
      exact filled kind group section_of (by rw [keys_some, empty])
    rw [keys_some, any_some, decide_eq_true nonempty, Bool.and_self]

theorem length_eq_start (section_of : kind.has group = true) :
    group.length = kind.start.length ↔ group = kind.start := by
  refine ⟨fun same_length => ?_, fun same => congrArg _ same⟩
  exact ((List.isPrefixOf_iff_prefix.mp section_of).eq_of_length same_length.symm).symm

/-- The sections are turned around, and the one whose name is just the beginning is moved to the
end. -/
theorem matchSectionInfosConstruct_eq_map (kind : SectionKind) (keyfile : GKeyFile) :
    matchSectionInfosConstruct keyfile kind.start =
      (((keyfile.getGroups.filter kind.has).reverse.filter fun group => group ≠ kind.start) ++
        ((keyfile.getGroups.filter kind.has).reverse.filter fun group => group = kind.start)).map
          (getConnectionInfoInit keyfile) := by
  have distinct : (keyfile.getGroups.filter kind.has).Nodup := keyfile.nodup_getGroups.filter _
  unfold matchSectionInfosConstruct
  refine congrArg (map _) ?_
  rw [filter_reverse, filter_reverse]
  show ((keyfile.getGroups.filter kind.has).filter _).reverse ++
    (((keyfile.getGroups.filter kind.has).filter _).getLast?).toList = _
  have by_length : ∀ group ∈ keyfile.getGroups.filter kind.has,
      (group.length = kind.start.length ↔ group = kind.start) :=
    fun group listed => length_eq_start (mem_filter.mp listed).2
  generalize keyfile.getGroups.filter kind.has = sections at distinct by_length
  rw [filter_congr fun group listed => decide_eq_decide.mpr (by_length group listed),
    filter_congr fun group listed => decide_eq_decide.mpr (not_congr (by_length group listed)),
    append_cancel_left_eq]
  have at_most_one : (sections.filter fun group => decide (group = kind.start)).length ≤ 1 := by
    have counted := nodup_iff_count_le_one.mp distinct kind.start
    rw [count_eq_length_filter] at counted
    convert counted using 4
    exact (Bool.eq_iff_iff.mpr (by simp))
  match sections.filter fun group => decide (group = kind.start), at_most_one with
  | [], _ => rfl
  | [group], _ => rfl
  | _ :: _ :: _, many => simp at many

theorem matchSectionInfosLookup_eq_find (parseString : Text → Option Text) (keyfile : GKeyFile)
    (property : Text) (target : Option (List Text → Bool)) (infos : List MatchSectionInfo) :
    matchSectionInfosLookup parseString keyfile property target infos =
      (infos.find? fun info =>
        (((keyfile.getValue info.groupName property).bind parseString).isSome || info.stopMatch) &&
          info.matchDevice.all fun spec => target.any fun matchList => matchList spec).map
        fun info => (info, (keyfile.getValue info.groupName property).bind parseString) := by
  induction infos with
  | nil => rfl
  | cons info infos ih =>
    rw [matchSectionInfosLookup, find?_cons, ih]
    cases value_eq : (keyfile.getValue info.groupName property).bind parseString with
    | none =>
      cases info.stopMatch with
      | false => simp
      | true =>
        cases info.matchDevice with
        | none => simp [value_eq]
        | some spec => cases target with
          | none => simp
          | some matchList => cases given : matchList spec <;> simp [given, value_eq]
    | some value =>
      cases info.matchDevice with
      | none => simp [value_eq]
      | some spec => cases target with
        | none => simp
        | some matchList => cases given : matchList spec <;> simp [given, value_eq]

theorem reverse_flatMap_reverse (kind : SectionKind) (files : List ConfigFile) :
    (files.flatMap fun file => (kind.sectionsOf file).reverse).reverse =
      files.reverse.flatMap kind.sectionsOf := by
  rw [reverse_flatMap]
  refine flatMap_congr fun file _ => ?_
  exact reverse_reverse _

/-- The sections for connections or devices are listed with those of later files before those of
earlier files, from top to bottom in each file, and with the section whose name is just the
beginning last.  The lookup gives the first one in this order that matches, and has the property or
stops matching. -/
theorem matchSectionInfos_sectionOrder (kind : SectionKind) (files : List ConfigFile)
    (distinct : ((SectionKind.filesRead environment files).flatMap fun file =>
      file.kf.getGroups.filter kind.has).Nodup)
    (property : Text) (target : Option (List Text → Bool)) :
    let keyfile := mergeKeyfiles (some (readConfigs environment files)) none
    let infos := matchSectionInfosConstruct keyfile kind.start
    infos = (kind.sectionOrder environment files).map (getConnectionInfoInit keyfile) ∧
      matchSectionInfosLookup environment.parseString keyfile property target infos =
        (infos.find? fun info =>
          (((keyfile.getValue info.groupName property).bind environment.parseString).isSome ||
              info.stopMatch) &&
            info.matchDevice.all fun spec => target.any fun matchList => matchList spec).map
          fun info => (info, (keyfile.getValue info.groupName property).bind
            environment.parseString) := by
  intro keyfile infos
  refine ⟨?_, matchSectionInfosLookup_eq_find ..⟩
  have no_sections : GKeyFile.empty.getGroups.filter kind.has = [] := rfl
  have read : (files.foldl (readConfig environment) .empty).getGroups.filter kind.has = _ :=
    filter_getGroups_foldl_readConfig environment (by
      rw [no_sections, nil_append]
      exact distinct)
  rw [no_sections, nil_append] at read
  have listed : keyfile.getGroups.filter kind.has =
      (SectionKind.filesRead environment files).flatMap fun file =>
        (kind.sectionsOf file).reverse :=
    (filter_getGroups_mergeKeyfiles (Filled.readConfigs environment files)).trans read
  have constructed : infos = _ := matchSectionInfosConstruct_eq_map kind keyfile
  rw [constructed, listed, reverse_flatMap_reverse]
  rfl

end

/-- A main file and a snippet with sections for connections. -/
def exampleFiles : List ConfigFile :=
  let main := (GKeyFile.empty.setValue "connection".toList "ipv6.ip6-privacy".toList
    "2".toList).setValue "main".toList "dns".toList "none".toList
  let snippet := GKeyFile.empty.setValue "connection-vpn".toList "stop-match".toList "yes".toList
  [{ kf := main.setValue "connection-wifi".toList "wifi.powersave".toList "3".toList
     isBaseConfig := true },
   { kf := snippet.setValue "connection-mdns".toList "connection.mdns".toList "1".toList
     isBaseConfig := false }]

/-- Strings without escapes, and files that are all read. -/
def exampleEnvironment : Environment where
  parseString := some
  parseStringList value := some (value.splitOn ',')
  stringListValue values := List.intercalate [','] values
  defaultMainPlugins := "keyfile".toList
  ignoreConfigSnippet _ _ := false

theorem matchSectionInfos_sectionOrder_snippet :
    (matchSectionInfosConstruct (mergeKeyfiles (some (readConfigs exampleEnvironment exampleFiles))
      none) groupsConnection).map MatchSectionInfo.groupName =
        ["connection-vpn".toList, "connection-mdns".toList, "connection-wifi".toList,
          "connection".toList] := by
  have order := (matchSectionInfos_sectionOrder exampleEnvironment .connection exampleFiles
    (by decide +kernel) [] none).1
  exact (congrArg (map MatchSectionInfo.groupName) order).trans (by decide +kernel)

end NetworkManager.Config
