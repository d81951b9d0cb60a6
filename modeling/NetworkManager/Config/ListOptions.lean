import NetworkManager.Config.MatchSections
import NetworkManager.Library.Loop
import NetworkManager.Library.Machine
import NetworkManager.Library.UniqueList

/-!
# Options that are lists

A key with a plus or a minus at the end adds elements to the list that an earlier file gave, or
removes elements from it.  The list is read from the value of the key and written back each time.
This file finds when the value after all files is what the assignments make of it one after another.
-/

namespace NetworkManager.Config

open GKeyFile List Option

open MatchSpec (matchSpecSplit matchSpecJoin Kept)

/-- What a file says about an option that is a list. -/
inductive ListAssignment where
  | set (words : List Text)
  | add (words : List Text)
  | remove (words : List Text)
  deriving DecidableEq

/-- Elements are appended unless they are present, or removed. -/
def ListAssignment.apply (list : List Text) : ListAssignment → List Text
  | .set words => words
  | .add words => words.foldl (UniqueList.add some) list
  | .remove words => UniqueList.without list words

section Options

variable (environment : Environment) (group key : Text)

def readList (value : Text) : List Text :=
  if settingIsStringList group key then (environment.parseStringList value).getD []
  else matchSpecSplit value

/-- The list of an option without a value. -/
def defaultList : List Text :=
  if group = "main".toList ∧ key = "plugins".toList then
    (environment.parseStringList environment.defaultMainPlugins).getD []
  else []

def listOption (keyfile : GKeyFile) : List Text :=
  ((keyfile.getValue group key).map (readList environment group key)).getD
    (defaultList environment group key)

/-- What a key of a file says about an option. -/
def assignmentOf (kf : GKeyFile) (place : Text) : Option ListAssignment :=
  let words := (kf.getValue group place).map (readList environment group key)
  if isProtected place then none
  else
    match extendedKey place with
    | some (baseKey, adds) =>
      if baseKey = key then
        some (if adds then .add (words.getD []) else .remove (words.getD []))
      else none
    | none => if place = key then words.map .set else none

/-- What a group says about an option, from top to bottom. -/
def groupAssignments (kf : GKeyFile) : List ListAssignment :=
  if groupsIntern.isPrefixOf group then []
  else
    ((kf.getKeys group).getD []).flatMap fun place =>
      (assignmentOf environment group key kf place).toList

/-- What a file says about an option. -/
def assignmentsOf (file : ConfigFile) : List ListAssignment :=
  if environment.ignoreConfigSnippet file.kf file.isBaseConfig then []
  else groupAssignments environment group key (file.kf.removeGroup groupConfig)

/-- A list comes back after it was written: an element of a string list at the end is not empty, a
specification loses no white space, and the list of plugins is not replaced by the default. -/
def Written (list : List Text) : Prop :=
  (list = [] → defaultList environment group key = []) ∧
    if settingIsStringList group key then list.getLast? ≠ some [] else ∀ spec ∈ list, Kept spec

/-- An element is not added twice at once, and the list comes back after it was written. -/
def Sound (list : List Text) : ListAssignment → Prop
  | .set _ => True
  | .add words => (UniqueList.without words list).Nodup ∧
      Written environment group key ((ListAssignment.add words).apply list)
  | .remove words => Written environment group key ((ListAssignment.remove words).apply list)

def listMachine : GuardedMachine (List Text) ListAssignment where
  step := ListAssignment.apply
  guard := Sound environment group key

/-- `nm_config_keyfile_set_string_list` removes the separator after the last element. -/
def trimSeparator (value : Text) : Text :=
  if value.getLast? = some ',' then value.dropLast else value

/-- What the key file library makes of lists, with the value that `g_key_file_set_string_list` sets.
A list is read again without the separator after its last element, if that is not empty. -/
structure ListCodec (listValue : List Text → Text) : Prop where
  trimmed : ∀ list, environment.stringListValue list = trimSeparator (listValue list)
  reads : ∀ list, list ≠ [] → list.getLast? ≠ some [] →
    environment.parseStringList (trimSeparator (listValue list)) = some list

end Options

theorem ListAssignment.apply_twice (assignment : ListAssignment) (list : List Text) :
    assignment.apply (assignment.apply list) = assignment.apply list := by
  cases assignment with
  | set words => rfl
  | add words => exact UniqueList.foldl_add_twice words list
  | remove words =>
    exact filter_eq_self.mpr fun _ listed => (mem_filter.mp listed).2

theorem ListAssignment.nodup_apply {list : List Text} (distinct : list.Nodup) (words : List Text) :
    ((ListAssignment.add words).apply list).Nodup ∧
      ((ListAssignment.remove words).apply list).Nodup :=
  ⟨((UniqueList.Valid.mk distinct fun _ _ => rfl).foldl_add (fun _ _ _ => rfl) words).nodup,
    distinct.filter _⟩

section

variable {environment : Environment} {group key : Text}

theorem Sound.twice {list : List Text} {assignment : ListAssignment}
    (sound : Sound environment group key list assignment) :
    Sound environment group key (assignment.apply list) assignment := by
  have same := assignment.apply_twice list
  cases assignment with
  | set words => trivial
  | add words =>
    refine ⟨?_, same.symm ▸ sound.2⟩
    exact (UniqueList.without_foldl_add words list).symm ▸ nodup_nil
  | remove words =>
    show Written environment group key _
    rw [same]
    exact sound

def extension (adds : Bool) (words : List Text) : ListAssignment :=
  if adds then .add words else .remove words

theorem mergeLists_eq {list words : List Text} {adds : Bool}
    (sound : Sound environment group key list (extension adds words)) :
    mergeLists adds list words = (extension adds words).apply list ∧
      Written environment group key (mergeLists adds list words) := by
  have same : mergeLists adds list words = (extension adds words).apply list := by
    unfold mergeLists
    cases adds with
    | true =>
      refine Eq.trans ?_ (UniqueList.foldl_add_some sound.1).symm
      simp [UniqueList.without]
    | false => simp [extension, ListAssignment.apply, UniqueList.without]
  refine ⟨same, ?_⟩
  rw [same]
  cases adds with
  | true => exact sound.2
  | false => exact sound

theorem listOption_setValue (keyfile : GKeyFile) (value : Text) :
    listOption environment group key (keyfile.setValue group key value) =
      readList environment group key value := by
  rw [listOption, getValue_setValue, if_pos rfl, map_some, getD_some]

theorem getD_words (isString : settingIsStringList group key = true) (value : Option Text) :
    (value.bind environment.parseStringList).getD [] =
      (value.map (readList environment group key)).getD [] := by
  cases value with
  | none => rfl
  | some value =>
    rw [bind_some, map_some, getD_some, readList, if_pos isString]

theorem old_list (isString : settingIsStringList group key = true) (keyfile : GKeyFile) :
    (if ((keyfile.getValue group key).bind environment.parseStringList).isNone &&
          !keyfile.hasKey group key && group = "main".toList && key = "plugins".toList then
        environment.parseStringList environment.defaultMainPlugins
      else (keyfile.getValue group key).bind environment.parseStringList).getD [] =
      listOption environment group key keyfile := by
  unfold listOption hasKey
  cases keyfile.getValue group key with
  | none =>
    by_cases plugins : group = "main".toList ∧ key = "plugins".toList
    · have is_main := decide_eq_true plugins.1
      have is_plugins := decide_eq_true plugins.2
      rw [is_main, is_plugins, bind_none, map_none, getD_none, defaultList, if_pos plugins]
      rfl
    · rw [if_neg]
      · rw [map_none, getD_none, defaultList, if_neg plugins]
        rfl
      · intro unset
        rw [Bool.and_eq_true_iff, Bool.and_eq_true_iff] at unset
        exact plugins ⟨of_decide_eq_true unset.1.2, of_decide_eq_true unset.2⟩
  | some value => simp [readList, isString]

variable {listValue : List Text → Text}

theorem listOption_store (codec : ListCodec environment listValue)
    (isString : settingIsStringList group key = true) (before : GKeyFile) {list : List Text}
    (written : Written environment group key list) :
    listOption environment group key
      (if list.length > 0 then before.setValue group key (environment.stringListValue list)
        else before.removeKey group key) = list := by
  obtain ⟨empty, last⟩ := written
  rw [if_pos isString] at last
  by_cases none_left : list = []
  · subst none_left
    rw [if_neg (by decide), listOption, getValue_removeKey, if_pos rfl]
    exact empty rfl
  · rw [if_pos (length_pos_iff.mpr none_left), listOption_setValue, readList, if_pos isString,
      codec.trimmed, codec.reads list none_left last]
    rfl

theorem listOption_extendStringList (codec : ListCodec environment listValue)
    (isString : settingIsStringList group key = true) (kf keyfile : GKeyFile) (place : Text)
    {adds : Bool}
    (sound : Sound environment group key (listOption environment group key keyfile)
      (extension adds (((kf.getValue group place).map (readList environment group key)).getD []))) :
    listOption environment group key
        (extendStringList environment kf keyfile group place key adds) =
      (extension adds (((kf.getValue group place).map
        (readList environment group key)).getD [])).apply
          (listOption environment group key keyfile) := by
  obtain ⟨merged, written⟩ := mergeLists_eq sound
  rw [← merged]
  unfold extendStringList
  dsimp only
  rw [getD_words isString, old_list isString]
  exact listOption_store codec isString _ written

theorem addPiece_nonempty {piece spec : Text} {trailingWs : Nat}
    (listed : spec ∈ MatchSpec.addPiece piece trailingWs) : spec ≠ [] := by
  unfold MatchSpec.addPiece at listed
  split at listed
  · obtain rfl := mem_singleton.mp listed
    rw [← length_pos_iff, length_take]
    omega
  · cases listed

theorem splitLoop_nonempty {piece p spec : Text} {trailingWs : Nat}
    (listed : spec ∈ MatchSpec.splitLoop piece trailingWs p) : spec ≠ [] := by
  fun_induction MatchSpec.splitLoop piece trailingWs p with
  | case1 => exact addPiece_nonempty listed
  | case2 => exact addPiece_nonempty listed
  | case3 => rename_i ih; exact ih listed
  | case4 => rename_i ih; exact ih listed
  | case5 =>
    rename_i ih
    rcases mem_append.mp listed with piece | later
    · exact addPiece_nonempty piece
    · exact ih later
  | case6 => rename_i ih; exact ih listed

theorem getD_matchSpecSplit_nonempty {value : Option Text} {spec : Text}
    (listed : spec ∈ (value.map matchSpecSplit).getD []) : spec ≠ [] := by
  cases value with
  | none => cases listed
  | some value => exact splitLoop_nonempty listed

theorem listOption_extendDeviceSpec (isSpec : settingIsStringList group key = false)
    (kf keyfile : GKeyFile) (place : Text) {adds : Bool}
    (sound : Sound environment group key (listOption environment group key keyfile)
      (extension adds (((kf.getValue group place).map (readList environment group key)).getD []))) :
    listOption environment group key (extendDeviceSpec kf keyfile group place key adds) =
      (extension adds (((kf.getValue group place).map
        (readList environment group key)).getD [])).apply
          (listOption environment group key keyfile) := by
  obtain ⟨merged, -, kept⟩ := mergeLists_eq sound
  rw [if_neg (by rw [isSpec]; exact Bool.false_ne_true)] at kept
  rw [← merged]
  have reads : readList environment group key = matchSpecSplit := by
    funext value
    exact if_neg (by rw [isSpec]; exact Bool.false_ne_true)
  have no_default : defaultList environment group key = [] := by
    refine if_neg ?_
    rintro ⟨rfl, rfl⟩
    cases isSpec
  have old : ((keyfile.getValue group key).map matchSpecSplit).getD [] =
      listOption environment group key keyfile := by
    rw [listOption, reads, no_default]
  unfold extendDeviceSpec
  dsimp only
  have nonempty : ∀ spec ∈ mergeLists adds (listOption environment group key keyfile)
      (((kf.getValue group place).map matchSpecSplit).getD []), spec ≠ [] := by
    intro spec listed
    rw [← old] at listed
    rcases mem_append.mp listed with earlier | new
    · exact getD_matchSpecSplit_nonempty (mem_of_mem_filter earlier)
    · exact getD_matchSpecSplit_nonempty (mem_of_mem_filter new)
  rw [old, listOption_setValue, reads]
  rw [reads] at kept
  generalize mergeLists adds _ _ = list at kept nonempty
  by_cases none_left : list = []
  · subst none_left
    simp [MatchSpec.matchSpecSplit, MatchSpec.splitLoop, Ascii.skipLeadingSpaces,
      MatchSpec.addPiece]
  · rw [if_pos (length_pos_iff.mpr none_left)]
    exact (MatchSpec.matchSpecSplit_matchSpecJoin_iff nonempty).mpr kept

theorem listOption_congr (environment : Environment) {before after : GKeyFile}
    (same : after.getValue group key = before.getValue group key) :
    listOption environment group key after = listOption environment group key before := by
  rw [listOption, same, ← listOption]

theorem getValue_extend_of_ne (environment : Environment) (group : Text) (kf keyfile : GKeyFile)
    (place : Text) {baseKey : Text} (adds : Bool) (other : key ≠ baseKey) :
    (extendStringList environment kf keyfile group place baseKey adds).getValue group key =
        keyfile.getValue group key ∧
      (extendDeviceSpec kf keyfile group place baseKey adds).getValue group key =
        keyfile.getValue group key := by
  refine ⟨?_, by rw [extendDeviceSpec, getValue_setValue, if_neg other]⟩
  unfold extendStringList
  dsimp only
  split <;> split
  · rw [getValue_setValue, if_neg other, getValue_setValue, if_neg other]
  · rw [getValue_removeKey, if_neg other, getValue_setValue, if_neg other]
  · rw [getValue_setValue, if_neg other]
  · rw [getValue_removeKey, if_neg other]

theorem listOption_readKey (codec : ListCodec environment listValue)
    (isList : settingIsStringList group key = true ∨ settingIsDeviceSpec group key = true)
    (kf keyfile : GKeyFile) (place : Text)
    (sound : (listMachine environment group key).Lawful (listOption environment group key keyfile)
      (assignmentOf environment group key kf place).toList) :
    listOption environment group key (readKey environment kf group keyfile place) =
      (listMachine environment group key).run (listOption environment group key keyfile)
        (assignmentOf environment group key kf place).toList := by
  unfold assignmentOf at sound ⊢
  unfold readKey
  dsimp only at sound ⊢
  by_cases hidden : isProtected place = true
  · rw [if_pos hidden, if_pos hidden]
    rfl
  rw [if_neg hidden] at sound ⊢
  rw [if_neg hidden]
  cases extended : extendedKey place with
  | none =>
    rw [extended] at sound
    dsimp only
    by_cases same : place = key
    · subst same
      rw [if_pos rfl]
      cases kf.getValue group place with
      | none => rfl
      | some value => exact listOption_setValue keyfile value
    · rw [if_neg same]
      cases kf.getValue group place with
      | none => rfl
      | some value =>
        exact listOption_congr _ (by rw [getValue_setValue, if_neg (Ne.symm same)])
  | some extension_of =>
    obtain ⟨baseKey, adds⟩ := extension_of
    rw [extended] at sound
    dsimp only at sound ⊢
    by_cases same : baseKey = key
    · subst same
      rw [if_pos rfl] at sound ⊢
      have one := sound.1
      cases string_list : settingIsStringList group baseKey with
      | true =>
        rw [if_pos rfl]
        exact listOption_extendStringList codec string_list kf keyfile place one
      | false =>
        rw [if_neg Bool.false_ne_true,
          if_pos (isList.resolve_left (by rw [string_list]; exact Bool.false_ne_true))]
        exact listOption_extendDeviceSpec string_list kf keyfile place one
    · rw [if_neg same]
      obtain ⟨strings, specs⟩ := getValue_extend_of_ne environment group kf keyfile place adds (Ne.symm same)
      split
      · exact listOption_congr _ strings
      · split
        · exact listOption_congr _ specs
        · rfl

theorem get_readKey_of_ne {other : Text} (ne : group ≠ other) (kf keyfile : GKeyFile)
    (place : Text) :
    (readKey environment kf other keyfile place).groups.get group = keyfile.groups.get group := by
  unfold readKey
  split
  · rfl
  split
  · split
    · unfold extendStringList
      dsimp only
      split <;> split
      · rw [get_setValue_of_ne _ ne, get_setValue_of_ne _ ne]
      · rw [get_removeKey_of_ne _ ne, get_setValue_of_ne _ ne]
      · rw [get_setValue_of_ne _ ne]
      · rw [get_removeKey_of_ne _ ne]
    · split
      · exact get_setValue_of_ne _ ne _ _
      · rfl
  · split
    · exact get_setValue_of_ne _ ne _ _
    · rfl

theorem getValue_readGroup_of_ne (kf keyfile : GKeyFile) (other : Text) (ne : group ≠ other)
    (key : Text) :
    (readGroup environment kf keyfile other).getValue group key = keyfile.getValue group key := by
  unfold readGroup
  split
  · rfl
  split
  · rfl
  · exact Loop.foldl_unchanged (fun state : GKeyFile => state.getValue group key)
      (fun state place _ =>
        congrArg (Option.bind · _) (get_readKey_of_ne ne kf state place)) keyfile

variable {listValue : List Text → Text} (codec : ListCodec environment listValue)
  (isList : settingIsStringList group key = true ∨ settingIsDeviceSpec group key = true)

include codec isList

theorem listOption_readGroup (kf keyfile : GKeyFile)
    (lawful : (listMachine environment group key).Lawful
      (listOption environment group key keyfile) (groupAssignments environment group key kf)) :
    listOption environment group key (readGroup environment kf keyfile group) =
      (listMachine environment group key).run (listOption environment group key keyfile)
        (groupAssignments environment group key kf) := by
  unfold groupAssignments at lawful ⊢
  unfold readGroup
  split
  · rfl
  · rename_i open_group
    rw [if_neg open_group] at lawful
    split
    · rename_i absent
      rw [absent]
      rfl
    · rename_i keys keys_eq
      rw [keys_eq] at lawful ⊢
      exact GuardedMachine.foldl_follows _
        (fun keyfile place => listOption_readKey codec isList kf keyfile place) lawful

theorem listOption_readConfig (keyfile : GKeyFile) (file : ConfigFile)
    (lawful : (listMachine environment group key).Lawful
      (listOption environment group key keyfile) (assignmentsOf environment group key file)) :
    listOption environment group key (readConfig environment keyfile file) =
      (listMachine environment group key).run (listOption environment group key keyfile)
        (assignmentsOf environment group key file) := by
  unfold assignmentsOf at lawful ⊢
  unfold readConfig
  split
  · rfl
  rename_i read
  rw [if_neg read] at lawful
  dsimp only at lawful ⊢
  generalize file.kf.removeGroup groupConfig = kf at lawful
  have other_groups : ∀ (state : GKeyFile) (item other : Text), other ≠ item →
      (readGroup environment kf state item).getValue other key = state.getValue other key :=
    fun state item other ne => getValue_readGroup_of_ne kf state item ne key
  by_cases listed : group ∈ kf.getGroups
  · obtain ⟨before, before_eq, after_eq⟩ := Loop.foldl_component
      (fun state group => state.getValue group key) other_groups
      ((sortGroups_perm _).nodup_iff.mpr kf.nodup_getGroups)
      ((sortGroups_perm _).mem_iff.mpr listed) keyfile
    have same := listOption_congr environment before_eq
    rw [← same] at lawful ⊢
    exact (listOption_congr _ after_eq).trans (listOption_readGroup codec isList kf before lawful)
  · have no_keys : kf.getKeys group = none :=
      getKeys_eq_none.mpr (Bool.not_eq_true _ ▸ mt mem_getGroups.mpr listed)
    have nothing : groupAssignments environment group key kf = [] := by
      rw [groupAssignments, no_keys]
      exact ite_self _
    rw [nothing]
    refine listOption_congr _ (Loop.foldl_unchanged (fun state : GKeyFile => state.getValue group key)
      (fun state item member => other_groups state item group ?_) keyfile)
    rintro rfl
    exact listed ((sortGroups_perm _).mem_iff.mp member)

/-- When every assignment is sound, the value after all files is what the assignments make of it
one after another.  An assignment that is repeated is sound and changes nothing, and elements that
are added or removed leave a list without duplicates. -/
theorem listOption_readConfigs (files : List ConfigFile)
    (lawful : (listMachine environment group key).Lawful (listOption environment group key .empty)
      (files.flatMap (assignmentsOf environment group key))) :
    listOption environment group key (readConfigs environment files) =
        (files.flatMap (assignmentsOf environment group key)).foldl ListAssignment.apply
          (listOption environment group key .empty) ∧
      (∀ list assignment, Sound environment group key list assignment →
        Sound environment group key (assignment.apply list) assignment ∧
          assignment.apply (assignment.apply list) = assignment.apply list) ∧
      ∀ (list words : List Text), list.Nodup →
        ((ListAssignment.add words).apply list).Nodup ∧
          ((ListAssignment.remove words).apply list).Nodup := by
  have folded : ∀ list assignments,
      (listMachine environment group key).run list assignments =
        assignments.foldl ListAssignment.apply list := by
    intro list assignments
    induction assignments generalizing list with
    | nil => rfl
    | cons assignment assignments ih => exact ih _
  refine ⟨?_, fun list assignment sound => ⟨sound.twice, assignment.apply_twice list⟩,
    fun _ words distinct => ListAssignment.nodup_apply distinct words⟩
  rw [← folded]
  exact GuardedMachine.foldl_follows _
    (fun keyfile file => listOption_readConfig codec isList keyfile file) lawful

end

/-- The escapes of separators and backslashes. -/
def writeWord (word : Text) : Text :=
  word.flatMap fun c => if c = ',' ∨ c = '\\' then ['\\', c] else [c]

def writeWords (words : List Text) : Text := words.flatMap fun word => writeWord word ++ [',']

/-- A list, with the part of its next element that was read. -/
def readWords (word : Text) : Text → List Text
  | [] => if word = [] then [] else [word]
  | '\\' :: c :: rest => readWords (word ++ [c]) rest
  | ',' :: rest => word :: readWords [] rest
  | c :: rest => readWords (word ++ [c]) rest

theorem readWords_writeWord (read word rest : Text) :
    readWords read (writeWord word ++ rest) = readWords (read ++ word) rest := by
  induction word generalizing read with
  | nil => rw [append_nil]; rfl
  | cons c word ih =>
    have assoc : read ++ c :: word = (read ++ [c]) ++ word := by simp
    rw [assoc, ← ih]
    unfold writeWord
    rw [flatMap_cons]
    split
    · rfl
    · rename_i plain
      obtain ⟨no_comma, no_backslash⟩ := not_or.mp plain
      rw [singleton_append, cons_append, readWords]
      · exact fun _ _ same => absurd same no_backslash
      · simpa using no_comma

theorem readWords_writeWords (front : List Text) {last : Text} (nonempty : last ≠ []) :
    readWords [] (writeWords front ++ writeWord last) = front ++ [last] := by
  induction front with
  | nil =>
    have end_read := readWords_writeWord [] last []
    rw [append_nil] at end_read
    exact end_read.trans (if_neg nonempty)
  | cons word front ih =>
    unfold writeWords at ih ⊢
    rw [flatMap_cons, append_assoc, append_assoc, readWords_writeWord,
      nil_append, singleton_append, readWords, ih, cons_append]

def listEnvironment : Environment where
  parseString := some
  parseStringList value := some (readWords [] value)
  stringListValue words := trimSeparator (writeWords words)
  defaultMainPlugins := "keyfile".toList
  ignoreConfigSnippet _ _ := false

theorem listCodec_listEnvironment : ListCodec listEnvironment writeWords where
  trimmed _ := rfl
  reads := by
    intro list nonempty last
    obtain ⟨front, word, rfl⟩ := eq_nil_or_concat list |>.resolve_left nonempty
    have word_nonempty : word ≠ [] := by
      rintro rfl
      simp at last
    have trimmed : trimSeparator (writeWords (front ++ [word])) =
        writeWords front ++ writeWord word := by
      have written : writeWords (front ++ [word]) =
          (writeWords front ++ writeWord word) ++ [','] := by
        simp [writeWords]
      rw [written, trimSeparator, if_pos (by simp), dropLast_concat]
    rw [concat_eq_append, trimmed]
    exact congrArg some (readWords_writeWords front word_nonempty)

/-- A file that sets or extends a list. -/
def listFile (place value : String) : ConfigFile where
  kf := GKeyFile.empty.setValue "main".toList place.toList value.toList
  isBaseConfig := true

def pluginFiles : List ConfigFile :=
  [listFile "plugins" "ifcfg-rh", listFile "plugins+" "keyfile,ifcfg-rh",
    listFile "plugins-" "ifcfg-rh"]

theorem listOption_readConfigs_plugins :
    listOption listEnvironment "main".toList "plugins".toList
      (readConfigs listEnvironment pluginFiles) = ["keyfile".toList] := by
  have assignments : pluginFiles.flatMap
      (assignmentsOf listEnvironment "main".toList "plugins".toList) =
        [.set ["ifcfg-rh".toList], .add ["keyfile".toList, "ifcfg-rh".toList],
          .remove ["ifcfg-rh".toList]] := by
    decide +kernel
  refine (listOption_readConfigs listCodec_listEnvironment (.inl (by decide)) pluginFiles ?_).1.trans
    (by rw [assignments]; decide +kernel)
  rw [assignments]
  exact ⟨trivial, ⟨by decide, ⟨by decide, by rw [if_pos (by decide)]; decide⟩⟩,
    ⟨by decide, by rw [if_pos (by decide)]; decide⟩, trivial⟩

/-- An element that is added twice at once becomes a duplicate. -/
theorem listOption_readConfigs_fails :
    let option := listOption exampleEnvironment "main".toList "no-auto-default".toList
    let assignments := assignmentsOf exampleEnvironment "main".toList "no-auto-default".toList
    option .empty = [] ∧
      option (readConfigs exampleEnvironment [listFile "no-auto-default+" "eth0,eth0"]) =
        ["eth0".toList, "eth0".toList] ∧
      ([listFile "no-auto-default+" "eth0,eth0"].flatMap assignments).foldl
        ListAssignment.apply [] = ["eth0".toList] := by
  decide +kernel

end NetworkManager.Config
