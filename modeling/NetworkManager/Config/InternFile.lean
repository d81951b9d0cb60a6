import NetworkManager.Config.MatchSections
import NetworkManager.Config.Merging

/-!
# The file of the internal configuration

What the daemon changes in its configuration is kept apart from the configuration of the user, and
written to a file of its own.  The file also has what the user configured at that time, and when it
is read, what is based on something else is dropped.
-/

namespace NetworkManager.Config

/-- `g_key_file_set_string` and `g_key_file_get_string`, on values. -/
structure StringValues where
  /-- The value that is set for a string. -/
  format : Text → Text
  parse : Text → Option Text

/-- `g_key_file_set_string`. -/
def StringValues.setString (strings : StringValues) (keyfile : GKeyFile) (group key string : Text) :
    GKeyFile :=
  keyfile.setValue group key (strings.format string)

/-- `g_key_file_get_string`. -/
def StringValues.getString (strings : StringValues) (keyfile : GKeyFile) (group key : Text) :
    Option Text :=
  (keyfile.getValue group key).bind strings.parse

section

variable (atomicSections : List Text)

/-- `_is_atomic_section`. -/
def isAtomicSection (group : Text) : Bool :=
  atomicSections.any fun start => !start.isEmpty && start.isPrefixOf group

/-- `_string_append_val`, of a value that is there. -/
def stringAppendVal (value : Text) : Text :=
  '+' :: value.flatMap fun c =>
    if c = '\\' ∨ c = '+' ∨ c = '#' ∨ c = ':' then ['+', c] else [c]

/-- `_keyfile_serialize_section`. -/
def keyfileSerializeSection (keyfile : GKeyFile) (group : Text) : Text :=
  match keyfile.getKeys group with
  | none => "0#".toList
  | some keys => "1#".toList ++ keys.flatMap fun key =>
    stringAppendVal key ++ ":".toList ++
      ((keyfile.getValue group key).map stringAppendVal).getD [] ++ "#".toList

/-- The groups that are overwritten as a whole. -/
def isAtomic (group : Text) : Bool :=
  !isIntern group && isAtomicSection atomicSections group

/-- `NM_CONFIG_KEYFILE_GROUP_INTERN_GLOBAL_DNS`. -/
def groupInternGlobalDns : Text := ".intern.global-dns".toList

/-- `NM_CONFIG_KEYFILE_GROUPPREFIX_GLOBAL_DNS_DOMAIN`. -/
def groupsGlobalDnsDomain : Text := "global-dns-domain-".toList

/-- `NM_CONFIG_KEYFILE_GROUPPREFIX_INTERN_GLOBAL_DNS_DOMAIN`. -/
def groupsInternGlobalDnsDomain : Text := ".intern.global-dns-domain-".toList

/-- `nm_config_keyfile_has_global_dns_config`, called with `FALSE`. -/
def hasGlobalDnsConfig (keyfile : GKeyFile) : Bool :=
  keyfile.hasGroup groupInternGlobalDns || keyfile.getGroups.any groupsGlobalDnsDomain.isPrefixOf

/-- The internal configuration that `nm_config_set_values` uses. -/
def setValues (keyfileInternNew : GKeyFile) : GKeyFile :=
  let keyfileNew := keyfileCopy .empty keyfileInternNew
  keyfileNew.getGroups.foldl (fun keyfileNew group =>
    if isAtomicSection atomicSections group then keyfileNew.setValue group keyAtomicSectionWas []
    else keyfileNew) keyfileNew

end

section

variable (strings : StringValues) (atomicSections : List Text)

/-- `_intern_config_write_sort_fcn`. -/
def internConfigWriteSortFcn (a b : Text) : Ordering :=
  if isIntern a ≠ isIntern b then if isIntern a then .gt else .lt
  else if !isIntern a && isAtomicSection atomicSections a ≠ isAtomicSection atomicSections b then
    if isAtomicSection atomicSections a then .gt else .lt
  else compare a b

/-- One turn of the loop over keys in `intern_config_write`. -/
def writeKey (keyfileIntern keyfileConf : GKeyFile) (group : Text) (keyfile : GKeyFile)
    (key : Text) : GKeyFile :=
  if !isIntern group && key = keyAtomicSectionWas then keyfile
  else
    match keyfileIntern.getValue group key with
    | none => keyfile
    | some valueSet =>
      if isIntern group || isAtomic atomicSections group then keyfile.setValue group key valueSet
      else if (rest keysSet key).isSome then keyfile
      else
        match rest keysWas key with
        | some keyBase =>
          if (rest keysSet keyBase).isSome || (rest keysWas keyBase).isSome then keyfile
          else if keyfileIntern.hasKey group keyBase then keyfile
          else
            match keyfileConf.getValue group keyBase with
            | some valueWas => keyfile.setValue group key valueWas
            | none => keyfile
        | none =>
          let valueWas := keyfileConf.getValue group key
          if some valueSet = valueWas then keyfile
          else
            let keyfile :=
              match valueWas with
              | some valueWas => keyfile.setValue group (keysWas ++ key) valueWas
              | none => keyfile
            keyfile.setValue group (keysSet ++ key) valueSet

/-- Whether `intern_config_write` skips an atomic section with these keys. -/
def skipsSection (keyfileConf : GKeyFile) (group : Text) (keys : List Text) : Bool :=
  (keys = [] || keys = [keyAtomicSectionWas]) && !keyfileConf.hasGroup group

/-- One turn of the loop over groups in `intern_config_write`. -/
def writeGroup (keyfileIntern keyfileConf keyfile : GKeyFile) (group : Text) : GKeyFile :=
  match keyfileIntern.getKeys group with
  | none => keyfile
  | some keys =>
    if isAtomic atomicSections group && skipsSection keyfileConf group keys then keyfile
    else
      keys.foldl (writeKey atomicSections keyfileIntern keyfileConf group)
        (if isAtomic atomicSections group then
          strings.setString keyfile group keyAtomicSectionWas
            (keyfileSerializeSection keyfileConf group)
        else keyfile)

/-- `intern_config_write`, as far as what is in the file. -/
def internConfigWrite (keyfileIntern keyfileConf : GKeyFile) : GKeyFile :=
  (InPlaceSort.sort (fun a b => internConfigWriteSortFcn atomicSections a.1 b.1)
    keyfileIntern.getGroups).foldl
      (writeGroup strings atomicSections keyfileIntern keyfileConf) .empty

/-- The variables of `intern_config_read`. -/
structure InternRead where
  keyfileIntern : GKeyFile
  needsRewrite : Bool
  hasIntern : Bool

/-- Something in the file is outdated. -/
def InternRead.outdated (read : InternRead) : InternRead := { read with needsRewrite := true }

/-- Set a value that makes the internal configuration worth having. -/
def InternRead.setValue (read : InternRead) (group key value : Text) : InternRead :=
  { read with
    keyfileIntern := read.keyfileIntern.setValue group key value
    hasIntern := true }

/-- One turn of the loop over keys in `intern_config_read`. -/
def internReadKey (keyfile keyfileConf : GKeyFile) (group : Text) (read : InternRead)
    (key : Text) : InternRead :=
  match keyfile.getValue group key with
  | none => read
  | some valueSet =>
    if isIntern group then read.setValue group key valueSet
    else if isAtomic atomicSections group then
      if key = keyAtomicSectionWas then read
      else { read with keyfileIntern := read.keyfileIntern.setValue group key valueSet }
    else
      match rest keysSet key with
      | some keyBase =>
        if keyfileConf.getValue group keyBase ≠ keyfile.getValue group (keysWas ++ keyBase) then
          read.outdated
        else read.setValue group keyBase valueSet
      | none =>
        match rest keysWas key with
        | some keyBase =>
          if keyfile.hasKey group (keysSet ++ keyBase) then read
          else if keyfileConf.getValue group keyBase ≠ keyfile.getValue group key then
            read.outdated
          else read.setValue group key []
        | none => read.outdated

/-- One turn of the loop over groups in `intern_config_read`. -/
def internReadGroup (keyfile keyfileConf : GKeyFile) (read : InternRead) (group : Text) :
    InternRead :=
  if group = groupConfig then read
  else
    match keyfile.getKeys group with
    | none => read
    | some keys =>
      let keysRead := keys.foldl (internReadKey atomicSections keyfile keyfileConf group)
      if isAtomic atomicSections group then
        if strings.getString keyfile group keyAtomicSectionWas ≠
            some (keyfileSerializeSection keyfileConf group) then read.outdated
        else keysRead { read with
          keyfileIntern := read.keyfileIntern.setValue group keyAtomicSectionWas [] }
      else keysRead read

/-- The removal of a group that is overruled by the global DNS configuration of the user. -/
def dropGlobalDns (read : InternRead) (group : Text) : InternRead :=
  if (rest groupsInternGlobalDnsDomain group).isSome then
    { read with
      keyfileIntern := read.keyfileIntern.removeGroup group
      needsRewrite := true }
  else read

/-- `intern_config_read`, of a file that was loaded: the internal configuration, if there is any,
and whether the file needs to be written again. -/
def internConfigRead (keyfile keyfileConf : GKeyFile) : Option GKeyFile × Bool :=
  let read := keyfile.getGroups.foldl (internReadGroup strings atomicSections keyfile keyfileConf)
    ⟨.empty, false, false⟩
  let read :=
    if hasGlobalDnsConfig keyfileConf then
      keyfile.getGroups.foldl dropGlobalDns
        { read with
          keyfileIntern := read.keyfileIntern.removeGroup groupInternGlobalDns
          needsRewrite := read.needsRewrite || read.keyfileIntern.hasGroup groupInternGlobalDns }
    else read
  (if read.hasIntern then some read.keyfileIntern else none, read.needsRewrite)

end

end NetworkManager.Config
