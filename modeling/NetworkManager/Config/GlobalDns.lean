import NetworkManager.Config.InternRestore

/-!
# The global DNS configuration of the user

The global DNS configuration of the user takes the place of the one in the internal configuration,
which is dropped then.  The reader of the internal configuration looks for the wrong group: it
recognizes a configuration of the user by its sections for domains only.
-/

namespace NetworkManager.Config

open GKeyFile List Option

/-- `NM_CONFIG_KEYFILE_GROUP_GLOBAL_DNS`. -/
def groupGlobalDns : Text := "global-dns".toList

/-- The groups for the global DNS configuration within the internal configuration. -/
def isInternGlobalDns (group : Text) : Bool :=
  group = groupInternGlobalDns || (rest groupsInternGlobalDnsDomain group).isSome

variable {group : Text}

theorem isIntern_of_isInternGlobalDns (dns : isInternGlobalDns group = true) :
    isIntern group = true := by
  rcases Bool.or_eq_true_iff.mp dns with own | domain
  · rw [of_decide_eq_true own]
    decide
  · obtain ⟨name, found⟩ := isSome_iff_exists.mp domain
    obtain ⟨group_eq, -⟩ := rest_eq_some.mp found
    rw [group_eq]
    exact isPrefixOf_iff_prefix.mpr ⟨"global-dns-domain-".toList ++ name, rfl⟩

section

variable (strings : StringValues) (atomicSections : List Text) (keyfile keyfileConf : GKeyFile)

/-- The variables of the reader before the groups of the global DNS configuration are dropped. -/
def readGroups : InternRead :=
  keyfile.getGroups.foldl (internReadGroup strings atomicSections keyfile keyfileConf)
    ⟨.empty, false, false⟩

theorem hasGroup_internReadGroup (intern : isIntern group = true) (before : InternRead)
    (absent : before.keyfileIntern.hasGroup group = false) :
    ((internReadGroup strings atomicSections keyfile keyfileConf before group).keyfileIntern.hasGroup
        group = true ↔ ∃ key, keyfile.hasKey group key = true) ∧
      ((∃ key, keyfile.hasKey group key = true) →
        (internReadGroup strings atomicSections keyfile keyfileConf before group).hasIntern = true) := by
  have not_atomic : isAtomic atomicSections group = false := by
    rw [isAtomic, intern, Bool.not_true, Bool.false_and]
  unfold internReadGroup
  rw [if_neg (intern_ne_config intern)]
  cases keys_eq : keyfile.getKeys group with
  | none =>
    have no_key : ¬∃ key, keyfile.hasKey group key = true := by
      rintro ⟨key, has_key⟩
      have has_group := hasGroup_of_hasKey has_key
      rw [getKeys_eq_none.mp keys_eq] at has_group
      cases has_group
    dsimp only
    rw [absent]
    exact ⟨iff_of_false Bool.false_ne_true no_key, fun some_key => absurd some_key no_key⟩
  | some keys =>
    have keys_iff : (∃ key, keyfile.hasKey group key = true) ↔ keys.any (fun _ => true) = true := by
      simp only [← mem_keys_iff keys_eq, List.any_eq_true, and_true]
    have turn : ∀ read, ∀ key ∈ keys,
        (internReadKey atomicSections keyfile keyfileConf group read key).keyfileIntern.hasGroup
            group = true ∧
          (internReadKey atomicSections keyfile keyfileConf group read key).hasIntern = true := by
      intro read key mem
      obtain ⟨value, found⟩ :=
        isSome_iff_exists.mp ((mem_keys_iff keys_eq).mp mem)
      rw [internReadKey, found]
      dsimp only
      rw [if_pos intern]
      exact ⟨hasGroup_setValue .., rfl⟩
    dsimp only
    rw [not_atomic, if_neg Bool.false_ne_true, keys_iff,
      Loop.foldl_assign (fun read : InternRead => read.keyfileIntern.hasGroup group)
        (fun read key mem => by rw [(turn read key mem).1, if_pos rfl]),
      Loop.foldl_assign InternRead.hasIntern
        (fun read key mem => by rw [(turn read key mem).2, if_pos rfl]), absent]
    cases keys.any fun _ => true with
    | true => exact ⟨Iff.rfl, fun _ => rfl⟩
    | false => exact ⟨Iff.rfl, fun impossible => absurd impossible Bool.false_ne_true⟩

theorem hasIntern_internReadGroup {read : InternRead} (has_intern : read.hasIntern = true)
    (group : Text) :
    (internReadGroup strings atomicSections keyfile keyfileConf read group).hasIntern = true := by
  have read_key : ∀ (read : InternRead) (key : Text), read.hasIntern = true →
      (internReadKey atomicSections keyfile keyfileConf group read key).hasIntern = true := by
    intro read key has_intern
    unfold internReadKey
    repeat' split
    all_goals first | exact has_intern | rfl
  have read_keys : ∀ (keys : List Text) (read : InternRead), read.hasIntern = true →
      (keys.foldl (internReadKey atomicSections keyfile keyfileConf group) read).hasIntern =
        true := by
    intro keys
    induction keys with
    | nil => exact fun _ => id
    | cons key keys ih => exact fun read has_intern => ih _ (read_key read key has_intern)
  unfold internReadGroup
  split
  · exact has_intern
  · split
    · exact has_intern
    · dsimp only
      split
      · split
        · exact has_intern
        · exact read_keys _ _ has_intern
      · exact read_keys _ _ has_intern

theorem hasGroup_readGroups (intern : isIntern group = true) :
    ((readGroups strings atomicSections keyfile keyfileConf).keyfileIntern.hasGroup group = true ↔
        ∃ key, keyfile.hasKey group key = true) ∧
      ((∃ key, keyfile.hasKey group key = true) →
        (readGroups strings atomicSections keyfile keyfileConf).hasIntern = true) := by
  have own : ∀ (read : InternRead) (group other : Text), other ≠ group →
      (internReadGroup strings atomicSections keyfile keyfileConf read
        group).keyfileIntern.groups.get other = read.keyfileIntern.groups.get other :=
    fun read _ _ ne => get_internReadGroup_of_ne keyfile read ne
  have keep : ∀ (groups : List Text) (read : InternRead), group ∉ groups →
      (groups.foldl (internReadGroup strings atomicSections keyfile keyfileConf)
        read).keyfileIntern.hasGroup group = read.keyfileIntern.hasGroup group := by
    intro groups read absent
    exact Loop.foldl_unchanged (fun read : InternRead => read.keyfileIntern.hasGroup group)
      (fun read other mem => hasGroup_congr (own read other group fun same => absent (same ▸ mem)))
      read
  have kept : ∀ (groups : List Text) (read : InternRead), read.hasIntern = true →
      (groups.foldl (internReadGroup strings atomicSections keyfile keyfileConf)
        read).hasIntern = true := by
    intro groups
    induction groups with
    | nil => exact fun _ => id
    | cons other groups ih =>
      exact fun read has_intern =>
        ih _ (hasIntern_internReadGroup strings atomicSections keyfile keyfileConf has_intern other)
  unfold readGroups
  by_cases listed : group ∈ keyfile.getGroups
  · obtain ⟨first, last, groups_eq⟩ := append_of_mem listed
    have distinct := keyfile.nodup_getGroups
    rw [groups_eq, nodup_append] at distinct
    obtain ⟨-, last_distinct, apart⟩ := distinct
    have not_last := (nodup_cons.mp last_distinct).1
    have not_first : group ∉ first := fun mem => apart group mem group mem_cons_self rfl
    rw [groups_eq, foldl_append, foldl_cons, keep last _ not_last]
    obtain ⟨has_group, has_intern⟩ := hasGroup_internReadGroup strings atomicSections keyfile
      keyfileConf intern
      (first.foldl (internReadGroup strings atomicSections keyfile keyfileConf) ⟨.empty, false, false⟩)
      (keep first ⟨.empty, false, false⟩ not_first)
    exact ⟨has_group, fun some_key => kept last _ (has_intern some_key)⟩
  · have no_key : ¬∃ key, keyfile.hasKey group key = true := fun ⟨key, has_key⟩ =>
      listed (mem_getGroups.mpr (hasGroup_of_hasKey has_key))
    rw [keep _ _ listed]
    exact ⟨iff_of_false Bool.false_ne_true no_key, fun some_key => absurd some_key no_key⟩

end

theorem hasGroup_dropGlobalDns (read : InternRead) (other : Text) :
    (dropGlobalDns read other).keyfileIntern.hasGroup group =
      if decide (other = group) && (rest groupsInternGlobalDnsDomain group).isSome then false
      else read.keyfileIntern.hasGroup group := by
  unfold dropGlobalDns
  by_cases same : other = group
  · subst same
    rw [decide_eq_true rfl, Bool.true_and]
    split
    · exact hasGroup_removeGroup ..
    · rfl
  · rw [decide_eq_false same, Bool.false_and, if_neg Bool.false_ne_true]
    split
    · exact hasGroup_congr (get_removeGroup_of_ne _ (Ne.symm same))
    · rfl

/-- If the reader recognizes a configuration of the user, no group of the global DNS configuration
is left. -/
theorem not_hasGroup_dropped {keyfile : GKeyFile} (dns : isInternGlobalDns group = true) {read : InternRead}
    (from_file : read.keyfileIntern.hasGroup group = true → keyfile.hasGroup group = true) :
    (keyfile.getGroups.foldl dropGlobalDns { read with
      keyfileIntern := read.keyfileIntern.removeGroup groupInternGlobalDns
      needsRewrite := read.needsRewrite ||
        read.keyfileIntern.hasGroup groupInternGlobalDns }).keyfileIntern.hasGroup group = false := by
  have dropped_iff : group ∈ keyfile.getGroups ∧
      (rest groupsInternGlobalDnsDomain group).isSome = true ↔
        (keyfile.hasGroup group && (rest groupsInternGlobalDnsDomain group).isSome) = true := by
    rw [mem_getGroups, Bool.and_eq_true_iff]
  rw [Loop.foldl_assign_at (fun read : InternRead => read.keyfileIntern.hasGroup group)
    (fun read other _ => hasGroup_dropGlobalDns read other) dropped_iff]
  by_cases own : group = groupInternGlobalDns
  · subst own
    rw [hasGroup_removeGroup, ite_self]
  · have domain : (rest groupsInternGlobalDnsDomain group).isSome = true :=
      (Bool.or_eq_true_iff.mp dns).resolve_left fun same => own (of_decide_eq_true same)
    rw [domain, Bool.and_true, hasGroup_congr (get_removeGroup_of_ne _ own)]
    cases present : keyfile.hasGroup group with
    | true => rfl
    | false => exact Bool.eq_false_iff.mpr fun left => absurd (from_file left) (by rw [present]; decide)

/-- After the internal configuration was read, its global DNS configuration is gone exactly if the
user has a section for a domain (or a group that only the internal configuration may have), or if
there was nothing to drop in the file. -/
theorem globalDns_dropped_iff (strings : StringValues) (atomicSections : List Text)
    (keyfile keyfileConf : GKeyFile) :
    (∀ keyfileIntern,
      (internConfigRead strings atomicSections keyfile keyfileConf).1 = some keyfileIntern →
      ∀ group, isInternGlobalDns group = true → keyfileIntern.hasGroup group = false) ↔
    ((∃ group ∈ keyfileConf.getGroups, groupsGlobalDnsDomain.isPrefixOf group = true) ∨
      keyfileConf.hasGroup groupInternGlobalDns = true) ∨
    ∀ group key, isInternGlobalDns group = true → keyfile.hasKey group key = false := by
  have recognized : hasGlobalDnsConfig keyfileConf = true ↔
      (∃ group ∈ keyfileConf.getGroups, groupsGlobalDnsDomain.isPrefixOf group = true) ∨
        keyfileConf.hasGroup groupInternGlobalDns = true := by
    rw [hasGlobalDnsConfig, Bool.or_eq_true_iff, List.any_eq_true, or_comm]
  rw [← recognized]
  cases known : hasGlobalDnsConfig keyfileConf with
  | true =>
    refine iff_of_true (fun keyfileIntern read_eq group dns => ?_) (.inl rfl)
    unfold internConfigRead at read_eq
    rw [known] at read_eq
    obtain ⟨-, some_eq⟩ := ite_none_right_eq_some.mp read_eq
    cases Option.some.inj some_eq
    refine not_hasGroup_dropped dns fun left => ?_
    obtain ⟨key, has_key⟩ := (hasGroup_readGroups strings atomicSections keyfile keyfileConf
      (isIntern_of_isInternGlobalDns dns)).1.mp left
    exact hasGroup_of_hasKey has_key
  | false =>
    have read_eq : (internConfigRead strings atomicSections keyfile keyfileConf).1 =
        if (readGroups strings atomicSections keyfile keyfileConf).hasIntern = true then
          some (readGroups strings atomicSections keyfile keyfileConf).keyfileIntern
        else none := by
      unfold internConfigRead
      rw [known]
      rfl
    rw [read_eq, or_iff_right Bool.false_ne_true]
    constructor
    · intro dropped group key dns
      refine Bool.eq_false_iff.mpr fun has_key => ?_
      obtain ⟨has_group, has_intern⟩ := hasGroup_readGroups strings atomicSections keyfile
        keyfileConf (isIntern_of_isInternGlobalDns dns)
      have left := dropped _ (if_pos (has_intern ⟨key, has_key⟩)) group dns
      rw [has_group.mpr ⟨key, has_key⟩] at left
      cases left
    · intro nothing keyfileIntern some_read group dns
      obtain ⟨-, some_eq⟩ := ite_none_right_eq_some.mp some_read
      cases Option.some.inj some_eq
      refine Bool.eq_false_iff.mpr fun left => ?_
      obtain ⟨key, has_key⟩ := (hasGroup_readGroups strings atomicSections keyfile keyfileConf
        (isIntern_of_isInternGlobalDns dns)).1.mp left
      rw [nothing group key dns] at has_key
      cases has_key

/-- The user has search domains, and so has the internal configuration, where they stay. -/
theorem globalDns_dropped_fails :
    let keyfileConf := empty.setValue groupGlobalDns "searches".toList "a".toList
    let keyfile := empty.setValue groupInternGlobalDns "searches".toList "b".toList
    keyfileConf.hasGroup groupGlobalDns = true ∧
      (internConfigRead ⟨id, some⟩ [] keyfile keyfileConf).1 = some keyfile ∧
      keyfile.hasGroup groupInternGlobalDns = true := by
  decide +kernel

end NetworkManager.Config
