import NetworkManager.Library.Machine
import Mathlib.Logic.Function.Basic
import Mathlib.Tactic.Tauto

/-!
# Key file databases

A database keeps the groups and keys of a file in memory, and a flag which says that there is
something to write.  The flag is computed by each function that changes a value.  This file finds
the calls after which the flag misses a change.
-/

namespace NetworkManager.KeyFileDb

open Option

open Function

variable {Text : Type} [DecidableEq Text]

/-- `GKeyFile`: the groups, and the values of the keys in them. -/
structure GKeyFile (Text : Type) where
  group : Text → Option (Text → Option Text)

namespace GKeyFile

/-- The file without groups. -/
def empty : GKeyFile Text := ⟨fun _ => none⟩

/-- The keys and values in the file. -/
def content (kf : GKeyFile Text) (group key : Text) : Option Text :=
  (kf.group group).bind fun keys => keys key

/-- Whether `g_key_file_has_key` sets an error: only if the group does not exist. -/
def hasKeyError (kf : GKeyFile Text) (group : Text) : Bool := (kf.group group).isNone

/-- `g_key_file_get_value`, without a value if it sets an error. -/
def getValue (kf : GKeyFile Text) (group key : Text) : Option Text := kf.content group key

/-- `g_key_file_set_value`, which creates the group if it does not exist. -/
def setValue (kf : GKeyFile Text) (group key value : Text) : GKeyFile Text :=
  ⟨Function.update kf.group group
    (some (Function.update ((kf.group group).getD fun _ => none) key (some value)))⟩

/-- `g_key_file_remove_key`, which does nothing if the group does not exist. -/
def removeKey (kf : GKeyFile Text) (group key : Text) : GKeyFile Text :=
  match kf.group group with
  | none => kf
  | some keys => ⟨Function.update kf.group group (some (Function.update keys key none))⟩

variable (kf : GKeyFile Text)

theorem getValue_setValue (group key value : Text) :
    (kf.setValue group key value).getValue group key = some value := by
  simp [getValue, content, setValue]

theorem content_setValue_of_ne {group key value other otherKey : Text}
    (ne : ¬ (other = group ∧ otherKey = key)) :
    (kf.setValue group key value).content other otherKey = kf.content other otherKey := by
  unfold content setValue
  dsimp only
  by_cases same_group : other = group
  · subst same_group
    have other_key : otherKey ≠ key := fun same_key => ne ⟨rfl, same_key⟩
    rw [update_self, bind_some, update_of_ne other_key]
    cases kf.group other <;> rfl
  · rw [update_of_ne same_group]

theorem content_setValue_same {group key value : Text} (same : kf.getValue group key = some value) :
    (kf.setValue group key value).content = kf.content := by
  funext other otherKey
  by_cases target : other = group ∧ otherKey = key
  · obtain ⟨rfl, rfl⟩ := target
    exact (kf.getValue_setValue other otherKey value).trans same.symm
  · exact kf.content_setValue_of_ne target

theorem content_removeKey_iff (group key : Text) :
    (kf.removeKey group key).content = kf.content ↔ kf.content group key = none := by
  unfold removeKey
  cases found : kf.group group with
  | none => simp [content, found]
  | some keys =>
    constructor
    · intro unchanged
      have here := congrFun (congrFun unchanged group) key
      rw [← here]
      simp [content]
    · intro absent
      funext other otherKey
      unfold content
      dsimp only
      by_cases same_group : other = group
      · subst same_group
        rw [update_self, found, bind_some, bind_some]
        by_cases same_key : otherKey = key
        · subst same_key
          rw [update_self]
          simpa [content, found] using absent.symm
        · rw [update_of_ne same_key]
      · rw [update_of_ne same_group]

end GKeyFile

/-- `NMKeyFileDB`, with the content that is known to be in the file. -/
structure NMKeyFileDB (Text : Type) where
  kf : GKeyFile Text
  groupName : Text
  isStarted : Bool
  dirty : Bool
  /-- The content after the file was read or written. -/
  persisted : Text → Text → Option Text

namespace NMKeyFileDB

/-- `nm_key_file_db_new`. -/
def new (groupName : Text) : NMKeyFileDB Text where
  kf := .empty
  groupName := groupName
  isStarted := false
  dirty := false
  persisted := GKeyFile.empty.content

section

variable (db : NMKeyFileDB Text)

/-- `nm_key_file_db_start`, with what the file gives, unless it cannot be read. -/
def start (loaded : Option (GKeyFile Text)) : NMKeyFileDB Text :=
  if db.isStarted then db
  else
    { db with
      isStarted := true
      kf := loaded.getD db.kf
      persisted := (loaded.getD db.kf).content }

/-- `_got_dirty`, where it is called. -/
def gotDirty (changed : Bool) : NMKeyFileDB Text :=
  if changed then { db with dirty := true } else db

/-- `nm_key_file_db_remove_key`. -/
def removeKey (db : NMKeyFileDB Text) (key : Option Text) : NMKeyFileDB Text :=
  if !db.isStarted then db
  else
    match key with
    | none => db
    | some key =>
      let changed := !db.dirty && db.kf.hasKeyError db.groupName
      { db with kf := db.kf.removeKey db.groupName key }.gotDirty changed

/-- The part that `nm_key_file_db_set_value` and `nm_key_file_db_set_string_list` have in common:
the value is compared before and after it is set. -/
def setRaw (key value : Text) : NMKeyFileDB Text :=
  let oldValue := db.kf.getValue db.groupName key
  let kf := db.kf.setValue db.groupName key value
  let newValue := kf.getValue db.groupName key
  let changed := !db.dirty && (oldValue.isNone || newValue.isNone || oldValue ≠ newValue)
  { db with kf := kf }.gotDirty changed

/-- `nm_key_file_db_set_value`. -/
def setValue (key : Text) (value : Option Text) : NMKeyFileDB Text :=
  if !db.isStarted then db
  else
    match value with
    | none => db.removeKey (some key)
    | some value => db.setRaw key value

/-- `nm_key_file_db_set_string_list`, with the text that `g_key_file_set_string_list` makes of a
list. -/
def setStringList (listValue : List Text → Text) (db : NMKeyFileDB Text) (key : Text)
    (value : Option (List Text)) (len : Int) : NMKeyFileDB Text :=
  if !db.isStarted then db
  else
    match value with
    | none => db.removeKey (some key)
    | some value =>
      db.setRaw key (listValue (value.take (if len < 0 then value.length else len.toNat)))

/-- `nm_key_file_db_to_file`, with the result of `g_key_file_save_to_file`. -/
def toFile (force saved : Bool) : NMKeyFileDB Text :=
  if !db.isStarted then db
  else if !force && !db.dirty then db
  else { db with dirty := false, persisted := if saved then db.kf.content else db.persisted }

/-- A change that is not in the file is known. -/
def NoLostUpdate : Prop := db.kf.content ≠ db.persisted → db.dirty = true

end

end NMKeyFileDB

/-- A call on a database, with what the file system answers. -/
inductive DbCall (Text : Type) where
  | start (loaded : Option (GKeyFile Text))
  | setValue (key : Text) (value : Option Text)
  | setStringList (key : Text) (value : Option (List Text)) (len : Int)
  | removeKey (key : Option Text)
  | toFile (force saved : Bool)

def dbMachine (listValue : List Text → Text) : GuardedMachine (NMKeyFileDB Text) (DbCall Text) where
  step db
    | .start loaded => db.start loaded
    | .setValue key value => db.setValue key value
    | .setStringList key value len => db.setStringList listValue key value len
    | .removeKey key => db.removeKey key
    | .toFile force saved => db.toFile force saved
  guard _ _ := True

def DbCall.removed : DbCall Text → Option Text
  | .setValue key none => some key
  | .setStringList key none _ => some key
  | .removeKey key => key
  | _ => none

/-- No key with a value is removed while nothing else is to be written, and no write of a changed
content fails. -/
def Harmless (db : NMKeyFileDB Text) (call : DbCall Text) : Prop :=
  db.isStarted = true →
    (∀ key ∈ call.removed, db.dirty = true ∨ db.kf.content db.groupName key = none) ∧
    ∀ force, call = .toFile force false → db.kf.content = db.persisted

section Steps

variable {db : NMKeyFileDB Text}

omit [DecidableEq Text] in
theorem noLostUpdate_of_clean (tracked : db.NoLostUpdate) (clean : db.dirty = false) :
    db.kf.content = db.persisted := by
  by_contra changed
  rw [tracked changed] at clean
  cases clean

theorem removeKey_iff (tracked : db.NoLostUpdate) (started : db.isStarted = true) (key : Text) :
    (db.removeKey (some key)).NoLostUpdate ↔
      (db.dirty = true ∨ db.kf.content db.groupName key = none) := by
  unfold NMKeyFileDB.removeKey
  rw [started]
  dsimp only [Bool.not_true, Bool.false_eq_true, if_false]
  cases clean : db.dirty with
  | true =>
    exact iff_of_true (fun _ => rfl) (Or.inl rfl)
  | false =>
    have same := noLostUpdate_of_clean tracked clean
    cases no_group : db.kf.hasKeyError db.groupName with
    | true =>
      have absent : db.kf.content db.groupName key = none := by
        unfold GKeyFile.content
        rw [isNone_iff_eq_none.mp no_group]
        rfl
      exact iff_of_true (fun _ => rfl) (Or.inr absent)
    | false =>
      rw [← db.kf.content_removeKey_iff db.groupName key]
      constructor
      · intro kept
        by_contra changed
        have lost := kept (fun unchanged =>
          changed (Or.inr (unchanged.trans same.symm)))
        exact Bool.false_ne_true lost
      · rintro (impossible | unchanged) changed
        · cases impossible
        · exact absurd (unchanged.trans same) changed

theorem setRaw_noLostUpdate (tracked : db.NoLostUpdate) (key value : Text) :
    (db.setRaw key value).NoLostUpdate := by
  unfold NMKeyFileDB.setRaw
  dsimp only
  rw [GKeyFile.getValue_setValue]
  cases clean : db.dirty with
  | true =>
    intro _
    rfl
  | false =>
    by_cases same_value : db.kf.getValue db.groupName key = some value
    · have unchanged := (db.kf.content_setValue_same same_value).trans
        (noLostUpdate_of_clean tracked clean)
      rw [same_value]
      intro changed
      exact absurd unchanged (by simpa [NMKeyFileDB.gotDirty] using changed)
    · intro _
      simp [NMKeyFileDB.gotDirty, same_value]

omit [DecidableEq Text] in
/-- Writing the file loses a change exactly if the write of a changed content fails. -/
theorem toFile_iff (tracked : db.NoLostUpdate) (started : db.isStarted = true)
    (force saved : Bool) :
    (db.toFile force saved).NoLostUpdate ↔ (saved = false → db.kf.content = db.persisted) := by
  unfold NMKeyFileDB.toFile
  rw [started, if_neg (by simp)]
  by_cases skipped : (!force && !db.dirty) = true
  · have clean : db.dirty = false := by
      obtain ⟨-, clean⟩ := Bool.and_eq_true_iff.mp skipped
      simpa using clean
    rw [if_pos skipped]
    exact iff_of_true tracked (fun _ => noLostUpdate_of_clean tracked clean)
  · rw [if_neg skipped]
    cases saved with
    | true => exact iff_of_true (fun changed => absurd rfl changed) (fun impossible => by
        cases impossible)
    | false =>
      constructor
      · intro kept _
        by_contra changed
        exact Bool.false_ne_true (kept changed)
      · intro same changed
        exact absurd (same rfl) changed

omit [DecidableEq Text] in
theorem start_noLostUpdate (tracked : db.NoLostUpdate) (loaded : Option (GKeyFile Text)) :
    (db.start loaded).NoLostUpdate := by
  unfold NMKeyFileDB.start
  split
  · exact tracked
  · intro changed
    exact absurd rfl changed

variable {call : DbCall Text}

theorem step_of_not_started (listValue : List Text → Text) (not_started : db.isStarted = false)
    (other : ∀ loaded, call ≠ .start loaded) :
    (dbMachine listValue).step db call = db := by
  cases call with
  | start loaded => exact absurd rfl (other loaded)
  | setValue key value => exact if_pos (by simp [not_started])
  | setStringList key value len => exact if_pos (by simp [not_started])
  | removeKey key => exact if_pos (by simp [not_started])
  | toFile force saved => exact if_pos (by simp [not_started])

omit [DecidableEq Text] in
theorem harmless_removed_iff (started : db.isStarted = true) {key : Text}
    (removed : call.removed = some key) :
    Harmless db call ↔ (db.dirty = true ∨ db.kf.content db.groupName key = none) := by
  constructor
  · intro harmless
    exact (harmless started).1 key removed
  · intro kept _
    refine ⟨?_, ?_⟩
    · intro other mem
      rw [removed] at mem
      rw [← Option.some.inj mem]
      exact kept
    · rintro force rfl
      cases removed

omit [DecidableEq Text] in
theorem harmless_of_other (no_key : call.removed = none)
    (no_write : ∀ force, call ≠ .toFile force false) : Harmless db call := by
  intro _
  refine ⟨?_, ?_⟩
  · intro key mem
    rw [no_key] at mem
    cases mem
  · intro force is_write
    exact absurd is_write (no_write force)

theorem step_noLostUpdate_iff (listValue : List Text → Text) (tracked : db.NoLostUpdate)
    (call : DbCall Text) :
    ((dbMachine listValue).step db call).NoLostUpdate ↔ Harmless db call := by
  cases started : db.isStarted with
  | false =>
    refine iff_of_true ?_ (fun impossible => absurd (started.symm.trans impossible)
      Bool.false_ne_true)
    by_cases is_start : ∃ loaded, call = .start loaded
    · obtain ⟨loaded, rfl⟩ := is_start
      exact start_noLostUpdate tracked loaded
    · rw [step_of_not_started listValue started (fun loaded same => is_start ⟨loaded, same⟩)]
      exact tracked
  | true =>
    cases call with
    | start loaded =>
      exact iff_of_true (start_noLostUpdate tracked loaded) (harmless_of_other rfl (by simp))
    | setValue key value =>
      cases value with
      | none =>
        rw [harmless_removed_iff started (show _ = some key from rfl),
          ← removeKey_iff tracked started key]
        change (db.setValue key none).NoLostUpdate ↔ _
        rw [NMKeyFileDB.setValue, if_neg (by simp [started])]
      | some value =>
        refine iff_of_true ?_ (harmless_of_other rfl (by simp))
        change (db.setValue key (some value)).NoLostUpdate
        rw [NMKeyFileDB.setValue, if_neg (by simp [started])]
        exact setRaw_noLostUpdate tracked key value
    | setStringList key value len =>
      cases value with
      | none =>
        rw [harmless_removed_iff started (show _ = some key from rfl),
          ← removeKey_iff tracked started key]
        change (db.setStringList listValue key none len).NoLostUpdate ↔ _
        rw [NMKeyFileDB.setStringList, if_neg (by simp [started])]
      | some value =>
        refine iff_of_true ?_ (harmless_of_other rfl (by simp))
        change (db.setStringList listValue key (some value) len).NoLostUpdate
        rw [NMKeyFileDB.setStringList, if_neg (by simp [started])]
        exact setRaw_noLostUpdate tracked key _
    | removeKey key =>
      cases key with
      | none =>
        refine iff_of_true ?_ (harmless_of_other rfl (by simp))
        change (db.removeKey none).NoLostUpdate
        rw [NMKeyFileDB.removeKey, if_neg (by simp [started])]
        exact tracked
      | some key =>
        rw [harmless_removed_iff started (show _ = some key from rfl)]
        exact removeKey_iff tracked started key
    | toFile force saved =>
      change (db.toFile force saved).NoLostUpdate ↔ _
      rw [toFile_iff tracked started]
      constructor
      · intro kept _
        refine ⟨?_, ?_⟩
        · intro key mem
          cases mem
        · intro other same
          exact kept (DbCall.toFile.inj same).2
      · rintro harmless rfl
        exact (harmless started).2 force rfl

end Steps

/-- In every run, all changes are known in every state exactly if no key with a value is removed
while the flag is not set and no write of a changed content fails. -/
theorem run_noLostUpdate_iff (listValue : List Text → Text) (groupName : Text)
    (calls : List (DbCall Text)) :
    (dbMachine listValue).Throughout NMKeyFileDB.NoLostUpdate (.new groupName) calls ↔
      (dbMachine listValue).Along Harmless (.new groupName) calls := by
  refine (dbMachine listValue).throughout_iff_along (fun _ => True) (fun _ _ _ _ => trivial)
    ?_ trivial (fun changed => absurd rfl changed)
    ((dbMachine listValue).along_of_forall (fun _ _ => trivial) _ calls)
  intro db call _ tracked _
  exact step_noLostUpdate_iff listValue tracked call

/-- A key is set, written and removed; the removal is not known to be a change. -/
theorem run_noLostUpdate_fails :
    ¬ ∀ calls : List (DbCall (List Char)),
      (dbMachine fun list => list.flatMap (· ++ [';'])).Throughout NMKeyFileDB.NoLostUpdate
        (.new ['t']) calls := by
  intro always
  have kept := always [.start none, .setValue ['k'] (some ['v']), .toFile false true,
    .removeKey (some ['k'])]
  obtain ⟨-, -, -, -, last⟩ := kept
  have lost : (none : Option (List Char)) ≠ some ['v'] := by decide
  refine Bool.false_ne_true (last fun same => lost ?_)
  exact congrFun (congrFun same ['t']) ['k']

end NetworkManager.KeyFileDb
