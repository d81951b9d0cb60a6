import Mathlib.Data.List.TakeWhile

/-!
# Files with meta-data

A `.nmmeta` file holds the meta-data of a UUID, either as the target of a symbolic link or, if a
storage is shadowed as well, as a regular key file.  Strings are lists of characters.
-/

namespace NetworkManager.Nmmeta

open List

/-- `NM_KEYFILE_PATH_SUFFIX_NMMETA`. -/
def suffix : List Char := ['.', 'n', 'm', 'm', 'e', 't', 'a']

/-- `g_ascii_isxdigit`. -/
def isXdigit (c : Char) : Bool :=
  ('0' ≤ c && c ≤ '9') || ('a' ≤ c && c ≤ 'f') || ('A' ≤ c && c ≤ 'F')

/-- `nm_utils_is_uuid`. -/
def isUuid (str : List Char) : Bool :=
  str.all (fun c => c == '-' || isXdigit c) &&
    ((str.count '-' == 4 && str.length == 36) || (str.count '-' == 0 && str.length == 40))

/-- The part of a file name after the last slash. -/
def basename (filename : List Char) : List Char :=
  (filename.reverse.takeWhile (· ≠ '/')).reverse

/-- `nms_keyfile_nmmeta_check_filename`: the base name, with its suffix, and the length of the
UUID in it. -/
def checkFilename (filename : List Char) : Option (List Char × Nat) :=
  let name := basename filename
  if name.length ≤ suffix.length ∨ name.drop (name.length - suffix.length) ≠ suffix then none
  else
    let len := name.length - suffix.length
    if len ≠ 36 ∧ len ≠ 40 then none
    else if !isUuid (name.take len) then none
    else some (name, len)

/-- `g_build_filename` of a directory and a base name. -/
def buildFilename (dirname name : List Char) : List Char :=
  (dirname.reverse.dropWhile (· = '/')).reverse ++ '/' :: name

/-- `nms_keyfile_nmmeta_filename`. -/
def nmmetaFilename (dirname uuid : List Char) (temporary : Bool) : List Char :=
  buildFilename dirname (uuid ++ suffix ++ if temporary then ['~'] else [])

inductive FileKind where
  /-- A symbolic link. -/
  | symlink (target : List Char)
  /-- A key file, with the keys of its group `nmmeta`. -/
  | regular (uuid loadedPath shadowedStorage : Option (List Char))
  /-- Anything else. -/
  | other
  deriving DecidableEq, Repr

structure FileNode where
  uid : Nat
  /-- The permission bits of `st_mode`. -/
  mode : Nat
  kind : FileKind
  deriving DecidableEq, Repr

/-- The files by their full name. -/
abbrev FileSystem := List Char → Option FileNode

/-- Put a file in its place, or remove it. -/
def FileSystem.set (fs : FileSystem) (filename : List Char) (node : Option FileNode) : FileSystem :=
  fun other => if other = filename then node else fs other

/-- The results of the system calls of a write: an error number, or success. -/
structure WriteAnswers where
  /-- `unlink` of the file. -/
  unlink : Option Nat
  /-- `nm_utils_file_set_contents`. -/
  setContents : Option Nat
  symlink : Option Nat
  rename : Option Nat
  deriving DecidableEq, Repr

/-- `ENOENT`. -/
def enoent : Nat := 2

/-- `nms_keyfile_nmmeta_write`: the file system afterwards, the error number and the name of the
file.  Files are written by the superuser. -/
def write (fileIsInPath : List Char → List Char → Option (List Char)) (fs : FileSystem)
    (dirname uuid : List Char) (loadedPath : Option (List Char)) (loadedPathAllowRelative : Bool)
    (shadowedStorage : Option (List Char)) (answers : WriteAnswers) :
    FileSystem × Option Nat × List Char :=
  let fullFilenameTmp := nmmetaFilename dirname uuid true
  let fullFilename := nmmetaFilename dirname uuid false
  let fs := fs.set fullFilenameTmp none
  match loadedPath with
  | none =>
    match answers.unlink with
    | none => (fs.set fullFilename none, none, fullFilename)
    | some errsv => (fs, if errsv = enoent then none else some errsv, fullFilename)
  | some loadedPath =>
    let loadedPath :=
      if loadedPathAllowRelative then (fileIsInPath loadedPath dirname).getD loadedPath
      else loadedPath
    match shadowedStorage with
    | some shadowedStorage =>
      match answers.setContents with
      | some errsv => (fs, some errsv, fullFilenameTmp)
      | none =>
        let kind := .regular (some uuid) (some loadedPath) (some shadowedStorage)
        (fs.set fullFilename (some ⟨0, 0o600, kind⟩), none, fullFilename)
    | none =>
      match answers.symlink with
      | some errsv => (fs, some errsv, fullFilename)
      | none =>
        match answers.rename with
        | some errsv => (fs, some errsv, fullFilename)
        | none =>
          (fs.set fullFilename (some ⟨0, 0o777, .symlink loadedPath⟩), none, fullFilename)

/-- `nms_keyfile_utils_check_file_permissions` of a file with meta-data. -/
def checkFilePermissions (noOwnerCheck : Bool) (node : FileNode) : Bool :=
  match node.kind with
  | .other => false
  | .symlink _ => noOwnerCheck || node.uid == 0
  | .regular .. => noOwnerCheck || (node.uid == 0 && node.mode &&& 0o077 == 0)

/-- `nm_utils_read_link_absolute` of a link in a directory. -/
def readLinkAbsolute (dirname target : List Char) : List Char :=
  if target.head? = some '/' then target else buildFilename dirname target

structure ReadResult where
  fullFilename : List Char
  uuid : List Char
  loadedPath : Option (List Char)
  shadowedStorage : Option (List Char)
  deriving DecidableEq, Repr

/-- `nms_keyfile_nmmeta_read`. -/
def read (noOwnerCheck : Bool) (fs : FileSystem) (dirname filename : List Char) :
    Option ReadResult :=
  match checkFilename filename with
  | none => none
  | some (uuid, uuidLen) =>
    let fullFilename := buildFilename dirname filename
    match fs fullFilename with
    | none => none
    | some node =>
      if !checkFilePermissions noOwnerCheck node then none
      else
        match node.kind with
        | .regular vUuid loadedPath shadowedStorage =>
          if vUuid ≠ some uuid then none
          else if loadedPath.isNone && shadowedStorage.isNone then none
          else some ⟨fullFilename, uuid.take uuidLen, loadedPath, shadowedStorage⟩
        | .symlink target =>
          some ⟨fullFilename, uuid.take uuidLen, some (readLinkAbsolute dirname target), none⟩
        | .other => none

variable {uuid : List Char}

theorem isUuid_length (valid : isUuid uuid = true) : uuid.length = 36 ∨ uuid.length = 40 := by
  simp only [isUuid, Bool.and_eq_true, Bool.or_eq_true, beq_iff_eq] at valid
  omega

theorem isUuid_not_slash (valid : isUuid uuid = true) : '/' ∉ uuid := by
  intro slash
  simp only [isUuid, Bool.and_eq_true, all_eq_true] at valid
  exact absurd (valid.1 '/' slash) (by decide)

theorem basename_eq {name : List Char} (no_slash : '/' ∉ name) : basename name = name := by
  have all_taken : name.reverse.takeWhile (· ≠ '/') = name.reverse := by
    refine takeWhile_eq_self_iff.mpr fun c c_mem => ?_
    refine decide_eq_true fun is_slash => no_slash ?_
    rw [← is_slash]
    exact mem_reverse.mp c_mem
  rw [basename, all_taken, reverse_reverse]

theorem checkFilename_uuid (valid : isUuid uuid = true) :
    checkFilename (uuid ++ suffix) = some (uuid ++ suffix, uuid.length) := by
  have no_slash : '/' ∉ uuid ++ suffix := by
    simpa [isUuid_not_slash valid] using (by decide : '/' ∉ suffix)
  have length := isUuid_length valid
  have suffix_length : suffix.length = 7 := rfl
  have uuid_len : (uuid ++ suffix).length - suffix.length = uuid.length := by simp
  rw [checkFilename]
  dsimp only
  have long : ¬ ((uuid ++ suffix).length ≤ suffix.length ∨ suffix ≠ suffix) := by
    rintro (short | different)
    · rw [length_append] at short
      omega
    · exact different rfl
  have expected : ¬ (uuid.length ≠ 36 ∧ uuid.length ≠ 40) := by omega
  rw [basename_eq no_slash, uuid_len, drop_left, take_left, if_neg long,
    if_neg expected, if_neg (by simp [valid])]

theorem read_write {fileIsInPath : List Char → List Char → Option (List Char)} {fs fs' : FileSystem}
    {dirname uuid loadedPath fullFilename : List Char} {shadowedStorage : Option (List Char)}
    {answers : WriteAnswers} (noOwnerCheck : Bool) (valid : isUuid uuid = true)
    (absolute : loadedPath.head? = some '/')
    (written : write fileIsInPath fs dirname uuid (some loadedPath) false shadowedStorage answers =
      (fs', none, fullFilename)) :
    read noOwnerCheck fs' dirname (uuid ++ suffix) =
      if shadowedStorage = none then some ⟨fullFilename, uuid, some loadedPath, none⟩ else none := by
  have name_eq : nmmetaFilename dirname uuid false = buildFilename dirname (uuid ++ suffix) := by
    simp [nmmetaFilename]
  rw [read, checkFilename_uuid valid]
  dsimp only
  rw [← name_eq]
  cases shadowedStorage with
  | none =>
    simp only [write, Bool.false_eq_true, if_false] at written
    split at written
    · simp at written
    · split at written
      · simp at written
      · obtain ⟨rfl, rfl⟩ : _ ∧ _ := by simpa using written
        simp [FileSystem.set, checkFilePermissions, readLinkAbsolute, absolute]
  | some shadowedStorage =>
    simp only [write, Bool.false_eq_true, if_false] at written
    split at written
    · simp at written
    · obtain ⟨rfl, rfl⟩ : _ ∧ _ := by simpa using written
      -- The UUID of the file is compared with the file name, which has the suffix.
      have different : uuid ≠ uuid ++ suffix := by
        intro same
        have := congrArg List.length same
        simp [suffix] at this
      simp [FileSystem.set, checkFilePermissions, different]

/-- Writing a file and reading it back gives what was written exactly if no storage is shadowed,
which is when the file is a symbolic link. -/
theorem roundTrip_iff (fileIsInPath : List Char → List Char → Option (List Char))
    (noOwnerCheck : Bool) (fs fs' : FileSystem) (dirname uuid loadedPath fullFilename : List Char)
    (shadowedStorage : Option (List Char)) (answers : WriteAnswers) (valid : isUuid uuid = true)
    (absolute : loadedPath.head? = some '/')
    (written : write fileIsInPath fs dirname uuid (some loadedPath) false shadowedStorage answers =
      (fs', none, fullFilename)) :
    read noOwnerCheck fs' dirname (uuid ++ suffix) =
        some ⟨fullFilename, uuid, some loadedPath, shadowedStorage⟩ ↔ shadowedStorage = none := by
  rw [read_write noOwnerCheck valid absolute written]
  constructor
  · intro same
    by_contra shadows
    rw [if_neg shadows] at same
    simp at same
  · intro unshadowed
    rw [if_pos unshadowed, unshadowed]

def exampleUuid : List Char := "3a1b7e55-0c2d-4f6a-8b9e-d1c2a3f4e5b6".toList

/-- The answers of system calls that succeed. -/
def succeeding : WriteAnswers := ⟨none, none, none, none⟩

/-- A tombstone that is written as a symbolic link is read back. -/
theorem roundTrip_iff_symlink :
    read false (write (fun _ _ => none) (fun _ => none) "/run".toList exampleUuid
        (some "/dev/null".toList) false none succeeding).1 "/run".toList (exampleUuid ++ suffix) =
      some ⟨nmmetaFilename "/run".toList exampleUuid false, exampleUuid,
        some "/dev/null".toList, none⟩ :=
  (roundTrip_iff (fun _ _ => none) false (fun _ => none) _ "/run".toList exampleUuid
    "/dev/null".toList _ none succeeding (by decide) (by decide) rfl).mpr rfl

/-- A tombstone that shadows a storage cannot be read back. -/
theorem roundTrip_shadowed :
    (write (fun _ _ => none) (fun _ => none) "/run".toList exampleUuid (some "/dev/null".toList)
        false (some "/etc/x".toList) succeeding).2.1 = none ∧
      read false (write (fun _ _ => none) (fun _ => none) "/run".toList exampleUuid
        (some "/dev/null".toList) false (some "/etc/x".toList) succeeding).1 "/run".toList
        (exampleUuid ++ suffix) = none := by
  decide

end NetworkManager.Nmmeta
