import NetworkManager.Core.MatchConfig

/-!
# Specs of drivers

The spec of a driver can end with a pattern for the version of the driver, behind a slash.  The name
in front of the slash is compared with as many characters of the driver, and not with the driver as
a whole.
-/

namespace NetworkManager.MatchSpec

open Ascii List

theorem matchCheck_append (tag rest : List Char) : matchCheck (tag ++ rest) tag = some rest := by
  unfold matchCheck
  rw [take_left, drop_left, caseEqual, if_pos (beq_self_eq_true _)]

theorem matchCheck_of_ne {c d : Char} (ne : toLower c ≠ toLower d) (spec tag : List Char) :
    matchCheck (c :: spec) (d :: tag) = none := by
  have different : caseEqual ((c :: spec).take (d :: tag).length) (d :: tag) = false := by
    rw [length_cons, take_succ_cons, caseEqual, map_cons, map_cons, beq_eq_false_iff_ne]
    intro same
    exact ne (List.cons.inj same).1
  rw [matchCheck, different, if_neg Bool.false_ne_true]

theorem strrchr_append {c : Char} {after : List Char} (absent : c ∉ after) (before : List Char) :
    strrchr c (before ++ c :: after) = some (before, after) := by
  have absent_reverse : c ∉ after.reverse := fun mem => absent (mem_reverse.mp mem)
  unfold strrchr
  rw [reverse_append, reverse_cons, append_assoc, singleton_append, cutAt_append absent_reverse]
  simp

theorem exists_last_occurrence {c : Char} {str : List Char} (mem : c ∈ str) :
    ∃ before after, str = before ++ c :: after ∧ c ∉ after := by
  obtain ⟨last, front, split, absent⟩ := eq_append_cons_of_mem (mem_reverse.mpr mem)
  refine ⟨front.reverse, last.reverse, ?_, fun listed => absent (mem_reverse.mp listed)⟩
  rw [← reverse_reverse str, split]
  simp

theorem strrchr_eq_none_iff {c : Char} {str : List Char} : strrchr c str = none ↔ c ∉ str := by
  constructor
  · intro not_found mem
    obtain ⟨before, after, rfl, absent⟩ := exists_last_occurrence mem
    rw [strrchr_append absent] at not_found
    exact absurd not_found (by simp)
  · intro absent
    unfold strrchr
    rw [cutAt_eq_none (fun mem => absent (mem_reverse.mp mem))]
    rfl

theorem strrchr_eq_some {c : Char} {str before after : List Char}
    (found : strrchr c str = some (before, after)) : str = before ++ c :: after ∧ c ∉ after := by
  have mem : c ∈ str := by
    by_contra absent
    rw [strrchr_eq_none_iff.mpr absent] at found
    exact absurd found (by simp)
  obtain ⟨front, last, rfl, absent⟩ := exists_last_occurrence mem
  rw [strrchr_append absent] at found
  obtain ⟨rfl, rfl⟩ := Prod.mk.inj (Option.some.inj found)
  exact ⟨rfl, absent⟩

/-- The first characters are the same exactly if they begin the other text. -/
theorem strncmpEqual_append (front rest driver : List Char) :
    strncmpEqual front.length (front ++ rest) driver = true ↔ front <+: driver := by
  induction front generalizing driver with
  | nil => simp [strncmpEqual]
  | cons c front ih =>
    cases driver with
    | nil => simp [strncmpEqual]
    | cons d driver =>
      rw [length_cons, cons_append, strncmpEqual, Bool.and_eq_true, ih,
        cons_prefix_cons, beq_iff_eq]

/-- The spec `driver:` of a driver, with a pattern for its version. -/
def driverSpec (driver version : List Char) : List Char :=
  driverTag ++ (driver ++ '/' :: version)

def Device.version (device : Device) : List Char := device.driverVersion.getD []

theorem getD_strNotEmpty (str : Option (List Char)) : (strNotEmpty str).getD [] = str.getD [] := by
  match str with
  | none => rfl
  | some [] => rfl
  | some (_ :: _) => rfl

variable (glob : List Char → List Char → Bool)

theorem driverSpec_match_iff (driver version : List Char) (device : Device) :
    nmMatchSpecDevice glob [some (driverSpec driver version)] device = .match ↔
      driverEval glob (driver ++ '/' :: version) (strNotEmpty device.driver)
        (strNotEmpty device.driverVersion) = true := by
  have not_except : specItem (some (driverSpec driver version)) =
      some ⟨false, driverSpec driver version⟩ := by
    have no_tag : matchCheck (driverSpec driver version) exceptTag = none :=
      matchCheck_of_ne (by decide) _ _
    change some (matchExcept (driverSpec driver version)) = _
    rw [matchExcept, no_tag]
  have items : specItems [some (driverSpec driver version)] =
      [⟨false, driverSpec driver version⟩] := by
    rw [specItems, filterMap_cons, not_except]
    rfl
  have holds : deviceHolds glob device ⟨false, driverSpec driver version⟩ =
      driverEval glob (driver ++ '/' :: version) (strNotEmpty device.driver)
        (strNotEmpty device.driverVersion) := by
    have not_star : driverSpec driver version ≠ ['*'] := by
      intro same
      exact absurd (List.cons.inj same).1 (by decide)
    have not_type : matchCheck (driverSpec driver version) deviceTypeTag = none :=
      matchCheck_of_ne (by decide) _ _
    have not_mac : matchCheck (driverSpec driver version) macTag = none :=
      matchCheck_of_ne (by decide) _ _
    have not_name : matchCheck (driverSpec driver version) interfaceNameTag = none :=
      matchCheck_of_ne (by decide) _ _
    have is_driver : matchCheck (driverSpec driver version) driverTag =
        some (driver ++ '/' :: version) := matchCheck_append _ _
    unfold deviceHolds matchDeviceEval
    rw [if_neg not_star, not_type, not_mac, not_name, is_driver]
    rfl
  rw [nmMatchSpecDevice_eq_meaning, items, meaning]
  simp [holds]

/-- The spec matches a device exactly if its driver is the one of the spec and the pattern matches
its version. -/
def MatchesLiterally (glob : List Char → List Char → Bool) (driver version : List Char)
    (device : Device) : Prop :=
  nmMatchSpecDevice glob [some (driverSpec driver version)] device = .match ↔
    device.driver = some driver ∧ glob version device.version = true

/-- The driver of the device is longer than the one of the spec, or both are empty, which counts as
no driver. -/
def LongerOrEmpty (driver : List Char) : Option (List Char) → Prop
  | none => False
  | some own => driver <+: own ∧ (own ≠ driver ∨ own = [])

/-- The driver of the device begins with a text. -/
def BeginsWith (front : List Char) : Option (List Char) → Prop
  | none => False
  | some own => front <+: own

/-- The devices for which the spec does not do what it says.  Without a slash in the pattern, these
are devices whose driver begins with the one of the spec, with a version that the pattern matches.
With a slash in it, the spec is cut at the last one, and it concerns other drivers and versions. -/
def Misleads (glob : List Char → List Char → Bool) (driver version : List Char)
    (device : Device) : Prop :=
  match strrchr '/' version with
  | none => glob version device.version = true ∧ LongerOrEmpty driver device.driver
  | some (front, last) =>
    (glob last device.version = true ∧ BeginsWith (driver ++ '/' :: front) device.driver) ∨
      (glob version device.version = true ∧ device.driver = some driver)

theorem driverEval_cut {front last : List Char} (last_slash : '/' ∉ last) (device : Device) :
    driverEval glob (front ++ '/' :: last) (strNotEmpty device.driver)
        (strNotEmpty device.driverVersion) = true ↔
      device.driver ≠ some [] ∧ BeginsWith front device.driver ∧
        glob last device.version = true := by
  unfold driverEval BeginsWith
  rw [strrchr_append last_slash, getD_strNotEmpty]
  match device.driver with
  | none => simp
  | some [] => simp
  | some (c :: own) => simp [strncmpEqual_append, Device.version]

theorem BeginsWith.ne_driver {driver front : List Char} {own : Option (List Char)}
    (begins : BeginsWith (driver ++ '/' :: front) own) : own ≠ some driver ∧ own ≠ some [] := by
  constructor
  · rintro rfl
    have length_le := IsPrefix.length_le begins
    rw [length_append, length_cons] at length_le
    omega
  · rintro rfl
    have length_le := IsPrefix.length_le begins
    rw [length_append, length_cons, length_nil] at length_le
    omega

/-- The spec does what it says exactly for the other devices. -/
theorem matchesLiterally_iff (glob : List Char → List Char → Bool)
    (driver version : List Char) (device : Device) :
    MatchesLiterally glob driver version device ↔ ¬ Misleads glob driver version device := by
  unfold MatchesLiterally Misleads
  rw [driverSpec_match_iff]
  split
  case h_1 not_found =>
    rw [driverEval_cut glob (strrchr_eq_none_iff.mp not_found)]
    match device.driver with
    | none => simp [BeginsWith, LongerOrEmpty]
    | some own =>
      have own_prefix : own = driver → driver <+: own := fun same => same ▸ prefix_rfl
      have empty_prefix : own = [] → driver <+: own → own = driver := by
        rintro rfl begins
        exact (prefix_nil.mp begins).symm
      simp only [BeginsWith, LongerOrEmpty, ne_eq, Option.some.injEq]
      tauto
  case h_2 front last found =>
    obtain ⟨rfl, absent⟩ := strrchr_eq_some found
    have assoc : driver ++ '/' :: (front ++ '/' :: last) =
        (driver ++ '/' :: front) ++ '/' :: last := by simp
    rw [assoc, driverEval_cut glob absent]
    have longer : BeginsWith (driver ++ '/' :: front) device.driver →
        device.driver ≠ some driver ∧ device.driver ≠ some [] := BeginsWith.ne_driver
    tauto

/-- The driver `e1000e` is not the driver `e1000`, but the spec `driver:e1000/*` matches it. -/
theorem matchesLiterally_fails :
    ¬ ∀ (driver version : List Char) (device : Device), '/' ∉ driver →
      MatchesLiterally patternMatchSimple driver version device := by
  intro always
  have literal := always "e1000".toList ['*'] { driver := some "e1000e".toList } (by decide)
  have matched : nmMatchSpecDevice patternMatchSimple [some (driverSpec "e1000".toList ['*'])]
      { driver := some "e1000e".toList } = .match := by decide +kernel
  have other : ("e1000e".toList : List Char) ≠ "e1000".toList := by decide
  exact other (Option.some.inj (literal.mp matched).1)

end NetworkManager.MatchSpec
