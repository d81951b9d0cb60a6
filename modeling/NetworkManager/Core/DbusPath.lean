import Mathlib.Data.List.DropRight
import NetworkManager.Core.Ascii
import NetworkManager.Core.Bytes
import NetworkManager.Library.GroupedComparison

/-!
# Comparing D-Bus paths

The last component of a D-Bus path often is a number.  Two paths that differ in their last
components only are compared by these numbers, with components that are no numbers first.  All other
paths are compared like strings.

Among the paths of one directory this is a total order.  Among all paths it is not, because the path
of a directory inside may lie between two numbers as a string.
-/

namespace NetworkManager.DbusPath

open List Ordering

abbrev slash : UInt8 := 0x2f

/-- `nm_utils_dbus_path_get_last_component`: the text after the last slash. -/
def dbusPathGetLastComponent (dbusPath : List UInt8) : Option (List UInt8) :=
  if slash ∈ dbusPath then some (dbusPath.rtakeWhile (· ≠ slash)) else none

/-- Whether a byte is a decimal digit. -/
def isDigit (b : UInt8) : Bool := 0x30 ≤ b && b ≤ 0x39

/-- The characters of a text, for the functions that read numbers. -/
def chars (text : List UInt8) : List Char := text.map fun b => Char.ofNat b.toNat

/-- `_dbus_path_component_as_num`. -/
def dbusPathComponentAsNum : List UInt8 → Int
  | [] => -1
  | first :: rest =>
    if first = 0x30 then if rest ≠ [] then -1 else 0
    else if ¬ (0x31 ≤ first ∧ first ≤ 0x39) then -1
    else if ¬ (rest.all isDigit = true) then -1
    else Ascii.strToInt64 (chars (first :: rest)) 10 0 (2 ^ 63 - 1) (-1)

/-- What `nm_utils_dbus_path_cmp` does with the last components of two paths that agree before
them. -/
def componentCmp (l_a l_b : List UInt8) : Ordering :=
  let n_a := dbusPathComponentAsNum l_a
  let n_b := dbusPathComponentAsNum l_b
  if n_a = -1 ∧ n_b = -1 then compare l_a l_b
  else if n_a = -1 then .lt
  else if n_b = -1 then .gt
  else compare n_a n_b

/-- `nm_utils_dbus_path_cmp` for two strings. -/
def pathCmp (dbusPathA dbusPathB : List UInt8) : Ordering :=
  match dbusPathGetLastComponent dbusPathA, dbusPathGetLastComponent dbusPathB with
  | some l_a, some l_b =>
    let plen := dbusPathA.length - l_a.length
    if plen ≠ dbusPathB.length - l_b.length then compare dbusPathA dbusPathB
    else (compare (dbusPathA.take plen) (dbusPathB.take plen)).then (componentCmp l_a l_b)
  | _, _ => compare dbusPathA dbusPathB

/-- `nm_utils_dbus_path_cmp`.  A path that is `NULL` comes first. -/
def dbusPathCmp : Option CString → Option CString → Ordering
  | none, none => .eq
  | none, some _ => .lt
  | some _, none => .gt
  | some dbusPathA, some dbusPathB => pathCmp dbusPathA.1 dbusPathB.1

theorem digit_char {c : Char} (digit : c.isDigit = true) :
    Ascii.digitValue c < 10 ∧ (Ascii.digitValue c).digitChar = c := by
  obtain ⟨low, high⟩ : 48 ≤ c.toNat ∧ c.toNat ≤ 57 := by
    simpa [Char.isDigit, UInt32.le_iff_toNat_le] using digit
  rw [← Char.ofNat_toNat c]
  generalize c.toNat = number at low high
  interval_cases number <;> decide

theorem toDigits_digitsValue {digits : List Char} (nonempty : digits ≠ [])
    (decimal : ∀ c ∈ digits, c.isDigit = true) (no_zero : ∀ c, digits.head? = some c → c ≠ '0') :
    Nat.toDigits 10 (Ascii.digitsValue 10 digits) = digits := by
  induction digits using reverseRecOn with
  | nil => exact absurd rfl nonempty
  | append_singleton digits last ih =>
    obtain ⟨small, char_eq⟩ := digit_char (decimal last (by simp))
    rw [Ascii.digitsValue_append_singleton]
    cases digits with
    | nil =>
      have value : Ascii.digitsValue 10 [] * 10 + Ascii.digitValue last =
          Ascii.digitValue last := Nat.zero_add _
      rw [value, Nat.toDigits_eq_if (by decide), if_pos small, char_eq]
      rfl
    | cons first others =>
      have before := ih (cons_ne_nil first others)
        (fun c mem => decimal c (mem_append_left _ mem)) no_zero
      have positive : Ascii.digitsValue 10 (first :: others) ≠ 0 := by
        intro zero
        rw [zero] at before
        exact no_zero first rfl (List.cons.inj before).1.symm
      have quotient : (Ascii.digitsValue 10 (first :: others) * 10 + Ascii.digitValue last) / 10 =
          Ascii.digitsValue 10 (first :: others) := by omega
      have remainder : (Ascii.digitsValue 10 (first :: others) * 10 + Ascii.digitValue last) % 10 =
          Ascii.digitValue last := by omega
      rw [Nat.toDigits_eq_if (by decide), if_neg (by omega), quotient, remainder, before, char_eq]

theorem toNat_char (b : UInt8) : (Char.ofNat b.toNat).toNat = b.toNat := by
  have bound := b.toNat_lt
  have valid : b.toNat.isValidChar := Or.inl (by omega)
  rw [Char.ofNat, dif_pos valid]
  rfl

theorem chars_injective : Function.Injective chars := by
  refine map_injective_iff.mpr fun a b same => ?_
  have values := congrArg Char.toNat same
  rw [toNat_char, toNat_char] at values
  exact UInt8.toNat_inj.mp values

theorem isDigit_char {b : UInt8} (digit : isDigit b = true) :
    (Char.ofNat b.toNat).isDigit = true := by
  obtain ⟨low, high⟩ : 48 ≤ b.toNat ∧ b.toNat ≤ 57 := by
    simpa [isDigit, UInt8.le_iff_toNat_le] using digit
  generalize b.toNat = number at low high
  interval_cases number <;> decide

/-- Decimal digits are read as the number that they stand for, if this is not too large. -/
theorem strToInt64_digits {digits : List Char} (nonempty : digits ≠ [])
    (decimal : ∀ c ∈ digits, c.isDigit = true) :
    Ascii.strToInt64 digits 10 0 (2 ^ 63 - 1) (-1) =
      if Ascii.digitsValue 10 digits < 2 ^ 63 then (Ascii.digitsValue 10 digits : Int) else -1 := by
  have below : ∀ c ∈ digits, Ascii.digitValue c < 10 := fun c mem => (digit_char (decimal c mem)).1
  obtain ⟨first, others, digits_eq⟩ := exists_cons_of_ne_nil nonempty
  have first_below : Ascii.digitValue first < 36 := by
    have := below first (by rw [digits_eq]; exact mem_cons_self)
    omega
  obtain ⟨no_space, no_ascii_space, signless⟩ := Ascii.skipSpaces_digit first_below others
  rw [← digits_eq] at no_space no_ascii_space signless
  have leading : Ascii.leadingDigits 10 (digits ++ []) = digits :=
    Ascii.leadingDigits_append below (Ascii.stopsDigits_nil 10)
  have after : Ascii.afterDigits 10 (digits ++ []) = [] :=
    Ascii.afterDigits_append below (Ascii.stopsDigits_nil 10)
  rw [append_nil] at leading after
  have read : Ascii.strtoll digits 10 =
      if Ascii.digitsValue 10 digits > 2 ^ 63 - 1 then ⟨2 ^ 63 - 1, [], true⟩
      else ⟨Ascii.digitsValue 10 digits, [], false⟩ := by
    unfold Ascii.strtoll
    rw [no_space, signless]
    dsimp only
    rw [Ascii.takeBase_decimal _ (by decide)]
    dsimp only
    rw [leading, after, if_neg nonempty, if_neg Bool.false_ne_true]
  unfold Ascii.strToInt64
  rw [no_ascii_space, if_neg nonempty, read]
  by_cases small : Ascii.digitsValue 10 digits < 2 ^ 63
  · have not_large : ¬ Ascii.digitsValue 10 digits > 2 ^ 63 - 1 := by omega
    have in_range : ¬ ((Ascii.digitsValue 10 digits : Int) > 2 ^ 63 - 1 ∨
        (Ascii.digitsValue 10 digits : Int) < 0) := by omega
    rw [if_pos small, if_neg not_large]
    have no_rest : Ascii.skipLeadingSpaces [] = [] := rfl
    dsimp only
    rw [if_neg Bool.false_ne_true, no_rest, if_neg (not_not.mpr rfl), if_neg in_range]
  · have large : Ascii.digitsValue 10 digits > 2 ^ 63 - 1 := by omega
    rw [if_neg small, if_pos large]
    rfl

theorem dbusPathComponentAsNum_spec (component : List UInt8) :
    dbusPathComponentAsNum component = -1 ∨ ∃ number : Nat,
      dbusPathComponentAsNum component = number ∧ chars component = Nat.toDigits 10 number := by
  cases component with
  | nil => exact .inl rfl
  | cons first rest =>
    rw [dbusPathComponentAsNum]
    split
    · rename_i zero
      split
      · exact .inl rfl
      · rename_i single
        rw [zero, not_not.mp single]
        exact .inr ⟨0, rfl, by decide⟩
    · rename_i no_zero
      split
      · exact .inl rfl
      · rename_i first_digit
        split
        · exact .inl rfl
        · rename_i rest_digits
          rw [not_not] at first_digit rest_digits
          have first_isDigit : isDigit first = true := by
            have low : 0x30 ≤ first := UInt8.le_trans (by decide) first_digit.1
            exact Bool.and_eq_true_iff.mpr
              ⟨decide_eq_true low, decide_eq_true first_digit.2⟩
          have decimal : ∀ c ∈ chars (first :: rest), c.isDigit = true := by
            intro c mem
            obtain ⟨b, b_mem, rfl⟩ := mem_map.mp mem
            refine isDigit_char ?_
            rcases mem_cons.mp b_mem with rfl | b_mem
            · exact first_isDigit
            · exact all_eq_true.mp rest_digits b b_mem
          have nonempty : chars (first :: rest) ≠ [] := cons_ne_nil _ _
          have no_zero_char : ∀ c, (chars (first :: rest)).head? = some c → c ≠ '0' := by
            rintro c ⟨⟩ zero
            have values := congrArg Char.toNat zero
            rw [toNat_char] at values
            exact no_zero (UInt8.toNat_inj.mp values)
          rw [strToInt64_digits nonempty decimal]
          split
          · exact .inr ⟨_, rfl, (toDigits_digitsValue nonempty decimal no_zero_char).symm⟩
          · exact .inl rfl

theorem dbusPathComponentAsNum_ge (component : List UInt8) :
    -1 ≤ dbusPathComponentAsNum component := by
  rcases dbusPathComponentAsNum_spec component with text | ⟨number, value, -⟩
  · omega
  · omega

theorem dbusPathComponentAsNum_inj {l_a l_b : List UInt8} (number : dbusPathComponentAsNum l_a ≠ -1)
    (same : dbusPathComponentAsNum l_a = dbusPathComponentAsNum l_b) : l_a = l_b := by
  rcases dbusPathComponentAsNum_spec l_a with text | ⟨number_a, value_a, digits_a⟩
  · exact absurd text number
  · rcases dbusPathComponentAsNum_spec l_b with text | ⟨number_b, value_b, digits_b⟩
    · exact absurd (same.trans text) number
    · have equal : number_a = number_b := by omega
      apply chars_injective
      rw [digits_a, digits_b, equal]

theorem componentCmp_eq (l_a l_b : List UInt8) :
    componentCmp l_a l_b =
      (compare (dbusPathComponentAsNum l_a) (dbusPathComponentAsNum l_b)).then
        (if dbusPathComponentAsNum l_a = -1 then compare l_a l_b else .eq) := by
  have ge_a := dbusPathComponentAsNum_ge l_a
  have ge_b := dbusPathComponentAsNum_ge l_b
  unfold componentCmp
  generalize dbusPathComponentAsNum l_a = n_a at *
  generalize dbusPathComponentAsNum l_b = n_b at *
  dsimp only
  by_cases text_a : n_a = -1
  · by_cases text_b : n_b = -1
    · have same : compare n_a n_b = .eq := by
        rw [text_a, text_b]
        exact Std.ReflOrd.compare_self
      rw [if_pos ⟨text_a, text_b⟩, same, if_pos text_a]
      rfl
    · have less : compare n_a n_b = .lt := compare_lt_iff_lt.mpr (by omega)
      rw [if_neg fun both => text_b both.2, if_pos text_a, less]
      rfl
  · by_cases text_b : n_b = -1
    · have greater : compare n_a n_b = .gt := compare_gt_iff_gt.mpr (by omega)
      rw [if_neg fun both => text_a both.1, if_neg text_a, if_pos text_b, greater]
      rfl
    · rw [if_neg fun both => text_a both.1, if_neg text_a, if_neg text_b, if_neg text_a, then_eq]

open LawfulCmpOn in
theorem componentCmp_total {values : Set (List UInt8)} : TotalCmpOn values componentCmp where
  toLawfulCmpOn := by
    refine congr (fun a _ b _ => componentCmp_eq a b) ?_
    refine on_then dbusPathComponentAsNum fun value => ite ?_ (on id)
    rintro a ⟨-, value_a⟩ b ⟨-, value_b⟩ text
    rw [value_b, ← value_a, text]
  eq_of_eq := by
    intro a _ b _ equal
    rw [componentCmp_eq, then_eq_eq, Std.compare_eq_iff_eq] at equal
    obtain ⟨same, rest⟩ := equal
    by_cases text : dbusPathComponentAsNum a = -1
    · rw [if_pos text] at rest
      exact Std.compare_eq_iff_eq.mp rest
    · exact dbusPathComponentAsNum_inj text same

/-- The part of a path in front of its last component. -/
def directory (dbusPath : List UInt8) : List UInt8 :=
  if slash ∈ dbusPath then dbusPath.rdropWhile (· ≠ slash) else dbusPath

def lastPart (dbusPath : List UInt8) : List UInt8 := dbusPath.rtakeWhile (· ≠ slash)

variable {path : List UInt8}

theorem directory_of_mem (mem : slash ∈ path) :
    directory path = path.rdropWhile (· ≠ slash) := if_pos mem

theorem directory_of_not_mem (absent : slash ∉ path) : directory path = path := if_neg absent

theorem directory_append_lastPart (mem : slash ∈ path) :
    directory path ++ lastPart path = path := by
  rw [directory_of_mem mem, lastPart]
  exact rdropWhile_append_rtakeWhile

theorem slash_not_mem_lastPart (path : List UInt8) : slash ∉ lastPart path := by
  intro mem
  have differs := mem_rtakeWhile_imp mem
  simp at differs

theorem slash_mem_directory : slash ∈ directory path ↔ slash ∈ path := by
  by_cases mem : slash ∈ path
  · refine iff_of_true ?_ mem
    have somewhere := mem
    rw [← directory_append_lastPart mem] at somewhere
    exact (mem_append.mp somewhere).resolve_right (slash_not_mem_lastPart path)
  · rw [directory_of_not_mem mem]

theorem path_ext {a b : List UInt8} (same_directory : directory a = directory b)
    (same_last : lastPart a = lastPart b) : a = b := by
  by_cases mem : slash ∈ a
  · have mem_b : slash ∈ b := by
      rwa [← slash_mem_directory, ← same_directory, slash_mem_directory]
    rw [← directory_append_lastPart mem, ← directory_append_lastPart mem_b, same_directory, same_last]
  · have not_mem_b : slash ∉ b := by
      rwa [← slash_mem_directory, ← same_directory, slash_mem_directory]
    rwa [directory_of_not_mem mem, directory_of_not_mem not_mem_b] at same_directory

theorem compare_append {x x' : List UInt8} (same_length : x.length = x'.length)
    (y y' : List UInt8) :
    compare (x ++ y) (x' ++ y') = (compare x x').then (compare y y') := by
  show List.compareLex compare (x ++ y) (x' ++ y') =
    (List.compareLex compare x x').then (List.compareLex compare y y')
  induction x generalizing x' with
  | nil =>
    obtain rfl := length_eq_zero_iff.mp same_length.symm
    rfl
  | cons b x ih =>
    cases x' with
    | nil => cases same_length
    | cons b' x' =>
      rw [cons_append, cons_append, List.compareLex_cons_cons,
        List.compareLex_cons_cons, ih (Nat.succ.inj same_length), then_assoc]

theorem compare_of_directory {a b : List UInt8} (same : directory a = directory b) :
    compare a b = compare (lastPart a) (lastPart b) := by
  by_cases mem : slash ∈ a
  · have mem_b : slash ∈ b := by rwa [← slash_mem_directory, ← same, slash_mem_directory]
    have split : compare (directory a ++ lastPart a) (directory b ++ lastPart b) =
        (compare (directory a) (directory b)).then (compare (lastPart a) (lastPart b)) :=
      compare_append (by rw [same]) _ _
    have equal : compare (directory a) (directory b) = .eq := by
      rw [same]
      exact Std.ReflOrd.compare_self
    rw [directory_append_lastPart mem, directory_append_lastPart mem_b, equal] at split
    exact split
  · have not_mem_b : slash ∉ b := by rwa [← slash_mem_directory, ← same, slash_mem_directory]
    rw [directory_of_not_mem mem, directory_of_not_mem not_mem_b] at same
    rw [same, Std.ReflOrd.compare_self, Std.ReflOrd.compare_self]

theorem getLastComponent_of_mem (mem : slash ∈ path) :
    dbusPathGetLastComponent path = some (lastPart path) := if_pos mem

theorem getLastComponent_of_not_mem (absent : slash ∉ path) :
    dbusPathGetLastComponent path = none := if_neg absent

theorem length_sub_lastPart (mem : slash ∈ path) :
    path.length - (lastPart path).length = (directory path).length := by
  have split := congrArg length (directory_append_lastPart mem)
  rw [length_append] at split
  omega

theorem take_directory (mem : slash ∈ path) :
    path.take (directory path).length = directory path := by
  have split := directory_append_lastPart mem
  generalize directory path = front at *
  rw [← split, take_left]

theorem pathCmp_eq (a b : List UInt8) :
    pathCmp a b =
      groupedCmp directory (fun a b => componentCmp (lastPart a) (lastPart b)) compare a b := by
  unfold pathCmp
  by_cases mem_a : slash ∈ a
  · by_cases mem_b : slash ∈ b
    · rw [getLastComponent_of_mem mem_a, getLastComponent_of_mem mem_b]
      dsimp only
      rw [length_sub_lastPart mem_a, length_sub_lastPart mem_b]
      by_cases same_length : (directory a).length = (directory b).length
      · rw [if_neg (not_not.mpr same_length), take_directory mem_a, same_length,
          take_directory mem_b]
        by_cases same : directory a = directory b
        · rw [groupedCmp_same same, same, Std.ReflOrd.compare_self]
          rfl
        · rw [groupedCmp_other same]
          have split : compare (directory a ++ lastPart a) (directory b ++ lastPart b) =
              (compare (directory a) (directory b)).then (compare (lastPart a) (lastPart b)) :=
            compare_append same_length _ _
          rw [directory_append_lastPart mem_a, directory_append_lastPart mem_b] at split
          rw [split]
          cases order : compare (directory a) (directory b) with
          | lt => rfl
          | eq => exact absurd (Std.compare_eq_iff_eq.mp order) same
          | gt => rfl
      · rw [if_pos same_length, groupedCmp_other fun same => same_length (by rw [same])]
    · have other : directory a ≠ directory b := by
        intro same
        exact mem_b (slash_mem_directory.mp (same ▸ slash_mem_directory.mpr mem_a))
      rw [getLastComponent_of_mem mem_a, getLastComponent_of_not_mem mem_b, groupedCmp_other other]
  · rw [getLastComponent_of_not_mem mem_a]
    dsimp only
    by_cases same : directory a = directory b
    · rw [groupedCmp_same same]
      have not_mem_b : slash ∉ b := by rwa [← slash_mem_directory, ← same, slash_mem_directory]
      rw [directory_of_not_mem mem_a, directory_of_not_mem not_mem_b] at same
      rw [same, Std.ReflOrd.compare_self]
      exact (componentCmp_total.refl (lastPart b) (Set.mem_univ _)).symm
    · rw [groupedCmp_other same]

section Total

variable {paths : Set CString}

/-- The path `c` lies between the paths `b` and `a` of another directory as a string, but the number
of `a` is smaller than the one of `b`.  A component that is no number counts as -1. -/
structure LiesAcross (a b c : CString) : Prop where
  same : directory a.1 = directory b.1
  other : directory c.1 ≠ directory a.1
  numbers : dbusPathComponentAsNum (lastPart a.1) < dbusPathComponentAsNum (lastPart b.1)
  below : compare b.1 c.1 = .lt
  above : compare c.1 a.1 = .lt

theorem compare_total : TotalCmpOn paths fun a b => compare a.1 b.1 where
  toLawfulCmpOn := .on Subtype.val
  eq_of_eq _ _ _ _ equal := Subtype.ext (Std.compare_eq_iff_eq.mp equal)

theorem components_total (a : CString) :
    TotalCmpOn {b | b ∈ paths ∧ directory b.1 = directory a.1} fun a b =>
      componentCmp (lastPart a.1) (lastPart b.1) where
  toLawfulCmpOn := .comap componentCmp_total.toLawfulCmpOn fun path : CString => lastPart path.1
  eq_of_eq := by
    rintro b ⟨-, same_b⟩ c ⟨-, same_c⟩ equal
    have same_last := componentCmp_total.eq_of_eq (lastPart b.1) (Set.mem_univ _) (lastPart c.1)
      (Set.mem_univ _) equal
    exact Subtype.ext (path_ext (same_b.trans same_c.symm) same_last)

/-- Components whose order as strings is the other way round are numbers, or only the second one
is. -/
theorem componentCmp_lt_iff {a b : List UInt8} (reversed : compare b a = .lt) :
    componentCmp a b = .lt ↔ dbusPathComponentAsNum a < dbusPathComponentAsNum b := by
  rw [componentCmp_eq, then_eq_lt, compare_lt_iff_lt, compare_eq_iff_eq]
  constructor
  · rintro (less | ⟨same, rest⟩)
    · exact less
    · exfalso
      by_cases text : dbusPathComponentAsNum a = -1
      · rw [if_pos text, Std.OrientedOrd.eq_swap, reversed] at rest
        cases rest
      · rw [dbusPathComponentAsNum_inj text same, Std.ReflOrd.compare_self] at reversed
        cases reversed
  · exact .inl

theorem straddles_iff (a b c : CString) :
    Straddles (fun path : CString => directory path.1)
        (fun a b => componentCmp (lastPart a.1) (lastPart b.1)) (fun a b => compare a.1 b.1) a b c ↔
      LiesAcross a b c := by
  have reversed : directory a.1 = directory b.1 → compare b.1 c.1 = .lt → compare c.1 a.1 = .lt →
      compare (lastPart b.1) (lastPart a.1) = .lt := by
    intro same below above
    rw [← compare_of_directory same.symm]
    exact compare_total.lt_trans (Set.mem_univ b) (Set.mem_univ c) (Set.mem_univ a) below above
  constructor
  · rintro ⟨same, other, less, below, above⟩
    exact ⟨same, other, (componentCmp_lt_iff (reversed same below above)).mp less, below, above⟩
  · rintro ⟨same, other, less, below, above⟩
    exact ⟨same, other, (componentCmp_lt_iff (reversed same below above)).mpr less, below, above⟩

/-- The comparison is a total order on a set of paths exactly if, as a string, no path of the set
lies between two paths of another directory whose numbers are in the opposite order. -/
theorem dbusPathCmp_total_iff (paths : Set CString) :
    TotalCmpOn paths (fun a b => dbusPathCmp (some a) (some b)) ↔
      ∀ a ∈ paths, ∀ b ∈ paths, ∀ c ∈ paths, ¬ LiesAcross a b c := by
  have grouped : (fun a b : CString => dbusPathCmp (some a) (some b)) =
      groupedCmp (fun path : CString => directory path.1)
        (fun a b => componentCmp (lastPart a.1) (lastPart b.1)) fun a b => compare a.1 b.1 := by
    funext a b
    exact pathCmp_eq a.1 b.1
  rw [grouped, groupedCmp_total_iff (fun a _ => components_total a) compare_total]
  simp only [straddles_iff]

end Total

/-- A byte of an element of an object path. -/
def isElementByte (b : UInt8) : Bool :=
  (0x41 ≤ b && b ≤ 0x5a) || (0x61 ≤ b && b ≤ 0x7a) || isDigit b || b == 0x5f

/-- The paths of D-Bus objects: elements that are not empty, each with a slash in front, or a slash
only. -/
def isObjectPath (path : List UInt8) : Bool :=
  path == [slash] ||
    (path.head? == some slash &&
      ((path.tail.splitOn slash).all fun element => !element.isEmpty && element.all isElementByte))

/-- As numbers 9 is before 10, as strings `/x/10` is before `/x/2/0` and this before `/x/9`. -/
theorem dbusPathCmp_total_fails :
    ¬ TotalCmpOn {path : CString | isObjectPath path.1 = true}
      (fun a b => dbusPathCmp (some a) (some b)) := by
  rw [dbusPathCmp_total_iff]
  intro none_across
  refine none_across ⟨[0x2f, 0x78, 0x2f, 0x39], by decide⟩ ?_
    ⟨[0x2f, 0x78, 0x2f, 0x31, 0x30], by decide⟩ ?_
    ⟨[0x2f, 0x78, 0x2f, 0x32, 0x2f, 0x30], by decide⟩ ?_ ⟨?_, ?_, ?_, ?_, ?_⟩
  all_goals decide +kernel

end NetworkManager.DbusPath
