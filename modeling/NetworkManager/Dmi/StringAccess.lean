import Mathlib.Data.Nat.Find
import Mathlib.Logic.Relation
import NetworkManager.Dmi.TableDecode

/-!
# The strings of a structure

A structure refers to its strings by number.  The strings stand one after the other in the string
area, each with a zero byte behind it, and a further zero byte ends the area.  A string is looked
up by walking over the ones before it, and it is filtered in place.
-/

namespace Dmidecode

open List

/-- The part of the memory that may be accessed. -/
structure Span where
  byte : Nat → UInt8
  start : Nat
  stop : Nat

def Span.read (span : Span) (offset : Nat) : Except Fault UInt8 :=
  if span.start ≤ offset ∧ offset < span.stop then .ok (span.byte offset)
  else .error (.outsideTable offset)

def Span.write (span : Span) (offset : Nat) (value : UInt8) : Except Fault Span :=
  if span.start ≤ offset ∧ offset < span.stop then
    .ok { span with byte := Function.update span.byte offset value }
  else .error (.outsideTable offset)

/-- The condition of the filter.  Whether a `char` has a sign depends on the machine. -/
def isFiltered (signedChar : Bool) (c : UInt8) : Bool :=
  let value := if signedChar then c.toInt8.toInt else c.toNat
  value < 32 || value = 127

/-- What `dmi_string` returns. -/
inductive DmiString where
  /-- "Not Specified" -/
  | notSpecified
  | badIndex
  /-- The string at an offset. -/
  | string (bp : Nat)
  deriving DecidableEq, Repr

def bytesAt (byte : Nat → UInt8) (offset : Nat) : Nat → List UInt8
  | 0 => []
  | len + 1 => byte offset :: bytesAt byte (offset + 1) len

/-- The strings that stand from an offset on, before the zero byte that ends the area. -/
def stringsAt (byte : Nat → UInt8) (offset stop : Nat) : List (List UInt8) :=
  ((bytesAt byte offset (stop - 1 - offset)).splitOn 0).takeWhile (· ≠ [])

def filtered (signedChar : Bool) (str : List UInt8) : List UInt8 :=
  str.map fun c => if isFiltered signedChar c then 0x2e else c

/-- The answer for the string of a number: a marker, or an offset at which the filtered string
stands, with a zero byte behind it. -/
def Answers (signedChar : Bool) (strings : List (List UInt8)) (s : UInt8) (byte : Nat → UInt8) :
    DmiString → Prop
  | .notSpecified => s = 0
  | .badIndex => s ≠ 0 ∧ strings[s.toNat - 1]? = none
  | .string bp => s ≠ 0 ∧ ∃ str, strings[s.toNat - 1]? = some str ∧
      bytesAt byte bp str.length = filtered signedChar str ∧ byte (bp + str.length) = 0

/-- The memory of a structure. -/
def Extent.span (extent : Extent) (table : Table) : Span where
  byte := table.byte
  start := extent.header.data
  stop := extent.stop

variable {span : Span} {byte : Nat → UInt8} {signedChar : Bool} {offset len stop fuel bp : Nat}

/-- Behind a byte that is not zero, a string ends at the first zero byte. -/
theorem exists_string (bound : offset < stop) (nul : byte stop = 0) :
    ∃ len, offset + len ≤ stop ∧ (∀ i < len, byte (offset + i) ≠ 0) ∧ byte (offset + len) = 0 := by
  have reaches : ∃ len, byte (offset + len) = 0 :=
    ⟨stop - offset, by rwa [Nat.add_sub_cancel' (Nat.le_of_lt bound)]⟩
  refine ⟨Nat.find reaches, ?_, fun i lt => Nat.find_min reaches lt, Nat.find_spec reaches⟩
  have le_gap : Nat.find reaches ≤ stop - offset :=
    Nat.find_min' reaches (by rwa [Nat.add_sub_cancel' (Nat.le_of_lt bound)])
  omega

theorem Span.read_eq (inside : span.start ≤ offset ∧ offset < span.stop) :
    span.read offset = .ok (span.byte offset) :=
  if_pos inside

/-- The area of a span ends with two zero bytes. -/
structure Span.Closed (span : Span) (offset : Nat) : Prop where
  lower : span.start ≤ offset
  upper : offset < span.stop
  nul : span.byte (span.stop - 1) = 0
  /-- The last string ends before the last byte. -/
  before : offset < span.stop - 1 → span.byte (span.stop - 2) = 0

theorem Span.Closed.string (closed : span.Closed offset) (first : span.byte offset ≠ 0) :
    ∃ len, offset + len + 2 ≤ span.stop ∧ (∀ i < len, span.byte (offset + i) ≠ 0) ∧
      span.byte (offset + len) = 0 ∧ span.Closed (offset + len + 1) := by
  have upper := closed.upper
  have not_last : offset ≠ span.stop - 1 := fun last => first (last ▸ closed.nul)
  have before := closed.before (by omega)
  have not_before : offset ≠ span.stop - 2 := fun last => first (last ▸ before)
  have not_far : offset < span.stop - 2 := by omega
  obtain ⟨len, le, string, nul⟩ := exists_string not_far before
  refine ⟨len, by omega, string, nul, ?_⟩
  have lower := closed.lower
  exact ⟨by omega, by omega, closed.nul, fun _ => before⟩

/-- Two tables whose bytes are zero at the same places, and which from an offset on differ in the
string areas of structures at most. -/
structure SameBoundaries (table other : Table) (data : Nat) (extents : List Extent) : Prop where
  len_eq : other.len = table.len
  zero_iff : ∀ offset, other.byte offset = 0 ↔ table.byte offset = 0
  areas : ∀ offset, data ≤ offset → other.byte offset ≠ table.byte offset →
    ∃ extent ∈ extents, extent.header.data + extent.header.length.toNat ≤ offset ∧
      offset < extent.stop

variable {table other : Table} {extents : List Extent} {data : Nat}

theorem SameBoundaries.headerAt_eq (same : SameBoundaries table other data extents)
    (within : ∀ extent ∈ extents, extent.Within table) {offset : Nat} (behind : data ≤ offset)
    (clear : ∀ extent ∈ extents, extent.stop ≤ offset ∨ offset ≤ extent.header.data) :
    other.headerAt offset = table.headerAt offset := by
  have byte_eq : ∀ i < 4, other.byte (offset + i) = table.byte (offset + i) := by
    intro i lt
    by_contra different
    obtain ⟨extent, mem, lower, upper⟩ := same.areas _ (by omega) different
    have length_ge := UInt8.le_iff_toNat_le.mp (within extent mem).length_ge
    change 4 ≤ extent.header.length.toNat at length_ge
    have := clear extent mem
    omega
  unfold Table.headerAt
  rw [byte_eq 1 (by omega), byte_eq 2 (by omega), byte_eq 3 (by omega)]
  congr 1
  exact byte_eq 0 (by omega)

variable {extent : Extent}

theorem Consecutive.clear (consecutive : Consecutive data extents)
    (within : ∀ extent ∈ extents, extent.Within table) (mem : extent ∈ extents) :
    ∀ area ∈ extents, area.stop ≤ extent.header.data ∨ extent.header.data ≤ area.header.data := by
  induction extents generalizing data with
  | nil => cases mem
  | cons first rest ih =>
    have start_le := consecutive.start_le within
    obtain ⟨starts, consecutive⟩ := consecutive
    obtain ⟨-, rest_within⟩ := forall_mem_cons.mp within
    rcases mem_cons.mp mem with rfl | mem
    · exact fun area area_mem => .inr (starts ▸ start_le area area_mem)
    · exact forall_mem_cons.mpr
        ⟨.inl (consecutive.start_le rest_within extent mem), ih consecutive rest_within mem⟩

theorem Extent.Within.closed (within : extent.Within table) :
    (extent.span table).Closed (extent.header.data + extent.header.length.toNat) := by
  have strings_le := within.strings_le
  obtain ⟨first, second⟩ := within.terminated
  rw [show extent.stop - 2 + 1 = extent.stop - 1 by omega] at second
  exact ⟨Nat.le_add_right _ _, show _ < extent.stop by omega, second, fun _ => first⟩

theorem SameBoundaries.within (same : SameBoundaries table other 0 extents)
    (consecutive : Consecutive 0 extents) (within : ∀ extent ∈ extents, extent.Within table)
    (mem : extent ∈ extents) : extent.Within other where
  header_eq := by
    rw [same.headerAt_eq within (Nat.zero_le _) (consecutive.clear within mem)]
    exact (within extent mem).header_eq
  length_ge := (within extent mem).length_ge
  strings_le := (within extent mem).strings_le
  terminated := (and_congr (same.zero_iff _) (same.zero_iff _)).mpr (within extent mem).terminated
  first := fun offset lower upper nul =>
    (within extent mem).first offset lower upper
      ((and_congr (same.zero_iff _) (same.zero_iff _)).mp nul)
  stop_le := same.len_eq ▸ (within extent mem).stop_le

end Dmidecode
