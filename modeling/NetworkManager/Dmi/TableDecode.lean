import Mathlib.Data.List.Basic

/-!
# The walk through an SMBIOS table

A table is a sequence of structures.  A structure has a header of at least four bytes, which gives
the length of its formatted part, and a string area, which ends with two zero bytes.  The decoder
hands the headers to a callback, one after the other.

The table comes from the firmware and is not trusted.  A pointer into it is an offset here, and a
read outside of the table is a fault.  The loops of the source have no bound; here they have fuel,
and running out of it is a fault as well.  The decoder counts structures in an `int`, which does
not overflow, since a structure takes six bytes and the length of the table has 32 bits.
-/

namespace Dmidecode

open List

/-- A table in memory. -/
structure Table where
  byte : Nat → UInt8
  len : UInt32

/-- What may go wrong. -/
inductive Fault where
  | outsideTable (offset : Nat)
  | outOfFuel
  deriving DecidableEq, Repr

def Table.read (table : Table) (offset : Nat) : Except Fault UInt8 :=
  if offset < table.len.toNat then .ok (table.byte offset) else .error (.outsideTable offset)

/-- `struct dmi_header`. -/
structure DmiHeader where
  type : UInt8
  length : UInt8
  handle : UInt16
  data : Nat
  deriving DecidableEq, Repr

/-- `WORD`, on a little endian machine. -/
def word (low high : UInt8) : UInt16 := low.toUInt16 ||| (high.toUInt16 <<< 8)

/-- `to_dmi_header_ext`. -/
def toDmiHeaderExt (table : Table) (data : Nat) : Except Fault DmiHeader := do
  let type ← table.read data
  let length ← table.read (data + 1)
  let low ← table.read (data + 2)
  let high ← table.read (data + 3)
  return { type := type, length := length, handle := word low high, data := data }

/-- `dmi_header_callback_t`: what the callback returns, and the user data afterwards. -/
abbrev DmiHeaderCallback (σ : Type) := DmiHeader → σ → Int × σ

/-- A call of the callback, which may be missing. -/
def invoke {σ : Type} (callback : Option (DmiHeaderCallback σ)) (h : DmiHeader) (userData : σ) :
    Int × σ :=
  match callback with
  | some callback => callback h userData
  | none => (0, userData)

/-- `DMI_EXT_FLAG_STOP_AT_EOT`. -/
def dmiExtFlagStopAtEot : UInt32 := 0x2

/-- The loop of `dmi_table_decode_ext` that looks for the next handle. -/
def seekNext (table : Table) : Nat → Nat → Except Fault Nat
  | 0, _ => .error .outOfFuel
  | fuel + 1, next =>
    if next + 1 < table.len.toNat then do
      let first ← table.read next
      if first ≠ 0 then seekNext table fuel (next + 1)
      else do
        let second ← table.read (next + 1)
        if second ≠ 0 then seekNext table fuel (next + 1) else return next
    else return next

/-- The outer loop of `dmi_table_decode_ext`. -/
def decodeLoop {σ : Type} (table : Table) (num : UInt16) (flags : UInt32)
    (callback : Option (DmiHeaderCallback σ)) : Nat → Nat → Nat → σ → Except Fault (Nat × σ)
  | 0, _, _, _ => .error .outOfFuel
  | fuel + 1, i, data, userData =>
    if (i < num.toNat ∨ num = 0) ∧ data + 4 ≤ table.len.toNat then do
      let h ← toDmiHeaderExt table data
      if h.length < 4 then return (i, userData)
      else do
        let last ← seekNext table fuel (data + h.length.toNat)
        let next := last + 2
        if table.len.toNat < next then return (i + 1, userData)
        else
          let (ret, userData) := invoke callback h userData
          if ret ≠ 0 then return (i + 1, userData)
          else if h.type = 127 ∧ flags &&& dmiExtFlagStopAtEot ≠ 0 then
            return (i + 1, userData)
          else decodeLoop table num flags callback fuel (i + 1) next userData
    else return (i, userData)

/-- `dmi_table_decode_ext`: the number of structures, and the user data afterwards.  The version
is not used. -/
def dmiTableDecodeExt {σ : Type} (fuel : Nat) (table : Table) (num : UInt16) (flags : UInt32)
    (callback : Option (DmiHeaderCallback σ)) (userData : σ) : Except Fault (Nat × σ) :=
  decodeLoop table num flags callback fuel 0 0 userData

/-- `struct find_type_context` and `struct find_handle_context`, without the target. -/
structure FindContext where
  outHeader : DmiHeader
  found : Bool
  deriving DecidableEq, Repr

/-- A callback that keeps the first header of a kind. -/
def findCallback (wanted : DmiHeader → Bool) : DmiHeaderCallback FindContext := fun h ctx =>
  if wanted h then (1, { ctx with outHeader := h, found := true }) else (0, ctx)

/-- `find_type_callback`. -/
def findTypeCallback (targetType : UInt8) : DmiHeaderCallback FindContext :=
  findCallback fun h => h.type = targetType

/-- `find_handle_callback`. -/
def findHandleCallback (targetHandle : UInt16) : DmiHeaderCallback FindContext :=
  findCallback fun h => h.handle = targetHandle

/-- The body of `dmi_table_find_by_type` and `dmi_table_find_by_handle`: whether a header was
found, and the header of the caller afterwards. -/
def findWith (fuel : Nat) (table : Table) (num : UInt16) (callback : DmiHeaderCallback FindContext)
    (outHeader : Option DmiHeader) : Except Fault (Bool × Option DmiHeader) :=
  match outHeader with
  | none => return (false, none)
  | some header => do
      let (_, ctx) ← dmiTableDecodeExt fuel table num 0 (some callback)
        { outHeader := header, found := false }
      return (ctx.found, some ctx.outHeader)

/-- `dmi_table_find_by_type`. -/
def dmiTableFindByType (fuel : Nat) (table : Table) (num : UInt16) (targetType : UInt8)
    (outHeader : Option DmiHeader) : Except Fault (Bool × Option DmiHeader) :=
  findWith fuel table num (findTypeCallback targetType) outHeader

/-- `dmi_table_find_by_handle`. -/
def dmiTableFindByHandle (fuel : Nat) (table : Table) (num : UInt16) (handle : UInt16)
    (outHeader : Option DmiHeader) : Except Fault (Bool × Option DmiHeader) :=
  findWith fuel table num (findHandleCallback handle) outHeader

def Table.headerAt (table : Table) (data : Nat) : DmiHeader where
  type := table.byte data
  length := table.byte (data + 1)
  handle := word (table.byte (data + 2)) (table.byte (data + 3))
  data := data

/-- Two zero bytes stand at an offset. -/
def Table.DoubleNul (table : Table) (offset : Nat) : Prop :=
  table.byte offset = 0 ∧ table.byte (offset + 1) = 0

/-- A structure of a table: its header and the offset behind it. -/
structure Extent where
  header : DmiHeader
  /-- The offset behind the two zero bytes. -/
  stop : Nat
  deriving DecidableEq, Repr

/-- A structure lies within a table, has a header of at least four bytes, and ends with the first
two zero bytes in its string area. -/
structure Extent.Within (extent : Extent) (table : Table) : Prop where
  header_eq : extent.header = table.headerAt extent.header.data
  length_ge : 4 ≤ extent.header.length
  /-- The two zero bytes come behind the formatted part. -/
  strings_le : extent.header.data + extent.header.length.toNat + 2 ≤ extent.stop
  terminated : table.DoubleNul (extent.stop - 2)
  /-- Two zero bytes do not stand earlier in the string area. -/
  first : ∀ offset, extent.header.data + extent.header.length.toNat ≤ offset →
    offset + 2 < extent.stop → ¬table.DoubleNul offset
  stop_le : extent.stop ≤ table.len.toNat

/-- No further structure is to be had at an offset: enough were counted, or there is no room for
a header, or the header is too short, or the string area does not end within the table. -/
def Exhausted (table : Table) (num : UInt16) (i data : Nat) : Prop :=
  (num ≠ 0 ∧ num.toNat ≤ i) ∨ table.len.toNat < data + 4 ∨
  (table.headerAt data).length < 4 ∨
  ∀ offset, data + (table.headerAt data).length.toNat ≤ offset →
    offset + 2 ≤ table.len.toNat → ¬table.DoubleNul offset

/-- At an offset there is the header of another structure, but its string area does not end within
the table. -/
structure Unterminated (table : Table) (num : UInt16) (i data : Nat) : Prop where
  wanted : i < num.toNat ∨ num = 0
  room : data + 4 ≤ table.len.toNat
  length_ge : ¬(table.headerAt data).length < 4
  no_nul : ∀ offset, data + (table.headerAt data).length.toNat ≤ offset →
    offset + 2 ≤ table.len.toNat → ¬table.DoubleNul offset

/-- The structures from an offset on, each one behind the one before it, as far as they go. -/
inductive Walk (table : Table) (num : UInt16) (flags : UInt32) : Nat → Nat → List Extent → Prop
  | nil {i data : Nat} (exhausted : Exhausted table num i data) : Walk table num flags i data []
  /-- The structure is the marker at the end of the table. -/
  | last {i data : Nat} {extent : Extent} (within : extent.Within table)
      (starts : extent.header.data = data) (wanted : i < num.toNat ∨ num = 0)
      (marker : extent.header.type = 127 ∧ flags &&& dmiExtFlagStopAtEot ≠ 0) :
      Walk table num flags i data [extent]
  /-- Another structure may follow. -/
  | cons {i data : Nat} {extent : Extent} {rest : List Extent} (within : extent.Within table)
      (starts : extent.header.data = data) (wanted : i < num.toNat ∨ num = 0)
      (no_marker : ¬(extent.header.type = 127 ∧ flags &&& dmiExtFlagStopAtEot ≠ 0))
      (walk : Walk table num flags (i + 1) extent.stop rest) :
      Walk table num flags i data (extent :: rest)

/-- The user data after a callback got headers, until it asks to stop. -/
def deliver {σ : Type} (callback : Option (DmiHeaderCallback σ)) : List DmiHeader → σ → σ
  | [], userData => userData
  | h :: rest, userData =>
    let (ret, userData) := invoke callback h userData
    if ret ≠ 0 then userData else deliver callback rest userData

variable {table : Table} {extents : List Extent}

theorem Table.read_eq {offset : Nat} (bound : offset < table.len.toNat) :
    table.read offset = .ok (table.byte offset) :=
  if_pos bound

theorem toDmiHeaderExt_eq {data : Nat} (room : data + 4 ≤ table.len.toNat) :
    toDmiHeaderExt table data = .ok (table.headerAt data) := by
  unfold toDmiHeaderExt
  rw [Table.read_eq (by omega), Table.read_eq (by omega), Table.read_eq (by omega),
    Table.read_eq (by omega)]
  rfl

theorem seekNext_succ (table : Table) (fuel next : Nat) (bound : next + 1 < table.len.toNat)
    [Decidable (table.DoubleNul next)] :
    seekNext table (fuel + 1) next =
      if table.DoubleNul next then .ok next else seekNext table fuel (next + 1) := by
  rw [seekNext, if_pos bound, Table.read_eq (by omega), Table.read_eq bound]
  unfold Table.DoubleNul
  by_cases first : table.byte next = 0
  · by_cases second : table.byte (next + 1) = 0
    · simp [first, second, bind, Except.bind, pure, Except.pure]
    · simp [first, second, bind, Except.bind]
  · simp [first, bind, Except.bind]

theorem seekNext_outside {fuel next : Nat} (enough : 0 < fuel)
    (outside : ¬next + 1 < table.len.toNat) : seekNext table fuel next = .ok next := by
  obtain ⟨fuel, rfl⟩ := Nat.exists_eq_add_of_lt enough
  rw [Nat.zero_add, seekNext, if_neg outside]
  rfl

/-- The search ends, without a fault, at the first two zero bytes or at the end of the table. -/
theorem seekNext_spec (table : Table) (next : Nat) :
    ∃ last, (∀ fuel, table.len.toNat - next < fuel → seekNext table fuel next = .ok last) ∧
      next ≤ last ∧ (∀ offset, next ≤ offset → offset < last → ¬table.DoubleNul offset) ∧
      (last + 1 < table.len.toNat → table.DoubleNul last) := by
  classical
  by_cases inside : next + 1 < table.len.toNat
  · by_cases nul : table.DoubleNul next
    · refine ⟨next, fun fuel enough => ?_, Nat.le_refl _, by omega, fun _ => nul⟩
      obtain ⟨fuel, rfl⟩ := Nat.exists_eq_add_one_of_ne_zero (Nat.ne_zero_of_lt enough)
      rw [seekNext_succ table fuel next inside, if_pos nul]
    · obtain ⟨last, run, le_last, before, at_last⟩ := seekNext_spec table (next + 1)
      refine ⟨last, fun fuel enough => ?_, by omega, fun offset lower upper => ?_, at_last⟩
      · obtain ⟨fuel, rfl⟩ := Nat.exists_eq_add_one_of_ne_zero (Nat.ne_zero_of_lt enough)
        rw [seekNext_succ table fuel next inside, if_neg nul]
        exact run fuel (by omega)
      · rcases Nat.eq_or_lt_of_le lower with rfl | later
        · exact nul
        · exact before offset later upper
  · refine ⟨next, fun fuel enough => ?_, Nat.le_refl _, by omega, fun last_inside => ?_⟩
    · exact seekNext_outside (by omega) inside
    · exact absurd last_inside inside
termination_by table.len.toNat - next

variable {num : UInt16} {flags : UInt32}

open Classical in
theorem decodeLoop_exhausted {σ : Type} {callback : Option (DmiHeaderCallback σ)}
    {fuel i data : Nat} {userData : σ} (enough : table.len.toNat - data < fuel)
    (exhausted : Exhausted table num i data) :
    decodeLoop table num flags callback fuel i data userData =
      .ok (if Unterminated table num i data then i + 1 else i, userData) := by
  obtain ⟨fuel, rfl⟩ := Nat.exists_eq_add_one_of_ne_zero (Nat.ne_zero_of_lt enough)
  rw [decodeLoop]
  by_cases more : (i < num.toNat ∨ num = 0) ∧ data + 4 ≤ table.len.toNat
  · rw [if_pos more, toDmiHeaderExt_eq more.2]
    by_cases short : (table.headerAt data).length < 4
    · rw [if_neg fun unterminated => unterminated.length_ge short]
      simp [bind, Except.bind, short, pure, Except.pure]
    · obtain ⟨last, run, le_last, -, at_last⟩ :=
        seekNext_spec table (data + (table.headerAt data).length.toNat)
      have length_ge : 4 ≤ (table.headerAt data).length.toNat := by
        simpa [UInt8.lt_iff_toNat_lt] using short
      have no_nul : ∀ offset, data + (table.headerAt data).length.toNat ≤ offset →
          offset + 2 ≤ table.len.toNat → ¬table.DoubleNul offset := by
        rcases exhausted with counted | no_room | too_short | no_nul
        · rcases more.1 with counting | unknown
          · omega
          · exact absurd unknown counted.1
        · omega
        · exact absurd too_short short
        · exact no_nul
      have truncated : table.len.toNat < last + 2 := by
        by_contra inside
        exact no_nul last le_last (by omega) (at_last (by omega))
      rw [if_pos ⟨more.1, more.2, short, no_nul⟩]
      simp only [bind, Except.bind, if_neg short]
      rw [run fuel (by omega)]
      simp [truncated, pure, Except.pure]
  · rw [if_neg more, if_neg fun unterminated => more ⟨unterminated.wanted, unterminated.room⟩]
    rfl

/-- The search from the formatted part of a structure ends at its two zero bytes. -/
theorem Extent.Within.seekNext_eq {extent : Extent} (within : extent.Within table) {fuel : Nat}
    (enough : table.len.toNat - (extent.header.data + extent.header.length.toNat) < fuel) :
    seekNext table fuel (extent.header.data + extent.header.length.toNat) =
      .ok (extent.stop - 2) := by
  obtain ⟨last, run, le_last, before, at_last⟩ :=
    seekNext_spec table (extent.header.data + extent.header.length.toNat)
  have strings_le := within.strings_le
  have stop_le := within.stop_le
  have last_eq : last = extent.stop - 2 := by
    rcases Nat.lt_trichotomy last (extent.stop - 2) with earlier | same | later
    · exact absurd (at_last (by omega)) (within.first last le_last (by omega))
    · exact same
    · exact absurd within.terminated (before (extent.stop - 2) (by omega) later)
  rw [run fuel enough, last_eq]

theorem decodeLoop_within {σ : Type} (callback : Option (DmiHeaderCallback σ)) {fuel i : Nat}
    (userData : σ) {extent : Extent} (enough : table.len.toNat - extent.header.data < fuel + 1)
    (wanted : i < num.toNat ∨ num = 0) (within : extent.Within table) :
    decodeLoop table num flags callback (fuel + 1) i extent.header.data userData =
      if (invoke callback extent.header userData).1 ≠ 0 ∨
          (extent.header.type = 127 ∧ flags &&& dmiExtFlagStopAtEot ≠ 0) then
        .ok (i + 1, (invoke callback extent.header userData).2)
      else
        decodeLoop table num flags callback fuel (i + 1) extent.stop
          (invoke callback extent.header userData).2 := by
  have strings_le := within.strings_le
  have stop_le := within.stop_le
  have length_ge : 4 ≤ extent.header.length.toNat := UInt8.le_iff_toNat_le.mp within.length_ge
  have more : (i < num.toNat ∨ num = 0) ∧ extent.header.data + 4 ≤ table.len.toNat :=
    ⟨wanted, by omega⟩
  have not_short : ¬extent.header.length < 4 := UInt8.not_lt.mpr within.length_ge
  have fits : ¬table.len.toNat < extent.stop := by omega
  have stop_eq : extent.stop - 2 + 2 = extent.stop := by omega
  rw [decodeLoop, if_pos more, toDmiHeaderExt_eq more.2, ← within.header_eq]
  simp only [bind, Except.bind, if_neg not_short]
  rw [within.seekNext_eq (by omega)]
  simp only [stop_eq, if_neg fits]
  by_cases stopped : (invoke callback extent.header userData).1 ≠ 0
  · rw [if_pos stopped, if_pos (.inl stopped)]
    rfl
  · by_cases marker : extent.header.type = 127 ∧ flags &&& dmiExtFlagStopAtEot ≠ 0
    · rw [if_neg stopped, if_pos marker, if_pos (.inr marker)]
      rfl
    · rw [if_neg stopped, if_neg marker, if_neg (not_or.mpr ⟨stopped, marker⟩)]

/-- At an offset either the walk ends or a structure starts. -/
theorem exhausted_or_within (table : Table) (num : UInt16) (i data : Nat) :
    Exhausted table num i data ∨ (i < num.toNat ∨ num = 0) ∧
      ∃ extent : Extent, extent.header.data = data ∧ extent.Within table := by
  by_cases counted : num ≠ 0 ∧ num.toNat ≤ i
  · exact .inl (.inl counted)
  by_cases no_room : table.len.toNat < data + 4
  · exact .inl (.inr (.inl no_room))
  by_cases short : (table.headerAt data).length < 4
  · exact .inl (.inr (.inr (.inl short)))
  obtain ⟨last, -, le_last, before, at_last⟩ :=
    seekNext_spec table (data + (table.headerAt data).length.toNat)
  by_cases inside : last + 2 ≤ table.len.toNat
  · have wanted : i < num.toNat ∨ num = 0 := by
      by_cases unknown : num = 0
      · exact .inr unknown
      · exact .inl (Nat.lt_of_not_le fun all => counted ⟨unknown, all⟩)
    refine .inr ⟨wanted, ⟨table.headerAt data, last + 2⟩, rfl, ?_⟩
    exact
      { header_eq := rfl
        length_ge := UInt8.not_lt.mp short
        strings_le := Nat.add_le_add_right le_last 2
        terminated := at_last (by omega)
        first := fun offset lower upper => before offset lower (by simpa using upper)
        stop_le := inside }
  · refine .inl (.inr (.inr (.inr fun offset lower upper nul => ?_)))
    exact before offset lower (by omega) nul

theorem deliver_cons {σ : Type} (callback : Option (DmiHeaderCallback σ)) (h : DmiHeader)
    (rest : List DmiHeader) (userData : σ) :
    deliver callback (h :: rest) userData =
      if (invoke callback h userData).1 ≠ 0 then (invoke callback h userData).2
      else deliver callback rest (invoke callback h userData).2 := rfl

theorem decodeLoop_walk (table : Table) (num : UInt16) (flags : UInt32) (i data : Nat) :
    ∃ extents, Walk table num flags i data extents ∧
      ∀ (σ : Type) (callback : Option (DmiHeaderCallback σ)) (userData : σ) (fuel : Nat),
        table.len.toNat - data < fuel →
        ∃ count, decodeLoop table num flags callback fuel i data userData =
          .ok (count, deliver callback (extents.map Extent.header) userData) := by
  rcases exhausted_or_within table num i data with exhausted | ⟨wanted, extent, rfl, within⟩
  · refine ⟨[], .nil exhausted, fun σ callback userData fuel enough => ?_⟩
    exact ⟨_, decodeLoop_exhausted enough exhausted⟩
  have strings_le := within.strings_le
  have stop_le := within.stop_le
  by_cases marker : extent.header.type = 127 ∧ flags &&& dmiExtFlagStopAtEot ≠ 0
  · refine ⟨[extent], .last within rfl wanted marker, fun σ callback userData fuel enough => ?_⟩
    obtain ⟨fuel, rfl⟩ := Nat.exists_eq_add_one_of_ne_zero (Nat.ne_zero_of_lt enough)
    refine ⟨i + 1, ?_⟩
    rw [decodeLoop_within callback userData enough wanted within, if_pos (.inr marker)]
    simp [deliver]
  · obtain ⟨rest, walk, run⟩ := decodeLoop_walk table num flags (i + 1) extent.stop
    refine ⟨extent :: rest, .cons within rfl wanted marker walk,
      fun σ callback userData fuel enough => ?_⟩
    obtain ⟨fuel, rfl⟩ := Nat.exists_eq_add_one_of_ne_zero (Nat.ne_zero_of_lt enough)
    rw [decodeLoop_within callback userData enough wanted within, map_cons, deliver_cons]
    by_cases stopped : (invoke callback extent.header userData).1 ≠ 0
    · exact ⟨i + 1, by rw [if_pos (.inl stopped), if_pos stopped]⟩
    · rw [if_neg (not_or.mpr ⟨stopped, marker⟩), if_neg stopped]
      exact run σ callback _ fuel (by omega)
termination_by table.len.toNat - data

/-- Each structure starts where the one before it stops, and the first one at an offset. -/
def Consecutive : Nat → List Extent → Prop
  | _, [] => True
  | data, extent :: rest => extent.header.data = data ∧ Consecutive extent.stop rest

theorem Walk.within {i data : Nat} (walk : Walk table num flags i data extents) :
    ∀ extent ∈ extents, extent.Within table := by
  induction walk with
  | nil exhausted => exact forall_mem_nil _
  | last within starts wanted marker => exact forall_mem_singleton.mpr within
  | cons within starts wanted no_marker walk ih => exact forall_mem_cons.mpr ⟨within, ih⟩

theorem Walk.consecutive {i data : Nat} (walk : Walk table num flags i data extents) :
    Consecutive data extents := by
  induction walk with
  | nil exhausted => trivial
  | last within starts wanted marker => exact ⟨starts, trivial⟩
  | cons within starts wanted no_marker walk ih => exact ⟨starts, ih⟩

theorem Consecutive.start_le {data : Nat} (consecutive : Consecutive data extents)
    (within : ∀ extent ∈ extents, extent.Within table) :
    ∀ extent ∈ extents, data ≤ extent.header.data := by
  induction extents generalizing data with
  | nil => exact forall_mem_nil _
  | cons extent rest ih =>
    obtain ⟨starts, consecutive⟩ := consecutive
    obtain ⟨first_within, rest_within⟩ := forall_mem_cons.mp within
    have strings_le := first_within.strings_le
    refine forall_mem_cons.mpr ⟨Nat.le_of_eq starts.symm, fun later member => ?_⟩
    have le_later := ih consecutive rest_within later member
    omega

theorem Consecutive.disjoint {data : Nat} (consecutive : Consecutive data extents)
    (within : ∀ extent ∈ extents, extent.Within table) :
    extents.Pairwise fun earlier later => earlier.stop ≤ later.header.data := by
  induction extents generalizing data with
  | nil => exact List.Pairwise.nil
  | cons extent rest ih =>
    obtain ⟨-, consecutive⟩ := consecutive
    obtain ⟨-, rest_within⟩ := forall_mem_cons.mp within
    exact pairwise_cons.mpr
      ⟨consecutive.start_le rest_within, ih consecutive rest_within⟩

theorem deliver_findCallback (wanted : DmiHeader → Bool) (headers : List DmiHeader)
    (outHeader : DmiHeader) :
    deliver (some (findCallback wanted)) headers { outHeader := outHeader, found := false } =
      { outHeader := (headers.find? wanted).getD outHeader
        found := (headers.find? wanted).isSome } := by
  induction headers with
  | nil => rfl
  | cons h rest ih =>
    rw [deliver_cons, find?_cons, invoke, findCallback]
    cases hit : wanted h with
    | true => rfl
    | false => exact ih

/-- The decoder ends without a fault, and so without a read outside of the table.  It delivers
structures of the table, one behind the other and each one ended by two zero bytes, in order and
until the callback asks to stop.  The functions that look for a type or a handle give the first
structure that the decoder delivers without flags. -/
theorem dmiTableDecodeExt_delivers (table : Table) (num : UInt16) (flags : UInt32) :
    ∃ extents : List Extent, (∀ extent ∈ extents, extent.Within table) ∧ Consecutive 0 extents ∧
      (extents.Pairwise fun earlier later => earlier.stop ≤ later.header.data) ∧
      Walk table num flags 0 0 extents ∧
      (∀ (σ : Type) (callback : Option (DmiHeaderCallback σ)) (userData : σ) (fuel : Nat),
        table.len.toNat < fuel →
        ∃ count, dmiTableDecodeExt fuel table num flags callback userData =
          .ok (count, deliver callback (extents.map Extent.header) userData)) ∧
      (flags = 0 → ∀ (outHeader : DmiHeader) (fuel : Nat), table.len.toNat < fuel →
        (∀ targetType,
          let hit := (extents.map Extent.header).find? fun h => h.type = targetType
          dmiTableFindByType fuel table num targetType (some outHeader) =
            .ok (hit.isSome, some (hit.getD outHeader))) ∧
        ∀ handle,
          let hit := (extents.map Extent.header).find? fun h => h.handle = handle
          dmiTableFindByHandle fuel table num handle (some outHeader) =
            .ok (hit.isSome, some (hit.getD outHeader))) := by
  obtain ⟨extents, walk, run⟩ := decodeLoop_walk table num flags 0 0
  have decodes : ∀ (σ : Type) (callback : Option (DmiHeaderCallback σ)) (userData : σ) (fuel : Nat),
      table.len.toNat < fuel →
      ∃ count, dmiTableDecodeExt fuel table num flags callback userData =
        .ok (count, deliver callback (extents.map Extent.header) userData) := run
  refine ⟨extents, walk.within, walk.consecutive, walk.consecutive.disjoint walk.within, walk,
    decodes, ?_⟩
  rintro rfl outHeader fuel enough
  have finds : ∀ wanted : DmiHeader → Bool,
      findWith fuel table num (findCallback wanted) (some outHeader) =
        .ok (((extents.map Extent.header).find? wanted).isSome,
          some (((extents.map Extent.header).find? wanted).getD outHeader)) := by
    intro wanted
    obtain ⟨count, decoded⟩ := decodes FindContext (some (findCallback wanted))
      { outHeader := outHeader, found := false } fuel enough
    simp only [findWith]
    rw [decoded, deliver_findCallback]
    rfl
  exact ⟨fun targetType => finds _, fun handle => finds _⟩

end Dmidecode
