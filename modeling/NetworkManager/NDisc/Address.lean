import Mathlib.Algebra.Order.Group.Unbundled.Int
import NetworkManager.NDisc.Data

/-!
# Autoconf addresses

An announced prefix gives an address, or it changes the lifetimes of the address that is there.  A
router cannot shorten the remaining lifetime of an address below two hours, unless it is shorter
already.  Lifetimes are relative to a timestamp, which some changes move and others keep.
-/

namespace NetworkManager.NDisc

open List Option

/-- A `gint64`, if the value fits. -/
def fitInt64 (value : Int) : Option Int :=
  if -9223372036854775808 ≤ value ∧ value ≤ 9223372036854775807 then some value else none

/-- A `guint32`, if the value fits. -/
def fitUInt32 (value : Int) : Option UInt32 :=
  if 0 ≤ value ∧ value ≤ 4294967295 then some (UInt32.ofNat value.toNat) else none

/-- `NM_CLAMP` to the finite lifetimes. -/
def clampLifetime (value : Int) : Int :=
  if value < 0 then 0 else if value > 4294967294 then 4294967294 else value

def relativeTime (timestamp lifetime : UInt32) (base : Int) : Option Int := do
  let time ← fitInt64 ((timestamp.toNat : Int) + lifetime.toNat)
  fitInt64 (time - base)

/-- `remaining_lifetime` in `nm_ndisc_add_address`. -/
def remainingLifetime (existing : NMNDiscAddress) (now : Int) : Option Int :=
  if existing.lifetime = ndiscInfinity then some expiryInfinity
  else relativeTime existing.timestamp existing.lifetime now

/-- The lifetime in `nm_ndisc_add_address`, for an address that exists. -/
def updateLifetime (existing new : NMNDiscAddress) (now : Int) : Option NMNDiscAddress :=
  if new.lifetime = ndiscInfinity then some { existing with lifetime := ndiscInfinity }
  else do
    let remaining ← remainingLifetime existing now
    let newLifetime ← relativeTime new.timestamp new.lifetime now
    if newLifetime > 7200 ∨ newLifetime > remaining then do
      let timestamp ← fitUInt32 now
      let lifetime ← fitUInt32 (clampLifetime newLifetime)
      some { existing with timestamp := timestamp, lifetime := lifetime }
    else if remaining ≤ 7200 then some existing
    else do
      let timestamp ← fitUInt32 now
      some { existing with timestamp := timestamp, lifetime := 7200 }

/-- The preferred lifetime in `nm_ndisc_add_address`, for an address that exists. -/
def updatePreferred (existing new : NMNDiscAddress) : Option NMNDiscAddress :=
  if new.preferred = ndiscInfinity then
    -- `nm_assert (existing->lifetime == NM_NDISC_INFINITY)`
    if existing.lifetime = ndiscInfinity then some { existing with preferred := new.preferred }
    else none
  else do
    let preferred ← relativeTime new.timestamp new.preferred existing.timestamp.toNat
    let preferred ← fitUInt32 (clampLifetime preferred)
    some { existing with
      preferred :=
        -- `MIN`
        if existing.lifetime ≠ ndiscInfinity ∧ ¬ preferred < existing.lifetime then
          existing.lifetime
        else preferred }

/-- `get_expiry_preferred`. -/
def NMNDiscAddress.getExpiryPreferred (item : NMNDiscAddress) : Int :=
  getExpiryTime item.timestamp item.preferred

/-- What `complete_address` reads of the instance. -/
structure AddressSettings where
  /-- `max_addresses`, or zero. -/
  maxAddresses : Nat
  /-- Whether `addr_gen_mode` is `NM_SETTING_IP6_CONFIG_ADDR_GEN_MODE_STABLE_PRIVACY`. -/
  stablePrivacy : Bool
  /-- `nm_utils_ipv6_addr_set_stable_privacy`. -/
  setStablePrivacy : In6Addr → UInt8 → Option In6Addr
  /-- The interface identifier, in the order of its bytes, or zero. -/
  iid : BitVec 64

/-- `complete_address`. -/
def completeAddress (self : AddressSettings) (addr : NMNDiscAddress) : Option NMNDiscAddress :=
  if self.stablePrivacy then
    (self.setStablePrivacy addr.address addr.dadCounter).map fun address =>
      { addr with address := address, dadCounter := addr.dadCounter + 1 }
  else if self.iid = 0 then none
  else if addr.address.setWidth 64 = 0 then
    some { addr with address := addr.address ||| self.iid.setWidth 128 }
  else none

/-- Which address `nm_ndisc_add_address` takes for the existing one. -/
def isExisting (new : NMNDiscAddress) (fromRa : Bool) (item : NMNDiscAddress) : Bool :=
  if fromRa then item.address.firstBytes 8 = new.address.firstBytes 8
  else item.address = new.address

/-- `nm_ndisc_add_address`, unless a value wraps. -/
def ndiscAddAddress (self : AddressSettings) (addresses : List NMNDiscAddress)
    (new : NMNDiscAddress) (now : Int) (fromRa : Bool) : Option (List NMNDiscAddress × Bool) :=
  let before := addresses.takeWhile (!isExisting new fromRa ·)
  match addresses.dropWhile (!isExisting new fromRa ·) with
  | existing :: after =>
    if fromRa then do
      let updated ← updateLifetime existing new now
      let updated ← updatePreferred updated new
      some (before ++ updated :: after,
        existing.getExpiry ≠ updated.getExpiry ∨
          existing.getExpiryPreferred ≠ updated.getExpiryPreferred)
    else if new.lifetime = 0 then some (before ++ after, true)
    else if existing.getExpiry = new.getExpiry ∧
        existing.getExpiryPreferred = new.getExpiryPreferred then
      some (addresses, false)
    else
      let updated := { existing with
        timestamp := new.timestamp
        lifetime := new.lifetime
        preferred := new.preferred }
      some (before ++ updated :: after, true)
  | [] =>
    if self.maxAddresses ≠ 0 ∧ addresses.length ≥ self.maxAddresses then some (addresses, false)
    else if new.lifetime = 0 then some (addresses, false)
    else if fromRa then
      match completeAddress self { new with dadCounter := 0 } with
      | none => some (addresses, false)
      | some new => some (addresses ++ [new], true)
    else some (addresses ++ [new], true)

/-- `nm_ndisc_complete_and_add_address`. -/
def completeAndAddAddress (self : AddressSettings) (addresses : List NMNDiscAddress)
    (new : NMNDiscAddress) (now : Int) : Option (List NMNDiscAddress × Bool) :=
  ndiscAddAddress self addresses new now true

/-- The remaining lifetime.  An infinite one is larger than all others. -/
def NMNDiscAddress.remaining (item : NMNDiscAddress) (now : Int) : Int :=
  if item.lifetime = ndiscInfinity then expiryInfinity
  else item.timestamp.toNat + item.lifetime.toNat - now

def protectedLifetime (advertised remaining : Int) : Int :=
  if advertised > 7200 ∨ advertised > remaining then advertised
  else if remaining ≤ 7200 then remaining
  else 7200

structure Admitted (existing new : NMNDiscAddress) (now : Int) : Prop where
  new_now : new.timestamp.toNat = now
  now_lt : now < maxInt32
  positive : 0 < existing.timestamp.toNat
  past : existing.timestamp.toNat ≤ now
  preferred_le : new.preferred.toNat ≤ new.lifetime.toNat

structure Updated (before new after : NMNDiscAddress) (now : Int) : Prop where
  valid : after.remaining now = protectedLifetime (new.remaining now) (before.remaining now)
  preferred_le : after.preferred.toNat ≤ after.lifetime.toNat
  -- A finite preferred lifetime is stored in 32 bits.
  preferred : after.getExpiryPreferred =
    min (min new.getExpiryPreferred after.getExpiry)
      (if new.preferred = ndiscInfinity then expiryInfinity
        else after.timestamp.toNat + 4294967294)
  same : after.address = before.address ∧ after.dadCounter = before.dadCounter

theorem relativeTime_eq (timestamp lifetime : UInt32) {base : Int} (positive : 0 ≤ base)
    (bounded : base ≤ 4294967295) :
    relativeTime timestamp lifetime base =
      some ((timestamp.toNat : Int) + lifetime.toNat - base) := by
  have timestamp_lt := timestamp.toNat_lt
  have lifetime_lt := lifetime.toNat_lt
  unfold relativeTime fitInt64
  rw [if_pos (by omega)]
  exact if_pos (by omega)

theorem fitUInt32_toNat (value : Int) (nonnegative : 0 ≤ value) (bounded : value ≤ 4294967295) :
    ∃ stored, fitUInt32 value = some stored ∧ (stored.toNat : Int) = value := by
  refine ⟨_, if_pos ⟨nonnegative, bounded⟩, ?_⟩
  rw [UInt32.toNat_ofNat_of_lt' (by rw [UInt32.size]; omega)]
  omega

theorem eq_infinity_iff (lifetime : UInt32) :
    lifetime = ndiscInfinity ↔ lifetime.toNat = 4294967295 := UInt32.toNat_inj.symm

theorem clampLifetime_eq (value : Int) (nonnegative : 0 ≤ value) :
    clampLifetime value = min value 4294967294 := by
  unfold clampLifetime
  split_ifs <;> omega

theorem remainingLifetime_eq (item : NMNDiscAddress) {now : Int} (positive : 0 ≤ now)
    (bounded : now ≤ 4294967295) : remainingLifetime item now = some (item.remaining now) := by
  unfold remainingLifetime NMNDiscAddress.remaining
  split
  · rfl
  · exact relativeTime_eq _ _ positive bounded

theorem updateLifetime_valid {existing new : NMNDiscAddress} {now : Int}
    (admitted : Admitted existing new now) :
    ∃ updated, updateLifetime existing new now = some updated ∧
      updated.remaining now = protectedLifetime (new.remaining now) (existing.remaining now) ∧
      updated.timestamp.toNat ≤ now ∧
      (new.lifetime = ndiscInfinity → updated.lifetime = ndiscInfinity) ∧
      updated.address = existing.address ∧ updated.dadCounter = existing.dadCounter := by
  obtain ⟨new_now, now_lt, positive, past, -⟩ := admitted
  have now_small : now < 2147483647 := now_lt
  unfold updateLifetime protectedLifetime
  by_cases endless : new.lifetime = ndiscInfinity
  · rw [if_pos endless]
    refine ⟨_, rfl, ?_, past, fun _ => rfl, rfl, rfl⟩
    rw [NMNDiscAddress.remaining, if_pos rfl, NMNDiscAddress.remaining, if_pos endless,
      if_pos (.inl (by decide))]
  have advertised : new.remaining now = new.lifetime.toNat := by
    rw [NMNDiscAddress.remaining, if_neg endless, new_now, add_sub_cancel_left]
  have finite := mt (eq_infinity_iff new.lifetime).mpr endless
  have lifetime_lt := new.lifetime.toNat_lt
  have unclamped : clampLifetime new.lifetime.toNat = new.lifetime.toNat := by
    rw [clampLifetime_eq _ (Int.natCast_nonneg _)]
    omega
  obtain ⟨moved, fits, moved_eq⟩ := fitUInt32_toNat now (by omega) (by omega)
  obtain ⟨stored, stored_fits, stored_eq⟩ :=
    fitUInt32_toNat new.lifetime.toNat (Int.natCast_nonneg _) (by omega)
  rw [if_neg endless, remainingLifetime_eq existing (by omega) (by omega), bind_eq_bind,
    bind_some, relativeTime_eq _ _ (by omega) (by omega), new_now, add_sub_cancel_left,
    bind_eq_bind, bind_some, advertised]
  by_cases longer : (new.lifetime.toNat : Int) > 7200 ∨
      (new.lifetime.toNat : Int) > existing.remaining now
  · have stored_finite : stored ≠ ndiscInfinity := by
      rw [ne_eq, eq_infinity_iff]
      omega
    rw [if_pos longer, if_pos longer, fits, unclamped, stored_fits]
    refine ⟨_, rfl, ?_, moved_eq.le, fun same => absurd same endless, rfl, rfl⟩
    rw [NMNDiscAddress.remaining, if_neg stored_finite, moved_eq, stored_eq, add_sub_cancel_left]
  · rw [if_neg longer, if_neg longer]
    by_cases kept : existing.remaining now ≤ 7200
    · rw [if_pos kept, if_pos kept]
      exact ⟨existing, rfl, rfl, past, fun same => absurd same endless, rfl, rfl⟩
    · rw [if_neg kept, if_neg kept, fits]
      refine ⟨_, rfl, ?_, moved_eq.le, fun same => absurd same endless, rfl, rfl⟩
      have finite : (7200 : UInt32) ≠ ndiscInfinity := by decide
      rw [NMNDiscAddress.remaining, if_neg finite, moved_eq, add_sub_cancel_left]
      rfl

theorem updatePreferred_expiry {existing new : NMNDiscAddress} {now : Int}
    (new_now : new.timestamp.toNat = now) (now_lt : now < maxInt32)
    (past : existing.timestamp.toNat ≤ now)
    (endless : new.preferred = ndiscInfinity → existing.lifetime = ndiscInfinity) :
    ∃ preferred, updatePreferred existing new = some { existing with preferred := preferred } ∧
      preferred.toNat ≤ existing.lifetime.toNat ∧
      getExpiryTime existing.timestamp preferred =
        min (min new.getExpiryPreferred existing.getExpiry)
          (if new.preferred = ndiscInfinity then expiryInfinity
            else existing.timestamp.toNat + 4294967294) := by
  have now_small : now < 2147483647 := now_lt
  unfold updatePreferred NMNDiscAddress.getExpiryPreferred NMNDiscAddress.getExpiry getExpiryTime
  by_cases infinite : new.preferred = ndiscInfinity
  · rw [if_pos infinite, if_pos (endless infinite)]
    refine ⟨new.preferred, rfl, by rw [infinite, endless infinite], ?_⟩
    simp [infinite, endless infinite]
  have preferred_lt := new.preferred.toNat_lt
  have lifetime_lt := existing.lifetime.toNat_lt
  have clamped := clampLifetime_eq
    ((new.timestamp.toNat : Int) + new.preferred.toNat - existing.timestamp.toNat) (by omega)
  obtain ⟨stored, fits, stored_eq⟩ := fitUInt32_toNat
    (clampLifetime ((new.timestamp.toNat : Int) + new.preferred.toNat -
      existing.timestamp.toNat)) (by omega) (by omega)
  have stored_finite : stored ≠ ndiscInfinity := by
    rw [ne_eq, eq_infinity_iff]
    omega
  rw [if_neg infinite, relativeTime_eq _ _ (Int.natCast_nonneg _) (by omega),
    bind_eq_bind, bind_some, fits, if_neg infinite, if_neg infinite]
  unfold expiryInfinity
  by_cases lasting : existing.lifetime = ndiscInfinity
  · have bound := (eq_infinity_iff _).mp lasting
    refine ⟨stored, by simp [lasting], by omega, ?_⟩
    rw [if_neg stored_finite, if_pos lasting]
    omega
  · rw [if_neg lasting]
    by_cases shorter : stored < existing.lifetime
    · refine ⟨stored, by simp [shorter], UInt32.le_of_lt shorter, ?_⟩
      rw [UInt32.lt_iff_toNat_lt] at shorter
      rw [if_neg stored_finite]
      omega
    · refine ⟨existing.lifetime, by simp [shorter, lasting], Nat.le_refl _, ?_⟩
      rw [UInt32.lt_iff_toNat_lt] at shorter
      rw [if_neg lasting]
      omega

/-- An advertised prefix changes the lifetimes of the address with this prefix as the rule of two
hours says, no value wraps, and the result tells whether an expiry changed. -/
theorem completeAndAddAddress_existing (self : AddressSettings) (front back : List NMNDiscAddress)
    (existing : NMNDiscAddress) {new : NMNDiscAddress} {now : Int}
    (others : ∀ item ∈ front, item.address.firstBytes 8 ≠ new.address.firstBytes 8)
    (found : existing.address.firstBytes 8 = new.address.firstBytes 8)
    (admitted : Admitted existing new now) :
    ∃ after changed,
      completeAndAddAddress self (front ++ existing :: back) new now =
        some (front ++ after :: back, changed) ∧
      Updated existing new after now ∧
      (changed = true ↔ existing.getExpiry ≠ after.getExpiry ∨
        existing.getExpiryPreferred ≠ after.getExpiryPreferred) := by
  obtain ⟨updated, valid_read, valid, past, endless, same⟩ := updateLifetime_valid admitted
  have lasting : new.preferred = ndiscInfinity → updated.lifetime = ndiscInfinity := by
    intro infinite
    have most := admitted.preferred_le
    have below := new.lifetime.toNat_lt
    have all := (eq_infinity_iff _).mp infinite
    exact endless ((eq_infinity_iff _).mpr (by omega))
  obtain ⟨preferred, preferred_read, preferred_le, preferred_expiry⟩ :=
    updatePreferred_expiry admitted.new_now admitted.now_lt past lasting
  obtain ⟨after, after_eq⟩ :
      ∃ after : NMNDiscAddress, after = { updated with preferred := preferred } := ⟨_, rfl⟩
  refine ⟨after, existing.getExpiry ≠ after.getExpiry ∨
    existing.getExpiryPreferred ≠ after.getExpiryPreferred, ?_, ?_, decide_eq_true_iff⟩
  · have passed : ∀ item ∈ front, (!isExisting new true item) = true := by
      intro item member
      simpa [isExisting] using others item member
    have here : isExisting new true existing = true := decide_eq_true found
    unfold completeAndAddAddress ndiscAddAddress
    dsimp only
    rw [takeWhile_append_of_pos passed, dropWhile_append_of_pos passed,
      takeWhile_cons_of_neg (by simp [here]), dropWhile_cons_of_neg (by simp [here])]
    dsimp only
    rw [if_pos rfl, valid_read, bind_eq_bind, bind_some, preferred_read,
      bind_some, append_nil, after_eq]
  · subst after_eq
    exact ⟨valid, preferred_le, preferred_expiry, same⟩

/-- An address that has a day left, and an announcement of one minute. -/
theorem completeAndAddAddress_existing_minute :
    ∃ after changed,
      completeAndAddAddress ⟨0, false, fun _ _ => none, 0⟩
          [⟨0x20010db8000000000000000000000001, 0, 100, 86400, 14400⟩]
          ⟨0x20010db8000000000000000000000000, 0, 1000, 60, 30⟩ 1000 =
        some ([after], changed) ∧
      Updated ⟨0x20010db8000000000000000000000001, 0, 100, 86400, 14400⟩
        ⟨0x20010db8000000000000000000000000, 0, 1000, 60, 30⟩ after 1000 ∧
      (changed = true ↔ (86500 : Int) ≠ after.getExpiry ∨
        (14500 : Int) ≠ after.getExpiryPreferred) :=
  completeAndAddAddress_existing ⟨0, false, fun _ _ => none, 0⟩ [] []
    ⟨0x20010db8000000000000000000000001, 0, 100, 86400, 14400⟩ (by simp) (by decide)
    ⟨by decide, by decide, by decide, by decide, by decide⟩

end NetworkManager.NDisc
