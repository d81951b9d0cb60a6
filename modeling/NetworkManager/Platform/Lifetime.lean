import Mathlib.Algebra.Group.Int.Defs
import Mathlib.Algebra.Group.Nat.Defs
import NetworkManager.Platform.Ip6AddressSync

/-!
# Lifetimes in machine integers

A lifetime is stored as a duration that began at a timestamp.  What remains of it at a later time
is computed from integers of three types.  No step of the computation wraps, so that it agrees with
the one in natural numbers, for which the order and the permanent lifetimes are easy to follow.
-/

namespace NetworkManager.Lifetime

open AddressSync

/-- `NM_PLATFORM_LIFETIME_PERMANENT`. -/
def permanent : UInt32 := 0xffffffff

/-- `(gint64)` of an unsigned number. -/
def widen (value : UInt32) : Int64 := value.toUInt64.toInt64

/-- When the duration began.  If the timestamp was left unset, it begins now. -/
def anchor (timestamp : UInt32) (now : Int32) : UInt32 :=
  if timestamp = 0 then now.toUInt32 else timestamp

def expiry (timestamp duration : UInt32) (now : Int32) : Int64 :=
  widen (anchor timestamp now) + widen duration

/-- What remains of the duration, which is negative if it is over. -/
def remaining (timestamp duration : UInt32) (now : Int32) : Int64 :=
  expiry timestamp duration now - now.toInt64

/-- `nm_utils_lifetime_rebase_relative_time_on_now`. -/
def lifetimeRebaseRelativeTimeOnNow (timestamp duration : UInt32) (now : Int32) : UInt32 :=
  if duration = permanent then permanent
  else
    let t := remaining timestamp duration now
    if t ≤ 0 then 0
    else if t ≥ widen permanent then permanent - 1
    else t.toUInt64.toUInt32

/-- The time that is used, which is the current one if none is given. -/
def usedNow (clock now : Int32) : Int32 :=
  if now ≤ 0 then clock else now

/-- `nm_utils_lifetime_get`: the lifetime and the preferred lifetime.  The clock is
`nm_utils_get_monotonic_timestamp_s`.  The assertions after the computation do not change what is
returned. -/
def lifetimeGet (clock : Int32) (timestamp lifetime preferred : UInt32) (now : Int32) :
    UInt32 × UInt32 :=
  if timestamp = 0 ∧ lifetime = 0 then (permanent, permanent)
  else
    let now := usedNow clock now
    let tLifetime := lifetimeRebaseRelativeTimeOnNow timestamp lifetime now
    if tLifetime = 0 then (0, 0)
    else
      let tPreferred := lifetimeRebaseRelativeTimeOnNow timestamp preferred now
      (tLifetime, min tPreferred tLifetime)

/-- The assertions of `nm_utils_lifetime_get` hold. -/
structure Admitted (clock : Int32) (timestamp lifetime preferred : UInt32) (now : Int32) :
    Prop where
  now_nonneg : 0 ≤ now
  unset_preferred : timestamp = 0 → lifetime = 0 → preferred = 0
  anchored : ¬ (timestamp = 0 ∧ lifetime = 0) →
    lifetimeRebaseRelativeTimeOnNow timestamp lifetime (usedNow clock now) ≠ 0 →
      timestamp ≠ 0 ∨ (lifetime = permanent ∧ preferred = permanent)
  preferred_le : ¬ (timestamp = 0 ∧ lifetime = 0) →
    lifetimeRebaseRelativeTimeOnNow timestamp lifetime (usedNow clock now) ≠ 0 →
      lifetimeRebaseRelativeTimeOnNow timestamp preferred (usedNow clock now) ≤
        lifetimeRebaseRelativeTimeOnNow timestamp lifetime (usedNow clock now)

theorem toInt_widen (value : UInt32) : (widen value).toInt = value.toNat := by
  have fits : value.toUInt64.toNat < 2 ^ 63 := by
    rw [UInt32.toNat_toUInt64]
    exact Nat.lt_trans value.toNat_lt (by decide)
  calc
    (widen value).toInt = (Int64.ofNat value.toUInt64.toNat).toInt := by
      rw [widen, ← UInt64.toInt64_ofNat', UInt64.ofNat_toNat]
    _ = value.toUInt64.toNat := Int64.toInt_ofNat_of_lt fits
    _ = value.toNat := by rw [UInt32.toNat_toUInt64]

theorem toNat_anchor (timestamp : UInt32) {now : Int32} (now_nonneg : 0 ≤ now) :
    (anchor timestamp now).toNat = if timestamp.toNat = 0 then now.toInt.toNat
      else timestamp.toNat := by
  unfold anchor
  by_cases unset : timestamp = 0
  · rw [if_pos unset, if_pos (by rw [unset]; rfl), Int32.toNat_toUInt32_of_le now_nonneg]
    rfl
  · have set : timestamp.toNat ≠ 0 := fun zero => unset (UInt32.toNat_inj.mp zero)
    rw [if_neg unset, if_neg set]

/-- A number of 64 bits with a sign is what was computed if that fits. -/
theorem bmod_eq_self {value : Int} (lower : -2 ^ 63 ≤ value) (upper : value < 2 ^ 63) :
    value.bmod (2 ^ 64) = value := by
  apply Int.bmod_eq_of_le
  · omega
  · omega

theorem toInt_expiry (timestamp duration : UInt32) (now : Int32) :
    (expiry timestamp duration now).toInt = (anchor timestamp now).toNat + duration.toNat := by
  have begin_lt := (anchor timestamp now).toNat_lt
  have duration_lt := duration.toNat_lt
  rw [expiry, Int64.toInt_add, toInt_widen, toInt_widen]
  exact bmod_eq_self (by omega) (by omega)

theorem toInt_remaining (timestamp duration : UInt32) (now : Int32) :
    (remaining timestamp duration now).toInt =
      (anchor timestamp now).toNat + duration.toNat - now.toInt := by
  have begin_lt := (anchor timestamp now).toNat_lt
  have duration_lt := duration.toNat_lt
  have now_lower := now.le_toInt
  have now_upper := now.toInt_lt
  rw [remaining, Int64.toInt_sub, toInt_expiry, Int32.toInt_toInt64]
  exact bmod_eq_self (by omega) (by omega)

/-- A number that fits is not changed by returning it as an unsigned one. -/
theorem toNat_narrow {t : Int64} (positive : 0 < t.toInt) (short : t.toInt < lifetimePermanent) :
    t.toUInt64.toUInt32.toNat = t.toInt.toNat := by
  have nonneg : 0 ≤ t := Int64.le_iff_toInt_le.mpr (Int.le_of_lt positive)
  have wide : t.toUInt64.toNat = t.toInt.toNat := Int64.toNat_toUInt64_of_le nonneg
  rw [UInt64.toNat_toUInt32, wide]
  apply Nat.mod_eq_of_lt
  unfold lifetimePermanent at short
  omega

theorem toNat_lifetimeRebaseRelativeTimeOnNow (timestamp duration : UInt32) {now : Int32}
    (now_nonneg : 0 ≤ now) :
    (lifetimeRebaseRelativeTimeOnNow timestamp duration now).toNat =
      lifetimeRebase timestamp.toNat duration.toNat now.toInt.toNat := by
  have now_toNat : (now.toInt.toNat : Int) = now.toInt :=
    Int.toNat_of_nonneg (Int32.le_iff_toInt_le.mp now_nonneg)
  have t_eq : (remaining timestamp duration now).toInt =
      ((if timestamp.toNat = 0 then now.toInt.toNat else timestamp.toNat : Nat) : Int) +
        duration.toNat - now.toInt.toNat := by
    rw [toInt_remaining, toNat_anchor timestamp now_nonneg, now_toNat]
  have permanent_toNat : permanent.toNat = lifetimePermanent := rfl
  unfold lifetimeRebaseRelativeTimeOnNow lifetimeRebase
  by_cases is_permanent : duration = permanent
  · rw [if_pos is_permanent, if_pos (by rw [is_permanent, permanent_toNat]), permanent_toNat]
  · have finite : duration.toNat ≠ lifetimePermanent := by
      intro same
      exact is_permanent (UInt32.toNat_inj.mp same)
    rw [if_neg is_permanent, if_neg finite]
    dsimp only
    rw [← t_eq]
    generalize remaining timestamp duration now = t
    have ended_iff : t ≤ 0 ↔ t.toInt ≤ 0 := Int64.le_iff_toInt_le
    have long_iff : t ≥ widen permanent ↔ t.toInt ≥ lifetimePermanent := by
      rw [ge_iff_le, Int64.le_iff_toInt_le, toInt_widen, permanent_toNat]
    by_cases ended : t ≤ 0
    · rw [if_pos ended, if_pos (ended_iff.mp ended)]
      rfl
    · rw [if_neg ended, if_neg (fun le => ended (ended_iff.mpr le))]
      by_cases long : t ≥ widen permanent
      · rw [if_pos long, if_pos (long_iff.mp long)]
        rfl
      · rw [if_neg long, if_neg (fun ge => long (long_iff.mpr ge))]
        have positive : 0 < t.toInt := by
          by_contra not_positive
          exact ended (ended_iff.mpr (by omega))
        have short : t.toInt < lifetimePermanent := by
          by_contra not_short
          exact long (long_iff.mpr (by omega))
        exact toNat_narrow positive short

theorem toNat_min (a b : UInt32) : (min a b).toNat = min a.toNat b.toNat := by
  change (if a ≤ b then a else b).toNat = _
  by_cases le : a ≤ b
  · rw [if_pos le, Nat.min_eq_left (UInt32.le_iff_toNat_le.mp le)]
  · have ge : b.toNat ≤ a.toNat := by
      rw [UInt32.le_iff_toNat_le] at le
      omega
    rw [if_neg le, Nat.min_eq_right ge]

theorem toNat_lifetimeGet {clock now : Int32} (timestamp lifetime preferred : UInt32)
    (used_nonneg : 0 ≤ usedNow clock now) :
    (((lifetimeGet clock timestamp lifetime preferred now).1.toNat,
      (lifetimeGet clock timestamp lifetime preferred now).2.toNat) : Nat × Nat) =
      AddressSync.lifetimeGet timestamp.toNat lifetime.toNat preferred.toNat
        (usedNow clock now).toInt.toNat := by
  have zero_iff : ∀ value : UInt32, value = 0 ↔ value.toNat = 0 := by
    intro value
    rw [← UInt32.toNat_inj]
    rfl
  have lifetime_eq := toNat_lifetimeRebaseRelativeTimeOnNow timestamp lifetime used_nonneg
  have preferred_eq := toNat_lifetimeRebaseRelativeTimeOnNow timestamp preferred used_nonneg
  unfold lifetimeGet AddressSync.lifetimeGet
  rw [← lifetime_eq, ← preferred_eq]
  simp only [zero_iff]
  split
  · rfl
  · split
    · rfl
    · rw [toNat_min]

theorem lifetimeRebase_of_permanent {duration : Nat} (is_permanent : duration = lifetimePermanent)
    (timestamp now : Nat) : lifetimeRebase timestamp duration now = lifetimePermanent := by
  rw [lifetimeRebase, if_pos is_permanent]

theorem lifetimeRebase_of_finite {duration : Nat} (finite : duration ≠ lifetimePermanent)
    (timestamp now : Nat) :
    lifetimeRebase timestamp duration now =
      min ((if timestamp = 0 then now else timestamp) + duration - now)
        (lifetimePermanent - 1) := by
  unfold lifetimeRebase
  rw [if_neg finite]
  generalize (if timestamp = 0 then now else timestamp) = anchored
  have positive : 0 < lifetimePermanent := by decide
  generalize lifetimePermanent = bound at positive
  dsimp only
  split
  · omega
  · split
    · omega
    · omega

theorem lifetimeRebase_eq_permanent_iff (timestamp duration now : Nat) :
    lifetimeRebase timestamp duration now = lifetimePermanent ↔ duration = lifetimePermanent := by
  constructor
  · intro same
    by_contra finite
    have positive : 0 < lifetimePermanent := by decide
    rw [lifetimeRebase_of_finite finite] at same
    omega
  · intro is_permanent
    exact lifetimeRebase_of_permanent is_permanent timestamp now

theorem lifetimeRebase_antitone {timestamp : Nat} (anchored : timestamp ≠ 0) (duration : Nat)
    {now later : Nat} (le : now ≤ later) :
    lifetimeRebase timestamp duration later ≤ lifetimeRebase timestamp duration now := by
  by_cases is_permanent : duration = lifetimePermanent
  · have same := lifetimeRebase_of_permanent is_permanent timestamp
    exact Nat.le_of_eq ((same later).trans (same now).symm)
  · rw [lifetimeRebase_of_finite is_permanent, lifetimeRebase_of_finite is_permanent,
      if_neg anchored, if_neg anchored]
    omega

theorem lifetimeGet_preferred_le (timestamp lifetime preferred now : Nat) :
    (AddressSync.lifetimeGet timestamp lifetime preferred now).2 ≤
      (AddressSync.lifetimeGet timestamp lifetime preferred now).1 := by
  unfold AddressSync.lifetimeGet
  split
  · exact Nat.le_refl _
  · dsimp only
    split
    · exact Nat.le_refl _
    · exact Nat.min_le_right _ _

theorem lifetimeGet_of_anchored {timestamp : Nat} (anchored : timestamp ≠ 0)
    (lifetime preferred now : Nat) :
    AddressSync.lifetimeGet timestamp lifetime preferred now =
      (lifetimeRebase timestamp lifetime now,
        min (lifetimeRebase timestamp preferred now) (lifetimeRebase timestamp lifetime now)) := by
  unfold AddressSync.lifetimeGet
  rw [if_neg (fun unset => anchored unset.1)]
  dsimp only
  split
  case isTrue ended => rw [ended, Nat.min_zero]
  case isFalse => rfl

theorem lifetimeGet_antitone {timestamp : Nat} (anchored : timestamp ≠ 0)
    (lifetime preferred : Nat) {now later : Nat} (le : now ≤ later) :
    (AddressSync.lifetimeGet timestamp lifetime preferred later).1 ≤
        (AddressSync.lifetimeGet timestamp lifetime preferred now).1 ∧
      (AddressSync.lifetimeGet timestamp lifetime preferred later).2 ≤
        (AddressSync.lifetimeGet timestamp lifetime preferred now).2 := by
  have lifetime_le := lifetimeRebase_antitone anchored lifetime le
  have preferred_le := lifetimeRebase_antitone anchored preferred le
  rw [lifetimeGet_of_anchored anchored, lifetimeGet_of_anchored anchored]
  exact ⟨lifetime_le, by omega⟩

theorem lifetimeGet_permanent_iff (timestamp lifetime preferred now : Nat) :
    ((AddressSync.lifetimeGet timestamp lifetime preferred now).1 = lifetimePermanent ↔
        lifetime = lifetimePermanent ∨ (timestamp = 0 ∧ lifetime = 0)) ∧
      ((AddressSync.lifetimeGet timestamp lifetime preferred now).2 = lifetimePermanent ↔
        (lifetime = lifetimePermanent ∧ preferred = lifetimePermanent) ∨
          (timestamp = 0 ∧ lifetime = 0)) := by
  have zero_finite : (0 : Nat) ≠ lifetimePermanent := by decide
  have lifetime_iff := lifetimeRebase_eq_permanent_iff timestamp lifetime now
  have preferred_iff := lifetimeRebase_eq_permanent_iff timestamp preferred now
  have bounded : ∀ duration, lifetimeRebase timestamp duration now ≤ lifetimePermanent := by
    intro duration
    by_cases is_permanent : duration = lifetimePermanent
    · exact Nat.le_of_eq (lifetimeRebase_of_permanent is_permanent timestamp now)
    · rw [lifetimeRebase_of_finite is_permanent]
      omega
  have lifetime_le := bounded lifetime
  have preferred_le := bounded preferred
  unfold AddressSync.lifetimeGet
  split
  case isTrue unset => simp [unset]
  case isFalse set =>
    dsimp only
    split
    case isTrue ended =>
      have finite : lifetime ≠ lifetimePermanent := by
        intro is_permanent
        exact zero_finite (ended ▸ lifetime_iff.mpr is_permanent)
      simp [zero_finite, finite, set]
    case isFalse =>
      rw [lifetime_iff]
      simp only [set, or_false, true_and]
      rw [← lifetime_iff, ← preferred_iff]
      omega

/-- No step of the computation wraps. -/
structure NoWrap (timestamp duration : UInt32) (now : Int32) : Prop where
  anchor : ((anchor timestamp now).toNat : Int) =
    if timestamp.toNat = 0 then now.toInt else timestamp.toNat
  expiry : (expiry timestamp duration now).toInt = (Lifetime.anchor timestamp now).toNat +
    duration.toNat
  remaining : (remaining timestamp duration now).toInt =
    (Lifetime.anchor timestamp now).toNat + duration.toNat - now.toInt
  result : (lifetimeRebaseRelativeTimeOnNow timestamp duration now).toNat =
    lifetimeRebase timestamp.toNat duration.toNat now.toInt.toNat

theorem NoWrap.of_nonneg (timestamp duration : UInt32) {now : Int32} (now_nonneg : 0 ≤ now) :
    NoWrap timestamp duration now where
  anchor := by
    have now_toNat : (now.toInt.toNat : Int) = now.toInt :=
      Int.toNat_of_nonneg (Int32.le_iff_toInt_le.mp now_nonneg)
    rw [toNat_anchor timestamp now_nonneg]
    split
    · exact now_toNat
    · rfl
  expiry := toInt_expiry timestamp duration now
  remaining := toInt_remaining timestamp duration now
  result := toNat_lifetimeRebaseRelativeTimeOnNow timestamp duration now_nonneg

/-- What holds of the lifetimes at a time.  Only a lifetime that was left unset besides its
timestamp is returned as a permanent one without being stored so, and a preferred lifetime is cut at
the lifetime.  No time means the current one, so that later times are only compared with a time. -/
structure Laws (clock : Int32) (timestamp lifetime preferred : UInt32) (now : Int32) : Prop where
  preferred_le : (lifetimeGet clock timestamp lifetime preferred now).2 ≤
    (lifetimeGet clock timestamp lifetime preferred now).1
  rebase_permanent_iff : ∀ duration,
    lifetimeRebaseRelativeTimeOnNow timestamp duration now = permanent ↔ duration = permanent
  lifetime_permanent_iff : (lifetimeGet clock timestamp lifetime preferred now).1 = permanent ↔
    lifetime = permanent ∨ (timestamp = 0 ∧ lifetime = 0)
  preferred_permanent_iff : (lifetimeGet clock timestamp lifetime preferred now).2 = permanent ↔
    (lifetime = permanent ∧ preferred = permanent) ∨ (timestamp = 0 ∧ lifetime = 0)
  rebase_antitone : timestamp ≠ 0 → ∀ duration later, now ≤ later →
    lifetimeRebaseRelativeTimeOnNow timestamp duration later ≤
      lifetimeRebaseRelativeTimeOnNow timestamp duration now
  get_antitone : timestamp ≠ 0 → 0 < now → ∀ later, now ≤ later →
    (lifetimeGet clock timestamp lifetime preferred later).1 ≤
        (lifetimeGet clock timestamp lifetime preferred now).1 ∧
      (lifetimeGet clock timestamp lifetime preferred later).2 ≤
        (lifetimeGet clock timestamp lifetime preferred now).2
  rebase_exact : ∀ duration, NoWrap timestamp duration now
  get_exact : ∀ duration, NoWrap timestamp duration (usedNow clock now)

theorem usedNow_nonneg {clock now : Int32} (clock_pos : 0 < clock) : 0 ≤ usedNow clock now := by
  unfold usedNow
  rw [Int32.lt_iff_toInt_lt] at clock_pos
  split
  case isTrue =>
    rw [Int32.le_iff_toInt_le]
    omega
  case isFalse after =>
    rw [Int32.le_iff_toInt_le] at after ⊢
    omega

theorem usedNow_of_pos {clock now : Int32} (now_pos : 0 < now) : usedNow clock now = now := by
  unfold usedNow
  rw [if_neg]
  rw [Int32.lt_iff_toInt_lt] at now_pos
  rw [Int32.le_iff_toInt_le]
  omega

/-- The laws hold at every time that the assertions admit.  The clock is documented to be
positive. -/
theorem laws {clock now : Int32} (clock_pos : 0 < clock) (now_nonneg : 0 ≤ now)
    (timestamp lifetime preferred : UInt32) : Laws clock timestamp lifetime preferred now := by
  have used_nonneg : ∀ now, 0 ≤ usedNow clock now := fun _ => usedNow_nonneg clock_pos
  have lifetime_eq : ∀ now, (lifetimeGet clock timestamp lifetime preferred now).1.toNat =
      (AddressSync.lifetimeGet timestamp.toNat lifetime.toNat preferred.toNat
        (usedNow clock now).toInt.toNat).1 := fun now =>
    congrArg Prod.fst (toNat_lifetimeGet timestamp lifetime preferred (used_nonneg now))
  have preferred_eq : ∀ now, (lifetimeGet clock timestamp lifetime preferred now).2.toNat =
      (AddressSync.lifetimeGet timestamp.toNat lifetime.toNat preferred.toNat
        (usedNow clock now).toInt.toNat).2 := fun now =>
    congrArg Prod.snd (toNat_lifetimeGet timestamp lifetime preferred (used_nonneg now))
  have permanent_iff : ∀ value : UInt32, value = permanent ↔ value.toNat = lifetimePermanent :=
    fun value => UInt32.toNat_inj.symm
  have zero_iff : ∀ value : UInt32, value = 0 ↔ value.toNat = 0 :=
    fun value => UInt32.toNat_inj.symm
  have stored := lifetimeGet_permanent_iff timestamp.toNat lifetime.toNat preferred.toNat
    (usedNow clock now).toInt.toNat
  have later_nonneg : ∀ later, now ≤ later → 0 ≤ later :=
    fun later le => Int32.le_trans now_nonneg le
  have later_le : ∀ later, now ≤ later → now.toInt.toNat ≤ later.toInt.toNat := by
    intro later le
    rw [Int32.le_iff_toInt_le] at le
    omega
  constructor
  case preferred_le =>
    rw [UInt32.le_iff_toNat_le, lifetime_eq, preferred_eq]
    exact lifetimeGet_preferred_le _ _ _ _
  case rebase_permanent_iff =>
    intro duration
    rw [permanent_iff, permanent_iff, toNat_lifetimeRebaseRelativeTimeOnNow _ _ now_nonneg]
    exact lifetimeRebase_eq_permanent_iff _ _ _
  case lifetime_permanent_iff =>
    rw [permanent_iff, permanent_iff, zero_iff, zero_iff, lifetime_eq]
    exact stored.1
  case preferred_permanent_iff =>
    rw [permanent_iff, permanent_iff, permanent_iff, zero_iff, zero_iff, preferred_eq]
    exact stored.2
  case rebase_antitone =>
    intro anchored duration later le
    rw [Ne, zero_iff] at anchored
    rw [UInt32.le_iff_toNat_le, toNat_lifetimeRebaseRelativeTimeOnNow _ _ now_nonneg,
      toNat_lifetimeRebaseRelativeTimeOnNow _ _ (later_nonneg later le)]
    exact lifetimeRebase_antitone anchored _ (later_le later le)
  case get_antitone =>
    intro anchored now_pos later le
    rw [Ne, zero_iff] at anchored
    rw [UInt32.le_iff_toNat_le, UInt32.le_iff_toNat_le, lifetime_eq, lifetime_eq, preferred_eq,
      preferred_eq, usedNow_of_pos now_pos, usedNow_of_pos (Int32.lt_of_lt_of_le now_pos le)]
    exact lifetimeGet_antitone anchored _ _ (later_le later le)
  case rebase_exact => exact fun duration => NoWrap.of_nonneg timestamp duration now_nonneg
  case get_exact =>
    exact fun duration => NoWrap.of_nonneg timestamp duration (used_nonneg now)

/-- The laws of an address that was learnt at 100 and is looked at when the clock is at 160. -/
theorem laws_at_160 : Laws 160 100 3600 1800 160 :=
  laws (by decide) (by decide) 100 3600 1800

/-- A lifetime that was left unset is returned as a permanent one, a permanent preferred lifetime is
over with its lifetime, and without a time less can remain than at an early time. -/
theorem laws_without_exceptions_fail :
    (¬ ∀ clock timestamp lifetime preferred now, 0 < clock →
      Admitted clock timestamp lifetime preferred now →
        ((lifetimeGet clock timestamp lifetime preferred now).1 = permanent ↔
          lifetime = permanent)) ∧
      (¬ ∀ clock timestamp lifetime preferred now, 0 < clock →
        Admitted clock timestamp lifetime preferred now →
          ((lifetimeGet clock timestamp lifetime preferred now).2 = permanent ↔
            preferred = permanent)) ∧
        ¬ ∀ clock timestamp lifetime preferred now later, 0 < clock → timestamp ≠ 0 →
          Admitted clock timestamp lifetime preferred now →
            Admitted clock timestamp lifetime preferred later → now ≤ later →
              (lifetimeGet clock timestamp lifetime preferred later).1 ≤
                (lifetimeGet clock timestamp lifetime preferred now).1 := by
  refine ⟨fun always => ?_, fun always => ?_, fun always => ?_⟩
  · have unset := always 1 0 0 0 1 (by decide)
      ⟨by decide, by decide, by decide, by decide⟩
    exact absurd unset (by decide)
  · have ended := always 1 10 5 permanent 100 (by decide)
      ⟨by decide, by decide, by decide, by decide⟩
    exact absurd ended (by decide)
  · have early := always 100 50 60 0 0 1 (by decide) (by decide)
      ⟨by decide, by decide, by decide, by decide⟩ ⟨by decide, by decide, by decide, by decide⟩
      (by decide)
    exact absurd early (by decide)

end NetworkManager.Lifetime
