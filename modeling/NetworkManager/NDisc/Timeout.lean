import NetworkManager.NDisc.Data

/-!
# When expired data is dropped

`check_timestamps` drops what has expired and schedules the next check.  The five sweeps share one
variable with the time of the next event: for gateways, addresses and routes the event is the
expiry, for DNS items it is the refresh at half of the lifetime, as long as that is still to come.
-/

namespace NetworkManager.NDisc

open List

/-- The end of `check_timestamps`: the delay of the timer, unless none is scheduled. -/
def timeoutDelay (now nextevent : Int) : Option Int :=
  if nextevent ≠ maxInt32 then
    -- The check `nextevent <= now` returns with a warning.
    if nextevent ≤ now then none else some (nextevent - now)
  else none

/-- An expiry that fits a `gint32`. -/
def saturate (expiry : Int) : Int := min expiry (maxInt32 - 1)

def isLive (now expiry : Int) : Bool :=
  expiry = expiryInfinity || now < saturate expiry

/-- What a check finds out about an item. -/
structure Timed where
  expiry : Int
  event : Option Int
  deriving DecidableEq, Repr

/-- A gateway, an address or a route. -/
def timedItem (expiry : Int) : Timed where
  expiry := expiry
  event := if expiry = expiryInfinity then none else some (saturate expiry)

/-- A DNS server or domain, which is refreshed at half of its lifetime. -/
def timedDns (now : Int) (timestamp lifetime : UInt32) : Timed where
  expiry := getExpiryTime timestamp lifetime
  event :=
    if getExpiryHalf timestamp lifetime = expiryInfinity ∨ getExpiryHalf timestamp lifetime ≤ now
    then none else some (getExpiryHalf timestamp lifetime)

namespace NMNDiscDataInternal

section

variable (data : NMNDiscDataInternal)

def live (now : Int) : NMNDiscDataInternal where
  gateways := data.gateways.filter fun item => isLive now item.getExpiry
  addresses := data.addresses.filter fun item => isLive now item.getExpiry
  routes := data.routes.filter fun item => isLive now item.getExpiry
  dnsServers := data.dnsServers.filter fun item =>
    isLive now (getExpiryTime item.timestamp item.lifetime)
  dnsDomains := data.dnsDomains.filter fun item =>
    isLive now (getExpiryTime item.timestamp item.lifetime)

/-- The gateways, addresses and routes in time. -/
def timedItems : List Timed :=
  data.gateways.map (fun item => timedItem item.getExpiry) ++
    (data.addresses.map (fun item => timedItem item.getExpiry) ++
      data.routes.map fun item => timedItem item.getExpiry)

/-- The DNS servers and domains in time. -/
def timedDnsItems (now : Int) : List Timed :=
  data.dnsServers.map (fun item => timedDns now item.timestamp item.lifetime) ++
    data.dnsDomains.map fun item => timedDns now item.timestamp item.lifetime

def timed (now : Int) : List Timed :=
  data.timedItems ++ data.timedDnsItems now

end

end NMNDiscDataInternal

/-- Something happens for one of the items by a time. -/
def EventBy (items : List Timed) (time : Int) : Prop :=
  ∃ item ∈ items, ∃ event, item.event = some event ∧ event ≤ time

theorem eventBy_append {items others : List Timed} {time : Int} :
    EventBy (items ++ others) time ↔ EventBy items time ∨ EventBy others time := by
  unfold EventBy
  simp only [mem_append, or_and_right, exists_or]

variable {item : Timed} {data : NMNDiscDataInternal}

theorem eventBy_cons {items : List Timed} {time : Int} :
    EventBy (item :: items) time ↔ EventBy [item] time ∨ EventBy items time :=
  @eventBy_append [item] items time

theorem expiryNext_fst (now expiry : Int) (nextevent : Option Int) :
    (expiryNext now expiry nextevent).1 = isLive now expiry := by
  unfold expiryNext isLive saturate
  by_cases infinite : expiry = expiryInfinity
  · simp [infinite]
  · by_cases expired : min expiry (maxInt32 - 1) ≤ now
    · have not_later : ¬ now < min expiry (maxInt32 - 1) := by omega
      rw [if_neg infinite, decide_eq_false infinite, decide_eq_false not_later]
      exact congrArg Prod.fst (if_pos expired)
    · have later : now < min expiry (maxInt32 - 1) := by omega
      rw [if_neg infinite, decide_eq_false infinite, decide_eq_true later]
      exact congrArg Prod.fst (if_neg expired)

theorem eventBy_singleton {time : Int} :
    EventBy [item] time ↔ ∃ event, item.event = some event ∧ event ≤ time := by
  simp [EventBy]

theorem expiryNext_snd {now expiry nextevent : Int} (live : isLive now expiry = true) (time : Int) :
    ((expiryNext now expiry (some nextevent)).2.getD nextevent) ≤ time ↔
      nextevent ≤ time ∨ EventBy [timedItem expiry] time := by
  rw [eventBy_singleton]
  unfold expiryNext timedItem
  by_cases infinite : expiry = expiryInfinity
  · simp [infinite]
  · have live : now < saturate expiry := by simpa [isLive, infinite] using live
    have later : ¬ min expiry (maxInt32 - 1) ≤ now := by
      unfold saturate at live
      omega
    simp only [infinite, if_false, later, Option.map_some, Option.getD_some, Option.some.injEq,
      exists_eq_left', saturate]
    split <;> omega

section Sweep

variable {α : Type} {config : UInt32} {now : Int}

/-- A sweep keeps what has not expired, and the next event is the first one of the items that are
kept. -/
theorem cleanLoop_spec (getExpiry : α → Int) (items : List α) (state : SweepState) :
    (cleanLoop getExpiry config now items state).1 =
        items.filter (fun item => isLive now (getExpiry item)) ∧
      ∀ time, (cleanLoop getExpiry config now items state).2.nextevent ≤ time ↔
        state.nextevent ≤ time ∨
          EventBy ((items.filter fun item => isLive now (getExpiry item)).map fun item =>
            timedItem (getExpiry item)) time := by
  induction items generalizing state with
  | nil => exact ⟨rfl, fun time => by simp [cleanLoop, EventBy]⟩
  | cons item rest ih =>
    have live_eq := expiryNext_fst now (getExpiry item) (some state.nextevent)
    rw [cleanLoop]
    split
    · rename_i result result_eq
      rw [result_eq] at live_eq
      obtain ⟨items_eq, event_iff⟩ := ih { state with changed := state.changed ||| config }
      rw [filter_cons, if_neg (live_eq ▸ Bool.false_ne_true)]
      exact ⟨items_eq, event_iff⟩
    · rename_i nextevent result_eq
      rw [result_eq] at live_eq
      obtain ⟨items_eq, event_iff⟩ :=
        ih { state with nextevent := nextevent.getD state.nextevent }
      rw [filter_cons, if_pos live_eq.symm]
      refine ⟨congrArg (item :: ·) items_eq, fun time => (event_iff time).trans ?_⟩
      have item_event := @expiryNext_snd now (getExpiry item) state.nextevent live_eq.symm time
      rw [result_eq] at item_event
      rw [item_event, or_assoc, map_cons, ← eventBy_cons]

theorem getExpiryTime_ne_infinity {timestamp lifetime : UInt32} (finite : lifetime ≠ ndiscInfinity) :
    getExpiryTime timestamp lifetime ≠ expiryInfinity := by
  have timestamp_lt := timestamp.toNat_lt
  have lifetime_lt := lifetime.toNat_lt
  unfold getExpiryTime expiryInfinity
  rw [if_neg finite]
  omega

theorem getExpiryHalf_eq_infinity {timestamp lifetime : UInt32} :
    getExpiryHalf timestamp lifetime = expiryInfinity ↔
      getExpiryTime timestamp lifetime = expiryInfinity := by
  unfold getExpiryHalf
  by_cases infinite : lifetime = ndiscInfinity
  · simp [infinite, getExpiryTime]
  · rw [if_neg infinite]
    have half_finite : lifetime / 2 ≠ ndiscInfinity := by
      intro same
      have half := congrArg UInt32.toNat same
      have lifetime_lt := lifetime.toNat_lt
      rw [UInt32.toNat_div] at half
      simp only [ndiscInfinity, UInt32.reduceToNat] at half
      omega
    simp [getExpiryTime_ne_infinity infinite, getExpiryTime_ne_infinity half_finite]

theorem cleanDnsLoop_cons (timestamp lifetime : α → UInt32) (item : α) (rest : List α)
    (state : SweepState) :
    ∃ state', (isLive now (getExpiryTime (timestamp item) (lifetime item)) = true →
        ∀ time, state'.nextevent ≤ time ↔ state.nextevent ≤ time ∨
          EventBy [timedDns now (timestamp item) (lifetime item)] time) ∧
      (isLive now (getExpiryTime (timestamp item) (lifetime item)) = false →
        state'.nextevent = state.nextevent) ∧
      cleanDnsLoop timestamp lifetime config now (item :: rest) state =
        if isLive now (getExpiryTime (timestamp item) (lifetime item)) then
          (item :: (cleanDnsLoop timestamp lifetime config now rest state').1,
            (cleanDnsLoop timestamp lifetime config now rest state').2)
        else cleanDnsLoop timestamp lifetime config now rest state' := by
  rw [cleanDnsLoop, expiryNext_fst]
  simp only [eventBy_singleton, timedDns]
  by_cases infinite : getExpiryHalf (timestamp item) (lifetime item) = expiryInfinity
  · have live : isLive now (getExpiryTime (timestamp item) (lifetime item)) = true := by
      simp [isLive, getExpiryHalf_eq_infinity.mp infinite]
    exact ⟨state, by simp [infinite], by simp [live], by simp [infinite, live]⟩
  · cases live : isLive now (getExpiryTime (timestamp item) (lifetime item)) with
    | false =>
      exact ⟨{ state with changed := state.changed ||| config }, by simp, by simp,
        by simp [infinite]⟩
    | true =>
      by_cases refreshed : getExpiryHalf (timestamp item) (lifetime item) ≤ now
      · exact ⟨{ state with solicited := true }, by simp [refreshed], by simp,
          by simp [infinite, refreshed]⟩
      · by_cases earlier : getExpiryHalf (timestamp item) (lifetime item) < state.nextevent
        · refine ⟨{ state with nextevent := getExpiryHalf (timestamp item) (lifetime item) }, ?_,
            by simp, by simp [infinite, refreshed, earlier]⟩
          intro _ time
          simp only [infinite, refreshed, or_self, if_false, Option.some.injEq, exists_eq_left']
          omega
        · refine ⟨state, ?_, by simp, by simp [infinite, refreshed, earlier]⟩
          intro _ time
          simp only [infinite, refreshed, or_self, if_false, Option.some.injEq, exists_eq_left']
          omega

theorem cleanDnsLoop_spec (timestamp lifetime : α → UInt32) (items : List α) (state : SweepState) :
    (cleanDnsLoop timestamp lifetime config now items state).1 =
        items.filter (fun item => isLive now (getExpiryTime (timestamp item) (lifetime item))) ∧
      ∀ time, (cleanDnsLoop timestamp lifetime config now items state).2.nextevent ≤ time ↔
        state.nextevent ≤ time ∨
          EventBy ((items.filter fun item =>
            isLive now (getExpiryTime (timestamp item) (lifetime item))).map fun item =>
              timedDns now (timestamp item) (lifetime item)) time := by
  induction items generalizing state with
  | nil => exact ⟨rfl, fun time => by simp [cleanDnsLoop, EventBy]⟩
  | cons item rest ih =>
    obtain ⟨state', live_iff, expired_eq, loop_eq⟩ :=
      cleanDnsLoop_cons timestamp lifetime item rest state
    obtain ⟨items_eq, event_iff⟩ := ih state'
    rw [loop_eq, filter_cons]
    cases live : isLive now (getExpiryTime (timestamp item) (lifetime item)) with
    | false =>
      refine ⟨items_eq, fun time => ?_⟩
      rw [← expired_eq live]
      exact event_iff time
    | true =>
      refine ⟨congrArg (item :: ·) items_eq, fun time => (event_iff time).trans ?_⟩
      rw [live_iff live time, or_assoc, if_pos rfl, map_cons, ← eventBy_cons]

end Sweep

/-- A check drops exactly what has expired, and the next event is the first one of what stays. -/
theorem checkTimestamps_spec (now : Int) (changed : UInt32) (data : NMNDiscDataInternal) :
    (checkTimestamps now changed data).1 = data.live now ∧
      ∀ time, (checkTimestamps now changed data).2.nextevent ≤ time ↔
        maxInt32 ≤ time ∨ EventBy ((data.live now).timed now) time := by
  unfold checkTimestamps cleanGateways cleanAddresses cleanRoutes cleanDnsServers cleanDnsDomains
  dsimp only
  refine ⟨?_, fun time => ?_⟩
  · simp only [(cleanLoop_spec _ _ _).1, (cleanDnsLoop_spec _ _ _ _).1]
    rfl
  · rw [(cleanDnsLoop_spec _ _ _ _).2, (cleanDnsLoop_spec _ _ _ _).2, (cleanLoop_spec _ _ _).2,
      (cleanLoop_spec _ _ _).2, (cleanLoop_spec _ _ _).2]
    simp only [NMNDiscDataInternal.timed, NMNDiscDataInternal.timedItems,
      NMNDiscDataInternal.timedDnsItems, eventBy_append, or_assoc]
    rfl

/-- No expired data is kept unnoticed after a check: what has expired is dropped, the next event is
still to come, and the timer fires before anything else expires. -/
structure NothingUnnoticed (now : Int) (changed : UInt32) (data : NMNDiscDataInternal) : Prop where
  kept : (checkTimestamps now changed data).1 = data.live now
  future : (checkTimestamps now changed data).2.nextevent ≠ maxInt32 →
    now < (checkTimestamps now changed data).2.nextevent
  /-- The timer fires no later than any item that is left expires. -/
  timer : ∀ item ∈ (data.live now).timed now, item.expiry ≠ expiryInfinity → ∃ delay,
    timeoutDelay now (checkTimestamps now changed data).2.nextevent = some delay ∧
      now + delay ≤ saturate item.expiry

/-- For each DNS item that is left without a refresh to come, another item has an event before it
expires. -/
def RefreshCovered (now : Int) (data : NMNDiscDataInternal) : Prop :=
  ∀ item ∈ (data.live now).timedDnsItems now, item.expiry ≠ expiryInfinity →
    (∀ refresh ∈ item.event, maxInt32 ≤ refresh) →
    EventBy ((data.live now).timed now) (saturate item.expiry)

theorem saturate_lt (expiry : Int) : saturate expiry < maxInt32 := by
  unfold saturate
  omega

theorem now_lt_event {now : Int} (left : item ∈ (data.live now).timed now) {event : Int}
    (event_eq : item.event = some event) :
    now < event := by
  have item_event : ∀ expiry, isLive now expiry = true → (timedItem expiry).event = some event →
      now < event := by
    intro expiry live event_eq
    unfold timedItem at event_eq
    split at event_eq
    · cases event_eq
    · rename_i finite
      rw [← Option.some.inj event_eq]
      simpa [isLive, finite] using live
  have dns_event : ∀ timestamp lifetime, (timedDns now timestamp lifetime).event = some event →
      now < event := by
    intro timestamp lifetime event_eq
    unfold timedDns at event_eq
    dsimp only at event_eq
    split at event_eq
    · cases event_eq
    · rename_i refresh
      rw [← Option.some.inj event_eq]
      exact Int.not_le.mp (not_or.mp refresh).2
  simp only [NMNDiscDataInternal.timed, NMNDiscDataInternal.timedItems,
    NMNDiscDataInternal.timedDnsItems, NMNDiscDataInternal.live, mem_append, mem_map,
    mem_filter] at left
  rcases left with (⟨_, ⟨_, live⟩, rfl⟩ | ⟨_, ⟨_, live⟩, rfl⟩ | ⟨_, ⟨_, live⟩, rfl⟩) |
    ⟨_, _, rfl⟩ | ⟨_, _, rfl⟩
  · exact item_event _ live event_eq
  · exact item_event _ live event_eq
  · exact item_event _ live event_eq
  · exact dns_event _ _ event_eq
  · exact dns_event _ _ event_eq

theorem eventBy_of_timedItems {now : Int} (listed : item ∈ data.timedItems)
    (finite : item.expiry ≠ expiryInfinity) :
    EventBy (data.timed now) (saturate item.expiry) := by
  have own : item = timedItem item.expiry := by
    simp only [NMNDiscDataInternal.timedItems, mem_append, mem_map] at listed
    rcases listed with ⟨_, _, rfl⟩ | ⟨_, _, rfl⟩ | ⟨_, _, rfl⟩ <;> rfl
  refine ⟨item, mem_append_left _ listed, saturate item.expiry, ?_, Int.le_refl _⟩
  rw [own]
  exact if_neg finite

theorem event_le_saturate {now : Int} (listed : item ∈ data.timedDnsItems now) {refresh : Int}
    (event_eq : item.event = some refresh) (representable : refresh < maxInt32) :
    refresh ≤ saturate item.expiry := by
  have own : ∃ timestamp lifetime, item = timedDns now timestamp lifetime := by
    simp only [NMNDiscDataInternal.timedDnsItems, mem_append, mem_map] at listed
    rcases listed with ⟨_, _, rfl⟩ | ⟨_, _, rfl⟩ <;> exact ⟨_, _, rfl⟩
  obtain ⟨timestamp, lifetime, rfl⟩ := own
  unfold timedDns at event_eq
  dsimp only at event_eq
  split at event_eq
  · cases event_eq
  · rename_i later
    rw [not_or] at later
    have refresh_eq := Option.some.inj event_eq
    have finite : lifetime ≠ ndiscInfinity := by
      intro infinite
      exact later.1 (if_pos infinite)
    have half_finite : lifetime / 2 ≠ ndiscInfinity := by
      intro same
      exact later.1 (by rw [getExpiryHalf, if_neg finite, getExpiryTime, if_pos same])
    have half_le : (lifetime / 2).toNat ≤ lifetime.toNat := by
      rw [UInt32.toNat_div]
      exact Nat.div_le_self _ _
    rw [getExpiryHalf, if_neg finite, getExpiryTime, if_neg half_finite] at refresh_eq
    show refresh ≤ saturate (getExpiryTime timestamp lifetime)
    rw [saturate, getExpiryTime, if_neg finite]
    omega

/-- No expired data is kept unnoticed exactly if each DNS item that is past the half of its
lifetime, or whose refresh is out of range, is covered by the event of another item. -/
theorem nothingUnnoticed_iff (now : Int) (changed : UInt32) (data : NMNDiscDataInternal) :
    NothingUnnoticed now changed data ↔ RefreshCovered now data := by
  obtain ⟨kept, event_iff⟩ := checkTimestamps_spec now changed data
  constructor
  · intro unnoticed item listed finite _
    obtain ⟨delay, delay_eq, in_time⟩ :=
      unnoticed.timer item (mem_append_right _ listed) finite
    have below := saturate_lt item.expiry
    have next_le : (checkTimestamps now changed data).2.nextevent ≤ saturate item.expiry := by
      unfold timeoutDelay at delay_eq
      split at delay_eq
      · split at delay_eq
        · cases delay_eq
        · have delay_eq := Option.some.inj delay_eq
          omega
      · cases delay_eq
    exact ((event_iff _).mp next_le).resolve_left (by omega)
  · intro covered
    have future : (checkTimestamps now changed data).2.nextevent ≠ maxInt32 →
        now < (checkTimestamps now changed data).2.nextevent := by
      intro scheduled
      have bounded := (event_iff maxInt32).mpr (Or.inl (Int.le_refl _))
      obtain ⟨item, listed, event, event_eq, event_le⟩ :=
        ((event_iff _).mp (Int.le_refl _)).resolve_left (by omega)
      exact Int.lt_of_lt_of_le (now_lt_event listed event_eq) event_le
    refine ⟨kept, future, ?_⟩
    intro item listed finite
    have event_by : EventBy ((data.live now).timed now) (saturate item.expiry) := by
      rcases mem_append.mp listed with plain | dns
      · exact eventBy_of_timedItems plain finite
      · by_cases unscheduled : ∀ refresh ∈ item.event, maxInt32 ≤ refresh
        · exact covered item dns finite unscheduled
        · simp only [not_forall, Int.not_le] at unscheduled
          obtain ⟨refresh, event_eq, representable⟩ := unscheduled
          exact ⟨item, listed, refresh, event_eq, event_le_saturate dns event_eq representable⟩
    have next_le := (event_iff _).mpr (Or.inr event_by)
    have below := saturate_lt item.expiry
    have scheduled : (checkTimestamps now changed data).2.nextevent ≠ maxInt32 := by omega
    have later := future scheduled
    refine ⟨(checkTimestamps now changed data).2.nextevent - now, ?_, by omega⟩
    rw [timeoutDelay, if_pos scheduled, if_neg (by omega)]

/-- A DNS server that is past the half of its lifetime of 100 seconds. -/
def halfExpired : NMNDiscDataInternal :=
  { NMNDiscDataInternal.new with dnsServers := [⟨0x20010db8000000000000000000000001, 1, 100⟩] }

/-- The server is kept, and no timer is scheduled. -/
theorem nothingUnnoticed_halfExpired : ¬ NothingUnnoticed 60 0 halfExpired := by
  intro unnoticed
  obtain ⟨delay, delay_eq, -⟩ := unnoticed.timer ⟨101, none⟩ (by decide) (by decide)
  have unscheduled : timeoutDelay 60 (checkTimestamps 60 0 halfExpired).2.nextevent = none := by
    decide
  rw [unscheduled] at delay_eq
  cases delay_eq

end NetworkManager.NDisc
