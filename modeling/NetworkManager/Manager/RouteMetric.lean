import Mathlib.Algebra.Group.Nat.Defs
import Mathlib.Data.List.Nodup
import Mathlib.Data.List.Perm.Subperm
import NetworkManager.Library.Machine

/-!
# Reservation of default route metrics

The manager reserves for each interface a range of metrics, from the metric that the device type
asks for to the metric the interface got.  A new reservation is bumped past the ranges of the
others, by at most fifty.  Metrics are unsigned numbers of 32 bits.
-/

namespace NetworkManager.RouteMetric

open List

/-- `NMDeviceType`. -/
inductive NMDeviceType where
  | unknown | ethernet | wifi | unused1 | unused2 | bt | olpcMesh | wimax | modem | infiniband
  | bond | vlan | adsl | bridge | generic | team | tun | ipTunnel | macvlan | vxlan | veth
  | macsec | dummy | ppp | ovsInterface | ovsPort | ovsBridge | wpan | sixLowpan | wireguard
  | wifiP2p
  deriving DecidableEq, Repr

/-- `NM_VPN_ROUTE_METRIC_DEFAULT`. -/
def vpnRouteMetricDefault : UInt32 := 50

/-- `nm_device_get_route_metric_default`. -/
def getRouteMetricDefault : NMDeviceType → UInt32
  | .wireguard => vpnRouteMetricDefault
  | .ethernet | .veth => 100
  | .macsec => 125
  | .infiniband => 150
  | .adsl => 200
  | .wimax => 250
  | .bond => 300
  | .team => 350
  | .vlan => 400
  | .macvlan => 410
  | .bridge => 425
  | .tun => 450
  | .ppp => 460
  | .vxlan => 500
  | .dummy => 550
  | .wifi => 600
  | .olpcMesh => 650
  | .ipTunnel => 675
  | .modem => 700
  | .bt => 750
  | .sixLowpan => 775
  | .ovsBridge | .ovsInterface | .ovsPort => 800
  | .wpan => 850
  | .wifiP2p | .generic => 950
  | .unknown => 10000
  | .unused1 | .unused2 => 11000

/-- `G_MAXUINT32`. -/
def maxUint32 : UInt32 := 0xffffffff

/-- A reservation. -/
structure DeviceRouteMetricData where
  ifindex : Int
  aspiredMetric : UInt32
  effectiveMetric : UInt32
  deriving DecidableEq, Repr

/-- `_device_route_metric_data_new`. -/
def dataNew (ifindex : Int) (aspiredMetric effectiveMetric : UInt32) : DeviceRouteMetricData where
  ifindex := ifindex
  aspiredMetric := aspiredMetric
  effectiveMetric := if effectiveMetric ≠ 0 then effectiveMetric else aspiredMetric

/-- A metric lies in the range that is reserved. -/
def DeviceRouteMetricData.Covers (data : DeviceRouteMetricData) (metric : UInt32) : Prop :=
  data.aspiredMetric ≤ metric ∧ metric ≤ data.effectiveMetric

/-- `nm_config_keyfile_get_int64` of a key whose text was parsed already. -/
def keyfileGetInt64 (value : Option Int) (min max fallback : Nat) : Nat :=
  match value with
  | none => fallback
  | some value => if (min : Int) ≤ value ∧ value ≤ max then value.toNat else fallback

/-- `NMConfigDeviceStateData`. -/
structure NMConfigDeviceStateData where
  ifindex : Int
  routeMetricDefaultAspired : UInt32
  routeMetricDefaultEffective : UInt32
  deriving DecidableEq, Repr

/-- `_config_device_state_data_new`.  The source reads both metrics from the key of the effective
one. -/
def configDeviceStateDataNew (ifindex : Int) (effectiveKey : Option Int) :
    NMConfigDeviceStateData :=
  let effective := keyfileGetInt64 effectiveKey 1 maxUint32.toNat 0
  let aspired :=
    if effective ≠ 0 then keyfileGetInt64 effectiveKey 1 effective effective else 0
  ⟨ifindex, UInt32.ofNat aspired, UInt32.ofNat effective⟩

/-- The state files of the devices: the key of the effective metric for each interface. -/
structure DeviceStateFiles where
  files : List (Int × Option Int)
  /-- Files without a proper interface are skipped. -/
  positive : ∀ file ∈ files, 0 < file.1
  nodup : (files.map Prod.fst).Nodup

section

variable (states : DeviceStateFiles)

/-- `nm_config_device_state_load_all`. -/
def DeviceStateFiles.loadAll : List NMConfigDeviceStateData :=
  states.files.map fun file => configDeviceStateDataNew file.1 file.2

structure Links where
  linkGet : Int → Bool
  len : Nat

/-- The order in which a hash table is iterated, which is not specified. -/
structure HashOrder where
  /-- The entries as an iteration meets them. -/
  iter : List DeviceRouteMetricData → List DeviceRouteMetricData
  /-- An iteration meets every entry once. -/
  iter_perm : ∀ table, (iter table).Perm table

/-- `g_hash_table_add`, with the interface as the key. -/
def tableAdd (table : List DeviceRouteMetricData) (data : DeviceRouteMetricData) :
    List DeviceRouteMetricData :=
  data :: table.filter fun d2 => d2.ifindex ≠ data.ifindex

/-- `g_hash_table_lookup`. -/
def tableLookup (table : List DeviceRouteMetricData) (ifindex : Int) :
    Option DeviceRouteMetricData :=
  table.find? fun data => data.ifindex = ifindex

/-- How an iteration over the reservations ends. -/
inductive ScanOutcome where
  /-- No range of another reservation is met. -/
  | free
  /-- The search ends with a metric. -/
  | stop (metric : UInt32)
  /-- The search starts again with a metric. -/
  | again (metric : UInt32)
  deriving DecidableEq, Repr

/-- One iteration over the reservations, and the reservations that remain. -/
def scan (links : Links) (cleaned : Bool) (aspired effective : UInt32) :
    List DeviceRouteMetricData → List DeviceRouteMetricData × ScanOutcome
  | [] => ([], .free)
  | d2 :: rest =>
    if effective < d2.aspiredMetric ∨ effective > d2.effectiveMetric then
      let (remaining, outcome) := scan links cleaned aspired effective rest
      (d2 :: remaining, outcome)
    else if !cleaned && !links.linkGet d2.ifindex then
      scan links cleaned aspired effective rest
    else if d2.effectiveMetric = maxUint32 then
      (d2 :: rest, .stop maxUint32)
    else if d2.effectiveMetric - aspired ≥ 50 then
      (d2 :: rest, .stop (aspired + 50))
    else
      (d2 :: rest, .again (d2.effectiveMetric + 1))

/-- The search from label `again`, for at most so many iterations. -/
def search (links : Links) (order : HashOrder) (cleaned : Bool) (aspired : UInt32) :
    Nat → UInt32 → List DeviceRouteMetricData → Option (List DeviceRouteMetricData × UInt32)
  | 0, _, _ => none
  | fuel + 1, effective, table =>
    match scan links cleaned aspired effective (order.iter table) with
    | (remaining, .free) => some (remaining, effective)
    | (remaining, .stop metric) => some (remaining, metric)
    | (remaining, .again metric) => search links order cleaned aspired fuel metric remaining

/-- What the manager keeps about metrics. -/
structure NMManager where
  /-- The reservations, once there was a call that needs them. -/
  deviceRouteMetrics : Option (List DeviceRouteMetricData)

/-- The reservation of one state file, if it has one and its link still exists. -/
def prePopulateOne (links : Links) (table : List DeviceRouteMetricData)
    (state : NMConfigDeviceStateData) : List DeviceRouteMetricData :=
  if state.routeMetricDefaultEffective = 0 then table
  else if !links.linkGet state.ifindex then table
  else tableAdd table (dataNew state.ifindex state.routeMetricDefaultAspired
    state.routeMetricDefaultEffective)

/-- The reservations that the first call takes from the state files. -/
def prePopulate (links : Links) : List DeviceRouteMetricData :=
  states.loadAll.foldl (prePopulateOne links) []

/-- The reservations after label `initited`, and `cleaned`. -/
def initited (links : Links) (manager : NMManager) : List DeviceRouteMetricData × Bool :=
  match manager.deviceRouteMetrics with
  | none => (prePopulate states links, true)
  | some table => (table, false)

/-- The house-keeping before a search, and `cleaned` after it. -/
def houseKeeping (links : Links) (table : List DeviceRouteMetricData) (cleaned : Bool) :
    List DeviceRouteMetricData × Bool :=
  if !cleaned && decide (table.length > max 20 (links.len * 2 % 2 ^ 32)) then
    (table.filter fun d2 => links.linkGet d2.ifindex, true)
  else
    (table, cleaned)

/-- What a call returns. -/
structure MetricResult where
  metric : UInt32
  /-- `out_aspired_metric`. -/
  aspired : UInt32
  deriving DecidableEq, Repr

/-- `_device_route_metric_get`, with at most so many iterations of its search. -/
def deviceRouteMetricGet (fuel : Nat) (order : HashOrder) (links : Links) (ifindex : Int)
    (deviceType : NMDeviceType) (lookupOnly : Bool) (manager : NMManager) :
    Option (NMManager × MetricResult) :=
  if ifindex ≤ 0 then
    if lookupOnly then some (manager, ⟨0, 0⟩)
    else some (manager, ⟨getRouteMetricDefault deviceType, getRouteMetricDefault deviceType⟩)
  else if lookupOnly && manager.deviceRouteMetrics.isNone then some (manager, ⟨0, 0⟩)
  else
    let (table, cleaned) := initited states links manager
    match tableLookup table ifindex with
    | some data => some (⟨some table⟩, ⟨data.effectiveMetric, data.aspiredMetric⟩)
    | none =>
      if lookupOnly then some (⟨some table⟩, ⟨0, 0⟩)
      else
        let (table, cleaned) := houseKeeping links table cleaned
        let data := dataNew ifindex (getRouteMetricDefault deviceType) 0
        match search links order cleaned data.aspiredMetric fuel data.effectiveMetric table with
        | none => none
        | some (table, effective) =>
          some (⟨some (tableAdd table { data with effectiveMetric := effective })⟩,
            ⟨effective, data.aspiredMetric⟩)

/-- `nm_manager_device_route_metric_reserve`. -/
def reserve (fuel : Nat) (order : HashOrder) (links : Links) (ifindex : Int)
    (deviceType : NMDeviceType) (manager : NMManager) :
    Option (NMManager × UInt32) :=
  (deviceRouteMetricGet states fuel order links ifindex deviceType false manager).map
    fun result => (result.1, result.2.metric)

end

/-- `nm_manager_device_route_metric_clear`. -/
def clear (ifindex : Int) (manager : NMManager) : NMManager :=
  match manager.deviceRouteMetrics with
  | none => manager
  | some table => ⟨some (table.filter fun data => data.ifindex ≠ ifindex)⟩

/-- Reservations went away, but none of an existing link. -/
structure Kept (links : Links) (before after : List DeviceRouteMetricData) : Prop where
  subperm : after.Subperm before
  alive : ∀ data ∈ before, links.linkGet data.ifindex = true → data ∈ after

namespace Kept

variable {links : Links} {first second third : List DeviceRouteMetricData}

theorem refl (links : Links) (table : List DeviceRouteMetricData) : Kept links table table :=
  ⟨Subperm.refl table, fun _ mem _ => mem⟩

theorem trans (left : Kept links first second) (right : Kept links second third) :
    Kept links first third where
  subperm := right.subperm.trans left.subperm
  alive := by
    intro data mem is_alive
    exact right.alive data (left.alive data mem is_alive) is_alive

theorem of_perm (perm : second.Perm first) : Kept links first second :=
  ⟨perm.subperm, fun _ mem _ => perm.symm.subset mem⟩

theorem cons (data : DeviceRouteMetricData) (kept : Kept links first second) :
    Kept links (data :: first) (data :: second) where
  subperm := (subperm_cons data).mpr kept.subperm
  alive := by
    intro other mem is_alive
    rcases mem_cons.mp mem with rfl | mem
    · exact mem_cons_self
    · exact mem_cons_of_mem _ (kept.alive other mem is_alive)

theorem drop {data : DeviceRouteMetricData} (stale : links.linkGet data.ifindex = false)
    (kept : Kept links first second) : Kept links (data :: first) second where
  subperm := kept.subperm.trans (sublist_cons_self data first).subperm
  alive := by
    intro other mem is_alive
    rcases mem_cons.mp mem with rfl | mem
    · rw [stale] at is_alive
      cases is_alive
    · exact kept.alive other mem is_alive

theorem filter (links : Links) (table : List DeviceRouteMetricData) :
    Kept links table (table.filter fun data => links.linkGet data.ifindex) where
  subperm := filter_sublist.subperm
  alive := fun _ mem is_alive => mem_filter.mpr ⟨mem, is_alive⟩

end Kept

/-- What the outcome of an iteration says about the metric. -/
def ScanOutcome.Ok (aspired effective : UInt32) (remaining : List DeviceRouteMetricData) :
    ScanOutcome → Prop
  | .free => ∀ data ∈ remaining, ¬ data.Covers effective
  | .stop metric => metric = maxUint32 ∨ metric.toNat = aspired.toNat + 50
  | .again metric =>
    effective.toNat < metric.toNat ∧ metric.toNat ≤ aspired.toNat + 50

theorem scan_spec (links : Links) (cleaned : Bool) {aspired effective : UInt32}
    (ordered : aspired ≤ effective) (table : List DeviceRouteMetricData) :
    Kept links table (scan links cleaned aspired effective table).1 ∧
      (scan links cleaned aspired effective table).2.Ok aspired effective
        (scan links cleaned aspired effective table).1 := by
  induction table with
  | nil => exact ⟨Kept.refl links [], by simp [scan, ScanOutcome.Ok]⟩
  | cons d2 rest ih =>
    rw [UInt32.le_iff_toNat_le] at ordered
    unfold scan
    split
    · rename_i no_overlap
      refine ⟨ih.1.cons d2, ?_⟩
      have uncovered : ¬ d2.Covers effective := by
        rintro ⟨low, high⟩
        rw [UInt32.le_iff_toNat_le] at low high
        rw [gt_iff_lt, UInt32.lt_iff_toNat_lt, UInt32.lt_iff_toNat_lt] at no_overlap
        omega
      have outcome_ok := ih.2
      revert outcome_ok
      dsimp only
      cases (scan links cleaned aspired effective rest).2 with
      | free =>
        intro outcome_ok data mem
        rcases mem_cons.mp mem with rfl | mem
        · exact uncovered
        · exact outcome_ok data mem
      | stop metric => exact id
      | again metric => exact id
    · rename_i overlap
      have high : effective.toNat ≤ d2.effectiveMetric.toNat := by
        rw [not_or, gt_iff_lt, UInt32.lt_iff_toNat_lt, UInt32.lt_iff_toNat_lt] at overlap
        omega
      split
      · rename_i stale
        rw [Bool.and_eq_true, Bool.not_eq_true'] at stale
        exact ⟨ih.1.drop (by simpa using stale.2), ih.2⟩
      · refine ⟨?_, ?_⟩
        · split
          · exact Kept.refl links _
          · split
            · exact Kept.refl links _
            · exact Kept.refl links _
        · split
          · exact Or.inl rfl
          · rename_i below_max
            have small : d2.effectiveMetric.toNat < 2 ^ 32 - 1 := by
              have bound := d2.effectiveMetric.toNat_lt
              have different : d2.effectiveMetric.toNat ≠ maxUint32.toNat :=
                fun same => below_max (UInt32.toNat_inj.mp same)
              have max_eq : maxUint32.toNat = 2 ^ 32 - 1 := by decide
              omega
            have difference : (d2.effectiveMetric - aspired).toNat =
                d2.effectiveMetric.toNat - aspired.toNat :=
              UInt32.toNat_sub_of_le _ _ (UInt32.le_iff_toNat_le.mpr (by omega))
            have fifty : (50 : UInt32).toNat = 50 := by decide
            split
            · rename_i far
              rw [ge_iff_le, UInt32.le_iff_toNat_le, difference, fifty] at far
              right
              rw [UInt32.toNat_add, fifty]
              omega
            · rename_i near
              rw [ge_iff_le, UInt32.le_iff_toNat_le, difference, fifty] at near
              have one : (1 : UInt32).toNat = 1 := by decide
              have bumped : (d2.effectiveMetric + 1).toNat = d2.effectiveMetric.toNat + 1 := by
                rw [UInt32.toNat_add, one]
                omega
              refine ⟨?_, ?_⟩
              · omega
              · omega

/-- What the search finds. -/
structure Found (links : Links) (aspired : UInt32) (before after : List DeviceRouteMetricData)
    (metric : UInt32) : Prop where
  kept : Kept links before after
  /-- The metric is the largest one, or was bumped by at most fifty. -/
  bounded : metric = maxUint32 ∨ aspired.toNat ≤ metric.toNat ∧ metric.toNat ≤ aspired.toNat + 50
  /-- The metric is in no range, unless the search gave up. -/
  free : metric = maxUint32 ∨ metric.toNat = aspired.toNat + 50 ∨
    ∀ data ∈ after, ¬ data.Covers metric

theorem search_found (links : Links) (order : HashOrder) (cleaned : Bool) {aspired : UInt32}
    (fuel : Nat) {effective : UInt32} (table : List DeviceRouteMetricData)
    (ordered : aspired ≤ effective) (below : effective.toNat ≤ aspired.toNat + 50)
    (enough : aspired.toNat + 50 < effective.toNat + fuel) :
    ∃ remaining metric,
      search links order cleaned aspired fuel effective table = some (remaining, metric) ∧
        Found links aspired table remaining metric := by
  induction fuel generalizing effective table with
  | zero => omega
  | succ fuel ih =>
    have scanned := scan_spec links cleaned ordered (order.iter table)
    have reordered : Kept links table (order.iter table) := Kept.of_perm (order.iter_perm table)
    have ordered_nat := UInt32.le_iff_toNat_le.mp ordered
    unfold search
    generalize scan links cleaned aspired effective (order.iter table) = result at scanned
    obtain ⟨remaining, outcome⟩ := result
    obtain ⟨kept, outcome_ok⟩ := scanned
    cases outcome with
    | free =>
      refine ⟨remaining, effective, rfl, reordered.trans kept, ?_, ?_⟩
      · exact Or.inr ⟨ordered_nat, below⟩
      · exact Or.inr (Or.inr outcome_ok)
    | stop metric =>
      refine ⟨remaining, metric, rfl, reordered.trans kept, ?_, ?_⟩
      · rcases outcome_ok with largest | bumped
        · exact Or.inl largest
        · exact Or.inr ⟨by omega, by omega⟩
      · rcases outcome_ok with largest | bumped
        · exact Or.inl largest
        · exact Or.inr (Or.inl bumped)
    | again metric =>
      obtain ⟨increases, bounded⟩ := outcome_ok
      have still_ordered : aspired ≤ metric := UInt32.le_iff_toNat_le.mpr (by omega)
      obtain ⟨last, found, found_eq, spec⟩ :=
        ih remaining still_ordered bounded (by omega)
      refine ⟨last, found, found_eq, (reordered.trans kept).trans spec.kept, ?_, ?_⟩
      · exact spec.bounded
      · exact spec.free

variable {table : List DeviceRouteMetricData}

theorem search_mono (links : Links) (order : HashOrder) (cleaned : Bool) {aspired : UInt32}
    {fuel more : Nat} (le : fuel ≤ more) {effective : UInt32}
    {result : List DeviceRouteMetricData × UInt32}
    (found : search links order cleaned aspired fuel effective table = some result) :
    search links order cleaned aspired more effective table = some result := by
  induction fuel generalizing more effective table with
  | zero => simp [search] at found
  | succ fuel ih =>
    obtain ⟨more, rfl⟩ := Nat.exists_eq_add_of_le' (Nat.zero_lt_of_lt le)
    unfold search at found ⊢
    generalize scan links cleaned aspired effective (order.iter table) = scanned at found ⊢
    obtain ⟨remaining, outcome⟩ := scanned
    cases outcome with
    | free => exact found
    | stop metric => exact found
    | again metric => exact ih (Nat.le_of_succ_le_succ le) found

/-- The reservations are well formed. -/
structure TableInv (table : List DeviceRouteMetricData) : Prop where
  nodup : (table.map DeviceRouteMetricData.ifindex).Nodup
  positive : ∀ data ∈ table, 0 < data.ifindex
  ordered : ∀ data ∈ table, data.aspiredMetric ≤ data.effectiveMetric

namespace TableInv

variable {table remaining : List DeviceRouteMetricData}

theorem nil : TableInv [] := ⟨nodup_nil, by simp, by simp⟩

theorem subperm (inv : TableInv table) (sub : remaining.Subperm table) : TableInv remaining where
  nodup := by
    obtain ⟨middle, perm, sublist⟩ := sub
    have middle_nodup := inv.nodup.sublist (sublist.map DeviceRouteMetricData.ifindex)
    exact (perm.map DeviceRouteMetricData.ifindex).nodup_iff.mp middle_nodup
  positive := fun data mem => inv.positive data (sub.subset mem)
  ordered := fun data mem => inv.ordered data (sub.subset mem)

theorem filter (inv : TableInv table) (keep : DeviceRouteMetricData → Bool) :
    TableInv (table.filter keep) :=
  inv.subperm filter_sublist.subperm

theorem add (inv : TableInv table) {data : DeviceRouteMetricData} (positive : 0 < data.ifindex)
    (ordered : data.aspiredMetric ≤ data.effectiveMetric) : TableInv (tableAdd table data) := by
  have others := inv.filter fun d2 => d2.ifindex ≠ data.ifindex
  refine ⟨?_, ?_, ?_⟩
  · rw [tableAdd, map_cons, nodup_cons]
    refine ⟨?_, others.nodup⟩
    simp
  · exact forall_mem_cons.mpr ⟨positive, others.positive⟩
  · exact forall_mem_cons.mpr ⟨ordered, others.ordered⟩

theorem lookup_of_mem (inv : TableInv table) {data : DeviceRouteMetricData} (mem : data ∈ table) :
    tableLookup table data.ifindex = some data := by
  cases found : tableLookup table data.ifindex with
  | none =>
    have none_matches := find?_eq_none.mp found data mem
    simp at none_matches
  | some other =>
    have other_mem := List.mem_of_find?_eq_some found
    have same : other.ifindex = data.ifindex := by simpa using find?_some found
    rw [inj_on_of_nodup_map inv.nodup other_mem mem same]

theorem lookup_eq_none_iff {ifindex : Int} :
    tableLookup table ifindex = none ↔ ∀ data ∈ table, data.ifindex ≠ ifindex := by
  simp [tableLookup]

end TableInv

theorem configDeviceStateDataNew_ordered (ifindex : Int) (effectiveKey : Option Int) :
    (configDeviceStateDataNew ifindex effectiveKey).routeMetricDefaultAspired ≤
      (configDeviceStateDataNew ifindex effectiveKey).routeMetricDefaultEffective := by
  cases effectiveKey with
  | none => simp [configDeviceStateDataNew, keyfileGetInt64]
  | some value =>
    unfold configDeviceStateDataNew keyfileGetInt64
    dsimp only
    split
    · rename_i in_range
      have nonzero : value.toNat ≠ 0 := by omega
      have same : (1 : Int) ≤ value ∧ value ≤ (value.toNat : Int) := by omega
      rw [if_pos nonzero, if_pos (by exact_mod_cast same)]
      exact UInt32.le_refl _
    · simp

theorem prePopulateOne_inv (links : Links) {state : NMConfigDeviceStateData}
    (positive : 0 < state.ifindex)
    (ordered : state.routeMetricDefaultAspired ≤ state.routeMetricDefaultEffective)
    (inv : TableInv table) : TableInv (prePopulateOne links table state) := by
  unfold prePopulateOne
  split
  · exact inv
  · rename_i nonzero
    split
    · exact inv
    · refine inv.add positive ?_
      rw [dataNew, if_pos nonzero]
      exact ordered

theorem foldl_prePopulateOne_inv (links : Links) {states : List NMConfigDeviceStateData}
    (positive : ∀ state ∈ states, 0 < state.ifindex)
    (ordered : ∀ state ∈ states,
      state.routeMetricDefaultAspired ≤ state.routeMetricDefaultEffective) (inv : TableInv table) :
    TableInv (states.foldl (prePopulateOne links) table) := by
  induction states generalizing table with
  | nil => exact inv
  | cons state states ih =>
    obtain ⟨state_positive, positive⟩ := forall_mem_cons.mp positive
    obtain ⟨state_ordered, ordered⟩ := forall_mem_cons.mp ordered
    exact ih positive ordered (prePopulateOne_inv links state_positive state_ordered inv)

variable (states : DeviceStateFiles)

theorem prePopulate_inv (links : Links) :
    TableInv (prePopulate states links) := by
  apply foldl_prePopulateOne_inv links
  · intro state mem
    obtain ⟨file, file_mem, rfl⟩ := mem_map.mp mem
    exact states.positive file file_mem
  · intro state mem
    obtain ⟨file, -, rfl⟩ := mem_map.mp mem
    exact configDeviceStateDataNew_ordered file.1 file.2
  · exact TableInv.nil

/-- What holds of the manager between calls. -/
def NMManager.Inv (manager : NMManager) : Prop :=
  ∀ table, manager.deviceRouteMetrics = some table → TableInv table

variable {manager : NMManager}

theorem initited_inv (links : Links) (inv : manager.Inv) :
    TableInv (initited states links manager).1 := by
  unfold initited
  split
  · exact prePopulate_inv states links
  · rename_i table known
    exact inv table known

theorem houseKeeping_kept (links : Links) (table : List DeviceRouteMetricData) (cleaned : Bool) :
    Kept links table (houseKeeping links table cleaned).1 := by
  unfold houseKeeping
  split
  · exact Kept.filter links table
  · exact Kept.refl links table

theorem getRouteMetricDefault_le (deviceType : NMDeviceType) :
    (getRouteMetricDefault deviceType).toNat ≤ 11000 := by
  cases deviceType <;> decide

/-- The number of iterations after which every search has ended. -/
def searchRounds : Nat := 51

structure Reserved (links : Links) (ifindex : Int) (deviceType : NMDeviceType)
    (before after : List DeviceRouteMetricData) (metric : UInt32) : Prop where
  existing : ∀ data ∈ before, data.ifindex = ifindex →
    metric = data.effectiveMetric ∧ after = before
  /-- Another interface gets the largest metric, or one that was bumped by at most fifty. -/
  bounded : (∀ data ∈ before, data.ifindex ≠ ifindex) → metric = maxUint32 ∨
    (getRouteMetricDefault deviceType).toNat ≤ metric.toNat ∧
      metric.toNat ≤ (getRouteMetricDefault deviceType).toNat + 50
  /-- Its metric is in no range of another interface, unless the search gave up. -/
  free : (∀ data ∈ before, data.ifindex ≠ ifindex) → metric ≠ maxUint32 →
    metric.toNat ≠ (getRouteMetricDefault deviceType).toNat + 50 →
    ∀ data ∈ after, data.ifindex ≠ ifindex → ¬ data.Covers metric
  reserved : ∃ data ∈ after, data.ifindex = ifindex ∧ data.effectiveMetric = metric
  alive : ∀ data ∈ before, links.linkGet data.ifindex = true → data ∈ after
  inv : TableInv after

theorem reserve_reserved (order : HashOrder) (links : Links) {ifindex : Int}
    (deviceType : NMDeviceType) (inv : manager.Inv) (positive : 0 < ifindex) :
    ∃ after metric,
      (∀ fuel, searchRounds ≤ fuel →
        reserve states fuel order links ifindex deviceType manager = some (⟨some after⟩, metric)) ∧
      Reserved links ifindex deviceType (initited states links manager).1 after metric := by
  have table_inv := initited_inv states links inv
  unfold reserve deviceRouteMetricGet
  simp only [if_neg (Int.not_le.mpr positive), Bool.false_and, Bool.false_eq_true, if_false]
  generalize initited states links manager = populated at table_inv ⊢
  obtain ⟨table, cleaned⟩ := populated
  cases found : tableLookup table ifindex with
  | some data =>
    have mem := List.mem_of_find?_eq_some found
    have same : data.ifindex = ifindex := by simpa using find?_some found
    refine ⟨table, data.effectiveMetric, fun _ _ => rfl, ?_, ?_, ?_, ?_, ?_, ?_⟩
    · intro other other_mem other_same
      have lookup := table_inv.lookup_of_mem other_mem
      rw [other_same, found] at lookup
      cases lookup
      exact ⟨rfl, rfl⟩
    · intro absent
      exact absurd same (absent data mem)
    · intro absent
      exact absurd same (absent data mem)
    · exact ⟨data, mem, same, rfl⟩
    · exact fun other other_mem _ => other_mem
    · exact table_inv
  | none =>
    have absent := TableInv.lookup_eq_none_iff.mp found
    have cleaned_kept := houseKeeping_kept links table cleaned
    dsimp only
    generalize houseKeeping links table cleaned = kept at cleaned_kept ⊢
    obtain ⟨kept, cleaned⟩ := kept
    have default_le := getRouteMetricDefault_le deviceType
    obtain ⟨remaining, metric, search_eq, spec⟩ :=
      search_found links order cleaned searchRounds kept
        (UInt32.le_refl (getRouteMetricDefault deviceType)) (by omega)
        (by unfold searchRounds; omega)
    have all_kept := cleaned_kept.trans spec.kept
    have remaining_inv := table_inv.subperm all_kept.subperm
    refine ⟨tableAdd remaining ⟨ifindex, getRouteMetricDefault deviceType, metric⟩, metric,
      ?_, ?_, ?_, ?_, ?_, ?_, ?_⟩
    · intro fuel enough
      have more := search_mono links order cleaned enough search_eq
      simp [dataNew, more]
    · intro data mem same
      exact absurd same (absent data mem)
    · exact fun _ => spec.bounded
    · intro _ not_largest not_bumped data mem different
      have in_remaining : data ∈ remaining := by
        rcases mem_cons.mp mem with rfl | mem
        · exact absurd rfl different
        · exact (mem_filter.mp mem).1
      rcases spec.free with largest | bumped | free
      · exact absurd largest not_largest
      · exact absurd bumped not_bumped
      · exact free data in_remaining
    · exact ⟨_, mem_cons_self, rfl, rfl⟩
    · intro data mem is_alive
      refine mem_cons_of_mem _ (mem_filter.mpr ⟨?_, ?_⟩)
      · exact all_kept.alive data mem is_alive
      · simpa using absent data mem
    · refine remaining_inv.add positive ?_
      rcases spec.bounded with largest | ⟨low, -⟩
      · rw [largest, UInt32.le_iff_toNat_le]
        have max_eq : maxUint32.toNat = 2 ^ 32 - 1 := by decide
        dsimp only
        omega
      · exact UInt32.le_iff_toNat_le.mpr low

/-- Without a proper interface the default metric is returned, and nothing is reserved. -/
theorem reserve_improper (fuel : Nat) (order : HashOrder) (links : Links) {ifindex : Int}
    (deviceType : NMDeviceType) (manager : NMManager) (improper : ifindex ≤ 0) :
    reserve states fuel order links ifindex deviceType manager =
      some (manager, getRouteMetricDefault deviceType) := by
  simp [reserve, deviceRouteMetricGet, improper]

theorem lookup_unchanged (fuel : Nat) (order : HashOrder) (links : Links) (ifindex : Int)
    (deviceType : NMDeviceType) (manager : NMManager) :
    ∃ result, deviceRouteMetricGet states fuel order links ifindex deviceType true manager =
      some (manager, result) := by
  unfold deviceRouteMetricGet
  split
  · exact ⟨_, rfl⟩
  · obtain ⟨reservations⟩ := manager
    cases reservations with
    | none => exact ⟨_, rfl⟩
    | some table =>
      simp only [initited, Option.isNone_some, Bool.and_false, Bool.false_eq_true, if_false]
      cases tableLookup table ifindex with
      | none => exact ⟨_, rfl⟩
      | some data => exact ⟨_, rfl⟩

theorem clear_inv (ifindex : Int) (inv : manager.Inv) : (clear ifindex manager).Inv := by
  unfold clear
  split
  · exact inv
  · rename_i table known
    intro remaining remaining_eq
    obtain rfl : _ = remaining := by simpa using remaining_eq
    exact (inv table known).filter _

/-- A call that concerns the reservations.  The links and the order of an iteration may change
between any two calls. -/
inductive Call where
  /-- `nm_manager_device_route_metric_reserve`. -/
  | reserve (order : HashOrder) (links : Links) (ifindex : Int) (deviceType : NMDeviceType)
  /-- The lookup of `nm_manager_write_device_state`. -/
  | lookup (order : HashOrder) (links : Links) (ifindex : Int)
  /-- `nm_manager_device_route_metric_clear`. -/
  | clear (ifindex : Int)

def Call.perform (states : DeviceStateFiles) (manager : NMManager) : Call → NMManager
  | .reserve order links ifindex deviceType =>
    ((RouteMetric.reserve states searchRounds order links ifindex deviceType manager).map
      Prod.fst).getD manager
  | .lookup order links ifindex =>
    ((deviceRouteMetricGet states searchRounds order links ifindex .unknown true manager).map
      Prod.fst).getD manager
  | .clear ifindex => RouteMetric.clear ifindex manager

/-- The manager and the calls it gets, in any order. -/
def machine (states : DeviceStateFiles) : GuardedMachine NMManager Call where
  step := fun manager call => call.perform states manager
  guard := fun _ _ => True

/-- The manager before its first call. -/
def NMManager.initial : NMManager := ⟨none⟩

theorem NMManager.initial_inv : NMManager.initial.Inv := by
  intro table impossible
  cases impossible

theorem perform_inv (inv : manager.Inv) (call : Call) :
    (call.perform states manager).Inv := by
  cases call with
  | reserve order links ifindex deviceType =>
    rcases Int.lt_or_le 0 ifindex with positive | improper
    · obtain ⟨after, metric, reserve_eq, spec⟩ :=
        reserve_reserved states order links deviceType inv positive
      rw [Call.perform, reserve_eq searchRounds (Nat.le_refl _)]
      intro table table_eq
      obtain rfl : after = table := by simpa using table_eq
      exact spec.inv
    · rw [Call.perform, reserve_improper states searchRounds order links deviceType manager
        improper]
      exact inv
  | lookup order links ifindex =>
    obtain ⟨result, lookup_eq⟩ :=
      lookup_unchanged states searchRounds order links ifindex .unknown manager
    rw [Call.perform, lookup_eq]
    exact inv
  | clear ifindex => exact clear_inv ifindex inv

theorem run_inv (calls : List Call) :
    ((machine states).run NMManager.initial calls).Inv := by
  apply (machine states).run_preserves
  · exact fun _ call inv _ => perform_inv states inv call
  · exact NMManager.initial_inv
  · exact (machine states).along_of_forall (fun _ _ => trivial) _ calls

/-- After any calls a reservation ends within fifty-one iterations.  For a proper interface it
returns the metric that is reserved already, or the largest metric, or a metric that was bumped by
at most fifty and that, unless it was bumped by fifty, is in no range of another interface; no
reservation of an existing link goes away.  Without a proper interface it returns the default metric
and reserves nothing. -/
theorem reserve_after_calls (states : DeviceStateFiles) (calls : List Call) (order : HashOrder)
    (links : Links) (ifindex : Int) (deviceType : NMDeviceType) (manager : NMManager)
    (reached : manager = (machine states).run NMManager.initial calls) :
    ∃ after metric,
      (∀ fuel, searchRounds ≤ fuel →
        reserve states fuel order links ifindex deviceType manager = some (after, metric)) ∧
      (0 < ifindex → ∃ table, after = ⟨some table⟩ ∧
        Reserved links ifindex deviceType (initited states links manager).1 table metric) ∧
      (ifindex ≤ 0 → after = manager ∧ metric = getRouteMetricDefault deviceType) := by
  have inv : manager.Inv := by
    rw [reached]
    exact run_inv states calls
  rcases Int.lt_or_le 0 ifindex with positive | improper
  · obtain ⟨table, metric, reserve_eq, spec⟩ :=
      reserve_reserved states order links deviceType inv positive
    refine ⟨⟨some table⟩, metric, reserve_eq, fun _ => ⟨table, rfl, spec⟩, ?_⟩
    intro improper
    exact absurd positive (Int.not_lt.mpr improper)
  · refine ⟨manager, getRouteMetricDefault deviceType, ?_, ?_, fun _ => ⟨rfl, rfl⟩⟩
    · intro fuel _
      exact reserve_improper states fuel order links deviceType manager improper
    · intro positive
      exact absurd positive (Int.not_lt.mpr improper)

def noFiles : DeviceStateFiles := ⟨[], by simp, by simp⟩

def listOrder : HashOrder := ⟨id, fun _ => List.Perm.refl _⟩

def twoLinks : Links := ⟨fun ifindex => ifindex = 1 || ifindex = 2, 2⟩

/-- The second Ethernet interface gets the metric after that of the first. -/
theorem reserve_after_calls_second :
    ∃ after, reserve noFiles searchRounds listOrder twoLinks 2 .ethernet
        ((machine noFiles).run .initial [.reserve listOrder twoLinks 1 .ethernet]) =
      some (after, 101) ∧ ∃ table, after = ⟨some table⟩ ∧
        Reserved twoLinks 2 .ethernet [⟨1, 100, 100⟩] table 101 := by
  obtain ⟨after, metric, reserve_eq, proper, -⟩ := reserve_after_calls noFiles
    [.reserve listOrder twoLinks 1 .ethernet] listOrder twoLinks 2 .ethernet _ rfl
  have found := reserve_eq searchRounds (Nat.le_refl _)
  have metric_eq : metric = 101 := by
    have result : (reserve noFiles searchRounds listOrder twoLinks 2 .ethernet
        ((machine noFiles).run .initial [.reserve listOrder twoLinks 1 .ethernet])).map
        Prod.snd = some 101 := by decide
    rw [found] at result
    simpa using result
  rw [metric_eq] at found proper
  exact ⟨after, found, proper (by decide)⟩

/-- Without a proper interface a metric is returned that another interface has reserved. -/
theorem reserve_improper_taken :
    (reserve noFiles searchRounds listOrder twoLinks 0 .ethernet
        ((machine noFiles).run .initial [.reserve listOrder twoLinks 1 .ethernet])).map
        (fun result => (result.1.deviceRouteMetrics, result.2)) =
      some (some [⟨1, 100, 100⟩], 100) ∧
    (⟨1, 100, 100⟩ : DeviceRouteMetricData).Covers 100 ∧
    (100 : UInt32) ≠ maxUint32 ∧
    (100 : UInt32).toNat ≠ (getRouteMetricDefault .ethernet).toNat + 50 := by
  refine ⟨by decide, ⟨by decide, by decide⟩, by decide, by decide⟩

end NetworkManager.RouteMetric
