import NetworkManager.Dns.DomainRouting

/-!
# The configurations of the best device

Only one configuration of each address family is the one of the best device, and the manager points
to it.  This is kept while configurations are set, changed and removed.
-/

namespace NetworkManager.Dns

open List

/-- A call into the manager.  The address family of an object is fixed. -/
inductive DnsCall (isIp4 : Nat → Bool) where
  | set (object : Nat) (ipConfig : {ipConfig : NMIPConfig // ipConfig.isIp4 = isIp4 object})
      (ipConfigType : NMDnsIPConfigType)
  | remove (object : Nat)
  | changed (object : Nat) (ipConfig : NMIPConfig)
  | rebuild

variable {isIp4 : Nat → Bool}

def NMDnsManager.perform (self : NMDnsManager) : DnsCall isIp4 → NMDnsManager
  | .set object ipConfig ipConfigType => self.setIpConfig object ipConfig ipConfigType
  | .remove object => self.removeIpConfig object
  | .changed object ipConfig => self.ipConfigChanged object ipConfig
  | .rebuild => self.rebuildDomainLists

/-- An object is tracked with a type. -/
def HasType (object : Nat) (type : NMDnsIPConfigType) (ipDatas : List NMDnsIPConfigData) : Prop :=
  (object, type) ∈ ipDatas.map fun ipData => (ipData.object, ipData.ipConfigType)

/-- The manager points to the configurations of the best device, and to no others. -/
def BestTracked (isIp4 : Nat → Bool) (manager : NMDnsManager) : Prop :=
  ∀ family object, manager.bestIpConfig family = some object ↔
    isIp4 object = family ∧ HasType object .bestDevice manager.ipConfigLst

variable {self : NMDnsManager} (tracked : BestTracked isIp4 self) (object : Nat)

/-- A call for an object replaces its type, if it has one. -/
theorem hasType_trackIpConfig (ipConfig : NMIPConfig) (ipConfigType : NMDnsIPConfigType)
    (other : Nat) (type : NMDnsIPConfigType) :
    HasType other type (self.trackIpConfig object ipConfig ipConfigType) ↔
      if other = object then type = ipConfigType else HasType other type self.ipConfigLst := by
  unfold HasType NMDnsManager.trackIpConfig NMDnsManager.find
  cases found : self.ipConfigLst.find? fun ipData => decide (ipData.object = object) with
  | none =>
    have absent := find?_eq_none.mp found
    simp
    grind
  | some ipData =>
    have mem := List.mem_of_find?_eq_some found
    have same := List.find?_some found
    simp
    grind

theorem hasType_rebuildIpDatas (defaultRouteFound : Bool) (ht : HashTable)
    (ipDatas : List NMDnsIPConfigData) (type : NMDnsIPConfigType) :
    HasType object type (rebuildIpDatas defaultRouteFound ht ipDatas) ↔
      HasType object type ipDatas := by
  induction ipDatas generalizing ht with
  | nil => rfl
  | cons ipData ipDatas ih =>
    unfold HasType at *
    rw [rebuildIpDatas]
    split
    · grind
    · grind

theorem hasType_demoted (best : Option Nat) (other : Nat) (ipDatas : List NMDnsIPConfigData) :
    HasType other .bestDevice (ipDatas.map fun ipData =>
        if best ≠ some object ∧ best = some ipData.object then
          { ipData with ipConfigType := .default }
        else ipData) ↔
      HasType other .bestDevice ipDatas ∧ ¬ (best ≠ some object ∧ best = some other) := by
  unfold HasType
  simp
  grind

include tracked

theorem BestTracked.setIpConfig {ipConfig : NMIPConfig} (family_eq : ipConfig.isIp4 = isIp4 object)
    (ipConfigType : NMDnsIPConfigType) :
    BestTracked isIp4 (self.setIpConfig object ipConfig ipConfigType) := by
  intro family other
  have best := tracked
  have listed : ∀ type, HasType other type (self.trackIpConfig object ipConfig ipConfigType) ↔ _ :=
    hasType_trackIpConfig object ipConfig ipConfigType other
  unfold BestTracked at best
  unfold NMDnsManager.setIpConfig
  split
  · exact tracked family other
  · dsimp only
    split
    · rw [hasType_demoted, listed]
      grind
    · rw [listed]
      grind

theorem BestTracked.perform (call : DnsCall isIp4) : BestTracked isIp4 (self.perform call) := by
  intro family other
  have best := tracked family other
  cases call with
  | set object ipConfig ipConfigType => exact tracked.setIpConfig object ipConfig.2 ipConfigType _ _
  | remove object =>
    unfold HasType NMDnsManager.perform NMDnsManager.removeIpConfig at *
    grind
  | changed object ipConfig =>
    unfold HasType NMDnsManager.perform NMDnsManager.ipConfigChanged at *
    grind
  | rebuild =>
    have perm := (ipConfigLstHead_spec self).1
    unfold NMDnsManager.perform NMDnsManager.rebuildDomainLists NMDnsManager.ipConfigLstHead at *
    rw [hasType_rebuildIpDatas]
    unfold HasType at *
    grind

omit tracked in
/-- Whatever calls were made, only one configuration of an address family is the one of the best
device, and the manager points to it. -/
theorem run_bestTracked (isIp4 : Nat → Bool) (calls : List (DnsCall isIp4)) :
    BestTracked isIp4 (calls.foldl NMDnsManager.perform .new) := by
  have run : ∀ manager, BestTracked isIp4 manager →
      BestTracked isIp4 (calls.foldl NMDnsManager.perform manager) := by
    induction calls with
    | nil => exact fun _ => id
    | cons call calls ih => exact fun _ tracked => ih _ (tracked.perform call)
  exact run .new fun family object => by simp [NMDnsManager.new, HasType]

end NetworkManager.Dns
