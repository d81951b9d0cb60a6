import NetworkManager.Core.InterfaceName
import NetworkManager.Settings.Exposure

/-!
# Default profiles of wired devices

A wired device without a profile gets one in `/run`, and the profile and the device are tied to each
other by tags.  `nm_settings_update_connection` cuts the tie when the user changes the profile, and
it does so before the profile is written.
-/

namespace NetworkManager

open NMSettings

/-- What the settings use of an `NMDevice`. -/
structure NMDevice where
  address : Nat
  /-- `nm_device_get_permanent_hw_address_full`: the address, and whether it is fake. -/
  permHwAddress : Option (List UInt8 × Bool)
  /-- `nm_device_get_ip_iface`. -/
  ipIface : List UInt8
  deriving DecidableEq, Repr

/-- How `nm_config_set_no_auto_default_for_device` names a device, if it does. -/
def NMDevice.noAutoDefaultSpec (device : NMDevice) : Option (List UInt8) :=
  match device.permHwAddress with
  | none => none
  | some (hwAddress, isFake) =>
    if !isFake then some hwAddress
    else if InterfaceName.ifnameValidKernel device.ipIface then
      some ("interface-name:=".toUTF8.toList ++ device.ipIface)
    else none

/-- `nm_config_set_no_auto_default_for_device`, of the sorted list `no-auto-default`. -/
def setNoAutoDefaultForDevice (noAutoDefault : List (List UInt8)) (device : NMDevice) :
    List (List UInt8) :=
  match device.noAutoDefaultSpec with
  | none => noAutoDefault
  | some spec =>
    if spec ∈ noAutoDefault then noAutoDefault
    else noAutoDefault.takeWhile (fun other => decide (other < spec)) ++
      spec :: noAutoDefault.dropWhile fun other => decide (other < spec)

structure WiredSettings where
  settings : NMSettings
  /-- `default_wired_device` of the profiles. -/
  defaultWiredDevice : Nat → Option NMDevice
  /-- `_default_wired_connection_quark` of the devices. -/
  defaultWiredConnection : NMDevice → Option Nat
  /-- `no_auto_default` of the configuration. -/
  noAutoDefault : List (List UInt8)

namespace WiredSettings

variable (cfg : SettingsConfig)

/-- `default_wired_clear_tag`. -/
def defaultWiredClearTag (self : WiredSettings) (device : NMDevice) (settConn : Nat)
    (addToNoAutoDefault : Bool) : WiredSettings :=
  { self with
    defaultWiredDevice := Function.update self.defaultWiredDevice settConn none
    defaultWiredConnection := Function.update self.defaultWiredConnection device none
    noAutoDefault :=
      if addToNoAutoDefault then setNoAutoDefaultForDevice self.noAutoDefault device
      else self.noAutoDefault }

def isExposed (settings : NMSettings) (settConn : Nat) : Bool :=
  settings.getConnectionByUuid (settings.connections settConn).connection.uuid = some settConn

/-- The settings after profiles changed: `_connection_changed_delete` clears the tags of profiles
that are gone. -/
def changed (self : WiredSettings) (settings : NMSettings) : WiredSettings :=
  { self with
    settings := settings
    defaultWiredDevice := fun settConn =>
      if isExposed settings settConn then self.defaultWiredDevice settConn else none
    defaultWiredConnection := fun device =>
      (self.defaultWiredConnection device).filter (isExposed settings) }

/-- The end of `device_realized`, where `newDefault` is the profile that
`nm_device_new_default_connection` makes for a managed device without a profile that is not in the
list `no-auto-default`. -/
def deviceRealized (self : WiredSettings) (device : NMDevice) (newDefault : Option NMConnection)
    (outcome : FileOutcome) : WiredSettings :=
  if (self.defaultWiredConnection device).isSome then self
  else
    match newDefault with
    | none => self
    | some connection =>
      match self.settings.addConnection cfg connection .inMemoryOnly ⟨true, false⟩ outcome with
      | (_, .error _) => self
      | (settings, .ok _) =>
        let self := self.changed settings
        match settings.getConnectionByUuid connection.uuid with
        | none => self
        | some added =>
          { self with
            defaultWiredDevice := Function.update self.defaultWiredDevice added (some device)
            defaultWiredConnection :=
              Function.update self.defaultWiredConnection device (some added) }

def changedByUser (settFlags settMask : IntFlags) : Bool :=
  settMask.nmGenerated && !settFlags.nmGenerated

/-- The profile that `nm_settings_update_connection` stores, or why it is invalid. -/
def updateProfile (settings : NMSettings) (settConn : Nat) (connection : Option NMConnection) :
    Except String NMConnection :=
  settings.updateProfile cfg settConn
    (settings.keyfile.heap (settings.connections settConn).storage).getUuid connection

/-- `nm_settings_update_connection`, with the tags. -/
def updateConnection (self : WiredSettings) (settConn : Nat) (connection : Option NMConnection)
    (persistMode : PersistMode) (settFlags settMask : IntFlags) (ignoreFailure : Bool)
    (outcome : FileOutcome) : WiredSettings × Except SettingsError (Nat × NMConnection) :=
  match updateProfile cfg self.settings settConn connection with
  | .error message => (self, .error (.invalidConnection message))
  | .ok _ =>
    let device := self.defaultWiredDevice settConn
    let cleared :=
      match device with
      | some device =>
        if changedByUser settFlags settMask then
          self.defaultWiredClearTag device settConn false
        else self
      | none => self
    match self.settings.updateConnection cfg settConn connection persistMode settFlags settMask
      ignoreFailure device.isSome outcome with
    | (settings, .error error) => ({ cleared with settings := settings }, .error error)
    | (settings, .ok result) => (cleared.changed settings, .ok result)

variable {cfg} {self : WiredSettings} {settConn : Nat} {connection : Option NMConnection}
  {persistMode : PersistMode} {settFlags settMask : IntFlags} {ignoreFailure : Bool}
  {outcome : FileOutcome}

theorem defaultWiredClearTag_ne {device : NMDevice} {addToNoAutoDefault : Bool}
    (tagged : (self.defaultWiredDevice settConn).isSome = true) :
    self.defaultWiredClearTag device settConn addToNoAutoDefault ≠ self := by
  intro same
  have cleared : (self.defaultWiredClearTag device settConn addToNoAutoDefault).defaultWiredDevice
      settConn = none := Function.update_self ..
  rw [same] at cleared
  rw [cleared] at tagged
  cases tagged

theorem NMSettings_updateConnection_failed {settings : NMSettings} {defaultWired : Bool}
    {error : SettingsError}
    (failed : (settings.updateConnection cfg settConn connection persistMode settFlags settMask
      ignoreFailure defaultWired outcome).2 = .error error) :
    (settings.updateConnection cfg settConn connection persistMode settFlags settMask ignoreFailure
      defaultWired outcome).1 = settings := by
  unfold NMSettings.updateConnection at failed ⊢
  dsimp only at failed ⊢
  split
  · rfl
  · rename_i valid
    rw [valid] at failed
    dsimp only at failed
    split
    · rfl
    · rename_i persisted
      rw [persisted] at failed
      cases failed

/-- What a failed update changes is whether the profile is tied to a device, and only if the profile
is valid, the user changed it and it was tied. -/
theorem updateConnection_failed (failed : ∀ result, (self.updateConnection cfg settConn connection
      persistMode settFlags settMask ignoreFailure outcome).2 ≠ .ok result) :
    (self.updateConnection cfg settConn connection persistMode settFlags settMask ignoreFailure
        outcome).1 =
      match updateProfile cfg self.settings settConn connection, self.defaultWiredDevice settConn with
      | .ok _, some device =>
        if changedByUser settFlags settMask then self.defaultWiredClearTag device settConn false
        else self
      | _, _ => self := by
  unfold updateConnection at failed ⊢
  dsimp only at failed ⊢
  cases valid : updateProfile cfg self.settings settConn connection with
  | error message => rfl
  | ok profile =>
    rw [valid] at failed
    dsimp only at failed ⊢
    cases updated : self.settings.updateConnection cfg settConn connection persistMode settFlags
        settMask ignoreFailure (self.defaultWiredDevice settConn).isSome outcome with
    | mk settings result =>
      rw [updated] at failed
      cases result with
      | ok result => exact absurd rfl (failed result)
      | error error =>
        have unchanged := NMSettings_updateConnection_failed (congrArg Prod.snd updated)
        rw [updated] at unchanged
        dsimp only at unchanged ⊢
        rw [unchanged]
        cases self.defaultWiredDevice settConn with
        | none => rfl
        | some device =>
          dsimp only
          split <;> rfl

/-- A failed update never changes the settings and the list `no-auto-default`, and it changes nothing
at all exactly if the profile is invalid, or was not changed by the user, or is not tied to a
device. -/
theorem updateConnection_failed_iff (cfg : SettingsConfig) (self : WiredSettings) (settConn : Nat)
    (connection : Option NMConnection) (persistMode : PersistMode) (settFlags settMask : IntFlags)
    (ignoreFailure : Bool) (outcome : FileOutcome)
    (failed : ∀ result, (self.updateConnection cfg settConn connection persistMode settFlags settMask
      ignoreFailure outcome).2 ≠ .ok result) :
    let after := (self.updateConnection cfg settConn connection persistMode settFlags settMask
      ignoreFailure outcome).1
    after.settings = self.settings ∧ after.noAutoDefault = self.noAutoDefault ∧
      (after = self ↔ (∃ message,
          updateProfile cfg self.settings settConn connection = .error message) ∨
        ¬ (settMask.nmGenerated = true ∧ settFlags.nmGenerated = false) ∨
        self.defaultWiredDevice settConn = none) := by
  dsimp only
  rw [updateConnection_failed failed]
  cases valid : updateProfile cfg self.settings settConn connection with
  | error message => exact ⟨rfl, rfl, iff_of_true rfl (.inl ⟨message, rfl⟩)⟩
  | ok profile =>
    cases tagged : self.defaultWiredDevice settConn with
    | none => exact ⟨rfl, rfl, iff_of_true rfl (.inr (.inr rfl))⟩
    | some device =>
      dsimp only
      by_cases user : changedByUser settFlags settMask = true
      · rw [if_pos user]
        have flags : settMask.nmGenerated = true ∧ settFlags.nmGenerated = false := by
          simpa [changedByUser] using user
        refine ⟨rfl, rfl, iff_of_false (defaultWiredClearTag_ne ?_) ?_⟩
        · rw [tagged]
          rfl
        · rintro (⟨message, impossible⟩ | kept | untied)
          · cases impossible
          · exact kept flags
          · cases untied
      · rw [if_neg user]
        refine ⟨rfl, rfl, iff_of_true rfl (.inr (.inl fun flags => user ?_))⟩
        simp [changedByUser, flags]

def ethernetDevice : NMDevice where
  address := 1
  permHwAddress := some ("00:11:22:33:44:55".toUTF8.toList, false)
  ipIface := "eth0".toUTF8.toList

def defaultProfile : WiredSettings :=
  deviceRealized NMSettings.usualConfig ⟨.new, fun _ => none, fun _ => none, []⟩ ethernetDevice
    (some ⟨"w", "auto"⟩) (NMSettings.usualOutcome "auto" true true)

/-- Nothing can be written. -/
def readOnly : FileOutcome :=
  { NMSettings.usualOutcome "w" true true with
    keyfileAdd := ⟨["w"], .error "read-only file system"⟩
    update := .error "read-only file system" }

/-- Without a change by the user, a failed update changes nothing. -/
theorem updateConnection_failed_readOnly :
    (defaultProfile.updateConnection NMSettings.usualConfig 0 (some ⟨"w", "new"⟩) .toDisk .none .none
      false readOnly).1 = defaultProfile := by
  refine (updateConnection_failed_iff usualConfig defaultProfile 0 (some ⟨"w", "new"⟩)
    .toDisk .none .none false readOnly fun result => ?_).2.2.mpr (.inr (.inl (by decide)))
  have error : (defaultProfile.updateConnection usualConfig 0 (some ⟨"w", "new"⟩) .toDisk
      .none .none false readOnly).2 = .error (.failedToWrite "read-only file system") := by
    decide +kernel
  rw [error]
  exact fun impossible => by cases impossible

/-- The user changes the default profile of the device, and it cannot be written: the update fails,
and the profile is not tied to the device any more. -/
theorem updateConnection_failed_changes :
    let result := defaultProfile.updateConnection usualConfig 0 (some ⟨"w", "new"⟩)
      .toDisk .none .persistentMask false readOnly
    result.2 = .error (.failedToWrite "read-only file system") ∧
      defaultProfile.defaultWiredDevice 0 = some ethernetDevice ∧
      defaultProfile.defaultWiredConnection ethernetDevice = some 0 ∧
      result.1.defaultWiredDevice 0 = none ∧
      result.1.defaultWiredConnection ethernetDevice = none := by
  decide +kernel

end WiredSettings

end NetworkManager
