import NetworkManager.Core.MatchDevice

/-!
# Matching config specs

Specs of a configuration name a version of the program or a word of its environment.  Lists of them
are read like lists of device specs.  What such a list means is said here for both: a list is refused
by an exception that matches, and met by a condition that matches, or if it has nothing but
exceptions.
-/

namespace NetworkManager.MatchSpec

open Ascii List SignedScan

/-- The tags of versions. -/
inductive VersionTag where
  /-- `MATCH_TAG_CONFIG_NM_VERSION`. -/
  | version
  /-- `MATCH_TAG_CONFIG_NM_VERSION_MIN`. -/
  | versionMin
  /-- `MATCH_TAG_CONFIG_NM_VERSION_MAX`. -/
  | versionMax
  deriving DecidableEq, Repr

def VersionTag.text : VersionTag → List Char
  | version => "nm-version:".toList
  | versionMin => "nm-version-min:".toList
  | versionMax => "nm-version-max:".toList

/-- `MATCH_TAG_CONFIG_ENV`. -/
def envTag : List Char := "env:".toList

/-- The major, minor and micro number that `nm_decode_version` finds in a version. -/
def decodeVersion (version : UInt32) : Nat × Nat × Nat :=
  (((version &&& 0xFFFF0000) >>> 16).toNat, ((version &&& 0x0000FF00) >>> 8).toNat,
    (version &&& 0x000000FF).toNat)

/-- `CHECK_AND_RETURN_FALSE`: whether it returns. -/
def checkFails (tag : VersionTag) (cur val : Int) (isLastDigit : Bool) : Bool :=
  (match tag with
    | .versionMin => decide (cur < val)
    | .versionMax => decide (cur > val)
    | .version => decide (cur ≠ val)) || (!isLastDigit && decide (cur ≠ val))

/-- `g_strsplit` at dots. -/
def splitDots (str : List Char) : List (List Char) :=
  if str = [] then [] else str.splitOn '.'

/-- A number of a version, which is -1 if there is none or if it is not valid. -/
def versionNumber (tokens : List (List Char)) (index : Nat) (max : Int) : Int :=
  match tokens[index]? with
  | none => -1
  | some token => strToInt64 token 10 0 max (-1)

/-- `match_config_eval`. -/
def matchConfigEval (str : List Char) (tag : VersionTag) (curNmVersion : UInt32) : Bool :=
  let tokens := splitDots (strip str)
  let vMaj := versionNumber tokens 0 0xFFFF
  let vMin := versionNumber tokens 1 0xFF
  let vMic := versionNumber tokens 2 0xFF
  let (cMaj, cMin, cMic) := decodeVersion curNmVersion
  if !(strip str).all (fun c => c == '.' || decide (digitValue c < 10)) then false
  else if tokens.length = 0 || tokens.length > 3 then false
  else if vMaj < 0 then false
  else if tokens.length ≥ 2 && vMin < 0 then false
  else if tokens.length ≥ 3 && vMic < 0 then false
  else if vMic ≥ 0 && checkFails tag cMic vMic true then false
  else if vMin ≥ 0 && checkFails tag cMin vMin (vMic < 0) then false
  else !checkFails tag cMaj vMaj (vMin < 0)

/-- How `nm_match_spec_config` evaluates a spec. -/
def configEval (curNmVersion : UInt32) (env : Option (List Char)) (spec : List Char) : Bool :=
  if let some str := matchCheck spec VersionTag.version.text then
    matchConfigEval str .version curNmVersion
  else if let some str := matchCheck spec VersionTag.versionMin.text then
    matchConfigEval str .versionMin curNmVersion
  else if let some str := matchCheck spec VersionTag.versionMax.text then
    matchConfigEval str .versionMax curNmVersion
  else if let some str := matchCheck spec envTag then
    strNotEmpty env == some str
  else false

/-- `nm_match_spec_config`. -/
def nmMatchSpecConfig (specs : List (Option (List Char))) (curNmVersion : UInt32)
    (env : Option (List Char)) : NMMatchSpecMatchType :=
  matchSpecs (fun item (state : Unit) => (configEval curNmVersion env item.text, state)) specs ()

/-- The meaning of a list of specs, each of which holds or does not. -/
def meaning (holds : SpecItem → Bool) (items : List SpecItem) : NMMatchSpecMatchType :=
  if ∃ item ∈ items, item.except = true ∧ holds item = true then .negMatch
  else if (∃ item ∈ items, item.except = false ∧ holds item = true) ∨
      (items ≠ [] ∧ ∀ item ∈ items, item.except = true) then .match
  else .noMatch

/-- Whether a spec matches a device that nothing was parsed of before. -/
def deviceHolds (glob : List Char → List Char → Bool) (device : Device) (item : SpecItem) : Bool :=
  (matchDeviceEval glob item.text (!item.except) device.matchData).1

def configHolds (curNmVersion : UInt32) (env : Option (List Char)) (item : SpecItem) : Bool :=
  configEval curNmVersion env item.text

def specItems (specs : List (Option (List Char))) : List SpecItem := specs.filterMap specItem

variable {State : Type*} {eval : SpecItem → State → Bool × State} {holds : SpecItem → Bool}
  {Consistent : State → Prop} {state : State}

theorem matchResult_declared (items : List SpecItem) :
    matchResult (declared SpecItem.except holds items) = meaning holds items := by
  have neg_iff : (items.any (fun item => item.except && holds item) = true) ↔
      ∃ item ∈ items, item.except = true ∧ holds item = true := by
    simp only [any_eq_true, Bool.and_eq_true]
  have pos_iff : (items.any (fun item => !item.except && holds item) = true) ↔
      ∃ item ∈ items, item.except = false ∧ holds item = true := by
    simp only [any_eq_true, Bool.and_eq_true, Bool.not_eq_true']
  have only_iff : (items.any SpecItem.except && !items.any fun item => !item.except) = true ↔
      items ≠ [] ∧ ∀ item ∈ items, item.except = true := by
    cases items with
    | nil => simp
    | cons item items => cases sign : item.except <;> simp [sign]
  unfold matchResult meaning declared
  simp only [only_iff, neg_iff, pos_iff]
  split
  case isTrue only =>
    split
    · rfl
    · rw [if_pos (Or.inr only)]
  case isFalse mixed =>
    split
    · rfl
    · simp only [mixed, or_false]

theorem matchSpecs_eq_meaning (answers : Answers eval holds Consistent)
    (consistent : Consistent state) (specs : List (Option (List Char))) :
    matchSpecs eval specs state = meaning holds (specItems specs) := by
  have found : (scan SpecItem.except eval (specItems specs) state).1 =
      declared SpecItem.except holds (specItems specs) := scan_found answers consistent _
  unfold matchSpecs
  split
  case isTrue empty =>
    rw [empty]
    rfl
  case isFalse =>
    rw [← matchResult_declared, ← found, scan, specItems, foldl_filterMap]
    congr 3
    funext scanned spec
    cases specItem spec with
    | none => rfl
    | some item => rfl

theorem HwaddrData.parse_parse (hwaddr : HwaddrData) : hwaddr.parse.parse = hwaddr.parse := by
  have parsed : hwaddr.parse.isParsed = true := by
    unfold HwaddrData.parse
    split
    · assumption
    · split
      · rfl
      · dsimp only
        split <;> rfl
  rw [HwaddrData.parse, if_pos parsed]

variable (glob : List Char → List Char → Bool) (spec : List Char) (subchannels : SubchannelsData)
  (data : MatchDeviceData)

theorem SubchannelsData.parse_parse :
    subchannels.parse.parse = subchannels.parse := by
  have parsed : subchannels.parse.isParsed = true := by
    unfold SubchannelsData.parse
    split
    · assumption
    · split <;> rfl
  rw [SubchannelsData.parse, if_pos parsed]

def MatchDeviceData.parsed (data : MatchDeviceData) : MatchDeviceData :=
  { data with hwaddr := data.hwaddr.parse, subchannels := data.subchannels.parse }

/-- Comparing a hardware address leaves the parsed one, and the result does not depend on whether it
was parsed before. -/
theorem matchDeviceHwaddrEval_parse (hwaddr : HwaddrData) :
    (matchDeviceHwaddrEval spec hwaddr).2 = hwaddr.parse ∧
      matchDeviceHwaddrEval spec hwaddr.parse = matchDeviceHwaddrEval spec hwaddr := by
  constructor
  · unfold matchDeviceHwaddrEval
    dsimp only
    split <;> rfl
  · unfold matchDeviceHwaddrEval
    rw [HwaddrData.parse_parse]

/-- Comparing subchannels leaves the parsed ones, and the result does not depend on whether they
were parsed before. -/
theorem matchDataS390SubchannelsEval_parse :
    (matchDataS390SubchannelsEval spec subchannels).2 = subchannels.parse ∧
      matchDataS390SubchannelsEval spec subchannels.parse =
        matchDataS390SubchannelsEval spec subchannels := by
  constructor
  · unfold matchDataS390SubchannelsEval
    dsimp only
    split
    · rfl
    · split <;> rfl
  · unfold matchDataS390SubchannelsEval
    rw [SubchannelsData.parse_parse]

theorem parsed_hwaddr :
    MatchDeviceData.parsed { data with hwaddr := data.hwaddr.parse } = data.parsed := by
  unfold MatchDeviceData.parsed
  dsimp only
  rw [HwaddrData.parse_parse]

theorem parsed_subchannels :
    MatchDeviceData.parsed { data with subchannels := data.subchannels.parse } = data.parsed := by
  unfold MatchDeviceData.parsed
  dsimp only
  rw [SubchannelsData.parse_parse]

theorem matchDeviceEval_parsed (allowFuzzy : Bool) (data : MatchDeviceData) :
    (matchDeviceEval glob spec allowFuzzy data.parsed).1 =
        (matchDeviceEval glob spec allowFuzzy data).1 ∧
      (matchDeviceEval glob spec allowFuzzy data).2.parsed = data.parsed := by
  have hwaddr_eval : ∀ spec, matchDeviceHwaddrEval spec data.parsed.hwaddr =
      matchDeviceHwaddrEval spec data.hwaddr := fun spec =>
    (matchDeviceHwaddrEval_parse spec data.hwaddr).2
  have hwaddr_left : ∀ spec,
      MatchDeviceData.parsed { data with hwaddr := (matchDeviceHwaddrEval spec data.hwaddr).2 } =
        data.parsed := by
    intro spec
    rw [(matchDeviceHwaddrEval_parse spec data.hwaddr).1, parsed_hwaddr]
  have subchannels_eval : ∀ spec, matchDataS390SubchannelsEval spec data.parsed.subchannels =
      matchDataS390SubchannelsEval spec data.subchannels := fun spec =>
    (matchDataS390SubchannelsEval_parse spec data.subchannels).2
  have subchannels_left : ∀ spec, MatchDeviceData.parsed
      { data with subchannels := (matchDataS390SubchannelsEval spec data.subchannels).2 } =
        data.parsed := by
    intro spec
    rw [(matchDataS390SubchannelsEval_parse spec data.subchannels).1, parsed_subchannels]
  unfold matchDeviceEval
  split
  · exact ⟨rfl, rfl⟩
  cases matchCheck spec deviceTypeTag with
  | some spec => exact ⟨rfl, rfl⟩
  | none =>
  cases matchCheck spec macTag with
  | some spec =>
    have same := congrArg Prod.fst (hwaddr_eval spec)
    exact ⟨same, hwaddr_left spec⟩
  | none =>
  cases matchCheck spec interfaceNameTag with
  | some spec => exact ⟨rfl, rfl⟩
  | none =>
  cases matchCheck spec driverTag with
  | some spec => exact ⟨rfl, rfl⟩
  | none =>
  cases matchCheck spec s390SubchannelsTag with
  | some spec =>
    have same := congrArg Prod.fst (subchannels_eval spec)
    exact ⟨same, subchannels_left spec⟩
  | none =>
  cases matchCheck spec dhcpPluginTag with
  | some spec => exact ⟨rfl, rfl⟩
  | none =>
  cases allowFuzzy with
  | false => exact ⟨rfl, rfl⟩
  | true =>
    refine ⟨?_, hwaddr_left spec⟩
    have same := congrArg Prod.fst (hwaddr_eval spec)
    exact congrArg (· || data.interfaceName == some spec) same

theorem deviceAnswers (device : Device) :
    Answers (fun item => matchDeviceEval glob item.text (!item.except)) (deviceHolds glob device)
      fun data => data.parsed = device.matchData.parsed where
  answer := by
    intro data consistent item
    have before := (matchDeviceEval_parsed glob item.text (!item.except) data).1
    have fresh := (matchDeviceEval_parsed glob item.text (!item.except) device.matchData).1
    rw [deviceHolds, ← before, ← fresh, consistent]
  keeps := by
    intro data consistent item
    exact (matchDeviceEval_parsed glob item.text (!item.except) data).2.trans consistent

theorem meaning_congr {specs others : List (Option (List Char))}
    (same : ∀ spec, spec ∈ specs ↔ spec ∈ others) :
    meaning holds (specItems specs) = meaning holds (specItems others) := by
  have items_same : ∀ item, item ∈ specItems specs ↔ item ∈ specItems others := by
    intro item
    simp only [specItems, mem_filterMap, same]
  rw [← matchResult_declared, ← matchResult_declared, declared_congr items_same]

theorem nmMatchSpecDevice_eq_meaning (device : Device) (specs : List (Option (List Char))) :
    nmMatchSpecDevice glob specs device = meaning (deviceHolds glob device) (specItems specs) :=
  matchSpecs_eq_meaning (deviceAnswers glob device) rfl specs

theorem nmMatchSpecConfig_eq_meaning (curNmVersion : UInt32) (env : Option (List Char))
    (specs : List (Option (List Char))) :
    nmMatchSpecConfig specs curNmVersion env =
      meaning (configHolds curNmVersion env) (specItems specs) := by
  have answers : Answers (fun item (state : Unit) => (configEval curNmVersion env item.text, state))
      (configHolds curNmVersion env) fun _ => True :=
    ⟨fun _ _ => rfl, fun _ _ => trivial⟩
  exact matchSpecs_eq_meaning answers trivial specs

/-- The result for a list of specs is the meaning of those that are not empty, for devices and for
configurations, and lists with the same elements have the same result. -/
theorem matchSpec_meaning (glob : List Char → List Char → Bool) (device : Device)
    (curNmVersion : UInt32) (env : Option (List Char)) (specs : List (Option (List Char))) :
    nmMatchSpecDevice glob specs device = meaning (deviceHolds glob device) (specItems specs) ∧
      nmMatchSpecConfig specs curNmVersion env =
        meaning (configHolds curNmVersion env) (specItems specs) ∧
          ∀ others, (∀ spec, spec ∈ specs ↔ spec ∈ others) →
            nmMatchSpecDevice glob specs device = nmMatchSpecDevice glob others device ∧
              nmMatchSpecConfig specs curNmVersion env =
                nmMatchSpecConfig others curNmVersion env := by
  refine ⟨nmMatchSpecDevice_eq_meaning glob device specs,
    nmMatchSpecConfig_eq_meaning curNmVersion env specs, fun others same => ⟨?_, ?_⟩⟩
  · rw [nmMatchSpecDevice_eq_meaning, nmMatchSpecDevice_eq_meaning, meaning_congr same]
  · rw [nmMatchSpecConfig_eq_meaning, nmMatchSpecConfig_eq_meaning, meaning_congr same]

theorem matchSpec_meaning_reordered :
    nmMatchSpecDevice patternMatchSimple
        [some "driver:e1000".toList, some "except:mac:00:11:22:33:44:55".toList,
          some "except:type:wifi".toList] { driver := some "e1000".toList } =
      nmMatchSpecDevice patternMatchSimple
        [some "except:type:wifi".toList, some "driver:e1000".toList,
          some "except:mac:00:11:22:33:44:55".toList, some "driver:e1000".toList]
        { driver := some "e1000".toList } :=
  ((matchSpec_meaning patternMatchSimple { driver := some "e1000".toList } 0 none
    [some "driver:e1000".toList, some "except:mac:00:11:22:33:44:55".toList,
      some "except:type:wifi".toList]).2.2 _ (by
        intro spec
        simp only [mem_cons, not_mem_nil, or_false]
        grind)).1

/-- The list of an empty spec and an exception.  It does not consist of exceptions only, but it is
matched as if it did. -/
def emptyAndExcept : List (List Char) := ["".toList, "except:interface-name:eth1".toList]

/-- Empty specs are not counted as specs of a list. -/
theorem matchSpec_meaning_fails :
    ¬ ∀ (glob : List Char → List Char → Bool) (device : Device) (specs : List (List Char)),
      nmMatchSpecDevice glob (specs.map some) device =
        meaning (deviceHolds glob device) (specs.map matchExcept) := by
  intro always
  have same := always patternMatchSimple { interfaceName := some "eth0".toList } emptyAndExcept
  exact absurd same (by decide +kernel)

end NetworkManager.MatchSpec
