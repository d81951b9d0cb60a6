import NetworkManager.Platform.RulesManager

/-!
# The rules manager in its environment

The users of the manager track and untrack rules, and they ask it to synchronise the platform.
Meanwhile others add rules to the platform and remove rules from it.  Besides the manager and the
platform, the system records two things that its properties are about: which pairs of a rule and a
tag are being tracked, and which rules of the platform are our own.
-/

namespace NetworkManager.RulesManager

/-- The manager, the platform, and what happened so far. -/
structure System (Tag : Type) where
  manager : NMPRulesManager Tag
  platform : List Rule
  /-- Which rules a tag tracks, and whether it has been marked dirty since. -/
  tracked : Rule → Tag → Option Bool
  /-- The rules of the platform that we added or took over. -/
  owned : List Rule

/-- What can happen. -/
inductive Event (Tag : Type) where
  | track (rule : Rule) (priority : Int) (userTag : Tag) (userTagUntrack : Option Tag)
  | untrack (rule : Rule) (userTag : Tag)
  | setDirty (userTag : Tag)
  | untrackAll (userTag : Tag) (all : Bool)
  | sync (keepDeletedRules : Bool) (outcome : PlatformOutcome)
  | externalAdd (rule : Rule)
  | externalRemove (rule : Rule)

section

variable (support : KernelSupport) {Tag : Type} [DecidableEq Tag]

/-- Whether a call of `nmp_rules_manager_track` takes the rule over from another tag. -/
def NMPRulesManager.takesOver (self : NMPRulesManager Tag) (rule : Rule) (priority : Int)
    (userTag : Tag) (userTagUntrack : Option Tag) : Bool :=
  match userTagUntrack with
  | none => false
  | some other => decide (userTag ≠ other) &&
      ((self.trackData support rule priority userTag).rulesDataLookup support rule other).isSome

section

variable (tracked : Rule → Tag → Option Bool)

def trackedAfterTrack (rule : Rule) (userTag : Tag) (userTagUntrack : Option Tag) :
    Rule → Tag → Option Bool := fun r tag =>
  if sameRule support rule r = true ∧ tag = userTag then some false
  else if sameRule support rule r = true ∧ userTagUntrack = some tag then none
  else tracked r tag

def trackedAfterUntrack (rule : Rule) (userTag : Tag) : Rule → Tag → Option Bool := fun r tag =>
  if sameRule support rule r = true ∧ tag = userTag then none else tracked r tag

def trackedAfterSetDirty (userTag : Tag) : Rule → Tag → Option Bool := fun r tag =>
  if tag = userTag then (tracked r tag).map fun _ => true else tracked r tag

/-- What is left after all rules of a tag were untracked, or all dirty ones. -/
def trackedAfterUntrackAll (userTag : Tag) (all : Bool) : Rule → Tag → Option Bool := fun r tag =>
  if tag = userTag then (tracked r tag).filter fun dirty => !(all || dirty) else tracked r tag

end

def withoutRule (rules : List Rule) (rule : Rule) : List Rule :=
  rules.filter fun other => !sameRule support rule other

/-- The next state of the system. -/
def System.step (self : System Tag) : Event Tag → System Tag
  | .track rule priority userTag userTagUntrack =>
    { self with
      manager := self.manager.track support rule priority userTag userTagUntrack
      tracked := trackedAfterTrack support self.tracked rule userTag userTagUntrack
      owned :=
        if self.manager.takesOver support rule priority userTag userTagUntrack then
          self.owned ++ [rule]
        else self.owned }
  | .untrack rule userTag =>
    { self with
      manager := self.manager.untrack support rule userTag
      tracked := trackedAfterUntrack support self.tracked rule userTag }
  | .setDirty userTag =>
    { self with
      manager := self.manager.setDirty userTag
      tracked := trackedAfterSetDirty self.tracked userTag }
  | .untrackAll userTag all =>
    { self with
      manager := self.manager.untrackAll support userTag all
      tracked := trackedAfterUntrackAll self.tracked userTag all }
  | .sync keepDeletedRules outcome =>
    let result := self.manager.sync support keepDeletedRules outcome self.platform
    { self with
      manager := result.manager
      platform := result.platform
      owned := result.deleted.foldl (platformDelete support outcome.deletes)
        self.owned ++ result.added.filter outcome.adds }
  | .externalAdd rule =>
    if self.platform.any (sameRule support rule) then self
    else
      { self with
        platform := self.platform ++ [rule]
        owned := withoutRule support self.owned rule }
  | .externalRemove rule =>
    { self with
      platform := withoutRule support self.platform rule
      owned := withoutRule support self.owned rule }

def System.initial (Tag : Type) (platform : List Rule) : System Tag where
  manager := .new Tag
  platform := platform
  tracked := fun _ _ => none
  owned := []

/-- The system as a machine.  Any event can happen at any time. -/
def machine : GuardedMachine (System Tag) (Event Tag) where
  step := System.step support
  guard _ _ := True

end

end NetworkManager.RulesManager
