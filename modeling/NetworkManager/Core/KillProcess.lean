import Mathlib.Algebra.Group.Nat.Defs
import Mathlib.Data.List.Basic
import Mathlib.Order.Basic

/-!
# Killing a process

A process is sent a signal and is then watched until it is gone, or until the time is up.  If it
does not go in time, it should be sent `SIGKILL`.  The time to send it is a reading of the clock in
microseconds, and it is given up if it is larger than the longest time to wait, which is a duration
in milliseconds.
-/

namespace NetworkManager.KillProcess

open List

/-- `SIGKILL`. -/
def sigkill : Nat := 9

/-- What the function gets to know: the readings of the clock in microseconds, what is found out
about the process each time it is looked at, and the error of each call of `kill`. -/
structure Env where
  clock : Nat → Nat
  process : Nat → Nat × Char
  kill : Nat → Nat → Option Nat

/-- The arguments of `nm_utils_kill_process_sync`, except for those that are only logged. -/
structure Args where
  pid : Int
  startTime : Nat
  sig : Nat
  waitBeforeKillMsec : Nat
  sleepDurationMsec : Nat
  maxWaitMsec : Nat
  deriving DecidableEq, Repr

/-- What the function does. -/
inductive Event where
  /-- `kill`, with a signal. -/
  | sent (signal : Nat)
  | read (now : Nat)
  /-- `g_usleep`. -/
  | slept (usec : Nat)
  deriving DecidableEq, Repr

/-- What does not change while the process is watched. -/
structure Params where
  startTime0 : Nat
  sleepDurationUsec : Nat
  maxWaitUntil : Nat
  deriving DecidableEq, Repr

/-- The variables of the loop, with the number of its turns, the number of calls of `kill` and what
was done so far. -/
structure LoopState where
  waitUntilSigkill : Nat
  loopCount : Nat := 0
  turns : Nat := 0
  kills : Nat
  events : List Event
  deriving DecidableEq, Repr

def isZombie (pState : Char) : Bool :=
  pState == 'Z' || pState == 'x' || pState == 'X'

/-- `_sleep_duration_convert_ms_to_us`. -/
def sleepDurationConvertMsToUs (sleepDurationMsec : Nat) : Nat :=
  if sleepDurationMsec > 0 then sleepDurationMsec * 1000 else 1000000 / 20

def LoopState.send (state : LoopState) (signal : Nat) : LoopState :=
  { state with kills := state.kills + 1, events := state.events ++ [.sent signal] }

@[simp] theorem LoopState.send_waitUntilSigkill (state : LoopState) (signal : Nat) :
    (state.send signal).waitUntilSigkill = state.waitUntilSigkill := rfl

@[simp] theorem LoopState.send_turns (state : LoopState) (signal : Nat) :
    (state.send signal).turns = state.turns := rfl

/-- The end of a turn.  At the beginning the process is expected to die fast. -/
def LoopState.sleep (state : LoopState) (sleepTime : Nat) : LoopState :=
  if state.loopCount < 20 then
    { state with
      loopCount := state.loopCount + 1
      turns := state.turns + 1
      events := state.events ++ [.slept (min sleepTime (2 ^ state.loopCount * 1000000 / 2000))] }
  else
    { state with
      turns := state.turns + 1
      events := state.events ++ [.slept sleepTime] }

/-- The last turn.  Although the time is up, the signal is not skipped. -/
def LoopState.timeout (state : LoopState) : LoopState :=
  if state.waitUntilSigkill ≠ 0 then state.send sigkill else state

/-- A turn of the loop, and whether the function returns in it. -/
def turn (env : Env) (params : Params) (state : LoopState) : Bool × LoopState :=
  let (startTime, pState) := env.process (state.turns + 1)
  if startTime ≠ params.startTime0 || isZombie pState then (true, state)
  else
    let gone := env.kill state.kills 0
    let state := state.send 0
    if gone.isSome then (true, state)
    else
      let now := env.clock (state.turns + 1)
      let state : LoopState := { state with events := state.events ++ [.read now] }
      if params.maxWaitUntil ≠ 0 ∧ now ≥ params.maxWaitUntil then (true, state.timeout)
      else if state.waitUntilSigkill ≠ 0 then
        if now ≥ state.waitUntilSigkill then
          let failed := env.kill state.kills sigkill
          let state := state.send sigkill
          if failed.isSome then (true, state)
          else
            let state := { state with waitUntilSigkill := 0, loopCount := 0 }
            (false, state.sleep params.sleepDurationUsec)
        else
          (false, state.sleep (min (state.waitUntilSigkill - now) params.sleepDurationUsec))
      else (false, state.sleep params.sleepDurationUsec)

/-- The loop, for at most as many turns as the fuel says: what was done, if the function returns. -/
def loop (env : Env) (params : Params) : Nat → LoopState → Option (List Event)
  | 0, _ => none
  | fuel + 1, state =>
    match turn env params state with
    | (true, state) => some state.events
    | (false, state) => loop env params fuel state

/-- The time to send `SIGKILL`, as it is set before the loop. -/
def waitUntilSigkill (args : Args) (waitStart : Nat) : Nat :=
  let wait := if args.sig ≠ sigkill ∧ args.waitBeforeKillMsec ≠ 0 then
    waitStart + args.waitBeforeKillMsec * 1000 else 0
  if args.maxWaitMsec > 0 ∧ wait > 0 ∧ wait > args.maxWaitMsec then 0 else wait

/-- The time to return, as it is set before the loop. -/
def maxWaitUntil (args : Args) (waitStart : Nat) : Nat :=
  if args.maxWaitMsec > 0 then waitStart + args.maxWaitMsec * 1000 else 0

/-- What is set before the loop, after the process was found. -/
def loopParams (env : Env) (args : Args) : Params where
  startTime0 := (env.process 0).1
  sleepDurationUsec := sleepDurationConvertMsToUs args.sleepDurationMsec
  maxWaitUntil := maxWaitUntil args (env.clock 0)

/-- The loop begins after the signal was sent and the clock was read. -/
def loopStart (env : Env) (args : Args) : LoopState where
  waitUntilSigkill := waitUntilSigkill args (env.clock 0)
  kills := 1
  events := [.sent args.sig, .read (env.clock 0)]

/-- `nm_utils_kill_process_sync`: what was done, if it returns after as many turns of the loop as the
fuel says. -/
def killProcessSync (env : Env) (args : Args) (fuel : Nat) : Option (List Event) :=
  let (startTime0, pState) := env.process 0
  if args.pid ≤ 0 then some []
  else if startTime0 = 0 then some []
  else if args.startTime ≠ 0 ∧ args.startTime ≠ startTime0 then some []
  else if isZombie pState then some []
  else if (env.kill 0 args.sig).isSome then some [.sent args.sig]
  else loop env (loopParams env args) fuel (loopStart env args)

def Event.reading : Event → Option Nat
  | read now => some now
  | _ => none

def firstReading (events : List Event) : Option Nat := (events.filterMap Event.reading).head?

def lastReading (events : List Event) : Option Nat := (events.filterMap Event.reading).getLast?

/-- Each time `SIGKILL` is sent, the clock was read, at least some milliseconds after its first
reading, which follows the first signal. -/
def NotEarly (waitMsec : Nat) (events : List Event) : Prop :=
  ∀ before after, events = before ++ .sent sigkill :: after →
    ∃ start now, firstReading before = some start ∧ lastReading before = some now ∧
      start + waitMsec * 1000 ≤ now

/-- `SIGKILL` was sent, and not too early. -/
structure Escalated (waitMsec : Nat) (events : List Event) : Prop where
  sent : .sent sigkill ∈ events
  notEarly : NotEarly waitMsec events

/-- The process that is meant stays alive, and the signals reach it. -/
structure StaysAlive (env : Env) (args : Args) : Prop where
  pid_pos : 0 < args.pid
  present : ∀ look, (env.process look).1 = (env.process 0).1
  started : (env.process 0).1 ≠ 0
  meant : args.startTime = 0 ∨ args.startTime = (env.process 0).1
  not_zombie : ∀ look, isZombie (env.process look).2 = false
  reached : ∀ call signal, env.kill call signal = none

/-- Whenever the function returns, `SIGKILL` has been sent in time. -/
def Escalates (env : Env) (args : Args) : Prop :=
  ∀ fuel events, killProcessSync env args fuel = some events →
    Escalated args.waitBeforeKillMsec events

variable {events more : List Event} {start now waitMsec : Nat}

theorem firstReading_append (first : firstReading events = some start) :
    firstReading (events ++ more) = some start := by
  unfold firstReading at first ⊢
  rw [filterMap_append, head?_append, first, Option.some_or]

theorem split_concat {before after : List Event} {last item : Event}
    (split : events ++ [last] = before ++ item :: after) :
    (events = before ∧ last = item) ∨ ∃ front, events = before ++ item :: front := by
  rcases after.eq_nil_or_concat with rfl | ⟨front, final, rfl⟩
  · obtain ⟨events_eq, last_eq⟩ := append_inj' split rfl
    exact Or.inl ⟨events_eq, (cons.inj last_eq).1⟩
  · right
    refine ⟨front, ?_⟩
    rw [concat_eq_append, ← cons_append, ← append_assoc] at split
    exact (append_inj' split rfl).1

/-- Doing something else than sending `SIGKILL` is not too early. -/
theorem NotEarly.concat (not_early : NotEarly waitMsec events) {event : Event}
    (other : event ≠ .sent sigkill) : NotEarly waitMsec (events ++ [event]) := by
  intro before after split
  rcases split_concat split with ⟨-, same⟩ | ⟨front, split⟩
  · exact absurd same other
  · exact not_early before front split

/-- Sending `SIGKILL` is not too early if the last reading is late enough. -/
theorem NotEarly.concat_sigkill (not_early : NotEarly waitMsec events)
    (first : firstReading events = some start) (last : lastReading events = some now)
    (late : start + waitMsec * 1000 ≤ now) : NotEarly waitMsec (events ++ [.sent sigkill]) := by
  intro before after split
  rcases split_concat split with ⟨rfl, -⟩ | ⟨front, split⟩
  · exact ⟨start, now, first, last, late⟩
  · exact not_early before front split

/-- The process that is watched stays alive, and the signals reach it. -/
structure Watched (env : Env) (startTime0 : Nat) : Prop where
  present : ∀ look, (env.process look).1 = startTime0
  not_zombie : ∀ look, isZombie (env.process look).2 = false
  reached : ∀ call signal, env.kill call signal = none

/-- What is done in a turn until the time is checked. -/
def LoopState.checked (state : LoopState) (now : Nat) : List Event :=
  state.events ++ [.sent 0] ++ [.read now]

theorem LoopState.sleep_spec (state : LoopState) (sleepTime : Nat) :
    (state.sleep sleepTime).turns = state.turns + 1 ∧
      (state.sleep sleepTime).waitUntilSigkill = state.waitUntilSigkill ∧
        ∃ usec, (state.sleep sleepTime).events = state.events ++ [.slept usec] := by
  unfold LoopState.sleep
  split
  · exact ⟨rfl, rfl, _, rfl⟩
  · exact ⟨rfl, rfl, _, rfl⟩

/-- What a turn does: the function returns if the time is up, with a last signal if it was not sent;
otherwise the signal is sent if it is time, and the function sleeps. -/
inductive TurnResult (params : Params) (state : LoopState) (now : Nat) : Bool × LoopState → Prop
  | up {next : LoopState} :
      params.maxWaitUntil ≠ 0 → params.maxWaitUntil ≤ now → state.waitUntilSigkill = 0 →
      next.events = state.checked now → TurnResult params state now (true, next)
  | upKill {next : LoopState} :
      params.maxWaitUntil ≠ 0 → params.maxWaitUntil ≤ now → state.waitUntilSigkill ≠ 0 →
      next.events = state.checked now ++ [.sent sigkill] → TurnResult params state now (true, next)
  | kill {next : LoopState} {usec : Nat} : ¬ (params.maxWaitUntil ≠ 0 ∧ params.maxWaitUntil ≤ now) →
      state.waitUntilSigkill ≠ 0 → state.waitUntilSigkill ≤ now → next.waitUntilSigkill = 0 →
      next.turns = state.turns + 1 →
      next.events = state.checked now ++ [.sent sigkill] ++ [.slept usec] →
      TurnResult params state now (false, next)
  | sleep {next : LoopState} {usec : Nat} :
      ¬ (params.maxWaitUntil ≠ 0 ∧ params.maxWaitUntil ≤ now) →
      next.waitUntilSigkill = state.waitUntilSigkill → next.turns = state.turns + 1 →
      next.events = state.checked now ++ [.slept usec] → TurnResult params state now (false, next)

variable {env : Env} {params : Params} {state : LoopState}

theorem turn_result (watched : Watched env params.startTime0) (state : LoopState) :
    TurnResult params state (env.clock (state.turns + 1)) (turn env params state) := by
  have here : ((env.process (state.turns + 1)).1 ≠ params.startTime0 ||
      isZombie (env.process (state.turns + 1)).2) = false := by
    rw [watched.present, watched.not_zombie]
    simp
  unfold turn
  simp only [here, watched.reached, Option.isSome_none, Bool.false_eq_true, if_false,
    LoopState.send_waitUntilSigkill, LoopState.send_turns]
  generalize env.clock (state.turns + 1) = now
  split
  case isTrue up =>
    by_cases armed : state.waitUntilSigkill ≠ 0
    · refine .upKill up.1 up.2 armed ?_
      rw [LoopState.timeout, if_pos (by exact armed)]
      rfl
    · refine .up up.1 up.2 (not_not.mp armed) ?_
      rw [LoopState.timeout, if_neg (by exact armed)]
      rfl
  case isFalse on =>
    split
    case isTrue armed =>
      split
      case isTrue late =>
        obtain ⟨turns, unarmed, usec, events⟩ := LoopState.sleep_spec _ _
        exact .kill on armed late unarmed turns events
      case isFalse =>
        obtain ⟨turns, same, usec, events⟩ := LoopState.sleep_spec _ _
        exact .sleep on same turns events
    case isFalse =>
      obtain ⟨turns, same, usec, events⟩ := LoopState.sleep_spec _ _
      exact .sleep on same turns events

/-- What holds between the turns if `SIGKILL` is to be sent: the time for it is set, or it has been
sent, and not too early. -/
structure Armed (start waitMsec : Nat) (state : LoopState) : Prop where
  first : firstReading state.events = some start
  notEarly : NotEarly waitMsec state.events
  pending : state.waitUntilSigkill = start + waitMsec * 1000 ∨
    (state.waitUntilSigkill = 0 ∧ .sent sigkill ∈ state.events)

theorem checked_spec (first : firstReading state.events = some start)
    (not_early : NotEarly waitMsec state.events) (now : Nat) :
    firstReading (state.checked now) = some start ∧ lastReading (state.checked now) = some now ∧
      NotEarly waitMsec (state.checked now) := by
  have no_signal : Event.sent 0 ≠ .sent sigkill := by decide
  have read_first : firstReading (state.checked now) = some start := by
    rw [LoopState.checked, append_assoc]
    exact firstReading_append first
  have read_last : lastReading (state.checked now) = some now := by
    unfold lastReading LoopState.checked
    rw [filterMap_append]
    exact getLast?_concat
  exact ⟨read_first, read_last, (not_early.concat no_signal).concat Event.noConfusion⟩

section

variable (watched : Watched env params.startTime0)

include watched

/-- A turn in which the function does not return keeps the invariant, and one in which it returns
leaves `SIGKILL` sent in time. -/
theorem Armed.turn (wait_pos : 0 < waitMsec)
    (le_max : start + waitMsec * 1000 ≤ params.maxWaitUntil) (armed : Armed start waitMsec state) :
    match turn env params state with
    | (true, next) => Escalated waitMsec next.events
    | (false, next) => Armed start waitMsec next := by
  have result := turn_result watched state
  generalize env.clock (state.turns + 1) = now at result
  generalize KillProcess.turn env params state = returned at result
  obtain ⟨first, last, not_early⟩ := checked_spec armed.first armed.notEarly now
  have kept : .sent sigkill ∈ state.events → .sent sigkill ∈ state.checked now := by
    intro sent
    exact mem_append_left _ (mem_append_left _ sent)
  cases result with
  | up _ _ unarmed events =>
    have sent : .sent sigkill ∈ state.events := by
      rcases armed.pending with pending | sent
      · omega
      · exact sent.2
    exact ⟨events ▸ kept sent, events ▸ not_early⟩
  | upKill _ time_up _ events =>
    have late : start + waitMsec * 1000 ≤ now := Nat.le_trans le_max time_up
    refine ⟨events ▸ mem_append_right _ (mem_singleton_self _), ?_⟩
    exact events ▸ not_early.concat_sigkill first last late
  | kill _ set late unarmed _ events =>
    have in_time : start + waitMsec * 1000 ≤ now := by
      rcases armed.pending with pending | sent
      · exact pending ▸ late
      · exact absurd sent.1 set
    have killed := not_early.concat_sigkill first last in_time
    constructor
    · rw [events, append_assoc]
      exact firstReading_append first
    · exact events ▸ killed.concat Event.noConfusion
    · refine Or.inr ⟨unarmed, ?_⟩
      rw [events]
      exact mem_append_left _ (mem_append_right _ (mem_singleton_self _))
  | sleep _ same _ events =>
    constructor
    · exact events ▸ firstReading_append first
    · exact events ▸ not_early.concat Event.noConfusion
    · rw [same]
      refine armed.pending.imp_right fun sent => ⟨sent.1, ?_⟩
      exact events ▸ mem_append_left _ (kept sent.2)

theorem Armed.loop (wait_pos : 0 < waitMsec)
    (le_max : start + waitMsec * 1000 ≤ params.maxWaitUntil) (fuel : Nat)
    (armed : Armed start waitMsec state) (returned : loop env params fuel state = some events) :
    Escalated waitMsec events := by
  induction fuel generalizing state with
  | zero => cases returned
  | succ fuel ih =>
    have turned := armed.turn watched wait_pos le_max
    rw [KillProcess.loop] at returned
    generalize KillProcess.turn env params state = next at turned returned
    match next, turned, returned with
    | (true, _), escalated, rfl => exact escalated
    | (false, _), armed, returned => exact ih armed returned

omit watched in
theorem checked_unsent (unsent : .sent sigkill ∉ state.events) (now : Nat) :
    .sent sigkill ∉ state.checked now := by
  have other : Event.sent sigkill ≠ .sent 0 := by decide
  simp [LoopState.checked, unsent, other]

/-- Without a time to send `SIGKILL`, it is not sent, and the function returns when the time is up. -/
theorem loop_unarmed (limited : params.maxWaitUntil ≠ 0) (distance : Nat)
    (unarmed : state.waitUntilSigkill = 0) (unsent : .sent sigkill ∉ state.events)
    (up : params.maxWaitUntil ≤ env.clock (state.turns + 1 + distance)) :
    ∃ fuel events, loop env params fuel state = some events ∧ .sent sigkill ∉ events := by
  induction distance generalizing state with
  | zero =>
    have result := turn_result watched state
    refine ⟨1, (turn env params state).2.events, ?_⟩
    rw [KillProcess.loop]
    generalize KillProcess.turn env params state = next at result
    cases result with
    | up _ _ _ events => exact ⟨rfl, events ▸ checked_unsent unsent _⟩
    | upKill _ _ armed => exact absurd unarmed armed
    | kill _ armed => exact absurd unarmed armed
    | sleep not_up => exact absurd ⟨limited, up⟩ not_up
  | succ distance ih =>
    have result := turn_result watched state
    generalize turned : KillProcess.turn env params state = next at result
    cases result with
    | up _ _ _ events =>
      refine ⟨1, _, ?_, events ▸ checked_unsent unsent _⟩
      rw [KillProcess.loop, turned]
    | upKill _ _ armed => exact absurd unarmed armed
    | kill _ armed => exact absurd unarmed armed
    | @sleep next usec _ same turns events =>
      have next_unsent : .sent sigkill ∉ next.events := by
        rw [events]
        simp [checked_unsent unsent]
      have next_up : params.maxWaitUntil ≤ env.clock (next.turns + 1 + distance) := by
        rw [turns, Nat.add_assoc (state.turns + 1), Nat.add_comm 1]
        exact up
      obtain ⟨fuel, done, returned, done_unsent⟩ :=
        ih (same.trans unarmed) next_unsent next_up
      refine ⟨fuel + 1, done, ?_, done_unsent⟩
      rw [KillProcess.loop, turned]
      exact returned

theorem loop_endless (never_up : ∀ look, 0 < look → env.clock look < params.maxWaitUntil)
    (fuel : Nat) (state : LoopState) : loop env params fuel state = none := by
  induction fuel generalizing state with
  | zero => rfl
  | succ fuel ih =>
    have result := turn_result watched state
    have not_up := never_up (state.turns + 1) (Nat.succ_pos _)
    rw [KillProcess.loop]
    generalize KillProcess.turn env params state = next at result
    cases result with
    | up _ time_up _ _ => omega
    | upKill _ time_up _ _ => omega
    | kill => exact ih _
    | sleep => exact ih _

end

theorem StaysAlive.watched {args : Args} (alive : StaysAlive env args) :
    Watched env (loopParams env args).startTime0 :=
  ⟨alive.present, alive.not_zombie, alive.reached⟩

theorem StaysAlive.killProcessSync {args : Args} (alive : StaysAlive env args) (fuel : Nat) :
    killProcessSync env args fuel = loop env (loopParams env args) fuel (loopStart env args) := by
  have meant : ¬ (args.startTime ≠ 0 ∧ args.startTime ≠ (env.process 0).1) := by
    rintro ⟨set, other⟩
    exact alive.meant.elim set other
  unfold KillProcess.killProcessSync
  dsimp only
  rw [if_neg (by have := alive.pid_pos; omega), if_neg alive.started, if_neg meant,
    if_neg (by rw [alive.not_zombie]; exact Bool.false_ne_true),
    if_neg (by rw [alive.reached]; exact Bool.false_ne_true)]

/-- The function escalates exactly if the time to send `SIGKILL`, taken as a number, is at most the
number of milliseconds to wait, or if the clock never comes to the end of the waiting, so that the
function does not return. -/
theorem escalates_iff {env : Env} {args : Args} (alive : StaysAlive env args)
    (not_sigkill : args.sig ≠ sigkill) (wait_pos : 0 < args.waitBeforeKillMsec)
    (wait_le : args.waitBeforeKillMsec ≤ args.maxWaitMsec) :
    Escalates env args ↔
      env.clock 0 + args.waitBeforeKillMsec * 1000 ≤ args.maxWaitMsec ∨
        ∀ look, 0 < look → env.clock look < env.clock 0 + args.maxWaitMsec * 1000 := by
  have max_pos : 0 < args.maxWaitMsec := Nat.lt_of_lt_of_le wait_pos wait_le
  have limit : (loopParams env args).maxWaitUntil = env.clock 0 + args.maxWaitMsec * 1000 :=
    if_pos max_pos
  have limited : (loopParams env args).maxWaitUntil ≠ 0 := by
    rw [limit]
    omega
  have signals : Event.sent args.sig ≠ .sent sigkill := fun same =>
    not_sigkill (Event.sent.inj same)
  have requested : args.sig ≠ sigkill ∧ args.waitBeforeKillMsec ≠ 0 :=
    ⟨not_sigkill, Nat.ne_of_gt wait_pos⟩
  unfold Escalates
  simp only [alive.killProcessSync]
  constructor
  · intro escalates
    by_contra neither
    obtain ⟨late, up⟩ := not_or.mp neither
    have unarmed : (loopStart env args).waitUntilSigkill = 0 := by
      unfold loopStart waitUntilSigkill
      rw [if_pos requested, if_pos ⟨max_pos, by omega, by omega⟩]
    have reached : ∃ distance, (loopParams env args).maxWaitUntil ≤
        env.clock ((loopStart env args).turns + 1 + distance) := by
      by_contra never
      apply up
      intro look look_pos
      have look_eq : (loopStart env args).turns + 1 + (look - 1) = look := by
        change 0 + 1 + (look - 1) = look
        omega
      have before := not_exists.mp never (look - 1)
      rw [look_eq, limit] at before
      omega
    obtain ⟨distance, up⟩ := reached
    have unsent : Event.sent sigkill ∉ (loopStart env args).events := by
      simp [loopStart, Ne.symm signals]
    obtain ⟨fuel, events, returned, events_unsent⟩ :=
      loop_unarmed alive.watched limited distance unarmed unsent up
    exact events_unsent (escalates fuel events returned).sent
  · rintro (early | never_up) fuel events returned
    · have pending : (loopStart env args).waitUntilSigkill =
          env.clock 0 + args.waitBeforeKillMsec * 1000 := by
        unfold loopStart waitUntilSigkill
        rw [if_pos requested, if_neg]
        omega
      have none_early : NotEarly args.waitBeforeKillMsec [] := by
        intro before after split
        simp at split
      have le_max : env.clock 0 + args.waitBeforeKillMsec * 1000 ≤
          (loopParams env args).maxWaitUntil := by
        rw [limit]
        omega
      exact Armed.loop alive.watched wait_pos le_max fuel
        ⟨rfl, (none_early.concat signals).concat Event.noConfusion, Or.inl pending⟩ returned
    · rw [loop_endless alive.watched (limit ▸ never_up)] at returned
      cases returned

/-- A process that does not go away, and a clock that goes on by a second with each reading. -/
def stubborn (start : Nat) : Env where
  clock := fun reading => start + reading * 1000000
  process := fun _ => (4711, 'S')
  kill := fun _ _ => none

/-- The signal `SIGTERM`, and half a second later `SIGKILL`. -/
def terminate (maxWaitMsec : Nat) : Args where
  pid := 1234
  startTime := 4711
  sig := 15
  waitBeforeKillMsec := 500
  sleepDurationMsec := 50
  maxWaitMsec := maxWaitMsec

theorem stubborn_staysAlive (start maxWaitMsec : Nat) :
    StaysAlive (stubborn start) (terminate maxWaitMsec) where
  pid_pos := (by decide : (0 : Int) < 1234)
  present := fun _ => rfl
  started := (by decide : 4711 ≠ 0)
  meant := Or.inr rfl
  not_zombie := fun _ => rfl
  reached := fun _ _ => rfl

/-- In the first second of the clock, a signal that may take half an hour is followed by
`SIGKILL`. -/
theorem escalates_at_boot : Escalates (stubborn 1000000) (terminate 1800000) :=
  (escalates_iff (stubborn_staysAlive _ _) (by decide) (by decide) (by decide)).mpr
    (Or.inl (by decide))

/-- An hour after the start of the clock, no `SIGKILL` is sent within two seconds. -/
theorem escalates_fails :
    ¬ ∀ (env : Env) (args : Args), (∀ first later, first ≤ later →
        env.clock first ≤ env.clock later) → StaysAlive env args → args.sig ≠ sigkill →
      0 < args.waitBeforeKillMsec → args.waitBeforeKillMsec ≤ args.maxWaitMsec →
        Escalates env args := by
  intro always
  have monotone : ∀ first later, first ≤ later →
      (stubborn 3600000000).clock first ≤ (stubborn 3600000000).clock later := by
    intro first later le
    exact Nat.add_le_add_left (Nat.mul_le_mul_right 1000000 le) 3600000000
  have escalates := always (stubborn 3600000000) (terminate 2000) monotone
    (stubborn_staysAlive _ _) (by decide) (by decide) (by decide)
  have returned : killProcessSync (stubborn 3600000000) (terminate 2000) 2 =
      some [.sent 15, .read 3600000000, .sent 0, .read 3601000000, .slept 500, .sent 0,
        .read 3602000000] := by decide
  have sent := (escalates 2 _ returned).sent
  exact absurd sent (by decide)

/-- How often `SIGKILL` was sent or is still to be sent. -/
def LoopState.sigkills (state : LoopState) : Nat :=
  state.events.count (.sent sigkill) + if state.waitUntilSigkill = 0 then 0 else 1

theorem sigkills_turn (env : Env) (params : Params) (state : LoopState) :
    match turn env params state with
    | (true, next) => next.events.count (.sent sigkill) ≤ state.sigkills
    | (false, next) => next.sigkills ≤ state.sigkills := by
  have slept : ∀ (state : LoopState) time, (state.sleep time).sigkills = state.sigkills := by
    intro state time
    unfold LoopState.sleep LoopState.sigkills
    split
    · simp
    · simp
  have other : Event.sent 0 ≠ .sent sigkill := by decide
  unfold turn LoopState.timeout
  dsimp only
  repeat' split
  all_goals grind [LoopState.sigkills, LoopState.send, count_append, count_singleton]

theorem sigkills_loop (fuel : Nat) (state : LoopState) :
    ((loop env params fuel state).getD []).count (.sent sigkill) ≤ state.sigkills := by
  induction fuel generalizing state with
  | zero => exact Nat.zero_le _
  | succ fuel ih =>
    have step := sigkills_turn env params state
    rw [loop]
    split
    · rename_i turn_eq
      rw [turn_eq] at step
      exact step
    · rename_i turn_eq
      rw [turn_eq] at step
      exact Nat.le_trans (ih _) step

/-- Whatever the process, the clock and the signals do, `SIGKILL` is sent at most once, and never if
the caller does not ask for it. -/
theorem killProcessSync_sigkills (env : Env) (args : Args) (fuel : Nat) :
    ((killProcessSync env args fuel).getD []).count (.sent sigkill) ≤
      if args.sig = sigkill ∨ args.waitBeforeKillMsec ≠ 0 then 1 else 0 := by
  have start : (loopStart env args).sigkills ≤
      if args.sig = sigkill ∨ args.waitBeforeKillMsec ≠ 0 then 1 else 0 := by
    unfold LoopState.sigkills loopStart waitUntilSigkill
    grind
  unfold killProcessSync
  grind [sigkills_loop]

end NetworkManager.KillProcess
