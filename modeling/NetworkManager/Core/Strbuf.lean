import Mathlib.Data.List.Basic

/-!
# Appending to a buffer of fixed size

The functions `nm_utils_strbuf_append_c`, `nm_utils_strbuf_append_bin` and
`nm_utils_strbuf_append_str` move a pointer into a buffer forward and count what is left.  A write
that leaves the buffer has no result.
-/

namespace NetworkManager.Strbuf

open List Option

/-- A buffer, the place of the pointer in it and the remaining length. -/
structure Buffer where
  mem : List UInt8
  buf : Nat
  len : Nat
  deriving DecidableEq

/-- Copies bytes into memory, if they stay in it. -/
def memcpy (mem : List UInt8) (dst : Nat) (bytes : List UInt8) : Option (List UInt8) :=
  if dst + bytes.length ≤ mem.length then
    some (mem.take dst ++ (bytes ++ mem.drop (dst + bytes.length)))
  else none

/-- `g_strlcpy`: truncates the text to the size and returns its full length. -/
def strlcpy (mem : List UInt8) (dst : Nat) (str : List UInt8) (size : Nat) :
    Option (List UInt8 × Nat) := do
  let mem ← memcpy mem dst (str.take (size - 1))
  let mem ← memcpy mem (dst + (str.take (size - 1)).length) [0]
  return (mem, str.length)

section

variable (state : Buffer)

def appendC (c : UInt8) : Option Buffer :=
  match state.len with
  | 0 => some state
  | 1 => do
    let mem ← memcpy state.mem state.buf [0]
    return { mem := mem, buf := state.buf + 1, len := 0 }
  | _ + 2 => do
    let mem ← memcpy state.mem state.buf [c]
    let mem ← memcpy mem (state.buf + 1) [0]
    return { mem := mem, buf := state.buf + 1, len := state.len - 1 }

def terminate : Option Buffer := do
  let mem ← memcpy state.mem state.buf [0]
  return { state with mem := mem }

def appendBin (str : List UInt8) : Option Buffer :=
  match state.len with
  | 0 => some state
  | 1 =>
    if str.length = 0 then terminate state
    else do
      let mem ← memcpy state.mem state.buf [0]
      return { mem := mem, buf := state.buf + 1, len := 0 }
  | _ + 2 =>
    if str.length = 0 then terminate state
    else if state.len ≤ str.length then do
      let mem ← memcpy state.mem state.buf (str.take (state.len - 1))
      let mem ← memcpy mem (state.buf + (state.len - 1)) [0]
      return { mem := mem, buf := state.buf + state.len, len := 0 }
    else do
      let mem ← memcpy state.mem state.buf str
      let mem ← memcpy mem (state.buf + str.length) [0]
      return { mem := mem, buf := state.buf + str.length, len := state.len - str.length }

/-- The text may be `NULL`. -/
def appendStr (str : Option (List UInt8)) : Option Buffer :=
  match state.len with
  | 0 => some state
  | 1 =>
    if str.getD [] = [] then terminate state
    else do
      let mem ← memcpy state.mem state.buf [0]
      return { mem := mem, buf := state.buf + 1, len := 0 }
  | _ + 2 =>
    if str.getD [] = [] then terminate state
    else do
      let (mem, srcLen) ← strlcpy state.mem state.buf (str.getD []) state.len
      if state.len ≤ srcLen then return { mem := mem, buf := state.buf + state.len, len := 0 }
      else return { mem := mem, buf := state.buf + srcLen, len := state.len - srcLen }

/-- Appends as many bytes as there is room for and terminates the buffer. -/
def appendBytes (bytes : List UInt8) : Option Buffer :=
  if state.len = 0 then some state
  else do
    let mem ← memcpy state.mem state.buf (bytes.take (state.len - 1))
    let mem ← memcpy mem (state.buf + (bytes.take (state.len - 1)).length) [0]
    return {
      mem := mem
      buf := state.buf + min bytes.length state.len
      len := state.len - bytes.length }

end

/-- If nothing fits, only the terminator is written. -/
theorem appendBytes_nothing {state : Buffer} {bytes : List UInt8} (room : state.len ≠ 0)
    (nothing : bytes.take (state.len - 1) = []) :
    appendBytes state bytes = do
      let mem ← memcpy state.mem state.buf [0]
      return {
        mem := mem
        buf := state.buf + min bytes.length state.len
        len := state.len - bytes.length } := by
  rw [appendBytes, if_neg room, nothing]
  unfold memcpy
  by_cases inside : state.buf ≤ state.mem.length
  · simp [inside]
  · have outside : ¬ state.buf + 1 ≤ state.mem.length := by omega
    simp [inside, outside]

theorem appendC_eq (state : Buffer) (c : UInt8) : appendC state c = appendBytes state [c] := by
  obtain ⟨mem, buf, len⟩ := state
  rcases len with _ | _ | len
  · rfl
  · rw [appendBytes_nothing (by simp) rfl]
    rfl
  · simp [appendC, appendBytes]

theorem terminate_eq (state : Buffer) (room : state.len ≠ 0) :
    terminate state = appendBytes state [] := by
  rw [appendBytes_nothing room take_nil]
  simp [terminate]

theorem appendBin_eq (state : Buffer) (str : List UInt8) :
    appendBin state str = appendBytes state str := by
  obtain ⟨mem, buf, len⟩ := state
  by_cases empty : str = []
  · subst empty
    rcases len with _ | _ | len
    · rfl
    · exact terminate_eq _ (by simp)
    · exact terminate_eq _ (by simp)
  have positive := length_pos_iff.mpr empty
  rcases len with _ | _ | len
  · rfl
  · rw [show appendBytes ⟨mem, buf, 1⟩ str = _ from appendBytes_nothing (by simp) take_zero]
    have len_eq : min str.length 1 = 1 := by omega
    have left : 1 - str.length = 0 := by omega
    simp [appendBin, empty, len_eq, left]
  by_cases long : len + 2 ≤ str.length
  · have whole : (str.take (len + 1)).length = len + 1 := by
      rw [length_take]
      omega
    simp [appendBin, appendBytes, empty, long, whole]
  · have all : str.take (len + 1) = str := take_of_length_le (by omega)
    have fits : min str.length (len + 2) = str.length := by omega
    simp [appendBin, appendBytes, empty, long, all, fits]

theorem appendStr_eq (state : Buffer) (str : Option (List UInt8)) :
    appendStr state str = appendBytes state (str.getD []) := by
  rw [← appendBin_eq]
  obtain ⟨mem, buf, len⟩ := state
  by_cases empty : str.getD [] = []
  · rcases len with _ | _ | len <;> simp [appendStr, appendBin, empty]
  rcases len with _ | _ | len
  · rfl
  · simp [appendStr, appendBin, empty]
  by_cases long : len + 1 < (str.getD []).length
  · have whole : ((str.getD []).take (len + 1)).length = len + 1 := by
      rw [length_take]
      omega
    simp [appendStr, appendBin, strlcpy, empty, Nat.add_one_le_iff, long, whole, bind_assoc]
  · have all : (str.getD []).take (len + 1) = str.getD [] := take_of_length_le (by omega)
    simp [appendStr, appendBin, strlcpy, empty, Nat.add_one_le_iff, long, all, bind_assoc]

theorem memcpy_append (front bytes rest : List UInt8) (room : bytes.length ≤ rest.length) :
    memcpy (front ++ rest) front.length bytes
      = some (front ++ (bytes ++ rest.drop bytes.length)) := by
  rw [memcpy, if_pos (by rw [length_append]; omega), take_left, drop_append]
  simp

/-- After some bytes were appended: what fits of them, a last byte, and the untouched rest.  The
last byte is the terminator at the latest when the buffer is full. -/
structure Holds (init data : List UInt8) (last : UInt8) (state : Buffer) : Prop where
  buf_eq : state.buf = min data.length init.length
  len_eq : state.len = init.length - data.length
  mem_length : state.mem.length = init.length
  mem_eq : 0 < init.length →
    state.mem = data.take (init.length - 1) ++ last :: init.drop (data.length + 1)
  full : init.length ≤ data.length → last = 0

variable {init data : List UInt8} {last : UInt8} {state : Buffer}

theorem appendBytes_holds (holds : Holds init data last state) (bytes : List UInt8) :
    ∃ after, appendBytes state bytes = some after ∧ Holds init (data ++ bytes) 0 after := by
  by_cases no_room : state.len = 0
  · have long : init.length ≤ data.length := by
      have := holds.len_eq
      omega
    refine ⟨state, if_pos no_room, ?_, ?_, holds.mem_length, fun nonempty => ?_, fun _ => rfl⟩
    · rw [holds.buf_eq, length_append]
      omega
    · rw [holds.len_eq, length_append]
      omega
    · rw [holds.mem_eq nonempty, holds.full long, take_append_of_le_length (by omega),
        drop_eq_nil_of_le (by omega), drop_eq_nil_of_le (by simp; omega)]
  · have room : data.length < init.length := by
      have := holds.len_eq
      omega
    have mem_eq : state.mem = data ++ last :: init.drop (data.length + 1) := by
      rw [holds.mem_eq (by omega), take_of_length_le (by omega)]
    have buf_eq : state.buf = data.length := by
      rw [holds.buf_eq]
      omega
    have len_eq := holds.len_eq
    obtain ⟨kept, kept_eq⟩ : ∃ kept, kept = bytes.take (state.len - 1) := ⟨_, rfl⟩
    have kept_length : kept.length = min (state.len - 1) bytes.length := by
      rw [kept_eq, length_take]
    have copied := memcpy_append data kept (last :: init.drop (data.length + 1)) (by simp; omega)
    have terminated := memcpy_append (data ++ kept) [0]
      ((last :: init.drop (data.length + 1)).drop kept.length) (by simp; omega)
    rw [append_assoc, length_append] at terminated
    have steps : appendBytes state bytes = some {
        mem := data ++ kept ++ ([0] ++ ((last :: init.drop (data.length + 1)).drop kept.length).drop 1)
        buf := data.length + min bytes.length state.len
        len := state.len - bytes.length } := by
      rw [appendBytes, if_neg no_room, ← kept_eq, mem_eq, buf_eq, copied]
      dsimp only [bind_eq_bind, bind_some]
      rw [terminated]
      rfl
    refine ⟨_, steps, ?_, ?_, ?_, fun nonempty => ?_, fun _ => rfl⟩
    · simp only [length_append]
      omega
    · simp only [length_append]
      omega
    · simp
      omega
    · have fits : (data ++ bytes).take (init.length - 1) = data ++ kept := by
        rw [take_append, take_of_length_le (by omega), kept_eq]
        congr 2
        omega
      have rest : ((last :: init.drop (data.length + 1)).drop kept.length).drop 1
          = init.drop ((data ++ bytes).length + 1) := by
        rw [drop_drop, drop_succ_cons, drop_drop, length_append]
        by_cases room_left : bytes.length ≤ state.len - 1
        · congr 1
          omega
        · rw [drop_eq_nil_of_le (by omega), drop_eq_nil_of_le (by omega)]
      dsimp only
      rw [fits, rest]
      rfl

/-- A call of one of the functions. -/
inductive Call where
  | char (c : UInt8)
  | bin (str : List UInt8)
  | text (str : Option (List UInt8))

def Call.bytes : Call → List UInt8
  | .char c => [c]
  | .bin str => str
  | .text str => str.getD []

def Call.run (state : Buffer) : Call → Option Buffer
  | .char c => appendC state c
  | .bin str => appendBin state str
  | .text str => appendStr state str

theorem run_eq (state : Buffer) (call : Call) : call.run state = appendBytes state call.bytes := by
  cases call with
  | char c => exact appendC_eq state c
  | bin str => exact appendBin_eq state str
  | text str => exact appendStr_eq state str

def run (state : Buffer) (calls : List Call) : Option Buffer := calls.foldlM Call.run state

def appended (calls : List Call) : List UInt8 := calls.flatMap Call.bytes

/-- The pointer at the beginning of a buffer. -/
def start (init : List UInt8) : Buffer := ⟨init, 0, init.length⟩

theorem start_holds (init : List UInt8) : ∃ last, Holds init [] last (start init) := by
  cases init with
  | nil => exact ⟨0, rfl, rfl, rfl, fun nonempty => absurd nonempty (by simp), fun _ => rfl⟩
  | cons first rest =>
    exact ⟨first, by simp [start], rfl, rfl, fun _ => by simp [start], fun full => by simp at full⟩

theorem run_holds (holds : Holds init data last state) (calls : List Call) :
    ∃ after last', run state calls = some after ∧
      Holds init (data ++ appended calls) last' after ∧ (last = 0 ∨ calls ≠ [] → last' = 0) := by
  induction calls generalizing data last state with
  | nil => exact ⟨state, last, rfl, by simpa [appended] using holds, by simp⟩
  | cons call calls ih =>
    obtain ⟨next, step, next_holds⟩ := appendBytes_holds holds call.bytes
    obtain ⟨after, last', rest, after_holds, zero⟩ := ih next_holds
    refine ⟨after, last', ?_, ?_, fun _ => zero (.inl rfl)⟩
    · rw [run, foldlM_cons, run_eq, step]
      exact rest
    · rw [appended, flatMap_cons, ← append_assoc]
      exact after_holds

/-- No calls do nothing.  After at least one, the buffer has what fits of the bytes, a terminator
and its old end. -/
theorem run_spec (init : List UInt8) (calls : List Call) :
    ∃ after, run (start init) calls = some after ∧ (calls = [] → after.mem = init) ∧
      (calls ≠ [] → 0 < init.length → after.mem
        = (appended calls).take (init.length - 1) ++ 0 :: init.drop ((appended calls).length + 1)) ∧
      after.mem.length = init.length ∧
      after.len = init.length - (appended calls).length ∧
      after.buf = min (appended calls).length init.length := by
  obtain ⟨last, holds⟩ := start_holds init
  obtain ⟨after, last', ran, after_holds, zero⟩ := run_holds holds calls
  refine ⟨after, ran, ?_, ?_, after_holds.mem_length, after_holds.len_eq, after_holds.buf_eq⟩
  · rintro rfl
    cases ran
    rfl
  · intro called nonempty
    rw [after_holds.mem_eq nonempty, zero (.inr called)]
    rfl

/-- Before the first call the buffer may have no terminator. -/
theorem run_nothing_fails : ∃ after, run (start [65]) [] = some after ∧ 0 ∉ after.mem :=
  ⟨start [65], rfl, by decide⟩

end NetworkManager.Strbuf
