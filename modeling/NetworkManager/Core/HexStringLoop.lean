import NetworkManager.Core.HexString

/-!
# The loop that reads hexadecimal digits

Every turn of the loop reads one or two digits, writes a byte, and looks at the character behind.
What the loop reads depends on what it knows about delimiters: pairs, a delimited text, or a text of
either kind.
-/

namespace NetworkManager.HexString

open Ascii List Sriov

section Loop

variable {delimiterRequired : Bool} {delimiterCandidates : List Char} {bufferLen : UInt64}

/-- The end of a turn, at the character behind a byte. -/
def nextTurn (delimiterRequired : Bool) (delimiterCandidates : List Char) (d2 : Char)
    (rest : List Char) (bufferLen : UInt64) (delimiters : Delimiters) (out : List UInt8) :
    Bool × List UInt8 :=
  match afterByte delimiterRequired delimiterCandidates bufferLen delimiters d2 with
  | none => (false, out)
  | some (delimiters, true) =>
    hexstr2binLoop delimiterRequired delimiterCandidates rest (bufferLen - 1) delimiters out
  | some (delimiters, false) =>
    hexstr2binLoop delimiterRequired delimiterCandidates (d2 :: rest) (bufferLen - 1)
      delimiters out

section Turn

variable {d2 : Char} {rest : List Char} {out : List UInt8}

theorem nextTurn_full (full : bufferLen - 1 = 0) (delimiters : Delimiters) :
    nextTurn delimiterRequired delimiterCandidates d2 rest bufferLen delimiters out =
      (false, out) := by
  have refused : afterByte delimiterRequired delimiterCandidates bufferLen delimiters d2 = none :=
    if_pos full
  unfold nextTurn
  rw [refused]

theorem nextTurn_hasNot (more : bufferLen - 1 ≠ 0) :
    nextTurn delimiterRequired delimiterCandidates d2 rest bufferLen .hasNot out =
      hexstr2binLoop delimiterRequired delimiterCandidates (d2 :: rest) (bufferLen - 1) .hasNot
        out := by
  unfold nextTurn afterByte
  rw [if_neg more]

theorem nextTurn_has (more : bufferLen - 1 ≠ 0) (delimiter : Char) :
    nextTurn delimiterRequired delimiterCandidates d2 rest bufferLen (.has delimiter) out =
      if d2 = delimiter then
        hexstr2binLoop delimiterRequired delimiterCandidates rest (bufferLen - 1)
          (.has delimiter) out
      else (false, out) := by
  unfold nextTurn afterByte
  rw [if_neg more]
  dsimp only
  by_cases same : d2 = delimiter
  · rw [if_pos same, if_neg (not_not_intro same)]
  · rw [if_neg same, if_pos same]

theorem nextTurn_unknown (more : bufferLen - 1 ≠ 0) :
    nextTurn delimiterRequired delimiterCandidates d2 rest bufferLen .unknown out =
      if d2 ∈ delimiterCandidates then
        hexstr2binLoop delimiterRequired delimiterCandidates rest (bufferLen - 1) (.has d2) out
      else if delimiterRequired then (false, out)
      else
        hexstr2binLoop delimiterRequired delimiterCandidates (d2 :: rest) (bufferLen - 1) .hasNot
          out := by
  unfold nextTurn afterByte
  rw [if_neg more]
  dsimp only
  by_cases candidate : d2 ∈ delimiterCandidates
  · rw [if_pos candidate, if_pos candidate]
  · rw [if_neg candidate, if_neg candidate]
    cases delimiterRequired with
    | true => rfl
    | false => rfl

end Turn

theorem loop_no_digit {d1 : Char} (no_digit : hexcharToInt d1 = none) (rest : List Char)
    (delimiters : Delimiters) (out : List UInt8) :
    hexstr2binLoop delimiterRequired delimiterCandidates (d1 :: rest) bufferLen delimiters out =
      (false, out) := by
  cases rest with
  | nil => simp [hexstr2binLoop, no_digit]
  | cons d2 rest => simp [hexstr2binLoop, no_digit]

theorem loop_last_single {d1 : Char} {i1 : Nat} (digit : hexcharToInt d1 = some i1)
    (delimiters : Delimiters) (out : List UInt8) :
    hexstr2binLoop delimiterRequired delimiterCandidates [d1] bufferLen delimiters out =
      (decide (delimiters ≠ .hasNot), out ++ [UInt8.ofNat i1]) := by
  simp [hexstr2binLoop, digit]

theorem loop_last_pair {d1 d2 : Char} {i1 i2 : Nat} (first : hexcharToInt d1 = some i1)
    (second : hexcharToInt d2 = some i2) (delimiters : Delimiters) (out : List UInt8) :
    hexstr2binLoop delimiterRequired delimiterCandidates [d1, d2] bufferLen delimiters out =
      (true, out ++ [UInt8.ofNat (i1 * 16 + i2)]) := by
  simp [hexstr2binLoop, first, second]

theorem loop_single {d1 d2 : Char} {i1 : Nat} (digit : hexcharToInt d1 = some i1)
    (no_digit : hexcharToInt d2 = none) (rest : List Char) (delimiters : Delimiters)
    (out : List UInt8) :
    hexstr2binLoop delimiterRequired delimiterCandidates (d1 :: d2 :: rest) bufferLen delimiters
        out =
      nextTurn delimiterRequired delimiterCandidates d2 rest bufferLen delimiters
        (out ++ [UInt8.ofNat i1]) := by
  rw [hexstr2binLoop, digit, no_digit]
  rfl

theorem loop_pair {d1 d2 : Char} {i1 i2 : Nat} (first : hexcharToInt d1 = some i1)
    (second : hexcharToInt d2 = some i2) (d3 : Char) (rest : List Char)
    (delimiters : Delimiters) (out : List UInt8) :
    hexstr2binLoop delimiterRequired delimiterCandidates (d1 :: d2 :: d3 :: rest) bufferLen
        delimiters out =
      nextTurn delimiterRequired delimiterCandidates d3 rest bufferLen delimiters
        (out ++ [UInt8.ofNat (i1 * 16 + i2)]) := by
  rw [hexstr2binLoop, first, second]
  rfl

/-- The loop takes one or two digits in each turn, and then perhaps a delimiter. -/
@[elab_as_elim]
theorem text_induction {motive : List Char → Prop} (nil : motive [])
    (no_digit : ∀ d1 rest, hexcharToInt d1 = none → motive (d1 :: rest))
    (last_single : ∀ d1 i1, hexcharToInt d1 = some i1 → motive [d1])
    (last_pair : ∀ d1 d2 i1 i2, hexcharToInt d1 = some i1 → hexcharToInt d2 = some i2 →
      motive [d1, d2])
    (single : ∀ d1 d2 rest i1, hexcharToInt d1 = some i1 → hexcharToInt d2 = none →
      motive rest → motive (d2 :: rest) → motive (d1 :: d2 :: rest))
    (pair : ∀ d1 d2 d3 rest i1 i2, hexcharToInt d1 = some i1 → hexcharToInt d2 = some i2 →
      motive rest → motive (d3 :: rest) → motive (d1 :: d2 :: d3 :: rest)) :
    ∀ text, motive text
  | [] => nil
  | [d1] => by
      cases first : hexcharToInt d1 with
      | none => exact no_digit d1 [] first
      | some i1 => exact last_single d1 i1 first
  | d1 :: d2 :: rest => by
      cases first : hexcharToInt d1 with
      | none => exact no_digit d1 (d2 :: rest) first
      | some i1 =>
        cases second : hexcharToInt d2 with
        | none =>
          exact single d1 d2 rest i1 first second
            (text_induction nil no_digit last_single last_pair single pair rest)
            (no_digit d2 rest second)
        | some i2 =>
          cases rest with
          | nil => exact last_pair d1 d2 i1 i2 first second
          | cons d3 rest =>
            exact pair d1 d2 d3 rest i1 i2 first second
              (text_induction nil no_digit last_single last_pair single pair rest)
              (text_induction nil no_digit last_single last_pair single pair (d3 :: rest))

theorem toNat_pred (room : 0 < bufferLen) : (bufferLen - 1).toNat = bufferLen.toNat - 1 := by
  have one_le : 1 ≤ bufferLen.toNat := UInt64.lt_iff_toNat_lt.mp room
  rw [UInt64.toNat_sub_of_le bufferLen 1 (UInt64.le_iff_toNat_le.mpr one_le)]
  rfl

theorem pred_eq_zero_iff (room : 0 < bufferLen) : bufferLen - 1 = 0 ↔ bufferLen.toNat = 1 := by
  have one_le : 1 ≤ bufferLen.toNat := UInt64.lt_iff_toNat_lt.mp room
  rw [← UInt64.toNat_inj, toNat_pred room, UInt64.toNat_zero]
  omega

theorem pred_pos (more : bufferLen - 1 ≠ 0) : 0 < bufferLen - 1 := by
  rw [UInt64.lt_iff_toNat_lt, UInt64.toNat_zero]
  exact Nat.pos_of_ne_zero fun zero => more (UInt64.toNat_inj.mp zero)

theorem false_ne {left right : List UInt8} : (false, left) ≠ (true, right) :=
  fun equal => Bool.false_ne_true (Prod.mk.inj equal).1

/-- The bytes that a text stands for are appended, and they fit in the room. -/
def Appends (IsText : List UInt8 → Prop) (room : Nat) (out result : List UInt8) : Prop :=
  ∃ bytes, result = out ++ bytes ∧ IsText bytes ∧ bytes.length ≤ room

variable {room : Nat}

theorem appends_congr {P Q : List UInt8 → Prop} (same : ∀ bytes, P bytes ↔ Q bytes)
    {out result : List UInt8} : Appends P room out result ↔ Appends Q room out result :=
  exists_congr fun bytes => and_congr_right' (and_congr_left' (same bytes))

variable {P : List UInt8 → Prop}

theorem appends_false (never : ∀ bytes, ¬ P bytes) {out result : List UInt8} :
    ¬ Appends P room out result := by
  rintro ⟨bytes, -, is_text, -⟩
  exact never bytes is_text

theorem appends_and {condition : Prop} {out result : List UInt8} :
    condition ∧ Appends P room out result ↔
      Appends (fun bytes => condition ∧ P bytes) room out result := by
  constructor
  · rintro ⟨holds, bytes, equal, is_text, fits⟩
    exact ⟨bytes, equal, ⟨holds, is_text⟩, fits⟩
  · rintro ⟨bytes, equal, ⟨holds, is_text⟩, fits⟩
    exact ⟨holds, bytes, equal, is_text, fits⟩

theorem appends_last {byte : UInt8} (one_le : 1 ≤ room) {out result : List UInt8} :
    Appends (· = [byte]) room out result ↔ out ++ [byte] = result := by
  constructor
  · rintro ⟨_, rfl, rfl, -⟩
    rfl
  · rintro rfl
    exact ⟨[byte], rfl, rfl, one_le⟩

theorem appends_cons {byte : UInt8} (one_le : 1 ≤ room) {out result : List UInt8} :
    Appends (fun bytes => ∃ others, bytes = byte :: others ∧ P others) room out result ↔
      Appends P (room - 1) (out ++ [byte]) result := by
  constructor
  · rintro ⟨_, rfl, ⟨others, rfl, is_text⟩, fits⟩
    rw [length_cons] at fits
    exact ⟨others, by rw [append_assoc, singleton_append], is_text, by omega⟩
  · rintro ⟨others, rfl, is_text, fits⟩
    refine ⟨byte :: others, ?_, ⟨others, rfl, is_text⟩, ?_⟩
    · rw [append_assoc, singleton_append]
    · rw [length_cons]
      omega

variable (text : List Char)

theorem nextTurn_iff (more : ∀ bytes, P bytes → 0 < bytes.length) {d2 : Char} {rest : List Char}
    {delimiters : Delimiters} {out result : List UInt8} (room : 0 < bufferLen)
    (turn : bufferLen - 1 ≠ 0 →
      (nextTurn delimiterRequired delimiterCandidates d2 rest bufferLen delimiters out =
          (true, result) ↔ Appends P (bufferLen - 1).toNat out result)) :
    nextTurn delimiterRequired delimiterCandidates d2 rest bufferLen delimiters out =
        (true, result) ↔ Appends P (bufferLen.toNat - 1) out result := by
  by_cases full : bufferLen - 1 = 0
  · rw [nextTurn_full full, (pred_eq_zero_iff room).mp full]
    refine iff_of_false (fun equal => absurd (Prod.mk.inj equal).1 Bool.false_ne_true) ?_
    rintro ⟨bytes, -, is_text, fits⟩
    have := more bytes is_text
    omega
  · rw [turn full, toNat_pred room]

theorem loop_hasNot_iff (out result : List UInt8) (room : 0 < bufferLen) :
    hexstr2binLoop delimiterRequired delimiterCandidates text bufferLen .hasNot out =
      (true, result) ↔ Appends (Pairs text) bufferLen.toNat out result := by
  induction text using text_induction generalizing bufferLen out with
  | nil =>
    refine iff_of_false false_ne (appends_false fun bytes pairs => ?_)
    cases pairs
  | no_digit d1 rest no_digit =>
    rw [loop_no_digit no_digit]
    exact iff_of_false false_ne (appends_false fun bytes => not_pairs_of_first no_digit)
  | last_single d1 i1 digit =>
    rw [loop_last_single digit]
    refine iff_of_false false_ne (appends_false fun bytes pairs => ?_)
    cases pairs
  | last_pair d1 d2 i1 i2 first second =>
    rw [loop_last_pair first second, appends_congr fun bytes => pairs_last_iff first second,
      appends_last (UInt64.lt_iff_toNat_lt.mp room), Prod.mk.injEq, and_iff_right rfl]
  | single d1 d2 rest i1 digit no_digit behind here =>
    rw [loop_single digit no_digit]
    refine iff_of_false ?_ (appends_false fun bytes => not_pairs_of_second no_digit)
    -- The loop goes on with a character that is no digit.
    by_cases full : bufferLen - 1 = 0
    · rw [nextTurn_full full]
      exact false_ne
    · rw [nextTurn_hasNot full, loop_no_digit no_digit]
      exact false_ne
  | pair d1 d2 d3 rest i1 i2 first second behind here =>
    rw [loop_pair first second, appends_congr fun bytes => pairs_cons_iff first second,
      appends_cons (UInt64.lt_iff_toNat_lt.mp room)]
    refine nextTurn_iff (fun bytes pairs => pairs.length_pos) room fun full => ?_
    rw [nextTurn_hasNot full, here _ (pred_pos full)]

/-- Once there is a delimiter, the loop expects it behind every byte but the last. -/
theorem loop_has_iff (delimiter : Char) (text : List Char) (out result : List UInt8)
    (room : 0 < bufferLen) :
    hexstr2binLoop delimiterRequired delimiterCandidates text bufferLen (.has delimiter) out =
      (true, result) ↔ Appends (Delimited delimiter text) bufferLen.toNat out result := by
  -- The turn is the same whether the byte had one digit or two.
  have next {d2 : Char} {rest : List Char} {bufferLen : UInt64} {out : List UInt8}
      (room : 0 < bufferLen)
      (behind : ∀ {bufferLen} out, 0 < bufferLen →
        (hexstr2binLoop delimiterRequired delimiterCandidates rest bufferLen (.has delimiter)
          out = (true, result) ↔ Appends (Delimited delimiter rest) bufferLen.toNat out result)) :
      nextTurn delimiterRequired delimiterCandidates d2 rest bufferLen (.has delimiter) out =
          (true, result) ↔
        d2 = delimiter ∧ Appends (Delimited delimiter rest) (bufferLen.toNat - 1) out result := by
    by_cases same : d2 = delimiter
    · rw [and_iff_right same]
      refine nextTurn_iff (fun bytes delimited => delimited.length_pos) room fun full => ?_
      rw [nextTurn_has full, if_pos same, behind _ (pred_pos full)]
    · refine iff_of_false ?_ fun both => same both.1
      by_cases full : bufferLen - 1 = 0
      · rw [nextTurn_full full]
        exact false_ne
      · rw [nextTurn_has full, if_neg same]
        exact false_ne
  induction text using text_induction generalizing bufferLen out with
  | nil =>
    refine iff_of_false false_ne (appends_false fun bytes delimited => ?_)
    cases delimited
  | no_digit d1 rest no_digit =>
    rw [loop_no_digit no_digit]
    exact iff_of_false false_ne (appends_false fun bytes => not_delimited_of_first no_digit)
  | last_single d1 i1 digit =>
    rw [loop_last_single digit, appends_congr fun bytes => delimited_lastSingle_iff digit,
      appends_last (UInt64.lt_iff_toNat_lt.mp room), Prod.mk.injEq]
    exact and_iff_right (decide_eq_true nofun)
  | last_pair d1 d2 i1 i2 first second =>
    rw [loop_last_pair first second, appends_congr fun bytes => delimited_lastPair_iff first second,
      appends_last (UInt64.lt_iff_toNat_lt.mp room), Prod.mk.injEq, and_iff_right rfl]
  | single d1 d2 rest i1 digit no_digit behind here =>
    rw [loop_single digit no_digit, next room behind,
      ← appends_cons (UInt64.lt_iff_toNat_lt.mp room),
      appends_congr fun bytes => delimited_single_iff digit no_digit]
    exact appends_and
  | pair d1 d2 d3 rest i1 i2 first second behind here =>
    rw [loop_pair first second, next room behind,
      ← appends_cons (UInt64.lt_iff_toNat_lt.mp room),
      appends_congr fun bytes => delimited_pair_iff first second]
    exact appends_and

theorem loop_unknown_iff (out result : List UInt8) (room : 0 < bufferLen) :
    hexstr2binLoop delimiterRequired delimiterCandidates text bufferLen .unknown out =
        (true, result) ↔
      Appends (HexText delimiterRequired delimiterCandidates text) bufferLen.toNat out result := by
  have one_le : 1 ≤ bufferLen.toNat := UInt64.lt_iff_toNat_lt.mp room
  induction text using text_induction with
  | nil => exact iff_of_false false_ne (appends_false fun bytes => not_hexText_nil)
  | no_digit d1 rest no_digit =>
    rw [loop_no_digit no_digit]
    exact iff_of_false false_ne (appends_false fun bytes => not_hexText_of_first no_digit)
  | last_single d1 i1 digit =>
    rw [loop_last_single digit, appends_congr fun bytes => hexText_lastSingle_iff digit,
      appends_last one_le, Prod.mk.injEq]
    exact and_iff_right (decide_eq_true nofun)
  | last_pair d1 d2 i1 i2 first second =>
    rw [loop_last_pair first second, appends_congr fun bytes => hexText_lastPair_iff first second,
      appends_last one_le, Prod.mk.injEq, and_iff_right rfl]
  | single d1 d2 rest i1 digit no_digit _ _ =>
    rw [loop_single digit no_digit, appends_congr fun bytes => hexText_single_iff digit no_digit,
      ← appends_and, appends_cons one_le]
    by_cases candidate : d2 ∈ delimiterCandidates
    · rw [and_iff_right candidate]
      refine nextTurn_iff (fun bytes delimited => delimited.length_pos) room fun full => ?_
      rw [nextTurn_unknown full, if_pos candidate,
        loop_has_iff d2 rest _ result (pred_pos full)]
    · refine iff_of_false ?_ fun both => candidate both.1
      by_cases full : bufferLen - 1 = 0
      · rw [nextTurn_full full]
        exact false_ne
      · -- If no delimiter is required, the next turn fails: no pair follows.
        rw [nextTurn_unknown full, if_neg candidate, loop_no_digit no_digit, ite_self]
        exact false_ne
  | pair d1 d2 d3 rest i1 i2 first second _ _ =>
    rw [loop_pair first second, appends_congr fun bytes => hexText_pair_iff first second,
      appends_cons one_le]
    by_cases candidate : d3 ∈ delimiterCandidates
    · simp only [if_pos candidate]
      refine nextTurn_iff (fun bytes delimited => delimited.length_pos) room fun full => ?_
      rw [nextTurn_unknown full, if_pos candidate,
        loop_has_iff d3 rest _ result (pred_pos full)]
    · simp only [if_neg candidate]
      rw [← appends_and]
      cases delimiterRequired with
      | true =>
        refine iff_of_false ?_ fun both => Bool.false_ne_true both.1.symm
        by_cases full : bufferLen - 1 = 0
        · rw [nextTurn_full full]
          exact false_ne
        · rw [nextTurn_unknown full, if_neg candidate, if_pos rfl]
          exact false_ne
      | false =>
        rw [and_iff_right rfl]
        refine nextTurn_iff (fun bytes pairs => pairs.length_pos) room fun full => ?_
        rw [nextTurn_unknown full, if_neg candidate, if_neg Bool.false_ne_true,
          loop_hasNot_iff (d3 :: rest) _ result (pred_pos full)]

end Loop

end NetworkManager.HexString
