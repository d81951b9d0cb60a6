import Mathlib.Data.List.TakeWhile

/-!
# The file `resolv.conf`

The search domains stand in one line.  Older versions of glibc cut the line after 256 characters.
An entry that does not end before this limit is moved behind it, such that no entry is cut.
-/

namespace NetworkManager.Dns

open List

def bytesOf (text : String) : List UInt8 := text.toList.map Char.toUInt8

def space : UInt8 := 0x20

def newline : UInt8 := 0x0a

/-- The loop that fills the line up to the limit. -/
def fillLine (searchBaseIdx : Nat) (str : List UInt8) : List UInt8 :=
  if _short : str.length - searchBaseIdx < 257 then fillLine searchBaseIdx (str ++ [space])
  else str
  termination_by searchBaseIdx + 257 - str.length
  decreasing_by
    rw [List.length_append, List.length_singleton]
    omega

def isSkipped (s : List UInt8) : Bool :=
  s.length = 0 || s.any fun ch => ch = space || ch = 0x09 || ch = newline

/-- One turn of the loop over search domains in `create_resolv_conf`, on the text and the index
where the entries begin, which is zero after the limit. -/
def searchTurn (state : List UInt8 × Nat) (s : List UInt8) : List UInt8 × Nat :=
  if isSkipped s then state
  else
    let (str, searchBaseIdx) := state
    let (str, searchBaseIdx) :=
      if searchBaseIdx > 0 ∧ str.length - searchBaseIdx + 1 + s.length > 254 then
        (fillLine searchBaseIdx str, 0)
      else (str, searchBaseIdx)
    (str ++ [space] ++ s, searchBaseIdx)

/-- The part of `create_resolv_conf` after the search line. -/
def serversAndOptions (nameservers options : List (List UInt8)) : List UInt8 :=
  (nameservers.zipIdx.flatMap fun (nameserver, i) =>
    (if i = 3 then
      bytesOf "# NOTE: the libc resolver may not support more than 3 nameservers.\n" ++
        bytesOf "# The nameservers listed below may not be recognized.\n"
    else []) ++ bytesOf "nameserver " ++ nameserver ++ [newline]) ++
  if options = [] then []
  else bytesOf "options" ++ (options.flatMap fun option => space :: option) ++ [newline]

/-- `create_resolv_conf`. -/
def createResolvConf (searches nameservers options : List (List UInt8)) : List UInt8 :=
  let str := bytesOf "# Generated by NetworkManager\n"
  let str :=
    if searches = [] then str
    else
      let str := str ++ bytesOf "search"
      (searches.foldl searchTurn (str, str.length)).1 ++ [newline]
  str ++ serversAndOptions nameservers options

/-- The characters that separate words. -/
def isBlank (ch : UInt8) : Bool := ch = space || ch = 0x09

def wordsAt (offset : Nat) : List UInt8 → List (Nat × List UInt8)
  | [] => []
  | ch :: line =>
    if isBlank ch then wordsAt (offset + 1) line
    else
      let word := ch :: line.takeWhile (!isBlank ·)
      (offset, word) :: wordsAt (offset + word.length) (line.dropWhile (!isBlank ·))
  termination_by line => line.length
  decreasing_by
    · simp
    · have shorter := (List.dropWhile_sublist (l := line) (!isBlank ·)).length_le
      simp only [List.length_cons]
      omega

@[simp] theorem isBlank_space : isBlank space = true := rfl

theorem takeWhile_space (front back : List UInt8) :
    (front ++ space :: back).takeWhile (!isBlank ·) = front.takeWhile (!isBlank ·) := by
  induction front with
  | nil => simp
  | cons ch front ih => simp [takeWhile_cons, ih]

theorem dropWhile_space (front back : List UInt8) :
    (front ++ space :: back).dropWhile (!isBlank ·) =
      front.dropWhile (!isBlank ·) ++ space :: back := by
  induction front with
  | nil => simp
  | cons ch front ih =>
    rw [cons_append, dropWhile_cons, dropWhile_cons, ih]
    split <;> rfl

theorem wordsAt_space (front back : List UInt8) (offset : Nat) :
    wordsAt offset (front ++ space :: back) =
      wordsAt offset front ++ wordsAt (offset + front.length + 1) back := by
  fun_induction wordsAt offset front with
  | case1 offset => simp [wordsAt]
  | case2 offset ch line blank ih =>
    rw [cons_append, wordsAt, if_pos blank, ih, length_cons]
    congr 2
    omega
  | case3 offset ch line plain word ih =>
    have lengths := congrArg length
      (takeWhile_append_dropWhile (p := (!isBlank ·)) (l := line))
    rw [length_append] at lengths
    rw [cons_append, wordsAt, if_neg plain, takeWhile_space, dropWhile_space]
    refine congrArg ((offset, word) :: ·) (ih.trans ?_)
    congr 2
    simp only [word, length_cons]
    omega

theorem wordsAt_spaces (front : List UInt8) (offset count : Nat) :
    wordsAt offset (front ++ List.replicate count space) = wordsAt offset front := by
  induction count generalizing front with
  | zero => rw [replicate_zero, append_nil]
  | succ count ih =>
    rw [replicate_succ, ← singleton_append, ← append_assoc, ih, wordsAt_space]
    simp [wordsAt]

theorem wordsAt_word {word : List UInt8} (nonempty : word ≠ [])
    (plain : ∀ ch ∈ word, isBlank ch = false) (offset : Nat) :
    wordsAt offset word = [(offset, word)] := by
  rcases word with _ | ⟨ch, word⟩
  · exact absurd rfl nonempty
  · have rest : ∀ c ∈ word, (!isBlank c) = true := by
      intro c member
      rw [plain c (mem_cons_of_mem _ member)]
      rfl
    rw [wordsAt, if_neg (by simp [plain ch mem_cons_self])]
    simp [takeWhile_eq_self_iff.mpr rest, dropWhile_eq_nil_iff.mpr rest, wordsAt]

/-- A word stays away from the limit. -/
def Away (word : Nat × List UInt8) : Prop := word.1 + word.2.length ≤ 254 ∨ 257 < word.1

/-- The line keeps its entries whole and away from the limit. -/
structure Whole (line : List UInt8) (entries : List (List UInt8)) : Prop where
  single : newline ∉ line
  words : (wordsAt 0 line).map Prod.snd = entries
  away : ∀ word ∈ wordsAt 0 line, Away word
  cut : ∀ limit, 254 ≤ limit → limit ≤ 257 → wordsAt 0 (line.take limit) <+: wordsAt 0 line

/-- What holds after every turn.  The index is zero as soon as the line has passed the limit. -/
def Turned (head : List UInt8) (state : List UInt8 × Nat) (entries : List (List UInt8)) : Prop :=
  ∃ line, state.1 = head ++ line ∧ Whole line entries ∧
    (state.2 = head.length ∧ line.length ≤ 254 ∨ state.2 = 0 ∧ 257 ≤ line.length)

variable {entries : List (List UInt8)}

theorem Whole.entry {line s : List UInt8} (whole : Whole line entries) (kept : isSkipped s = false)
    (room : line.length + 1 + s.length ≤ 254 ∨ 257 ≤ line.length) :
    Whole (line ++ space :: s) (entries ++ [s]) := by
  simp only [isSkipped, Bool.or_eq_false_iff, decide_eq_false_iff_not, length_eq_zero_iff,
    any_eq_false, Bool.or_eq_true, decide_eq_true_eq, not_or] at kept
  have plain : ∀ ch ∈ s, isBlank ch = false := by
    intro ch member
    simp [isBlank, kept.2 ch member]
  have words : wordsAt 0 (line ++ space :: s) = wordsAt 0 line ++ [(line.length + 1, s)] := by
    rw [wordsAt_space, wordsAt_word kept.1 plain, Nat.zero_add]
  refine ⟨?_, ?_, ?_, ?_⟩
  · have free : newline ∉ s := fun member => (kept.2 _ member).2 rfl
    simpa [newline, space] using ⟨whole.single, free⟩
  · rw [words, map_append, whole.words]
    rfl
  · rw [words]
    intro word member
    rcases mem_append.mp member with old | new
    · exact whole.away word old
    · obtain rfl := mem_singleton.mp new
      rcases room with short | passed
      · exact .inl short
      · exact .inr (Nat.lt_succ_of_le passed)
  · intro limit low high
    rcases room with short | passed
    · exact prefix_iff_eq_append.mpr (by
        rw [take_of_length_le (by simp; omega), drop_length, append_nil])
    · rw [take_append_of_le_length (high.trans passed), words]
      exact (whole.cut limit low high).trans (prefix_append _ _)

theorem fillLine_eq (head line : List UInt8) :
    fillLine head.length (head ++ line) =
      head ++ (line ++ List.replicate (257 - line.length) space) := by
  obtain ⟨missing, count⟩ : ∃ n, n = 257 - line.length := ⟨_, rfl⟩
  induction missing generalizing line with
  | zero =>
    rw [fillLine, dif_neg (by simp; omega), ← count]
    simp
  | succ missing ih =>
    rw [fillLine, dif_pos (by simp; omega), append_assoc, ih _ (by simp; omega), ← count]
    have less : 257 - (line ++ [space]).length = missing := by simp; omega
    rw [less, append_assoc, singleton_append, ← replicate_succ]

theorem Whole.filled {line : List UInt8} (whole : Whole line entries) (short : line.length ≤ 254)
    (count : Nat) :
    Whole (line ++ List.replicate count space) entries := by
  refine ⟨?_, ?_, ?_, ?_⟩
  · simpa [newline, space] using whole.single
  · rw [wordsAt_spaces, whole.words]
  · rw [wordsAt_spaces]
    exact whole.away
  · intro limit low _
    have same : wordsAt 0 ((line ++ replicate count space).take limit) =
        wordsAt 0 (line ++ replicate count space) := by
      rw [take_append, take_of_length_le (short.trans low), take_replicate,
        wordsAt_spaces, wordsAt_spaces]
    exact same.symm ▸ prefix_rfl

theorem searchTurn_turned {head : List UInt8} {state : List UInt8 × Nat} (nonempty : head ≠ [])
    (turned : Turned head state entries) (s : List UInt8) :
    Turned head (searchTurn state s) (entries ++ [s].filter (!isSkipped ·)) := by
  have positive := length_pos_iff.mpr nonempty
  obtain ⟨str, searchBaseIdx⟩ := state
  obtain ⟨line, rfl, whole, place⟩ := turned
  cases skipped : isSkipped s with
  | true => exact ⟨line, by simp [searchTurn, skipped], by simpa [skipped] using whole,
      by simpa [searchTurn, skipped] using place⟩
  | false =>
    simp only [searchTurn, skipped, Bool.false_eq_true, if_false, filter_cons, Bool.not_false,
      if_true, filter_nil]
    rcases place with ⟨rfl, short⟩ | ⟨rfl, passed⟩
    · simp only [length_append, Nat.add_sub_cancel_left]
      by_cases crosses : head.length > 0 ∧ line.length + 1 + s.length > 254
      · rw [if_pos crosses, fillLine_eq]
        have far : 257 ≤ (line ++ replicate (257 - line.length) space).length := by
          simp
          omega
        refine ⟨_, ?_, (whole.filled short (257 - line.length)).entry skipped (.inr far),
          .inr ⟨rfl, ?_⟩⟩
        · simp
        · rw [length_append]
          omega
      · rw [if_neg crosses]
        have room : line.length + 1 + s.length ≤ 254 := by omega
        refine ⟨_, ?_, whole.entry skipped (.inl room), .inl ⟨rfl, ?_⟩⟩
        · simp
        · simp
          omega
    · rw [if_neg (by simp)]
      refine ⟨_, ?_, whole.entry skipped (.inr passed), .inr ⟨rfl, ?_⟩⟩
      · simp
      · simp
        omega

theorem searchTurn_foldl {head : List UInt8} (nonempty : head ≠ []) (searches : List (List UInt8))
    {state : List UInt8 × Nat} (turned : Turned head state entries) :
    Turned head (searches.foldl searchTurn state)
      (entries ++ searches.filter (!isSkipped ·)) := by
  induction searches generalizing state entries with
  | nil => simpa using turned
  | cons s searches ih =>
    have next := ih (searchTurn_turned nonempty turned s)
    rwa [append_assoc, ← filter_append] at next

/-- The words of the search line are the entries without blanks, in order, and none of them lies
across the limit.  A cut there leaves whole entries. -/
theorem createResolvConf_search (searches nameservers options : List (List UInt8)) :
    ∃ line rest,
      createResolvConf searches nameservers options =
        bytesOf "# Generated by NetworkManager\n" ++
          (if searches = [] then [] else bytesOf "search" ++ line ++ [newline]) ++ rest ∧
      Whole line (searches.filter (!isSkipped ·)) := by
  have start : Whole [] [] := ⟨by simp, by simp [wordsAt], by simp [wordsAt], by simp⟩
  by_cases none : searches = []
  · subst none
    exact ⟨[], serversAndOptions nameservers options, by simp [createResolvConf], start⟩
  · obtain ⟨head, start_eq⟩ : ∃ head, head =
        bytesOf "# Generated by NetworkManager\n" ++ bytesOf "search" := ⟨_, rfl⟩
    have begun : Turned head (head, head.length) [] :=
      ⟨[], (append_nil _).symm, start, .inl ⟨rfl, Nat.zero_le _⟩⟩
    obtain ⟨line, text, whole, -⟩ :=
      searchTurn_foldl (start_eq ▸ by decide) searches begun
    refine ⟨line, serversAndOptions nameservers options, ?_, whole⟩
    simp only [createResolvConf, if_neg none, ← start_eq, text]
    simp only [start_eq, append_assoc]

end NetworkManager.Dns
