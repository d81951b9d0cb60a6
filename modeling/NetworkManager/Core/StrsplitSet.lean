import NetworkManager.Core.EscapedTokens
import NetworkManager.Library.EscapeMarks

/-!
# Splitting at delimiters

A text is split in two passes.  The first one counts the tokens in the text itself, and looks back
for backslashes at each delimiter.  The second one works in a copy, where it skips what a backslash
protects, ends each token with a zero byte and stores where the token begins.  The tokens are then
stripped and unescaped in place.
-/

namespace NetworkManager.StrsplitSet

open Ascii EscapeMarks EscapedTokens

/-- A text without a zero byte inside. -/
abbrev CText := { text : List Char // '\x00' ∉ text }

/-- `NMUtilsStrsplitSetFlags`. -/
structure StrsplitSetFlags where
  preserveEmpty : Bool := false
  allowEscaping : Bool := false
  strstrip : Bool := false
  escaped : Bool := false
  deriving DecidableEq, Repr

/-- `f_allow_escaping`. -/
def StrsplitSetFlags.fAllowEscaping (flags : StrsplitSetFlags) : Bool :=
  flags.escaped || flags.allowEscaping

/-- What `nm_utils_strsplit_set_full` does: it stores behind the end of the array, it returns
`NULL`, or it returns tokens. -/
inductive SplitResult where
  | overrun
  | null
  | strv (tokens : List (List Char))
  deriving DecidableEq, Repr

/-- The loop that counts tokens.  The characters in front of `c_str` are given with the last one
first. -/
def countTokens (flags : StrsplitSetFlags) (delimiters : List Char) (before : List Char) :
    List Char → Nat → Nat
  | [], numTokens => numTokens
  | c :: str, numTokens =>
    if c ∉ delimiters then countTokens flags delimiters (c :: before) str numTokens
    else if flags.fAllowEscaping ∧ charIsEscaped before then
      countTokens flags delimiters (c :: before) str numTokens
    else if flags.preserveEmpty then
      countTokens flags delimiters (c :: before) str (numTokens + 1)
    else
      let skipped := str.takeWhile (· ∈ delimiters)
      let next := str.dropWhile (· ∈ delimiters)
      if next = [] then numTokens
      else countTokens flags delimiters (skipped.reverse ++ c :: before) next (numTokens + 1)
  termination_by str => str.length
  decreasing_by
    all_goals simp only [List.length_cons]
    all_goals first
      | exact Nat.lt_succ_self _
      | exact Nat.lt_succ_of_le (List.dropWhile_suffix _).length_le

/-- The loop that looks for the end of a token: the characters it passes, and those that are
left. -/
def spanToken (flags : StrsplitSetFlags) (delimiters : List Char) :
    List Char → List Char × List Char
  | [] => ([], [])
  | c :: str =>
    if c ∈ delimiters then ([], c :: str)
    else if c = '\\' ∧ flags.fAllowEscaping then
      match str with
      | [] => ([c], [])
      | next :: str =>
        let (passed, left) := spanToken flags delimiters str
        (c :: next :: passed, left)
    else
      let (passed, left) := spanToken flags delimiters str
      (c :: passed, left)

theorem length_spanToken_le (flags : StrsplitSetFlags) (delimiters str : List Char) :
    (spanToken flags delimiters str).2.length ≤ str.length := by
  fun_induction spanToken flags delimiters str <;> simp_all <;> omega

/-- The loop that stores where the tokens begin, with the copy in front of `s`, the copy from `s`
on, and the array.  There is no result if the array has no room. -/
def splitTokens (flags : StrsplitSetFlags) (delimiters : List Char) (numTokens : Nat)
    (front copy : List Char) (ptr : List Nat) : Option (List Char × List Nat) :=
  if ptr.length ≥ numTokens then none
  else
    let ptr := ptr ++ [front.length]
    if copy = [] then some (front, ptr)
    else
      match _span : spanToken flags delimiters copy with
      | (passed, []) => some (front ++ passed, ptr)
      | (passed, _ :: left) =>
        let front := front ++ passed ++ ['\x00']
        if flags.preserveEmpty then splitTokens flags delimiters numTokens front left ptr
        else
          let skipped := left.takeWhile (· ∈ delimiters)
          let next := left.dropWhile (· ∈ delimiters)
          if next = [] then some (front ++ skipped, ptr)
          else splitTokens flags delimiters numTokens (front ++ skipped) next ptr
  termination_by copy.length
  decreasing_by
    all_goals
      have le := length_spanToken_le flags delimiters copy
      rw [_span] at le
    · exact le
    · exact Nat.lt_of_le_of_lt (List.dropWhile_suffix _).length_le le

def textAt (copy : List Char) (place : Nat) : List Char :=
  (copy.drop place).takeWhile (· ≠ '\x00')

/-- The loop that clears the blanks at the end of a token.  The last character comes first. -/
def clearTrailing (flags : StrsplitSetFlags) : List Char → List Char
  | [] => []
  | c :: before =>
    if before ≠ [] ∧ isSpace c ∧ (!flags.fAllowEscaping ∨ !charIsEscaped before) then
      clearTrailing flags before
    else c :: before

section

variable (flags : StrsplitSetFlags)

/-- What is left of a token with `NM_UTILS_STRSPLIT_SET_FLAGS_STRSTRIP`. -/
def stripped (token : List Char) : List Char :=
  (clearTrailing flags (skipLeadingSpaces token).reverse).reverse

/-- The loop that strips the tokens, and leaves out the empty ones. -/
def stripTokens (flags : StrsplitSetFlags) : List (List Char) → List (List Char)
  | [] => []
  | token :: tokens =>
    if !flags.preserveEmpty ∧ stripped flags token = [] then stripTokens flags tokens
    else stripped flags token :: stripTokens flags tokens

/-- The lookup table for unescaping. -/
def unescapes (delimiters : List Char) (c : Char) : Bool :=
  c ∈ delimiters ∨ c = '\\' ∨ flags.strstrip ∧ c ∈ asciiSpaces

/-- The loop that removes the backslashes in front of characters of the lookup table. -/
def unescapeToken (lookup : Char → Bool) : List Char → List Char
  | [] => []
  | [c] => [c]
  | c :: next :: token =>
    if c = '\\' ∧ lookup next then next :: unescapeToken lookup token
    else c :: unescapeToken lookup (next :: token)

/-- The delimiters, or the default ones for `NULL`. -/
def delimitersOf (delimiters : Option CText) : List Char :=
  (delimiters.map Subtype.val).getD [' ', '\t', '\n']

/-- The text that is split: no text for `NULL` and `""`. -/
def textToSplit (delimiters : List Char) (str : Option CText) : List Char :=
  let str := (str.map Subtype.val).getD []
  if flags.preserveEmpty then str else str.dropWhile (· ∈ delimiters)

/-- `nm_utils_strsplit_set_full`. -/
def strsplitSetFull (str delimiters : Option CText) (flags : StrsplitSetFlags) : SplitResult :=
  let delimiters := delimitersOf delimiters
  let str := textToSplit flags delimiters str
  if str = [] then .null
  else
    let numTokens := countTokens flags delimiters [] str 1
    match splitTokens flags delimiters numTokens [] str [] with
    | none => .overrun
    | some (copy, ptr) =>
      let tokens := ptr.map (textAt copy)
      let tokens := if flags.strstrip then stripTokens flags tokens else tokens
      if flags.strstrip ∧ tokens = [] then .null
      else if flags.escaped then
        .strv (tokens.map (unescapeToken (unescapes flags delimiters)))
      else .strv tokens

def isEscape (c : Char) : Bool := flags.fAllowEscaping && c = '\\'

/-- The tokens of a text: it is split at the delimiters that are not escaped, the tokens are
stripped, empty ones are dropped, and the backslashes of special characters are removed, each as the
flags ask for it. -/
def tokensOf (delimiters str : List Char) : List (List Char) :=
  if str = [] then []
  else
    let tokens := pieces (· ∈ delimiters) (isEscape flags) false str
    let tokens := if flags.strstrip then tokens.map (trim isSpace) else tokens
    let tokens := tokens.filter fun token => flags.preserveEmpty ∨ token ≠ []
    if flags.escaped then tokens.map (unescape (unescapes flags delimiters))
    else tokens.map (·.map Prod.fst)

end

/-- The result with given tokens, which is `NULL` if there are none. -/
def SplitResult.ofTokens (tokens : List (List Char)) : SplitResult :=
  if tokens = [] then .null else .strv tokens

end NetworkManager.StrsplitSet
