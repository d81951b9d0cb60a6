import Mathlib.Data.List.TakeWhile
import NetworkManager.Core.Bytes

/-!
# Quoting of shell variables

The files of the ifcfg-rh plugin are read by a shell as well.  `svEscape` quotes a value in one of
three ways, and `svUnescape` understands what a shell understands, as far as there is no expansion.
A C string is the list of its bytes, without the terminating zero.
-/

namespace NetworkManager.Shvar

open Bytes

/-- `g_ascii_isspace`, which does not count the vertical tab. -/
def isSpace (b : UInt8) : Bool := b ∈ [space, tab, newline, 0x0c, 0x0d]

/-- The control characters that `_escape_ansic` writes with a letter. -/
def escapeLetters : List (UInt8 × UInt8) :=
  [(0x08, 'b'.toUInt8), (0x0c, 'f'.toUInt8), (newline, 'n'.toUInt8), (0x0d, 'r'.toUInt8),
    (tab, 't'.toUInt8), (0x0b, 'v'.toUInt8)]

/-- The octal digit of a `char` at a bit position.  Shifting a negative number right rounds down. -/
def octalDigit (value : Int) (shift : Nat) : UInt8 :=
  '0'.toUInt8 + UInt8.ofNat ((value >>> shift) % 8).toNat

/-- What the loop of `_escape_ansic` writes for a byte. -/
def escapeAnsicByte (sign : CharSign) (b : UInt8) : List UInt8 :=
  match escapeLetters.lookup b with
  | some letter => [backslash, letter]
  | none =>
    if b ∈ [backslash, doubleQuote, singleQuote] then [backslash, b]
    else if sign.charValue b < 0x20 ∨ 0o177 ≤ sign.charValue b then
      [backslash, octalDigit (sign.charValue b) 6, octalDigit (sign.charValue b) 3,
        octalDigit (sign.charValue b) 0]
    else [b]

/-- `_escape_ansic`. -/
def escapeAnsic (sign : CharSign) (source : List UInt8) : List UInt8 :=
  dollar :: singleQuote :: (source.flatMap (escapeAnsicByte sign) ++ [singleQuote])

/-- `_char_req_escape`. -/
def charReqEscape (b : UInt8) : Bool := b ∈ [doubleQuote, backslash, dollar, backquote]

/-- `_char_req_escape_old`. -/
def charReqEscapeOld (b : UInt8) : Bool :=
  b ∈ [doubleQuote, backslash, singleQuote, dollar, backquote, tilde]

/-- `_char_req_quotes`. -/
def charReqQuotes (b : UInt8) : Bool :=
  b ∈ [space, singleQuote, tilde, tab, '|'.toUInt8, '&'.toUInt8, semicolon, '('.toUInt8,
    ')'.toUInt8, '<'.toUInt8, '>'.toUInt8]

/-- The first loop of `svEscape`: how many bytes must be escaped and whether quotes are required,
or nothing if there is a control character. -/
def svEscapeScan (sign : CharSign) : List UInt8 → Nat → Bool → Option (Nat × Bool)
  | [], mangle, requiresQuotes => some (mangle, requiresQuotes)
  | b :: s, mangle, requiresQuotes =>
    if charReqEscape b then svEscapeScan sign s (mangle + 1) requiresQuotes
    else if charReqQuotes b then svEscapeScan sign s mangle true
    else if sign.charValue b < 0x20 then none
    else svEscapeScan sign s mangle requiresQuotes

/-- What the second loop of `svEscape` writes for a byte. -/
def escapeQuotedByte (b : UInt8) : List UInt8 := if charReqEscape b then [backslash, b] else [b]

/-- `svEscape`. -/
def svEscape (sign : CharSign) (s : List UInt8) : List UInt8 :=
  match svEscapeScan sign s 0 false with
  | none => escapeAnsic sign s
  | some (mangle, requiresQuotes) =>
    if mangle = 0 ∧ requiresQuotes = false then s
    else doubleQuote :: (s.flatMap escapeQuotedByte ++ [doubleQuote])

/-- The loop of `_looks_like_old_svescaped`, after the first quote. -/
def looksLikeOldLoop : List UInt8 → Bool
  | [] => false
  | b :: value =>
    if !charReqEscapeOld b then looksLikeOldLoop value
    else if b = doubleQuote then value.isEmpty
    else if b = backslash then
      match value with
      | [] => false
      | c :: value => charReqEscapeOld c && looksLikeOldLoop value
    else false

/-- `_looks_like_old_svescaped`. -/
def looksLikeOldSvescaped : List UInt8 → Bool
  | [] => false
  | b :: value => b == doubleQuote && looksLikeOldLoop value

/-- `_ch_octal_is`. -/
def chOctalIs (b : UInt8) : Bool := 0x30 ≤ b && b < 0x38

/-- `_ch_octal_get`. -/
def chOctalGet (b : UInt8) : Nat := b.toNat - 0x30

/-- `_ch_hex_is`. -/
def chHexIs (b : UInt8) : Bool :=
  (0x30 ≤ b && b ≤ 0x39) || (0x41 ≤ b && b ≤ 0x46) || (0x61 ≤ b && b ≤ 0x66)

/-- `_ch_hex_get`. -/
def chHexGet (b : UInt8) : Nat :=
  if b ≤ 0x39 then b.toNat - 0x30 else (b &&& 0x4f).toNat - 0x41 + 10

/-- A bounded number of digits at the front of a text, and the text after them. -/
def digitRun (isDigit : UInt8 → Bool) : Nat → List UInt8 → List UInt8 × List UInt8
  | 0, text => ([], text)
  | _ + 1, [] => ([], [])
  | n + 1, b :: text =>
    if isDigit b then
      let (digits, after) := digitRun isDigit n text
      (b :: digits, after)
    else ([], b :: text)

/-- The bytes that `g_string_append_unichar` appends. -/
def unicharBytes (wc : Nat) : List UInt8 :=
  let continuation (shift : Nat) : UInt8 := UInt8.ofNat ((wc >>> shift) % 64 + 0x80)
  if wc < 0x80 then [UInt8.ofNat wc]
  else if wc < 0x800 then [UInt8.ofNat (wc >>> 6) ||| 0xc0, continuation 0]
  else if wc < 0x10000 then [UInt8.ofNat (wc >>> 12) ||| 0xe0, continuation 6, continuation 0]
  else if wc < 0x200000 then
    [UInt8.ofNat (wc >>> 18) ||| 0xf0, continuation 12, continuation 6, continuation 0]
  else if wc < 0x4000000 then
    [UInt8.ofNat (wc >>> 24) ||| 0xf8, continuation 18, continuation 12, continuation 6,
      continuation 0]
  else
    [UInt8.ofNat (wc >>> 30) ||| 0xfc, continuation 24, continuation 18, continuation 12,
      continuation 6, continuation 0]

/-- The letters and marks after a backslash in ANSI-C quotes that stand for one byte. -/
def unescapeLetters : List (UInt8 × UInt8) :=
  [('a'.toUInt8, 0x07), ('b'.toUInt8, 0x08), ('e'.toUInt8, 0x1b), ('E'.toUInt8, 0x1b),
    ('f'.toUInt8, 0x0c), ('n'.toUInt8, newline), ('r'.toUInt8, 0x0d), ('t'.toUInt8, tab),
    ('v'.toUInt8, 0x0b), ('?'.toUInt8, '?'.toUInt8), (doubleQuote, doubleQuote),
    (backslash, backslash), (singleQuote, singleQuote)]

/-- A hexadecimal escape in ANSI-C quotes, after its letter.  Without digits, it is no escape. -/
def hexEscape (c : UInt8) (maxDigits : Nat) (text : List UInt8) : List UInt8 × List UInt8 :=
  let (digits, after) := digitRun chHexIs maxDigits text
  let v := digits.foldl (fun v digit => v * 16 + chHexGet digit) 0
  if digits.isEmpty then ([backslash, c], text)
  else if c = 'x'.toUInt8 then ([UInt8.ofNat v], after)
  else (unicharBytes v, after)

/-- An escape in ANSI-C quotes: what is appended for the byte after the backslash and the text that
follows, and where the text continues. -/
def ansicEscape (c : UInt8) (text : List UInt8) : List UInt8 × List UInt8 :=
  match unescapeLetters.lookup c with
  | some ch => ([ch], text)
  | none =>
    if chOctalIs c then
      let (digits, after) := digitRun chOctalIs 2 text
      -- Like bash, too large numbers are cut off.
      ([UInt8.ofNat ((c :: digits).foldl (fun v digit => v * 8 + chOctalGet digit) 0)], after)
    else if c ∈ ['x'.toUInt8, 'u'.toUInt8, 'U'.toUInt8] then
      hexEscape c (if c = 'x'.toUInt8 then 2 else if c = 'u'.toUInt8 then 4 else 8) text
    else ([backslash, c], text)

/-- What is appended in front of what the rest of the quotes appends. -/
def prepend (out : List UInt8) :
    Option (List UInt8 × List UInt8) → Option (List UInt8 × List UInt8) :=
  Option.map fun (content, after) => (out ++ content, after)

def singleQuotes : List UInt8 → Option (List UInt8 × List UInt8)
  | [] => none
  | b :: text => if b = singleQuote then some ([], text) else prepend [b] (singleQuotes text)

/-- What a backslash and the byte after it stand for in double quotes.  Old versions of `svEscape`
escaped two characters that a shell does not take as escaped. -/
def doubleQuotesEscape (old : Bool) (c : UInt8) : List UInt8 :=
  if c ∈ [dollar, backquote, doubleQuote, backslash] then [c]
  else if c ∈ [singleQuote, tilde] then if old then [c] else [backslash, c]
  else [backslash, c]

def doubleQuotes (old : Bool) : List UInt8 → Option (List UInt8 × List UInt8)
  | [] => none
  | b :: text =>
    if b = doubleQuote then some ([], text)
    else if b ∈ [backquote, dollar] then none
    else if b = backslash then
      match text with
      | [] => none
      | c :: text => prepend (doubleQuotesEscape old c) (doubleQuotes old text)
    else prepend [b] (doubleQuotes old text)

theorem length_digitRun (isDigit : UInt8 → Bool) (n : Nat) (text : List UInt8) :
    (digitRun isDigit n text).2.length ≤ text.length := by
  induction n generalizing text with
  | zero => exact le_rfl
  | succ n ih =>
    cases text with
    | nil => exact le_rfl
    | cons b text =>
      unfold digitRun
      split
      · exact (ih text).trans (Nat.le_succ _)
      · exact le_rfl

theorem length_hexEscape (c : UInt8) (maxDigits : Nat) (text : List UInt8) :
    (hexEscape c maxDigits text).2.length ≤ text.length := by
  unfold hexEscape
  dsimp only
  split
  · exact le_rfl
  · split
    · exact length_digitRun chHexIs maxDigits text
    · exact length_digitRun chHexIs maxDigits text

theorem length_ansicEscape (c : UInt8) (text : List UInt8) :
    (ansicEscape c text).2.length ≤ text.length := by
  unfold ansicEscape
  split
  · exact le_rfl
  · split
    · exact length_digitRun chOctalIs 2 text
    · split
      · exact length_hexEscape c _ text
      · exact le_rfl

def ansicQuotes : List UInt8 → Option (List UInt8 × List UInt8)
  | [] => none
  | b :: text =>
    if b = singleQuote then some ([], text)
    else if b = backslash then
      match text with
      | [] => none
      | c :: text => prepend (ansicEscape c text).1 (ansicQuotes (ansicEscape c text).2)
    else prepend [b] (ansicQuotes text)
termination_by text => text.length
decreasing_by
  · have shorter := length_ansicEscape c text
    simp only [List.length_cons]
    omega
  · exact Nat.lt_succ_self _

theorem length_prepend {out text after : List UInt8} {scanned : Option (List UInt8 × List UInt8)}
    (shorter : ∀ content, scanned = some (content, after) → after.length ≤ text.length)
    {content : List UInt8} (found : prepend out scanned = some (content, after)) :
    after.length ≤ text.length := by
  obtain ⟨⟨rest, _⟩, inner, equal⟩ := Option.map_eq_some_iff.mp found
  obtain ⟨-, rfl⟩ := Prod.mk.inj equal
  exact shorter rest inner

theorem length_singleQuotes (text : List UInt8) (content after : List UInt8)
    (found : singleQuotes text = some (content, after)) : after.length ≤ text.length := by
  induction text generalizing content with
  | nil => cases found
  | cons b text ih =>
    unfold singleQuotes at found
    split at found
    · obtain ⟨-, rfl⟩ := Prod.mk.inj (Option.some.inj found)
      exact Nat.le_succ _
    · exact (length_prepend ih found).trans (Nat.le_succ _)

theorem length_doubleQuotes (old : Bool) (text : List UInt8) (content after : List UInt8)
    (found : doubleQuotes old text = some (content, after)) : after.length ≤ text.length := by
  fun_induction doubleQuotes old text generalizing content with
  | case1 => cases found
  | case2 text =>
    obtain ⟨-, rfl⟩ := Prod.mk.inj (Option.some.inj found)
    exact Nat.le_succ _
  | case3 => cases found
  | case4 => cases found
  | case5 c text _ _ ih =>
    exact (length_prepend ih found).trans ((Nat.le_succ _).trans (Nat.le_succ _))
  | case6 b text _ _ _ ih => exact (length_prepend ih found).trans (Nat.le_succ _)

theorem length_ansicQuotes (text : List UInt8) (content after : List UInt8)
    (found : ansicQuotes text = some (content, after)) : after.length ≤ text.length := by
  fun_induction ansicQuotes text generalizing content with
  | case1 => cases found
  | case2 text =>
    obtain ⟨-, rfl⟩ := Prod.mk.inj (Option.some.inj found)
    exact Nat.le_succ _
  | case3 => cases found
  | case4 c text _ ih =>
    exact (length_prepend ih found).trans
      ((length_ansicEscape c text).trans ((Nat.le_succ _).trans (Nat.le_succ _)))
  | case5 b text _ _ ih => exact (length_prepend ih found).trans (Nat.le_succ _)

/-- Whether nothing but space, at most one semicolon and a comment follows. -/
def onlyTrailing : Bool → List UInt8 → Bool
  | _, [] => true
  | hasSemicolon, b :: text =>
    if isSpace b then onlyTrailing hasSemicolon text
    else if !hasSemicolon && b == semicolon then onlyTrailing true text
    else b == hash

/-- The part of a value in front of the text that remains. -/
def consumed (value text : List UInt8) : List UInt8 := value.take (value.length - text.length)

/-- `_gstr_init`: the buffer is allocated when it is needed for the first time, with what was
consumed so far. -/
def gstrInit (str : Option (List UInt8)) (value text : List UInt8) : List UInt8 :=
  str.getD (consumed value text)

/-- What `svUnescape` returns at `out_value`, as a C string. -/
def outValue (value : List UInt8) (str : Option (List UInt8)) (text : List UInt8) : List UInt8 :=
  if consumed value text = [] then []
  else
    match str with
    | some str => str.takeWhile (· ≠ 0)
    | none => consumed value text

/-- The loop of `svUnescape`, at the text that remains. -/
def svUnescapeLoop (value : List UInt8) (str : Option (List UInt8)) :
    List UInt8 → Option (List UInt8)
  | [] => some (outValue value str [])
  | b :: text =>
    if isSpace b || b == semicolon then
      if onlyTrailing (b == semicolon) text then some (outValue value str (b :: text)) else none
    else if b = backslash then
      match text with
      | [] => none
      | c :: rest =>
        svUnescapeLoop value (some (gstrInit str value (b :: text) ++ [c])) rest
    else if b = singleQuote then
      match _quoted : singleQuotes text with
      | none => none
      | some (content, after) =>
        svUnescapeLoop value (some (gstrInit str value (b :: text) ++ content)) after
    else if b = doubleQuote then
      match _quoted : doubleQuotes (looksLikeOldSvescaped value) text with
      | none => none
      | some (content, after) =>
        svUnescapeLoop value (some (gstrInit str value (b :: text) ++ content)) after
    else if b = dollar ∧ text.head? = some singleQuote then
      match _quoted : ansicQuotes text.tail with
      | none => none
      | some (content, after) =>
        svUnescapeLoop value (some (gstrInit str value (b :: text) ++ content)) after
    else if b ∈ ['|'.toUInt8, '&'.toUInt8, '('.toUInt8, ')'.toUInt8, '<'.toUInt8,
        '>'.toUInt8] then none
    else svUnescapeLoop value (str.map (· ++ [b])) text
termination_by text => text.length
decreasing_by
  · simp only [List.length_cons]
    omega
  · exact Nat.lt_succ_of_le (length_singleQuotes _ _ _ _quoted)
  · exact Nat.lt_succ_of_le (length_doubleQuotes _ _ _ _ _quoted)
  · refine Nat.lt_succ_of_le ((length_ansicQuotes _ _ _ _quoted).trans ?_)
    rw [List.length_tail]
    exact Nat.sub_le _ _
  · exact Nat.lt_succ_self _

/-- `svUnescape`.  A value that is not understood gives nothing. -/
def svUnescape (value : List UInt8) : Option (List UInt8) := svUnescapeLoop value none value

end NetworkManager.Shvar
