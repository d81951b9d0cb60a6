import NetworkManager.Core.Ascii
import NetworkManager.Ifcfg.Escape

/-!
# Files of shell variables

A `shvarFile` keeps the lines of an ifcfg file.  A line that assigns a variable can be set anew and
can be marked as deleted; all other lines are carried along.  The name of the file, its descriptor
and the errors of reading and writing are left out: a file is opened from the text that was read,
and it is written to a text.
-/

namespace NetworkManager.Shvar

open Bytes

/-- `shvarLine`. -/
inductive ShvarLine where
  /-- The line is no assignment of a variable. -/
  | other (line : List UInt8)
  /-- The line assigns a variable.  The text in front of the sign of equality, `key_with_prefix`, is
  white space and the key.  A line that was deleted has no value. -/
  | assignment (indent key : List UInt8) (line : Option (List UInt8))
  deriving DecidableEq

namespace ShvarLine

/-- The member `key`. -/
def key : ShvarLine → Option (List UInt8)
  | .other _ => none
  | .assignment _ key _ => some key

/-- Whether the line assigns a variable of this name. -/
def hasKey (key : List UInt8) (line : ShvarLine) : Bool := decide (line.key = some key)

def value : ShvarLine → Option (List UInt8)
  | .other _ => none
  | .assignment _ _ line => line

/-- `nm_clear_g_free` on the value of an assignment. -/
def clear : ShvarLine → ShvarLine
  | .other line => .other line
  | .assignment indent key _ => .assignment indent key none

end ShvarLine

/-- `g_ascii_isalpha`. -/
def isAlpha (b : UInt8) : Bool := (0x41 ≤ b && b ≤ 0x5a) || (0x61 ≤ b && b ≤ 0x7a)

/-- `g_ascii_isdigit`. -/
def isDigit (b : UInt8) : Bool := 0x30 ≤ b && b ≤ 0x39

abbrev underscore : UInt8 := 0x5f
abbrev equals : UInt8 := 0x3d

/-- A byte at the front of a name. -/
def isNameStart (b : UInt8) : Bool := isAlpha b || b == underscore

def isNameByte (b : UInt8) : Bool := isAlpha b || isDigit b || b == underscore

/-- `_shell_is_name`. -/
def shellIsName : List UInt8 → Bool
  | [] => false
  | b :: key => isNameStart b && key.all isNameByte

/-- A name of a variable. -/
abbrev Name := {key : List UInt8 // shellIsName key = true}

/-- The inner loop of `line_new_parse`: the rest of a name, and what follows the sign of
equality. -/
def takeAssignment : List UInt8 → Option (List UInt8 × List UInt8)
  | [] => none
  | b :: value =>
    if b = equals then some ([], value)
    else if isNameByte b then (takeAssignment value).map fun (key, line) => (b :: key, line)
    else none

/-- `line_new_parse`. -/
def lineNewParse (value : List UInt8) : ShvarLine :=
  match value.dropWhile isSpace with
  | [] => .other value
  | b :: text =>
    if isNameStart b then
      match takeAssignment text with
      | some (key, line) => .assignment (value.takeWhile isSpace) (b :: key) (some line)
      | none => .other value
    else .other value

/-- `line_new_build`. -/
def lineNewBuild (sign : CharSign) (key value : List UInt8) : ShvarLine :=
  .assignment [] key (some (svEscape sign value))

/-- `line_set`, and whether something changed. -/
def lineSet (sign : CharSign) (value : List UInt8) : ShvarLine → ShvarLine × Bool
  | .other line => (.other line, false)
  | .assignment indent key line =>
    (.assignment [] key (some (svEscape sign value)),
      decide (indent ≠ [] ∨ line ≠ some (svEscape sign value)))

/-- `shvarFile`. -/
structure ShvarFile where
  lines : List ShvarLine
  /-- Whether the file must be written. -/
  modified : Bool

/-- The lines of a text.  The last one need not be terminated. -/
def textLines (current : List UInt8) : List UInt8 → List (List UInt8)
  | [] => if current = [] then [] else [current]
  | b :: text =>
    if b = newline then current :: textLines [] text else textLines (current ++ [b]) text

/-- `svOpenFile`.  The text is handled as a C string. -/
def svOpenFile (arena : List UInt8) : ShvarFile where
  lines := (textLines [] (arena.takeWhile (· ≠ 0))).map lineNewParse
  modified := false

/-- `SvKeyType`. -/
structure SvKeyType where
  any : Bool
  routeSvformat : Bool
  ip4Address : Bool
  tc : Bool
  user : Bool
  sriovVf : Bool
  routingRule4 : Bool
  routingRule6 : Bool

def literal (text : String) : List UInt8 := text.toList.map Char.toUInt8

/-- `IS_NUMBERED_TAG`. -/
def isNumberedTag (key : List UInt8) (tab_name : String) : Bool :=
  (literal tab_name).isPrefixOf key &&
    (!(key.drop (literal tab_name).length).isEmpty &&
      (key.drop (literal tab_name).length).all isDigit)

/-- `IS_NUMBERED_TAG_PARSE`. -/
def isNumberedTagParse (key : List UInt8) (tab_name : String) : Bool :=
  isNumberedTag key tab_name &&
    Ascii.strToInt64 ((key.drop (literal tab_name).length).map fun b => Char.ofNat b.toNat) 10 0
      (2 ^ 63 - 1) (-1) != -1

/-- `_svKeyMatchesType`. -/
def svKeyMatchesType (key : List UInt8) (match_key_type : SvKeyType) : Bool :=
  match_key_type.any ||
  (match_key_type.routeSvformat &&
    (isNumberedTag key "ADDRESS" || isNumberedTag key "NETMASK" || isNumberedTag key "GATEWAY" ||
      isNumberedTag key "METRIC" || isNumberedTag key "OPTIONS")) ||
  (match_key_type.ip4Address &&
    (isNumberedTag key "IPADDR" || isNumberedTag key "PREFIX" || isNumberedTag key "NETMASK" ||
      isNumberedTag key "GATEWAY")) ||
  (match_key_type.user && (literal "NM_USER_").isPrefixOf key) ||
  (match_key_type.tc && (isNumberedTag key "QDISC" || isNumberedTag key "FILTER")) ||
  (match_key_type.sriovVf && isNumberedTag key "SRIOV_VF") ||
  (match_key_type.routingRule4 && isNumberedTagParse key "ROUTING_RULE_") ||
  (match_key_type.routingRule6 && isNumberedTagParse key "ROUTING_RULE6_")

namespace ShvarFile

/-- `svGetValue`: the last assignment counts, and a value that is not understood is empty. -/
def svGetValue (self : ShvarFile) (key : List UInt8) : Option (List UInt8) :=
  match (self.lines.filter (ShvarLine.hasKey key)).getLast? with
  | some line => line.value.map fun value => (svUnescape value).getD []
  | none => none

/-- The loop of `svSetValue` drops all assignments of a variable but the last one. -/
def dropDuplicates (key : List UInt8) : List ShvarLine → List ShvarLine
  | [] => []
  | line :: lines =>
    if line.hasKey key && lines.any (ShvarLine.hasKey key) then dropDuplicates key lines
    else line :: dropDuplicates key lines

def changedTo (self : ShvarFile) (lines : List ShvarLine) (changed : Bool) : ShvarFile × Bool :=
  (⟨lines, self.modified || changed⟩, changed)

/-- `svSetValue`, and whether something changed.  Without a value, the variable is deleted. -/
def svSetValue (sign : CharSign) (self : ShvarFile) (key : Name) (value : Option CString) :
    ShvarFile × Bool :=
  let lines := dropDuplicates key.1 self.lines
  let dropped := decide (lines.length ≠ self.lines.length)
  match value with
  | none =>
    self.changedTo (lines.map fun line => if line.hasKey key.1 then line.clear else line)
      (dropped || lines.any fun line => line.hasKey key.1 && line.value.isSome)
  | some value =>
    if lines.any (ShvarLine.hasKey key.1) then
      self.changedTo
        (lines.map fun line => if line.hasKey key.1 then (lineSet sign value.1 line).1 else line)
        (dropped || lines.any fun line => line.hasKey key.1 && (lineSet sign value.1 line).2)
    else self.changedTo (lines ++ [lineNewBuild sign key.1 value.1]) true

/-- `svUnsetValue`. -/
def svUnsetValue (sign : CharSign) (self : ShvarFile) (key : Name) : ShvarFile × Bool :=
  self.svSetValue sign key none

/-- `svUnsetAll`, and whether something changed. -/
def svUnsetAll (self : ShvarFile) (match_key_type : SvKeyType) : ShvarFile × Bool :=
  let matched := fun line : ShvarLine => line.key.any fun key => svKeyMatchesType key match_key_type
  self.changedTo (self.lines.map fun line => if matched line then line.clear else line)
    (self.lines.any fun line => matched line && line.value.isSome)

end ShvarFile

/-- The mark in front of a line that is not understood. -/
def nmMark : List UInt8 := literal "#NM: "

/-- The lines that `svWriteFile` prints for a line. -/
def ShvarLine.print : ShvarLine → List (List UInt8)
  | .other line =>
    match line.dropWhile isSpace with
    | [] => [line]
    | b :: _ => if b = hash then [line] else [nmMark ++ line]
  | .assignment _ _ none => []
  | .assignment indent key (some line) =>
    if (svUnescape line).isSome then [indent ++ key ++ equals :: line]
    else [key ++ [equals], nmMark ++ indent ++ key ++ equals :: line]

namespace ShvarFile

/-- The text that `svWriteFile` prints for a file. -/
def print (self : ShvarFile) : List UInt8 :=
  (self.lines.flatMap ShvarLine.print).flatMap fun line => line ++ [newline]

/-- `svWriteFile`: the text of the file on disk, which is written only if the file was modified. -/
def svWriteFile (self : ShvarFile) (onDisk : List UInt8) : List UInt8 :=
  if self.modified then self.print else onDisk

end ShvarFile

/-- A call that changes a file. -/
inductive Call where
  | setValue (key : Name) (value : Option CString)
  | unsetValue (key : Name)
  | unsetAll (match_key_type : SvKeyType)

def ShvarFile.call (sign : CharSign) (self : ShvarFile) : Call → ShvarFile
  | .setValue key value => (self.svSetValue sign key value).1
  | .unsetValue key => (self.svUnsetValue sign key).1
  | .unsetAll match_key_type => (self.svUnsetAll match_key_type).1

end NetworkManager.Shvar
