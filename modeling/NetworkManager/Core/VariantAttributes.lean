import NetworkManager.Core.Ascii
import NetworkManager.Library.ListSort

/-!
# Lists of attributes as text

Attributes are written as names and values with two separators, and a backslash in front of
separators and backslashes.  The reader looks for the end of an attribute first and for the
separator of name and value after that.
-/

namespace NetworkManager.VariantAttributes

open Ascii List

/-- The types of attributes. -/
inductive VariantType where
  | uint32 | byte | boolean | string | bytestring
  /-- Any type that the functions here do not support. -/
  | other
  deriving DecidableEq, Repr

/-- The values of attributes. -/
inductive GVariant where
  | uint32 (value : UInt32)
  | byte (value : UInt8)
  | boolean (value : Bool)
  | string (value : List Char)
  | bytestring (value : List Char)
  /-- A value of a type that the functions here do not support. -/
  | other
  deriving DecidableEq, Repr

def GVariant.type : GVariant → VariantType
  | .uint32 _ => .uint32
  | .byte _ => .byte
  | .boolean _ => .boolean
  | .string _ => .string
  | .bytestring _ => .bytestring
  | .other => .other

/-- `NMVariantAttributeSpec`. -/
structure NMVariantAttributeSpec where
  name : List Char
  type : VariantType
  /-- The attribute is a single word. -/
  noValue : Bool := false
  /-- The attribute is all that remains of the text. -/
  consumesRest : Bool := false
  deriving DecidableEq, Repr

/-- The entries of a hash table of attributes. -/
abbrev Attributes := List (List Char × GVariant)

/-- The errors of the reader. -/
inductive ParseError where
  /-- "unterminated escape sequence". -/
  | unterminatedEscape
  /-- "unknown attribute '%s'". -/
  | unknownAttribute (name : List Char)
  /-- "missing key-value separator '%c' after '%s'". -/
  | missingSeparator (separator : Char) (name : List Char)
  /-- "invalid uint32 value '%s' for attribute '%s'". -/
  | invalidUint32 (value name : List Char)
  /-- "invalid uint8 value '%s' for attribute '%s'". -/
  | invalidUint8 (value name : List Char)
  /-- "invalid boolean value '%s' for attribute '%s'". -/
  | invalidBoolean (value name : List Char)
  /-- "unsupported attribute '%s' of type '%s'". -/
  | unsupported (name : List Char)
  deriving DecidableEq, Repr

/-- `attribute_escape`. -/
def attributeEscape (c1 c2 : Char) : List Char → List Char
  | [] => []
  | c :: src =>
    if c = c1 ∨ c = c2 ∨ c = '\\' then '\\' :: c :: attributeEscape c1 c2 src
    else c :: attributeEscape c1 c2 src

/-- `attribute_unescape` of a piece of a text.  A backslash at the end of the piece takes the
character that follows it. -/
def attributeUnescape (following : Option Char) : List Char → List Char
  | [] => []
  | c :: text =>
    if c = '\\' then
      match text with
      | [] => following.toList
      | c :: text => c :: attributeUnescape following text
    else c :: attributeUnescape following text

/-- The search for the key-value separator: the text in front of it, and the text after it if there
is one.  A character after a backslash is compared as well. -/
def findSeparator (separator : Char) : List Char → List Char × Option (List Char)
  | [] => ([], none)
  | c :: text =>
    if c = '\\' then
      match text with
      -- Every backslash is followed by a character of the attribute.
      | [] => ([c], none)
      | escaped :: text =>
        if escaped = separator then ([c], some text)
        else
          let (before, after) := findSeparator separator text
          (c :: escaped :: before, after)
    else if c = separator then ([], some text)
    else
      let (before, after) := findSeparator separator text
      (c :: before, after)

/-- `g_hash_table_contains`. -/
def Attributes.contains (ht : Attributes) (name : List Char) : Bool :=
  ht.any fun entry => entry.1 = name

/-- The first specification that a name fits and that is not used yet. -/
def findSpec (spec : List NMVariantAttributeSpec) (ht : Attributes) (name : List Char) :
    Option NMVariantAttributeSpec :=
  spec.find? fun s =>
    !ht.contains s.name && (name = s.name || (s.noValue && s.type = .string))

def parseValue (s : NMVariantAttributeSpec) (value : List Char) : Except ParseError GVariant :=
  match s.type with
  | .uint32 =>
    let num := strToInt64 value 10 0 (2 ^ 32 - 1) (-1)
    if num = -1 then .error (.invalidUint32 value s.name)
    else .ok (.uint32 (UInt32.ofNat num.toNat))
  | .byte =>
    let num := strToInt64 value 10 0 (2 ^ 8 - 1) (-1)
    if num = -1 then .error (.invalidUint8 value s.name)
    else .ok (.byte (UInt8.ofNat num.toNat))
  | .boolean =>
    if s.noValue then .ok (.boolean true)
    else
      match strToBool value with
      | none => .error (.invalidBoolean value s.name)
      | some b => .ok (.boolean b)
  | .string => .ok (.string value)
  | .bytestring => .ok (.bytestring value)
  | .other => .error (.unsupported s.name)

/-- How the end of an attribute is handled. -/
inductive AttributeEnd where
  /-- `goto next`: the attribute goes on. -/
  | next
  | inserted (ht : Attributes)
  /-- The attribute was inserted with all that remained of the text. -/
  | consumed (ht : Attributes)
  deriving DecidableEq, Repr

def insertAttribute (ht : Attributes) (s : NMVariantAttributeSpec) (value : List Char) :
    Except ParseError Attributes :=
  match parseValue s value with
  | .error error => .error error
  | .ok variant => .ok (ht ++ [(s.name, variant)])

/-- The attribute between `start` and `ptr`, with the text from `ptr` on. -/
def attributeEnd (keyValueSeparator : Char) (ignoreUnknown : Bool)
    (spec : List NMVariantAttributeSpec) (ht : Attributes) (word rest : List Char) :
    Except ParseError AttributeEnd :=
  let (before, after) := findSeparator keyValueSeparator word
  let name := attributeUnescape (if after.isSome then some keyValueSeparator else rest.head?) before
  match findSpec spec ht name with
  | none => if ignoreUnknown then .ok .next else .error (.unknownAttribute name)
  | some s =>
    if s.noValue then
      if s.consumesRest then (insertAttribute ht s (word ++ rest)).map .consumed
      else (insertAttribute ht s name).map .inserted
    else
      match after with
      | none =>
        if rest.head? ≠ some keyValueSeparator then
          .error (.missingSeparator keyValueSeparator name)
        -- The attribute and key/value separators are the same.
        else .ok .next
      | some after =>
        (insertAttribute ht s (attributeUnescape rest.head? after)).map .inserted

/-- The loop of the reader, from `ptr` on, with the text from `start` to `ptr`. -/
def parseLoop (attrSeparator keyValueSeparator : Char) (ignoreUnknown : Bool)
    (spec : List NMVariantAttributeSpec) :
    List Char → Attributes → List Char → Except ParseError Attributes
  | [], ht, word =>
    if word = [] then .ok ht
    else
      match attributeEnd keyValueSeparator ignoreUnknown spec ht word [] with
      | .error error => .error error
      | .ok .next => .ok ht
      | .ok (.inserted ht) => .ok ht
      | .ok (.consumed ht) => .ok ht
  | c :: rest, ht, word =>
    if c = '\\' then
      match rest with
      | [] => .error .unterminatedEscape
      | escaped :: rest =>
        parseLoop attrSeparator keyValueSeparator ignoreUnknown spec rest ht
          (word ++ [c, escaped])
    else if c = attrSeparator then
      if word = [] then
        parseLoop attrSeparator keyValueSeparator ignoreUnknown spec rest ht []
      else
        match attributeEnd keyValueSeparator ignoreUnknown spec ht word (c :: rest) with
        | .error error => .error error
        | .ok .next =>
          parseLoop attrSeparator keyValueSeparator ignoreUnknown spec rest ht (word ++ [c])
        | .ok (.inserted ht) =>
          parseLoop attrSeparator keyValueSeparator ignoreUnknown spec rest ht []
        | .ok (.consumed ht) => .ok ht
    else parseLoop attrSeparator keyValueSeparator ignoreUnknown spec rest ht (word ++ [c])

/-- `nm_utils_parse_variant_attributes`. -/
def parseVariantAttributes (string : List Char) (attrSeparator keyValueSeparator : Char)
    (ignoreUnknown : Bool) (spec : List NMVariantAttributeSpec) :
    Except ParseError Attributes :=
  parseLoop attrSeparator keyValueSeparator ignoreUnknown spec string [] []

def formatValue : GVariant → Option (List Char)
  | .uint32 value => some (Nat.toDigits 10 value.toNat)
  | .byte value => some (Nat.toDigits 10 value.toNat)
  | .boolean value => some (if value then "true".toList else "false".toList)
  | .string value => some value
  | .bytestring value => some value
  | .other => none

/-- `_nm_utils_format_variant_attributes_full`, with `sep` as the text in front of the next
attribute. -/
def formatVariantAttributesFull (attrSeparator keyValueSeparator : Char) (sep : List Char) :
    Attributes → List Char
  | [] => []
  | (name, variant) :: values =>
    match formatValue variant with
    | none => formatVariantAttributesFull attrSeparator keyValueSeparator sep values
    | some value =>
      sep ++ attributeEscape attrSeparator keyValueSeparator name ++ keyValueSeparator ::
        attributeEscape attrSeparator keyValueSeparator value ++
        formatVariantAttributesFull attrSeparator keyValueSeparator [attrSeparator] values

/-- `nm_utils_named_values_from_str_dict`: the entries, sorted by their names. -/
def namedValuesFromStrDict (attributes : Attributes) : Attributes :=
  ListSort.sort (fun a b => compare a.1 b.1) attributes

/-- `nm_utils_format_variant_attributes`. -/
def formatVariantAttributes (attributes : Attributes) (attrSeparator keyValueSeparator : Char) :
    Option (List Char) :=
  if attributes = [] then none
  else
    some (formatVariantAttributesFull attrSeparator keyValueSeparator []
      (namedValuesFromStrDict attributes))

section Escape

variable {attrSeparator keyValueSeparator : Char} {ignoreUnknown : Bool}
  {spec : List NMVariantAttributeSpec}

@[simp] theorem attributeEscape_nil (c1 c2 : Char) : attributeEscape c1 c2 [] = [] := rfl

theorem parseLoop_plain {c : Char} (no_backslash : c ≠ '\\') (no_separator : c ≠ attrSeparator)
    (rest : List Char) (ht : Attributes) (word : List Char) :
    parseLoop attrSeparator keyValueSeparator ignoreUnknown spec (c :: rest) ht word =
      parseLoop attrSeparator keyValueSeparator ignoreUnknown spec rest ht (word ++ [c]) := by
  rw [parseLoop.eq_def]
  dsimp only
  rw [if_neg no_backslash, if_neg no_separator]

theorem parseLoop_escape (text rest : List Char) (ht : Attributes) (word : List Char) :
    parseLoop attrSeparator keyValueSeparator ignoreUnknown spec
        (attributeEscape attrSeparator keyValueSeparator text ++ rest) ht word =
      parseLoop attrSeparator keyValueSeparator ignoreUnknown spec rest ht
        (word ++ attributeEscape attrSeparator keyValueSeparator text) := by
  induction text generalizing word with
  | nil => simp
  | cons c text ih =>
    unfold attributeEscape
    split
    · rw [cons_append, cons_append, parseLoop, if_pos rfl, ih, append_assoc]
      rfl
    · rename_i plain
      rw [cons_append, parseLoop_plain (fun same => plain (Or.inr (Or.inr same)))
        (fun same => plain (Or.inl same)), ih, append_assoc]
      rfl

theorem attributeUnescape_plain {c : Char} (no_backslash : c ≠ '\\') (following : Option Char)
    (text : List Char) :
    attributeUnescape following (c :: text) = c :: attributeUnescape following text := by
  rw [attributeUnescape.eq_def]
  dsimp only
  rw [if_neg no_backslash]

theorem attributeUnescape_escape_append (c1 c2 : Char) (following : Option Char)
    (text rest : List Char) :
    attributeUnescape following (attributeEscape c1 c2 text ++ rest) =
      text ++ attributeUnescape following rest := by
  induction text with
  | nil => rfl
  | cons c text ih =>
    unfold attributeEscape
    split
    · rw [cons_append, cons_append, attributeUnescape, if_pos rfl, ih, cons_append]
    · rename_i plain
      rw [cons_append, attributeUnescape_plain (fun same => plain (Or.inr (Or.inr same))), ih,
        cons_append]

theorem attributeUnescape_escape (c1 c2 : Char) (following : Option Char) (text : List Char) :
    attributeUnescape following (attributeEscape c1 c2 text) = text := by
  have unescaped := attributeUnescape_escape_append c1 c2 following text []
  rw [append_nil] at unescaped
  rw [unescaped, attributeUnescape, append_nil]

theorem findSeparator_plain {c : Char} (no_backslash : c ≠ '\\')
    (no_separator : c ≠ keyValueSeparator) (text : List Char) :
    findSeparator keyValueSeparator (c :: text) =
      (c :: (findSeparator keyValueSeparator text).1,
        (findSeparator keyValueSeparator text).2) := by
  rw [findSeparator.eq_def]
  dsimp only
  rw [if_neg no_backslash, if_neg no_separator]

end Escape

end NetworkManager.VariantAttributes
