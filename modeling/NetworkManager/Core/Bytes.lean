import Mathlib.Data.List.Basic

/-!
# Bytes of C strings

A C string is the list of its bytes, without the terminating zero.
-/

namespace NetworkManager

/-- The bytes of a C string. -/
abbrev CString := {bytes : List UInt8 // 0 ∉ bytes}

/-- Whether `char` is signed, which depends on the architecture. -/
inductive CharSign where
  | signed
  | unsigned
  deriving DecidableEq, Repr

/-- The value of a `char` in an expression. -/
def CharSign.charValue (sign : CharSign) (b : UInt8) : Int :=
  match sign with
  | .signed => if b.toNat < 128 then b.toNat else (b.toNat : Int) - 256
  | .unsigned => b.toNat

namespace Bytes

abbrev tab : UInt8 := 0x09
abbrev newline : UInt8 := 0x0a
abbrev space : UInt8 := 0x20
abbrev doubleQuote : UInt8 := 0x22
abbrev hash : UInt8 := 0x23
abbrev dollar : UInt8 := 0x24
abbrev singleQuote : UInt8 := 0x27
abbrev semicolon : UInt8 := 0x3b
abbrev backslash : UInt8 := 0x5c
abbrev backquote : UInt8 := 0x60
abbrev tilde : UInt8 := 0x7e

end Bytes
end NetworkManager
