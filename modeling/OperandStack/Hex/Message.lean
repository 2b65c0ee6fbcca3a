import OperandStack.Hex
import OperandStack.Text.Utf8
import OperandStack.Text.Printable

/-!
# Wording of hexadecimal faults

A fault names the offending byte by its code, and shows it as a character where that character is
printable.
-/

set_option autoImplicit false

namespace OperandStack.Hex

def upperPadded (width value : Nat) : Bytes :=
  (padded width value).map upperDigit

/-- A byte read as a code point: its number and, if it is printable, the character in quotes. -/
def codePoint (byte : UInt8) : Bytes :=
  let number := ascii "U+" ++ upperPadded 4 byte.toNat
  if Text.Printable.isPrintable byte.toNat then
    number ++ ascii " '" ++ Text.Utf8.encode byte.toNat ++ ascii "'"
  else number

def DecodeError.message : DecodeError → Bytes
  | .badByte byte => ascii "encoding/hex: invalid byte: " ++ codePoint byte
  | .oddLength => ascii "encoding/hex: odd length hex string"

end OperandStack.Hex
