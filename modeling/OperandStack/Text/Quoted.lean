import OperandStack.Hex
import OperandStack.Text.Utf8
import OperandStack.Text.Printable

/-!
# Quoted texts

A quoted text stands between double quotes on one line: printable characters as they are, quotes
and backslashes after a backslash, and everything else as an escape in ASCII. A quoted text holds
no control byte, whatever bytes went in.
-/

set_option autoImplicit false

namespace OperandStack.Text.Quoted

def shortEscape? (code : Nat) : Option UInt8 :=
  if code = 0x07 then some 0x61
  else if code = 0x08 then some 0x62
  else if code = 0x0c then some 0x66
  else if code = 0x0a then some 0x6e
  else if code = 0x0d then some 0x72
  else if code = 0x09 then some 0x74
  else if code = 0x0b then some 0x76
  else none

def escape : Piece → Bytes
  | .stray byte => ascii "\\x" ++ Hex.padded 2 byte.toNat
  | .scalar code encoding =>
      if code = 0x22 ∨ code = 0x5c then 0x5c :: encoding
      else if Printable.isPrintable code then encoding
      else
        match shortEscape? code with
        | some letter => [0x5c, letter]
        | none =>
            if code < 0x20 ∨ code = 0x7f then ascii "\\x" ++ Hex.padded 2 code
            else if code < 0x10000 then ascii "\\u" ++ Hex.padded 4 code
            else ascii "\\U" ++ Hex.padded 8 code

/-- The text between double quotes, with every piece in its spelling. -/
def quote (text : Bytes) : Bytes :=
  0x22 :: (Utf8.pieces text).flatMap escape ++ [0x22]

end OperandStack.Text.Quoted
