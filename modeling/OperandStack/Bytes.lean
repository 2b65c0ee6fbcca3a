/-!
# Byte strings

Every text that the stack machine reads or writes is a string of bytes, which need not be valid
UTF-8. This module fixes their type, the spelling of plain texts and of decimal numbers, and the
big-endian reading and writing of natural numbers.
-/

set_option autoImplicit false

namespace OperandStack

/-- A byte string; lengths and positions count bytes. -/
abbrev Bytes := List UInt8

def ascii (text : String) : Bytes :=
  text.toList.map fun character => character.toNat.toUInt8

def newline : UInt8 := 0x0a

namespace Bytes

def line (bytes : Bytes) : Bytes :=
  bytes ++ [newline]

/-- What stands before the first occurrence of a byte, and what stands after it; without an
occurrence everything stands before. -/
def cut (separator : UInt8) : Bytes → Bytes × Option Bytes
  | [] => ([], none)
  | byte :: rest =>
      if byte = separator then ([], some rest)
      else (byte :: (cut separator rest).1, (cut separator rest).2)

/-! ## Decimal texts -/

def decimal (value : Nat) : Bytes :=
  (Nat.toDigits 10 value).map fun character => character.toNat.toUInt8

def decimalInt : Int → Bytes
  | .ofNat value => decimal value
  | .negSucc value => 0x2d :: decimal (value + 1)

/-! ## Big-endian numbers -/

/-- The number that a byte string denotes in base 256, most significant byte first. -/
def toNat (bytes : Bytes) : Nat :=
  bytes.foldl (fun value byte => value * 256 + byte.toNat) 0

/-- The lowest `width` bytes of a number, most significant byte first. -/
def bigEndian : (width value : Nat) → Bytes
  | 0, _ => []
  | width + 1, value => bigEndian width (value / 256) ++ [UInt8.ofNat value]

@[simp]
theorem toNat_nil : toNat [] = 0 := rfl

@[simp]
theorem toNat_append_singleton (bytes : Bytes) (byte : UInt8) :
    toNat (bytes ++ [byte]) = toNat bytes * 256 + byte.toNat := by
  simp [toNat]

@[simp]
theorem length_bigEndian (width value : Nat) : (bigEndian width value).length = width := by
  induction width generalizing value with
  | zero => rfl
  | succ width ih => simp [bigEndian, ih]

end Bytes

end OperandStack
