import OperandStack.Bytes

/-!
# Hexadecimal texts

Two digits stand for one byte, high digit first; letters are read in either case and written in
lower case. Decoding stops at the first byte that is no digit and keeps what was decoded before it,
because lenient readers use that part.
-/

set_option autoImplicit false

namespace OperandStack.Hex

/-! ## Digits -/

def digitValue? (byte : UInt8) : Option Nat :=
  if 0x30 ≤ byte ∧ byte ≤ 0x39 then some (byte.toNat - 0x30)
  else if 0x61 ≤ byte ∧ byte ≤ 0x66 then some (byte.toNat - 0x61 + 10)
  else if 0x41 ≤ byte ∧ byte ≤ 0x46 then some (byte.toNat - 0x41 + 10)
  else none

def digit (value : Nat) : UInt8 :=
  if value < 10 then UInt8.ofNat (0x30 + value) else UInt8.ofNat (0x61 + (value - 10))

def upperDigit (byte : UInt8) : UInt8 :=
  if 0x61 ≤ byte ∧ byte ≤ 0x66 then byte - 0x20 else byte

/-! ## Writing -/

def byteDigits (byte : UInt8) : Bytes :=
  [digit (byte.toNat / 16), digit (byte.toNat % 16)]

def encode (bytes : Bytes) : Bytes :=
  bytes.flatMap byteDigits

def minimal (value : Nat) : Bytes :=
  (Nat.toDigits 16 value).map fun character => character.toNat.toUInt8

def padded (width value : Nat) : Bytes :=
  let digits := minimal value
  List.replicate (width - digits.length) 0x30 ++ digits

def marked (digits : Bytes) : Bytes :=
  0x30 :: 0x78 :: digits

/-! ## Reading -/

/-- Drops one leading mark, `0x` or `0X`; a second mark stays. -/
def dropMark : Bytes → Bytes
  | first :: second :: rest =>
      if first = 0x30 ∧ (second = 0x78 ∨ second = 0x58) then rest else first :: second :: rest
  | short => short

/-- Completes an odd number of digits with a zero on the left. -/
def evened (digits : Bytes) : Bytes :=
  if digits.length % 2 = 1 then 0x30 :: digits else digits

inductive DecodeError where
  | badByte (byte : UInt8)
  /-- Only digits, but the last one has no partner. -/
  | oddLength
  deriving DecidableEq, Repr

/-- The bytes decoded before the first fault, and that fault if there is one. -/
structure Decoded where
  bytes : Bytes
  fault : Option DecodeError
  deriving DecidableEq, Repr

def decode : Bytes → Decoded
  | [] => ⟨[], none⟩
  | [last] =>
      match digitValue? last with
      | none => ⟨[], some (.badByte last)⟩
      | some _ => ⟨[], some .oddLength⟩
  | high :: low :: rest =>
      match digitValue? high with
      | none => ⟨[], some (.badByte high)⟩
      | some highValue =>
          match digitValue? low with
          | none => ⟨[], some (.badByte low)⟩
          | some lowValue =>
              let tail := decode rest
              ⟨UInt8.ofNat (16 * highValue + lowValue) :: tail.bytes, tail.fault⟩

/-- The bytes of a text read leniently: an optional mark and a missing leading zero are allowed,
and everything from the first bad pair on is ignored. -/
def decodeLenient (text : Bytes) : Bytes :=
  (decode (evened (dropMark text))).bytes

end OperandStack.Hex
