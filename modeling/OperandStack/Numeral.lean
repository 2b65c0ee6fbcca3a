import OperandStack.Text.Quoted

/-!
# Numerals

Texts of 64-bit numbers are read from the left. A digit that takes the magnitude past 64 bits ends
the reading as out of range, whatever follows; a byte that is no digit of the base ends it as
malformed; the range of a signed number is checked last. There are three readers: unsigned decimal,
signed decimal, and signed with a mark for the base and separators between digits.
-/

set_option autoImplicit false

namespace OperandStack.Numeral

inductive Fault where
  | malformed
  | outOfRange
  deriving DecidableEq, Repr

def digitValue? (byte : UInt8) : Option Nat :=
  if 0x30 ≤ byte ∧ byte ≤ 0x39 then some (byte.toNat - 0x30)
  else if 0x61 ≤ byte ∧ byte ≤ 0x7a then some (byte.toNat - 0x61 + 10)
  else if 0x41 ≤ byte ∧ byte ≤ 0x5a then some (byte.toNat - 0x41 + 10)
  else none

def readDigits (base value : Nat) : Bytes → Except Fault Nat
  | [] => .ok value
  | byte :: rest =>
      match digitValue? byte with
      | none => .error .malformed
      | some digit =>
          if digit < base then
            if value * base + digit < UInt64.size then readDigits base (value * base + digit) rest
            else .error .outOfRange
          else .error .malformed

def readMagnitude (base : Nat) (text : Bytes) : Except Fault Nat :=
  if text.isEmpty then .error .malformed else readDigits base 0 text

/-! ## Decimal numbers -/

/-- Reads an unsigned decimal number of 64 bits: digits only. -/
def readUnsigned (text : Bytes) : Except Fault UInt64 :=
  (readMagnitude 10 text).map UInt64.ofNat

def splitSign : Bytes → Bool × Bytes
  | first :: rest =>
      if first = 0x2b then (false, rest) else if first = 0x2d then (true, rest)
      else (false, first :: rest)
  | [] => (false, [])

def withSign (negative : Bool) (magnitude : Nat) : Except Fault Int :=
  if negative then
    if magnitude ≤ UInt64.size / 2 then .ok (-(magnitude : Int)) else .error .outOfRange
  else
    if magnitude < UInt64.size / 2 then .ok magnitude else .error .outOfRange

def readSigned (text : Bytes) : Except Fault Int := do
  let (negative, digits) := splitSign text
  let magnitude ← readMagnitude 10 digits
  withSign negative magnitude

/-! ## Numbers with a base mark -/

def separator : UInt8 := 0x5f

def markedBase? (letter : UInt8) : Option Nat :=
  if letter = 0x62 ∨ letter = 0x42 then some 2
  else if letter = 0x6f ∨ letter = 0x4f then some 8
  else if letter = 0x78 ∨ letter = 0x58 then some 16
  else none

/-- The digits of a number, its base, and whether something before them counts as a digit. -/
structure BaseSplit where
  base : Nat
  marked : Bool
  digits : Bytes
  deriving DecidableEq, Repr

/-- Splits off the mark of the base. A mark counts only with something behind it; a leading zero
alone marks base 8, and without either the base is 10. -/
def splitBase : Bytes → BaseSplit
  | zero :: letter :: next :: rest =>
      if zero = 0x30 then
        match markedBase? letter with
        | some base => ⟨base, true, next :: rest⟩
        | none => ⟨8, true, letter :: next :: rest⟩
      else ⟨10, false, zero :: letter :: next :: rest⟩
  | zero :: rest => if zero = 0x30 then ⟨8, true, rest⟩ else ⟨10, false, zero :: rest⟩
  | [] => ⟨10, false, []⟩

/-- Whether every separator stands between a digit, or the mark, and a digit. -/
def wellSeparated (afterDigit : Bool) : Bytes → Bool
  | [] => true
  | byte :: rest =>
      if byte = separator then
        afterDigit && !rest.isEmpty && wellSeparated false rest
      else wellSeparated true rest

/-- Reads a magnitude with an optional base mark and separators. Separators are passed over while
the digits are read, and checked at the end. -/
def readMarkedMagnitude (text : Bytes) : Except Fault Nat :=
  if text.isEmpty then .error .malformed
  else
    let split := splitBase text
    match readDigits split.base 0 (split.digits.filter (· ≠ separator)) with
    | .error fault => .error fault
    | .ok magnitude =>
        if wellSeparated split.marked split.digits then .ok magnitude else .error .malformed

def readMarked (text : Bytes) : Except Fault Int := do
  let (negative, rest) := splitSign text
  let magnitude ← readMarkedMagnitude rest
  withSign negative magnitude

/-! ## Refusals of decimal numbers -/

inductive Reader where
  | unsigned
  | signed
  deriving DecidableEq, Repr

structure Error where
  reader : Reader
  text : Bytes
  fault : Fault
  deriving DecidableEq, Repr

def Reader.name : Reader → Bytes
  | .unsigned => ascii "strconv.ParseUint"
  | .signed => ascii "strconv.Atoi"

def Fault.message : Fault → Bytes
  | .malformed => ascii "invalid syntax"
  | .outOfRange => ascii "value out of range"

def Error.message (error : Error) : Bytes :=
  error.reader.name ++ ascii ": parsing " ++ Text.Quoted.quote error.text ++ ascii ": " ++
    error.fault.message

end OperandStack.Numeral
