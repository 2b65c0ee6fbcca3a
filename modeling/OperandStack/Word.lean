import OperandStack.Hash
import OperandStack.Address

/-!
# Machine words

A word is 256 bits, kept as 32 bytes with the most significant first. It is built from bytes of any
length, from unsigned numbers, from integers of any size, from addresses and from texts; only the
last two of these can be refused, and each refusal is a cause of its own.
-/

set_option autoImplicit false

namespace OperandStack

def wordLength : Nat := 32

abbrev UInt256 := BitVec 256

def UInt256.size : Nat := Nat.pow 2 256

/-- A 256-bit big-endian machine word, the unit of stack storage. -/
@[ext]
structure Word where
  bytes : FixedBytes wordLength
  deriving DecidableEq

namespace Word

def zero : Word := ⟨FixedBytes.zero wordLength⟩

instance : Inhabited Word := ⟨zero⟩

/-! ## Construction -/

def ofBytes (bytes : Bytes) : Word :=
  ⟨FixedBytes.ofBytes wordLength bytes⟩

def ofUInt256 (value : UInt256) : Word :=
  ⟨FixedBytes.ofNat wordLength value.toNat⟩

/-- The word of an unsigned 256-bit number that may be absent; an absent one counts as zero. -/
def ofOptionalUInt256 : Option UInt256 → Word
  | none => zero
  | some value => ofUInt256 value

def ofUInt64 (value : UInt64) : Word :=
  ofUInt256 (BitVec.ofNat 256 value.toNat)

inductive RangeError where
  | negative (value : Int)
  | tooWide (value : Nat)
  deriving DecidableEq, Repr

def ofInt : Int → Except RangeError Word
  | .negSucc value => .error (.negative (.negSucc value))
  | .ofNat value =>
      if value < UInt256.size then .ok (ofUInt256 (BitVec.ofNat 256 value))
      else .error (.tooWide value)

def ofOptionalInt : Option Int → Except RangeError Word
  | none => .ok zero
  | some value => ofInt value

/-- An address in the low-order 20 bytes, with zeros above it. -/
def ofAddress (address : Address) : Word where
  bytes :=
    { toList := List.replicate (wordLength - addressLength) 0 ++ address.toList
      length_toList := by
        simp [Address.toList, address.bytes.length_toList, wordLength, addressLength] }

/-! ## Views -/

def toList (word : Word) : Bytes :=
  word.bytes.toList

def toNat (word : Word) : Nat :=
  word.bytes.toNat

def toUInt256 (word : Word) : UInt256 :=
  BitVec.ofNat 256 (Bytes.toNat word.toList)

def address (word : Word) : Address :=
  Address.ofBytes (word.toList.drop (wordLength - addressLength))

def hash (word : Word) : Hash :=
  ⟨word.bytes⟩

def isZero (word : Word) : Bool :=
  word = zero

end Word

end OperandStack
