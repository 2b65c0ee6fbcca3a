import OperandStack.FixedBytes
import OperandStack.Hex.Message
import OperandStack.Text.Quoted

/-!
# Account addresses

An address is 20 bytes. Besides the lenient reading that digests have as well, there is a strict one
for untrusted texts: `Address.parse` refuses what is too long or holds a byte that is no digit.
-/

set_option autoImplicit false

namespace OperandStack

def addressLength : Nat := 20

/-- The 20-byte address of an account. -/
@[ext]
structure Address where
  bytes : FixedBytes addressLength
  deriving DecidableEq

namespace Address

def zero : Address := ⟨FixedBytes.zero addressLength⟩

def setBytes (current : Address) (bytes : Bytes) : Address :=
  ⟨current.bytes.setBytes bytes⟩

def ofBytes (bytes : Bytes) : Address :=
  zero.setBytes bytes

/-- Reads a text leniently: what was decoded before the first bad digit is kept. -/
def ofHex (text : Bytes) : Address :=
  ofBytes (Hex.decodeLenient text)

def toList (address : Address) : Bytes :=
  address.bytes.toList

def toNat (address : Address) : Nat :=
  address.bytes.toNat

def isZero (address : Address) : Bool :=
  address = zero

def hex (address : Address) : Bytes :=
  address.bytes.hex

def text (address : Address) : Bytes :=
  address.hex

theorem setBytes_eq_ofBytes (current : Address) (bytes : Bytes) :
    current.setBytes bytes = ofBytes bytes := by
  rw [ofBytes, setBytes, setBytes, FixedBytes.setBytes_eq_ofBytes, FixedBytes.setBytes_eq_ofBytes]

theorem bytes_ofBytes (bytes : Bytes) :
    (ofBytes bytes).bytes = FixedBytes.ofBytes addressLength bytes :=
  FixedBytes.setBytes_eq_ofBytes _ bytes

/-! ## Strict reading -/

inductive ParseError where
  /-- More than 40 bytes stand after the optional mark. -/
  | tooLong (digits : Bytes)
  | badDigits (digits : Bytes) (cause : Hex.DecodeError)
  deriving DecidableEq, Repr

def ParseError.message : ParseError → Bytes
  | .tooLong digits => ascii "address " ++ Text.Quoted.quote digits ++ ascii ": too long"
  | .badDigits digits cause =>
      ascii "address " ++ Text.Quoted.quote digits ++ ascii ": " ++ cause.message

/-- Reads at most 40 digits after an optional mark; no digits at all denote the zero address. -/
def parse (text : Bytes) : Except ParseError Address :=
  let digits := Hex.dropMark text
  if digits.length > 2 * addressLength then .error (.tooLong digits)
  else
    let even := Hex.evened digits
    let decoded := Hex.decode even
    match decoded.fault with
    | some cause => .error (.badDigits even cause)
    | none => .ok (ofBytes decoded.bytes)

end Address

end OperandStack
