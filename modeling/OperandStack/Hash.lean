import OperandStack.FixedBytes

/-!
# Digests

A digest is 32 bytes. Bytes and texts of any length are fitted to that width, and texts are read
leniently.
-/

set_option autoImplicit false

namespace OperandStack

def hashLength : Nat := 32

/-- A 32-byte digest. -/
@[ext]
structure Hash where
  bytes : FixedBytes hashLength
  deriving DecidableEq

namespace Hash

def zero : Hash := ⟨FixedBytes.zero hashLength⟩

def setBytes (current : Hash) (bytes : Bytes) : Hash :=
  ⟨current.bytes.setBytes bytes⟩

def ofBytes (bytes : Bytes) : Hash :=
  zero.setBytes bytes

/-- Reads a text leniently: what was decoded before the first bad digit is kept. -/
def ofHex (text : Bytes) : Hash :=
  ofBytes (Hex.decodeLenient text)

def toList (hash : Hash) : Bytes :=
  hash.bytes.toList

def toNat (hash : Hash) : Nat :=
  hash.bytes.toNat

def isZero (hash : Hash) : Bool :=
  hash = zero

def hex (hash : Hash) : Bytes :=
  hash.bytes.hex

def text (hash : Hash) : Bytes :=
  hash.hex

theorem setBytes_eq_ofBytes (current : Hash) (bytes : Bytes) :
    current.setBytes bytes = ofBytes bytes := by
  rw [ofBytes, setBytes, setBytes, FixedBytes.setBytes_eq_ofBytes, FixedBytes.setBytes_eq_ofBytes]

theorem bytes_ofBytes (bytes : Bytes) :
    (ofBytes bytes).bytes = FixedBytes.ofBytes hashLength bytes :=
  FixedBytes.setBytes_eq_ofBytes _ bytes

end Hash

end OperandStack
