import OperandStack.Word

/-!
# Values of an Ethereum client

A client that drives the stack has its own types for account addresses and digests. They hold the
same raw bytes, so that each conversion relabels them, and a word gives its low-order bytes where an
address is wanted.
-/

set_option autoImplicit false

namespace OperandStack

/-- An account address as a client holds it. -/
@[ext]
structure ClientAddress where
  raw : FixedBytes 20
  deriving DecidableEq

@[ext]
structure ClientHash where
  raw : FixedBytes 32
  deriving DecidableEq

def Address.toClient (address : Address) : ClientAddress :=
  ⟨address.bytes⟩

def ClientAddress.toAddress (address : ClientAddress) : Address :=
  ⟨address.raw⟩

def Hash.toClient (hash : Hash) : ClientHash :=
  ⟨hash.bytes⟩

def ClientHash.toHash (hash : ClientHash) : Hash :=
  ⟨hash.raw⟩

def ClientHash.toWord (hash : ClientHash) : Word :=
  ⟨hash.raw⟩

def ClientAddress.toWord (address : ClientAddress) : Word :=
  Word.ofAddress address.toAddress

def Word.toClientHash (word : Word) : ClientHash :=
  ⟨word.bytes⟩

def Word.toClientAddress (word : Word) : ClientAddress :=
  word.address.toClient

end OperandStack
