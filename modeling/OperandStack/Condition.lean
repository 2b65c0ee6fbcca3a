import OperandStack.Bytes

/-!
# Named conditions

The four conditions that callers tell apart when an operation is refused. More precise errors carry
one of them.
-/

set_option autoImplicit false

namespace OperandStack

/-- A condition under which an operation is refused. -/
inductive Condition where
  | stackOverflow
  | stackUnderflow
  | wordOverflow
  | invalidWordHex
  deriving DecidableEq, Repr

def Condition.message : Condition → Bytes
  | .stackOverflow => ascii "evm: stack overflow"
  | .stackUnderflow => ascii "evm: stack underflow"
  | .wordOverflow => ascii "evm: value does not fit in 256 bits"
  | .invalidWordHex => ascii "evm: invalid word hex"

end OperandStack
