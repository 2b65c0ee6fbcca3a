import OperandStack.Condition

/-!
# Refused stack operations

A refused operation is reported with the operation, the depth before it, the distance of a swap and
the cause. A report can also be built by a caller, with any operation code and any cause.
-/

set_option autoImplicit false

namespace OperandStack

/-- The operation that was refused; codes without a name are kept as they are. -/
inductive StackOp where
  | push
  | pop
  | swap
  | unnamed (code : UInt8)
  deriving DecidableEq, Repr

def StackOp.ofCode (code : UInt8) : StackOp :=
  if code = 1 then .push else if code = 2 then .pop else if code = 3 then .swap else .unnamed code

def StackOp.name : StackOp → Bytes
  | .push => ascii "push"
  | .pop => ascii "pop"
  | .swap => ascii "swap"
  | .unnamed code => ascii "StackOp(" ++ Bytes.decimal code.toNat ++ ascii ")"

inductive StackCause where
  | absent
  | condition (condition : Condition)
  | other (text : Bytes)
  deriving DecidableEq, Repr

def StackCause.message : StackCause → Bytes
  | .absent => ascii "<nil>"
  | .condition named => named.message
  | .other text => text

/-- The report of a refused operation. The distance is only meaningful for a swap. -/
structure StackError where
  op : StackOp
  depth : Int
  distance : Int
  cause : StackCause
  deriving DecidableEq, Repr

namespace StackError

def message (error : StackError) : Bytes :=
  let place := ascii " (op=" ++ error.op.name ++ ascii " depth=" ++ Bytes.decimalInt error.depth
  let distance :=
    if error.op = .swap then ascii " distance=" ++ Bytes.decimalInt error.distance else []
  error.cause.message ++ place ++ distance ++ ascii ")"

def hasCondition (error : StackError) (condition : Condition) : Bool :=
  error.cause = .condition condition

def overflow (depth : Nat) : StackError :=
  ⟨.push, depth, 0, .condition .stackOverflow⟩

def emptyPop : StackError :=
  ⟨.pop, 0, 0, .condition .stackUnderflow⟩

def farSwap (depth : Nat) (distance : Int) : StackError :=
  ⟨.swap, depth, distance, .condition .stackUnderflow⟩

end StackError

end OperandStack
