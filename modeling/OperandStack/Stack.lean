import OperandStack.Keccak
import OperandStack.Stack.Buffer
import OperandStack.Stack.Error
import OperandStack.Tracer
import OperandStack.Word.Text

/-!
# The operand stack

A stack holds at most 1024 words and reports each successful push to its tracer. Positions are
counted from the bottom, the distance of a swap from the top. An operation whose condition fails is
refused and changes nothing.
-/

set_option autoImplicit false

namespace OperandStack

def stackLimit : Nat := 1024

/-- An operand stack: the words in a buffer, bottom first, and the tracer of its pushes. -/
structure Stack (Sink : Type) where
  buffer : Buffer Word
  tracer : Tracer Sink

namespace Stack

variable {Sink : Type}

/-! ## Making and configuring -/

/-- A setting for a new stack: the tracer to install, where an absent one turns tracing off. -/
abbrev Setting (Sink : Type) := Option (Tracer Sink)

def configure (stack : Stack Sink) (settings : List (Setting Sink)) : Stack Sink :=
  settings.foldl (fun current setting => { current with tracer := setting.getD .silent }) stack

def new (settings : List (Setting Sink)) : Stack Sink :=
  configure ⟨Buffer.withRoom stackLimit Word.zero, .silent⟩ settings

def reset (stack : Stack Sink) : Stack Sink :=
  { stack with buffer := stack.buffer.clear }

/-- Drops every word and the tracer, so that the cells can go to another owner. -/
def release (stack : Stack Sink) : Stack Sink :=
  { stack.reset with tracer := .silent }

/-! ## Observation -/

def depth (stack : Stack Sink) : Nat :=
  stack.buffer.used

def items (stack : Stack Sink) : List Word :=
  stack.buffer.contents

/-- The words, top first, read position by position from the top down. -/
def snapshot (stack : Stack Sink) : List Word :=
  stack.buffer.downFrom stack.depth

/-- The word at a position counted from the bottom, if there is one. -/
def peek (stack : Stack Sink) (position : Int) : Option Word :=
  if position < 0 then none else stack.buffer.get? position.toNat

def top? (stack : Stack Sink) : Option Word :=
  if stack.depth = 0 then none else stack.buffer.get? (stack.depth - 1)

def capacity (_ : Stack Sink) : Nat :=
  stackLimit

/-- The bytes that the digest is taken of: those of the words, bottom first. -/
def preimage (stack : Stack Sink) : Bytes :=
  stack.items.flatMap Word.toList

def digest (stack : Stack Sink) : Hash :=
  Keccak.digest stack.preimage

/-! ## Operations that can be refused -/

/-- Adds a word on top and reports it with the depth that it brings about. A full stack refuses. -/
def push (stack : Stack Sink) (word : Word) :
    Except StackError (Stack Sink × List (TraceCall Sink)) :=
  if stack.depth ≥ stackLimit then .error (.overflow stack.depth)
  else
    let pushed := { stack with buffer := stack.buffer.append word }
    .ok (pushed, stack.tracer.notify word pushed.depth)

def pop (stack : Stack Sink) : Except StackError (Word × Stack Sink) :=
  match stack.top? with
  | none => .error .emptyPop
  | some word => .ok (word, { stack with buffer := stack.buffer.dropLast })

/-- Exchanges the top word with the one `distance` below it. A distance that is negative or not
below the depth is refused. -/
def swap (stack : Stack Sink) (distance : Int) : Except StackError (Stack Sink) :=
  if distance < 0 ∨ distance ≥ stack.depth then .error (.farSwap stack.depth distance)
  else
    let top := stack.depth - 1
    .ok { stack with buffer := stack.buffer.exchange top (top - distance.toNat) }

end Stack

end OperandStack
