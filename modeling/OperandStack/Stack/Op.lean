import OperandStack.Client
import OperandStack.Stack
import OperandStack.Word.Error

/-!
# Operations on a stack

Everything that the owner of a stack can do with it is an operation. Applying one gives the stack
afterwards, the answer or the reason for the refusal, and the calls that it caused in the tracer's
sinks; a run applies operations one after the other.
-/

set_option autoImplicit false

namespace OperandStack.Stack

inductive Op where
  | push (word : Word)
  | pushUInt256 (value : Option UInt256)
  | pushInt (value : Option Int)
  | pushAddress (address : Address)
  | pushClientAddress (address : ClientAddress)
  | pushSize (size : UInt64)
  | pop
  | popUInt256
  | swap (distance : Int)
  | peek (position : Int)
  | items
  | snapshot
  | digest
  | depth
  | capacity
  | reset

inductive Reply where
  | done
  | word (word : Word)
  | number (value : UInt256)
  | found (word : Option Word)
  | words (words : List Word)
  | digest (hash : Hash)
  | count (count : Nat)
  deriving DecidableEq

inductive OpError where
  | stack (error : StackError)
  | range (error : Word.RangeError)
  deriving DecidableEq

def OpError.message : OpError → Bytes
  | .stack error => error.message
  | .range error => error.message

variable {Sink : Type}

structure Outcome (Sink : Type) where
  stack : Stack Sink
  result : Except OpError Reply
  calls : List (TraceCall Sink)

def refused (stack : Stack Sink) (error : OpError) : Outcome Sink :=
  ⟨stack, .error error, []⟩

def answered (stack : Stack Sink) (reply : Reply) : Outcome Sink :=
  ⟨stack, .ok reply, []⟩

def pushWord (stack : Stack Sink) (word : Word) : Outcome Sink :=
  match stack.push word with
  | .error error => refused stack (.stack error)
  | .ok (pushed, calls) => ⟨pushed, .ok .done, calls⟩

def popAs (stack : Stack Sink) (reply : Word → Reply) : Outcome Sink :=
  match stack.pop with
  | .error error => refused stack (.stack error)
  | .ok (word, popped) => ⟨popped, .ok (reply word), []⟩

/-- Applies one operation. An integer is checked for its range before the stack is looked at. -/
def apply (stack : Stack Sink) : Op → Outcome Sink
  | .push word => stack.pushWord word
  | .pushUInt256 value => stack.pushWord (Word.ofOptionalUInt256 value)
  | .pushInt value =>
      match Word.ofOptionalInt value with
      | .error error => refused stack (.range error)
      | .ok word => stack.pushWord word
  | .pushAddress address => stack.pushWord (Word.ofAddress address)
  | .pushClientAddress address => stack.pushWord (Word.ofAddress address.toAddress)
  | .pushSize size => stack.pushWord (Word.ofUInt64 size)
  | .pop => stack.popAs .word
  | .popUInt256 => stack.popAs fun word => .number word.toUInt256
  | .swap distance =>
      match stack.swap distance with
      | .error error => refused stack (.stack error)
      | .ok swapped => answered swapped .done
  | .peek position => answered stack (.found (stack.peek position))
  | .items => answered stack (.words stack.items)
  | .snapshot => answered stack (.words stack.snapshot)
  | .digest => answered stack (.digest stack.digest)
  | .depth => answered stack (.count stack.depth)
  | .capacity => answered stack (.count stack.capacity)
  | .reset => answered stack.reset .done

structure Run (Sink : Type) where
  stack : Stack Sink
  results : List (Except OpError Reply)
  calls : List (TraceCall Sink)

/-- Applies operations one after the other, past refusals. -/
def run (stack : Stack Sink) : List Op → Run Sink
  | [] => ⟨stack, [], []⟩
  | op :: rest =>
      let first := stack.apply op
      let later := run first.stack rest
      ⟨later.stack, first.result :: later.results, first.calls ++ later.calls⟩

/-! ## Repeated operations -/

/-- How far a repetition came: the stack, what each round gave, the reason if a round was refused,
and all calls in order. -/
structure Repetition (Sink : Type) (Item : Type) where
  stack : Stack Sink
  rounds : List Item
  error : Option OpError
  calls : List (TraceCall Sink)

/-- Pushes `count` consecutive sizes, wrapping at 2^64, until one is refused. -/
def fill (stack : Stack Sink) (size : UInt64) : Nat → Repetition Sink UInt64
  | 0 => ⟨stack, [], none, []⟩
  | count + 1 =>
      let first := stack.apply (.pushSize size)
      match first.result with
      | .error error => ⟨first.stack, [], some error, first.calls⟩
      | .ok _ =>
          let later := first.stack.fill (size + 1) count
          ⟨later.stack, size :: later.rounds, later.error, first.calls ++ later.calls⟩

def drain (stack : Stack Sink) : Nat → Repetition Sink Word
  | 0 => ⟨stack, [], none, []⟩
  | count + 1 =>
      match stack.pop with
      | .error error => ⟨stack, [], some (.stack error), []⟩
      | .ok (word, popped) =>
          let later := popped.drain count
          ⟨later.stack, word :: later.rounds, later.error, later.calls⟩

end OperandStack.Stack
