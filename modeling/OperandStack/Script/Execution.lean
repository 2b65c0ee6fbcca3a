import OperandStack.Script.Operation

/-!
# Executing a script

Operations are applied in order until one is refused. Popped and peeked words are printed as they
come; what was printed before a refusal stays.
-/

set_option autoImplicit false

namespace OperandStack.Script

structure ExecutionError where
  step : Nat
  source : Bytes
  cause : Stack.OpError
  deriving DecidableEq

def ExecutionError.message (error : ExecutionError) : Bytes :=
  ascii "step " ++ Bytes.decimal error.step ++ ascii " (" ++ error.source ++ ascii "): " ++
    error.cause.message

/-- What an execution leads to: the stack, the printed text, the calls in the tracer's sinks, and
the refusal if there was one. -/
structure Execution (Sink : Type) where
  stack : Stack Sink
  output : Bytes
  calls : List (TraceCall Sink)
  error : Option ExecutionError

/-- What an operation prints when it is answered: a popped word, and whether a peeked position holds
a word. -/
def Operation.printed : Operation → Stack.Reply → Bytes
  | .pop, .word word => Bytes.line (ascii "pop " ++ word.format true 'x')
  | .peek position, .found (some word) =>
      Bytes.line (ascii "peek " ++ Bytes.decimalInt position ++ ascii " " ++ word.format true 'x')
  | .peek position, .found none =>
      Bytes.line (ascii "peek " ++ Bytes.decimalInt position ++ ascii " absent")
  | _, _ => []

variable {Sink : Type}

/-- Executes instructions of which the first has the given place in the script. -/
def executeFrom (step : Nat) (stack : Stack Sink) : List Instruction → Execution Sink
  | [] => ⟨stack, [], [], none⟩
  | instruction :: rest =>
      let outcome := stack.apply instruction.operation.toOp
      match outcome.result with
      | .error cause =>
          ⟨outcome.stack, [], outcome.calls, some ⟨step, instruction.source, cause⟩⟩
      | .ok reply =>
          let later := executeFrom (step + 1) outcome.stack rest
          { later with
            output := instruction.operation.printed reply ++ later.output
            calls := outcome.calls ++ later.calls }

def execute (stack : Stack Sink) (script : List Instruction) : Execution Sink :=
  executeFrom 0 stack script

end OperandStack.Script
