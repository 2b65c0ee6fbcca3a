import OperandStack.Log.Registry
import OperandStack.Metrics
import OperandStack.Tracer
import OperandStack.Word.Text

/-!
# Sinks

What a sink does with the records of pushes: a recorder only lets them be seen, a meter counts them
and keeps the greatest depth, and a journal writes them to a log.
-/

set_option autoImplicit false

namespace OperandStack

/-- The number of pushes and the greatest depth that they brought about. -/
structure PushMeter where
  pushes : Counter
  peakDepth : Gauge
  deriving DecidableEq

namespace PushMeter

def new : PushMeter :=
  ⟨.new (ascii "evm/stack/pushes"), .new (ascii "evm/stack/peak_depth")⟩

def receive (meter : PushMeter) (depth : Nat) : PushMeter :=
  ⟨meter.pushes.increment, meter.peakDepth.raise (Int64.ofNat depth)⟩

end PushMeter

def Log.Logger.pushLine? (logger : Log.Logger) (word : Word) (depth : Nat) : Option Bytes :=
  logger.line? .debug (ascii "push")
    [.text (ascii "value"), .text word.text, .text (ascii "depth"), .int depth]

inductive Sink where
  | recorder (label : Bytes)
  | meter (meter : PushMeter)
  | journal (logger : Log.Logger) (lines : Array Bytes)

namespace Sink

/-- A journal of a logger. Where none is given, it is that of the logger which is the default now,
in the part that belongs to stacks; replacing the default later does not change the journal. -/
def openJournal (registry : Log.Registry) (logger : Option Log.Logger) : Sink :=
  .journal (logger.getD (registry.fallback.forModule (ascii "stack"))) #[]

def receive (sink : Sink) (word : Word) (depth : Nat) : Sink :=
  match sink with
  | .recorder label => .recorder label
  | .meter seen => .meter (seen.receive depth)
  | .journal logger lines =>
      match logger.pushLine? word depth with
      | none => .journal logger lines
      | some line => .journal logger (lines.push line)

end Sink

end OperandStack
