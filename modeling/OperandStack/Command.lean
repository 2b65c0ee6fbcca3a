import OperandStack.Command.Flags
import OperandStack.Script.Execution
import OperandStack.Script.Reading
import OperandStack.Sink

/-!
# The command

The command replays a script on a fresh stack and prints what remains, top first. It ends with code
0, with code 1 if an operation was refused, and with code 2 if the call itself was bad.
-/

set_option autoImplicit false

namespace OperandStack.Command

inductive Observer where
  | journal
  | meter
  deriving DecidableEq, Repr

def Settings.logger (settings : Settings) : Log.Logger :=
  (Log.Logger.root (Log.Severity.ofVerbosity settings.verbosity).level).forModule
    (ascii "evmstack")

def Settings.tracer (settings : Settings) : Tracer Observer :=
  .ofParts
    [if settings.trace then some (.single .journal) else none,
     if settings.metrics then some (.single .meter) else none]

def journalLines (logger : Log.Logger) (calls : List (TraceCall Observer)) : Bytes :=
  let stackLogger := logger.forModule (ascii "stack")
  (calls.filter (·.sink = .journal)).flatMap fun call =>
    match stackLogger.pushLine? call.word call.depth with
    | none => []
    | some line => Bytes.line line

def measured (calls : List (TraceCall Observer)) : PushMeter :=
  (calls.filter (·.sink = .meter)).foldl (fun meter call => meter.receive call.depth) .new

def metricsLine (logger : Log.Logger) (meter : PushMeter) : Bytes :=
  let line? := logger.line? .info (ascii "stack metrics")
    [.text (ascii "pushes"), .int meter.pushes.value.toInt,
     .text (ascii "peak_depth"), .int meter.peakDepth.value.toInt]
  match line? with
  | none => []
  | some line => Bytes.line line

/-- Replays a script on a fresh stack. The log comes before the report of a refusal, and the
remaining words are printed only after a replay without one. -/
def replay (settings : Settings) (script : List Script.Instruction) : Output :=
  let logger := settings.logger
  let execution := Script.execute (Stack.new [some settings.tracer]) script
  let log := journalLines logger execution.calls ++
    if settings.metrics then metricsLine logger (measured execution.calls) else []
  match execution.error with
  | none =>
      ⟨0, execution.output ++ execution.stack.snapshot.flatMap fun word => Bytes.line word.hex,
        log⟩
  | some error =>
      match error.cause with
      | .stack _ =>
          ⟨1, execution.output, log ++ Bytes.line (ascii "Execution halted: " ++ error.message)⟩
      | .range _ =>
          ⟨2, execution.output, log ++ Bytes.line (ascii "Error: " ++ error.message)⟩

/-- Runs the command on its arguments. The whole script is read before any of it is executed. -/
def run (arguments : List Bytes) : Output :=
  match readInvocation arguments with
  | .finished output => output
  | .replay settings =>
      match settings.fault? with
      | some error =>
          ⟨2, [], Bytes.line (ascii "Invalid configuration: " ++ error.message)⟩
      | none =>
          match Script.read settings.operations with
          | .error error => ⟨2, [], Bytes.line (ascii "Error: " ++ error.message)⟩
          | .ok script => replay settings script

end OperandStack.Command
