import OperandStack.Bytes
import OperandStack.Hex
import OperandStack.Text.Utf8
import OperandStack.Text.Printable
import OperandStack.Text.Quoted
import OperandStack.Hex.Message
import OperandStack.FixedBytes
import OperandStack.Hash
import OperandStack.Address
import OperandStack.Word
import OperandStack.Word.Text
import OperandStack.Condition
import OperandStack.Word.Error
import OperandStack.Client
import OperandStack.Keccak
import OperandStack.Tracer
import OperandStack.Stack.Buffer
import OperandStack.Stack.Error
import OperandStack.Stack
import OperandStack.Stack.Lemmas
import OperandStack.Stack.Op
import OperandStack.Metrics
import OperandStack.Log.Severity
import OperandStack.Log.Attribute
import OperandStack.Log.Line
import OperandStack.Log.Logger
import OperandStack.Log.Registry
import OperandStack.Sink
import OperandStack.Arena
import OperandStack.Session
import OperandStack.Numeral
import OperandStack.Script.Operation
import OperandStack.Script.Reading
import OperandStack.Script.Execution
import OperandStack.Command.Settings
import OperandStack.Command.Flags
import OperandStack.Command
import OperandStack.Main
import OperandStack.Proofs.Stack.Meaning
import OperandStack.Proofs.Stack.Refusal
import OperandStack.Proofs.Command.Reference
import OperandStack.Proofs.Command.SnapshotReplay
import OperandStack.Proofs.Script.DepthProfile
import OperandStack.Proofs.Arena.Custody
import OperandStack.Proofs.Arena.FreshRun
import OperandStack.Proofs.Script.Grammar
import OperandStack.Proofs.Stack.Frame
import OperandStack.Proofs.Tracer.History
import OperandStack.Proofs.Numeral.Decimal
import OperandStack.Proofs.Word.Integer
import OperandStack.Proofs.Hex.Numeral
import OperandStack.Proofs.Hex.Readers
import OperandStack.Proofs.Script.Source
import OperandStack.Proofs.Script.Course
import OperandStack.Proofs.Metrics.Meter
import OperandStack.Proofs.Command.Diagnostics
import OperandStack.Proofs.Word.NormalForm
import OperandStack.Proofs.Command.Flags
import OperandStack.Proofs.Arena.Ledger
import OperandStack.Proofs.Arena.Metering
import OperandStack.Proofs.Command.Reports
import OperandStack.Proofs.Stack.Relabelling
import OperandStack.Proofs.Script.MissingOperand
import OperandStack.Proofs.Log.Lineage
import OperandStack.Proofs.Log.Record
import OperandStack.Proofs.Log.Trees
import OperandStack.Proofs.Arena.Observers
import OperandStack.Proofs.Hex.Salvage
import OperandStack.Proofs.Stack.Fingerprint
import OperandStack.Proofs.Tracer.Reconstruction
import OperandStack.Proofs.Stack.Rearrangement
import OperandStack.Proofs.Word.Embedding
import OperandStack.Proofs.Metrics.Aggregation
import OperandStack.Proofs.FixedBytes.Fitting
