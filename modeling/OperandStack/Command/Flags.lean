import OperandStack.Command.Settings
import OperandStack.Numeral

/-!
# Flags of the command line

Flags come first, each with one or two dashes; a lone `--` or an argument that is no flag ends them,
and everything after is an operation. A switch takes a value only behind an equals sign, the
verbosity also from the next argument. A later flag overrides an earlier one.
-/

set_option autoImplicit false

namespace OperandStack.Command

inductive Flag where
  | verbosity
  | trace
  | metrics
  | version
  deriving DecidableEq, Repr

namespace Flag

def all : List Flag :=
  [.verbosity, .trace, .metrics, .version]

def name : Flag → Bytes
  | .verbosity => ascii "verbosity"
  | .trace => ascii "trace"
  | .metrics => ascii "metrics"
  | .version => ascii "version"

def ofName? (name : Bytes) : Option Flag :=
  all.find? fun flag => flag.name = name

end Flag

inductive FlagError where
  | malformed (argument : Bytes)
  | undefined (name : Bytes)
  | missingValue (flag : Flag)
  | badSwitch (flag : Flag) (value : Bytes)
  | badNumber (flag : Flag) (value : Bytes) (fault : Numeral.Fault)
  deriving DecidableEq, Repr

def FlagError.message : FlagError → Bytes
  | .malformed argument => ascii "bad flag syntax: " ++ argument
  | .undefined name => ascii "flag provided but not defined: -" ++ name
  | .missingValue flag => ascii "flag needs an argument: -" ++ flag.name
  | .badSwitch flag value =>
      ascii "invalid boolean value " ++ Text.Quoted.quote value ++ ascii " for -" ++ flag.name ++
        ascii ": parse error"
  | .badNumber flag value fault =>
      ascii "invalid value " ++ Text.Quoted.quote value ++ ascii " for flag -" ++ flag.name ++
        ascii ": " ++
          match fault with
          | .malformed => ascii "parse error"
          | .outOfRange => ascii "value out of range"

/-! ## Single arguments -/

/-- What an argument is, as long as flags are expected. -/
inductive Argument where
  /-- Not a flag: shorter than two bytes, or without a dash in front. -/
  | operation
  | terminator
  /-- Dashes without a name behind them. -/
  | malformed
  | flag (name : Bytes) (value : Option Bytes)
  deriving DecidableEq, Repr

def dash : UInt8 := 0x2d

def equals : UInt8 := 0x3d

/-- Reads what stands behind the dashes. The first byte belongs to the name in any case. -/
def Argument.ofBody : Bytes → Argument
  | [] => .malformed
  | first :: rest =>
      if first = dash ∨ first = equals then .malformed
      else
        let (name, value) := Bytes.cut equals rest
        .flag (first :: name) value

def Argument.ofBytes : Bytes → Argument
  | first :: second :: rest =>
      if first = dash then
        if second = dash then
          if rest.isEmpty then .terminator else .ofBody rest
        else .ofBody (second :: rest)
      else .operation
  | _ => .operation

def trueTexts : List Bytes :=
  [ascii "1", ascii "t", ascii "T", ascii "TRUE", ascii "true", ascii "True"]

def falseTexts : List Bytes :=
  [ascii "0", ascii "f", ascii "F", ascii "FALSE", ascii "false", ascii "False"]

def readSwitch? (text : Bytes) : Option Bool :=
  if text ∈ trueTexts then some true else if text ∈ falseTexts then some false else none

/-! ## The whole command line -/

structure FlagState where
  settings : Settings
  version : Bool
  deriving DecidableEq, Repr

inductive FlagStop where
  | help
  | refused (error : FlagError)
  deriving DecidableEq, Repr

def FlagState.setSwitch (state : FlagState) (flag : Flag) (on : Bool) : FlagState :=
  match flag with
  | .verbosity => state
  | .trace => { state with settings := { state.settings with trace := on } }
  | .metrics => { state with settings := { state.settings with metrics := on } }
  | .version => { state with version := on }

/-- Reads a switch with the value behind its equals sign; without one it is turned on. -/
def FlagState.readSwitch (state : FlagState) (flag : Flag) (value : Option Bytes) :
    Except FlagStop FlagState :=
  match value with
  | none => .ok (state.setSwitch flag true)
  | some text =>
      match readSwitch? text with
      | none => .error (.refused (.badSwitch flag text))
      | some on => .ok (state.setSwitch flag on)

def FlagState.readVerbosity (state : FlagState) (text : Bytes) : Except FlagStop FlagState :=
  match Numeral.readMarked text with
  | .error fault => .error (.refused (.badNumber .verbosity text fault))
  | .ok verbosity => .ok { state with settings := { state.settings with verbosity } }

/-- The stop at a name that is no flag: two names ask for help. -/
def stopAtUnknown (name : Bytes) : FlagStop :=
  if name = ascii "help" ∨ name = ascii "h" then .help else .refused (.undefined name)

def readFlags (state : FlagState) : List Bytes → Except FlagStop FlagState
  | [] => .ok { state with settings := { state.settings with operations := [] } }
  | argument :: rest =>
      match Argument.ofBytes argument with
      | .operation =>
          .ok { state with settings := { state.settings with operations := argument :: rest } }
      | .terminator => .ok { state with settings := { state.settings with operations := rest } }
      | .malformed => .error (.refused (.malformed argument))
      | .flag name value =>
          match Flag.ofName? name with
          | none => .error (stopAtUnknown name)
          | some .verbosity =>
              match value with
              | some text =>
                  match state.readVerbosity text with
                  | .error stop => .error stop
                  | .ok next => readFlags next rest
              | none =>
                  match rest with
                  | [] => .error (.refused (.missingValue .verbosity))
                  | text :: afterValue =>
                      match state.readVerbosity text with
                      | .error stop => .error stop
                      | .ok next => readFlags next afterValue
          | some switch =>
              match state.readSwitch switch value with
              | .error stop => .error stop
              | .ok next => readFlags next rest

def usage : Bytes :=
  [ascii "Usage of evmstack:",
   ascii "  -metrics",
   ascii "    \tlog push count and peak depth",
   ascii "  -trace",
   ascii "    \tlog every push at debug level",
   ascii "  -verbosity int",
   ascii "    \tlog level 0-5 (default 3)",
   ascii "  -version",
   ascii "    \tprint version and exit"].flatMap Bytes.line

def versionLine : Bytes :=
  Bytes.line (ascii "evmstack v0.1.0-dev (commit unknown)")

inductive Invocation where
  | replay (settings : Settings)
  | finished (output : Output)
  deriving DecidableEq, Repr

/-- Reads a command line. Help and refusals go to the error output, the version to the standard
output. -/
def readInvocation (arguments : List Bytes) : Invocation :=
  match readFlags ⟨.initial, false⟩ arguments with
  | .error .help => .finished ⟨0, [], usage⟩
  | .error (.refused error) => .finished ⟨2, [], Bytes.line error.message ++ usage⟩
  | .ok state =>
      if state.version then .finished ⟨0, versionLine, []⟩ else .replay state.settings

end OperandStack.Command
