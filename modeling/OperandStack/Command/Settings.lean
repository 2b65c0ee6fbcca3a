import OperandStack.Bytes

/-!
# Settings of the command

The settings decide how much is logged and which operations are replayed. They are checked before
anything else happens.
-/

set_option autoImplicit false

namespace OperandStack.Command

structure Output where
  code : Nat
  stdout : Bytes
  stderr : Bytes
  deriving DecidableEq, Repr

structure Settings where
  verbosity : Int
  trace : Bool
  metrics : Bool
  operations : List Bytes
  deriving DecidableEq, Repr

inductive SettingsError where
  | verbosity (value : Int)
  | noOperations
  deriving DecidableEq, Repr

def SettingsError.message : SettingsError → Bytes
  | .verbosity value => ascii "verbosity must be 0-5, got " ++ Bytes.decimalInt value
  | .noOperations => ascii "no operations given"

namespace Settings

def initial : Settings :=
  ⟨3, false, false, []⟩

/-- The first fault in the settings: the verbosity is looked at before the operations. -/
def fault? (settings : Settings) : Option SettingsError :=
  if settings.verbosity < 0 ∨ settings.verbosity > 5 then some (.verbosity settings.verbosity)
  else if settings.operations.isEmpty then some .noOperations
  else none

end Settings

end OperandStack.Command
