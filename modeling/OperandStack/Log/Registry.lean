import OperandStack.Log.Logger

/-!
# A registry of loggers

Loggers are numbered in the order of their making, and one of them is the default, which serves the
calls that name none. The default can be replaced; loggers made before keep their own settings.
-/

set_option autoImplicit false

namespace OperandStack.Log

/-- All loggers in the order of their making, and the default. -/
structure Registry where
  loggers : Array Logger
  fallback : Logger

/-- A request to a registry; an absent number stands for the default logger. -/
inductive Request where
  | forModule (on : Option Nat) (name : Bytes)
  | extend (on : Option Nat) (values : List Value)
  | setDefault (number : Option Nat)
  | enabled (on : Option Nat) (level : Level)
  | write (on : Option Nat) (severity : Severity) (message : Bytes) (values : List Value)

structure Response where
  lines : List Bytes
  enabled : Option Bool
  deriving DecidableEq

namespace Registry

def new (root : Logger) : Registry :=
  ⟨#[root], root⟩

/-- The logger of a number; the default serves absent and unknown numbers. -/
def find (registry : Registry) : Option Nat → Logger
  | none => registry.fallback
  | some number => registry.loggers.getD number registry.fallback

def register (registry : Registry) (logger : Logger) : Registry :=
  { registry with loggers := registry.loggers.push logger }

/-- Serves one request. Setting an absent logger as the default changes nothing. -/
def serve (registry : Registry) : Request → Registry × Response
  | .forModule on name => (registry.register ((registry.find on).forModule name), ⟨[], none⟩)
  | .extend on values => (registry.register ((registry.find on).extend values), ⟨[], none⟩)
  | .setDefault none => (registry, ⟨[], none⟩)
  | .setDefault (some number) =>
      ({ registry with fallback := registry.find (some number) }, ⟨[], none⟩)
  | .enabled on level => (registry, ⟨[], some ((registry.find on).enabled level)⟩)
  | .write on severity message values =>
      (registry, ⟨((registry.find on).line? severity message values).toList, none⟩)

def serveAll (registry : Registry) : List Request → Registry × List Response
  | [] => (registry, [])
  | request :: rest =>
      let first := registry.serve request
      let later := first.1.serveAll rest
      (later.1, first.2 :: later.2)

end Registry

end OperandStack.Log
