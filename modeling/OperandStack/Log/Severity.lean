import OperandStack.Bytes

/-!
# Severities of log records

A record is written at one of four severities, each of which has a level on an integer scale. A
logger's threshold is any level of that scale.
-/

set_option autoImplicit false

namespace OperandStack.Log

abbrev Level := Int

inductive Severity where
  | debug
  | info
  | warn
  | error
  deriving DecidableEq, Repr

namespace Severity

def level : Severity → Level
  | .debug => -4
  | .info => 0
  | .warn => 4
  | .error => 8

def name : Severity → Bytes
  | .debug => ascii "DEBUG"
  | .info => ascii "INFO"
  | .warn => ascii "WARN"
  | .error => ascii "ERROR"

/-- The least severity that is shown at a verbosity: errors up to 1, warnings at 2, information at
3, and everything from 4 on. -/
def ofVerbosity (verbosity : Int) : Severity :=
  if verbosity ≤ 1 then .error
  else if verbosity = 2 then .warn
  else if verbosity = 3 then .info
  else .debug

end Severity

end OperandStack.Log
