import OperandStack.Log.Line

/-!
# Loggers

A logger has a threshold and the attributes that it puts before those of each call. A child logger
adds attributes to its parent's and leaves the parent as it was.
-/

set_option autoImplicit false

namespace OperandStack.Log

/-- A threshold, and the attributes of every record, oldest first. -/
structure Logger where
  threshold : Level
  attributes : List Attribute
  deriving DecidableEq

namespace Logger

def root (threshold : Level) : Logger :=
  ⟨threshold, []⟩

def extend (logger : Logger) (values : List Value) : Logger :=
  { logger with attributes := logger.attributes ++ Attribute.read values }

/-- The child of a part of the program, which names that part in every record. -/
def forModule (logger : Logger) (name : Bytes) : Logger :=
  logger.extend [.text (ascii "module"), .text name]

def enabled (logger : Logger) (level : Level) : Bool :=
  logger.threshold ≤ level

/-- The line of a call, if it is written: the logger's attributes come before those of the call. -/
def line? (logger : Logger) (severity : Severity) (message : Bytes) (values : List Value) :
    Option Bytes :=
  if logger.enabled severity.level then
    some (line severity message (logger.attributes ++ Attribute.read values))
  else none

end Logger

end OperandStack.Log
