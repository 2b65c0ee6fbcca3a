import OperandStack.Bytes

/-!
# Counters and gauges

Measurements of stacks, in signed 64-bit numbers that wrap around. A counter is only ever asked to
go up; a gauge goes both ways and can be raised to a value.
-/

set_option autoImplicit false

namespace OperandStack

structure Counter where
  name : Bytes
  value : Int64
  deriving DecidableEq

namespace Counter

def new (name : Bytes) : Counter :=
  ⟨name, 0⟩

def increment (counter : Counter) : Counter :=
  { counter with value := counter.value + 1 }

/-- Adds an amount; one that is not positive is ignored. -/
def add (counter : Counter) (amount : Int64) : Counter :=
  if 0 < amount then { counter with value := counter.value + amount } else counter

end Counter

structure Gauge where
  name : Bytes
  value : Int64
  deriving DecidableEq

namespace Gauge

def new (name : Bytes) : Gauge :=
  ⟨name, 0⟩

def set (gauge : Gauge) (value : Int64) : Gauge :=
  { gauge with value }

/-- Raises the value; one that is not larger than the current value is ignored. -/
def raise (gauge : Gauge) (value : Int64) : Gauge :=
  if value ≤ gauge.value then gauge else { gauge with value }

def increment (gauge : Gauge) : Gauge :=
  { gauge with value := gauge.value + 1 }

def decrement (gauge : Gauge) : Gauge :=
  { gauge with value := gauge.value - 1 }

end Gauge

/-- A change to a counter and a gauge that are observed together. -/
inductive MetricChange where
  | counterIncrement
  | counterAdd (amount : Int64)
  | gaugeSet (value : Int64)
  | gaugeRaise (value : Int64)
  | gaugeIncrement
  | gaugeDecrement
  deriving DecidableEq

def MetricChange.apply (counter : Counter) (gauge : Gauge) : MetricChange → Counter × Gauge
  | .counterIncrement => (counter.increment, gauge)
  | .counterAdd amount => (counter.add amount, gauge)
  | .gaugeSet value => (counter, gauge.set value)
  | .gaugeRaise value => (counter, gauge.raise value)
  | .gaugeIncrement => (counter, gauge.increment)
  | .gaugeDecrement => (counter, gauge.decrement)

def MetricChange.history (counter : Counter) (gauge : Gauge) :
    List MetricChange → List (Counter × Gauge)
  | [] => []
  | change :: rest =>
      let after := change.apply counter gauge
      after :: history after.1 after.2 rest

end OperandStack
