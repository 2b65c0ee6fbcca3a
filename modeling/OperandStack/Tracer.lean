import OperandStack.Word

/-!
# Tracers

A tracer decides which sinks hear about a successful push. Sinks are only named here, by values of
any type; what a sink does with a record is its own matter. A tracer that fans out holds tracers
again, and reports to them in order.
-/

set_option autoImplicit false

namespace OperandStack

/-- The record of one push as one sink receives it, with the depth after the push. -/
structure TraceCall (Sink : Type) where
  sink : Sink
  word : Word
  depth : Nat
  deriving DecidableEq

inductive Tracer (Sink : Type) where
  | silent
  | single (sink : Sink)
  | fanOut (parts : List (Tracer Sink))

namespace Tracer

variable {Sink : Type}

/-- A tracer that reports to every part that is present. -/
def ofParts (parts : List (Option (Tracer Sink))) : Tracer Sink :=
  .fanOut (parts.filterMap id)

mutual

def notify (word : Word) (depth : Nat) : Tracer Sink → List (TraceCall Sink)
  | .silent => []
  | .single sink => [⟨sink, word, depth⟩]
  | .fanOut parts => notifyAll word depth parts

def notifyAll (word : Word) (depth : Nat) : List (Tracer Sink) → List (TraceCall Sink)
  | [] => []
  | part :: rest => notify word depth part ++ notifyAll word depth rest

end

mutual

/-- The sinks of a tracer from left to right; a sink that is named twice is listed twice. -/
def leaves : Tracer Sink → List Sink
  | .silent => []
  | .single sink => [sink]
  | .fanOut parts => leavesAll parts

def leavesAll : List (Tracer Sink) → List Sink
  | [] => []
  | part :: rest => leaves part ++ leavesAll rest

end

mutual

/-- A push calls each sink of the tracer once for each time that it is listed, in order. -/
theorem notify_eq_map_leaves (word : Word) (depth : Nat) (tracer : Tracer Sink) :
    tracer.notify word depth = tracer.leaves.map fun sink => ⟨sink, word, depth⟩ := by
  cases tracer with
  | silent => rfl
  | single sink => rfl
  | fanOut parts => exact notifyAll_eq_map_leavesAll word depth parts

theorem notifyAll_eq_map_leavesAll (word : Word) (depth : Nat) (parts : List (Tracer Sink)) :
    notifyAll word depth parts = (leavesAll parts).map fun sink => ⟨sink, word, depth⟩ := by
  cases parts with
  | nil => rfl
  | cons part rest =>
      rw [notifyAll, leavesAll, List.map_append, notify_eq_map_leaves word depth part,
        notifyAll_eq_map_leavesAll word depth rest]

end

end Tracer

end OperandStack
