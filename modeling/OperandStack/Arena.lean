import OperandStack.Metrics
import OperandStack.Stack.Op

/-!
# Stacks and their pool

An arena keeps every stack that was ever made under a handle, and a pool of handles that no owner
holds. A request to the pool is served by an idle stack or by a new one, as the pool chooses; the
choice is an argument, so that every statement about an arena can be made for all choices. A stack
goes through the pool with its cells as they are.
-/

set_option autoImplicit false

namespace OperandStack

abbrev Handle := Nat

structure PoolStats where
  allocations : UInt64
  gets : UInt64
  puts : UInt64
  deriving DecidableEq

namespace PoolStats

/-- The requests that an idle stack served, and all requests; absent if there is no such pair to
divide. -/
def hitRatio? (stats : PoolStats) : Option (UInt64 × UInt64) :=
  if stats.gets = 0 ∨ stats.allocations ≥ stats.gets then none
  else some (stats.gets - stats.allocations, stats.gets)

def hitRate (stats : PoolStats) : Float :=
  match stats.hitRatio? with
  | none => 0
  | some (hits, requests) => hits.toFloat / requests.toFloat

end PoolStats

/-- The handles that no owner holds, and the counters of use. -/
structure Pool where
  idle : List Handle
  allocations : Counter
  gets : Counter
  puts : Counter

namespace Pool

def new : Pool where
  idle := []
  allocations := .new (ascii "evm/stackpool/allocs")
  gets := .new (ascii "evm/stackpool/gets")
  puts := .new (ascii "evm/stackpool/puts")

def stats (pool : Pool) : PoolStats :=
  ⟨pool.allocations.value.toUInt64, pool.gets.value.toUInt64, pool.puts.value.toUInt64⟩

def discard (pool : Pool) (position : Nat) : Pool :=
  { pool with idle := pool.idle.eraseIdx position }

end Pool

/-- How a pool serves a request: with the idle stack at a position, if there is one, or with a new
stack. -/
inductive PoolChoice where
  | reuse (position : Nat)
  | allocate
  deriving DecidableEq

/-- Every stack that was made, at the position that is its handle, and the pool. -/
structure Arena (Sink : Type) where
  slots : Array (Stack Sink)
  pool : Pool

namespace Arena

variable {Sink : Type}

def empty : Arena Sink :=
  ⟨#[], .new⟩

def stack? (arena : Arena Sink) (handle : Handle) : Option (Stack Sink) :=
  arena.slots[handle]?

def update (arena : Arena Sink) (handle : Handle) (stack : Stack Sink) : Arena Sink :=
  { arena with slots := arena.slots.setIfInBounds handle stack }

structure Outcome (Sink : Type) where
  arena : Arena Sink
  result : Except Stack.OpError Stack.Reply
  calls : List (TraceCall Sink)

def perform (arena : Arena Sink) (handle : Handle) (op : Stack.Op) : Option (Outcome Sink) :=
  (arena.stack? handle).map fun stack =>
    let outcome := stack.apply op
    ⟨arena.update handle outcome.stack, outcome.result, outcome.calls⟩

def make (arena : Arena Sink) (settings : List (Stack.Setting Sink)) : Handle × Arena Sink :=
  (arena.slots.size, { arena with slots := arena.slots.push (Stack.new settings) })

/-- Lets the pool forget the idle stack at a position, which it may do at any time. -/
def discard (arena : Arena Sink) (position : Nat) : Arena Sink :=
  { arena with pool := arena.pool.discard position }

/-- Takes an unconfigured stack from the pool: the idle one at the chosen position, or a new one,
which is counted as an allocation. -/
def take (arena : Arena Sink) (choice : PoolChoice) : Handle × Arena Sink :=
  let chosen :=
    match choice with
    | .allocate => none
    | .reuse position => arena.pool.idle[position]?.map fun handle => (position, handle)
  match chosen with
  | some (position, handle) => (handle, arena.discard position)
  | none =>
      let counted := { arena.pool with allocations := arena.pool.allocations.increment }
      { arena with pool := counted }.make []

/-- Serves a request to the pool: the stack is emptied, loses its tracer and gets the settings of
the new owner. -/
def get (arena : Arena Sink) (choice : PoolChoice) (settings : List (Stack.Setting Sink)) :
    Handle × Arena Sink :=
  let (handle, taken) := arena.take choice
  let ready :=
    match taken.stack? handle with
    | none => taken
    | some stack => taken.update handle (stack.release.configure settings)
  (handle, { ready with pool := { ready.pool with gets := ready.pool.gets.increment } })

/-- Gives a stack back to the pool, emptied and without its tracer. Giving back none is ignored. -/
def put (arena : Arena Sink) : Option Handle → Arena Sink
  | none => arena
  | some handle =>
      let emptied :=
        match arena.stack? handle with
        | none => arena
        | some stack => arena.update handle stack.release
      { emptied with
        pool := { emptied.pool with
          idle := handle :: emptied.pool.idle
          puts := emptied.pool.puts.increment } }

end Arena

end OperandStack
