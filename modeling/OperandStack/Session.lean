import OperandStack.Arena
import OperandStack.Sink

/-!
# Sessions

A session holds an arena of stacks, the names under which their owners hold them, and the sinks that
their tracers report to. Each step acts on the stack of one name and is answered with what the owner
sees of it: the result, the records that recorders saw, and the stack's depth and top afterwards.
-/

set_option autoImplicit false

namespace OperandStack

abbrev SinkId := Nat

namespace Session

/-- What a tracer is made of. -/
inductive TracerPlan where
  | silent
  | recorder
  | meter
  /-- A log of its own with a threshold, for a part of the program if one is named. -/
  | journal (threshold : Log.Level) (module : Option Bytes)
  /-- The part of the default logger, at a threshold, that belongs to stacks. -/
  | defaultJournal (threshold : Log.Level)
  | fanOut (parts : List (Option Bytes))

structure Definition where
  name : Bytes
  plan : TracerPlan

inductive Action where
  | make (tracers : List (Option Bytes))
  | poolGet (tracers : List (Option Bytes))
  | poolPut
  | poolPutNothing
  | poolStats
  | inspect (tracer : Bytes)
  | perform (op : Stack.Op)
  | fill (size : UInt64) (count : Nat)
  | drain (count : Nat)

structure Step where
  name : Bytes
  action : Action

inductive SinkReport where
  | measurements (values : List (Bytes × Int64))
  | lines (lines : List Bytes)
  deriving DecidableEq

inductive Answer where
  | done
  | stats (stats : PoolStats)
  | sink (report : Option SinkReport)
  | performed (result : Except Stack.OpError Stack.Reply)
  | filled (count : Nat) (error : Option Stack.OpError)
  | drained (words : List Word) (error : Option Stack.OpError)
  | unknownName

structure Event where
  label : Bytes
  word : Word
  depth : Nat
  deriving DecidableEq

structure View where
  depth : Nat
  top : Option Word
  deriving DecidableEq

structure Report where
  answer : Answer
  events : List Event
  view : Option View

end Session

/-- The stacks, the sinks, the tracers by name and the handles that owners hold, by name. -/
structure Session where
  arena : Arena SinkId
  sinks : Array Sink
  tracers : List (Bytes × Tracer SinkId)
  owners : List (Bytes × Handle)

namespace Session

def tracer? (session : Session) (name : Bytes) : Option (Tracer SinkId) :=
  session.tracers.lookup name

def handle? (session : Session) (name : Bytes) : Option Handle :=
  session.owners.lookup name

def stack? (session : Session) (name : Bytes) : Option (Stack SinkId) :=
  (session.handle? name).bind session.arena.stack?

/-- What a name in a list of tracers stands for; an absent name is no tracer. -/
def resolve (session : Session) (name : Option Bytes) : Option (Tracer SinkId) :=
  name.bind session.tracer?

/-! ## Setting up -/

def addSink (session : Session) (name : Bytes) (sink : Sink) : Session :=
  { session with
    sinks := session.sinks.push sink
    tracers := (name, .single session.sinks.size) :: session.tracers }

def define (session : Session) (definition : Definition) : Session :=
  let name := definition.name
  match definition.plan with
  | .silent => { session with tracers := (name, .silent) :: session.tracers }
  | .recorder => session.addSink name (.recorder name)
  | .meter => session.addSink name (.meter .new)
  | .journal threshold module =>
      let root := Log.Logger.root threshold
      let logger := (module.map root.forModule).getD root
      session.addSink name (.openJournal (.new root) (some logger))
  | .defaultJournal threshold =>
      session.addSink name (.openJournal (.new (.root threshold)) none)
  | .fanOut parts =>
      let tracer := Tracer.ofParts (parts.map session.resolve)
      { session with tracers := (name, tracer) :: session.tracers }

def own (session : Session) (name : Bytes) (held : Handle × Arena SinkId) : Session :=
  { session with
    arena := held.2
    owners := (name, held.1) :: session.owners.filter fun owner => owner.1 ≠ name }

def mainName : Bytes :=
  ascii "main"

/-- A session with the given tracers and one new stack without a tracer. -/
def start (definitions : List Definition) : Session :=
  let session := definitions.foldl define ⟨.empty, #[], [], []⟩
  session.own mainName (session.arena.make [])

/-! ## Steps -/

def deliver (session : Session) (calls : List (TraceCall SinkId)) : Session :=
  { session with
    sinks := calls.foldl
      (fun sinks call => sinks.modify call.sink fun sink => sink.receive call.word call.depth)
      session.sinks }

def event? (session : Session) (call : TraceCall SinkId) : Option Event :=
  match session.sinks[call.sink]? with
  | some (Sink.recorder label) => some ⟨label, call.word, call.depth⟩
  | _ => none

def events (session : Session) (calls : List (TraceCall SinkId)) : List Event :=
  calls.filterMap session.event?

/-- Reads a sink. Reading a journal takes its lines out. -/
def inspectSink : Sink → Option SinkReport × Sink
  | .recorder label => (none, .recorder label)
  | .meter seen =>
      (some (.measurements
        [(seen.pushes.name, seen.pushes.value), (seen.peakDepth.name, seen.peakDepth.value)]),
        .meter seen)
  | .journal logger lines => (some (.lines lines.toList), .journal logger #[])

def inspect (session : Session) : Tracer SinkId → Option SinkReport × Session
  | .single id =>
      match session.sinks[id]? with
      | none => (none, session)
      | some sink =>
          let (report, read) := inspectSink sink
          (report, { session with sinks := session.sinks.setIfInBounds id read })
  | _ => (none, session)

/-- The outcome of an action: the answer, the calls in sinks, and the session before they are
delivered. -/
structure Effect where
  session : Session
  answer : Answer
  calls : List (TraceCall SinkId)

def onStack (session : Session) (name : Bytes) (action : Handle → Stack SinkId → Effect) :
    Effect :=
  match session.handle? name with
  | none => ⟨session, .unknownName, []⟩
  | some handle =>
      match session.arena.stack? handle with
      | none => ⟨session, .unknownName, []⟩
      | some stack => action handle stack

def update (session : Session) (handle : Handle) (stack : Stack SinkId) : Session :=
  { session with arena := session.arena.update handle stack }

/-- The effect of an action. The pool serves with an idle stack whenever it has one. -/
def act (session : Session) (name : Bytes) : Action → Effect
  | .make tracers =>
      ⟨session.own name (session.arena.make (tracers.map session.resolve)), .done, []⟩
  | .poolGet tracers =>
      let held := session.arena.get (.reuse 0) (tracers.map session.resolve)
      ⟨session.own name held, .done, []⟩
  | .poolPut =>
      session.onStack name fun handle _ =>
        ⟨{ session with
          arena := session.arena.put (some handle)
          owners := session.owners.filter fun owner => owner.1 ≠ name }, .done, []⟩
  | .poolPutNothing => ⟨{ session with arena := session.arena.put none }, .done, []⟩
  | .poolStats => ⟨session, .stats session.arena.pool.stats, []⟩
  | .inspect tracer =>
      match session.tracer? tracer with
      | none => ⟨session, .unknownName, []⟩
      | some found =>
          let (report, read) := session.inspect found
          ⟨read, .sink report, []⟩
  | .perform op =>
      session.onStack name fun handle _ =>
        match session.arena.perform handle op with
        | none => ⟨session, .unknownName, []⟩
        | some done => ⟨{ session with arena := done.arena }, .performed done.result, done.calls⟩
  | .fill size count =>
      session.onStack name fun handle stack =>
        let filled := stack.fill size count
        ⟨session.update handle filled.stack, .filled filled.rounds.length filled.error,
          filled.calls⟩
  | .drain count =>
      session.onStack name fun handle stack =>
        let drained := stack.drain count
        ⟨session.update handle drained.stack, .drained drained.rounds drained.error,
          drained.calls⟩

def step (session : Session) (step : Step) : Session × Report :=
  let effect := session.act step.name step.action
  let after := effect.session.deliver effect.calls
  let view := (after.stack? step.name).map fun stack => ⟨stack.depth, stack.top?⟩
  (after, ⟨effect.answer, effect.session.events effect.calls, view⟩)

def run (session : Session) : List Step → Session × List Report
  | [] => (session, [])
  | first :: rest =>
      let (after, report) := session.step first
      let (final, reports) := after.run rest
      (final, report :: reports)

end Session

end OperandStack
