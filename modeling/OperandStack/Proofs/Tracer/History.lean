import Mathlib.Logic.Function.Basic
import OperandStack.Proofs.Arena.Handout

/-!
# The history of trace calls

Several stacks share sinks through tracers that are put together in any way, and operations on them
come in any order. The calls in all sinks are those of the successful pushes, one after the other,
and each push calls the sinks of its own stack from left to right. Neither the nesting of a tracer
nor its absent parts can be heard.
-/

set_option autoImplicit false

namespace OperandStack

variable {Sink : Type}

/-! ## Trees of tracers -/

namespace Tracer

/-- How a tracer is put together; a part may be absent wherever one is expected. -/
inductive Tree (Sink : Type) where
  | absent
  | silent
  | leaf (sink : Sink)
  | fanOut (parts : List (Tree Sink))

namespace Tree

mutual

def build : Tree Sink → Option (Tracer Sink)
  | .absent => none
  | .silent => some .silent
  | .leaf sink => some (.single sink)
  | .fanOut parts => some (.ofParts (buildAll parts))

def buildAll : List (Tree Sink) → List (Option (Tracer Sink))
  | [] => []
  | part :: rest => build part :: buildAll rest

end

mutual

def sinks : Tree Sink → List Sink
  | .absent => []
  | .silent => []
  | .leaf sink => [sink]
  | .fanOut parts => sinksAll parts

def sinksAll : List (Tree Sink) → List Sink
  | [] => []
  | part :: rest => sinks part ++ sinksAll rest

end

def flat (tree : Tree Sink) : Tree Sink :=
  .fanOut (tree.sinks.map .leaf)

mutual

theorem leaves_build (tree : Tree Sink) : (tree.build.getD .silent).leaves = tree.sinks := by
  cases tree with
  | absent => rfl
  | silent => rfl
  | leaf sink => rfl
  | fanOut parts => exact leavesAll_buildAll parts

private theorem leavesAll_buildAll (parts : List (Tree Sink)) :
    leavesAll ((buildAll parts).filterMap id) = sinksAll parts := by
  cases parts with
  | nil => rfl
  | cons part rest =>
      have first := leaves_build part
      have others := leavesAll_buildAll rest
      rw [buildAll, sinksAll, ← first, ← others]
      cases part.build with
      | none => rfl
      | some tracer => rfl

end

private theorem sinksAll_map_leaf (sinks : List Sink) : sinksAll (sinks.map .leaf) = sinks := by
  induction sinks with
  | nil => rfl
  | cons sink rest ih => rw [List.map_cons, sinksAll, ih]; rfl

theorem sinks_flat (tree : Tree Sink) : tree.flat.sinks = tree.sinks :=
  sinksAll_map_leaf tree.sinks

end Tree

end Tracer

/-! ## What an operation reports -/

namespace Stack

/-- The calls that are due in sinks for an operation with a result and a depth afterwards: those of
a push that succeeded, and no others. -/
def Op.due (op : Op) (result : Except OpError Reply) (depth : Nat) (sinks : List Sink) :
    List (TraceCall Sink) :=
  match result with
  | .error _ => []
  | .ok _ =>
      match op.pushed? with
      | none => []
      | some word => sinks.map fun sink => ⟨sink, word, depth⟩

theorem calls_apply (stack : Stack Sink) (op : Op) :
    (stack.apply op).calls =
      op.due (op.meaning stack.items).result (op.meaning stack.items).items.length
        stack.tracer.leaves := by
  rw [(apply_realizes stack op).calls, reported_meaning]
  unfold Op.due
  cases (op.meaning stack.items).result with
  | error error => rfl
  | ok reply =>
      cases op.pushed? with
      | none => rfl
      | some word => exact Tracer.notify_eq_map_leaves word _ stack.tracer

end Stack

/-! ## Operations on several stacks -/

namespace Arena

/-- An operation on one of several stacks, the depth of that stack afterwards, and the calls that
the operation caused. -/
structure Entry (Sink : Type) where
  handle : Handle
  op : Stack.Op
  result : Except Stack.OpError Stack.Reply
  depth : Nat
  calls : List (TraceCall Sink)

def depthOf (arena : Arena Sink) (handle : Handle) : Nat :=
  ((arena.stack? handle).map Stack.depth).getD 0

/-- Performs operations in order, each on the stack of its handle; a handle without a stack is
passed over. -/
def interleave (arena : Arena Sink) : List (Handle × Stack.Op) → List (Entry Sink)
  | [] => []
  | (handle, op) :: rest =>
      match arena.perform handle op with
      | none => arena.interleave rest
      | some outcome =>
          ⟨handle, op, outcome.result, outcome.arena.depthOf handle, outcome.calls⟩ ::
            outcome.arena.interleave rest

def view (arena : Arena Sink) (handle : Handle) : Option (List Word × List Sink) :=
  (arena.stack? handle).map fun stack => (stack.items, stack.tracer.leaves)

private theorem perform_eq_none_iff {arena : Arena Sink} {handle : Handle} (op : Stack.Op) :
    arena.perform handle op = none ↔ arena.view handle = none := by
  rw [perform, view, Option.map_eq_none_iff, Option.map_eq_none_iff]

private theorem perform_view {arena : Arena Sink} {handle : Handle} {items : List Word}
    {sinks : List Sink} (shown : arena.view handle = some (items, sinks)) (op : Stack.Op) :
    ∃ outcome, arena.perform handle op = some outcome ∧
      outcome.result = (op.meaning items).result ∧
      outcome.arena.depthOf handle = (op.meaning items).items.length ∧
      outcome.calls =
        op.due (op.meaning items).result (op.meaning items).items.length sinks ∧
      outcome.arena.view =
        Function.update arena.view handle (some ((op.meaning items).items, sinks)) := by
  obtain ⟨stack, found, same⟩ := Option.map_eq_some_iff.mp shown
  cases same
  have realized := Stack.apply_realizes stack op
  have updated := stack?_update_self found (stack.apply op).stack
  refine ⟨⟨arena.update handle (stack.apply op).stack, (stack.apply op).result,
    (stack.apply op).calls⟩, ?_, realized.result, ?_, Stack.calls_apply stack op, ?_⟩
  · rw [perform, found, Option.map_some]
  · rw [depthOf, updated, Option.map_some, Option.getD_some, ← realized.items, Stack.length_items]
  · funext other
    by_cases own : other = handle
    · subst other
      rw [Function.update_self, view, updated, Option.map_some, realized.items, realized.tracer]
    · rw [Function.update_of_ne own, view, stack?_update_of_ne arena own]
      rfl

private theorem interleave_congr {left right : Arena Sink} (same : left.view = right.view)
    (moves : List (Handle × Stack.Op)) : left.interleave moves = right.interleave moves := by
  induction moves generalizing left right with
  | nil => rfl
  | cons move rest ih =>
      obtain ⟨handle, op⟩ := move
      cases shown : left.view handle with
      | none =>
          have leftAbsent := (perform_eq_none_iff op).mpr shown
          have rightAbsent := (perform_eq_none_iff op).mpr (same ▸ shown)
          rw [interleave, interleave, leftAbsent, rightAbsent]
          exact ih same
      | some present =>
          obtain ⟨items, sinks⟩ := present
          obtain ⟨leftOutcome, leftDone, leftResult, leftDepth, leftCalls, leftView⟩ :=
            perform_view shown op
          obtain ⟨rightOutcome, rightDone, rightResult, rightDepth, rightCalls, rightView⟩ :=
            perform_view (same ▸ shown) op
          have later : leftOutcome.arena.interleave rest = rightOutcome.arena.interleave rest :=
            ih (by rw [leftView, rightView, same])
          simp only [interleave, leftDone, rightDone, leftResult, rightResult, leftDepth,
            rightDepth, leftCalls, rightCalls, later]

/-! ## Families of stacks -/

def ofMembers (members : List (Stack Sink × Tracer.Tree Sink)) : Arena Sink :=
  ⟨(members.map fun member => member.1.configure [member.2.build]).toArray, .new⟩

def sinksAt (members : List (Stack Sink × Tracer.Tree Sink)) (handle : Handle) : List Sink :=
  (members[handle]?.map fun member => member.2.sinks).getD []

private theorem view_ofMembers (members : List (Stack Sink × Tracer.Tree Sink)) (handle : Handle) :
    (ofMembers members).view handle =
      members[handle]?.map fun member => (member.1.items, member.2.sinks) := by
  simp only [view, stack?, ofMembers, List.getElem?_toArray, List.getElem?_map, Option.map_map]
  congr 1
  funext member
  rw [Function.comp_apply, Stack.items_configure, Stack.tracer_configure]
  exact congrArg (member.1.items, ·) (Tracer.Tree.leaves_build member.2)

private theorem view_ofMembers_eq {members others : List (Stack Sink × Tracer.Tree Sink)}
    (same : (members.map fun member => (member.1.items, member.2.sinks)) =
      others.map fun member => (member.1.items, member.2.sinks)) :
    (ofMembers members).view = (ofMembers others).view := by
  funext handle
  rw [view_ofMembers, view_ofMembers, ← List.getElem?_map, ← List.getElem?_map, same]

theorem interleave_due {arena : Arena Sink} {count : Nat} {sinks : Handle → List Sink}
    (present : ∀ handle, (arena.view handle).isSome ↔ handle < count)
    (heard : ∀ handle items held, arena.view handle = some (items, held) → held = sinks handle)
    (moves : List (Handle × Stack.Op)) :
    (arena.interleave moves).map (fun entry => (entry.handle, entry.op)) =
        moves.filter (fun move => move.1 < count) ∧
      ∀ entry ∈ arena.interleave moves,
        entry.calls = entry.op.due entry.result entry.depth (sinks entry.handle) := by
  induction moves generalizing arena with
  | nil => exact ⟨rfl, fun _ member => nomatch member⟩
  | cons move rest ih =>
      obtain ⟨handle, op⟩ := move
      cases shown : arena.view handle with
      | none =>
          have unknown : ¬handle < count := by
            rw [← present, shown]
            exact Bool.false_ne_true
          rw [interleave, (perform_eq_none_iff op).mpr shown,
            List.filter_cons_of_neg (by simpa using unknown)]
          exact ih present heard
      | some current =>
          obtain ⟨items, held⟩ := current
          have known : handle < count := by
            rw [← present, shown]
            rfl
          obtain ⟨outcome, done, result, depth, calls, after⟩ := perform_view shown op
          have presentAfter : ∀ other, (outcome.arena.view other).isSome ↔ other < count := by
            intro other
            rw [after]
            by_cases own : other = handle
            · subst other
              rw [Function.update_self]
              exact ⟨fun _ => known, fun _ => rfl⟩
            · rw [Function.update_of_ne own]
              exact present other
          have heardAfter : ∀ other others kept,
              outcome.arena.view other = some (others, kept) → kept = sinks other := by
            intro other others kept found
            rw [after] at found
            by_cases own : other = handle
            · subst other
              rw [Function.update_self] at found
              cases found
              exact heard handle items held shown
            · rw [Function.update_of_ne own] at found
              exact heard other others kept found
          obtain ⟨named, dueLater⟩ := ih presentAfter heardAfter
          rw [interleave, done, List.map_cons, List.filter_cons_of_pos (by simpa using known)]
          refine ⟨congrArg _ named, List.forall_mem_cons.mpr ⟨?_, dueLater⟩⟩
          rw [calls, heard handle items held shown, result, depth]

/-- For stacks in any state under tracers of any shape, and operations on them in any order, every
operation is entered once, and calls in sinks are caused by successful pushes alone: all calls are
those of the pushes in order, in the sinks of the pushed stack from left to right, with the pushed
word and the depth after the push. Flattening every tracer, or silencing one that fans out to
nothing, changes no entry. -/
theorem interleaved_calls_exact (members : List (Stack Sink × Tracer.Tree Sink))
    (moves : List (Handle × Stack.Op)) :
    let entries := (ofMembers members).interleave moves
    entries.map (fun entry => (entry.handle, entry.op)) =
        moves.filter (fun move => move.1 < members.length) ∧
      (∀ entry ∈ entries, (∃ error, entry.result = .error error) ∨ entry.op.pushed? = none →
        entry.calls = []) ∧
      entries.flatMap (·.calls) =
        entries.flatMap (fun entry =>
          entry.op.due entry.result entry.depth (sinksAt members entry.handle)) ∧
      (ofMembers (members.map fun member => (member.1, member.2.flat))).interleave moves =
        entries ∧
      ∀ before stack after, members = before ++ (stack, .fanOut []) :: after →
        (ofMembers (before ++ (stack, .silent) :: after)).interleave moves = entries := by
  intro entries
  have present : ∀ handle, ((ofMembers members).view handle).isSome ↔ handle < members.length := by
    intro handle
    rw [view_ofMembers, Option.isSome_map, isSome_getElem?]
  have heard : ∀ handle items held, (ofMembers members).view handle = some (items, held) →
      held = sinksAt members handle := by
    intro handle items held shown
    rw [view_ofMembers] at shown
    obtain ⟨member, found, same⟩ := Option.map_eq_some_iff.mp shown
    cases same
    rw [sinksAt, found]
    rfl
  obtain ⟨named, due⟩ := interleave_due present heard moves
  refine ⟨named, ?_, ?_, ?_, ?_⟩
  · intro entry member noPush
    rw [due entry member]
    unfold Stack.Op.due
    rcases noPush with ⟨error, failed⟩ | other
    · rw [failed]
    · rw [other]
      cases entry.result <;> rfl
  · exact List.flatMap_congr due
  · apply interleave_congr
    apply view_ofMembers_eq
    simp only [List.map_map, Function.comp_def, Tracer.Tree.sinks_flat]
  · rintro before stack after rfl
    apply interleave_congr
    apply view_ofMembers_eq
    simp only [List.map_append, List.map_cons]
    rfl

end Arena

end OperandStack
