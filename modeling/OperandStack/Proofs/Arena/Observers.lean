import OperandStack.Proofs.Arena.Custody
import OperandStack.Proofs.Stack.Refusal

/-!
# Observers of a stack

Listing, counting, peeking, the snapshot and popping until nothing is left show one sequence of
words, and that sequence is all there is: pushed onto a new stack it gives a stack with the same
observations. The stack may have come about in any way, through the pool or apart from it, and its
owners need not have kept to their discipline.
-/

set_option autoImplicit false

namespace OperandStack

variable {Owner Sink : Type}

namespace Stack

/-- A peek as its caller receives it: a word, and whether there is one at the position. -/
def peekAt (stack : Stack Sink) (position : Int) : Word × Bool :=
  ((stack.peek position).getD .zero, (stack.peek position).isSome)

private theorem peekAt_of_lt (stack : Stack Sink) {position : Nat}
    (inside : position < stack.items.length) :
    stack.peekAt position = (stack.items[position], true) := by
  have found : stack.peek position = some stack.items[position] := by
    rw [peek_eq_getElem?, if_neg (Int.not_lt.mpr (Int.natCast_nonneg position)), Int.toNat_natCast,
      List.getElem?_eq_getElem inside]
  rw [peekAt, found]
  rfl

private theorem peekAt_of_outside (stack : Stack Sink) {position : Int}
    (outside : position < 0 ∨ stack.items.length ≤ position) :
    stack.peekAt position = (.zero, false) := by
  have missing : stack.peek position = none := by
    rw [peek_eq_getElem?]
    split
    · rfl
    · exact List.getElem?_eq_none (by omega)
  rw [peekAt, missing]
  rfl

theorem drain_of_lt {stack : Stack Sink} {count : Nat} (more : stack.depth < count) :
    (stack.drain count).rounds = stack.snapshot ∧
      (stack.drain count).error = some (.stack .emptyPop) := by
  induction count generalizing stack with
  | zero => exact absurd more (Nat.not_lt_zero _)
  | succ count ih =>
      rw [snapshot_eq_reverse_items]
      rcases List.eq_nil_or_concat stack.items with empty | ⟨below, word, shape⟩
      · have failed := (pop_eq_error_iff stack .emptyPop).mpr ⟨empty, rfl⟩
        simp only [drain, failed, empty, List.reverse_nil, and_self]
      · rw [List.concat_eq_append] at shape
        obtain ⟨popped, success, items, _⟩ := pop_of_items_eq shape
        have fewer : popped.depth < count := by
          rw [← length_items, shape, List.length_append, List.length_singleton] at more
          rw [← length_items, items]
          omega
        obtain ⟨rounds, error⟩ := ih fewer
        simp only [drain, success, rounds, error, snapshot_eq_reverse_items, items, shape,
          List.reverse_concat, and_self]

theorem run_pushes {stack : Stack Sink} {words : List Word}
    (room : stack.items.length + words.length ≤ stackLimit) :
    (run stack (words.map .push)).results = words.map (fun _ => .ok .done) ∧
      (run stack (words.map .push)).stack.items = stack.items ++ words := by
  induction words generalizing stack with
  | nil => exact ⟨rfl, (List.append_nil _).symm⟩
  | cons word rest ih =>
      rw [List.length_cons] at room
      have free : stack.items.length < stackLimit := by omega
      have realized := apply_realizes stack (.push word)
      have result : (stack.apply (.push word)).result = .ok .done := by
        rw [realized.result, Op.meaning, Meaning.push, if_pos free]
      have items : (stack.apply (.push word)).stack.items = stack.items ++ [word] := by
        rw [realized.items, Op.meaning, Meaning.push, if_pos free]
      have roomRest : (stack.apply (.push word)).stack.items.length + rest.length ≤ stackLimit := by
        rw [items, List.length_append, List.length_singleton]
        omega
      obtain ⟨results, final⟩ := ih roomRest
      constructor
      · simp only [List.map_cons, run, result, results]
      · simp only [List.map_cons, run, final, items, List.append_assoc, List.cons_append,
          List.nil_append]

end Stack

namespace Arena

/-! ## Stacks that can come about -/

namespace World

private theorem of_stack?_step {world : World Sink} {move : Move Owner Sink} {handle : Handle}
    {stack : Stack Sink} (found : (world.step move).1.arena.stack? handle = some stack) :
    stack.items = [] ∨ world.arena.stack? handle = some stack ∨
      ∃ before op, world.arena.stack? handle = some before ∧ stack = (before.apply op).stack := by
  cases move with
  | get owner settings choice =>
      rcases of_stack?_get found with fresh | earlier
      · exact .inl (fresh.items.trans (Stack.items_new settings))
      · exact .inr (.inl earlier)
  | make owner settings =>
      rcases of_stack?_make found with ⟨_, rfl⟩ | earlier
      · exact .inl (Stack.items_new settings)
      · exact .inr (.inl earlier)
  | perform owner checkout op =>
      cases issued : world.issued[checkout]? with
      | none =>
          simp only [step, issued, Option.bind_none] at found
          exact .inr (.inl found)
      | some held =>
          cases present : world.arena.stack? held with
          | none =>
              simp only [step, issued, Option.bind_some, perform, present, Option.map_none] at found
              exact .inr (.inl found)
          | some before =>
              rw [step_perform issued present] at found
              rcases of_stack?_update found with ⟨rfl, rfl⟩ | ⟨_, earlier⟩
              · exact .inr (.inr ⟨before, op, present, rfl⟩)
              · exact .inr (.inl earlier)
  | put owner checkout =>
      cases issued : world.issued[checkout]? with
      | none =>
          simp only [step, issued] at found
          exact .inr (.inl found)
      | some returned =>
          rw [step_put issued] at found
          rcases of_stack?_put found with ⟨empty, _⟩ | ⟨_, earlier⟩
          · exact .inl empty
          · exact .inr (.inl earlier)
  | putNothing owner => exact .inr (.inl found)
  | discard position => exact .inr (.inl found)

theorem stack?_run_preserves (invariant : Stack Sink → Prop)
    (empty : ∀ stack, stack.items = [] → invariant stack)
    (applied : ∀ stack op, invariant stack → invariant (stack.apply op).stack)
    {world : World Sink}
    (initial : ∀ handle stack, world.arena.stack? handle = some stack → invariant stack)
    (moves : List (Move Owner Sink)) :
    ∀ handle stack, (world.run moves).1.arena.stack? handle = some stack → invariant stack := by
  induction moves generalizing world with
  | nil => exact initial
  | cons move rest ih =>
      apply ih
      intro handle stack found
      rcases of_stack?_step found with none | same | ⟨before, op, earlier, rfl⟩
      · exact empty stack none
      · exact initial handle stack same
      · exact applied before op (initial handle before earlier)

end World

private theorem depth_stack?_run_le {moves : List (Move Owner Sink)} {handle : Handle}
    {stack : Stack Sink} (found : (World.start.run moves).1.arena.stack? handle = some stack) :
    stack.depth ≤ stackLimit := by
  refine World.stack?_run_preserves (fun stack => stack.depth ≤ stackLimit) ?_
    (fun _ op within => Stack.depth_apply_le within op) ?_ moves handle stack found
  · intro stack empty
    rw [← Stack.length_items, empty]
    exact Nat.zero_le _
  · intro handle stack none
    cases none

/-- For every stack that owners and the pool can bring about, with its words listed bottom first:
the depth is their number, a peek gives the word at a position from the bottom and the zero word
outside, the snapshot is their reverse, popping until the first refusal gives the snapshot and then
the refusal of an empty stack, and pushing them onto a new stack is never refused and gives a stack
with the same words, snapshot and digest. -/
theorem observers_show_one_sequence (moves : List (Move Owner Sink)) (handle : Handle)
    (stack : Stack Sink) (found : (World.start.run moves).1.arena.stack? handle = some stack)
    (settings : List (Stack.Setting Sink)) :
    let words := stack.items
    let rebuilt := Stack.run (.new settings) (words.map .push)
    stack.depth = words.length ∧
      (∀ position (inside : position < words.length),
        stack.peekAt position = (words[position], true)) ∧
      (∀ position : Int, position < 0 ∨ words.length ≤ position →
        stack.peekAt position = (.zero, false)) ∧
      stack.snapshot = words.reverse ∧
      (∀ count, words.length < count →
        (stack.drain count).rounds = stack.snapshot ∧
          (stack.drain count).error =
            some (.stack ⟨.pop, 0, 0, .condition .stackUnderflow⟩)) ∧
      (∀ result ∈ rebuilt.results, result = .ok .done) ∧
      rebuilt.stack.items = words ∧ rebuilt.stack.snapshot = stack.snapshot ∧
      rebuilt.stack.digest = stack.digest := by
  intro words rebuilt
  have bounded := depth_stack?_run_le found
  have room : (Stack.new settings).items.length + words.length ≤ stackLimit := by
    rwa [Stack.items_new, List.length_nil, Nat.zero_add, Stack.length_items]
  obtain ⟨results, items⟩ := Stack.run_pushes room
  rw [Stack.items_new, List.nil_append] at items
  refine ⟨(Stack.length_items stack).symm, fun position inside => stack.peekAt_of_lt inside,
    fun position outside => stack.peekAt_of_outside outside, stack.snapshot_eq_reverse_items, ?_,
    ?_, items, ?_, ?_⟩
  · intro count more
    exact Stack.drain_of_lt (by rwa [Stack.length_items] at more)
  · intro result member
    rw [results] at member
    obtain ⟨_, _, same⟩ := List.mem_map.mp member
    exact same.symm
  · rw [Stack.snapshot_eq_reverse_items, Stack.snapshot_eq_reverse_items, items]
  · rw [Stack.digest, Stack.digest, Stack.preimage, Stack.preimage, items]

def secondHand : List (Move Unit Nat) :=
  [.get () [some (.single 7)] .allocate, .perform () 0 (.pushSize 5), .perform () 0 (.pushSize 6),
    .put () 0, .get () [] (.reuse 0), .perform () 1 (.pushSize 8), .perform () 1 (.pushSize 9),
    .perform () 1 (.swap 1)]

theorem secondHand_shows_one_sequence :
    ∃ stack, (World.start.run secondHand).1.arena.stack? 0 = some stack ∧
      stack.snapshot = [.ofUInt64 8, .ofUInt64 9] ∧ stack.peekAt 2 = (.zero, false) ∧
      (stack.drain 3).rounds = [.ofUInt64 8, .ofUInt64 9] ∧
      (Stack.run (.new [some stack.tracer]) (stack.items.map .push)).stack.digest =
        stack.digest := by
  have listed : ((World.start.run secondHand).1.arena.stack? 0).map Stack.items =
      some [.ofUInt64 9, .ofUInt64 8] := by
    decide +kernel
  obtain ⟨stack, found, items⟩ := Option.map_eq_some_iff.mp listed
  obtain ⟨_, _, outside, snapshot, drained, _, _, _, digest⟩ :=
    observers_show_one_sequence secondHand 0 stack found [some stack.tracer]
  rw [items] at outside snapshot drained
  obtain ⟨rounds, _⟩ := drained 3 (by decide)
  exact ⟨stack, found, snapshot, outside 2 (by decide), rounds.trans snapshot, digest⟩

end Arena

end OperandStack
