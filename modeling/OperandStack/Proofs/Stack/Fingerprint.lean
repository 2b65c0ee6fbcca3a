import OperandStack.Proofs.Stack.Refusal

/-!
# The digest as a fingerprint of the words

The digest of a stack is that of its words, one after the other. Words have one width, so their
bytes in a row determine them: stacks with different words never have the same bytes hashed, and an
equal digest of both is a collision of the hash function. What the tracer is, and what is left in
the cells behind the end, has no part in it.
-/

set_option autoImplicit false

namespace OperandStack

/-- A hash that is computed while bytes are written into it, piece after piece. -/
structure RunningHash (State : Type) where
  start : State
  write : State → Bytes → State
  sum : State → Bytes

/-- The sum depends on the written bytes in a row, and not on how they were cut into pieces. -/
def RunningHash.Computes {State : Type} (running : RunningHash State) (hash : Bytes → Hash) :
    Prop :=
  ∀ pieces : List Bytes,
    running.sum (pieces.foldl running.write running.start) = (hash pieces.flatten).toList

structure Keccak.Collision (left right : Bytes) : Prop where
  apart : left ≠ right
  same : digest left = digest right

namespace Word

theorem length_toList (word : Word) : word.toList.length = 32 :=
  word.bytes.length_toList

theorem toList_injective {left right : Word} (same : left.toList = right.toList) : left = right :=
  Word.ext (FixedBytes.ext same)

private theorem flatMap_toList_cons_ne_nil (word : Word) (rest : List Word) :
    (word :: rest).flatMap toList ≠ [] := by
  intro nothing
  have lengths := congrArg List.length nothing
  rw [List.flatMap_cons, List.length_append, length_toList, List.length_nil] at lengths
  omega

theorem flatMap_toList_injective {left right : List Word}
    (same : left.flatMap toList = right.flatMap toList) : left = right := by
  induction left generalizing right with
  | nil =>
      cases right with
      | nil => rfl
      | cons word rest => exact absurd same.symm (flatMap_toList_cons_ne_nil word rest)
  | cons word rest ih =>
      cases right with
      | nil => exact absurd same (flatMap_toList_cons_ne_nil word rest)
      | cons other others =>
          rw [List.flatMap_cons, List.flatMap_cons] at same
          have widths : word.toList.length = other.toList.length := by
            rw [length_toList, length_toList]
          obtain ⟨first, later⟩ := List.append_inj same widths
          rw [toList_injective first, ih later]

end Word

namespace Stack

variable {State Sink : Type}

def hashThrough (running : RunningHash State) (stack : Stack Sink) : Hash :=
  Hash.ofBytes <| running.sum <|
    stack.items.foldl (fun state word => running.write state word.toList) running.start

theorem hashThrough_eq_digest {running : RunningHash State}
    (computes : running.Computes Keccak.digest) (stack : Stack Sink) :
    stack.hashThrough running = stack.digest := by
  have pieces := computes (stack.items.map Word.toList)
  rw [List.foldl_map] at pieces
  rw [hashThrough, pieces, ← List.flatMap_def]
  exact Hash.ext ((Hash.bytes_ofBytes _).trans (FixedBytes.ofBytes_toList _))

theorem digest_eq_of_items_eq {LeftSink RightSink : Type} {left : Stack LeftSink}
    {right : Stack RightSink} (same : left.items = right.items) : left.digest = right.digest := by
  rw [digest, digest, preimage, preimage, same]

theorem run_swap_twice {stack : Stack Sink} {distance : Int} {reply : Reply}
    (accepted : (stack.apply (.swap distance)).result = .ok reply) :
    (run stack [.swap distance, .swap distance]).results = [.ok .done, .ok .done] ∧
      (run stack [.swap distance, .swap distance]).stack.items = stack.items := by
  cases once : stack.swap distance with
  | error error => simp only [apply, once, refused, reduceCtorEq] at accepted
  | ok swapped =>
      have twice := swap_swap once
      simp only [run, apply, once, twice, answered, and_self]

/-- For any two stacks, under any tracers and with anything in the cells behind their ends: the
digest is that of the words' bytes in a row, 32 for each word, bottom first, as a running hash gives
it for the words one by one. Equal words have equal digests. Different words have different bytes,
so that equal digests of them are a collision. A refused operation keeps the digest, and so do two
swaps in a row by a distance that is accepted. -/
theorem digest_fingerprints_words {LeftSink RightSink : Type} (running : RunningHash State)
    (computes : running.Computes Keccak.digest) (left : Stack LeftSink) (right : Stack RightSink) :
    left.hashThrough running = left.digest ∧
      left.digest = Keccak.digest (left.items.flatMap Word.toList) ∧
      (∀ word ∈ left.items, word.toList.length = 32) ∧
      (left.items = right.items → left.digest = right.digest) ∧
      (left.items ≠ right.items →
        left.preimage ≠ right.preimage ∧
          (left.digest = right.digest → Keccak.Collision left.preimage right.preimage)) ∧
      (∀ op error, (left.apply op).result = .error error →
        (left.apply op).stack.digest = left.digest) ∧
      ∀ distance reply, (left.apply (.swap distance)).result = .ok reply →
        (run left [.swap distance, .swap distance]).results = [.ok .done, .ok .done] ∧
          (run left [.swap distance, .swap distance]).stack.digest = left.digest := by
  refine ⟨hashThrough_eq_digest computes left, rfl, fun word _ => word.length_toList,
    digest_eq_of_items_eq, ?_, ?_, ?_⟩
  · intro different
    have apart : left.preimage ≠ right.preimage :=
      fun same => different (Word.flatMap_toList_injective same)
    exact ⟨apart, fun same => ⟨apart, same⟩⟩
  · intro op error failed
    rw [apply_eq_refused failed]
    rfl
  · intro distance reply accepted
    obtain ⟨results, items⟩ := run_swap_twice accepted
    exact ⟨results, digest_eq_of_items_eq items⟩

def collecting : RunningHash Bytes :=
  ⟨[], (· ++ ·), fun written => (Keccak.digest written).toList⟩

def withLeftover : Stack Nat :=
  (run (new [some (.single 7)]) [.pushSize 5, .pushSize 6, .pop]).stack

def withoutLeftover : Stack Unit :=
  (run (new []) [.pushSize 5]).stack

theorem leftover_not_in_fingerprint :
    collecting.Computes Keccak.digest ∧ withLeftover.items = withoutLeftover.items ∧
      withLeftover.buffer.cells[1]? ≠ withoutLeftover.buffer.cells[1]? ∧
      withLeftover.hashThrough collecting = withLeftover.digest ∧
      withLeftover.digest = withoutLeftover.digest ∧
      withLeftover.preimage ≠ withoutLeftover.reset.preimage := by
  have computes : collecting.Computes Keccak.digest := by
    intro pieces
    rw [collecting, List.foldl_append_eq_append, List.nil_append, List.map_id']
  have same : withLeftover.items = withoutLeftover.items := by decide +kernel
  have different : withLeftover.items ≠ withoutLeftover.reset.items := by decide +kernel
  obtain ⟨written, _, _, equal, _⟩ :=
    digest_fingerprints_words collecting computes withLeftover withoutLeftover
  obtain ⟨_, _, _, _, apart, _⟩ :=
    digest_fingerprints_words collecting computes withLeftover withoutLeftover.reset
  exact ⟨computes, same, by decide +kernel, written, equal same, (apart different).1⟩

end Stack

end OperandStack
