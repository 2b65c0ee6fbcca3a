import OperandStack.Stack.Lemmas
import OperandStack.Stack.Op

/-!
# The meaning of operations on lists of words

What an operation answers and leaves behind is decided by the words of the stack alone. `Op.meaning`
says it on plain lists, bottom first, and `apply_realizes` ties every operation to it. Cells behind
the end of the buffer play no part, and the tracer decides only who hears of a push.
-/

set_option autoImplicit false

namespace OperandStack.Stack

variable {Sink : Type}

/-! ## Exchanging the last element of a list -/

def exchangeLast {Cell : Type} (items : List Cell) (distance : Nat) : List Cell :=
  match items[items.length - 1]?, items[items.length - 1 - distance]? with
  | some last, some other =>
      (items.set (items.length - 1 - distance) last).set (items.length - 1) other
  | _, _ => items

@[simp]
theorem length_exchangeLast {Cell : Type} (items : List Cell) (distance : Nat) :
    (exchangeLast items distance).length = items.length := by
  unfold exchangeLast
  split
  · simp only [List.length_set]
  · rfl

theorem getElem?_exchangeLast {Cell : Type} {items : List Cell} {distance : Nat}
    (near : distance < items.length) (position : Nat) :
    (exchangeLast items distance)[position]? =
      if position = items.length - 1 then items[items.length - 1 - distance]?
      else if position = items.length - 1 - distance then items[items.length - 1]?
      else items[position]? := by
  have lastInside : items.length - 1 < items.length := by omega
  have otherInside : items.length - 1 - distance < items.length := by omega
  simp only [exchangeLast, List.getElem?_eq_getElem lastInside,
    List.getElem?_eq_getElem otherInside, List.getElem?_set, List.length_set]
  grind

theorem exchangeLast_zero {Cell : Type} (items : List Cell) : exchangeLast items 0 = items := by
  cases items with
  | nil => rfl
  | cons first rest =>
      apply List.ext_getElem?
      intro position
      rw [getElem?_exchangeLast (Nat.zero_lt_succ _), Nat.sub_zero]
      grind

/-! ## Operations on lists of words -/

/-- What an operation leads to: the words afterwards, the answer, and the word that a tracer hears
of, if any. -/
structure Meaning where
  items : List Word
  result : Except OpError Reply
  reported : Option Word

namespace Meaning

def refused (items : List Word) (error : OpError) : Meaning :=
  ⟨items, .error error, none⟩

def answered (items : List Word) (reply : Reply) : Meaning :=
  ⟨items, .ok reply, none⟩

def push (items : List Word) (word : Word) : Meaning :=
  if items.length < stackLimit then ⟨items ++ [word], .ok .done, some word⟩
  else refused items (.stack (.overflow items.length))

def pop (items : List Word) (reply : Word → Reply) : Meaning :=
  match items.getLast? with
  | none => refused items (.stack .emptyPop)
  | some word => answered items.dropLast (reply word)

def swap (items : List Word) (distance : Int) : Meaning :=
  if 0 ≤ distance ∧ distance < items.length then
    answered (exchangeLast items distance.toNat) .done
  else refused items (.stack (.farSwap items.length distance))

end Meaning

def Op.meaning (items : List Word) : Op → Meaning
  | .push word => .push items word
  | .pushUInt256 value => .push items (Word.ofOptionalUInt256 value)
  | .pushInt value =>
      match Word.ofOptionalInt value with
      | .error error => .refused items (.range error)
      | .ok word => .push items word
  | .pushAddress address => .push items (Word.ofAddress address)
  | .pushClientAddress address => .push items (Word.ofAddress address.toAddress)
  | .pushSize size => .push items (Word.ofUInt64 size)
  | .pop => .pop items .word
  | .popUInt256 => .pop items fun word => .number word.toUInt256
  | .swap distance => .swap items distance
  | .peek position =>
      .answered items (.found (if position < 0 then none else items[position.toNat]?))
  | .items => .answered items (.words items)
  | .snapshot => .answered items (.words items.reverse)
  | .digest => .answered items (.digest (Keccak.digest (items.flatMap Word.toList)))
  | .depth => .answered items (.count items.length)
  | .capacity => .answered items (.count stackLimit)
  | .reset => .answered [] .done

/-! ## Pushes -/

/-- The word that an operation tries to push, if it is a push of a word. -/
def Op.pushed? : Op → Option Word
  | .push word => some word
  | .pushUInt256 value => some (Word.ofOptionalUInt256 value)
  | .pushInt value => (Word.ofOptionalInt value).toOption
  | .pushAddress address => some (Word.ofAddress address)
  | .pushClientAddress address => some (Word.ofAddress address.toAddress)
  | .pushSize size => some (Word.ofUInt64 size)
  | .pop | .popUInt256 | .swap _ | .peek _ | .items | .snapshot | .digest | .depth | .capacity
  | .reset => none

theorem meaning_eq_push {op : Op} {word : Word} (pushes : op.pushed? = some word)
    (items : List Word) : op.meaning items = .push items word := by
  cases op with
  | push | pushUInt256 | pushAddress | pushClientAddress | pushSize =>
      exact congrArg (Meaning.push items) (Option.some.inj pushes)
  | pushInt value =>
      simp only [Op.meaning]
      cases read : Word.ofOptionalInt value with
      | error error => simp only [Op.pushed?, read, Except.toOption, reduceCtorEq] at pushes
      | ok other =>
          simp only [Op.pushed?, read, Except.toOption, Option.some.injEq] at pushes
          rw [pushes]
  | pop | popUInt256 | swap | peek | items | snapshot | digest | depth | capacity | reset =>
      cases pushes

theorem meaning_of_no_push {op : Op} (noPush : op.pushed? = none) (items : List Word) :
    (op.meaning items).items.length ≤ items.length ∧ (op.meaning items).reported = none := by
  cases op with
  | push | pushUInt256 | pushAddress | pushClientAddress | pushSize => cases noPush
  | pushInt value =>
      simp only [Op.meaning]
      cases read : Word.ofOptionalInt value with
      | error error => exact ⟨Nat.le_refl _, rfl⟩
      | ok word => simp only [Op.pushed?, read, Except.toOption, reduceCtorEq] at noPush
  | pop | popUInt256 =>
      simp only [Op.meaning, Meaning.pop]
      split
      · exact ⟨Nat.le_refl _, rfl⟩
      · exact ⟨by simp [Meaning.answered], rfl⟩
  | swap distance =>
      simp only [Op.meaning, Meaning.swap]
      split
      · exact ⟨by simp [Meaning.answered], rfl⟩
      · exact ⟨Nat.le_refl _, rfl⟩
  | peek | items | snapshot | digest | depth | capacity => exact ⟨Nat.le_refl _, rfl⟩
  | reset => exact ⟨Nat.zero_le _, rfl⟩

theorem reported_meaning (op : Op) (items : List Word) :
    (op.meaning items).reported = (op.meaning items).result.toOption.bind fun _ => op.pushed? := by
  cases pushes : op.pushed? with
  | none => rw [(meaning_of_no_push pushes items).2, Option.bind_fun_none]
  | some word =>
      rw [meaning_eq_push pushes, Meaning.push]
      split <;> rfl

/-! ## The stack realizes the meaning -/

/-- An outcome shows what a meaning says, and the tracer stays. -/
structure Outcome.Realizes (outcome : Outcome Sink) (installed : Tracer Sink)
    (meaning : Meaning) : Prop where
  items : outcome.stack.items = meaning.items
  tracer : outcome.stack.tracer = installed
  result : outcome.result = meaning.result
  calls : outcome.calls =
    (meaning.reported.map fun word => installed.notify word meaning.items.length).getD []

private theorem refused_realizes (stack : Stack Sink) (error : OpError) :
    (refused stack error).Realizes stack.tracer (.refused stack.items error) :=
  ⟨rfl, rfl, rfl, rfl⟩

private theorem answered_realizes (stack : Stack Sink) (reply : Reply) :
    (answered stack reply).Realizes stack.tracer (.answered stack.items reply) :=
  ⟨rfl, rfl, rfl, rfl⟩

private theorem pushWord_realizes (stack : Stack Sink) (word : Word) :
    (stack.pushWord word).Realizes stack.tracer (.push stack.items word) := by
  unfold pushWord Meaning.push
  by_cases room : stack.depth < stackLimit
  · obtain ⟨pushed, success, items, tracer⟩ := push_of_lt room word
    rw [success, if_pos (by simpa using room)]
    exact ⟨items, tracer, rfl, by simp⟩
  · have failed : stack.push word = .error (.overflow stack.depth) :=
      (push_eq_error_iff stack word _).mpr ⟨by omega, rfl⟩
    rw [failed, if_neg (by simpa using room), length_items]
    exact refused_realizes stack _

private theorem popAs_realizes (stack : Stack Sink) (reply : Word → Reply) :
    (stack.popAs reply).Realizes stack.tracer (.pop stack.items reply) := by
  unfold popAs Meaning.pop
  cases last : stack.items.getLast? with
  | none =>
      have empty : stack.items = [] := List.getLast?_eq_none_iff.mp last
      have failed : stack.pop = .error .emptyPop :=
        (pop_eq_error_iff stack _).mpr ⟨empty, rfl⟩
      rw [failed]
      exact refused_realizes stack _
  | some word =>
      obtain ⟨below, shape⟩ := List.getLast?_eq_some_iff.mp last
      obtain ⟨popped, success, items, tracer⟩ := pop_of_items_eq shape
      rw [success]
      refine ⟨?_, tracer, rfl, rfl⟩
      rw [items, shape]
      simp [Meaning.answered]

theorem swap_of_near {stack : Stack Sink} {distance : Int} (notNegative : 0 ≤ distance)
    (near : distance < stack.depth) :
    ∃ swapped, stack.swap distance = .ok swapped ∧
      swapped.items = exchangeLast stack.items distance.toNat ∧
      swapped.tracer = stack.tracer := by
  have accepted : ¬(distance < 0 ∨ distance ≥ stack.depth) := by omega
  refine ⟨{ stack with buffer :=
    stack.buffer.exchange (stack.depth - 1) (stack.depth - 1 - distance.toNat) }, ?_, ?_, rfl⟩
  · simp only [swap, accepted, ↓reduceIte]
  · have topInUse : stack.depth - 1 < stack.buffer.used := by unfold depth at *; omega
    have lowerInUse : stack.depth - 1 - distance.toNat < stack.buffer.used := by omega
    have inside : distance.toNat < stack.items.length := by
      rw [length_items]; omega
    apply List.ext_getElem?
    intro position
    rw [getElem?_exchangeLast inside, length_items]
    exact Buffer.getElem?_contents_exchange stack.buffer topInUse lowerInUse position

/-- Every operation acts on a stack as its meaning says on the stack's words. -/
theorem apply_realizes (stack : Stack Sink) (op : Op) :
    (stack.apply op).Realizes stack.tracer (op.meaning stack.items) := by
  cases op with
  | push | pushUInt256 | pushAddress | pushClientAddress | pushSize =>
      exact pushWord_realizes stack _
  | pushInt value =>
      simp only [apply, Op.meaning]
      cases Word.ofOptionalInt value with
      | error error => exact refused_realizes stack _
      | ok word => exact pushWord_realizes stack word
  | pop | popUInt256 => exact popAs_realizes stack _
  | swap distance =>
      simp only [apply, Op.meaning, Meaning.swap, length_items]
      by_cases near : 0 ≤ distance ∧ distance < stack.depth
      · obtain ⟨swapped, success, items, tracer⟩ := swap_of_near near.1 near.2
        rw [success, if_pos near]
        exact ⟨items, tracer, rfl, rfl⟩
      · have failed : stack.swap distance = .error (.farSwap stack.depth distance) :=
          (swap_eq_error_iff stack distance _).mpr ⟨by omega, rfl⟩
        rw [failed, if_neg near]
        exact refused_realizes stack _
  | peek position =>
      simp only [apply, Op.meaning, ← peek_eq_getElem?]
      exact answered_realizes stack _
  | snapshot =>
      simp only [apply, Op.meaning, ← snapshot_eq_reverse_items]
      exact answered_realizes stack _
  | depth =>
      simp only [apply, Op.meaning, length_items]
      exact answered_realizes stack _
  | items | digest | capacity => exact answered_realizes stack _
  | reset => exact answered_realizes stack.reset .done

/-! ## Stacks that cannot be told apart -/

/-- The same words under the same tracer; the cells behind the end may differ. -/
structure Alike (left right : Stack Sink) : Prop where
  items : left.items = right.items
  tracer : left.tracer = right.tracer

theorem Alike.symm {left right : Stack Sink} (alike : Alike left right) : Alike right left :=
  ⟨alike.items.symm, alike.tracer.symm⟩

theorem Alike.trans {left middle right : Stack Sink} (first : Alike left middle)
    (second : Alike middle right) : Alike left right :=
  ⟨first.items.trans second.items, first.tracer.trans second.tracer⟩

theorem Alike.apply {left right : Stack Sink} (alike : Alike left right) (op : Op) :
    (left.apply op).result = (right.apply op).result ∧
      (left.apply op).calls = (right.apply op).calls ∧
      Alike (left.apply op).stack (right.apply op).stack := by
  have leftRealized := apply_realizes left op
  have rightRealized := apply_realizes right op
  rw [alike.items, alike.tracer] at leftRealized
  refine ⟨?_, ?_, ?_, ?_⟩
  · rw [leftRealized.result, rightRealized.result]
  · rw [leftRealized.calls, rightRealized.calls]
  · rw [leftRealized.items, rightRealized.items]
  · rw [leftRealized.tracer, rightRealized.tracer]

end OperandStack.Stack
