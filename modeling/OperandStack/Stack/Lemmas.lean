import OperandStack.Stack

/-!
# Stacks through their items

Every observer of a stack reads the list `items`, and every operation is a change of that list. No
statement here looks at the cells behind the end of the buffer or at the tracer of the stack.
-/

set_option autoImplicit false

namespace OperandStack.Stack

variable {Sink : Type}

/-! ## Observers -/

@[simp]
theorem length_items (stack : Stack Sink) : stack.items.length = stack.depth :=
  stack.buffer.length_contents

theorem snapshot_eq_reverse_items (stack : Stack Sink) :
    stack.snapshot = stack.items.reverse := by
  have whole : stack.items.take stack.depth = stack.items := by
    rw [← length_items, List.take_length]
  rw [snapshot, Buffer.downFrom_eq_reverse_take]
  exact congrArg List.reverse whole

theorem peek_eq_getElem? (stack : Stack Sink) (position : Int) :
    stack.peek position = if position < 0 then none else stack.items[position.toNat]? := by
  unfold peek
  split
  · rfl
  · rw [Buffer.get?_eq_getElem?]
    rfl

theorem top?_eq_getLast? (stack : Stack Sink) : stack.top? = stack.items.getLast? := by
  unfold top?
  split
  · next empty =>
      have noItems : stack.items = [] := by
        rw [← List.length_eq_zero_iff, length_items]
        exact empty
      rw [noItems]
      rfl
  · rw [Buffer.get?_eq_getElem?, List.getLast?_eq_getElem?, length_items]
    rfl

/-! ## Making and resetting -/

@[simp]
theorem buffer_configure (stack : Stack Sink) (settings : List (Setting Sink)) :
    (stack.configure settings).buffer = stack.buffer := by
  induction settings generalizing stack with
  | nil => rfl
  | cons setting rest ih => exact ih { stack with tracer := setting.getD .silent }

/-- The last setting decides; without one the tracer stays. -/
theorem tracer_configure (stack : Stack Sink) (settings : List (Setting Sink)) :
    (stack.configure settings).tracer =
      (settings.getLast?.map fun setting => setting.getD .silent).getD stack.tracer := by
  induction settings generalizing stack with
  | nil => rfl
  | cons setting rest ih =>
      have step := ih { stack with tracer := setting.getD .silent }
      cases rest with
      | nil => rfl
      | cons next later =>
          rw [List.getLast?_cons_cons]
          exact step.trans (by simp [List.getLast?_cons])

@[simp]
theorem items_configure (stack : Stack Sink) (settings : List (Setting Sink)) :
    (stack.configure settings).items = stack.items := by
  simp [items]

@[simp]
theorem items_new (settings : List (Setting Sink)) : (new settings).items = [] := by
  rw [new, items_configure]
  rfl

@[simp]
theorem items_reset (stack : Stack Sink) : stack.reset.items = [] := rfl

/-! ## Operations -/

theorem push_eq_error_iff (stack : Stack Sink) (word : Word) (error : StackError) :
    stack.push word = .error error ↔ stackLimit ≤ stack.depth ∧ error = .overflow stack.depth := by
  unfold push
  split
  · next full => simp [full, eq_comm]
  · next room => simp [room]

/-- A push below the limit adds the word on top, keeps the tracer and calls its sinks with the new
depth. -/
theorem push_of_lt {stack : Stack Sink} (room : stack.depth < stackLimit) (word : Word) :
    ∃ pushed, stack.push word = .ok (pushed, stack.tracer.notify word (stack.depth + 1)) ∧
      pushed.items = stack.items ++ [word] ∧ pushed.tracer = stack.tracer := by
  have notFull : ¬stackLimit ≤ stack.depth := by omega
  refine ⟨{ stack with buffer := stack.buffer.append word }, ?_, ?_, rfl⟩
  · have deeper : depth { stack with buffer := stack.buffer.append word } = stack.depth + 1 := by
      rw [← length_items, ← length_items]
      simp [items]
    simp [push, notFull, deeper]
  · simp [items]

theorem pop_of_items_eq {stack : Stack Sink} {below : List Word} {word : Word}
    (shape : stack.items = below ++ [word]) :
    ∃ popped, stack.pop = .ok (word, popped) ∧ popped.items = below ∧
      popped.tracer = stack.tracer := by
  refine ⟨{ stack with buffer := stack.buffer.dropLast }, ?_, ?_, rfl⟩
  · rw [pop, top?_eq_getLast?, shape, List.getLast?_concat]
  · show stack.buffer.dropLast.contents = below
    rw [Buffer.contents_dropLast]
    exact (congrArg List.dropLast shape).trans (by simp)

theorem pop_eq_error_iff (stack : Stack Sink) (error : StackError) :
    stack.pop = .error error ↔ stack.items = [] ∧ error = .emptyPop := by
  rw [pop, top?_eq_getLast?]
  cases last : stack.items.getLast? with
  | none => simp [List.getLast?_eq_none_iff.mp last, eq_comm]
  | some word =>
      have held : stack.items ≠ [] := by
        intro none
        rw [none] at last
        cases last
      simp [held]

/-- A swap is refused exactly for a distance that is negative or not below the depth. -/
theorem swap_eq_error_iff (stack : Stack Sink) (distance : Int) (error : StackError) :
    stack.swap distance = .error error ↔
      (distance < 0 ∨ (stack.depth : Int) ≤ distance) ∧
        error = .farSwap stack.depth distance := by
  unfold swap
  split
  · next far => simp [far, eq_comm]
  · next near => simp [near]

theorem swap_swap {stack swapped : Stack Sink} {distance : Int}
    (accepted : stack.swap distance = .ok swapped) : swapped.swap distance = .ok stack := by
  unfold swap at accepted
  split at accepted
  · cases accepted
  · next near =>
      cases accepted
      -- An exchange keeps the depth, so the distance is near again.
      refine (if_neg near).trans ?_
      exact congrArg (fun buffer => Except.ok { stack with buffer })
        (stack.buffer.exchange_exchange _ _)

end OperandStack.Stack
