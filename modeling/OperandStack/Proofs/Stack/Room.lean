import OperandStack.Stack.Op

/-!
# The room of a stack

A stack is made with a cell for every word that it may hold. No operation ever needs another cell,
and none gives one up.
-/

set_option autoImplicit false

namespace OperandStack.Stack

variable {Sink : Type}

/-- There are as many cells as a stack may hold words. -/
def FullRoom (stack : Stack Sink) : Prop :=
  stack.buffer.cells.size = 1024

theorem fullRoom_configure_iff {stack : Stack Sink} {settings : List (Setting Sink)} :
    (stack.configure settings).FullRoom ↔ stack.FullRoom := by
  induction settings generalizing stack with
  | nil => exact Iff.rfl
  | cons setting rest ih => exact ih

theorem fullRoom_new (settings : List (Setting Sink)) : (new settings).FullRoom :=
  fullRoom_configure_iff.mpr Array.size_replicate

theorem FullRoom.release {stack : Stack Sink} (room : stack.FullRoom) : stack.release.FullRoom :=
  room

theorem FullRoom.pushWord {stack : Stack Sink} (room : stack.FullRoom) (word : Word) :
    (stack.pushWord word).stack.FullRoom := by
  unfold FullRoom at room ⊢
  unfold Stack.pushWord push
  by_cases full : stackLimit ≤ stack.depth
  · simp only [ge_iff_le, full, ↓reduceIte]
    exact room
  · have free : stack.buffer.used < stack.buffer.cells.size := by
      unfold depth stackLimit at full
      omega
    simp only [ge_iff_le, full, ↓reduceIte]
    rw [Buffer.size_cells_append_of_lt stack.buffer word free]
    exact room

theorem FullRoom.popAs {stack : Stack Sink} (room : stack.FullRoom) (reply : Word → Reply) :
    (stack.popAs reply).stack.FullRoom := by
  unfold Stack.popAs pop
  cases stack.top? with
  | none => exact room
  | some word => exact room

theorem FullRoom.exchange {stack : Stack Sink} (room : stack.FullRoom) (left right : Nat) :
    FullRoom { stack with buffer := stack.buffer.exchange left right } := by
  unfold FullRoom Buffer.exchange
  dsimp only
  split
  · rw [Array.size_swapIfInBounds]
    exact room
  · exact room

theorem FullRoom.apply {stack : Stack Sink} (room : stack.FullRoom) (op : Op) :
    (stack.apply op).stack.FullRoom := by
  cases op with
  | push | pushUInt256 | pushAddress | pushClientAddress | pushSize => exact room.pushWord _
  | pushInt value =>
      simp only [Stack.apply]
      cases Word.ofOptionalInt value with
      | error error => exact room
      | ok word => exact room.pushWord word
  | pop | popUInt256 => exact room.popAs _
  | swap distance =>
      simp only [Stack.apply, Stack.swap]
      by_cases far : distance < 0 ∨ distance ≥ stack.depth
      · rw [if_pos far]
        exact room
      · rw [if_neg far]
        exact room.exchange _ _
  | peek | items | snapshot | digest | depth | capacity | reset => exact room

end OperandStack.Stack
