import Mathlib.Algebra.Ring.Int.Defs
import OperandStack.Proofs.Stack.Meaning

/-!
# Bounded depth and exact refusals

In every state of every run the depth stays within the limit, and the depth alone decides which
operations are refused and with what report. A refused operation leaves the stack as it was and is
heard by no sink. A run goes on past refusals.
-/

set_option autoImplicit false

namespace OperandStack.Stack

variable {Sink : Type}

/-! ## Runs -/

theorem run_append (stack : Stack Sink) (front back : List Op) :
    run stack (front ++ back) =
      let first := run stack front
      let later := run first.stack back
      ⟨later.stack, first.results ++ later.results, first.calls ++ later.calls⟩ := by
  induction front generalizing stack with
  | nil => rfl
  | cons op rest ih =>
      simp only [List.cons_append, run, ih]
      simp

theorem run_concat (stack : Stack Sink) (history : List Op) (op : Op) :
    run stack (history ++ [op]) =
      let before := run stack history
      let last := before.stack.apply op
      ⟨last.stack, before.results ++ [last.result], before.calls ++ last.calls⟩ := by
  rw [run_append]
  simp [run]

theorem run_preserves (invariant : Stack Sink → Prop)
    (step : ∀ stack op, invariant stack → invariant (stack.apply op).stack)
    {stack : Stack Sink} (initial : invariant stack) (history : List Op) :
    invariant (run stack history).stack := by
  induction history generalizing stack with
  | nil => exact initial
  | cons op rest ih => exact ih (step stack op initial)

/-! ## The depth stays within the limit -/

private theorem length_push_le {items : List Word} (bounded : items.length ≤ stackLimit)
    (word : Word) :
    (Meaning.push items word).items.length ≤ stackLimit := by
  unfold Meaning.push
  split
  · next room =>
      simp only [List.length_append, List.length_cons, List.length_nil]
      omega
  · exact bounded

private theorem length_pop_le (items : List Word) (reply : Word → Reply) :
    (Meaning.pop items reply).items.length ≤ items.length := by
  unfold Meaning.pop
  split
  · exact Nat.le_refl _
  · simp [Meaning.answered]

@[simp]
theorem length_swap (items : List Word) (distance : Int) :
    (Meaning.swap items distance).items.length = items.length := by
  unfold Meaning.swap
  split
  · simp [Meaning.answered]
  · rfl

private theorem length_meaning_le {items : List Word} (bounded : items.length ≤ stackLimit)
    (op : Op) :
    (op.meaning items).items.length ≤ stackLimit := by
  cases op with
  | push | pushUInt256 | pushAddress | pushClientAddress | pushSize =>
      exact length_push_le bounded _
  | pushInt value =>
      simp only [Op.meaning]
      cases Word.ofOptionalInt value with
      | error error => exact bounded
      | ok word => exact length_push_le bounded word
  | pop | popUInt256 => exact Nat.le_trans (length_pop_le items _) bounded
  | swap distance => simpa only [Op.meaning, length_swap] using bounded
  | peek | items | snapshot | digest | depth | capacity => exact bounded
  | reset => exact Nat.zero_le _

theorem depth_apply_le {stack : Stack Sink} (bounded : stack.depth ≤ stackLimit) (op : Op) :
    (stack.apply op).stack.depth ≤ stackLimit := by
  rw [← length_items] at bounded ⊢
  rw [(apply_realizes stack op).items]
  exact length_meaning_le bounded op

theorem depth_run_le {stack : Stack Sink} (bounded : stack.depth ≤ stackLimit)
    (history : List Op) : (run stack history).stack.depth ≤ stackLimit :=
  run_preserves (fun stack => stack.depth ≤ stackLimit)
    (fun _ op within => depth_apply_le within op) bounded history

@[simp]
theorem depth_new (settings : List (Setting Sink)) : (new settings).depth = 0 := by
  rw [← length_items, items_new, List.length_nil]

/-! ## Refused operations change nothing -/

private theorem pushWord_eq_refused {stack : Stack Sink} {word : Word} {error : OpError}
    (failed : (stack.pushWord word).result = .error error) :
    stack.pushWord word = refused stack error := by
  unfold pushWord at failed ⊢
  cases pushed : stack.push word with
  | error cause =>
      simp only [pushed, refused, Except.error.injEq] at failed ⊢
      rw [failed]
  | ok _ => simp only [pushed, reduceCtorEq] at failed

private theorem popAs_eq_refused {stack : Stack Sink} {reply : Word → Reply} {error : OpError}
    (failed : (stack.popAs reply).result = .error error) :
    stack.popAs reply = refused stack error := by
  unfold popAs at failed ⊢
  cases popped : stack.pop with
  | error cause =>
      simp only [popped, refused, Except.error.injEq] at failed ⊢
      rw [failed]
  | ok _ => simp only [popped, reduceCtorEq] at failed

/-- A refusal is the whole outcome: the very stack that was given comes back, with no call. -/
theorem apply_eq_refused {stack : Stack Sink} {op : Op} {error : OpError}
    (failed : (stack.apply op).result = .error error) :
    stack.apply op = refused stack error := by
  cases op with
  | push | pushUInt256 | pushAddress | pushClientAddress | pushSize =>
      exact pushWord_eq_refused failed
  | pushInt value =>
      simp only [apply] at failed ⊢
      cases read : Word.ofOptionalInt value with
      | error cause =>
          simp only [read, refused, Except.error.injEq] at failed ⊢
          rw [failed]
      | ok word =>
          simp only [read] at failed ⊢
          exact pushWord_eq_refused failed
  | pop | popUInt256 => exact popAs_eq_refused failed
  | swap distance =>
      simp only [apply] at failed ⊢
      cases swapped : stack.swap distance with
      | error cause =>
          simp only [swapped, refused, Except.error.injEq] at failed ⊢
          rw [failed]
      | ok _ => simp only [swapped, answered, reduceCtorEq] at failed
  | peek | items | snapshot | digest | depth | capacity | reset =>
      simp only [apply, answered, reduceCtorEq] at failed

/-! ## Which operations are refused -/

def overflow? (depth : Nat) : Option OpError :=
  if depth = 1024 then some (.stack ⟨.push, 1024, 0, .condition .stackOverflow⟩) else none

/-- The report on an operation at a depth, if it is refused there. The range of an integer comes
before the depth. -/
def Op.refusal? (depth : Nat) : Op → Option OpError
  | .push _ | .pushUInt256 _ | .pushInt none | .pushAddress _ | .pushClientAddress _
  | .pushSize _ => overflow? depth
  | .pushInt (some value) =>
      if value < 0 then some (.range (.negative value))
      else if 2 ^ 256 ≤ value then some (.range (.tooWide value.toNat))
      else overflow? depth
  | .pop | .popUInt256 =>
      if depth = 0 then some (.stack ⟨.pop, 0, 0, .condition .stackUnderflow⟩) else none
  | .swap distance =>
      if distance < 0 ∨ depth ≤ distance then
        some (.stack ⟨.swap, depth, distance, .condition .stackUnderflow⟩)
      else none
  | .peek _ | .items | .snapshot | .digest | .depth | .capacity | .reset => none

theorem ofInt_eq_ite (value : Int) :
    Word.ofInt value =
      if value < 0 then .error (.negative value)
      else if 2 ^ 256 ≤ value then .error (.tooWide value.toNat)
      else .ok (Word.ofUInt256 (BitVec.ofNat 256 value.toNat)) := by
  cases value with
  | negSucc magnitude =>
      have negative : Int.negSucc magnitude < 0 := by omega
      simp only [Word.ofInt, negative, ↓reduceIte]
  | ofNat magnitude =>
      have notNegative : ¬((magnitude : Int) < 0) := by omega
      simp only [Word.ofInt, Int.ofNat_eq_natCast, notNegative, ↓reduceIte, Int.toNat_natCast]
      have size : UInt256.size = 2 ^ 256 := rfl
      by_cases fits : magnitude < UInt256.size
      · have inRange : ¬((2 : Int) ^ 256 ≤ magnitude) := by omega
        rw [if_pos fits, if_neg inRange]
      · have outOfRange : (2 : Int) ^ 256 ≤ magnitude := by omega
        rw [if_neg fits, if_pos outOfRange]

private theorem push_error_iff {items : List Word} (bounded : items.length ≤ stackLimit)
    (word : Word) (error : OpError) :
    (Meaning.push items word).result = .error error ↔ overflow? items.length = some error := by
  unfold stackLimit at bounded
  unfold Meaning.push overflow? stackLimit
  by_cases full : items.length = 1024
  · have noRoom : ¬items.length < 1024 := by omega
    rw [if_neg noRoom, if_pos full]
    simp [full, Meaning.refused, StackError.overflow]
  · have room : items.length < 1024 := by omega
    rw [if_pos room, if_neg full]
    simp

private theorem pop_error_iff (items : List Word) (reply : Word → Reply) (error : OpError) :
    (Meaning.pop items reply).result = .error error ↔
      (if items.length = 0 then some (OpError.stack ⟨.pop, 0, 0, .condition .stackUnderflow⟩)
        else none) = some error := by
  unfold Meaning.pop
  cases items with
  | nil => simp [Meaning.refused, StackError.emptyPop]
  | cons first rest => simp [List.getLast?_cons, Meaning.answered]

private theorem swap_error_iff (items : List Word) (distance : Int) (error : OpError) :
    (Meaning.swap items distance).result = .error error ↔
      (Op.swap distance).refusal? items.length = some error := by
  unfold Meaning.swap Op.refusal?
  by_cases near : 0 ≤ distance ∧ distance < items.length
  · have notFar : ¬(distance < 0 ∨ (items.length : Int) ≤ distance) := by omega
    simp [near, notFar, Meaning.answered]
  · have far : distance < 0 ∨ (items.length : Int) ≤ distance := by omega
    simp [near, far, Meaning.refused, StackError.farSwap]

theorem meaning_error_iff {items : List Word} (bounded : items.length ≤ stackLimit) (op : Op)
    (error : OpError) :
    (op.meaning items).result = .error error ↔ op.refusal? items.length = some error := by
  cases op with
  | push | pushUInt256 | pushAddress | pushClientAddress | pushSize =>
      exact push_error_iff bounded _ error
  | pushInt value =>
      cases value with
      | none => exact push_error_iff bounded _ error
      | some value =>
          simp only [Op.meaning, Op.refusal?, Word.ofOptionalInt, ofInt_eq_ite]
          by_cases negative : value < 0
          · simp [negative, Meaning.refused]
          · by_cases wide : 2 ^ 256 ≤ value
            · rw [if_neg negative, if_pos wide, if_neg negative, if_pos wide]
              simp [Meaning.refused]
            · rw [if_neg negative, if_neg wide, if_neg negative, if_neg wide]
              exact push_error_iff bounded _ error
  | pop | popUInt256 => exact pop_error_iff items _ error
  | swap distance => exact swap_error_iff items distance error
  | peek | items | snapshot | digest | depth | capacity | reset =>
      simp [Op.meaning, Meaning.answered, Op.refusal?]

/-- In every run, whatever the tracer, the depth before each operation is within the limit, the
operation is refused exactly as the table says for that depth, and a refused one leaves the stack
and the calls as they were. A report on a range is the word overflow and no report of a stack. -/
theorem run_refuses_exactly (settings : List (Setting Sink)) (history : List Op) (op : Op) :
    let before := run (new settings) history
    let after := run (new settings) (history ++ [op])
    before.stack.depth ≤ 1024 ∧
      ∃ result, after.results = before.results ++ [result] ∧
        (∀ error, result = .error error ↔ op.refusal? before.stack.depth = some error) ∧
        (∀ error, result = .error error →
          after.stack = before.stack ∧ after.calls = before.calls) ∧
        (∀ error, result = .error (.range error) → error.condition = .wordOverflow) := by
  intro before after
  have bounded : before.stack.depth ≤ stackLimit := depth_run_le (by simp) history
  have last : after = ⟨(before.stack.apply op).stack,
      before.results ++ [(before.stack.apply op).result],
      before.calls ++ (before.stack.apply op).calls⟩ := run_concat _ history op
  refine ⟨bounded, (before.stack.apply op).result, by rw [last], ?_, ?_, fun _ _ => rfl⟩
  · intro error
    rw [(apply_realizes before.stack op).result, ← length_items]
    exact meaning_error_iff (by rwa [length_items]) op error
  · intro error failed
    rw [last, apply_eq_refused failed]
    exact ⟨rfl, List.append_nil _⟩

end OperandStack.Stack
