import OperandStack.Proofs.Script.DepthProfile

/-!
# The course of a script

A script is carried out up to its first fault, and counting gives the depth after each operation on
the way. Which pushes succeed, what the sinks of a tracer hear, and how deep the stack gets can all
be read off that course; the depth grows at pushes alone, so whoever hears of them knows the
greatest depth.
-/

set_option autoImplicit false

namespace OperandStack.Script

variable {Sink : Type}

/-! ## Counting along a script -/

def Operation.depthAfter (depth : Nat) : Operation → Nat
  | .push _ | .pushSize _ | .pushAddress _ => depth + 1
  | .pop => depth - 1
  | .swap _ | .peek _ => depth

/-- The instructions before the first fault, each with the depth after it. -/
def course (depth : Nat) : List Instruction → List (Instruction × Nat)
  | [] => []
  | instruction :: rest =>
      match instruction.operation.fault? depth with
      | some _ => []
      | none =>
          let after := instruction.operation.depthAfter depth
          (instruction, after) :: course after rest

/-- The words of the pushes that succeed, each with the depth after its push. -/
def pushesFrom (depth : Nat) (script : List Instruction) : List (Word × Nat) :=
  (course depth script).filterMap fun (instruction, after) =>
    instruction.operation.toOp.pushed?.map (·, after)

/-- The greatest depth on the way, that of the start included. -/
def peakFrom (depth : Nat) (script : List Instruction) : Nat :=
  ((course depth script).map (·.2)).foldl max depth

private theorem course_of_fault {depth : Nat} {instruction : Instruction} {fault : StackError}
    (faulty : instruction.operation.fault? depth = some fault) (rest : List Instruction) :
    course depth (instruction :: rest) = [] := by
  rw [course, faulty]

private theorem course_of_accepted {depth : Nat} {instruction : Instruction}
    (accepted : instruction.operation.fault? depth = none) (rest : List Instruction) :
    course depth (instruction :: rest) =
      (instruction, instruction.operation.depthAfter depth) ::
        course (instruction.operation.depthAfter depth) rest := by
  rw [course, accepted]

private theorem pushed?_isSome (operation : Operation) :
    operation.toOp.pushed?.isSome = operation.pushes := by
  cases operation <;> rfl

private theorem depthAfter_eq {depth : Nat} {instruction : Instruction}
    (accepted : instruction.operation.fault? depth = none) :
    (instruction.operation.depthAfter depth : Int) = depth + netDepth [instruction] := by
  obtain ⟨operation, source⟩ := instruction
  cases operation with
  | push | pushSize | pushAddress => rfl
  | pop =>
      have held : 0 < depth := by
        simp only [Operation.fault?, ite_eq_left_iff, reduceCtorEq, imp_false] at accepted
        omega
      have popped : netDepth [⟨.pop, source⟩] = -1 := rfl
      rw [popped, Operation.depthAfter]
      omega
  | swap | peek => exact (Int.add_zero _).symm

private theorem depthAfter_cases {depth : Nat} {operation : Operation}
    (accepted : operation.fault? depth = none) :
    (∃ word, operation.toOp.pushed? = some word ∧ operation.depthAfter depth = depth + 1 ∧
        depth < 1024) ∨
      operation.toOp.pushed? = none ∧ operation.depthAfter depth ≤ depth := by
  cases operation with
  | push | pushSize | pushAddress =>
      simp only [Operation.fault?, ite_eq_left_iff, reduceCtorEq, imp_false] at accepted
      exact .inl ⟨_, rfl, rfl, by omega⟩
  | pop => exact .inr ⟨rfl, Nat.sub_le depth 1⟩
  | swap | peek => exact .inr ⟨rfl, Nat.le_refl depth⟩

private theorem map_fst_course {depth : Nat} {script : List Instruction}
    (free : FaultFree depth script) : (course depth script).map (·.1) = script := by
  induction script generalizing depth with
  | nil => rfl
  | cons instruction rest ih =>
      obtain ⟨accepted, freeRest⟩ := faultFree_cons_iff.mp free
      rw [← depthAfter_eq accepted] at freeRest
      rw [course_of_accepted accepted, List.map_cons, ih freeRest]

private theorem length_course_le (depth : Nat) (script : List Instruction) :
    (course depth script).length ≤ script.length := by
  induction script generalizing depth with
  | nil => exact Nat.le_refl 0
  | cons instruction rest ih =>
      cases accepted : instruction.operation.fault? depth with
      | some fault =>
          rw [course_of_fault accepted]
          exact Nat.zero_le _
      | none =>
          rw [course_of_accepted accepted]
          exact Nat.succ_le_succ (ih _)

/-! ## Pushes -/

private theorem length_pushesFrom (depth : Nat) (script : List Instruction) :
    (pushesFrom depth script).length =
      (course depth script).countP (·.1.operation.pushes) := by
  rw [pushesFrom, List.length_filterMap_eq_countP]
  simp only [Option.isSome_map, pushed?_isSome]

theorem length_pushesFrom_le (depth : Nat) (script : List Instruction) :
    (pushesFrom depth script).length ≤ script.length :=
  Nat.le_trans (List.length_filterMap_le _ _) (length_course_le depth script)

theorem length_pushesFrom_of_faultFree {depth : Nat} {script : List Instruction}
    (free : FaultFree depth script) :
    (pushesFrom depth script).length = script.countP (·.operation.pushes) := by
  have counted := congrArg (List.countP (·.operation.pushes)) (map_fst_course free)
  rw [List.countP_map] at counted
  exact (length_pushesFrom depth script).trans counted

theorem depth_le_of_mem_pushesFrom {depth : Nat} {script : List Instruction} {push : Word × Nat}
    (member : push ∈ pushesFrom depth script) : push.2 ≤ 1024 := by
  induction script generalizing depth with
  | nil => cases member
  | cons instruction rest ih =>
      cases accepted : instruction.operation.fault? depth with
      | some fault =>
          rw [pushesFrom, course_of_fault accepted] at member
          cases member
      | none =>
          rw [pushesFrom, course_of_accepted accepted, List.filterMap_cons] at member
          rcases depthAfter_cases accepted with ⟨word, pushed, deeper, room⟩ | ⟨noPush, _⟩
          · simp only [pushed, Option.map_some] at member
            rcases List.mem_cons.mp member with rfl | later
            · dsimp only
              omega
            · exact ih later
          · simp only [noPush, Option.map_none] at member
            exact ih member

theorem foldl_max_pushesFrom {depth start : Nat} (reached : depth ≤ start)
    (script : List Instruction) :
    ((pushesFrom depth script).map (·.2)).foldl max start =
      ((course depth script).map (·.2)).foldl max start := by
  induction script generalizing depth start with
  | nil => rfl
  | cons instruction rest ih =>
      cases accepted : instruction.operation.fault? depth with
      | some fault => rw [pushesFrom, course_of_fault accepted, List.filterMap_nil]; rfl
      | none =>
          rw [pushesFrom, course_of_accepted accepted, List.filterMap_cons, List.map_cons,
            List.foldl_cons]
          rcases depthAfter_cases accepted with ⟨word, pushed, _, _⟩ | ⟨noPush, shallower⟩
          · simp only [pushed, Option.map_some, List.map_cons, List.foldl_cons]
            exact ih (Nat.le_max_right _ _)
          · have unchanged : max start (instruction.operation.depthAfter depth) = start :=
              Nat.max_eq_left (Nat.le_trans shallower reached)
            simp only [noPush, Option.map_none, unchanged]
            exact ih (Nat.le_trans shallower reached)

/-! ## Executions -/

private theorem apply_of_accepted {stack : Stack Sink} {instruction : Instruction}
    (bounded : stack.depth ≤ stackLimit)
    (accepted : instruction.operation.fault? stack.depth = none) :
    let outcome := stack.apply instruction.operation.toOp
    (∃ reply, outcome.result = .ok reply) ∧
      outcome.stack.depth = instruction.operation.depthAfter stack.depth ∧
      outcome.stack.tracer = stack.tracer ∧
      outcome.calls = (instruction.operation.toOp.pushed?.map fun word =>
        stack.tracer.notify word (instruction.operation.depthAfter stack.depth)).getD [] := by
  obtain ⟨⟨reply, answered⟩, moved⟩ := apply_toOp_of_fault?_none bounded accepted
  have realized := Stack.apply_realizes stack instruction.operation.toOp
  have depth : (stack.apply instruction.operation.toOp).stack.depth =
      instruction.operation.depthAfter stack.depth := by
    rw [← depthAfter_eq accepted] at moved
    exact Int.ofNat.inj moved
  refine ⟨⟨reply, answered⟩, depth, realized.tracer, ?_⟩
  rw [realized.calls, Stack.reported_meaning, ← realized.result, answered, ← realized.items,
    Stack.length_items, depth]
  rfl

theorem executeFrom_calls {stack : Stack Sink} (bounded : stack.depth ≤ stackLimit) (step : Nat)
    (script : List Instruction) :
    (executeFrom step stack script).calls =
      (pushesFrom stack.depth script).flatMap fun (word, depth) =>
        stack.tracer.notify word depth := by
  induction script generalizing stack step with
  | nil => rfl
  | cons instruction rest ih =>
      cases accepted : instruction.operation.fault? stack.depth with
      | some fault =>
          rw [executeFrom_of_fault bounded accepted, pushesFrom, course_of_fault accepted]
          rfl
      | none =>
          obtain ⟨⟨reply, answered⟩, depth, tracer, calls⟩ := apply_of_accepted bounded accepted
          have later := ih (Stack.depth_apply_le bounded instruction.operation.toOp) (step + 1)
          rw [depth, tracer] at later
          rw [executeFrom, answered, pushesFrom, course_of_accepted accepted, List.filterMap_cons]
          dsimp only
          rw [calls, later]
          cases instruction.operation.toOp.pushed? with
          | none => rfl
          | some word => rfl

end OperandStack.Script
