import OperandStack.Proofs.Stack.Refusal
import OperandStack.Script.Execution

/-!
# Faults by counting

Whether, where and how a script faults can be read off the numbers of pushes and pops before each
operation. No pushed value, tracer or cell of the buffer plays a part. The lemmas start at any depth
within the limit, so that they pass along a script; the main result starts at an empty stack.
-/

set_option autoImplicit false

namespace OperandStack.Script

variable {Sink : Type}

/-! ## Counting -/

def Operation.pushes : Operation → Bool
  | .push _ | .pushSize _ | .pushAddress _ => true
  | .pop | .swap _ | .peek _ => false

def Operation.pops : Operation → Bool
  | .pop => true
  | .push _ | .pushSize _ | .pushAddress _ | .swap _ | .peek _ => false

def netDepth (script : List Instruction) : Int :=
  (script.countP (·.operation.pushes) : Int) - script.countP (·.operation.pops)

/-- The depth before the operation at an index, when the script starts at the given depth. -/
def depthAt (start : Int) (script : List Instruction) (index : Nat) : Int :=
  start + netDepth (script.take index)

/-- The report on an operation at a depth, if it is a fault there. -/
def Operation.fault? (depth : Int) : Operation → Option StackError
  | .push _ | .pushSize _ | .pushAddress _ =>
      if depth < 1024 then none else some ⟨.push, depth, 0, .condition .stackOverflow⟩
  | .pop => if 0 < depth then none else some ⟨.pop, depth, 0, .condition .stackUnderflow⟩
  | .swap distance =>
      if 0 ≤ distance ∧ distance < depth then none
      else some ⟨.swap, depth, distance, .condition .stackUnderflow⟩
  | .peek _ => none

def FaultFree (start : Int) (script : List Instruction) : Prop :=
  ∀ (index : Nat) (instruction : Instruction), script[index]? = some instruction →
    instruction.operation.fault? (depthAt start script index) = none

/-- The least index with a fault, the instruction there and the report on it. -/
structure FirstFault (start : Int) (script : List Instruction) (index : Nat)
    (instruction : Instruction) (fault : StackError) : Prop where
  found : script[index]? = some instruction
  faulty : instruction.operation.fault? (depthAt start script index) = some fault
  least : ∀ (earlier : Nat) (other : Instruction), earlier < index →
    script[earlier]? = some other →
      other.operation.fault? (depthAt start script earlier) = none

theorem netDepth_append (front back : List Instruction) :
    netDepth (front ++ back) = netDepth front + netDepth back := by
  simp only [netDepth, List.countP_append]
  omega

theorem netDepth_cons (instruction : Instruction) (rest : List Instruction) :
    netDepth (instruction :: rest) = netDepth [instruction] + netDepth rest :=
  netDepth_append [instruction] rest

@[simp]
theorem depthAt_zero (start : Int) (script : List Instruction) :
    depthAt start script 0 = start := by
  simp [depthAt, netDepth]

theorem depthAt_length (start : Int) (script : List Instruction) :
    depthAt start script script.length = start + netDepth script := by
  rw [depthAt, List.take_length]

@[simp]
theorem depthAt_cons_succ (start : Int) (instruction : Instruction) (rest : List Instruction)
    (index : Nat) :
    depthAt start (instruction :: rest) (index + 1) =
      depthAt (start + netDepth [instruction]) rest index := by
  rw [depthAt, depthAt, List.take_succ_cons, netDepth_cons, ← Int.add_assoc]

theorem faultFree_cons_iff {start : Int} {instruction : Instruction} {rest : List Instruction} :
    FaultFree start (instruction :: rest) ↔
      instruction.operation.fault? start = none ∧
        FaultFree (start + netDepth [instruction]) rest := by
  constructor
  · intro free
    refine ⟨by simpa using free 0 instruction rfl, ?_⟩
    intro index other found
    simpa using free (index + 1) other found
  · rintro ⟨first, free⟩ index other found
    cases index with
    | zero =>
        cases found
        simpa using first
    | succ index => simpa using free index other found

private theorem FirstFault.faultFree_take {start : Int} {script : List Instruction} {index : Nat}
    {instruction : Instruction} {fault : StackError}
    (first : FirstFault start script index instruction fault) :
    FaultFree start (script.take index) := by
  intro earlier other found
  have below : earlier < index := by
    have inside := (List.getElem?_eq_some_iff.mp found).1
    rw [List.length_take] at inside
    omega
  rw [List.getElem?_take_of_lt below] at found
  rw [depthAt, List.take_take, Nat.min_eq_left (Nat.le_of_lt below)]
  exact first.least earlier other below found

theorem faultFree_or_firstFault (start : Int) (script : List Instruction) :
    FaultFree start script ∨
      ∃ index instruction fault, FirstFault start script index instruction fault := by
  induction script generalizing start with
  | nil => exact .inl fun _ _ found => by cases found
  | cons instruction rest ih =>
      cases now : instruction.operation.fault? start with
      | some fault =>
          refine .inr ⟨0, instruction, fault, rfl, by simpa using now, ?_⟩
          intro _ _ impossible
          omega
      | none =>
          rcases ih (start + netDepth [instruction]) with free | ⟨index, other, fault, first⟩
          · exact .inl (faultFree_cons_iff.mpr ⟨now, free⟩)
          · refine .inr ⟨index + 1, other, fault, first.found, by simpa using first.faulty, ?_⟩
            intro earlier candidate below found
            cases earlier with
            | zero =>
                cases found
                simpa using now
            | succ earlier => simpa using first.least earlier candidate (by omega) found

/-! ## One operation -/

/-- Within the limit, counting and the stack refuse the same operations with the same report. -/
private theorem refusal?_toOp {depth : Nat} (bounded : depth ≤ stackLimit) (operation : Operation) :
    operation.toOp.refusal? depth = (operation.fault? depth).map .stack := by
  unfold stackLimit at bounded
  cases operation with
  | push | pushSize | pushAddress =>
      simp only [Operation.toOp, Stack.Op.refusal?, Operation.fault?, Stack.overflow?]
      by_cases full : depth = 1024
      · simp [full]
      · have room : (depth : Int) < 1024 := by omega
        simp [full, room]
  | pop =>
      simp only [Operation.toOp, Stack.Op.refusal?, Operation.fault?]
      by_cases empty : depth = 0
      · simp [empty]
      · have held : (0 : Int) < depth := by omega
        rw [if_neg empty, if_pos held]
        rfl
  | swap distance =>
      simp only [Operation.toOp, Stack.Op.refusal?, Operation.fault?]
      by_cases near : 0 ≤ distance ∧ distance < depth
      · have notFar : ¬(distance < 0 ∨ (depth : Int) ≤ distance) := by omega
        simp [near, notFar]
      · have far : distance < 0 ∨ (depth : Int) ≤ distance := by omega
        simp [near, far]
  | peek => rfl

private theorem length_meaning_toOp (items : List Word) (instruction : Instruction)
    (accepted : instruction.operation.fault? items.length = none) :
    ((instruction.operation.toOp.meaning items).items.length : Int) =
      items.length + netDepth [instruction] := by
  obtain ⟨operation, source⟩ := instruction
  cases operation with
  | push | pushSize | pushAddress =>
      have room : items.length < stackLimit := by
        simp only [Operation.fault?, ite_eq_left_iff, reduceCtorEq, imp_false] at accepted
        unfold stackLimit
        omega
      simp [Operation.toOp, Stack.Op.meaning, Stack.Meaning.push, room, netDepth,
        Operation.pushes, Operation.pops]
  | pop =>
      have held : items ≠ [] := by
        rintro rfl
        cases accepted
      obtain ⟨below, word, rfl⟩ : ∃ below word, items = below ++ [word] :=
        ⟨_, _, (List.dropLast_concat_getLast held).symm⟩
      have popped : netDepth [⟨.pop, source⟩] = -1 := rfl
      simp only [Operation.toOp, Stack.Op.meaning, Stack.Meaning.pop, List.getLast?_concat,
        Stack.Meaning.answered, List.dropLast_concat, popped, List.length_append, List.length_cons,
        List.length_nil]
      omega
  | swap distance =>
      simp [Operation.toOp, Stack.Op.meaning, netDepth, Operation.pushes, Operation.pops]
  | peek =>
      simp [Operation.toOp, Stack.Op.meaning, Stack.Meaning.answered, netDepth, Operation.pushes,
        Operation.pops]

private theorem apply_toOp_error_iff {stack : Stack Sink} (bounded : stack.depth ≤ stackLimit)
    (operation : Operation) (error : Stack.OpError) :
    (stack.apply operation.toOp).result = .error error ↔
      (operation.fault? stack.depth).map .stack = some error := by
  rw [(Stack.apply_realizes stack operation.toOp).result, ← refusal?_toOp bounded,
    ← Stack.length_items]
  exact Stack.meaning_error_iff (by rwa [Stack.length_items]) operation.toOp error

theorem apply_toOp_of_fault?_none {stack : Stack Sink} {instruction : Instruction}
    (bounded : stack.depth ≤ stackLimit)
    (accepted : instruction.operation.fault? stack.depth = none) :
    (∃ reply, (stack.apply instruction.operation.toOp).result = .ok reply) ∧
      ((stack.apply instruction.operation.toOp).stack.depth : Int) =
        stack.depth + netDepth [instruction] := by
  constructor
  · cases answer : (stack.apply instruction.operation.toOp).result with
    | ok reply => exact ⟨reply, rfl⟩
    | error error =>
        have refused := (apply_toOp_error_iff bounded instruction.operation error).mp answer
        simp only [accepted, Option.map_none, reduceCtorEq] at refused
  · rw [← Stack.length_items, ← Stack.length_items stack] at *
    rw [(Stack.apply_realizes stack instruction.operation.toOp).items]
    exact length_meaning_toOp stack.items instruction accepted

/-! ## Whole scripts -/

theorem executeFrom_append {stack : Stack Sink} {step : Nat} {front : List Instruction}
    (finished : (executeFrom step stack front).error = none) (back : List Instruction) :
    executeFrom step stack (front ++ back) =
      let first := executeFrom step stack front
      let later := executeFrom (step + front.length) first.stack back
      { later with
        output := first.output ++ later.output
        calls := first.calls ++ later.calls } := by
  induction front generalizing stack step with
  | nil => rfl
  | cons instruction rest ih =>
      simp only [List.cons_append, executeFrom] at finished ⊢
      cases answer : (stack.apply instruction.operation.toOp).result with
      | error cause => simp only [answer, reduceCtorEq] at finished
      | ok reply =>
          simp only [answer] at finished ⊢
          rw [ih finished, List.length_cons, Nat.add_right_comm, ← Nat.add_assoc]
          simp only [List.append_assoc]

theorem executeFrom_of_fault {stack : Stack Sink} {instruction : Instruction} {fault : StackError}
    (bounded : stack.depth ≤ stackLimit)
    (faulty : instruction.operation.fault? stack.depth = some fault)
    (step : Nat) (rest : List Instruction) :
    executeFrom step stack (instruction :: rest) =
      ⟨stack, [], [], some ⟨step, instruction.source, .stack fault⟩⟩ := by
  have failed : (stack.apply instruction.operation.toOp).result = .error (.stack fault) :=
    (apply_toOp_error_iff bounded instruction.operation _).mpr (by rw [faulty]; rfl)
  rw [executeFrom, Stack.apply_eq_refused failed]
  rfl

theorem executeFrom_of_faultFree {stack : Stack Sink} {script : List Instruction}
    (bounded : stack.depth ≤ stackLimit) (free : FaultFree stack.depth script) (step : Nat) :
    (executeFrom step stack script).error = none ∧
      ((executeFrom step stack script).stack.depth : Int) = stack.depth + netDepth script ∧
      (executeFrom step stack script).stack.depth ≤ stackLimit := by
  induction script generalizing stack step with
  | nil => exact ⟨rfl, by simp [executeFrom, netDepth], bounded⟩
  | cons instruction rest ih =>
      obtain ⟨accepted, free⟩ := faultFree_cons_iff.mp free
      obtain ⟨⟨reply, answer⟩, moved⟩ := apply_toOp_of_fault?_none bounded accepted
      rw [← moved] at free
      obtain ⟨finished, depth, within⟩ :=
        ih (Stack.depth_apply_le bounded _) free (step + 1)
      simp only [executeFrom, answer]
      refine ⟨finished, ?_, within⟩
      rw [depth, moved, netDepth_cons instruction rest, Int.add_assoc]

private theorem executeFrom_of_firstFault {stack : Stack Sink}
    {script : List Instruction} {index : Nat}
    {instruction : Instruction} {fault : StackError} (bounded : stack.depth ≤ stackLimit)
    (first : FirstFault stack.depth script index instruction fault) (step : Nat) :
    (executeFrom step stack (script.take index)).error = none ∧
      executeFrom step stack script =
        { executeFrom step stack (script.take index) with
          error := some ⟨step + index, instruction.source, .stack fault⟩ } := by
  obtain ⟨finished, depth, within⟩ :=
    executeFrom_of_faultFree bounded first.faultFree_take step
  rw [← depthAt] at depth
  obtain ⟨inside, atIndex⟩ := List.getElem?_eq_some_iff.mp first.found
  have split : script = script.take index ++ instruction :: script.drop (index + 1) := by
    rw [← atIndex, List.getElem_cons_drop, List.take_append_drop]
  have faulty := first.faulty
  rw [← depth] at faulty
  refine ⟨finished, ?_⟩
  calc
    executeFrom step stack script =
        executeFrom step stack (script.take index ++ instruction :: script.drop (index + 1)) := by
      rw [← split]
    _ = _ := by
      simp only [executeFrom_append finished, executeFrom_of_fault within faulty,
        List.length_take_of_le (Nat.le_of_lt inside), List.append_nil]

/-! ## Scripts that differ in pushed values only -/

def Operation.blank : Operation → Operation
  | .push _ | .pushSize _ | .pushAddress _ => .push Word.zero
  | .pop => .pop
  | .swap distance => .swap distance
  | .peek position => .peek position

def skeleton (script : List Instruction) : List Operation :=
  script.map (·.operation.blank)

private theorem fault?_blank (depth : Int) (operation : Operation) :
    operation.blank.fault? depth = operation.fault? depth := by
  cases operation <;> rfl

private theorem netDepth_eq_of_skeleton_eq {script variant : List Instruction}
    (same : skeleton variant = skeleton script) : netDepth variant = netDepth script := by
  have counted : ∀ (counts : Operation → Bool),
      (∀ operation, counts operation.blank = counts operation) →
        variant.countP (counts ·.operation) = script.countP (counts ·.operation) := by
    intro counts blind
    have onSkeleton : ∀ instructions : List Instruction,
        (skeleton instructions).countP counts = instructions.countP (counts ·.operation) := by
      intro instructions
      rw [skeleton, List.countP_map]
      simp only [Function.comp_def, blind]
    rw [← onSkeleton, ← onSkeleton, same]
  have pushes := counted Operation.pushes (by intro operation; cases operation <;> rfl)
  have pops := counted Operation.pops (by intro operation; cases operation <;> rfl)
  rw [netDepth, netDepth, pushes, pops]

private theorem fault?_eq_of_skeleton_eq {script variant : List Instruction}
    (same : skeleton variant = skeleton script) (start : Int) {index : Nat}
    {instruction : Instruction} (found : variant[index]? = some instruction) :
    ∃ original, script[index]? = some original ∧
      original.operation.fault? (depthAt start script index) =
        instruction.operation.fault? (depthAt start variant index) := by
  have prefixes : skeleton (variant.take index) = skeleton (script.take index) := by
    rw [skeleton, skeleton, List.map_take, List.map_take]
    exact congrArg (List.take index) same
  have blanks := congrArg (·[index]?) same
  simp only [skeleton, List.getElem?_map, found, Option.map_some] at blanks
  obtain ⟨original, foundOriginal, blank⟩ := Option.map_eq_some_iff.mp blanks.symm
  refine ⟨original, foundOriginal, ?_⟩
  rw [depthAt, depthAt, netDepth_eq_of_skeleton_eq prefixes, ← fault?_blank, blank, fault?_blank]

private theorem FaultFree.of_skeleton_eq {start : Int} {script variant : List Instruction}
    (free : FaultFree start script) (same : skeleton variant = skeleton script) :
    FaultFree start variant := by
  intro index instruction found
  obtain ⟨original, foundOriginal, fault⟩ := fault?_eq_of_skeleton_eq same start found
  rw [← fault]
  exact free index original foundOriginal

private theorem FirstFault.of_skeleton_eq {start : Int} {script variant : List Instruction}
    {index : Nat} {instruction : Instruction} {fault : StackError}
    (first : FirstFault start script index instruction fault)
    (same : skeleton variant = skeleton script) :
    ∃ changed, FirstFault start variant index changed fault := by
  obtain ⟨changed, found, faulty⟩ := fault?_eq_of_skeleton_eq same.symm start first.found
  refine ⟨changed, found, faulty.trans first.faulty, ?_⟩
  intro earlier other below foundOther
  obtain ⟨original, foundOriginal, fault⟩ := fault?_eq_of_skeleton_eq same start foundOther
  rw [← fault]
  exact first.least earlier original below foundOriginal

/-! ## Scripts on an empty stack -/

theorem execute_error_eq_none_iff {stack : Stack Sink} (empty : stack.depth = 0)
    (script : List Instruction) : (execute stack script).error = none ↔ FaultFree 0 script := by
  have bounded : stack.depth ≤ stackLimit := by omega
  constructor
  · intro finished
    rcases faultFree_or_firstFault 0 script with free | ⟨index, instruction, fault, first⟩
    · exact free
    · obtain ⟨_, stopped⟩ := executeFrom_of_firstFault bounded (by simpa [empty] using first) 0
      rw [execute, stopped] at finished
      cases finished
  · intro free
    exact (executeFrom_of_faultFree bounded (by simpa [empty] using free) 0).1

theorem execute_of_firstFault {stack : Stack Sink} (empty : stack.depth = 0)
    {script : List Instruction} {index : Nat} {instruction : Instruction} {fault : StackError}
    (first : FirstFault 0 script index instruction fault) :
    (execute stack (script.take index)).error = none ∧
      execute stack script =
        { execute stack (script.take index) with
          error := some ⟨index, instruction.source, .stack fault⟩ } := by
  have bounded : stack.depth ≤ stackLimit := by omega
  have stopped := executeFrom_of_firstFault bounded (by simpa [empty] using first) 0
  simpa only [execute, Nat.zero_add] using stopped

/-- On an empty stack, a script runs to its end exactly if no operation is a fault at the counted
depth, and then leaves that depth. Otherwise it does what the operations before the first fault do,
and the report gives its index, its text and the fault at the counted depth. Scripts that differ in
pushed values only stop at the same place for the same reason. -/
theorem execute_faults_by_counting (stack : Stack Sink) (empty : stack.depth = 0)
    (script : List Instruction) :
    ((execute stack script).error = none ↔ FaultFree 0 script) ∧
      ((execute stack script).error = none →
        ((execute stack script).stack.depth : Int) = depthAt 0 script script.length) ∧
      (∀ error, (execute stack script).error = some error →
        ∃ index instruction fault, FirstFault 0 script index instruction fault ∧
          (execute stack (script.take index)).error = none ∧
          execute stack script =
            { execute stack (script.take index) with
              error := some ⟨index, instruction.source, .stack fault⟩ }) ∧
      (∀ (Other : Type) (other : Stack Other) (variant : List Instruction), other.depth = 0 →
        skeleton variant = skeleton script →
          (execute other variant).error.map (fun error => (error.step, error.cause)) =
            (execute stack script).error.map fun error => (error.step, error.cause)) := by
  refine ⟨execute_error_eq_none_iff empty script, ?_, ?_, ?_⟩
  · intro finished
    have free := (execute_error_eq_none_iff empty script).mp finished
    have bounded : stack.depth ≤ stackLimit := by omega
    obtain ⟨_, depth, _⟩ :=
      executeFrom_of_faultFree bounded (by simpa [empty] using free) 0
    rw [depthAt_length, execute, depth, empty]
    rfl
  · intro error failed
    rcases faultFree_or_firstFault 0 script with free | ⟨index, instruction, fault, first⟩
    · rw [(execute_error_eq_none_iff empty script).mpr free] at failed
      cases failed
    · exact ⟨index, instruction, fault, first, execute_of_firstFault empty first⟩
  · intro Other other variant otherEmpty same
    rcases faultFree_or_firstFault 0 script with free | ⟨index, instruction, fault, first⟩
    · rw [(execute_error_eq_none_iff empty script).mpr free,
        (execute_error_eq_none_iff otherEmpty variant).mpr (free.of_skeleton_eq same)]
    · obtain ⟨changed, firstChanged⟩ := first.of_skeleton_eq same
      rw [(execute_of_firstFault empty first).2, (execute_of_firstFault otherEmpty firstChanged).2]
      rfl

theorem execute_faults_at_second_pop :
    (Stack.new [] : Stack Unit).depth = 0 ∧
      (execute (Stack.new [] : Stack Unit)
        [⟨.push Word.zero, ascii "push:0"⟩, ⟨.pop, ascii "pop"⟩, ⟨.pop, ascii "pop"⟩]).error ≠
          none := by
  refine ⟨Stack.depth_new [], fun finished => ?_⟩
  have free := (execute_faults_by_counting _ (Stack.depth_new []) _).1.mp finished
  have second := free 2 ⟨.pop, ascii "pop"⟩ rfl
  revert second
  decide

end OperandStack.Script
