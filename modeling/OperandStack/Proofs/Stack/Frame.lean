import OperandStack.Proofs.Stack.Refusal

/-!
# Runs on top of other words

What works on an empty stack works on top of any words, as long as there is room: pushes, pops and
swaps that never fault on the empty stack neither see nor move what lies below. The only thing that
can stop them there is the limit, and it stops the first push for which no room is left.
-/

set_option autoImplicit false

namespace OperandStack

variable {Sink : Type}

def TraceCall.raise (below : Nat) (call : TraceCall Sink) : TraceCall Sink :=
  { call with depth := below + call.depth }

private theorem Tracer.notify_add (tracer : Tracer Sink) (word : Word) (below depth : Nat) :
    tracer.notify word (below + depth) = (tracer.notify word depth).map (.raise below) := by
  rw [notify_eq_map_leaves, notify_eq_map_leaves, List.map_map]
  rfl

namespace Stack

/-! ## Operations at the top -/

def Op.atTop : Op → Bool
  | .push _ | .pushUInt256 _ | .pushInt _ | .pushAddress _ | .pushClientAddress _ | .pushSize _
  | .pop | .popUInt256 | .swap _ => true
  | .peek _ | .items | .snapshot | .digest | .depth | .capacity | .reset => false

private theorem exchangeLast_append {base items : List Word} {distance : Nat}
    (near : distance < items.length) :
    exchangeLast (base ++ items) distance = base ++ exchangeLast items distance := by
  have nearBoth : distance < (base ++ items).length := by
    rw [List.length_append]
    omega
  have other : (base ++ items).length - 1 - distance =
      base.length + (items.length - 1 - distance) := by
    rw [List.length_append]
    omega
  have last : (base ++ items).length - 1 = base.length + (items.length - 1) := by
    rw [List.length_append]
    omega
  apply List.ext_getElem?
  intro position
  rw [getElem?_exchangeLast nearBoth, other, last]
  by_cases below : position < base.length
  · rw [if_neg (by omega), if_neg (by omega), List.getElem?_append_left below,
      List.getElem?_append_left below]
  · obtain ⟨offset, rfl⟩ := Nat.exists_eq_add_of_le (Nat.le_of_not_lt below)
    simp only [List.getElem?_append_right, Nat.le_add_right, Nat.add_sub_cancel_left,
      Nat.add_left_cancel_iff, getElem?_exchangeLast near]

private theorem push_append {base items : List Word} {word : Word} {reply : Reply}
    (answered : (Meaning.push items word).result = .ok reply)
    (room : base.length + (Meaning.push items word).items.length ≤ stackLimit) :
    Meaning.push (base ++ items) word =
      ⟨base ++ (Meaning.push items word).items, .ok reply,
        (Meaning.push items word).reported⟩ := by
  unfold Meaning.push at answered room ⊢
  by_cases below : items.length < stackLimit
  · simp only [below, ↓reduceIte, List.length_append, List.length_singleton] at answered room ⊢
    cases answered
    rw [if_pos (by omega), List.append_assoc]
  · simp only [below, ↓reduceIte, Meaning.refused, reduceCtorEq] at answered

private theorem pop_append {base items : List Word} {answer : Word → Reply} {reply : Reply}
    (answered : (Meaning.pop items answer).result = .ok reply) :
    Meaning.pop (base ++ items) answer =
      ⟨base ++ (Meaning.pop items answer).items, .ok reply,
        (Meaning.pop items answer).reported⟩ := by
  unfold Meaning.pop at answered ⊢
  cases last : items.getLast? with
  | none => simp only [last, Meaning.refused, reduceCtorEq] at answered
  | some word =>
      obtain ⟨below, rfl⟩ := List.getLast?_eq_some_iff.mp last
      simp only [last, Meaning.answered, Except.ok.injEq] at answered
      simp only [← List.append_assoc, List.getLast?_concat, Meaning.answered,
        List.dropLast_concat, answered]

private theorem swap_append {base items : List Word} {distance : Int} {reply : Reply}
    (answered : (Meaning.swap items distance).result = .ok reply) :
    Meaning.swap (base ++ items) distance =
      ⟨base ++ (Meaning.swap items distance).items, .ok reply,
        (Meaning.swap items distance).reported⟩ := by
  unfold Meaning.swap at answered ⊢
  by_cases near : 0 ≤ distance ∧ distance < items.length
  · have nearBoth : 0 ≤ distance ∧ distance < (base ++ items).length := by
      rw [List.length_append]
      omega
    simp only [near, and_self, ↓reduceIte, Meaning.answered, Except.ok.injEq] at answered
    rw [if_pos near, if_pos nearBoth, exchangeLast_append (by omega)]
    simp only [Meaning.answered, answered]
  · simp only [near, ↓reduceIte, Meaning.refused, reduceCtorEq] at answered

/-- An operation at the top that is answered on some words is answered alike on top of others, and
leaves those alone, if the words that it leads to have room. -/
theorem meaning_append {base items : List Word} {op : Op} {reply : Reply}
    (top : op.atTop = true) (answered : (op.meaning items).result = .ok reply)
    (room : base.length + (op.meaning items).items.length ≤ stackLimit) :
    op.meaning (base ++ items) =
      ⟨base ++ (op.meaning items).items, .ok reply, (op.meaning items).reported⟩ := by
  cases pushes : op.pushed? with
  | some word =>
      rw [meaning_eq_push pushes] at answered room ⊢
      rw [meaning_eq_push pushes]
      exact push_append answered room
  | none =>
      cases op with
      | pop | popUInt256 => exact pop_append answered
      | swap distance => exact swap_append answered
      | push | pushUInt256 | pushAddress | pushClientAddress | pushSize => cases pushes
      | pushInt value =>
          simp only [Op.pushed?] at pushes
          cases read : Word.ofOptionalInt value with
          | error error => simp only [Op.meaning, read, Meaning.refused, reduceCtorEq] at answered
          | ok word => simp only [read, Except.toOption, reduceCtorEq] at pushes
      | peek | items | snapshot | digest | depth | capacity | reset => cases top

/-! ## Runs without a fault -/

def Run.Faultless (run : Run Sink) : Prop :=
  ∀ result ∈ run.results, ∃ reply, result = .ok reply

def peak (stack : Stack Sink) : List Op → Nat
  | [] => stack.depth
  | op :: rest => max stack.depth ((stack.apply op).stack.peak rest)

private theorem faultless_cons_iff {stack : Stack Sink} {op : Op} {rest : List Op} :
    (run stack (op :: rest)).Faultless ↔
      (∃ reply, (stack.apply op).result = .ok reply) ∧
        (run (stack.apply op).stack rest).Faultless :=
  List.forall_mem_cons

theorem depth_le_peak (stack : Stack Sink) (ops : List Op) : stack.depth ≤ stack.peak ops := by
  cases ops with
  | nil => exact Nat.le_refl _
  | cons op rest => exact Nat.le_max_left _ _

private theorem length_meaning (stack : Stack Sink) (op : Op) :
    (op.meaning stack.items).items.length = (stack.apply op).stack.depth := by
  rw [← (apply_realizes stack op).items, length_items]

/-! ## A run and the same run on top of other words -/

/-- The words of one stack lie on top of others in the second, under the same tracer. -/
structure Framed (base : List Word) (alone framed : Stack Sink) : Prop where
  items : framed.items = base ++ alone.items
  tracer : framed.tracer = alone.tracer

/-- The second run shows what the first one shows: the same results, the same words on top of
others, and the same calls at depths that count those as well. -/
structure Run.Framed (base : List Word) (alone framed : Run Sink) : Prop where
  results : framed.results = alone.results
  stack : Stack.Framed base alone.stack framed.stack
  calls : framed.calls = alone.calls.map (.raise base.length)

variable {base : List Word} {alone framed : Stack Sink}

theorem Framed.depth (below : Framed base alone framed) :
    framed.depth = base.length + alone.depth := by
  rw [← length_items, below.items, List.length_append, length_items]

theorem Framed.apply (below : Framed base alone framed) {op : Op} {reply : Reply}
    (top : op.atTop = true) (answered : (alone.apply op).result = .ok reply)
    (room : base.length + (alone.apply op).stack.depth ≤ stackLimit) :
    (framed.apply op).result = (alone.apply op).result ∧
      (framed.apply op).calls = (alone.apply op).calls.map (.raise base.length) ∧
      Framed base (alone.apply op).stack (framed.apply op).stack := by
  have aloneRealized := apply_realizes alone op
  have framedRealized := apply_realizes framed op
  rw [aloneRealized.result] at answered
  rw [← length_meaning] at room
  rw [below.items, below.tracer, meaning_append top answered room] at framedRealized
  refine ⟨?_, ?_, ?_, ?_⟩
  · rw [framedRealized.result, aloneRealized.result, answered]
  · rw [framedRealized.calls, aloneRealized.calls]
    cases (op.meaning alone.items).reported with
    | none => rfl
    | some word =>
        simp only [Option.map_some, Option.getD_some, List.length_append, Tracer.notify_add]
  · rw [framedRealized.items, aloneRealized.items]
  · rw [framedRealized.tracer, aloneRealized.tracer]

theorem Framed.run (below : Framed base alone framed) {ops : List Op}
    (top : ∀ op ∈ ops, op.atTop = true) (faultless : (run alone ops).Faultless)
    (room : base.length + alone.peak ops ≤ stackLimit) :
    Run.Framed base (Stack.run alone ops) (Stack.run framed ops) := by
  induction ops generalizing alone framed with
  | nil => exact ⟨rfl, below, rfl⟩
  | cons op rest ih =>
      obtain ⟨topFirst, topRest⟩ := List.forall_mem_cons.mp top
      obtain ⟨⟨reply, answered⟩, faultlessRest⟩ := faultless_cons_iff.mp faultless
      have roomRest : base.length + (alone.apply op).stack.peak rest ≤ stackLimit := by
        rw [peak] at room
        omega
      have roomFirst : base.length + (alone.apply op).stack.depth ≤ stackLimit :=
        Nat.le_trans (Nat.add_le_add_left (depth_le_peak _ rest) _) roomRest
      obtain ⟨result, calls, belowRest⟩ := below.apply topFirst answered roomFirst
      obtain ⟨results, stack, callsRest⟩ := ih belowRest topRest faultlessRest roomRest
      exact {
        results := congrArg₂ List.cons result results
        stack := stack
        calls := by simp only [Stack.run, calls, callsRest, List.map_append] }

/-! ## The push that finds no room -/

structure FirstPushAt (stack : Stack Sink) (depth : Nat) (before : List Op) (op : Op) : Prop where
  pushes : op.pushed?.isSome
  reached : (run stack before).stack.depth = depth
  first : ∀ earlier other later, before = earlier ++ other :: later → other.pushed?.isSome →
    (run stack earlier).stack.depth ≠ depth

private theorem depth_apply_le_succ (stack : Stack Sink) (op : Op) :
    (stack.apply op).stack.depth ≤ stack.depth + 1 := by
  rw [← length_meaning]
  cases pushes : op.pushed? with
  | none =>
      have shrinks := (meaning_of_no_push pushes stack.items).1
      rw [length_items] at shrinks
      exact Nat.le_succ_of_le shrinks
  | some word =>
      rw [meaning_eq_push pushes, Meaning.push]
      split
      · simp
      · simp [Meaning.refused]

/-- A run that gets deeper than some depth attempts a push there, and stays within the depth until
the first such push. -/
private theorem exists_firstPushAt {stack : Stack Sink} {depth : Nat} {ops : List Op}
    (within : stack.depth ≤ depth) (deeper : depth < stack.peak ops) :
    ∃ before op after, ops = before ++ op :: after ∧ FirstPushAt stack depth before op ∧
      stack.peak before ≤ depth := by
  induction ops generalizing stack with
  | nil => exact absurd deeper (Nat.not_lt_of_le within)
  | cons op rest ih =>
      by_cases here : op.pushed?.isSome ∧ stack.depth = depth
      · refine ⟨[], op, rest, rfl, ⟨here.1, here.2, ?_⟩, within⟩
        intro earlier other later split
        exact absurd split (by simp)
      · have stillWithin : (stack.apply op).stack.depth ≤ depth := by
          cases pushes : op.pushed? with
          | none =>
              have shrinks := (meaning_of_no_push pushes stack.items).1
              rw [length_meaning, length_items] at shrinks
              exact Nat.le_trans shrinks within
          | some word =>
              have below : stack.depth ≠ depth := fun same => here ⟨by rw [pushes]; rfl, same⟩
              have grows := depth_apply_le_succ stack op
              omega
        have stillDeeper : depth < (stack.apply op).stack.peak rest := by
          rw [peak] at deeper
          omega
        obtain ⟨before, last, after, split, first, peaked⟩ := ih stillWithin stillDeeper
        refine ⟨op :: before, last, after, congrArg (op :: ·) split, ?_, ?_⟩
        · refine ⟨first.pushes, first.reached, ?_⟩
          intro earlier other later splitBefore pushes
          cases earlier with
          | nil =>
              cases splitBefore
              exact fun same => here ⟨pushes, same⟩
          | cons head tail =>
              obtain ⟨rfl, splitRest⟩ := List.cons.inj splitBefore
              exact first.first tail other later splitRest pushes
        · exact Nat.max_le.mpr ⟨within, peaked⟩

private theorem run_concat_of_full {stack : Stack Sink} {before : List Op} {op : Op}
    (pushes : op.pushed?.isSome) (full : (run stack before).stack.depth = 1024) :
    run stack (before ++ [op]) =
      { run stack before with
        results := (run stack before).results ++
          [.error (.stack ⟨.push, 1024, 0, .condition .stackOverflow⟩)] } := by
  obtain ⟨word, pushed⟩ := Option.isSome_iff_exists.mp pushes
  have failed : ((run stack before).stack.apply op).result =
      .error (.stack ⟨.push, 1024, 0, .condition .stackOverflow⟩) := by
    rw [(apply_realizes _ op).result, meaning_eq_push pushed, Meaning.push, length_items, full]
    rfl
  simp only [run_concat, apply_eq_refused failed, refused, List.append_nil]

/-- Pushes, pops and swaps that run without a fault on an empty stack do the same on top of the
words of any other stack under the same tracer, if there is room for their greatest depth. If there
is not, they do the same up to the first push for which the limit leaves no room, which is refused
and changes nothing. -/
theorem run_framed_up_to_limit (base : Stack Sink) (bounded : base.depth ≤ 1024) (ops : List Op)
    (top : ∀ op ∈ ops, op.atTop = true)
    (faultless : (run (new [some base.tracer]) ops).Faultless) :
    let alone := new [some base.tracer]
    (base.depth + alone.peak ops ≤ 1024 →
      (run base ops).Faultless ∧ Run.Framed base.items (run alone ops) (run base ops)) ∧
    (1024 < base.depth + alone.peak ops →
      ∃ before op after, ops = before ++ op :: after ∧
        FirstPushAt alone (1024 - base.depth) before op ∧
        Run.Framed base.items (run alone before) (run base before) ∧
        run base (before ++ [op]) =
          { run base before with
            results := (run base before).results ++
              [.error (.stack ⟨.push, 1024, 0, .condition .stackOverflow⟩)] }) := by
  intro alone
  have below : Framed base.items alone base := by
    constructor
    · rw [items_new, List.append_nil]
    · rfl
  constructor
  · intro room
    have framed := below.run top faultless (by rwa [length_items])
    refine ⟨?_, framed⟩
    rw [Run.Faultless, framed.results]
    exact faultless
  · intro noRoom
    obtain ⟨before, op, after, rfl, first, peaked⟩ :=
      exists_firstPushAt (by rw [depth_new]; exact Nat.zero_le _ : alone.depth ≤ 1024 - base.depth)
        (by omega : 1024 - base.depth < alone.peak ops)
    have faultlessBefore : (run alone before).Faultless := by
      intro result member
      apply faultless result
      rw [run_append]
      exact List.mem_append_left _ member
    have framed := below.run (fun other member => top other (List.mem_append_left _ member))
      faultlessBefore (by rw [length_items]; unfold stackLimit; omega)
    refine ⟨before, op, after, rfl, first, framed, run_concat_of_full first.pushes ?_⟩
    rw [framed.stack.depth, length_items, first.reached]
    omega

def nearlyFull : Stack Nat :=
  ⟨⟨Array.replicate 1024 Word.zero, 1023, by simp⟩, .single 7⟩

theorem nearlyFull_framed_up_to_limit :
    nearlyFull.depth = 1023 ∧
      (run (new [some nearlyFull.tracer]) [.pushSize 5, .pushSize 6]).results =
        [.ok .done, .ok .done] ∧
      ∃ before op after, [.pushSize 5, .pushSize 6] = before ++ op :: after ∧
        FirstPushAt (new [some nearlyFull.tracer]) 1 before op ∧
        (run nearlyFull (before ++ [op])).stack = (run nearlyFull before).stack := by
  have answered : (run (new [some nearlyFull.tracer]) [.pushSize 5, .pushSize 6]).results =
      [.ok .done, .ok .done] := by
    decide +kernel
  have faultless : (run (new [some nearlyFull.tracer]) [.pushSize 5, .pushSize 6]).Faultless := by
    rw [Run.Faultless, answered]
    simp
  obtain ⟨_, overflows⟩ :=
    run_framed_up_to_limit nearlyFull (by decide) [.pushSize 5, .pushSize 6] (by decide) faultless
  obtain ⟨before, op, after, split, first, _, refused⟩ := overflows (by decide +kernel)
  exact ⟨rfl, answered, before, op, after, split, first, by rw [refused]⟩

end Stack

end OperandStack
