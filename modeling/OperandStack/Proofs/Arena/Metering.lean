import Mathlib.Data.List.Induction
import Mathlib.Order.Bounds.Basic
import OperandStack.Proofs.Arena.Custody
import OperandStack.Proofs.Metrics.Meter
import OperandStack.Proofs.Tracer.History
import OperandStack.Session

/-!
# A meter on many stacks

One meter hears the pushes of all stacks that report to it, for as long as they do. It is told of
pushes alone, and yet shows the greatest depth of all these stacks at all times: only a push makes a
stack deeper, and a stack begins to report when it is empty. The pool takes the meter off with every
return.
-/

set_option autoImplicit false

namespace OperandStack

variable {Owner Sink : Type}

/-! ## Calls that reach a meter -/

def PushMeter.hear [DecidableEq Sink] (meter : PushMeter) (sink : Sink)
    (calls : List (TraceCall Sink)) : PushMeter :=
  (calls.filter (·.sink = sink)).foldl (fun seen call => seen.receive call.depth) meter

private theorem PushMeter.hear_append [DecidableEq Sink] (meter : PushMeter) (sink : Sink)
    (first second : List (TraceCall Sink)) :
    meter.hear sink (first ++ second) = (meter.hear sink first).hear sink second := by
  unfold hear
  rw [List.filter_append, List.foldl_append]

private theorem Session.sink_deliver {session : Session} {id : SinkId} {meter : PushMeter}
    (installed : session.sinks[id]? = some (.meter meter)) (calls : List (TraceCall SinkId)) :
    (session.deliver calls).sinks[id]? = some (.meter (meter.hear id calls)) := by
  induction calls generalizing session meter with
  | nil => exact installed
  | cons call rest ih =>
      have first : (session.deliver [call]).sinks[id]? = some (.meter (meter.hear id [call])) := by
        simp only [deliver, List.foldl_cons, List.foldl_nil, Array.getElem?_modify]
        by_cases own : call.sink = id
        · simp only [own, ↓reduceIte, installed, Option.map_some, Sink.receive, PushMeter.hear,
            decide_true, List.filter_cons_of_pos, List.filter_nil, List.foldl_cons, List.foldl_nil]
        · simp only [own, ↓reduceIte, installed, PushMeter.hear, decide_false, Bool.false_eq_true,
            not_false_eq_true, List.filter_cons_of_neg, List.filter_nil, List.foldl_nil]
      have later := ih first
      rw [← PushMeter.hear_append] at later
      exact later

namespace Stack

private theorem apply_push_cases (stack : Stack Sink) (op : Op) :
    (∃ word, op.pushed? = some word ∧ (stack.apply op).result = .ok .done ∧
      (stack.apply op).stack.depth ≤ stackLimit ∧
      (stack.apply op).calls =
        stack.tracer.leaves.map fun sink => ⟨sink, word, (stack.apply op).stack.depth⟩) ∨
    ((op.pushed? = none ∨ ∃ error, (stack.apply op).result = .error error) ∧
      (stack.apply op).stack.depth ≤ stack.depth ∧ (stack.apply op).calls = []) := by
  have realized := apply_realizes stack op
  have calls := calls_apply stack op
  rw [← length_items, ← length_items, realized.items, realized.result, calls]
  cases pushes : op.pushed? with
  | none =>
      right
      refine ⟨.inl rfl, (meaning_of_no_push pushes stack.items).1, ?_⟩
      unfold Op.due
      cases (op.meaning stack.items).result with
      | error error => rfl
      | ok reply => rw [pushes]
  | some word =>
      rw [meaning_eq_push pushes, Op.due.eq_def, pushes]
      by_cases room : stack.items.length < stackLimit
      · left
        rw [Meaning.push, if_pos room]
        refine ⟨word, rfl, rfl, ?_, rfl⟩
        rw [List.length_append]
        exact room
      · right
        rw [Meaning.push, if_neg room]
        exact ⟨.inr ⟨_, rfl⟩, Nat.le_refl _, rfl⟩

def hears [DecidableEq Sink] (sink : Sink) (stack : Stack Sink) (op : Op) : Bool :=
  sink ∈ stack.tracer.leaves && op.pushed?.isSome && (stack.apply op).result.isOk

private theorem hear_apply [DecidableEq Sink] {sink : Sink} {stack : Stack Sink}
    (once : stack.tracer.leaves.count sink ≤ 1) (op : Op) (meter : PushMeter) :
    (stack.hears sink op = true ∧ sink ∈ stack.tracer.leaves ∧
      (stack.apply op).stack.depth ≤ stackLimit ∧
      meter.hear sink (stack.apply op).calls = meter.receive (stack.apply op).stack.depth) ∨
    (stack.hears sink op = false ∧ meter.hear sink (stack.apply op).calls = meter ∧
      (sink ∈ stack.tracer.leaves → (stack.apply op).stack.depth ≤ stack.depth)) := by
  rcases stack.apply_push_cases op with ⟨word, pushes, done, bounded, calls⟩ | ⟨idle, lower, calls⟩
  · have named : (stack.apply op).calls.filter (·.sink = sink) =
        List.replicate (stack.tracer.leaves.count sink)
          ⟨sink, word, (stack.apply op).stack.depth⟩ := by
      rw [calls, List.filter_map]
      exact (congrArg _ (List.filter_eq sink)).trans List.map_replicate
    by_cases listed : sink ∈ stack.tracer.leaves
    · left
      have exact : stack.tracer.leaves.count sink = 1 :=
        Nat.le_antisymm once (List.count_pos_iff.mpr listed)
      refine ⟨?_, listed, bounded, ?_⟩
      · simp only [hears, listed, pushes, done, decide_true, Option.isSome_some, Bool.and_self,
          Except.isOk, Except.toBool]
      · rw [PushMeter.hear, named, exact]
        rfl
    · right
      refine ⟨?_, ?_, fun member => absurd member listed⟩
      · simp only [hears, listed, decide_false, Bool.false_and]
      · rw [PushMeter.hear, named, List.count_eq_zero.mpr listed]
        rfl
  · right
    refine ⟨?_, ?_, fun _ => lower⟩
    · rcases idle with none | ⟨error, failed⟩
      · simp only [hears, none, Option.isSome_none, Bool.and_false, Bool.false_and]
      · simp only [hears, failed, Except.isOk, Except.toBool, Bool.and_false]
    · rw [calls]
      rfl

end Stack

namespace Arena

/-! ## Moves that push nothing -/

def Sight.calls : Sight Sink → List (TraceCall Sink)
  | .answered _ calls => calls
  | .done | .dangling => []

def Move.installs : Move Owner Sink → List Sink
  | .get _ settings _ | .make _ settings => (Stack.new settings).tracer.leaves
  | .perform _ _ _ | .put _ _ | .putNothing _ | .discard _ => []

namespace World

/-- A move that pushes a word on a stack which reports to a sink. -/
def heardPush [DecidableEq Sink] (sink : Sink) (world : World Sink) : Move Owner Sink → Bool
  | .perform _ checkout op => (world.stack? checkout).any fun stack => stack.hears sink op
  | _ => false

/-- A move that calls no sink. A stack that it changes is empty afterwards and reports to the sinks
that the move installs. -/
structure Quiet [DecidableEq Sink] (world : World Sink) (sink : Sink) (move : Move Owner Sink) :
    Prop where
  unheard : world.heardPush sink move = false
  calls : (world.step move).2.calls = []
  changed : ∀ handle stack, (world.step move).1.arena.stack? handle = some stack →
    (stack.items = [] ∧ stack.tracer.leaves = move.installs) ∨
      world.arena.stack? handle = some stack

private theorem quiet_of_dangling [DecidableEq Sink] {world : World Sink} {sink : Sink}
    {move : Move Owner Sink} (unheard : world.heardPush sink move = false)
    (dangling : world.step move = (world, .dangling)) : world.Quiet sink move where
  unheard := unheard
  calls := by
    rw [dangling]
    rfl
  changed handle stack found := by
    rw [dangling] at found
    exact .inr found

private theorem step_missing {world : World Sink} {checkout : Nat}
    (missing : world.stack? checkout = none) (owner : Owner) (op : Stack.Op) :
    world.step (.perform owner checkout op) = (world, .dangling) := by
  unfold step
  cases issued : world.issued[checkout]? with
  | none => simp only [issued, Option.bind_none]
  | some handle =>
      rw [stack?, issued, Option.bind_some] at missing
      simp only [issued, Option.bind_some, perform, missing, Option.map_none]

private theorem step_cases [DecidableEq Sink] (world : World Sink) (sink : Sink)
    (move : Move Owner Sink) :
    (∃ owner checkout op handle stack, move = .perform owner checkout op ∧
      world.issued[checkout]? = some handle ∧ world.arena.stack? handle = some stack) ∨
    world.Quiet sink move := by
  cases move with
  | get owner settings choice =>
      refine .inr ⟨rfl, rfl, ?_⟩
      intro handle stack found
      rcases of_stack?_get found with fresh | earlier
      · exact .inl
          ⟨fresh.items.trans (Stack.items_new settings), congrArg Tracer.leaves fresh.tracer⟩
      · exact .inr earlier
  | make owner settings =>
      refine .inr ⟨rfl, rfl, ?_⟩
      intro handle stack found
      rcases of_stack?_make found with ⟨_, same⟩ | earlier
      · subst stack
        exact .inl ⟨Stack.items_new settings, rfl⟩
      · exact .inr earlier
  | perform owner checkout op =>
      cases found : world.stack? checkout with
      | some stack =>
          obtain ⟨handle, issued, held⟩ := Option.bind_eq_some_iff.mp found
          exact .inl ⟨owner, checkout, op, handle, stack, rfl, issued, held⟩
      | none =>
          refine .inr (quiet_of_dangling ?_ (step_missing found owner op))
          simp only [heardPush, found, Option.any_none]
  | put owner checkout =>
      right
      cases issued : world.issued[checkout]? with
      | none =>
          apply quiet_of_dangling rfl
          simp only [step, issued]
      | some returned =>
          have done := step_put issued owner
          refine ⟨rfl, by rw [done]; rfl, ?_⟩
          intro handle stack found
          rw [done] at found
          rcases of_stack?_put found with ⟨empty, silent⟩ | ⟨_, earlier⟩
          · exact .inl ⟨empty, congrArg Tracer.leaves silent⟩
          · exact .inr earlier
  | putNothing owner => exact .inr ⟨rfl, rfl, fun _ _ found => .inr found⟩
  | discard position => exact .inr ⟨rfl, rfl, fun _ _ found => .inr found⟩

private theorem silent_put {world : World Sink} {owner : Owner}
    {checkout : Nat} {stack : Stack Sink}
    (found : (world.step (.put owner checkout : Move Owner Sink)).1.stack? checkout = some stack) :
    stack.tracer = .silent := by
  cases issued : world.issued[checkout]? with
  | none =>
      simp only [step, issued, World.stack?, Option.bind_none, reduceCtorEq] at found
  | some returned =>
      simp only [step_put issued, World.stack?, issued, Option.bind_some] at found
      rcases of_stack?_put found with ⟨_, silent⟩ | ⟨apart, _⟩
      · exact silent
      · exact absurd rfl apart

def depthsUnder (world : World Sink) (sink : Sink) : Set Nat :=
  {depth | ∃ handle stack, world.arena.stack? handle = some stack ∧ sink ∈ stack.tracer.leaves ∧
    stack.depth = depth}

private theorem of_mem_depthsUnder_update {world : World Sink} {sink : Sink} {handle : Handle}
    {old new : Stack Sink} (tracer : new.tracer = old.tracer) {depth : Nat}
    (member : depth ∈ depthsUnder { world with arena := world.arena.update handle new } sink) :
    (sink ∈ old.tracer.leaves ∧ depth = new.depth) ∨ depth ∈ world.depthsUnder sink := by
  obtain ⟨other, stack, found, reports, reached⟩ := member
  rcases of_stack?_update found with ⟨_, same⟩ | ⟨_, earlier⟩
  · subst stack
    exact .inl ⟨tracer ▸ reports, reached.symm⟩
  · exact .inr ⟨other, stack, earlier, reports, reached⟩

/-! ## What a meter knows -/

/-- A meter shows the pushes so far and the greatest of some depths, among them those of the stacks
that report to it now. No stack reports to it twice. -/
structure Watched [DecidableEq Sink] (world : World Sink) (sink : Sink) (meter : PushMeter)
    (count peak : Nat) (depths : Set Nat) : Prop where
  shows : meter.Shows count peak
  once : ∀ handle stack, world.arena.stack? handle = some stack →
    stack.tracer.leaves.count sink ≤ 1
  current : world.depthsUnder sink ⊆ depths
  deepest : IsGreatest (insert 0 depths) peak

private theorem isGreatest_union {seen new : Set Nat} {peak higher : Nat}
    (deepest : IsGreatest (insert 0 seen) peak) (grown : peak ≤ higher)
    (attained : higher = peak ∨ higher ∈ new) (bounded : ∀ depth ∈ new, depth ≤ higher) :
    IsGreatest (insert 0 (seen ∪ new)) higher := by
  constructor
  · rcases attained with same | reached
    · subst higher
      exact Set.insert_subset_insert Set.subset_union_left deepest.1
    · exact Set.mem_insert_of_mem 0 (Set.mem_union_right seen reached)
  · rintro depth (zero | earlier | latest)
    · exact zero ▸ Nat.zero_le higher
    · exact Nat.le_trans (deepest.2 (Set.mem_insert_of_mem 0 earlier)) grown
    · exact bounded depth latest

private theorem watched_start [DecidableEq Sink] (sink : Sink) :
    (start : World Sink).Watched sink .new 0 0 (start.depthsUnder sink) where
  shows := PushMeter.shows_new
  once _ _ found := nomatch found
  current := Set.Subset.rfl
  deepest := by
    refine ⟨Set.mem_insert 0 _, ?_⟩
    rintro depth (zero | ⟨_, _, found, _⟩)
    · exact zero ▸ Nat.le_refl 0
    · cases found

variable [DecidableEq Sink] {world : World Sink} {sink : Sink} {meter : PushMeter}
  {count peak : Nat} {depths : Set Nat}

private theorem Watched.le_peak (watched : world.Watched sink meter count peak depths) {depth : Nat}
    (current : depth ∈ world.depthsUnder sink) : depth ≤ peak :=
  watched.deepest.2 (Set.mem_insert_of_mem 0 (watched.current current))

private theorem Watched.quiet (watched : world.Watched sink meter count peak depths)
    {move : Move Owner Sink} (quiet : world.Quiet sink move)
    (installed : move.installs.count sink ≤ 1) :
    (world.step move).1.Watched sink meter count peak
      (depths ∪ (world.step move).1.depthsUnder sink) where
  shows := watched.shows
  once handle stack found := by
    rcases quiet.changed handle stack found with ⟨_, fresh⟩ | earlier
    · exact fresh ▸ installed
    · exact watched.once handle stack earlier
  current := Set.subset_union_right
  deepest := by
    refine isGreatest_union watched.deepest (Nat.le_refl peak) (.inl rfl) ?_
    rintro _ ⟨handle, stack, found, reports, rfl⟩
    rcases quiet.changed handle stack found with ⟨empty, _⟩ | earlier
    · rw [← Stack.length_items, empty]
      exact Nat.zero_le peak
    · exact watched.le_peak ⟨handle, stack, earlier, reports, rfl⟩

theorem Watched.perform (watched : world.Watched sink meter count peak depths) {handle : Handle}
    {stack : Stack Sink} (found : world.arena.stack? handle = some stack) (op : Stack.Op) :
    let after := { world with arena := world.arena.update handle (stack.apply op).stack }
    ∃ higher, after.Watched sink (meter.hear sink (stack.apply op).calls)
      (count + (stack.hears sink op).toNat) higher (depths ∪ after.depthsUnder sink) := by
  intro after
  have tracer := (Stack.apply_realizes stack op).tracer
  have listed := watched.once handle stack found
  have once : ∀ other kept, after.arena.stack? other = some kept →
      kept.tracer.leaves.count sink ≤ 1 := by
    intro other kept present
    rcases of_stack?_update present with ⟨_, same⟩ | ⟨_, earlier⟩
    · rw [same, tracer]
      exact listed
    · exact watched.once other kept earlier
  rcases Stack.hear_apply listed op meter with
    ⟨heard, reports, bounded, received⟩ | ⟨unheard, same, lower⟩
  · -- A push that the sink hears of: its stack is at the new depth, which may be the greatest.
    have reached : (stack.apply op).stack.depth ∈ after.depthsUnder sink :=
      ⟨handle, _, stack?_update_self found _, tracer.symm ▸ reports, rfl⟩
    refine ⟨max peak (stack.apply op).stack.depth, ?_, once, Set.subset_union_right, ?_⟩
    · rw [heard, received]
      exact watched.shows.receive (Nat.lt_of_le_of_lt bounded (by decide))
    · refine isGreatest_union watched.deepest (Nat.le_max_left ..) ?_ ?_
      · rcases Nat.le_total peak (stack.apply op).stack.depth with deeper | shallower
        · right
          rw [Nat.max_eq_right deeper]
          exact reached
        · exact .inl (Nat.max_eq_left shallower)
      · intro depth member
        rcases of_mem_depthsUnder_update tracer member with ⟨_, latest⟩ | earlier
        · exact latest ▸ Nat.le_max_right ..
        · exact Nat.le_trans (watched.le_peak earlier) (Nat.le_max_left ..)
  · -- No call: a stack that reports to the sink is no deeper than before.
    refine ⟨peak, ?_, once, Set.subset_union_right, ?_⟩
    · rw [unheard, same]
      exact watched.shows
    · refine isGreatest_union watched.deepest (Nat.le_refl peak) (.inl rfl) ?_
      intro depth member
      rcases of_mem_depthsUnder_update tracer member with ⟨reports, latest⟩ | earlier
      · have before := watched.le_peak ⟨handle, stack, found, reports, rfl⟩
        exact latest ▸ Nat.le_trans (lower reports) before
      · exact watched.le_peak earlier

theorem Watched.step (watched : world.Watched sink meter count peak depths)
    {move : Move Owner Sink} (installed : move.installs.count sink ≤ 1) :
    ∃ higher, (world.step move).1.Watched sink (meter.hear sink (world.step move).2.calls)
      (count + (world.heardPush sink move).toNat) higher
      (depths ∪ (world.step move).1.depthsUnder sink) := by
  rcases world.step_cases sink move with
    ⟨owner, checkout, op, handle, stack, performed, issued, found⟩ | quiet
  · subst move
    have heard : world.heardPush sink (.perform owner checkout op : Move Owner Sink) =
        stack.hears sink op := by
      simp only [heardPush, stack?, issued, Option.bind_some, found, Option.any_some]
    rw [step_perform issued found, heard]
    exact watched.perform found op
  · rw [quiet.calls, quiet.unheard]
    exact ⟨peak, watched.quiet quiet installed⟩

end World

/-! ## Whole runs -/

def callsOf (moves : List (Move Owner Sink)) : List (TraceCall Sink) :=
  (World.start.run moves).2.flatMap Sight.calls

/-- The depths that stacks had at any time of a run while they reported to a sink. -/
def depthsUnder (sink : Sink) (moves : List (Move Owner Sink)) : Set Nat :=
  {depth | ∃ front, front <+: moves ∧ depth ∈ (World.start.run front).1.depthsUnder sink}

private theorem depthsUnder_nil (sink : Sink) :
    depthsUnder sink ([] : List (Move Owner Sink)) = World.start.depthsUnder sink := by
  ext depth
  constructor
  · rintro ⟨front, initial, member⟩
    obtain rfl := List.prefix_nil.mp initial
    exact member
  · intro member
    exact ⟨[], List.prefix_refl [], member⟩

private theorem depthsUnder_concat (sink : Sink) (moves : List (Move Owner Sink))
    (move : Move Owner Sink) :
    depthsUnder sink (moves ++ [move]) =
      depthsUnder sink moves ∪ ((World.start.run moves).1.step move).1.depthsUnder sink := by
  ext depth
  constructor
  · rintro ⟨front, initial, member⟩
    rcases List.prefix_concat_iff.mp initial with whole | shorter
    · subst front
      rw [World.run_concat] at member
      exact .inr member
    · exact .inl ⟨front, shorter, member⟩
  · rintro (⟨front, initial, member⟩ | latest)
    · exact ⟨front, initial.trans (List.prefix_append moves [move]), member⟩
    · refine ⟨moves ++ [move], List.prefix_refl _, ?_⟩
      rw [World.run_concat]
      exact latest

theorem watched_run [DecidableEq Sink] (sink : Sink) (moves : List (Move Owner Sink))
    (once : ∀ move ∈ moves, move.installs.count sink ≤ 1) :
    ∃ peak, (World.start.run moves).1.Watched sink (PushMeter.new.hear sink (callsOf moves))
      (countOf (World.heardPush sink) moves) peak (depthsUnder sink moves) := by
  induction moves using List.reverseRecOn with
  | nil =>
      rw [depthsUnder_nil]
      exact ⟨0, World.watched_start sink⟩
  | append_singleton moves move ih =>
      obtain ⟨earlier, latest⟩ := List.forall_mem_append.mp once
      obtain ⟨peak, watched⟩ := ih earlier
      have calls : callsOf (moves ++ [move]) =
          callsOf moves ++ ((World.start.run moves).1.step move).2.calls := by
        simp only [callsOf, World.run_concat, List.flatMap_append, List.flatMap_singleton]
      rw [calls, PushMeter.hear_append, countOf_concat, depthsUnder_concat, World.run_concat]
      exact watched.step (latest move (List.mem_singleton_self move))

/-- A meter that is installed at most once on each stack, and hears fewer than 2^63 pushes, counts
the successful pushes on stacks while it is installed on them, and shows the greatest depth that any
of them had while it was installed, or zero. Owners and the pool may do anything in between; a
return takes the meter off the stack. -/
theorem meter_counts_and_peaks (session : Session) (id : SinkId) (moves : List (Move Owner SinkId))
    (fresh : session.sinks[id]? = some (.meter .new))
    (once : ∀ move ∈ moves, move.installs.count id ≤ 1)
    (few : countOf (World.heardPush id) moves < 2 ^ 63) :
    let meter := PushMeter.new.hear id (callsOf moves)
    (session.deliver (callsOf moves)).sinks[id]? = some (.meter meter) ∧
      meter.pushes.value.toInt = countOf (World.heardPush id) moves ∧
      (∃ peak : Nat, meter.peakDepth.value.toInt = peak ∧
        IsGreatest (insert 0 (depthsUnder id moves)) peak) ∧
      ∀ (owner : Owner) (checkout : Nat) (stack : Stack SinkId),
        ((World.start.run moves).1.step (.put owner checkout)).1.stack? checkout = some stack →
        id ∉ stack.tracer.leaves := by
  intro meter
  obtain ⟨peak, watched⟩ := watched_run id moves once
  refine ⟨Session.sink_deliver fresh (callsOf moves), ?_,
    ⟨peak, watched.shows.toInt_peakDepth, watched.deepest⟩, ?_⟩
  · rw [watched.shows.pushes, Int64.toInt_ofNat_of_lt few]
  · intro owner checkout stack found member
    rw [World.silent_put found] at member
    cases member

/-- A stack with a meter among its sinks is given back, and comes to an owner who uses none. -/
def shared : List (Move Unit SinkId) :=
  [.get () [some (.fanOut [.single 0, .single 1])] .allocate, .perform () 0 (.pushSize 5),
    .perform () 0 (.pushSize 6), .perform () 0 .pop, .make () [some (.single 1)],
    .perform () 1 (.pushSize 7), .put () 0, .get () [] (.reuse 0), .perform () 2 (.pushSize 1),
    .perform () 2 (.pushSize 2), .perform () 2 (.pushSize 3)]

theorem shared_meter_counts_and_peaks :
    (∀ move ∈ shared, move.installs.count 1 ≤ 1) ∧ countOf (World.heardPush 1) shared = 3 ∧
      IsGreatest (insert 0 (depthsUnder 1 shared)) 2 := by
  have once : ∀ move ∈ shared, move.installs.count 1 ≤ 1 := by decide +kernel
  have count : countOf (World.heardPush 1) shared = 3 := by decide +kernel
  have few : countOf (World.heardPush 1) shared < 2 ^ 63 := by
    rw [count]
    decide
  let session : Session := ⟨.empty, #[.recorder [], .meter .new], [], []⟩
  obtain ⟨_, _, ⟨peak, shown, deepest⟩, _⟩ := meter_counts_and_peaks session 1 shared rfl once few
  have value : (PushMeter.new.hear 1 (callsOf shared)).peakDepth.value.toInt = 2 := by
    decide +kernel
  obtain rfl : 2 = peak := Int.ofNat.inj (value.symm.trans shown)
  exact ⟨once, count, deepest⟩

end Arena

end OperandStack
