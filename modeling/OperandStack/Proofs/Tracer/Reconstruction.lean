import OperandStack.Proofs.Stack.Refusal

/-!
# Reading the words off the trace

Pops and resets leave no record, and yet the records of pushes determine the words of the stack as
long as no swap moves them: the word at a place is the one that the latest record with its depth
names. Whatever was above it has been pushed with greater depths, and a word that went away from its
place is replaced only by a push with the same depth.
-/

set_option autoImplicit false

namespace OperandStack

variable {Sink : Type}

private theorem Tracer.mem_notify {tracer : Tracer Sink} {word : Word} {depth : Nat}
    {call : TraceCall Sink} :
    call ∈ tracer.notify word depth ↔
      call.sink ∈ tracer.leaves ∧ call.word = word ∧ call.depth = depth := by
  rw [notify_eq_map_leaves, List.mem_map]
  constructor
  · intro told
    obtain ⟨leaf, listed, rfl⟩ := told
    exact ⟨listed, rfl, rfl⟩
  · intro fields
    obtain ⟨listed, rfl, rfl⟩ := fields
    exact ⟨call.sink, listed, rfl⟩

/-! ## The latest call with a depth -/

variable [DecidableEq Sink]

def callsAt (sink : Sink) (depth : Nat) (calls : List (TraceCall Sink)) : List (TraceCall Sink) :=
  calls.filter fun call => call.sink = sink ∧ call.depth = depth

def latestAt? (sink : Sink) (depth : Nat) (calls : List (TraceCall Sink)) : Option Word :=
  (callsAt sink depth calls).getLast?.map (·.word)

variable {sink : Sink} {depth : Nat}

private theorem mem_callsAt {calls : List (TraceCall Sink)} {call : TraceCall Sink} :
    call ∈ callsAt sink depth calls ↔ call ∈ calls ∧ call.sink = sink ∧ call.depth = depth := by
  rw [callsAt, List.mem_filter, decide_eq_true_eq]

theorem latestAt?_append (calls more : List (TraceCall Sink)) :
    latestAt? sink depth (calls ++ more) =
      (latestAt? sink depth more).or (latestAt? sink depth calls) := by
  unfold latestAt? callsAt
  rw [List.filter_append, List.getLast?_append, Option.map_or]

private theorem latestAt?_notify {tracer : Tracer Sink} (heard : sink ∈ tracer.leaves)
    (word : Word) :
    latestAt? sink depth (tracer.notify word depth) = some word := by
  have called : ⟨sink, word, depth⟩ ∈ callsAt sink depth (tracer.notify word depth) :=
    mem_callsAt.mpr ⟨Tracer.mem_notify.mpr ⟨heard, rfl, rfl⟩, rfl, rfl⟩
  cases latest : (callsAt sink depth (tracer.notify word depth)).getLast? with
  | none =>
      rw [List.getLast?_eq_none_iff.mp latest] at called
      cases called
  | some call =>
      -- A sink that the tracer names several times is told of the same word each time.
      obtain ⟨member, _⟩ := mem_callsAt.mp (List.mem_of_getLast? latest)
      obtain ⟨_, same, _⟩ := Tracer.mem_notify.mp member
      rw [latestAt?, latest, Option.map_some, same]

private theorem latestAt?_notify_of_ne {other : Nat} (different : other ≠ depth)
    (tracer : Tracer Sink)
    (word : Word) : latestAt? sink depth (tracer.notify word other) = none := by
  have silent : callsAt sink depth (tracer.notify word other) = [] := by
    rw [List.eq_nil_iff_forall_not_mem]
    intro call called
    obtain ⟨member, _, reached⟩ := mem_callsAt.mp called
    obtain ⟨_, _, told⟩ := Tracer.mem_notify.mp member
    exact different (told.symm.trans reached)
  rw [latestAt?, silent]
  rfl

/-! ## Words and records -/

/-- Every word is the one of the latest call with the depth that its push brought about. -/
def Recorded (sink : Sink) (items : List Word) (calls : List (TraceCall Sink)) : Prop :=
  ∀ position word, items[position]? = some word →
    latestAt? sink (position + 1) calls = some word

variable {items : List Word} {calls : List (TraceCall Sink)}

theorem Recorded.front (recorded : Recorded sink items calls) {shorter : List Word}
    (initial : shorter <+: items) : Recorded sink shorter calls := by
  intro position word found
  obtain ⟨dropped, whole⟩ := initial
  obtain ⟨inside, _⟩ := List.getElem?_eq_some_iff.mp found
  apply recorded position word
  rw [← whole, List.getElem?_append_left inside]
  exact found

theorem Recorded.push (recorded : Recorded sink items calls) {tracer : Tracer Sink}
    (heard : sink ∈ tracer.leaves) (word : Word) :
    Recorded sink (items ++ [word]) (calls ++ tracer.notify word (items.length + 1)) := by
  intro position other found
  rw [latestAt?_append]
  by_cases latest : position = items.length
  · subst position
    rw [List.getElem?_concat_length] at found
    rw [latestAt?_notify heard, Option.some_or, found]
  · have below : position < items.length := by
      obtain ⟨inside, _⟩ := List.getElem?_eq_some_iff.mp found
      rw [List.length_append, List.length_singleton] at inside
      omega
    rw [List.getElem?_append_left below] at found
    rw [latestAt?_notify_of_ne (by omega), Option.none_or]
    exact recorded position other found

namespace Stack

/-- Without swaps to a distance, what pushes nothing leaves an initial part of the words. -/
private theorem front_of_no_push {op : Op} (noPush : op.pushed? = none)
    (inPlace : ∀ distance, op = .swap distance → distance = 0) (items : List Word) :
    (op.meaning items).items <+: items := by
  cases op with
  | push | pushUInt256 | pushAddress | pushClientAddress | pushSize => cases noPush
  | pushInt value =>
      cases read : Word.ofOptionalInt value with
      | error error =>
          simp only [Op.meaning, read, Meaning.refused]
          exact List.prefix_refl items
      | ok word =>
          rw [Op.pushed?, read] at noPush
          cases noPush
  | pop | popUInt256 =>
      simp only [Op.meaning, Meaning.pop]
      cases items.getLast? with
      | none => exact List.prefix_refl items
      | some word => exact List.dropLast_prefix items
  | swap distance =>
      obtain rfl := inPlace distance rfl
      simp only [Op.meaning, Meaning.swap]
      split
      · rw [Int.toNat_zero, exchangeLast_zero]
        exact List.prefix_refl items
      · exact List.prefix_refl items
  | peek | items | snapshot | digest | depth | capacity => exact List.prefix_refl items
  | reset => exact List.nil_prefix

theorem recorded_apply {stack : Stack Sink} (recorded : Recorded sink stack.items calls)
    (heard : sink ∈ stack.tracer.leaves) {op : Op}
    (inPlace : ∀ distance, op = .swap distance → distance = 0) :
    Recorded sink (stack.apply op).stack.items (calls ++ (stack.apply op).calls) := by
  have realized := apply_realizes stack op
  rw [realized.items, realized.calls]
  cases pushes : op.pushed? with
  | none =>
      obtain ⟨_, unreported⟩ := meaning_of_no_push pushes stack.items
      rw [unreported, Option.map_none, Option.getD_none, List.append_nil]
      exact recorded.front (front_of_no_push pushes inPlace stack.items)
  | some word =>
      rw [meaning_eq_push pushes, Meaning.push]
      by_cases room : stack.items.length < stackLimit
      · rw [if_pos room]
        simp only [Option.map_some, Option.getD_some, List.length_append, List.length_singleton]
        exact recorded.push heard word
      · rw [if_neg room]
        simpa only [Meaning.refused, Option.map_none, Option.getD_none, List.append_nil]
          using recorded

theorem recorded_run {stack : Stack Sink} (recorded : Recorded sink stack.items calls)
    (heard : sink ∈ stack.tracer.leaves) {history : List Op}
    (inPlace : ∀ distance, .swap distance ∈ history → distance = 0) :
    Recorded sink (run stack history).stack.items (calls ++ (run stack history).calls) := by
  induction history generalizing stack calls with
  | nil => simpa only [run, List.append_nil] using recorded
  | cons op rest ih =>
      have first := recorded_apply recorded heard
        fun distance same => inPlace distance (same ▸ .head rest)
      have heardStill : sink ∈ (stack.apply op).stack.tracer.leaves := by
        rw [(apply_realizes stack op).tracer]
        exact heard
      have later := ih first heardStill fun distance member => inPlace distance (.tail op member)
      simpa only [run, List.append_assoc] using later

/-- On a new stack that reports to a recorder, alone or among other sinks, any operations lead to a
state that can be read off the records, unless they swap words over a distance: the word at each
depth down to the bottom is the one of the latest record with that depth. Operations that are
refused change neither. -/
theorem trace_reconstructs_words (settings : List (Setting Sink)) (recorder : Sink)
    (heard : recorder ∈ (new settings).tracer.leaves) (history : List Op)
    (inPlace : ∀ distance, .swap distance ∈ history → distance = 0) :
    let state := run (new settings) history
    ∀ depth : Nat, 1 ≤ depth → depth ≤ state.stack.depth →
      ∃ word, state.stack.peek (depth - 1) = some word ∧
        latestAt? recorder depth state.calls = some word := by
  intro state depth positive reached
  have nothing : Recorded recorder (new settings).items [] := by
    intro position word found
    rw [items_new] at found
    cases found
  have recorded : Recorded recorder state.stack.items state.calls :=
    recorded_run nothing heard inPlace
  have inside : depth - 1 < state.stack.items.length := by
    rw [length_items]
    omega
  have found := List.getElem?_eq_getElem inside
  have latest := recorded (depth - 1) _ found
  rw [Nat.sub_add_cancel positive] at latest
  have position : ((depth : Int) - 1).toNat = depth - 1 := by omega
  refine ⟨_, ?_, latest⟩
  rw [peek_eq_getElem?, if_neg (by omega), position, found]

def twoClimbs : List Op :=
  [.pushSize 5, .pushSize 6, .pop, .pushSize 7, .reset, .pop, .pushSize 8, .swap 0,
    .pushInt (some (-1)), .pushSize 9]

theorem twoClimbs_reconstructed :
    let state := run (new [some (.fanOut [.single 3, .single 7, .single 7])]) twoClimbs
    state.calls.length = 15 ∧ state.stack.items = [.ofUInt64 8, .ofUInt64 9] ∧
      latestAt? 7 1 state.calls = some (.ofUInt64 8) ∧
      latestAt? 7 2 state.calls = some (.ofUInt64 9) := by
  intro state
  have items : state.stack.items = [.ofUInt64 8, .ofUInt64 9] := by decide +kernel
  have reached : 2 ≤ state.stack.depth := by
    rw [← length_items, items]
    exact Nat.le_refl 2
  have inPlace : ∀ distance, .swap distance ∈ twoClimbs → distance = 0 := by
    intro distance member
    simpa [twoClimbs] using member
  have latest := trace_reconstructs_words [some (.fanOut [.single 3, .single 7, .single 7])] 7
    (by decide) twoClimbs inPlace
  obtain ⟨lower, lowerFound, lowerLatest⟩ := latest 1 (by decide) (Nat.le_of_succ_le reached)
  obtain ⟨upper, upperFound, upperLatest⟩ := latest 2 (by decide) reached
  rw [peek_eq_getElem?, items] at lowerFound upperFound
  cases lowerFound
  cases upperFound
  exact ⟨by decide +kernel, items, lowerLatest, upperLatest⟩

end Stack

end OperandStack
