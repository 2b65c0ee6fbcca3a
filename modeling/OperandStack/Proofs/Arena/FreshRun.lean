import OperandStack.Proofs.Arena.Custody

/-!
# Runs with and without the pool

Every request to the pool can be replaced by making a stack. Disciplined owners do not see the
difference: both runs show them the same, and their stacks stay alike. The invariant is `Mirrors`,
which ties the stacks of every checkout in the two runs.
-/

set_option autoImplicit false

namespace OperandStack.Arena

variable {Owner Sink : Type}

def Move.unpooled : Move Owner Sink → Move Owner Sink
  | .get owner settings _ => .make owner settings
  | other => other

private theorem Register.after_unpooled (register : Register Owner) (move : Move Owner Sink) :
    register.after move.unpooled = register.after move := by
  cases move <;> rfl

private theorem Register.Allows.unpooled {register : Register Owner} {move : Move Owner Sink}
    (allowed : register.Allows move) : register.Allows move.unpooled := by
  cases move <;> exact allowed

namespace World

variable {world pooled fresh : World Sink} {register : Register Owner}

/-! ## The stack of a checkout -/

private theorem Holds.stack?_eq {checkout : Nat} {handle : Handle}
    (holds : world.Holds register checkout handle) :
    world.stack? checkout = world.arena.stack? handle := by
  rw [stack?, holds.2, Option.bind_some]

private theorem stack?_issue_latest (sound : world.Sound register) (handed : Handle × Arena Sink) :
    (world.issue handed).stack? register.count = handed.2.stack? handed.1 := by
  rw [stack?, issue, ← sound.counted, List.getElem?_concat_length, Option.bind_some]

private theorem Sound.stack?_issue (sound : world.Sound register) {handed : Handle × Arena Sink}
    (withdrawal : Withdrawal world.arena handed.1 handed.2) {checkout : Nat}
    (held : (register.holder checkout).isSome) :
    (world.issue handed).stack? checkout = world.stack? checkout := by
  obtain ⟨handle, holds⟩ := sound.exists_handle held
  have inside : checkout < world.issued.length := (List.getElem?_eq_some_iff.mp holds.2).1
  rw [holds.stack?_eq, stack?, World.issue, List.getElem?_append_left inside, holds.2,
    Option.bind_some]
  exact withdrawal.others handle (sound.ne_withdrawn holds withdrawal)

private theorem Sound.stack?_frame (sound : world.Sound register)
    {checkout other : Nat} {handle : Handle}
    (holds : world.Holds register checkout handle) (held : (register.holder other).isSome)
    (different : other ≠ checkout) {after : Arena Sink}
    (rest : ∀ kept, kept ≠ handle → after.stack? kept = world.arena.stack? kept) :
    stack? { world with arena := after } other = world.stack? other := by
  obtain ⟨kept, otherHolds⟩ := sound.exists_handle held
  have apart : kept ≠ handle := by
    rintro rfl
    exact different (sound.apart other checkout kept otherHolds holds)
  rw [otherHolds.stack?_eq, stack?, otherHolds.2, Option.bind_some]
  exact rest kept apart

/-! ## Two runs side by side -/

/-- A checkout has a stack in both worlds, and the two are alike. -/
def AlikeAt (pooled fresh : World Sink) (checkout : Nat) : Prop :=
  ∃ left right, pooled.stack? checkout = some left ∧ fresh.stack? checkout = some right ∧
    left.Alike right

/-- Both worlds are sound, and their stacks are alike for every checkout that is not over. -/
structure Mirrors (register : Register Owner) (pooled fresh : World Sink) : Prop where
  pooledSound : pooled.Sound register
  freshSound : fresh.Sound register
  alike : ∀ checkout, (register.holder checkout).isSome → AlikeAt pooled fresh checkout

private theorem mirrors_start :
    Mirrors (Register.start : Register Owner) (start : World Sink) start where
  pooledSound := sound_start
  freshSound := sound_start
  alike _ held := nomatch held

private theorem Mirrors.alike_issue (mirrors : Mirrors register pooled fresh)
    {settings : List (Stack.Setting Sink)} {left right : Handle × Arena Sink}
    (leftHandout : Handout pooled.arena settings left.1 left.2)
    (rightHandout : Handout fresh.arena settings right.1 right.2) {owner : Owner} {checkout : Nat}
    (held : ((register.issue owner).holder checkout).isSome) :
    AlikeAt (pooled.issue left) (fresh.issue right) checkout := by
  by_cases latest : checkout = register.count
  · subst checkout
    obtain ⟨leftStack, leftFound, leftNew⟩ := leftHandout.fresh
    obtain ⟨rightStack, rightFound, rightNew⟩ := rightHandout.fresh
    refine ⟨leftStack, rightStack, ?_, ?_, leftNew.trans rightNew.symm⟩
    · rw [stack?_issue_latest mirrors.pooledSound, leftFound]
    · rw [stack?_issue_latest mirrors.freshSound, rightFound]
  · rw [Register.holder_issue_of_ne latest] at held
    unfold AlikeAt
    rw [mirrors.pooledSound.stack?_issue leftHandout.toWithdrawal held,
      mirrors.freshSound.stack?_issue rightHandout.toWithdrawal held]
    exact mirrors.alike checkout held

private theorem Mirrors.alike_frame (mirrors : Mirrors register pooled fresh) {checkout other : Nat}
    {left right : Handle} (leftHolds : pooled.Holds register checkout left)
    (rightHolds : fresh.Holds register checkout right) (held : (register.holder other).isSome)
    (different : other ≠ checkout) {pooledAfter freshAfter : Arena Sink}
    (pooledRest : ∀ kept, kept ≠ left → pooledAfter.stack? kept = pooled.arena.stack? kept)
    (freshRest : ∀ kept, kept ≠ right → freshAfter.stack? kept = fresh.arena.stack? kept) :
    AlikeAt { pooled with arena := pooledAfter } { fresh with arena := freshAfter } other := by
  unfold AlikeAt
  rw [mirrors.pooledSound.stack?_frame leftHolds held different pooledRest,
    mirrors.freshSound.stack?_frame rightHolds held different freshRest]
  exact mirrors.alike other held

private theorem Mirrors.exists_stacks (mirrors : Mirrors register pooled fresh) {checkout : Nat}
    (held : (register.holder checkout).isSome) :
    ∃ left right leftStack rightStack, pooled.Holds register checkout left ∧
      fresh.Holds register checkout right ∧ pooled.arena.stack? left = some leftStack ∧
      fresh.arena.stack? right = some rightStack ∧ leftStack.Alike rightStack := by
  obtain ⟨left, leftHolds⟩ := mirrors.pooledSound.exists_handle held
  obtain ⟨right, rightHolds⟩ := mirrors.freshSound.exists_handle held
  obtain ⟨leftStack, rightStack, leftFound, rightFound, alike⟩ := mirrors.alike checkout held
  rw [leftHolds.stack?_eq] at leftFound
  rw [rightHolds.stack?_eq] at rightFound
  exact ⟨left, right, leftStack, rightStack, leftHolds, rightHolds, leftFound, rightFound, alike⟩

theorem Mirrors.perform (mirrors : Mirrors register pooled fresh) {checkout : Nat}
    (held : (register.holder checkout).isSome) (owner : Owner) (op : Stack.Op) :
    (pooled.step (.perform owner checkout op)).2 = (fresh.step (.perform owner checkout op)).2 ∧
      (pooled.step (.perform owner checkout op)).2 ≠ .dangling ∧
      ∀ other, (register.holder other).isSome →
        AlikeAt (pooled.step (.perform owner checkout op)).1
          (fresh.step (.perform owner checkout op)).1 other := by
  obtain ⟨left, right, leftStack, rightStack, leftHolds, rightHolds, leftFound, rightFound,
    alike⟩ := mirrors.exists_stacks held
  obtain ⟨result, calls, alikeAfter⟩ := alike.apply op
  rw [step_perform leftHolds.2 leftFound, step_perform rightHolds.2 rightFound, result, calls]
  refine ⟨rfl, nofun, ?_⟩
  intro other otherHeld
  by_cases same : other = checkout
  · subst other
    refine ⟨_, _, ?_, ?_, alikeAfter⟩
    · rw [stack?, leftHolds.2]
      exact stack?_update_self leftFound _
    · rw [stack?, rightHolds.2]
      exact stack?_update_self rightFound _
  · exact mirrors.alike_frame leftHolds rightHolds otherHeld same
      (fun _ apart => stack?_update_of_ne pooled.arena apart _)
      (fun _ apart => stack?_update_of_ne fresh.arena apart _)

theorem Mirrors.put (mirrors : Mirrors register pooled fresh) {checkout : Nat}
    (held : (register.holder checkout).isSome) (owner : Owner) :
    (pooled.step (.put owner checkout)).2 = (fresh.step (.put owner checkout)).2 ∧
      (pooled.step (.put owner checkout)).2 ≠ .dangling ∧
      ∀ other, ((register.withdraw checkout).holder other).isSome →
        AlikeAt (pooled.step (.put owner checkout)).1 (fresh.step (.put owner checkout)).1
          other := by
  obtain ⟨left, right, leftStack, rightStack, leftHolds, rightHolds, leftFound, rightFound, -⟩ :=
    mirrors.exists_stacks held
  rw [step_put leftHolds.2, step_put rightHolds.2]
  refine ⟨rfl, nofun, ?_⟩
  intro other otherHeld
  obtain ⟨different, earlier⟩ := Register.isSome_holder_of_withdraw otherHeld
  apply mirrors.alike_frame leftHolds rightHolds earlier different
  · intro kept apart
    rw [stack?_put leftFound, stack?_update_of_ne _ apart]
  · intro kept apart
    rw [stack?_put rightFound, stack?_update_of_ne _ apart]

theorem Mirrors.step (mirrors : Mirrors register pooled fresh) {move : Move Owner Sink}
    (allowed : register.Allows move) :
    (pooled.step move).2 = (fresh.step move.unpooled).2 ∧ (pooled.step move).2 ≠ .dangling ∧
      Mirrors (register.after move) (pooled.step move).1 (fresh.step move.unpooled).1 := by
  have pooledAfter := mirrors.pooledSound.step allowed
  have freshAfter := mirrors.freshSound.step allowed.unpooled
  rw [Register.after_unpooled] at freshAfter
  cases move with
  | get owner settings choice =>
      refine ⟨rfl, nofun, pooledAfter, freshAfter, ?_⟩
      intro checkout held
      exact mirrors.alike_issue (get_handout mirrors.pooledSound.pool choice settings)
        (make_handout mirrors.freshSound.pool settings) held
  | make owner settings =>
      refine ⟨rfl, nofun, pooledAfter, freshAfter, ?_⟩
      intro checkout held
      exact mirrors.alike_issue (make_handout mirrors.pooledSound.pool settings)
        (make_handout mirrors.freshSound.pool settings) held
  | perform owner checkout op =>
      obtain ⟨sights, answered, alike⟩ :=
        mirrors.perform (Option.isSome_of_eq_some allowed) owner op
      exact ⟨sights, answered, pooledAfter, freshAfter, alike⟩
  | put owner checkout =>
      obtain ⟨sights, answered, alike⟩ := mirrors.put (Option.isSome_of_eq_some allowed) owner
      exact ⟨sights, answered, pooledAfter, freshAfter, alike⟩
  | putNothing owner => exact ⟨rfl, nofun, pooledAfter, freshAfter, mirrors.alike⟩
  | discard position => exact ⟨rfl, nofun, pooledAfter, freshAfter, mirrors.alike⟩

theorem Mirrors.run {moves : List (Move Owner Sink)} (mirrors : Mirrors register pooled fresh)
    (disciplined : register.Disciplined moves) :
    (pooled.run moves).2 = (fresh.run (moves.map Move.unpooled)).2 ∧
      Sight.dangling ∉ (pooled.run moves).2 ∧
      Mirrors (register.afterAll moves) (pooled.run moves).1
        (fresh.run (moves.map Move.unpooled)).1 := by
  induction moves generalizing register pooled fresh with
  | nil => exact ⟨rfl, List.not_mem_nil, mirrors⟩
  | cons move rest ih =>
      obtain ⟨allowed, later⟩ := disciplined
      obtain ⟨firstSight, firstDone, afterFirst⟩ := mirrors.step allowed
      obtain ⟨restSights, restDone, afterRest⟩ := ih afterFirst later
      refine ⟨?_, ?_, afterRest⟩
      · simp only [World.run, List.map_cons, firstSight, restSights]
      · simp only [World.run, List.mem_cons, not_or]
        exact ⟨firstDone.symm, restDone⟩

end World

/-! ## Whole runs -/

def pooledRun (moves : List (Move Owner Sink)) : World Sink × List (Sight Sink) :=
  World.start.run moves

def freshRun (moves : List (Move Owner Sink)) : World Sink × List (Sight Sink) :=
  World.start.run (moves.map Move.unpooled)

/-- Disciplined owners cannot tell a pool from making every stack anew. Both runs show them the
same, and no move misses its stack. At the end, and so at every moment, no stack is held twice or
held and idle, the held stacks are alike, and none has outgrown its cells. -/
theorem pooled_run_eq_fresh_run (moves : List (Move Owner Sink))
    (disciplined : Register.start.Disciplined moves) :
    (pooledRun moves).2 = (freshRun moves).2 ∧ Sight.dangling ∉ (pooledRun moves).2 ∧
      (∀ first second handle,
        (pooledRun moves).1.Holds (Register.start.afterAll moves) first handle →
        (pooledRun moves).1.Holds (Register.start.afterAll moves) second handle →
        first = second ∧ handle ∉ (pooledRun moves).1.arena.pool.idle) ∧
      (∀ checkout, ((Register.start.afterAll moves).holder checkout).isSome →
        (pooledRun moves).1.AlikeAt (freshRun moves).1 checkout) ∧
      ∀ handle stack, (pooledRun moves).1.arena.stack? handle = some stack →
        stack.buffer.cells.size = stackLimit := by
  obtain ⟨sights, noneDangling, mirrors⟩ := World.mirrors_start.run disciplined
  have sound := mirrors.pooledSound
  refine ⟨sights, noneDangling, ?_, mirrors.alike, sound.room⟩
  intro first second handle firstHolds secondHolds
  exact ⟨sound.apart first second handle firstHolds secondHolds,
    sound.busy first handle firstHolds⟩

/-- One owner gives back a traced stack with a word in it, and the pool passes it on. -/
def relay : List (Move Bool Nat) :=
  [.get false [some (.single 7)] .allocate, .perform false 0 (.pushSize 5), .make true [],
    .perform true 1 (.pushSize 6), .put false 0, .get true [] (.reuse 0), .perform true 2 .items,
    .perform true 2 (.pushSize 9)]

theorem relay_eq_fresh_run :
    Register.start.Disciplined relay ∧ (pooledRun relay).1.issued = [0, 1, 0] ∧
      (pooledRun relay).2 = (freshRun relay).2 := by
  have disciplined : Register.start.Disciplined relay :=
    ⟨trivial, rfl, trivial, rfl, rfl, trivial, rfl, rfl, trivial⟩
  exact ⟨disciplined, by decide +kernel, (pooled_run_eq_fresh_run relay disciplined).1⟩

end OperandStack.Arena
