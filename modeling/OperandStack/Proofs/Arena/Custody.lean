import OperandStack.Proofs.Arena.Handout

/-!
# Custody of pooled stacks

Owners obtain stacks from the pool or apart from it, use them and give them back, in any order.
Every time that a stack is handed out is a checkout of its own, and the handle stays known to its
owner after the stack is given back. Only the owners' discipline keeps them apart: a stack is used
between its checkout and its return. Under it no stack is held twice, or held and idle at once,
whatever the pool chooses and drops. -/

set_option autoImplicit false

namespace OperandStack.Arena

variable {Owner Sink : Type}

/-! ## Moves of owners and of the pool -/

/-- What an owner or the pool does next. Checkouts are counted from zero. -/
inductive Move (Owner Sink : Type) where
  | get (owner : Owner) (settings : List (Stack.Setting Sink)) (choice : PoolChoice)
  | make (owner : Owner) (settings : List (Stack.Setting Sink))
  | perform (owner : Owner) (checkout : Nat) (op : Stack.Op)
  | put (owner : Owner) (checkout : Nat)
  | putNothing (owner : Owner)
  | discard (position : Nat)

inductive Sight (Sink : Type) where
  | done
  | answered (result : Except Stack.OpError Stack.Reply) (calls : List (TraceCall Sink))
  | dangling

/-- The arena, and the handle of each checkout so far. -/
structure World (Sink : Type) where
  arena : Arena Sink
  issued : List Handle

namespace World

def start : World Sink :=
  ⟨.empty, []⟩

def stack? (world : World Sink) (checkout : Nat) : Option (Stack Sink) :=
  world.issued[checkout]?.bind world.arena.stack?

def issue (world : World Sink) (handed : Handle × Arena Sink) : World Sink :=
  ⟨handed.2, world.issued ++ [handed.1]⟩

def step (world : World Sink) : Move Owner Sink → World Sink × Sight Sink
  | .get _ settings choice => (world.issue (world.arena.get choice settings), .done)
  | .make _ settings => (world.issue (world.arena.make settings), .done)
  | .perform _ checkout op =>
      match world.issued[checkout]?.bind fun handle => world.arena.perform handle op with
      | none => (world, .dangling)
      | some outcome =>
          ({ world with arena := outcome.arena }, .answered outcome.result outcome.calls)
  | .put _ checkout =>
      match world.issued[checkout]? with
      | none => (world, .dangling)
      | some handle => ({ world with arena := world.arena.put (some handle) }, .done)
  | .putNothing _ => ({ world with arena := world.arena.put none }, .done)
  | .discard position => ({ world with arena := world.arena.discard position }, .done)

def run (world : World Sink) : List (Move Owner Sink) → World Sink × List (Sight Sink)
  | [] => (world, [])
  | move :: rest =>
      let after := world.step move
      let later := after.1.run rest
      (later.1, after.2 :: later.2)

theorem run_concat (world : World Sink) (moves : List (Move Owner Sink)) (move : Move Owner Sink) :
    world.run (moves ++ [move]) =
      (((world.run moves).1.step move).1,
        (world.run moves).2 ++ [((world.run moves).1.step move).2]) := by
  induction moves generalizing world with
  | nil => rfl
  | cons first rest ih => simp only [List.cons_append, run, ih]

/-- How many moves of a run are of a kind, where each is judged in the world that it finds. -/
def tally (kind : World Sink → Move Owner Sink → Bool) (world : World Sink) :
    List (Move Owner Sink) → Nat
  | [] => 0
  | move :: rest => (kind world move).toNat + (world.step move).1.tally kind rest

private theorem tally_concat (kind : World Sink → Move Owner Sink → Bool) (world : World Sink)
    (moves : List (Move Owner Sink)) (move : Move Owner Sink) :
    world.tally kind (moves ++ [move]) =
      world.tally kind moves + (kind (world.run moves).1 move).toNat := by
  induction moves generalizing world with
  | nil => simp only [List.nil_append, tally, run, Nat.zero_add, Nat.add_zero]
  | cons first rest ih => simp only [List.cons_append, tally, run, ih, Nat.add_assoc]

end World

def countOf (kind : World Sink → Move Owner Sink → Bool) (moves : List (Move Owner Sink)) : Nat :=
  World.start.tally kind moves

theorem countOf_concat (kind : World Sink → Move Owner Sink → Bool) (moves : List (Move Owner Sink))
    (move : Move Owner Sink) :
    countOf kind (moves ++ [move]) =
      countOf kind moves + (kind (World.start.run moves).1 move).toNat :=
  World.tally_concat kind .start moves move

/-! ## The discipline of owners -/

structure Register (Owner : Type) where
  count : Nat
  holder : Nat → Option Owner

namespace Register

def start : Register Owner :=
  ⟨0, fun _ => none⟩

def issue (register : Register Owner) (owner : Owner) : Register Owner where
  count := register.count + 1
  holder checkout := if checkout = register.count then some owner else register.holder checkout

def withdraw (register : Register Owner) (returned : Nat) : Register Owner where
  count := register.count
  holder checkout := if checkout = returned then none else register.holder checkout

def after (register : Register Owner) : Move Owner Sink → Register Owner
  | .get owner _ _ | .make owner _ => register.issue owner
  | .put _ checkout => register.withdraw checkout
  | .perform _ _ _ | .putNothing _ | .discard _ => register

def afterAll (register : Register Owner) (moves : List (Move Owner Sink)) : Register Owner :=
  moves.foldl after register

/-- An owner uses and gives back only what it holds. -/
def Allows (register : Register Owner) : Move Owner Sink → Prop
  | .perform owner checkout _ | .put owner checkout => register.holder checkout = some owner
  | .get _ _ _ | .make _ _ | .putNothing _ | .discard _ => True

def Disciplined (register : Register Owner) : List (Move Owner Sink) → Prop
  | [] => True
  | move :: rest => register.Allows move ∧ (register.after move).Disciplined rest

theorem holder_issue_of_ne {register : Register Owner} {checkout : Nat}
    (earlier : checkout ≠ register.count) (owner : Owner) :
    (register.issue owner).holder checkout = register.holder checkout :=
  if_neg earlier

theorem isSome_holder_of_withdraw {register : Register Owner} {returned checkout : Nat}
    (held : ((register.withdraw returned).holder checkout).isSome) :
    checkout ≠ returned ∧ (register.holder checkout).isSome := by
  simp only [withdraw] at held
  split at held
  · cases held
  · exact ⟨‹_›, held⟩

end Register

/-! ## No stack is held twice -/

namespace World

/-- A checkout is not over, and this is its handle. -/
def Holds (world : World Sink) (register : Register Owner) (checkout : Nat) (handle : Handle) :
    Prop :=
  (register.holder checkout).isSome ∧ world.issued[checkout]? = some handle

/-- Held stacks exist, are not idle and are held once; idle stacks exist and are listed once. -/
structure Sound (world : World Sink) (register : Register Owner) : Prop where
  counted : world.issued.length = register.count
  bounded : ∀ checkout, (register.holder checkout).isSome → checkout < register.count
  present : ∀ checkout handle, world.Holds register checkout handle →
    (world.arena.stack? handle).isSome
  busy : ∀ checkout handle, world.Holds register checkout handle →
    handle ∉ world.arena.pool.idle
  apart : ∀ first second handle, world.Holds register first handle →
    world.Holds register second handle → first = second
  pool : world.arena.PoolSound
  room : world.arena.FullRoom

variable {world : World Sink} {register : Register Owner}

theorem sound_start : (start : World Sink).Sound (Register.start : Register Owner) where
  counted := rfl
  bounded _ held := nomatch held
  present _ _ holds := nomatch holds.1
  busy _ _ holds := nomatch holds.1
  apart _ _ _ holds _ := nomatch holds.1
  pool := ⟨fun _ member => (nomatch member), List.nodup_nil⟩
  room _ _ found := nomatch found

theorem Sound.exists_handle (sound : world.Sound register) {checkout : Nat}
    (held : (register.holder checkout).isSome) :
    ∃ handle, world.Holds register checkout handle := by
  have inside : checkout < world.issued.length := by
    rw [sound.counted]
    exact sound.bounded checkout held
  exact ⟨_, held, List.getElem?_eq_getElem inside⟩

theorem Sound.ne_withdrawn (sound : world.Sound register) {checkout : Nat} {held handle : Handle}
    (holds : world.Holds register checkout held) {after : Arena Sink}
    (withdrawal : Withdrawal world.arena handle after) : held ≠ handle := by
  rintro rfl
  rcases withdrawal.origin with idle | unknown
  · exact sound.busy checkout held holds idle
  · have present := sound.present checkout held holds
    rw [unknown] at present
    cases present

private theorem Sound.holds_issue (sound : world.Sound register) {handed : Handle × Arena Sink}
    {owner : Owner} {checkout : Nat} {handle : Handle}
    (holds : (world.issue handed).Holds (register.issue owner) checkout handle) :
    (checkout = register.count ∧ handle = handed.1) ∨ world.Holds register checkout handle := by
  obtain ⟨held, found⟩ := holds
  simp only [issue] at found
  by_cases latest : checkout = register.count
  · subst checkout
    rw [← sound.counted, List.getElem?_concat_length] at found
    cases found
    exact .inl ⟨rfl, rfl⟩
  · rw [Register.holder_issue_of_ne latest] at held
    have inside : checkout < world.issued.length := by
      rw [sound.counted]
      exact sound.bounded checkout held
    rw [List.getElem?_append_left inside] at found
    exact .inr ⟨held, found⟩

theorem Sound.issue (sound : world.Sound register) {handed : Handle × Arena Sink}
    (withdrawal : Withdrawal world.arena handed.1 handed.2) (owner : Owner) :
    (world.issue handed).Sound (register.issue owner) where
  counted := by
    simp only [World.issue, Register.issue, List.length_append, List.length_singleton,
      sound.counted]
  bounded checkout held := by
    by_cases latest : checkout = register.count
    · subst checkout
      exact Nat.lt_succ_self _
    · rw [Register.holder_issue_of_ne latest] at held
      exact Nat.lt_succ_of_lt (sound.bounded checkout held)
  present checkout handle holds := by
    rcases sound.holds_issue holds with ⟨_, rfl⟩ | earlier
    · exact withdrawal.present
    · simp only [World.issue]
      rw [withdrawal.others handle (sound.ne_withdrawn earlier withdrawal)]
      exact sound.present checkout handle earlier
  busy checkout handle holds idle := by
    rcases sound.holds_issue holds with ⟨_, rfl⟩ | earlier
    · exact withdrawal.busy idle
    · exact sound.busy checkout handle earlier (withdrawal.idle.mem idle)
  apart first second handle firstHolds secondHolds := by
    rcases sound.holds_issue firstHolds with ⟨firstLatest, same⟩ | firstEarlier
    · rcases sound.holds_issue secondHolds with ⟨secondLatest, _⟩ | secondEarlier
      · rw [firstLatest, secondLatest]
      · exact absurd same (sound.ne_withdrawn secondEarlier withdrawal)
    · rcases sound.holds_issue secondHolds with ⟨_, same⟩ | secondEarlier
      · exact absurd same (sound.ne_withdrawn firstEarlier withdrawal)
      · exact sound.apart first second handle firstEarlier secondEarlier
  pool := by
    refine ⟨?_, sound.pool.once.sublist withdrawal.idle⟩
    intro handle idle
    have apart : handle ≠ handed.1 := fun same => withdrawal.busy (same ▸ idle)
    simp only [World.issue]
    rw [withdrawal.others handle apart]
    exact sound.pool.known handle (withdrawal.idle.mem idle)
  room := withdrawal.room sound.room

theorem Sound.update (sound : world.Sound register) (handle : Handle) {new : Stack Sink}
    (newRoom : new.FullRoom) :
    Sound { world with arena := world.arena.update handle new } register where
  counted := sound.counted
  bounded := sound.bounded
  present checkout other holds :=
    (isSome_stack?_update _ _ _ _).mpr (sound.present checkout other holds)
  busy := sound.busy
  apart := sound.apart
  pool := by
    refine ⟨?_, sound.pool.once⟩
    intro other idle
    exact (isSome_stack?_update _ _ _ _).mpr (sound.pool.known other idle)
  room := sound.room.update handle newRoom

theorem Sound.discard (sound : world.Sound register) (position : Nat) :
    Sound { world with arena := world.arena.discard position } register where
  counted := sound.counted
  bounded := sound.bounded
  present := sound.present
  busy checkout handle holds idle :=
    sound.busy checkout handle holds (List.mem_of_mem_eraseIdx idle)
  apart := sound.apart
  pool := by
    refine ⟨?_, sound.pool.once.sublist (List.eraseIdx_sublist _ _)⟩
    intro handle idle
    exact sound.pool.known handle (List.mem_of_mem_eraseIdx idle)
  room := sound.room

private theorem Holds.of_withdraw {returned checkout : Nat} {handle : Handle}
    (holds : world.Holds (register.withdraw returned) checkout handle) :
    checkout ≠ returned ∧ world.Holds register checkout handle := by
  obtain ⟨different, held⟩ := Register.isSome_holder_of_withdraw holds.1
  exact ⟨different, held, holds.2⟩

theorem Sound.put (sound : world.Sound register) {checkout : Nat} {handle : Handle}
    (holds : world.Holds register checkout handle) :
    Sound { world with arena := world.arena.put (some handle) } (register.withdraw checkout) := by
  obtain ⟨stack, found⟩ := Option.isSome_iff_exists.mp (sound.present checkout handle holds)
  have released := sound.update handle (sound.room handle stack found).release
  have lookups := stack?_put found
  have idles := idle_put found
  exact {
    counted := sound.counted
    bounded := by
      intro other held
      exact sound.bounded other (Register.isSome_holder_of_withdraw held).2
    present := by
      intro other held stillHolds
      rw [lookups]
      exact released.present other held stillHolds.of_withdraw.2
    busy := by
      intro other held stillHolds idle
      rw [idles] at idle
      obtain ⟨different, earlier⟩ := stillHolds.of_withdraw
      rcases List.mem_cons.mp idle with same | idleBefore
      · subst held
        exact different (sound.apart other checkout handle earlier holds)
      · exact sound.busy other held earlier idleBefore
    apart := by
      intro first second held firstHolds secondHolds
      exact sound.apart first second held firstHolds.of_withdraw.2 secondHolds.of_withdraw.2
    pool := by
      constructor
      · intro other idle
        rw [idles] at idle
        rw [lookups]
        rcases List.mem_cons.mp idle with same | idleBefore
        · subst other
          exact released.present checkout handle holds
        · exact released.pool.known other idleBefore
      · rw [idles]
        exact List.nodup_cons.mpr ⟨sound.busy checkout handle holds, sound.pool.once⟩
    room := by
      intro other kept foundAfter
      rw [lookups] at foundAfter
      exact released.room other kept foundAfter }

theorem step_perform {checkout : Nat} {handle : Handle} {stack : Stack Sink}
    (issued : world.issued[checkout]? = some handle)
    (found : world.arena.stack? handle = some stack) (owner : Owner) (op : Stack.Op) :
    world.step (.perform owner checkout op) =
      ({ world with arena := world.arena.update handle (stack.apply op).stack },
        .answered (stack.apply op).result (stack.apply op).calls) := by
  simp only [step, issued, Option.bind_some, perform, found, Option.map_some]

theorem step_put {checkout : Nat} {handle : Handle}
    (issued : world.issued[checkout]? = some handle) (owner : Owner) :
    world.step (.put owner checkout) =
      ({ world with arena := world.arena.put (some handle) }, .done) := by
  simp only [step, issued]

private theorem Sound.exists_stack (sound : world.Sound register) {checkout : Nat}
    (held : (register.holder checkout).isSome) :
    ∃ handle stack, world.Holds register checkout handle ∧
      world.arena.stack? handle = some stack := by
  obtain ⟨handle, holds⟩ := sound.exists_handle held
  obtain ⟨stack, found⟩ := Option.isSome_iff_exists.mp (sound.present checkout handle holds)
  exact ⟨handle, stack, holds, found⟩

theorem Sound.step (sound : world.Sound register) {move : Move Owner Sink}
    (allowed : register.Allows move) : (world.step move).1.Sound (register.after move) := by
  cases move with
  | get owner settings choice =>
      exact sound.issue (get_handout sound.pool choice settings).toWithdrawal owner
  | make owner settings => exact sound.issue (make_withdrawal sound.pool settings) owner
  | perform owner checkout op =>
      obtain ⟨handle, stack, holds, found⟩ := sound.exists_stack (Option.isSome_of_eq_some allowed)
      rw [step_perform holds.2 found]
      exact sound.update handle ((sound.room handle stack found).apply op)
  | put owner checkout =>
      obtain ⟨handle, holds⟩ := sound.exists_handle (Option.isSome_of_eq_some allowed)
      rw [step_put holds.2]
      exact sound.put holds
  | putNothing owner => exact sound
  | discard position => exact sound.discard position

theorem Sound.run {moves : List (Move Owner Sink)} (sound : world.Sound register)
    (disciplined : register.Disciplined moves) :
    (world.run moves).1.Sound (register.afterAll moves) := by
  induction moves generalizing world register with
  | nil => exact sound
  | cons move rest ih =>
      obtain ⟨allowed, later⟩ := disciplined
      exact ih (sound.step allowed) later

end World

end OperandStack.Arena
