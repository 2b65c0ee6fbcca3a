import Mathlib.Algebra.Order.Field.Rat
import Mathlib.Data.List.Induction
import OperandStack.Proofs.Arena.Custody
import OperandStack.Proofs.Metrics.Meter

/-!
# The counters of a pool

A pool counts its requests, the stacks that it had to make and the stacks that it was given back.
Two balances tie these counters to the idle stacks, which nobody sees: a request is served by a new
stack or by an idle one, and a stack that was given back is idle, handed out again or dropped. They
hold for all moves in any order, even if owners use a stack that is no longer theirs. -/

set_option autoImplicit false

namespace OperandStack

variable {Owner Sink : Type}

/-- The division behind the hit rate, carried out in numbers of any kind. -/
def PoolStats.quotient {Value : Type} [OfNat Value 0] [Div Value] (stats : PoolStats)
    (number : UInt64 → Value) : Value :=
  match stats.hitRatio? with
  | none => 0
  | some (hits, requests) => number hits / number requests

namespace Arena

/-! ## What a request and a return do to the pool -/

private theorem get_eq_take (arena : Arena Sink) (choice : PoolChoice)
    (settings : List (Stack.Setting Sink)) :
    (arena.get choice settings).1 = (arena.take choice).1 ∧
      (arena.get choice settings).2.slots.size = (arena.take choice).2.slots.size ∧
      (arena.get choice settings).2.pool =
        { (arena.take choice).2.pool with
          gets := (arena.take choice).2.pool.gets.increment } := by
  unfold get
  cases found : (arena.take choice).2.stack? (arena.take choice).1 with
  | none => simp only [found, and_self]
  | some stack => simp only [found, update, Array.size_setIfInBounds, and_self]

/-- A request takes an idle stack away, or makes a stack and counts it. -/
private theorem get_cases (arena : Arena Sink) (choice : PoolChoice)
    (settings : List (Stack.Setting Sink)) :
    (∃ position, arena.pool.idle[position]? = some (arena.get choice settings).1 ∧
      (arena.get choice settings).2.slots.size = arena.slots.size ∧
      (arena.get choice settings).2.pool =
        { arena.pool with
          idle := arena.pool.idle.eraseIdx position
          gets := arena.pool.gets.increment }) ∨
    ((arena.get choice settings).1 = arena.slots.size ∧
      (arena.get choice settings).2.slots.size = arena.slots.size + 1 ∧
      (arena.get choice settings).2.pool =
        { arena.pool with
          allocations := arena.pool.allocations.increment
          gets := arena.pool.gets.increment }) := by
  obtain ⟨handed, size, pool⟩ := arena.get_eq_take choice settings
  rw [handed, size, pool]
  rcases arena.take_cases choice with ⟨position, handle, found, taken⟩ | taken
  · left
    rw [taken]
    exact ⟨position, found, rfl, rfl⟩
  · right
    rw [taken]
    exact ⟨rfl, Array.size_push .., rfl⟩

private theorem put_some (arena : Arena Sink) (handle : Handle) :
    (arena.put (some handle)).slots.size = arena.slots.size ∧
      (arena.put (some handle)).pool =
        { arena.pool with
          idle := handle :: arena.pool.idle
          puts := arena.pool.puts.increment } := by
  unfold put
  cases found : arena.stack? handle with
  | none => simp only [found, and_self]
  | some stack => simp only [found, update, Array.size_setIfInBounds, and_self]

/-! ## The ledger -/

/-- The counters and the idle stacks of a pool, after so many moves of each kind. The handles that
the pool and the owners know are those of stacks that were made. -/
structure Ledger (pool : Pool) (made : Nat) (issued : List Handle)
    (requests reuses returns drops : Nat) : Prop where
  gets : pool.gets.value = Int64.ofNat requests
  puts : pool.puts.value = Int64.ofNat returns
  allocations : ∃ allocated, pool.allocations.value = Int64.ofNat allocated ∧
    allocated + reuses = requests
  idle : pool.idle.length + drops + reuses = returns
  idleMade : ∀ handle ∈ pool.idle, handle < made
  issuedMade : ∀ handle ∈ issued, handle < made

section

variable {pool : Pool} {made : Nat} {issued : List Handle} {requests reuses returns drops : Nat}

private theorem ledger_new : Ledger .new 0 [] 0 0 0 0 where
  gets := rfl
  puts := rfl
  allocations := ⟨0, rfl, rfl⟩
  idle := rfl
  idleMade _ member := nomatch member
  issuedMade _ member := nomatch member

theorem Ledger.reuse (ledger : Ledger pool made issued requests reuses returns drops)
    {position : Nat} {handle : Handle} (chosen : pool.idle[position]? = some handle) :
    Ledger { pool with idle := pool.idle.eraseIdx position, gets := pool.gets.increment } made
      (issued ++ [handle]) (requests + 1) (reuses + 1) returns drops := by
  obtain ⟨allocated, shown, balance⟩ := ledger.allocations
  obtain ⟨inside, _⟩ := List.getElem?_eq_some_iff.mp chosen
  have shorter := List.length_eraseIdx_add_one inside
  have balanced := ledger.idle
  exact {
    gets := Counter.value_increment ledger.gets
    puts := ledger.puts
    allocations := ⟨allocated, shown, congrArg (· + 1) balance⟩
    idle := by
      dsimp only
      omega
    idleMade := fun other kept => ledger.idleMade other (List.mem_of_mem_eraseIdx kept)
    issuedMade := by
      intro other known
      rcases List.mem_append.mp known with earlier | latest
      · exact ledger.issuedMade other earlier
      · rw [List.mem_singleton.mp latest]
        exact ledger.idleMade handle (List.mem_of_getElem? chosen) }

theorem Ledger.make (ledger : Ledger pool made issued requests reuses returns drops) :
    Ledger pool (made + 1) (issued ++ [made]) requests reuses returns drops where
  gets := ledger.gets
  puts := ledger.puts
  allocations := ledger.allocations
  idle := ledger.idle
  idleMade other idle := Nat.lt_succ_of_lt (ledger.idleMade other idle)
  issuedMade := by
    intro other known
    rcases List.mem_append.mp known with earlier | latest
    · exact Nat.lt_succ_of_lt (ledger.issuedMade other earlier)
    · rw [List.mem_singleton.mp latest]
      exact Nat.lt_succ_self made

theorem Ledger.allocate (ledger : Ledger pool made issued requests reuses returns drops) :
    Ledger
      { pool with allocations := pool.allocations.increment, gets := pool.gets.increment }
      made issued (requests + 1) reuses returns drops := by
  obtain ⟨allocated, shown, balance⟩ := ledger.allocations
  exact {
    gets := Counter.value_increment ledger.gets
    puts := ledger.puts
    allocations := ⟨allocated + 1, Counter.value_increment shown, by omega⟩
    idle := ledger.idle
    idleMade := ledger.idleMade
    issuedMade := ledger.issuedMade }

private theorem Ledger.giveBack (ledger : Ledger pool made issued requests reuses returns drops)
    {handle : Handle} (handed : handle ∈ issued) :
    Ledger { pool with idle := handle :: pool.idle, puts := pool.puts.increment } made issued
      requests reuses (returns + 1) drops where
  gets := ledger.gets
  puts := Counter.value_increment ledger.puts
  allocations := ledger.allocations
  idle := by
    have balanced := ledger.idle
    rw [List.length_cons]
    omega
  idleMade := List.forall_mem_cons.mpr ⟨ledger.issuedMade handle handed, ledger.idleMade⟩
  issuedMade := ledger.issuedMade

theorem Ledger.discard (ledger : Ledger pool made issued requests reuses returns drops)
    (position : Nat) :
    Ledger (pool.discard position) made issued requests reuses returns
      (drops + (decide (position < pool.idle.length)).toNat) where
  gets := ledger.gets
  puts := ledger.puts
  allocations := ledger.allocations
  idle := by
    have balanced := ledger.idle
    rw [Pool.discard, List.length_eraseIdx]
    by_cases inside : position < pool.idle.length
    · simp only [inside, ↓reduceIte, decide_true, Bool.toNat_true]
      omega
    · simp only [inside, ↓reduceIte, decide_false, Bool.toNat_false]
      omega
  idleMade other kept := ledger.idleMade other (List.mem_of_mem_eraseIdx kept)
  issuedMade := ledger.issuedMade

end

namespace World

/-! ## Kinds of moves -/

def requests (_ : World Sink) : Move Owner Sink → Bool
  | .get _ _ _ => true
  | _ => false

def reuses (world : World Sink) : Move Owner Sink → Bool
  | .get _ settings choice => (world.arena.get choice settings).1 ∈ world.arena.pool.idle
  | _ => false

def returns (world : World Sink) : Move Owner Sink → Bool
  | .put _ checkout => world.issued[checkout]?.isSome
  | _ => false

def drops (world : World Sink) : Move Owner Sink → Bool
  | .discard position => position < world.arena.pool.idle.length
  | _ => false

def Balanced (world : World Sink) (requests reuses returns drops : Nat) : Prop :=
  Ledger world.arena.pool world.arena.slots.size world.issued requests reuses returns drops

variable {world : World Sink} {requests reuses returns drops : Nat}

theorem Balanced.get (balanced : world.Balanced requests reuses returns drops) (owner : Owner)
    (settings : List (Stack.Setting Sink)) (choice : PoolChoice) :
    (world.step (.get owner settings choice : Move Owner Sink)).1.Balanced (requests + 1)
      (reuses + (world.reuses (.get owner settings choice : Move Owner Sink)).toNat)
      returns drops := by
  unfold Balanced World.reuses step issue
  dsimp only
  rcases world.arena.get_cases choice settings with
    ⟨position, chosen, size, pool⟩ | ⟨fresh, size, pool⟩
  · have reused := decide_eq_true (List.mem_of_getElem? chosen)
    rw [reused, size, pool]
    exact Ledger.reuse balanced chosen
  · -- A new handle is past all that were made, so it cannot be that of an idle stack.
    have unused : (world.arena.get choice settings).1 ∉ world.arena.pool.idle := by
      intro member
      exact absurd fresh (Nat.ne_of_lt (balanced.idleMade _ member))
    rw [decide_eq_false unused, size, pool, fresh]
    exact (Ledger.make balanced).allocate

theorem Balanced.step (balanced : world.Balanced requests reuses returns drops)
    (move : Move Owner Sink) :
    (world.step move).1.Balanced (requests + (world.requests move).toNat)
      (reuses + (world.reuses move).toNat) (returns + (world.returns move).toNat)
      (drops + (world.drops move).toNat) := by
  cases move with
  | get owner settings choice => exact balanced.get owner settings choice
  | make owner settings =>
      have size : (world.arena.make settings).2.slots.size = world.arena.slots.size + 1 :=
        Array.size_push ..
      unfold Balanced World.step issue
      rw [size]
      exact Ledger.make balanced
  | perform owner checkout op =>
      simp only [World.step]
      cases answer : world.issued[checkout]?.bind (world.arena.perform · op) with
      | none => exact balanced
      | some outcome =>
          obtain ⟨handle, _, performed⟩ := Option.bind_eq_some_iff.mp answer
          obtain ⟨stack, _, rfl⟩ := Option.map_eq_some_iff.mp performed
          unfold Balanced update
          rw [Array.size_setIfInBounds]
          exact balanced
  | put owner checkout =>
      simp only [World.step, World.returns]
      cases handed : world.issued[checkout]? with
      | none => exact balanced
      | some handle =>
          obtain ⟨size, pool⟩ := world.arena.put_some handle
          unfold Balanced
          rw [size, pool]
          exact Ledger.giveBack balanced (List.mem_of_getElem? handed)
  | putNothing owner => exact balanced
  | discard position => exact Ledger.discard balanced position

theorem balanced_run (moves : List (Move Owner Sink)) :
    ((start : World Sink).run moves).1.Balanced (countOf World.requests moves)
      (countOf World.reuses moves) (countOf World.returns moves) (countOf World.drops moves) := by
  induction moves using List.reverseRecOn with
  | nil => exact ledger_new
  | append_singleton moves move ih =>
      simp only [run_concat, countOf_concat]
      exact ih.step move

end World

/-! ## The statistics -/

private theorem toNat_toUInt64_of_lt {value : Int64} {count : Nat}
    (shown : value = Int64.ofNat count) (few : count < 2 ^ 63) : value.toUInt64.toNat = count := by
  have fits : count < UInt64.size := Nat.lt_trans few (by decide)
  rw [shown, Int64.toUInt64_ofNat', UInt64.toNat_ofNat_of_lt' fits]

theorem Ledger.stats {pool : Pool} {made : Nat} {issued : List Handle}
    {requests reuses returns drops : Nat}
    (ledger : Ledger pool made issued requests reuses returns drops)
    (few : requests + returns < 2 ^ 63) :
    pool.stats.gets.toNat = requests ∧ pool.stats.puts.toNat = returns ∧
      pool.stats.allocations.toNat + reuses = requests := by
  obtain ⟨allocated, shown, balance⟩ := ledger.allocations
  have allocations : pool.stats.allocations.toNat = allocated :=
    toNat_toUInt64_of_lt shown (by omega)
  refine ⟨toNat_toUInt64_of_lt ledger.gets (by omega), toNat_toUInt64_of_lt ledger.puts (by omega),
    ?_⟩
  rw [allocations]
  exact balance

end Arena

namespace PoolStats

variable {stats : PoolStats}

private theorem hitRatio?_eq_some {hits requests : UInt64}
    (divided : stats.hitRatio? = some (hits, requests)) :
    requests = stats.gets ∧ requests ≠ 0 ∧
      hits.toNat + stats.allocations.toNat = stats.gets.toNat := by
  unfold hitRatio? at divided
  split at divided
  · cases divided
  · next fit =>
      cases divided
      obtain ⟨asked, fewer⟩ := not_or.mp fit
      have order : stats.allocations.toNat < stats.gets.toNat := UInt64.not_le.mp fewer
      have difference := UInt64.toNat_sub_of_le stats.gets stats.allocations
        (UInt64.le_iff_toNat_le.mpr (Nat.le_of_lt order))
      exact ⟨rfl, asked, by omega⟩

private theorem hitRatio?_eq_none {reused : Nat} (undivided : stats.hitRatio? = none)
    (balance : stats.allocations.toNat + reused = stats.gets.toNat) : reused = 0 := by
  unfold hitRatio? at undivided
  split at undivided
  · next unfit =>
      rcases unfit with unasked | more
      · rw [unasked] at balance
        exact (Nat.add_eq_zero_iff.mp balance).2
      · have order := UInt64.le_iff_toNat_le.mp more
        omega
  · cases undivided

private theorem quotient_eq_div {reused : Nat}
    (balance : stats.allocations.toNat + reused = stats.gets.toNat) :
    stats.quotient (fun count => (count.toNat : ℚ)) = (reused : ℚ) / (stats.gets.toNat : ℚ) := by
  unfold quotient
  cases ratio : stats.hitRatio? with
  | none =>
      rw [hitRatio?_eq_none ratio balance, Nat.cast_zero, zero_div]
  | some pair =>
      obtain ⟨hits, requests⟩ := pair
      obtain ⟨rfl, _, sum⟩ := hitRatio?_eq_some ratio
      have same : hits.toNat = reused := by omega
      dsimp only
      rw [same]

end PoolStats

namespace Arena

/-- After fewer than 2^63 requests and returns, in any order, by any owners and with any choices of
the pool: the counters are those numbers, the requests that no allocation served were served by
reuse, and what was given back and not handed out again is idle or was dropped. Disciplined owners
never have a stack idle twice. So the hit rate subtracts and divides within bounds, and before
rounding it is the share of requests served by reuse. -/
theorem pool_counters_conserved (moves : List (Move Owner Sink))
    (few : countOf World.requests moves + countOf World.returns moves < 2 ^ 63) :
    let pool := ((World.start : World Sink).run moves).1.arena.pool
    let stats := pool.stats
    let gets := stats.gets.toNat
    let puts := stats.puts.toNat
    let allocations := stats.allocations.toNat
    gets = countOf World.requests moves ∧ puts = countOf World.returns moves ∧
      allocations ≤ gets ∧ gets ≤ allocations + puts ∧
      gets - allocations = countOf World.reuses moves ∧
      pool.idle.length + countOf World.drops moves = puts - (gets - allocations) ∧
      (Register.start.Disciplined moves → pool.idle.Nodup) ∧
      (∀ hits requests, stats.hitRatio? = some (hits, requests) →
        requests = stats.gets ∧ requests ≠ 0 ∧ hits.toNat + allocations = gets) ∧
      stats.hitRate = stats.quotient UInt64.toFloat ∧
      stats.quotient (fun count => (count.toNat : ℚ)) =
        (countOf World.reuses moves : ℚ) / (countOf World.requests moves : ℚ) ∧
      0 ≤ (countOf World.reuses moves : ℚ) / (countOf World.requests moves : ℚ) ∧
      (countOf World.reuses moves : ℚ) / (countOf World.requests moves : ℚ) ≤ 1 := by
  intro pool stats gets puts allocations
  have ledger := World.balanced_run moves
  obtain ⟨requested, returned, served⟩ := Ledger.stats ledger few
  have kept : pool.idle.length + countOf World.drops moves + countOf World.reuses moves =
    countOf World.returns moves := ledger.idle
  have asked : gets = countOf World.requests moves := requested
  have given : puts = countOf World.returns moves := returned
  have balance : allocations + countOf World.reuses moves = gets := served.trans requested.symm
  have fewer : countOf World.reuses moves ≤ countOf World.requests moves := by omega
  refine ⟨asked, given, by omega, by omega, by omega, by omega, ?_,
    fun _ _ => PoolStats.hitRatio?_eq_some, rfl, ?_, ?_, ?_⟩
  · intro disciplined
    exact (World.sound_start.run disciplined).pool.once
  · rw [PoolStats.quotient_eq_div balance, requested]
  · exact div_nonneg (Nat.cast_nonneg _) (Nat.cast_nonneg _)
  · exact div_le_one_of_le₀ (Nat.cast_le.mpr fewer) (Nat.cast_nonneg _)

/-- Two stacks come back, the pool forgets one of them and passes the other on. -/
def recycled : List (Move Unit Nat) :=
  [.get () [] .allocate, .make () [], .put () 0, .put () 1, .discard 0, .get () [] (.reuse 0),
    .get () [] (.reuse 0)]

theorem recycled_counters :
    countOf World.requests recycled + countOf World.returns recycled < 2 ^ 63 ∧
      countOf World.requests recycled = 3 ∧ countOf World.returns recycled = 2 ∧
      countOf World.drops recycled = 1 ∧
      ((World.start : World Nat).run recycled).1.arena.pool.stats.quotient
        (fun count => (count.toNat : ℚ)) = 1 / 3 := by
  have few : countOf World.requests recycled + countOf World.returns recycled < 2 ^ 63 := by
    decide +kernel
  have requests : countOf World.requests recycled = 3 := by decide +kernel
  have reuses : countOf World.reuses recycled = 1 := by decide +kernel
  obtain ⟨_, _, _, _, _, _, _, _, _, share, _⟩ := pool_counters_conserved recycled few
  refine ⟨few, requests, by decide +kernel, by decide +kernel, ?_⟩
  rw [share, requests, reuses]
  rfl

end Arena

end OperandStack
