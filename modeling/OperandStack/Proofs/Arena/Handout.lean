import Mathlib.Data.List.Perm.Basic
import OperandStack.Arena
import OperandStack.Proofs.Stack.Meaning
import OperandStack.Proofs.Stack.Room

/-!
# Handing out stacks and taking them back

A stack that is handed out was idle or is new, and its owner finds it like a new one, whatever cells
an earlier owner left behind. `make_handout` and `get_handout` say so of both ways to obtain a
stack, and of every choice that the pool makes. -/

set_option autoImplicit false

namespace OperandStack.Arena

variable {Sink : Type}

/-! ## Replacing one stack -/

theorem stack?_update_self {arena : Arena Sink} {handle : Handle} {old : Stack Sink}
    (found : arena.stack? handle = some old) (new : Stack Sink) :
    (arena.update handle new).stack? handle = some new := by
  obtain ⟨inside, _⟩ := Array.getElem?_eq_some_iff.mp found
  simp only [stack?, update, Array.getElem?_setIfInBounds_self_of_lt inside]

theorem stack?_update_of_ne (arena : Arena Sink) {handle other : Handle} (apart : other ≠ handle)
    (new : Stack Sink) : (arena.update handle new).stack? other = arena.stack? other := by
  simp only [stack?, update, Array.getElem?_setIfInBounds_ne apart.symm]

theorem isSome_stack?_iff (arena : Arena Sink) (handle : Handle) :
    (arena.stack? handle).isSome ↔ handle < arena.slots.size := by
  rw [← Option.ne_none_iff_isSome, stack?, ne_eq, Array.getElem?_eq_none_iff, Nat.not_le]

theorem isSome_stack?_update (arena : Arena Sink) (handle other : Handle) (new : Stack Sink) :
    ((arena.update handle new).stack? other).isSome ↔ (arena.stack? other).isSome := by
  rw [isSome_stack?_iff, isSome_stack?_iff, update, Array.size_setIfInBounds]

theorem of_stack?_update {arena : Arena Sink} {handle other : Handle} {new stack : Stack Sink}
    (found : (arena.update handle new).stack? other = some stack) :
    (other = handle ∧ stack = new) ∨ (other ≠ handle ∧ arena.stack? other = some stack) := by
  by_cases own : other = handle
  · subst other
    have present : (arena.stack? handle).isSome := by
      rw [← isSome_stack?_update arena handle handle new, found]
      rfl
    obtain ⟨old, before⟩ := Option.isSome_iff_exists.mp present
    rw [stack?_update_self before] at found
    exact .inl ⟨rfl, (Option.some.inj found).symm⟩
  · rw [stack?_update_of_ne arena own] at found
    exact .inr ⟨own, found⟩

def FullRoom (arena : Arena Sink) : Prop :=
  ∀ handle stack, arena.stack? handle = some stack → stack.FullRoom

theorem FullRoom.update {arena : Arena Sink} (room : arena.FullRoom) (handle : Handle)
    {new : Stack Sink} (newRoom : new.FullRoom) : (arena.update handle new).FullRoom := by
  intro other stack found
  rcases of_stack?_update found with ⟨_, same⟩ | ⟨_, earlier⟩
  · exact same ▸ newRoom
  · exact room other stack earlier

/-! ## Withdrawals -/

/-- A stack leaves the pool or is made: it was idle or unknown, it is idle no longer, and every
other stack stays. -/
structure Withdrawal (before : Arena Sink) (handle : Handle) (after : Arena Sink) : Prop where
  origin : handle ∈ before.pool.idle ∨ before.stack? handle = none
  present : (after.stack? handle).isSome
  others : ∀ other, other ≠ handle → after.stack? other = before.stack? other
  idle : after.pool.idle.Sublist before.pool.idle
  busy : handle ∉ after.pool.idle
  room : before.FullRoom → after.FullRoom

structure PoolSound (arena : Arena Sink) : Prop where
  known : ∀ handle ∈ arena.pool.idle, (arena.stack? handle).isSome
  once : arena.pool.idle.Nodup

theorem stack?_make (arena : Arena Sink) (settings : List (Stack.Setting Sink)) (handle : Handle) :
    (arena.make settings).2.stack? handle =
      if handle = (arena.make settings).1 then some (.new settings) else arena.stack? handle :=
  Array.getElem?_push

theorem stack?_make_none (arena : Arena Sink) (settings : List (Stack.Setting Sink)) :
    arena.stack? (arena.make settings).1 = none :=
  Array.getElem?_eq_none (Nat.le_refl _)

theorem of_stack?_make {arena : Arena Sink} {settings : List (Stack.Setting Sink)} {handle : Handle}
    {stack : Stack Sink} (found : (arena.make settings).2.stack? handle = some stack) :
    (handle = (arena.make settings).1 ∧ stack = .new settings) ∨
      arena.stack? handle = some stack := by
  rw [stack?_make] at found
  split at found
  · exact .inl ⟨‹_›, (Option.some.inj found).symm⟩
  · exact .inr found

theorem make_withdrawal {arena : Arena Sink} (poolSound : arena.PoolSound)
    (settings : List (Stack.Setting Sink)) :
    Withdrawal arena (arena.make settings).1 (arena.make settings).2 where
  origin := .inr (stack?_make_none arena settings)
  present := by
    rw [stack?_make, if_pos rfl]
    rfl
  others other apart := by
    rw [stack?_make, if_neg apart]
  idle := .refl _
  busy member := by
    have known := poolSound.known _ member
    rw [stack?_make_none] at known
    cases known
  room room := by
    intro handle stack found
    rcases of_stack?_make found with ⟨_, same⟩ | earlier
    · exact same ▸ Stack.fullRoom_new settings
    · exact room handle stack earlier

theorem take_cases (arena : Arena Sink) (choice : PoolChoice) :
    (∃ position handle, arena.pool.idle[position]? = some handle ∧
      arena.take choice = (handle, arena.discard position)) ∨
    arena.take choice =
      { arena with pool := { arena.pool with
          allocations := arena.pool.allocations.increment } }.make [] := by
  cases choice with
  | allocate => exact .inr rfl
  | reuse position =>
      cases found : arena.pool.idle[position]? with
      | none =>
          right
          simp only [take, found, Option.map_none]
      | some handle =>
          refine .inl ⟨position, handle, found, ?_⟩
          simp only [take, found, Option.map_some]

private theorem of_stack?_take {arena : Arena Sink} {choice : PoolChoice} {handle : Handle}
    {stack : Stack Sink} (found : (arena.take choice).2.stack? handle = some stack) :
    handle = (arena.take choice).1 ∨ arena.stack? handle = some stack := by
  rcases arena.take_cases choice with ⟨position, chosen, _, taken⟩ | taken
  · rw [taken] at found
    exact .inr found
  · rw [taken] at found ⊢
    rcases of_stack?_make found with ⟨own, _⟩ | earlier
    · exact .inl own
    · exact .inr earlier

private theorem discard_withdrawal {arena : Arena Sink} (poolSound : arena.PoolSound)
    {position : Nat} {handle : Handle} (found : arena.pool.idle[position]? = some handle) :
    Withdrawal arena handle (arena.discard position) := by
  have member : handle ∈ arena.pool.idle := List.mem_of_getElem? found
  obtain ⟨inside, chosen⟩ := List.getElem?_eq_some_iff.mp found
  have listed := (List.getElem_cons_eraseIdx_perm inside).nodup_iff.mpr poolSound.once
  exact {
    origin := .inl member
    present := poolSound.known handle member
    others := fun _ _ => rfl
    idle := List.eraseIdx_sublist _ _
    busy := chosen ▸ (List.nodup_cons.mp listed).1
    room := id }

private theorem take_withdrawal {arena : Arena Sink} (poolSound : arena.PoolSound)
    (choice : PoolChoice) :
    Withdrawal arena (arena.take choice).1 (arena.take choice).2 := by
  rcases arena.take_cases choice with ⟨position, handle, found, taken⟩ | taken
  · rw [taken]
    exact discard_withdrawal poolSound found
  · -- The counter of allocations is no part of what a withdrawal says.
    have made := make_withdrawal poolSound []
    rw [taken]
    exact ⟨made.origin, made.present, made.others, made.idle, made.busy, made.room⟩

theorem Withdrawal.update {before after : Arena Sink} {handle : Handle}
    (withdrawal : Withdrawal before handle after) {new : Stack Sink}
    (newRoom : before.FullRoom → new.FullRoom) :
    Withdrawal before handle (after.update handle new) where
  origin := withdrawal.origin
  present := by
    rw [isSome_stack?_update]
    exact withdrawal.present
  others other apart := by
    rw [stack?_update_of_ne after apart]
    exact withdrawal.others other apart
  idle := withdrawal.idle
  busy := withdrawal.busy
  room room := (withdrawal.room room).update handle (newRoom room)

/-! ## Handouts -/

/-- A withdrawn stack goes to an owner, who finds it like a new one. -/
structure Handout (before : Arena Sink) (settings : List (Stack.Setting Sink)) (handle : Handle)
    (after : Arena Sink) : Prop extends Withdrawal before handle after where
  fresh : ∃ stack, after.stack? handle = some stack ∧ stack.Alike (.new settings)

private theorem alike_configure_new (stack : Stack Sink) (settings : List (Stack.Setting Sink)) :
    (stack.release.configure settings).Alike (.new settings) := by
  constructor
  · rw [Stack.items_configure, Stack.items_new]
    rfl
  · rw [Stack.new, Stack.tracer_configure, Stack.tracer_configure]
    rfl

theorem of_stack?_get {arena : Arena Sink} {choice : PoolChoice}
    {settings : List (Stack.Setting Sink)} {handle : Handle} {stack : Stack Sink}
    (found : (arena.get choice settings).2.stack? handle = some stack) :
    stack.Alike (.new settings) ∨ arena.stack? handle = some stack := by
  unfold get at found
  cases held : (arena.take choice).2.stack? (arena.take choice).1 with
  | none =>
      simp only [held] at found
      rcases of_stack?_take found with own | earlier
      · subst handle
        cases held.symm.trans found
      · exact .inr earlier
  | some old =>
      simp only [held] at found
      rcases of_stack?_update found with ⟨_, same⟩ | ⟨apart, kept⟩
      · subst stack
        exact .inl (alike_configure_new old settings)
      · rcases of_stack?_take kept with own | earlier
        · exact absurd own apart
        · exact .inr earlier

theorem make_handout {arena : Arena Sink} (poolSound : arena.PoolSound)
    (settings : List (Stack.Setting Sink)) :
    Handout arena settings (arena.make settings).1 (arena.make settings).2 where
  toWithdrawal := make_withdrawal poolSound settings
  fresh := by
    refine ⟨.new settings, ?_, ⟨rfl, rfl⟩⟩
    rw [stack?_make, if_pos rfl]

theorem get_handout {arena : Arena Sink} (poolSound : arena.PoolSound) (choice : PoolChoice)
    (settings : List (Stack.Setting Sink)) :
    Handout arena settings (arena.get choice settings).1 (arena.get choice settings).2 := by
  have taken := take_withdrawal poolSound choice
  obtain ⟨stack, found⟩ := Option.isSome_iff_exists.mp taken.present
  have roomy (room : arena.FullRoom) : (stack.release.configure settings).FullRoom :=
    Stack.fullRoom_configure_iff.mpr (taken.room room _ stack found).release
  have configured := taken.update roomy
  have present := stack?_update_self found (stack.release.configure settings)
  unfold get
  simp only [found]
  exact {
    origin := configured.origin
    present := configured.present
    others := configured.others
    idle := configured.idle
    busy := configured.busy
    room := configured.room
    fresh := ⟨_, present, alike_configure_new stack settings⟩ }

/-! ## Returns -/

theorem stack?_put {arena : Arena Sink} {handle : Handle} {stack : Stack Sink}
    (found : arena.stack? handle = some stack) (other : Handle) :
    (arena.put (some handle)).stack? other = (arena.update handle stack.release).stack? other := by
  unfold put
  simp only [found]
  rfl

theorem of_stack?_put {arena : Arena Sink} {returned handle : Handle} {stack : Stack Sink}
    (found : (arena.put (some returned)).stack? handle = some stack) :
    (stack.items = [] ∧ stack.tracer = .silent) ∨
      (handle ≠ returned ∧ arena.stack? handle = some stack) := by
  cases held : arena.stack? returned with
  | none =>
      unfold put at found
      simp only [held] at found
      refine .inr ⟨?_, found⟩
      intro own
      subst handle
      cases held.symm.trans found
  | some old =>
      rw [stack?_put held] at found
      rcases of_stack?_update found with ⟨_, same⟩ | other
      · subst stack
        exact .inl ⟨rfl, rfl⟩
      · exact .inr other

theorem idle_put {arena : Arena Sink} {handle : Handle} {stack : Stack Sink}
    (found : arena.stack? handle = some stack) :
    (arena.put (some handle)).pool.idle = handle :: arena.pool.idle := by
  unfold put
  simp only [found]
  rfl

end OperandStack.Arena
