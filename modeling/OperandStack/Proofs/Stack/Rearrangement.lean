import Mathlib.Data.List.FinRange
import Mathlib.GroupTheory.Perm.Sign
import OperandStack.Proofs.Stack.Meaning

/-!
# Rearranging words by swaps

Swaps move words and neither add nor lose one, so what they bring about is a rearrangement of the
words. All rearrangements come about in this way: any two positions change places by at most three
swaps with the top, and such changes compose to every order of the positions.
-/

set_option autoImplicit false

namespace OperandStack.Stack

variable {Sink : Type}

/-! ## Orders of positions -/

/-- The second list shows at each position what the first one holds at the position that the order
gives for it. -/
structure Arranges {depth : Nat} (order : Equiv.Perm (Fin depth)) (before after : List Word) :
    Prop where
  length_before : before.length = depth
  length_after : after.length = depth
  shown : ∀ position : Fin depth, after[position.val]? = before[(order position).val]?

variable {depth : Nat} {order : Equiv.Perm (Fin depth)} {items before after : List Word}

private theorem arranges_one (length : items.length = depth) :
    Arranges (1 : Equiv.Perm (Fin depth)) items items :=
  ⟨length, length, fun _ => rfl⟩

theorem Arranges.trans {later : Equiv.Perm (Fin depth)} {final : List Word}
    (first : Arranges order before after) (second : Arranges later after final) :
    Arranges (order * later) before final := by
  refine ⟨first.length_before, second.length_after, fun position => ?_⟩
  rw [second.shown, first.shown, Equiv.Perm.mul_apply]

theorem Arranges.unique {other : List Word} (arranged : Arranges order before after)
    (again : Arranges order before other) : after = other := by
  apply List.ext_getElem?
  intro position
  by_cases inside : position < depth
  · exact (arranged.shown ⟨position, inside⟩).trans (again.shown ⟨position, inside⟩).symm
  · rw [List.getElem?_eq_none (by rw [arranged.length_after]; omega),
      List.getElem?_eq_none (by rw [again.length_after]; omega)]

theorem Arranges.perm (arranged : Arranges order before after) : after.Perm before := by
  obtain ⟨rfl, lengthAfter, shown⟩ := arranged
  have listed : after = List.ofFn (before.get ∘ order) := by
    apply List.ext_getElem?
    intro position
    by_cases inside : position < before.length
    · have here := shown ⟨position, inside⟩
      rw [here]
      simp [inside]
    · rw [List.getElem?_eq_none (by omega), List.getElem?_eq_none (by simpa using inside)]
  have moved := order.ofFn_comp_perm before.get
  rwa [← listed, List.ofFn_get] at moved

theorem exists_arranges {words : List Word} (rearranged : words.Perm items)
    (deep : items.length = depth) :
    ∃ order : Equiv.Perm (Fin depth), Arranges order items words := by
  subst deep
  have length : items.length = words.length := rearranged.length_eq.symm
  -- The occurrences of a word that occurs several times correspond from the bottom up.
  let places : Fin words.length ≃ Fin items.length :=
    ⟨rearranged.idxBij, rearranged.symm.idxBij, rearranged.idxBij_rightInverse_idxBij_symm,
      rearranged.idxBij_leftInverse_idxBij_symm⟩
  refine ⟨(finCongr length).trans places, rfl, length.symm, fun position => ?_⟩
  have inside : position.val < words.length := length ▸ position.isLt
  have found := rearranged.getElem_idxBij_eq_getElem ⟨position.val, inside⟩
  rw [List.getElem?_eq_getElem inside, ← found]
  exact (List.getElem?_eq_getElem _).symm

/-! ## One swap -/

private theorem of_swap_eq_ok {stack swapped : Stack Sink} {distance : Int}
    (accepted : stack.swap distance = .ok swapped) :
    0 ≤ distance ∧ distance < stack.depth ∧
      swapped.items = exchangeLast stack.items distance.toNat := by
  by_cases near : 0 ≤ distance ∧ distance < stack.depth
  · obtain ⟨exchanged, success, items, _⟩ := swap_of_near near.1 near.2
    obtain rfl : exchanged = swapped := Except.ok.inj (success.symm.trans accepted)
    exact ⟨near.1, near.2, items⟩
  · have failed := (swap_eq_error_iff stack distance _).mpr ⟨by omega, rfl⟩
    rw [accepted] at failed
    cases failed

private theorem apply_swap_of_lt {stack : Stack Sink} {distance : Nat}
    (near : distance < stack.depth) :
    (stack.apply (.swap distance)).result = .ok .done ∧
      (stack.apply (.swap distance)).stack.items = exchangeLast stack.items distance := by
  have realized := apply_realizes stack (.swap distance)
  rw [Op.meaning, Meaning.swap, if_pos (by rw [length_items]; omega)] at realized
  exact ⟨realized.result, realized.items⟩

private theorem arranges_exchangeLast (top : Fin depth) (isTop : top.val = depth - 1)
    (length : items.length = depth) (other : Fin depth) :
    Arranges (Equiv.swap top other) items (exchangeLast items other.rev.val) := by
  refine ⟨length, by rwa [length_exchangeLast], fun position => ?_⟩
  have near : other.rev.val < items.length := length ▸ other.rev.isLt
  have place : depth - 1 - other.rev.val = other.val := by
    rw [Fin.val_rev]
    omega
  rw [getElem?_exchangeLast near, length, place, ← isTop, Equiv.swap_apply_def]
  simp only [Fin.ext_iff]
  split
  · rfl
  · split
    · rfl
    · rfl

theorem apply_swap_perm (stack : Stack Sink) (distance : Int) :
    (stack.apply (.swap distance)).stack.items.Perm stack.items := by
  rw [(apply_realizes stack (.swap distance)).items, Op.meaning, Meaning.swap]
  split
  · next near =>
      let below : Fin stack.items.length := ⟨distance.toNat, by omega⟩
      have arranged :=
        arranges_exchangeLast ⟨stack.items.length - 1, by omega⟩ rfl rfl below.rev
      rw [Fin.rev_rev] at arranged
      exact arranged.perm
  · exact .refl _

/-! ## Swaps in a row -/

theorem run_swaps_perm (stack : Stack Sink) (distances : List Int) :
    (run stack (distances.map .swap)).stack.items.Perm stack.items := by
  induction distances generalizing stack with
  | nil => exact .refl _
  | cons distance rest ih => exact (ih _).trans (apply_swap_perm stack distance)

theorem run_swaps_with {top : Fin depth} (isTop : top.val = depth - 1)
    (positions : List (Fin depth)) {stack : Stack Sink} (deep : stack.depth = depth) :
    let swapped := run stack (positions.map fun position => .swap position.rev.val)
    (∀ result ∈ swapped.results, result = .ok .done) ∧
      Arranges (positions.map (Equiv.swap top)).prod stack.items swapped.stack.items := by
  induction positions generalizing stack with
  | nil => exact ⟨List.forall_mem_nil _, arranges_one (by rw [length_items, deep])⟩
  | cons position rest ih =>
      have near : position.rev.val < stack.depth := by
        rw [deep]
        exact position.rev.isLt
      obtain ⟨accepted, items⟩ := apply_swap_of_lt near
      have first : Arranges (Equiv.swap top position) stack.items
          (stack.apply (.swap position.rev.val)).stack.items := by
        rw [items]
        exact arranges_exchangeLast top isTop (by rw [length_items, deep]) position
      obtain ⟨acceptedRest, second⟩ := ih (by rw [← length_items, first.length_after])
      exact ⟨List.forall_mem_cons.mpr ⟨accepted, acceptedRest⟩, first.trans second⟩

private theorem exists_swaps_with (top : Fin depth) (order : Equiv.Perm (Fin depth)) :
    ∃ positions : List (Fin depth), (positions.map (Equiv.swap top)).prod = order := by
  induction order using Equiv.Perm.swap_induction_on with
  | one => exact ⟨[], rfl⟩
  | swap_mul order left right different ih =>
      obtain ⟨positions, product⟩ := ih
      by_cases leftTop : left = top
      · exact ⟨right :: positions, by rw [List.map_cons, List.prod_cons, product, leftTop]⟩
      · by_cases rightTop : right = top
        · refine ⟨left :: positions, ?_⟩
          rw [List.map_cons, List.prod_cons, product, rightTop, Equiv.swap_comm]
        · -- Neither is the top: one of them goes there, the other takes its place, and what was on
          -- top comes back.
          have three := Equiv.swap_mul_swap_mul_swap leftTop different
          rw [Equiv.swap_comm left top, Equiv.swap_comm right left] at three
          refine ⟨right :: left :: right :: positions, ?_⟩
          simp only [List.map_cons, List.prod_cons, product, ← mul_assoc, three]

theorem exists_swaps_arranges (stack : Stack Sink) (order : Equiv.Perm (Fin stack.depth)) :
    ∃ distances : List (Fin stack.depth),
      let rearranged := run stack (distances.map fun distance => .swap distance.val)
      (∀ result ∈ rearranged.results, result = .ok .done) ∧
        Arranges order stack.items rearranged.stack.items := by
  by_cases empty : stack.depth = 0
  · have none : IsEmpty (Fin stack.depth) := by
      rw [empty]
      infer_instance
    rw [Subsingleton.elim order 1]
    exact ⟨[], List.forall_mem_nil _, arranges_one (length_items stack)⟩
  · let top : Fin stack.depth := ⟨stack.depth - 1, by omega⟩
    obtain ⟨positions, rfl⟩ := exists_swaps_with top order
    refine ⟨positions.map Fin.rev, ?_⟩
    rw [List.map_map]
    exact run_swaps_with rfl positions rfl

/-- Swaps generate exactly the rearrangements, at every depth. Whatever the distances, and whether
or not they are accepted, the words are a permutation of those before and the depth is the same. A
swap that is accepted exchanges the top word with the one at its distance below, leaves every other
position alone, and is undone by the same swap. Conversely, every order of the positions and every
permutation of the words comes about by swaps with distances below the depth, all accepted. -/
theorem swaps_rearrange_exactly (stack : Stack Sink) :
    (∀ distances : List Int,
      (run stack (distances.map .swap)).stack.items.Perm stack.items ∧
        (run stack (distances.map .swap)).stack.depth = stack.depth) ∧
    (∀ distance swapped, stack.swap distance = .ok swapped →
      let top := stack.depth - 1
      let other := top - distance.toNat
      0 ≤ distance ∧ distance < stack.depth ∧
      swapped.items[top]? = stack.items[other]? ∧ swapped.items[other]? = stack.items[top]? ∧
      (∀ position, position ≠ top → position ≠ other →
        swapped.items[position]? = stack.items[position]?) ∧
      swapped.swap distance = .ok stack) ∧
    (∀ order : Equiv.Perm (Fin stack.depth), ∃ distances : List (Fin stack.depth),
      let rearranged := run stack (distances.map fun distance => .swap distance.val)
      (∀ result ∈ rearranged.results, result = .ok .done) ∧
        Arranges order stack.items rearranged.stack.items) ∧
    (∀ words : List Word, words.Perm stack.items → ∃ distances : List (Fin stack.depth),
      let rearranged := run stack (distances.map fun distance => .swap distance.val)
      (∀ result ∈ rearranged.results, result = .ok .done) ∧ rearranged.stack.items = words) := by
  refine ⟨?_, ?_, exists_swaps_arranges stack, ?_⟩
  · intro distances
    have perm := run_swaps_perm stack distances
    exact ⟨perm, by rw [← length_items, perm.length_eq, length_items]⟩
  · intro distance swapped accepted top other
    obtain ⟨notNegative, near, items⟩ := of_swap_eq_ok accepted
    have inside : distance.toNat < stack.items.length := by
      rw [length_items]
      omega
    have shown := getElem?_exchangeLast inside
    rw [← items, length_items] at shown
    refine ⟨notNegative, near, ?_, ?_, ?_, swap_swap accepted⟩
    · rw [shown, if_pos rfl]
    · rw [shown, if_pos rfl]
      split
      · next same => exact congrArg (stack.items[·]?) same
      · rfl
    · intro position notTop notOther
      rw [shown, if_neg notTop, if_neg notOther]
  · intro words rearranged
    obtain ⟨order, arranged⟩ := exists_arranges rearranged (length_items stack)
    obtain ⟨distances, accepted, reached⟩ := exists_swaps_arranges stack order
    exact ⟨distances, accepted, reached.unique arranged⟩

def threeWords : Stack Nat :=
  ⟨⟨#[.ofUInt64 5, .ofUInt64 6, .ofUInt64 7], 3, Nat.le_refl 3⟩, .silent⟩

theorem threeWords_rearranged :
    (∃ swapped, threeWords.swap 2 = .ok swapped ∧ swapped.items[0]? = some (.ofUInt64 7) ∧
      swapped.items[1]? = some (.ofUInt64 6) ∧ swapped.swap 2 = .ok threeWords) ∧
    ∃ distances : List (Fin 3),
      (run threeWords (distances.map fun distance => .swap distance.val)).stack.items =
        [.ofUInt64 7, .ofUInt64 5, .ofUInt64 6] := by
  obtain ⟨_, exchanged, _, reached⟩ := swaps_rearrange_exactly threeWords
  obtain ⟨_, _, _, bottom, others, back⟩ := exchanged 2 _ rfl
  obtain ⟨distances, _, turned⟩ :=
    reached [.ofUInt64 7, .ofUInt64 5, .ofUInt64 6] (by decide +kernel)
  exact ⟨⟨_, rfl, bottom, others 1 (by decide) (by decide), back⟩, distances, turned⟩

end OperandStack.Stack
