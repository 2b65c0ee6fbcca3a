import Mathlib.Algebra.BigOperators.Group.Multiset.Basic
import Mathlib.Data.List.Infix
import Mathlib.Order.Bounds.Basic
import OperandStack.Metrics

/-!
# Sums and maxima of measurements

A counter shows the sum of what it was told, and a gauge that is only raised shows the greatest of
what it was told; neither depends on the order. Both count in 64 bits. The sum of a counter is exact
below 2^63 and wraps around to a negative number there, and that is the only way in which a counter
ever goes down.
-/

set_option autoImplicit false

namespace OperandStack.MetricChange

/-! ## Exact totals -/

def credit : MetricChange → Int
  | .counterIncrement => 1
  | .counterAdd amount => if 0 < amount then amount.toInt else 0
  | .gaugeSet _ | .gaugeRaise _ | .gaugeIncrement | .gaugeDecrement => 0

def positiveAmount? : MetricChange → Option Int
  | .counterAdd amount => if 0 < amount then some amount.toInt else none
  | .counterIncrement | .gaugeSet _ | .gaugeRaise _ | .gaugeIncrement | .gaugeDecrement => none

/-- What several changes ask of a counter: the number of increments, and the sum of the positive
amounts. -/
def total (changes : Multiset MetricChange) : Int :=
  changes.count .counterIncrement + (changes.filterMap positiveAmount?).sum

@[simp]
theorem total_zero : total 0 = 0 := rfl

private theorem total_cons (change : MetricChange) (rest : Multiset MetricChange) :
    total (change ::ₘ rest) = change.credit + total rest := by
  cases change with
  | counterIncrement =>
      rw [total, Multiset.count_cons_self, Multiset.filterMap_cons_none _ _ rfl]
      simp only [total, credit, Int.natCast_add]
      omega
  | counterAdd amount =>
      rw [total, Multiset.count_cons_of_ne (by simp)]
      by_cases positive : 0 < amount
      · have some : (counterAdd amount).positiveAmount? = some amount.toInt := if_pos positive
        rw [Multiset.filterMap_cons_some _ _ _ some, Multiset.sum_cons]
        simp only [total, credit, positive, ↓reduceIte]
        omega
      · have none : (counterAdd amount).positiveAmount? = none := if_neg positive
        rw [Multiset.filterMap_cons_none _ _ none]
        simp only [total, credit, positive, ↓reduceIte, zero_add]
  | gaugeSet | gaugeRaise | gaugeIncrement | gaugeDecrement =>
      rw [total, Multiset.count_cons_of_ne (by simp), Multiset.filterMap_cons_none _ _ rfl]
      simp only [total, credit, zero_add]

private theorem credit_range (change : MetricChange) :
    0 ≤ change.credit ∧ change.credit < 2 ^ 63 := by
  cases change with
  | counterIncrement => decide
  | counterAdd amount =>
      have upper := amount.toInt_lt
      rw [credit]
      split
      · next positive =>
          rw [Int64.lt_iff_toInt_lt, Int64.toInt_zero] at positive
          omega
      · decide
  | gaugeSet | gaugeRaise | gaugeIncrement | gaugeDecrement =>
      rw [credit]
      decide

private theorem total_nonneg (changes : Multiset MetricChange) : 0 ≤ total changes := by
  induction changes using Multiset.induction_on with
  | empty => exact Int.le_refl 0
  | cons change rest ih =>
      have range := change.credit_range
      rw [total_cons]
      omega

private theorem total_le_of_prefix {made changes : List MetricChange} (first : made <+: changes) :
    total made ≤ total changes := by
  obtain ⟨rest, rfl⟩ := first
  induction made with
  | nil => exact total_nonneg _
  | cons change made ih =>
      rw [List.cons_append, ← Multiset.cons_coe, ← Multiset.cons_coe, total_cons, total_cons]
      omega

/-! ## One change of a counter -/

theorem value_apply (change : MetricChange) (counter : Counter) (gauge : Gauge) :
    (change.apply counter gauge).1.value.toInt =
      Int.bmod (counter.value.toInt + change.credit) (2 ^ 64) := by
  cases change with
  | counterIncrement => exact Int64.toInt_add _ _
  | counterAdd amount =>
      by_cases positive : 0 < amount
      · simp only [apply, Counter.add, credit, positive, ↓reduceIte, Int64.toInt_add]
      · simp only [apply, Counter.add, credit, positive, ↓reduceIte, add_zero]
        exact counter.value.toInt_bmod.symm
  | gaugeSet | gaugeRaise | gaugeIncrement | gaugeDecrement =>
      rw [credit, add_zero]
      exact counter.value.toInt_bmod.symm

private theorem value_apply_of_lt {change : MetricChange} {counter : Counter} (gauge : Gauge)
    (fits : counter.value.toInt + change.credit < 2 ^ 63) :
    (change.apply counter gauge).1.value.toInt = counter.value.toInt + change.credit := by
  have lower := counter.value.le_toInt
  have range := change.credit_range
  rw [value_apply]
  exact Int.bmod_eq_of_le (by omega) (by omega)

private theorem value_apply_of_le {change : MetricChange} {counter : Counter} (gauge : Gauge)
    (overflows : 2 ^ 63 ≤ counter.value.toInt + change.credit) :
    (change.apply counter gauge).1.value.toInt =
      counter.value.toInt + change.credit - 2 ^ 64 := by
  have upper := counter.value.toInt_lt
  have range := change.credit_range
  have wrapped := Int.sub_bmod_right (counter.value.toInt + change.credit) (2 ^ 64)
  rw [value_apply, ← wrapped]
  exact Int.bmod_eq_of_le (by omega) (by omega)

private theorem value_apply_lt_iff (change : MetricChange) (counter : Counter) (gauge : Gauge) :
    (change.apply counter gauge).1.value < counter.value ↔
      2 ^ 63 ≤ counter.value.toInt + change.credit := by
  have range := change.credit_range
  rw [Int64.lt_iff_toInt_lt]
  by_cases fits : counter.value.toInt + change.credit < 2 ^ 63
  · rw [value_apply_of_lt gauge fits]
    omega
  · rw [value_apply_of_le gauge (by omega)]
    omega

/-! ## Runs -/

def after (counter : Counter) (gauge : Gauge) : List MetricChange → Counter × Gauge
  | [] => (counter, gauge)
  | change :: rest =>
      after (change.apply counter gauge).1 (change.apply counter gauge).2 rest

variable (counter : Counter) (gauge : Gauge)

theorem after_append (front back : List MetricChange) :
    after counter gauge (front ++ back) =
      after (after counter gauge front).1 (after counter gauge front).2 back := by
  induction front generalizing counter gauge with
  | nil => rfl
  | cons change rest ih => exact ih _ _

private theorem history_eq_map_after (changes : List MetricChange) :
    history counter gauge changes = changes.inits.tail.map (after counter gauge) := by
  induction changes generalizing counter gauge with
  | nil => rfl
  | cons change rest ih =>
      have whole : rest.inits = [] :: rest.inits.tail := by cases rest <;> rfl
      rw [history, ih, List.inits_cons, List.tail_cons, List.map_map, whole, List.map_cons]
      rfl

theorem value_after (changes : List MetricChange) :
    (after counter gauge changes).1.value.toInt =
      Int.bmod (counter.value.toInt + total changes) (2 ^ 64) := by
  induction changes generalizing counter gauge with
  | nil =>
      rw [Multiset.coe_nil, total_zero, add_zero]
      exact counter.value.toInt_bmod.symm
  | cons change rest ih =>
      rw [after, ih, value_apply, Int.bmod_add_bmod, ← Multiset.cons_coe, total_cons, add_assoc]

/-- From a value that is not negative, the values grow exactly as long as the sum fits. -/
theorem grows_iff (changes : List MetricChange) (notNegative : 0 ≤ counter.value) :
    let values := counter.value :: (history counter gauge changes).map fun state => state.1.value
    (values.IsChain (· ≤ ·) ∧ ∀ value ∈ values, 0 ≤ value) ↔
      counter.value.toInt + total changes < 2 ^ 63 := by
  induction changes generalizing counter gauge with
  | nil =>
      have upper := counter.value.toInt_lt
      rw [Multiset.coe_nil, total_zero, add_zero]
      simpa [history, notNegative] using upper
  | cons change rest ih =>
      have range := change.credit_range
      have more := total_nonneg rest
      dsimp only [history]
      rw [List.map_cons, List.isChain_cons_cons, List.forall_mem_cons, ← Multiset.cons_coe,
        total_cons]
      by_cases fits : counter.value.toInt + change.credit < 2 ^ 63
      · have shown := value_apply_of_lt gauge fits
        have grown : counter.value ≤ (change.apply counter gauge).1.value := by
          rw [Int64.le_iff_toInt_le]
          omega
        have later := ih (change.apply counter gauge).1 (change.apply counter gauge).2
          (Int64.le_trans notNegative grown)
        rw [shown] at later
        constructor
        · intro ⟨⟨_, chain⟩, _, notNegativeRest⟩
          have fitsRest := later.mp ⟨chain, notNegativeRest⟩
          omega
        · intro fitsRest
          obtain ⟨chain, notNegativeRest⟩ := later.mpr (by omega)
          exact ⟨⟨grown, chain⟩, notNegative, notNegativeRest⟩
      · have falls := (change.value_apply_lt_iff counter gauge).mpr (by omega)
        constructor
        · intro ⟨⟨grown, _⟩, _⟩
          exact absurd falls (Int64.not_lt.mpr grown)
        · intro fitsRest
          omega

/-- A new counter shows growing values, none of them negative, exactly as long as what it was told
in all is below 2^63. A change lowers a counter exactly if the exact sum leaves the range: nothing
but an overflow makes a counter go down. -/
theorem counter_grows_until_overflow (name : Bytes) (changes : List MetricChange) :
    (let values := 0 :: (history (.new name) gauge changes).map fun state => state.1.value
     (values.IsChain (· ≤ ·) ∧ ∀ value ∈ values, 0 ≤ value) ↔ total changes < 2 ^ 63) ∧
    ∀ change : MetricChange,
      (change.apply counter gauge).1.value < counter.value ↔
        2 ^ 63 ≤ counter.value.toInt + change.credit := by
  have grows := grows_iff (.new name) gauge changes (Int64.le_refl 0)
  have start : (Counter.new name).value.toInt = 0 := rfl
  rw [start, zero_add] at grows
  exact ⟨grows, fun change => change.value_apply_lt_iff counter gauge⟩

/-- Two accepted calls, and the second one takes a counter from the greatest number to the least. -/
theorem counter_wraps_at_limit :
    (history (.new []) (.new []) [.counterAdd 9223372036854775807, .counterIncrement]).map
        (fun state => state.1.value) = [9223372036854775807, -9223372036854775808] ∧
      (-9223372036854775808 : Int64) < 9223372036854775807 ∧
      (-9223372036854775808 : Int64) < 0 := by
  decide

/-! ## Gauges -/

/-- Where a change takes a gauge that is not raised, without a limit on the numbers. -/
def shift (level : Int) : MetricChange → Int
  | .gaugeSet value => value.toInt
  | .gaugeIncrement => level + 1
  | .gaugeDecrement => level - 1
  | .counterIncrement | .counterAdd _ | .gaugeRaise _ => level

private theorem gauge_apply {level : Int} (shown : gauge.value.toInt = Int.bmod level (2 ^ 64))
    {change : MetricChange} (noRaise : ∀ value, change ≠ .gaugeRaise value) :
    (change.apply counter gauge).2.value.toInt = Int.bmod (change.shift level) (2 ^ 64) := by
  cases change with
  | counterIncrement | counterAdd => exact shown
  | gaugeSet value => exact value.toInt_bmod.symm
  | gaugeRaise value => exact absurd rfl (noRaise value)
  | gaugeIncrement =>
      rw [shift, ← Int.bmod_add_bmod, ← shown]
      exact Int64.toInt_add _ _
  | gaugeDecrement =>
      rw [shift, ← Int.bmod_sub_bmod, ← shown]
      exact Int64.toInt_sub _ _

private theorem gauge_after {level : Int} (shown : gauge.value.toInt = Int.bmod level (2 ^ 64))
    {changes : List MetricChange} (noRaise : ∀ value, .gaugeRaise value ∉ changes) :
    (after counter gauge changes).2.value.toInt =
      Int.bmod (changes.foldl shift level) (2 ^ 64) := by
  induction changes generalizing counter gauge level with
  | nil => exact shown
  | cons change rest ih =>
      apply ih
      · apply gauge_apply counter gauge shown
        intro value same
        exact noRaise value (same ▸ .head rest)
      · intro value member
        exact noRaise value (.tail change member)

private theorem toInt_raise (value : Int64) :
    (gauge.raise value).value.toInt = max gauge.value.toInt value.toInt := by
  unfold Gauge.raise
  split
  · next low =>
      rw [Int64.le_iff_toInt_le] at low
      rw [max_eq_left low]
  · next high =>
      rw [Int64.le_iff_toInt_le, not_le] at high
      exact (max_eq_right high.le).symm

theorem isGreatest_raises (order : List Int64) :
    IsGreatest (insert gauge.value.toInt {level | ∃ value ∈ order, level = value.toInt})
      (after counter gauge (order.map .gaugeRaise)).2.value.toInt := by
  induction order generalizing gauge with
  | nil => simp [after]
  | cons value rest ih =>
      obtain ⟨member, bound⟩ := ih (gauge.raise value)
      rw [toInt_raise] at member bound
      constructor
      · rcases member with top | ⟨other, later, top⟩
        · rcases max_choice gauge.value.toInt value.toInt with old | new
          · exact .inl (top.trans old)
          · exact .inr ⟨value, .head rest, top.trans new⟩
        · exact .inr ⟨other, .tail value later, top⟩
      · have first := bound (.inl rfl)
        rintro level (rfl | ⟨other, told, rfl⟩)
        · exact (le_max_left _ _).trans first
        · rcases List.mem_cons.mp told with rfl | later
          · exact (le_max_right _ _).trans first
          · exact bound (.inr ⟨other, later, rfl⟩)

/-- Measurements do not depend on the order in which they come. However the changes are ordered, a
new counter ends at the number of increments and the sum of the positive amounts, in 64 bits, and if
that fits then every value on the way is the exact sum so far. However raises are ordered and
repeated, a gauge ends at the greatest of where it stood and what it was raised to, and changes of
other kinds before them only decide where it stood, in 64 bits. -/
theorem aggregation_ignores_order (name : Bytes) :
    (∀ (changes : Multiset MetricChange) (order : List MetricChange), ↑order = changes →
      (after (.new name) gauge order).1.value.toInt = Int.bmod (total changes) (2 ^ 64) ∧
      (total changes < 2 ^ 63 →
        (history (.new name) gauge order).map (fun state => state.1.value.toInt) =
          order.inits.tail.map fun made : List MetricChange => total made)) ∧
    (∀ (before : List MetricChange) (values : Multiset Int64) (order : List Int64),
      (∀ value, .gaugeRaise value ∉ before) → (∀ value, value ∈ order ↔ value ∈ values) →
      IsGreatest
        (insert (Int.bmod (before.foldl shift gauge.value.toInt) (2 ^ 64))
          {level | ∃ value ∈ values, level = value.toInt})
        (after counter gauge (before ++ order.map .gaugeRaise)).2.value.toInt) := by
  constructor
  · rintro _ order rfl
    have shown (made : List MetricChange) :
        (after (.new name) gauge made).1.value.toInt = Int.bmod (total made) (2 ^ 64) := by
      have sum := value_after (.new name) gauge made
      have start : (Counter.new name).value.toInt = 0 := rfl
      rwa [start, zero_add] at sum
    refine ⟨shown order, fun fits => ?_⟩
    rw [history_eq_map_after, List.map_map]
    apply List.map_congr_left
    intro made listed
    have first : made <+: order := (List.mem_inits _ _).mp (List.mem_of_mem_tail listed)
    have low := total_nonneg made
    have high := total_le_of_prefix first
    exact (shown made).trans (Int.bmod_eq_of_le (by omega) (by omega))
  · intro before values order noRaise same
    have stood := gauge_after counter gauge gauge.value.toInt_bmod.symm noRaise
    have greatest := isGreatest_raises (after counter gauge before).1 (after counter gauge before).2
      order
    rw [after_append, ← stood]
    simpa only [same] using greatest

theorem wrapped_measurements_ignore_order :
    let order : List MetricChange :=
      [.counterAdd (-4), .counterIncrement, .counterAdd 9223372036854775807]
    let wrapped : List MetricChange := [.gaugeSet 9223372036854775807, .gaugeIncrement]
    let told : Multiset Int64 := ↑([3, -7] : List Int64)
    (after (.new []) (.new []) order).1.value.toInt = -2 ^ 63 ∧
      (after (.new []) (.new []) order.reverse).1.value.toInt = -2 ^ 63 ∧
      IsGreatest (insert (-2 ^ 63) {level | ∃ value ∈ told, level = value.toInt})
        (after (.new []) (.new []) (wrapped ++ [-7, 3, -7].map .gaugeRaise)).2.value.toInt := by
  intro order wrapped told
  obtain ⟨sums, greatest⟩ := aggregation_ignores_order (.new []) (.new []) []
  have total : Int.bmod (total (order : Multiset MetricChange)) (2 ^ 64) = -2 ^ 63 := by
    decide +kernel
  have reversed : (order.reverse : Multiset MetricChange) = order := Multiset.coe_reverse order
  refine ⟨(sums _ order rfl).1.trans total, (sums _ order.reverse reversed).1.trans total, ?_⟩
  have noRaise : ∀ value, .gaugeRaise value ∉ wrapped := by simp [wrapped]
  have stood : Int.bmod (wrapped.foldl shift (Gauge.new []).value.toInt) (2 ^ 64) = -2 ^ 63 := by
    decide +kernel
  rw [← stood]
  have same : ∀ value, value ∈ [-7, 3, -7] ↔ value ∈ told := by
    intro value
    simp only [told, Multiset.mem_coe, List.mem_cons, List.not_mem_nil, or_false]
    grind
  exact greatest wrapped told [-7, 3, -7] noRaise same

end OperandStack.MetricChange
