import Mathlib.Algebra.Ring.Nat
import OperandStack.Sink

/-!
# What a meter shows

A meter counts in 64 bits. Its count is that of the pushes received as long as they number fewer
than 2^63, and wraps around after that; the greatest depth is exact for all depths that fit.
-/

set_option autoImplicit false

namespace OperandStack

theorem Counter.value_increment {counter : Counter} {count : Nat}
    (shown : counter.value = Int64.ofNat count) :
    counter.increment.value = Int64.ofNat (count + 1) := by
  rw [Int64.ofNat_add, ← shown]
  rfl

namespace PushMeter

variable {meter : PushMeter} {count peak : Nat}

/-- The meter of a number of pushes and of the greatest depth among them. -/
structure Shows (meter : PushMeter) (count peak : Nat) : Prop where
  pushes : meter.pushes.value = Int64.ofNat count
  peakDepth : meter.peakDepth.value = Int64.ofNat peak
  fits : peak < 2 ^ 63

theorem shows_new : new.Shows 0 0 :=
  ⟨rfl, rfl, by decide⟩

theorem Shows.receive (shown : meter.Shows count peak) {depth : Nat} (fits : depth < 2 ^ 63) :
    (meter.receive depth).Shows (count + 1) (max peak depth) := by
  refine ⟨Counter.value_increment shown.pushes, ?_, Nat.max_lt.mpr ⟨shown.fits, fits⟩⟩
  have order : Int64.ofNat depth ≤ meter.peakDepth.value ↔ depth ≤ peak := by
    rw [shown.peakDepth, Int64.le_iff_toInt_le, Int64.toInt_ofNat_of_lt fits,
      Int64.toInt_ofNat_of_lt shown.fits, Int.ofNat_le]
  rw [PushMeter.receive, Gauge.raise]
  by_cases shallow : depth ≤ peak
  · rw [if_pos (order.mpr shallow), Nat.max_eq_left shallow]
    exact shown.peakDepth
  · rw [if_neg fun low => shallow (order.mp low), Nat.max_eq_right (Nat.le_of_not_le shallow)]

theorem Shows.foldl_receive (shown : meter.Shows count peak) {depths : List Nat}
    (fit : ∀ depth ∈ depths, depth < 2 ^ 63) :
    (depths.foldl PushMeter.receive meter).Shows (count + depths.length)
      (depths.foldl max peak) := by
  induction depths generalizing meter count peak with
  | nil => exact shown
  | cons depth rest ih =>
      obtain ⟨fits, fitRest⟩ := List.forall_mem_cons.mp fit
      rw [List.length_cons, Nat.add_comm rest.length, ← Nat.add_assoc]
      exact ih (shown.receive fits) fitRest

theorem Shows.toInt_pushes (shown : meter.Shows count peak) :
    meter.pushes.value.toInt = Int.bmod count (2 ^ 64) := by
  rw [shown.pushes, Int64.toInt_ofNat']
  rfl

theorem Shows.toInt_peakDepth (shown : meter.Shows count peak) :
    meter.peakDepth.value.toInt = peak := by
  rw [shown.peakDepth, Int64.toInt_ofNat_of_lt shown.fits]

end PushMeter

end OperandStack
