import FleetHealth.Job.Runtime
import FleetHealth.Proofs.Binary64.Sum

/-!
# Proofs — Job — Runtime

When a running sync is unusually long.  Two things are known of every window of runtimes that are floats.

* `isUnusuallyLong_of_within`: runtimes that are far from the end of the range have a mean, so whether a sync is unusually long is always settled.
* `isUnusuallyLongOf_eq`: values that are a number and a list of floats are judged as that number and those floats are, faults and all.
-/

namespace FleetHealth.Runtime

/-- What is beyond the limit is beyond twice the mean and beyond a quarter of an hour. -/
theorem limitFrom_lt {sum : Binary64} (h : sum.isNaN = false) (x : Binary64) :
    (limitFrom sum).lt x =
      (((Binary64.ofNat 2).mul (sum.divNat 5)).lt x && (Binary64.ofNat 900).lt x) :=
  Binary64.max_lt (Binary64.isNaN_two_mul (Binary64.isNaN_divNat h 5)) (Binary64.isNaN_ofNat 900) x

/-- **Whether a sync is unusually long is always settled**, when its recent runtimes are finite and far
from the end of the range. -/
theorem isUnusuallyLong_of_within {recent : List Binary64}
    (h : ∀ x ∈ recent, x.isFinite = true ∧ Binary64.Within 2072 x.signedUnits) (elapsed : Number) :
    ∃ b, isUnusuallyLong elapsed recent = .ok b := by
  unfold isUnusuallyLong
  split
  case isTrue => exact ⟨false, rfl⟩
  case isFalse =>
    have hlen : (recent.take windowSize).length ≤ 5 := List.length_take_le _ _
    have hsquare := Nat.mul_le_mul hlen hlen
    have hwindow : ∀ x ∈ recent.take windowSize,
        x.isFinite = true ∧ Binary64.Within 2072 x.signedUnits :=
      fun x hx => h x (List.mem_of_mem_take hx)
    obtain ⟨s, hs⟩ := Binary64.sum_of_within hwindow (by omega)
    refine ⟨(Number.float (limitFrom s)).lt elapsed, ?_⟩
    rw [threshold, total, hs]
    rfl

/-! ### Values of any form -/

/-- Floats that are read one by one are added up as floats. -/
theorem foldlM_stepOf (xs : List Binary64) (r : Binary64.Running) :
    (xs.map Datum.float).foldlM stepOf r =
      (xs.foldlM Binary64.Running.step r).mapError sumFault := by
  induction xs generalizing r with
  | nil => rfl
  | cons x xs ih =>
      have hstep : stepOf r (.float x) = (r.step x).mapError sumFault := rfl
      rw [List.map_cons, List.foldlM_cons, List.foldlM_cons, hstep]
      cases r.step x with
      | error e => rfl
      | ok r' => exact ih r'

theorem totalOf_map_float (xs : List Binary64) : totalOf (xs.map .float) = total xs := by
  unfold totalOf total Binary64.sum
  rw [foldlM_stepOf]
  cases xs.foldlM Binary64.Running.step {} with
  | error e => rfl
  | ok r => rfl

theorem exceeds_number (limit : Binary64) (n : Number) :
    exceeds limit (.number n) = .ok ((Number.float limit).lt n) := by
  cases n <;> rfl

/-- **A number and a list of floats** are judged alike, whether they come as such or as values of any
form. -/
theorem isUnusuallyLongOf_eq (elapsed : Number) (recent : List Binary64) :
    isUnusuallyLongOf (.number elapsed) (.list (recent.map .float)) =
      isUnusuallyLong elapsed recent := by
  have hlength : (Datum.list (recent.map .float)).length = .ok recent.length :=
    congrArg Except.ok (List.length_map _)
  have hwindow : windowOf (.list (recent.map .float)) =
      .ok ((recent.take windowSize).map .float) :=
    congrArg Except.ok List.map_take.symm
  unfold isUnusuallyLongOf isUnusuallyLong
  rw [hlength, hwindow]
  dsimp only [bind, Except.bind]
  split
  · rfl
  · rw [totalOf_map_float, threshold]
    cases total (recent.take windowSize) with
    | error e => rfl
    | ok t => exact exceeds_number (limitFrom t) elapsed

end FleetHealth.Runtime
