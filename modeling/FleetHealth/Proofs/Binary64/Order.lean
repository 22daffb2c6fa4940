import FleetHealth.Proofs.Binary64.Whole

/-!
# Proofs — Binary64 — Order

Rounding keeps the order of counts of units.  The spacing of the format only grows, and by powers of two, so that of a smaller count divides that of a larger one.

* `roundUnits_mono`: a smaller count is not rounded to a larger number.
* `add_spacing_le`: what the format holds above one of its counts is at least one spacing above it.
* `max_lt`: what lies above the larger of two numbers lies above both.
-/

namespace FleetHealth

theorem divNearest_mono {a b : Nat} (den : Nat) (h : a ≤ b) :
    divNearest a den ≤ divNearest b den := by
  rcases Nat.lt_or_eq_of_le (Nat.div_le_div_right (c := den) h) with hlt | heq
  · calc divNearest a den ≤ a / den + 1 := divNearest_le a den
      _ ≤ b / den := hlt
      _ ≤ divNearest b den := le_divNearest b den
  · -- the quotient is the same, so the larger number has the larger rest
    have ha := Nat.div_add_mod a den
    have hb := Nat.div_add_mod b den
    have hr : a % den ≤ b % den := by
      rw [heq] at ha
      omega
    unfold divNearest
    dsimp only
    rw [heq]
    grind

theorem log2_mono {m n : Nat} (h : m ≤ n) : Nat.log2 m ≤ Nat.log2 n := by
  rcases Nat.eq_zero_or_pos m with rfl | hm
  · rw [Nat.log2_zero]
    exact Nat.zero_le _
  · exact (Nat.le_log2 (by omega)).mpr (Nat.le_trans (Nat.log2_self_le (by omega)) h)

theorem spacing_dvd_spacing {m n : Nat} (h : m ≤ n) : spacing m ∣ spacing n :=
  Nat.pow_dvd_pow 2 (Nat.sub_le_sub_right (log2_mono h) 52)

/-- **Rounding keeps order.** -/
theorem roundUnits_mono {m n : Nat} (h : m ≤ n) : roundUnits m 1 ≤ roundUnits n 1 := by
  rcases Nat.lt_or_eq_of_le (log2_mono h) with hlt | heq
  · -- a power of two stands between the counts
    have hn : n ≠ 0 := by
      rintro rfl
      rw [Nat.log2_zero] at hlt
      omega
    calc roundUnits m 1 ≤ twoPow (Nat.log2 m + 1) := roundUnits_le_twoPow Nat.lt_log2_self
      _ ≤ twoPow (Nat.log2 n) := twoPow_le hlt
      _ ≤ roundUnits n 1 := twoPow_le_roundUnits (Nat.log2_self_le hn)
  · have hs : spacing m = spacing n := by rw [spacing, heq, spacing]
    rw [roundUnits_one, roundUnits_one, hs]
    exact Nat.mul_le_mul_right _ (divNearest_mono _ h)

/-- Rounding does not pass what the format holds upwards. -/
theorem roundUnits_le_of_dvd {m n : Nat} (h : m ≤ n) (hn : spacing n ∣ n) : roundUnits m 1 ≤ n :=
  Nat.le_trans (roundUnits_mono h) (Nat.le_of_eq (roundUnits_of_dvd hn))

/-- Rounding does not pass a power of two. -/
theorem roundUnits_le_of_le {n k : Nat} (h : n ≤ twoPow k) : roundUnits n 1 ≤ twoPow k := by
  have hone := spacing_mul_dvd (c := 1) (by decide) k
  rw [Nat.one_mul] at hone
  exact roundUnits_le_of_dvd h hone

/-- Above a count that is a multiple of its spacing, the next such count is a spacing away. -/
theorem add_spacing_le {m n : Nat} (hm : spacing m ∣ m) (hn : spacing n ∣ n) (h : m < n) :
    m + spacing m ≤ n := by
  have hdvd : spacing m ∣ n - m :=
    Nat.dvd_sub (Nat.dvd_trans (spacing_dvd_spacing (Nat.le_of_lt h)) hn) hm
  have hle := Nat.le_of_dvd (by omega) hdvd
  omega

/-- Rounding depends on the ratio alone. -/
theorem roundUnits_mul_right (num den : Nat) {k : Nat} (hk : 0 < k) :
    roundUnits (num * k) (den * k) = roundUnits num den := by
  unfold roundUnits
  dsimp only
  rw [Nat.mul_div_mul_right num den hk, Nat.mul_right_comm, divNearest_mul_right _ _ hk]

/-! ### The order of numbers -/

namespace Binary64

theorem isNaN_ofRatio (negative : Bool) (num den : Nat) : (ofRatio negative num den).isNaN = false := by
  unfold ofRatio ofUnits
  split <;> rfl

theorem isNaN_ofSignedRatio (num : Int) (den : Nat) : (ofSignedRatio num den).isNaN = false :=
  isNaN_ofRatio _ _ _

theorem isNaN_ofNat (n : Nat) : (ofNat n).isNaN = false := isNaN_ofSignedRatio _ _

theorem lt_asymm {x y : Binary64} (h : x.lt y = true) : y.lt x = false := by
  unfold lt at h ⊢
  cases x <;> cases y <;> simp_all
  omega

/-- A number lies above the lower or below the upper of two. -/
theorem lt_or_lt {x y z : Binary64} (h : x.lt y = true) (hz : z.isNaN = false) :
    x.lt z = true ∨ z.lt y = true := by
  cases x <;> cases y <;> cases z <;> simp_all [lt, isNaN]
  omega

theorem lt_of_lt_of_le {x y z : Binary64} (hxy : x.lt y = true) (hyz : y.le z = true) :
    x.lt z = true := by
  simp only [le, Bool.and_eq_true, Bool.not_eq_true'] at hyz
  rcases lt_or_lt hxy hyz.1.2 with h | h
  · exact h
  · rw [hyz.2] at h
    cases h

/-- What lies above the larger of two values lies above both. -/
theorem max_lt {x y : Binary64} (hx : x.isNaN = false) (hy : y.isNaN = false) (z : Binary64) :
    (x.max y).lt z = (x.lt z && y.lt z) := by
  unfold max
  cases hxy : x.lt y with
  | true =>
      rw [if_pos rfl]
      cases hyz : y.lt z with
      | false => rw [Bool.and_false]
      | true =>
          rcases lt_or_lt hyz hx with h | h
          · rw [lt_asymm hxy] at h
            cases h
          · rw [h, Bool.and_self]
  | false =>
      rw [if_neg Bool.false_ne_true]
      cases hxz : x.lt z with
      | false => rw [Bool.false_and]
      | true =>
          rcases lt_or_lt hxz hy with h | h
          · rw [hxy] at h
            cases h
          · rw [h, Bool.and_self]

end Binary64
end FleetHealth
