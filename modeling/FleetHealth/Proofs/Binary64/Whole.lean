import Mathlib.Algebra.Group.Nat.Defs
import FleetHealth.Binary64.Basic

/-!
# Proofs — Binary64 — Whole

Whole numbers in the format.  Rounding takes a count of units to a multiple of its own spacing, so only its size can keep it out of the format (`representable_roundUnits`).

* `isFinite_ofNat`: a natural number has a finite nearest number exactly up to `largestWhole`, the last one below the midpoint between the largest number of the format and 2¹⁰²⁴.
* `ofNat_of_le`: up to 2⁵³ the nearest number is the number itself.
-/

namespace FleetHealth

theorem twoPow_eq (n : Nat) : twoPow n = 2 ^ n := rfl

theorem twoPow_add {k : Nat} (m n : Nat) (h : m + n = k) : twoPow k = twoPow m * twoPow n := by
  rw [← h]
  exact Nat.pow_add 2 m n

theorem twoPow_le {m n : Nat} (h : m ≤ n) : twoPow m ≤ twoPow n :=
  Nat.pow_le_pow_right (by decide) h

theorem twoPow_lt {m n : Nat} (h : m < n) : twoPow m < twoPow n :=
  Nat.pow_lt_pow_right (by decide) h

theorem log2_eq_of_twoPow {n k : Nat} (h : twoPow k ≤ n) (h' : n < twoPow (k + 1)) :
    Nat.log2 n = k :=
  (Nat.log2_eq_iff (Nat.ne_of_gt (Nat.lt_of_lt_of_le (twoPow_pos k) h))).mpr ⟨h, h'⟩

/-! ### The nearest whole number -/

theorem le_divNearest (num den : Nat) : num / den ≤ divNearest num den := by
  unfold divNearest
  dsimp only
  split
  · exact Nat.le_refl _
  · split <;> omega

theorem divNearest_le (num den : Nat) : divNearest num den ≤ num / den + 1 := by
  unfold divNearest
  dsimp only
  split
  · omega
  · split <;> omega

theorem divNearest_of_dvd {num den : Nat} (hd : 0 < den) (h : den ∣ num) :
    divNearest num den = num / den := by
  have hr : 2 * (num % den) < den := by rw [Nat.mod_eq_zero_of_dvd h]; exact hd
  unfold divNearest
  dsimp only
  rw [if_pos hr]

/-- A ratio below an even number goes to it exactly from the midpoint on. -/
theorem divNearest_lt_iff {num half c : Nat} (hc : c % 2 = 0) (h : num < c * (2 * half)) :
    divNearest num (2 * half) < c ↔ num + half < c * (2 * half) := by
  have hpos : 0 < half := by
    rcases Nat.eq_zero_or_pos half with rfl | hp
    · exact absurd h (Nat.not_lt_zero num)
    · exact hp
  have hq : num / (2 * half) < c := (Nat.div_lt_iff_lt_mul (by omega)).mpr h
  have hsplit := Nat.div_add_mod' num (2 * half)
  have hr : num % (2 * half) < 2 * half := Nat.mod_lt _ (by omega)
  by_cases hlast : num / (2 * half) + 1 = c
  · -- the quotient is odd, so a tie goes up
    have htop : c * (2 * half) = num / (2 * half) * (2 * half) + 2 * half := by
      rw [← hlast, Nat.add_mul, Nat.one_mul]
    have hodd : num / (2 * half) % 2 = 1 := by omega
    unfold divNearest
    dsimp only
    rw [hodd]
    split
    · omega
    · split <;> omega
  · have hle : (num / (2 * half) + 2) * (2 * half) ≤ c * (2 * half) :=
      Nat.mul_le_mul_right _ (by omega)
    rw [Nat.add_mul] at hle
    have hn := divNearest_le num (2 * half)
    omega

/-- The nearest whole number depends on the ratio alone. -/
theorem divNearest_mul_right (num den : Nat) {k : Nat} (hk : 0 < k) :
    divNearest (num * k) (den * k) = divNearest num den := by
  have hl : ∀ a b : Nat, 2 * (a * k) < b * k ↔ 2 * a < b := fun a b => by
    rw [← Nat.mul_assoc]
    exact Nat.mul_lt_mul_right hk
  have hg : ∀ a b : Nat, b * k < 2 * (a * k) ↔ b < 2 * a := fun a b => by
    rw [← Nat.mul_assoc]
    exact Nat.mul_lt_mul_right hk
  unfold divNearest
  dsimp only
  rw [Nat.mul_div_mul_right num den hk, Nat.mul_mod_mul_right]
  simp only [hl, hg]

/-! ### Spacing -/

theorem spacing_pos (n : Nat) : 0 < spacing n := twoPow_pos _

/-- A count has at most fifty-three leading bits above its spacing. -/
theorem div_spacing_lt (n : Nat) : n / spacing n < 2 ^ 53 := by
  rw [Nat.div_lt_iff_lt_mul (spacing_pos n), spacing, twoPow_eq, ← Nat.pow_add]
  have h : n < 2 ^ (Nat.log2 n + 1) := Nat.lt_log2_self
  exact Nat.lt_of_lt_of_le h (Nat.pow_le_pow_right (by decide) (by omega))

/-- A count of fifty-three bits or more has fifty-three above its spacing. -/
theorem le_div_spacing {n : Nat} (h : 52 ≤ Nat.log2 n) : 2 ^ 52 ≤ n / spacing n := by
  have hn : n ≠ 0 := by
    rintro rfl
    rw [Nat.log2_zero] at h
    omega
  rw [Nat.le_div_iff_mul_le (spacing_pos n), spacing, twoPow_eq, ← Nat.pow_add,
    Nat.add_sub_cancel' h]
  exact Nat.log2_self_le hn

/-- A multiple of a power of two by a factor of fifty-three bits is a multiple of its spacing. -/
theorem spacing_mul_dvd {c : Nat} (h : c ≤ 2 ^ 53) (k : Nat) :
    spacing (c * twoPow k) ∣ c * twoPow k := by
  by_cases hc : c = 0
  · rw [hc, Nat.zero_mul]
    exact Nat.dvd_zero _
  have hne : c * twoPow k ≠ 0 := Nat.mul_ne_zero hc (Nat.ne_of_gt (twoPow_pos k))
  rcases Nat.lt_or_eq_of_le h with h | rfl
  · have hlog : Nat.log2 (c * twoPow k) < 53 + k := by
      rw [Nat.log2_lt hne, Nat.pow_add]
      exact Nat.mul_lt_mul_of_pos_right h (twoPow_pos k)
    exact Nat.dvd_mul_left_of_dvd (Nat.pow_dvd_pow 2 (by omega)) c
  · rw [spacing, twoPow_eq, twoPow_eq, ← Nat.pow_add, Nat.log2_two_pow]
    exact Nat.pow_dvd_pow 2 (by omega)

/-! ### Rounding -/

/-- What rounding gives is a multiple of its own spacing. -/
theorem spacing_dvd_roundUnits (num den : Nat) :
    spacing (roundUnits num den) ∣ roundUnits num den := by
  have hq : num / (den * spacing (num / den)) < 2 ^ 53 := by
    rw [← Nat.div_div_eq_div_mul]
    exact div_spacing_lt _
  have hc := divNearest_le num (den * spacing (num / den))
  exact spacing_mul_dvd (by omega) _

theorem representable_roundUnits {num den : Nat} (h : roundUnits num den < unitLimit) :
    Representable (roundUnits num den) :=
  ⟨Nat.mod_eq_zero_of_dvd (spacing_dvd_roundUnits num den), h⟩

/-- Rounding keeps a multiple of its spacing. -/
theorem roundUnits_of_dvd {n : Nat} (h : spacing n ∣ n) : roundUnits n 1 = n := by
  unfold roundUnits
  dsimp only
  rw [Nat.div_one, Nat.one_mul, divNearest_of_dvd (spacing_pos n) h]
  exact Nat.div_mul_cancel h

theorem roundUnits_one (n : Nat) : roundUnits n 1 = divNearest n (spacing n) * spacing n := by
  unfold roundUnits
  dsimp only
  rw [Nat.div_one, Nat.one_mul]

theorem roundUnits_of_log2_lt {n : Nat} (h : Nat.log2 n < 52) : roundUnits n 1 = n := by
  refine roundUnits_of_dvd ?_
  rw [spacing, Nat.sub_eq_zero_of_le (by omega)]
  exact Nat.one_dvd n

/-- Rounding does not pass a power of two upwards. -/
theorem roundUnits_le_twoPow {n k : Nat} (h : n < twoPow k) : roundUnits n 1 ≤ twoPow k := by
  by_cases hs : Nat.log2 n < 52
  · rw [roundUnits_of_log2_lt hs]
    exact Nat.le_of_lt h
  · have hn : n ≠ 0 := by
      rintro rfl
      rw [Nat.log2_zero] at hs
      omega
    have hk : Nat.log2 n < k := (Nat.log2_lt hn).mpr h
    have hc := divNearest_le n (spacing n)
    have hq := div_spacing_lt n
    calc roundUnits n 1 = divNearest n (spacing n) * spacing n := roundUnits_one n
      _ ≤ 2 ^ 53 * spacing n := Nat.mul_le_mul_right _ (by omega)
      _ = 2 ^ (53 + (Nat.log2 n - 52)) := (Nat.pow_add 2 _ _).symm
      _ ≤ twoPow k := twoPow_le (by omega)

/-- Rounding does not pass a power of two downwards. -/
theorem twoPow_le_roundUnits {n k : Nat} (h : twoPow k ≤ n) : twoPow k ≤ roundUnits n 1 := by
  by_cases hs : Nat.log2 n < 52
  · rw [roundUnits_of_log2_lt hs]
    exact h
  · have hn : n ≠ 0 := by
      rintro rfl
      rw [Nat.log2_zero] at hs
      omega
    have hk : k ≤ Nat.log2 n := (Nat.le_log2 hn).mpr h
    have hc := le_divNearest n (spacing n)
    have hq := le_div_spacing (n := n) (by omega)
    calc twoPow k ≤ twoPow (52 + (Nat.log2 n - 52)) := twoPow_le (by omega)
      _ = 2 ^ 52 * spacing n := Nat.pow_add 2 _ _
      _ ≤ divNearest n (spacing n) * spacing n := Nat.mul_le_mul_right _ (by omega)
      _ = roundUnits n 1 := (roundUnits_one n).symm

namespace Binary64

theorem ofUnits_lt_zero (n : Nat) : (ofUnits false n).lt zero = false := by
  unfold ofUnits
  split
  · show decide ((n : Int) < 0) = false
    exact decide_eq_false (by omega)
  · rfl

theorem isFinite_ofUnits (s : Bool) (n : Nat) :
    (ofUnits s n).isFinite = true ↔ Representable n := by
  unfold ofUnits
  split
  · next h => exact ⟨fun _ => h, fun _ => rfl⟩
  · next h => exact ⟨fun hf => (Bool.false_ne_true hf).elim, fun hr => absurd hr h⟩

/-! ### Whole numbers -/

theorem ofNat_eq (n : Nat) : ofNat n = ofUnits false (roundUnits (n * unitsPerOne) 1) := by
  have hn : (unitsPerOne : Int) * n = ((n * unitsPerOne : Nat) : Int) := by
    rw [Int.natCast_mul, Int.mul_comm]
  have hs : ¬ ((n * unitsPerOne : Nat) : Int) < 0 := Int.not_lt.mpr (Int.natCast_nonneg _)
  rw [ofNat, ofInt, hn, ofSignedRatio, decide_eq_false hs, Int.natAbs_natCast, ofRatio]

/-- The largest natural number whose nearest number is finite. -/
def largestWhole : Nat := twoPow 1024 - twoPow 970 - 1

theorem largestWhole_bounds : twoPow 1023 ≤ largestWhole ∧ largestWhole < twoPow 1024 := by
  have hp := twoPow_pos 970
  have h₁ : twoPow 1023 = 2 ^ 53 * twoPow 970 := by
    rw [twoPow_add 53 970 rfl, twoPow_eq 53]
  have h₂ : twoPow 1024 = 2 ^ 54 * twoPow 970 := by
    rw [twoPow_add 54 970 rfl, twoPow_eq 54]
  unfold largestWhole
  omega

theorem unitsPerOne_pos : 0 < unitsPerOne := twoPow_pos 1074

theorem twoPow_mul_units {k : Nat} (m : Nat) (h : m + 1074 = k) :
    twoPow m * unitsPerOne = twoPow k := by
  unfold unitsPerOne
  exact (twoPow_add m 1074 h).symm

/-- Just below the limit the spacing is 2⁹⁷¹. -/
theorem roundUnits_top {n : Nat} (h₁ : twoPow 1023 ≤ n) (h₂ : n < twoPow 1024) :
    roundUnits (n * unitsPerOne) 1 =
      divNearest n (2 * twoPow 970) * (2 * twoPow 970 * unitsPerOne) := by
  have hge : twoPow 2097 ≤ n * unitsPerOne := by
    rw [← twoPow_mul_units 1023 rfl]
    exact Nat.mul_le_mul_right _ h₁
  have hlt : n * unitsPerOne < twoPow (2097 + 1) := by
    rw [← twoPow_mul_units 1024 rfl]
    exact Nat.mul_lt_mul_of_pos_right h₂ unitsPerOne_pos
  have hhalf : 2 * twoPow 970 = twoPow 971 := by
    rw [twoPow_add 1 970 rfl, twoPow_eq 1, Nat.pow_one]
  have hs : spacing (n * unitsPerOne) = 2 * twoPow 970 * unitsPerOne := by
    rw [spacing, log2_eq_of_twoPow hge hlt, hhalf, twoPow_mul_units 971 rfl]
  rw [roundUnits_one, hs, divNearest_mul_right _ _ unitsPerOne_pos]

theorem roundUnits_lt_limit_iff (n : Nat) :
    roundUnits (n * unitsPerOne) 1 < unitLimit ↔ n ≤ largestWhole := by
  obtain ⟨hlow, hhigh⟩ := largestWhole_bounds
  have hlim : twoPow 1024 * unitsPerOne = unitLimit := twoPow_mul_units 1024 rfl
  have hu := unitsPerOne_pos
  rcases Nat.lt_or_ge n (twoPow 1023) with h₁ | h₁
  · have hn : n * unitsPerOne < twoPow 2097 := by
      rw [← twoPow_mul_units 1023 rfl]
      exact Nat.mul_lt_mul_of_pos_right h₁ hu
    have hr : roundUnits (n * unitsPerOne) 1 ≤ twoPow 2097 := roundUnits_le_twoPow hn
    have hlt : twoPow 2097 < unitLimit := twoPow_lt (by decide)
    exact ⟨fun _ => by omega, fun _ => Nat.lt_of_le_of_lt hr hlt⟩
  · rcases Nat.lt_or_ge n (twoPow 1024) with h₂ | h₂
    · have htop : twoPow 1024 = 2 ^ 53 * (2 * twoPow 970) := by
        rw [twoPow_add 54 970 rfl, twoPow_eq 54]
        omega
      have hpos : 0 < 2 * twoPow 970 * unitsPerOne :=
        Nat.mul_pos (Nat.mul_pos (by decide) (twoPow_pos 970)) hu
      have hn : n < 2 ^ 53 * (2 * twoPow 970) := by
        rw [← htop]
        exact h₂
      have hdiv := divNearest_lt_iff (by decide) hn
      rw [roundUnits_top h₁ h₂, ← hlim, htop, Nat.mul_assoc (2 ^ 53) (2 * twoPow 970) unitsPerOne,
        Nat.mul_lt_mul_right hpos, hdiv, ← htop, largestWhole]
      omega
    · have hn : unitLimit ≤ n * unitsPerOne := by
        rw [← hlim]
        exact Nat.mul_le_mul_right _ h₂
      have hr : unitLimit ≤ roundUnits (n * unitsPerOne) 1 := twoPow_le_roundUnits (k := 2098) hn
      exact ⟨fun hlt => absurd hr (Nat.not_le.mpr hlt), fun hle => by omega⟩

/-- **Which natural numbers are within the range.** -/
theorem isFinite_ofNat (n : Nat) : (ofNat n).isFinite = true ↔ n ≤ largestWhole := by
  rw [ofNat_eq, isFinite_ofUnits, ← roundUnits_lt_limit_iff]
  exact ⟨fun h => h.2, representable_roundUnits⟩

theorem ofNat_lt_zero (n : Nat) : (ofNat n).lt zero = false := by
  rw [ofNat_eq]
  exact ofUnits_lt_zero _

theorem spacing_dvd_whole {n : Nat} (h : n ≤ 2 ^ 53) :
    spacing (n * unitsPerOne) ∣ n * unitsPerOne := spacing_mul_dvd h 1074

/-- **Which natural numbers are held exactly.** -/
theorem ofNat_of_le {n : Nat} (h : n ≤ 2 ^ 53) :
    ∃ held, ofNat n = .finite false (n * unitsPerOne) held := by
  have hr : roundUnits (n * unitsPerOne) 1 = n * unitsPerOne :=
    roundUnits_of_dvd (spacing_dvd_whole h)
  have hrep : Representable (n * unitsPerOne) := by
    rw [← hr]
    refine representable_roundUnits ((roundUnits_lt_limit_iff n).mpr ?_)
    have hlow := largestWhole_bounds.1
    have hp : twoPow 53 ≤ twoPow 1023 := twoPow_le (by decide)
    exact Nat.le_trans h (Nat.le_trans hp hlow)
  exact ⟨hrep, by rw [ofNat_eq, hr, ofUnits, dif_pos hrep]⟩

theorem truncate_ofNat {n : Nat} (h : n ≤ 2 ^ 53) : (ofNat n).truncate = n := by
  obtain ⟨held, hn⟩ := ofNat_of_le h
  rw [hn]
  show ((n * unitsPerOne : Nat) : Int) / (unitsPerOne : Int) = n
  rw [← Int.natCast_ediv, Nat.mul_div_cancel n unitsPerOne_pos]

end Binary64
end FleetHealth
