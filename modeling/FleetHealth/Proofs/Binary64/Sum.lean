import FleetHealth.Job.Runtime
import FleetHealth.Proofs.Binary64.Order

/-!
# Proofs — Binary64 — Sum

When a list has a sum.  The partial sums that are carried along stay within the power of two that bounds the numbers, but for a factor of two at every addition (`carry_within`), so a list of small numbers has a sum unless it is very long (`sum_of_within`).

* `sum_eq`: the sum of finite numbers is their exact total, rounded once; so it does not depend on their order.

Rounding is only known to pass no power of two.  That is enough: neither what is rounded nor what rounding leaves off is then larger than the sum was allowed to be.
-/

namespace FleetHealth

namespace Binary64

/-- A signed count of units is within a power of two. -/
def Within (k : Nat) (v : Int) : Prop := v.natAbs ≤ twoPow k

theorem Within.mono {j k : Nat} {v : Int} (h : Within j v) (hjk : j ≤ k) : Within k v :=
  Nat.le_trans h (twoPow_le hjk)

theorem Within.add {k : Nat} {v w : Int} (hv : Within k v) (hw : Within k w) :
    Within (k + 1) (v + w) := by
  have htwo : twoPow (k + 1) = twoPow k + twoPow k := by
    rw [twoPow_add k 1 rfl, twoPow_eq 1, Nat.pow_one, Nat.mul_two]
  have hadd := Int.natAbs_add_le v w
  unfold Within at hv hw ⊢
  omega

/-- A count within the range is rounded, and both the rounded count and what is left off are within
the same power of two. -/
theorem heldUnits_within {k : Nat} {v : Int} (h : Within k v) (hk : k < 2098) :
    ∃ y, heldUnits? v = some y ∧ Within k y ∧ Within k (v - y) := by
  have hround : roundUnits v.natAbs 1 ≤ twoPow k := roundUnits_le_of_le h
  have hlimit : twoPow k < unitLimit := twoPow_lt (n := 2098) hk
  have hheld : Representable (roundUnits v.natAbs 1) :=
    representable_roundUnits (Nat.lt_of_le_of_lt hround hlimit)
  have hfinite : ofSignedRatio v 1 = .finite (decide (v < 0)) (roundUnits v.natAbs 1) hheld :=
    dif_pos hheld
  have hv : heldUnits? v =
      some (if v < 0 then -(roundUnits v.natAbs 1 : Int) else roundUnits v.natAbs 1) := by
    unfold heldUnits?
    rw [hfinite]
    by_cases hneg : v < 0
    · simp only [hneg, decide_true, signedUnits, if_true]
    · simp only [hneg, decide_false, signedUnits, Bool.false_eq_true, if_false]
  refine ⟨_, hv, ?_, ?_⟩
  · unfold Within
    split <;> omega
  · -- the rounded count has the sign of the count, so their difference is no larger than either
    unfold Within at h ⊢
    split <;> omega

/-- **Carrying a count through partial sums** needs one more bit for each of them. -/
theorem carry_within {k : Nat} (parts : List Int) {j : Nat} {x : Int} (hparts : ∀ p ∈ parts, Within k p)
    (hx : Within j x) (hkj : k ≤ j) (hj : j + parts.length < 2098) :
    ∃ out, carry parts x = some out ∧ out.length ≤ parts.length + 1
      ∧ ∀ p ∈ out, Within (j + parts.length) p := by
  induction parts generalizing j x with
  | nil =>
      rw [carry_nil]
      split
      · exact ⟨[], rfl, Nat.zero_le _, fun _ hp => (List.not_mem_nil hp).elim⟩
      · refine ⟨[x], rfl, Nat.le_refl _, fun p hp => ?_⟩
        rw [List.mem_singleton.mp hp]
        exact hx.mono (Nat.le_add_right _ _)
  | cons part parts ih =>
      rw [List.length_cons] at hj
      have hsum : Within (j + 1) (part + x) := ((hparts part List.mem_cons_self).mono hkj).add hx
      obtain ⟨y, hy, hwithin, hleft⟩ := heldUnits_within hsum (by omega)
      obtain ⟨rest, hrest, hlen, hall⟩ :=
        ih (fun p hp => hparts p (List.mem_cons_of_mem _ hp)) hwithin (by omega) (by omega)
      have hexp : j + (part :: parts).length = j + 1 + parts.length := by
        rw [List.length_cons]
        omega
      rw [carry_cons hy hrest, hexp]
      refine ⟨_, rfl, ?_, ?_⟩
      · split
        · exact Nat.le_succ_of_le hlen
        · exact Nat.succ_le_succ hlen
      · split
        · exact hall
        · exact List.forall_mem_cons.mpr ⟨hleft.mono (by omega), hall⟩

/-- **One more number in a running total** that has met finite ones alone. -/
theorem step_within {k : Nat} {r : Running} {x : Binary64} (hx : x.isFinite = true)
    (hw : Within k x.signedUnits) (hparts : ∀ p ∈ r.parts, Within k p)
    (hk : k + r.parts.length < 2098) :
    ∃ parts, r.step x = .ok { r with parts := parts } ∧ parts.length ≤ r.parts.length + 1
      ∧ ∀ p ∈ parts, Within (k + r.parts.length) p := by
  obtain ⟨parts, hcarry, hlen, hall⟩ := carry_within r.parts hparts hw (Nat.le_refl k) hk
  refine ⟨parts, ?_, hlen, hall⟩
  cases x with
  | finite s units held =>
      unfold Running.step
      dsimp only
      rw [hcarry]
  | _ => cases hx

/-- A running total of finite numbers goes on.  Each number may add as many bits as there are partial
sums, and one partial sum. -/
theorem steps_within (xs : List Binary64) {k : Nat} {r : Running}
    (hxs : ∀ x ∈ xs, x.isFinite = true ∧ Within k x.signedUnits) (hparts : ∀ p ∈ r.parts, Within k p)
    (hk : k + xs.length * (r.parts.length + xs.length) < 2098) :
    ∃ parts, xs.foldlM Running.step r = .ok { r with parts := parts } := by
  induction xs generalizing k r with
  | nil => exact ⟨r.parts, rfl⟩
  | cons x xs ih =>
      rw [List.length_cons, Nat.succ_mul, ← Nat.add_assoc] at hk
      obtain ⟨hx, hw⟩ := hxs x List.mem_cons_self
      obtain ⟨parts, hstep, hlen, hall⟩ := step_within hx hw hparts (by omega)
      have hmul : xs.length * (parts.length + xs.length) ≤
          xs.length * (r.parts.length + (xs.length + 1)) := Nat.mul_le_mul_left _ (by omega)
      obtain ⟨out, hout⟩ := ih (k := k + r.parts.length) (r := { r with parts := parts })
        (fun y hy => ⟨(hxs y (List.mem_cons_of_mem _ hy)).1,
          (hxs y (List.mem_cons_of_mem _ hy)).2.mono (Nat.le_add_right _ _)⟩)
        hall (by dsimp only; omega)
      refine ⟨out, ?_⟩
      rw [List.foldlM_cons, hstep]
      exact hout

/-- **A list of small finite numbers has a sum.** -/
theorem sum_of_within {xs : List Binary64} {k : Nat}
    (hxs : ∀ x ∈ xs, x.isFinite = true ∧ Within k x.signedUnits)
    (hk : k + xs.length * xs.length < 2098) : ∃ x, sum xs = .ok x := by
  obtain ⟨parts, hparts⟩ := steps_within xs (r := {}) hxs (fun _ hp => (List.not_mem_nil hp).elim)
    (by simpa using hk)
  refine ⟨ofSignedRatio (parts.foldr (· + ·) 0) 1, ?_⟩
  unfold sum
  rw [hparts]
  rfl

/-! ### The exact total -/

/-- The exact total of numbers, in units. -/
def exactTotal (xs : List Binary64) : Int := (xs.map signedUnits).foldr (· + ·) 0

theorem exactTotal_perm {xs ys : List Binary64} (h : xs.Perm ys) : exactTotal xs = exactTotal ys :=
  (h.map signedUnits).foldr_eq' (fun a _ b _ c => Int.add_left_comm b a c) 0

/-- **Carrying keeps the exact total.** -/
theorem carry_total {parts out : List Int} {x : Int} (h : carry parts x = some out) :
    out.foldr (· + ·) 0 = parts.foldr (· + ·) 0 + x := by
  induction parts generalizing x out with
  | nil =>
      rw [carry_nil] at h
      obtain rfl := Option.some.inj h
      split
      · next hx => rw [hx]; rfl
      · exact Int.add_comm x 0
  | cons part parts ih =>
      obtain ⟨y, rest, hrest, rfl⟩ := exists_carry_cons h
      have hsum := ih hrest
      rw [List.foldr_cons]
      split
      · omega
      · rw [List.foldr_cons]
        omega

/-- Finite numbers change the partial sums alone, and their exact total by what they are. -/
theorem steps_total {xs : List Binary64} {r r' : Running} (hxs : ∀ x ∈ xs, x.isFinite = true)
    (h : xs.foldlM Running.step r = .ok r') :
    r' = { r with parts := r'.parts }
      ∧ r'.parts.foldr (· + ·) 0 = r.parts.foldr (· + ·) 0 + exactTotal xs := by
  induction xs generalizing r with
  | nil =>
      cases h
      exact ⟨rfl, (Int.add_zero _).symm⟩
  | cons x xs ih =>
      obtain ⟨hx, hrest⟩ := List.forall_mem_cons.mp hxs
      rw [List.foldlM_cons] at h
      cases x with
      | finite s units held =>
          unfold Running.step at h
          cases hc : carry r.parts (signedUnits (.finite s units held)) with
          | none => simp only [hc] at h; cases h
          | some parts =>
              simp only [hc] at h
              obtain ⟨hsame, htotal⟩ := ih hrest h
              have hstep := carry_total hc
              refine ⟨hsame, ?_⟩
              rw [htotal, exactTotal, exactTotal, List.map_cons, List.foldr_cons]
              dsimp only
              omega
      | _ => cases hx

/-- **The sum of finite numbers is their exact total, rounded once**, whatever their order. -/
theorem sum_eq {xs : List Binary64} {y : Binary64} (hxs : ∀ x ∈ xs, x.isFinite = true)
    (h : sum xs = .ok y) : y = ofSignedRatio (exactTotal xs) 1 := by
  unfold sum at h
  cases hrun : xs.foldlM Running.step {} with
  | error e => rw [hrun] at h; cases h
  | ok r =>
      rw [hrun] at h
      obtain ⟨hsame, htotal⟩ := steps_total hxs hrun
      rw [hsame] at h
      have hparts : r.parts.foldr (· + ·) 0 = exactTotal xs := by
        rw [htotal]
        exact Int.zero_add _
      rw [← hparts]
      exact (Except.ok.inj h).symm

/-! ### Twice a mean -/

theorem isNaN_divNat {x : Binary64} (h : x.isNaN = false) (n : Nat) : (x.divNat n).isNaN = false := by
  cases x with
  | finite s a ha => exact isNaN_ofRatio _ _ _
  | _ => exact h

/-- A multiple of a number by one that is not zero is a number. -/
theorem isNaN_mul {negative : Bool} {a : Nat} {ha : Representable a} (hne : a ≠ 0) {x : Binary64}
    (h : x.isNaN = false) : ((finite negative a ha).mul x).isNaN = false := by
  cases x with
  | nan => cases h
  | infinity t => rw [mul, if_neg hne]; rfl
  | finite t b hb => exact isNaN_ofRatio _ _ _

theorem isNaN_two_mul {x : Binary64} (h : x.isNaN = false) : ((ofNat 2).mul x).isNaN = false := by
  obtain ⟨held, htwo⟩ := ofNat_of_le (n := 2) (by decide)
  rw [htwo]
  exact isNaN_mul (Nat.mul_ne_zero (by decide) (Nat.ne_of_gt unitsPerOne_pos)) h

end Binary64

end FleetHealth
