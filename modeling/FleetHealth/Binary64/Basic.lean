/-!
# Binary64 — Basic

The numbers of the IEEE 754 format binary64, over exact integers.  The least positive number of the format is 2⁻¹⁰⁷⁴ and every finite one is a whole multiple of it, so a finite number is a sign and a count of these units that the format can hold (`Representable`).  Order is order of integers, `roundUnits` takes any ratio of units to the nearest representable count, ties to the even one, and a count beyond the largest becomes an infinity.
-/

namespace FleetHealth

/-- A power of two. -/
def twoPow (n : Nat) : Nat := Nat.pow 2 n

theorem twoPow_pos (n : Nat) : 0 < twoPow n := Nat.two_pow_pos n

/-- How many units of 2⁻¹⁰⁷⁴ make one. -/
def unitsPerOne : Nat := twoPow 1074

/-- The spacing of the format around a count of units: the count has fifty-three leading bits. -/
def spacing (units : Nat) : Nat := twoPow (Nat.log2 units - 52)

/-- The first count of units beyond the format: that of 2¹⁰²⁴. -/
def unitLimit : Nat := twoPow 2098

/-- A count of units that the format can hold: a multiple of its spacing, below the limit. -/
def Representable (units : Nat) : Prop :=
  units % spacing units = 0 ∧ units < unitLimit

instance (units : Nat) : Decidable (Representable units) :=
  inferInstanceAs (Decidable (_ ∧ _))

theorem representable_zero : Representable 0 := ⟨Nat.zero_mod _, twoPow_pos 2098⟩

/-- A number of the format.  All that is not a number is one value. -/
inductive Binary64 where
  | nan
  | infinity (negative : Bool)
  | finite (negative : Bool) (units : Nat) (held : Representable units)
deriving DecidableEq

/-- The nearest whole number to a ratio, a tie going to the even one. -/
def divNearest (num den : Nat) : Nat :=
  let q := num / den
  let r := 2 * (num % den)
  if r < den then q else if den < r then q + 1 else q + q % 2

/-- The nearest representable count to a ratio of units, unless it is too large. -/
def roundUnits (num den : Nat) : Nat :=
  let s := spacing (num / den)
  divNearest num (den * s) * s

namespace Binary64

/-- The finite number of a sign and a count of units, or the infinity of that sign when the format
cannot hold the count. -/
def ofUnits (negative : Bool) (units : Nat) : Binary64 :=
  if h : Representable units then .finite negative units h else .infinity negative

/-- Positive zero. -/
def zero : Binary64 := .finite false 0 representable_zero

/-- The number nearest to a signed ratio of units. -/
def ofRatio (negative : Bool) (num den : Nat) : Binary64 :=
  ofUnits negative (roundUnits num den)

/-- The number nearest to an integer number of units over a denominator; zero is positive. -/
def ofSignedRatio (num : Int) (den : Nat) : Binary64 :=
  ofRatio (num < 0) num.natAbs den

/-- The number nearest to an integer. -/
def ofInt (n : Int) : Binary64 :=
  ofSignedRatio (unitsPerOne * n) 1

/-- The number nearest to a natural number. -/
def ofNat (n : Nat) : Binary64 := ofInt n

/-- The number nearest to m · 10ᵉ; exponents far outside the range are not computed. -/
def ofDecimal (negative : Bool) (m : Nat) (e : Int) : Binary64 :=
  if m = 0 then .finite negative 0 representable_zero
  else
    let size := (Nat.toDigits 10 m).length + e
    if 310 < size then .infinity negative
    else if size < -330 then .finite negative 0 representable_zero
    else if 0 ≤ e then ofRatio negative (m * Nat.pow 10 e.toNat * unitsPerOne) 1
    else ofRatio negative (m * unitsPerOne) (Nat.pow 10 (-e).toNat)

/-- The signed count of units of a finite number; zero for the others. -/
def signedUnits : Binary64 → Int
  | .finite negative units _ => if negative then -units else units
  | _                        => 0

/-- Neither an infinity nor outside the numbers. -/
def isFinite : Binary64 → Bool
  | .finite .. => true
  | _          => false

/-- Whether the value is not a number. -/
def isNaN : Binary64 → Bool
  | .nan => true
  | _    => false

/-- Strictly less; never so when one side is not a number. -/
def lt : Binary64 → Binary64 → Bool
  | .nan,        _           => false
  | _,           .nan        => false
  | .infinity s, .infinity t => s && !t
  | .infinity s, .finite ..  => s
  | .finite ..,  .infinity t => !t
  | x,           y           => x.signedUnits < y.signedUnits

/-- Less or equal; never so when one side is not a number. -/
def le (x y : Binary64) : Bool :=
  !x.isNaN && !y.isNaN && !lt y x

/-- Equal as numbers: the two zeros are equal, and what is not a number equals nothing. -/
def eqv (x y : Binary64) : Bool :=
  le x y && le y x

/-- The larger of two values: the first, unless the second is strictly larger. -/
def max (x y : Binary64) : Binary64 :=
  if lt x y then y else x

/-- Whether the value is a whole number. -/
def isWhole : Binary64 → Bool
  | .finite _ units _ => units % unitsPerOne == 0
  | _                 => false

/-- The whole part of a finite number, toward zero; zero for the others. -/
def truncate : Binary64 → Int
  | .finite negative units _ =>
    let w : Int := units / unitsPerOne
    if negative then -w else w
  | _ => 0

end Binary64
end FleetHealth
