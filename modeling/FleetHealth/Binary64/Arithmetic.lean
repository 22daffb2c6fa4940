import FleetHealth.Binary64.Basic

/-!
# Binary64 — Arithmetic

The operations of the format: each is the exact result on units, rounded once.  `sum` adds a whole list exactly, in partial sums that do not overlap, and rounds at the end; it says why it cannot when a partial sum leaves the range or infinities of both signs meet.  `roundPlaces` rounds the exact value to a number of decimal places, a tie going to the even digit.
-/

namespace FleetHealth.Binary64

/-- Sum of two numbers. -/
def add : Binary64 → Binary64 → Binary64
  | .nan,             _               => .nan
  | _,                .nan            => .nan
  | .infinity s,      .infinity t     => if s = t then .infinity s else .nan
  | .infinity s,      .finite ..      => .infinity s
  | .finite ..,       .infinity t     => .infinity t
  | .finite s a ha,   .finite t b hb  =>
    let total := signedUnits (.finite s a ha) + signedUnits (.finite t b hb)
    if total = 0 then .finite (s && t) 0 representable_zero else ofSignedRatio total 1

/-- The number with the other sign. -/
def neg : Binary64 → Binary64
  | .nan          => .nan
  | .infinity s   => .infinity (!s)
  | .finite s a h => .finite (!s) a h

/-- Difference of two numbers. -/
def sub (x y : Binary64) : Binary64 := add x (neg y)

/-- Product of two numbers. -/
def mul : Binary64 → Binary64 → Binary64
  | .nan,          _              => .nan
  | _,             .nan           => .nan
  | .infinity s,   .infinity t    => .infinity (s != t)
  | .infinity s,   .finite t b _  => if b = 0 then .nan else .infinity (s != t)
  | .finite s a _, .infinity t    => if a = 0 then .nan else .infinity (s != t)
  | .finite s a _, .finite t b _  => ofRatio (s != t) (a * b) unitsPerOne

/-- The quotient by a positive natural number. -/
def divNat (x : Binary64) (n : Nat) : Binary64 :=
  match x with
  | .finite s a _ => ofRatio s a n
  | y             => y

/-- Why a list of numbers has no sum. -/
inductive SumError where
  | overflow
  | oppositeInfinities
deriving DecidableEq

/-- The count of units that a signed one is rounded to, while that is within the range. -/
def heldUnits? (units : Int) : Option Int :=
  match ofSignedRatio units 1 with
  | .finite s a h => some (signedUnits (.finite s a h))
  | _             => none

/-- A count of units added to partial sums from the least one up: each takes what rounding leaves
off, and the rounded rest moves on.  There is none when a rounded sum leaves the range. -/
def carry : List Int → Int → Option (List Int)
  | [],            x => some (if x = 0 then [] else [x])
  | part :: parts, x =>
    match heldUnits? (part + x) with
    | none   => none
    | some y =>
      let left := part + x - y
      (carry parts y).map fun rest => if left = 0 then rest else left :: rest

theorem carry_nil (x : Int) : carry [] x = some (if x = 0 then [] else [x]) := rfl

theorem carry_cons {part x y : Int} {parts rest : List Int} (hy : heldUnits? (part + x) = some y)
    (hrest : carry parts y = some rest) :
    carry (part :: parts) x = some (if part + x - y = 0 then rest else (part + x - y) :: rest) := by
  show (match heldUnits? (part + x) with
    | none   => none
    | some y =>
      (carry parts y).map fun rest => if part + x - y = 0 then rest else (part + x - y) :: rest) = _
  rw [hy]
  dsimp only
  rw [hrest]
  rfl

/-- Carrying a count takes a carry from each partial sum. -/
theorem exists_carry_cons {part x : Int} {parts out : List Int}
    (h : carry (part :: parts) x = some out) :
    ∃ y rest, carry parts y = some rest
      ∧ out = if part + x - y = 0 then rest else (part + x - y) :: rest := by
  change (match heldUnits? (part + x) with
    | none   => none
    | some y =>
      (carry parts y).map fun rest =>
        if part + x - y = 0 then rest else (part + x - y) :: rest) = some out at h
  generalize heldUnits? (part + x) = held at h
  cases held with
  | none => cases h
  | some y =>
      obtain ⟨rest, hrest, rfl⟩ := Option.map_eq_some_iff.mp h
      exact ⟨y, rest, hrest, rfl⟩

/-- What has been added so far: partial sums of the finite numbers since the last other one, whose
total is exact, and which others have been met. -/
structure Running where
  parts : List Int := []
  metNaN : Bool := false
  metPositive : Bool := false
  metNegative : Bool := false

namespace Running

/-- One more number in a running total. -/
def step (r : Running) : Binary64 → Except SumError Running
  | .nan           => .ok { r with parts := [], metNaN := true }
  | .infinity true => .ok { r with parts := [], metNegative := true }
  | .infinity _    => .ok { r with parts := [], metPositive := true }
  | x@(.finite ..) =>
    match carry r.parts x.signedUnits with
    | none       => .error .overflow
    | some parts => .ok { r with parts := parts }

/-- The total, rounded once. -/
def total (r : Running) : Except SumError Binary64 :=
  if r.metPositive && r.metNegative then .error .oppositeInfinities
  else if r.metNaN then .ok .nan
  else if r.metPositive then .ok (.infinity false)
  else if r.metNegative then .ok (.infinity true)
  else .ok (ofSignedRatio (r.parts.foldr (· + ·) 0) 1)

end Running

/-- The sum of a list, rounded once at the end. -/
def sum (xs : List Binary64) : Except SumError Binary64 := do
  (← xs.foldlM Running.step {}).total

/-- The value rounded to a number of decimal places, then to the format; the sign stays. -/
def roundPlaces (x : Binary64) (places : Nat) : Binary64 :=
  match x with
  | .finite s a _ =>
    ofRatio s (divNearest (a * Nat.pow 10 places) unitsPerOne * unitsPerOne) (Nat.pow 10 places)
  | y => y

end FleetHealth.Binary64
