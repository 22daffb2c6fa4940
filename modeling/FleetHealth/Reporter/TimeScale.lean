import FleetHealth.Datum.Basic

/-!
# Reporter — Time scale

The readings of a monotonic clock and the spans between them.  The reporter only adds, subtracts and compares them, so everything it does can be said of any scale: of the numbers that a process reads off its clock, and of exact rational time, where no sum is rounded.
-/

namespace FleetHealth

/-- A scale of clock readings and spans, in seconds. -/
class TimeScale (τ : Type) extends Zero τ, Add τ, Sub τ where
  /-- Strictly before, or strictly shorter. -/
  before : τ → τ → Bool
  /-- Not after, or not longer; what is not a number is neither before nor not after anything. -/
  notAfter : τ → τ → Bool
  /-- The reading as a number. -/
  toNumber : τ → Number

namespace TimeScale

instance : TimeScale Number where
  zero     := .float .zero
  before   := Number.lt
  notAfter := Number.le
  toNumber := id

/-- The float nearest to a rational number. -/
def nearestFloat (q : Rat) : Binary64 := .ofSignedRatio (q.num * unitsPerOne) q.den

instance : TimeScale Rat where
  zero       := 0
  before p q := decide (p < q)
  notAfter p q := decide (p ≤ q)
  toNumber q := .float (nearestFloat q)

variable {τ : Type} [TimeScale τ]

/-- The span, unless it is negative. -/
def atLeastZero (d : τ) : τ := if before 0 d then d else 0

/-- The reading as a value. -/
def toDatum (t : τ) : Datum := .number (toNumber t)

/-- The reading as a value, rounded to a number of places. -/
def rounded (places : Nat) (t : τ) : Datum := .number ((toNumber t).roundPlaces places)

end TimeScale
end FleetHealth
