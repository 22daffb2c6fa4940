import FleetHealth.Datum.Basic

/-!
# Job — Runtime

When a running sync counts as unusually long: when it has run for more than twice the mean of its five most recent runtimes, and for more than a quarter of an hour in any case.  With fewer than five runtimes it never does.  The mean is the exact sum, rounded once, over five.
-/

namespace FleetHealth.Runtime

/-- How many recent runtimes are averaged. -/
def windowSize : Nat := 5

/-- The least elapsed time, in seconds, that a sync must exceed. -/
def floorSeconds : Nat := 900

/-- How far back runtimes are looked for. -/
def lookback : Duration := .ofDays 7

/-- The fault of a list that has no sum. -/
def sumFault : Binary64.SumError → ShapeFault
  | .overflow           => .sumOverflow
  | .oppositeInfinities => .oppositeInfinities

/-- The sum of a list, rounded once. -/
def total (xs : List Binary64) : Except ShapeFault Binary64 :=
  (Binary64.sum xs).mapError sumFault

/-- The elapsed time beyond which a sync is unusually long, from the sum of a full window. -/
def limitFrom (sum : Binary64) : Binary64 :=
  ((Binary64.ofNat 2).mul (sum.divNat windowSize)).max (.ofNat floorSeconds)

/-- The elapsed time beyond which a sync is unusually long, from a full window of runtimes. -/
def threshold (window : List Binary64) : Except ShapeFault Binary64 := (total window).map limitFrom

/-- Whether a sync is unusually long, given its most recent runtimes, latest first. -/
def isUnusuallyLong (elapsed : Number) (recent : List Binary64) : Except ShapeFault Bool :=
  if recent.length < windowSize then .ok false
  else (threshold (recent.take windowSize)).map fun t => (Number.float t).lt elapsed

/-! ### Values of any form -/

/-- One more value in a running total. -/
def stepOf (r : Binary64.Running) (d : Datum) : Except ShapeFault Binary64.Running := do
  (r.step (← d.toReal)).mapError sumFault

/-- The sum of values, each read when its turn comes. -/
def totalOf (ds : List Datum) : Except ShapeFault Binary64 := do
  (← ds.foldlM stepOf {}).total.mapError sumFault

/-- The first values of a list; a record has no first ones. -/
def windowOf : Datum → Except ShapeFault (List Datum)
  | .record _ => .error (.unhashable "slice")
  | d         => d.elements.map fun ds => ds.take windowSize

/-- Whether a value is beyond a limit. -/
def exceeds (limit : Binary64) (d : Datum) : Except ShapeFault Bool :=
  match d.number? with
  | some n => .ok ((Number.float limit).lt n)
  | none   => .error (.incomparable ">" d.qualifiedType (Datum.float limit).qualifiedType)

/-- Whether a sync is unusually long, given values of any form. -/
def isUnusuallyLongOf (elapsed recent : Datum) : Except ShapeFault Bool := do
  if (← recent.length) < windowSize then .ok false
  else exceeds (limitFrom (← totalOf (← windowOf recent))) elapsed

end FleetHealth.Runtime
