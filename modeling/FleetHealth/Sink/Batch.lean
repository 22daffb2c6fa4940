import FleetHealth.Metric.Catalog

/-!
# Sink — Batch

What leaves a process in one export: for each metric its points, and for each point the attributes and the last value of a gauge, the sum of a counter, or the buckets of a distribution.
-/

namespace FleetHealth

/-- A running total: what earlier collections settled and what came since. -/
structure Total where
  settled : Binary64 := .zero
  pending : Binary64 := .zero

/-- What has been recorded under one set of attributes. -/
inductive PointState where
  | gauge (last : Binary64)
  | sum (total : Total)
  | histogram (total : Total) (least greatest : Binary64) (bounds : List Nat) (counts : List Nat)

/-- A point of a collection. -/
structure CollectedPoint where
  attributes : Tags
  state : PointState

/-- A metric of a collection. -/
structure CollectedMetric where
  metric : Metric
  points : List CollectedPoint

end FleetHealth
