import FleetHealth.Metric.Catalog

/-!
# Sink — Instrument

The instruments of an export pipeline: one for every metric of the catalog, created by the factory of its type under the metric's own name, unit and description.  A distribution also has a view that fixes its bucket boundaries.
-/

namespace FleetHealth

/-- The factory that creates the instrument of a type. -/
def MetricType.factory : MetricType → String
  | gauge        => "create_gauge"
  | counter      => "create_counter"
  | distribution => "create_histogram"

/-- One instrument, and the factory that creates it. -/
structure Instrument where
  factory : String
  metric : Metric

namespace Instrument

/-- The instrument of a metric. -/
def ofMetric (m : Metric) : Instrument := ⟨m.type.factory, m⟩

/-- The instruments of the catalog, in its order. -/
def all : List Instrument := Metric.catalog.map ofMetric

/-- The bucket boundaries of a metric, when it is a distribution that has any. -/
def boundaries? (m : Metric) : Option (List Nat) :=
  if m.type = .distribution then m.buckets.filter fun b => !b.isEmpty else none

/-- The metrics with bucket boundaries of their own, in the order of the catalog. -/
def views : List (Metric × List Nat) :=
  Metric.catalog.filterMap fun m => (boundaries? m).map (m, ·)

end Instrument
end FleetHealth
