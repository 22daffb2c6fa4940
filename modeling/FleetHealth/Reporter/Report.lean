import FleetHealth.Metric.Catalog
import FleetHealth.Reporter.TimeScale

/-!
# Reporter — Report

What a tick reports: the samples that went to the emitter in the order they went, the names of the indicators that failed, how long the tick took, and whether it was interrupted before every indicator had its turn.
-/

namespace FleetHealth

/-- A sample that was submitted: the value and the dimensions as the indicator gave them. -/
structure Sample where
  metric : Metric
  value : Datum
  dims : Datum

/-- The report of a tick. -/
structure TickReport (τ : Type) where
  samples : List Sample := []
  failed : List String := []
  duration : τ
  interrupted : Bool := false

/-- A sample as a record. -/
def Sample.toDatum (s : Sample) : Datum :=
  .record [("metric", .text s.metric.name), ("value", s.value), ("dimensions", s.dims)]

namespace TickReport

variable {τ : Type} [TimeScale τ]

/-- The report of a tick in which nothing has happened yet. -/
def empty : TickReport τ := { duration := 0 }

/-- The failed indicators as a value. -/
def failedNames (r : TickReport τ) : Datum := .list (r.failed.map .text)

/-- The report as a record; the duration is rounded to microseconds. -/
def toDatum (r : TickReport τ) : Datum :=
  .record [("samples", .list (r.samples.map Sample.toDatum)),
           ("failed", r.failedNames),
           ("duration_seconds", TimeScale.rounded 6 r.duration),
           ("interrupted", .bool r.interrupted)]

end TickReport
end FleetHealth
