import FleetHealth.Script
import FleetHealth.Sink.Batch

/-!
# Sink — Exporter

An exporter that reports how every export ended.  An export made while the exporter is open reaches the collector once, and its outcome is reported once: nothing for a success, the fault itself when one was raised, and the loss of the batch when the collector refused it.  An export made while it is closed reaches nothing, reports nothing, and counts as a success.
-/

namespace FleetHealth

/-- How the collector answers an export. -/
inductive ExportOutcome where
  | success
  | failure
  | raised (f : Fault)

/-- The fault that an outcome is reported as; none for a success. -/
def ExportOutcome.report : ExportOutcome → Option Fault
  | success  => none
  | failure  => some .batchDropped
  | raised f => some f

/-- An exporter: what the collector will answer, and whether batches may still leave. -/
structure Exporter where
  outcomes : Script ExportOutcome
  isOpen : Bool := true

/-- What came of an export. -/
structure Exported where
  /-- The collector's answer, when the batch reached it. -/
  reached : Option ExportOutcome
  /-- What is answered to whoever asked for the export. -/
  succeeded : Bool

namespace Exporter

/-- One export. -/
def deliver (x : Exporter) : Exporter × Exported :=
  if x.isOpen then
    let (o, rest) := x.outcomes.next
    ({ x with outcomes := rest }, ⟨some o, o.report.isNone⟩)
  else (x, ⟨none, true⟩)

end Exporter

/-- What came of an export, as reported: nothing when the batch reached no collector. -/
def Exported.reports (e : Exported) : List (Option Fault) :=
  e.reached.toList.map ExportOutcome.report

end FleetHealth
