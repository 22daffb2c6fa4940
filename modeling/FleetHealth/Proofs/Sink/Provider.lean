import FleetHealth.Sink.Reading

/-!
# Proofs — Sink — Provider

The providers to run with keep to what is relied on of a provider (`cumulative_lawful`).
-/

namespace FleetHealth

namespace Plan

theorem shuts_exporting {n : Nat} {next : Plan} (batch : List CollectedMetric) (h : next.Shuts n) :
    (exporting batch next).Shuts n := by
  unfold exporting
  split
  · exact h
  · exact (Nat.zero_add n).symm ▸ .call (.ship { metrics := batch }) fun _ => h

/-- An ending is one call, and no more comes of what answers it. -/
theorem shuts_ending (c : Relay.Call) : (ending c).Shuts c.isShutdown.toNat := by
  refine Shuts.call (n := 0) c fun a => ?_
  cases a with
  | ok b => exact .done none
  | error f => exact .done (some f)

end Plan

namespace Provider

/-- **A cumulative provider is lawful**, whether or not it exports a last time. -/
theorem cumulative_lawful (exportsAtEnd : Bool) : (cumulative exportsAtEnd).Lawful where
  flush := fun _ t => Plan.shuts_exporting _ (Plan.shuts_ending (.flush t))
  collection := fun _ => Plan.shuts_exporting _ (.done none)
  shutdown := fun _ _ => Plan.shuts_exporting _ (Plan.shuts_ending .shutdown)

theorem periodic_lawful (millis : Number) : (periodic millis).Lawful := cumulative_lawful _

end Provider
end FleetHealth
