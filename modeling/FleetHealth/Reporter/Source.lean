import FleetHealth.Reporter.TimeScale
import FleetHealth.Repository.Aggregate
import FleetHealth.Script

/-!
# Reporter — Source

Where the reporter's answers come from.  A `Behaviour` is what happens when an operation is asked: time passes, in which the reporter is perhaps told to stop, and then something is sent or a fault is raised, unless the reporter has given the query up by then.  A `Playbook` has a script of behaviours for every operation.  A `Source` turns what was sent into an aggregate: the repository does, and a source of ready-made aggregates takes it as it is.
-/

namespace FleetHealth

/-- What happens when an operation is asked. -/
structure Behaviour (τ : Type) where
  takes : τ
  /-- Whether the reporter is told to stop while it waits. -/
  stopsWaiting : Bool := false
  /-- Whether the reporter is told to stop when the answer comes. -/
  stops : Bool := false
  sent : Except Fault Datum

/-- A script of behaviours for every operation. -/
abbrev Playbook (τ : Type) := Operation → Script (Behaviour τ)

/-- Where aggregates come from. -/
inductive Source where
  | database (repository : Repository) (now : Instant)
  | ready

namespace Playbook

variable {τ : Type}

/-- The next behaviour of an operation, and the playbook after it. -/
def next (p : Playbook τ) (o : Operation) : Behaviour τ × Playbook τ :=
  let (b, rest) := (p o).next
  (b, fun q => if q = o then rest else p q)

/-- The playbook with another script for an operation. -/
def set (p : Playbook τ) (o : Operation) (s : Script (Behaviour τ)) : Playbook τ :=
  fun q => if q = o then s else p q

end Playbook

namespace Source

/-- A ready-made aggregate: long runners come as the lists of their parts. -/
def readyMade (o : Operation) (d : Datum) : Except ShapeFault Aggregate :=
  match o with
  | .unusuallyLongRunningJobs => do .ok (.runners (← (← d.elements).mapM LongRunner.ofDatum))
  | _                         => .ok (.plain d)

/-- The answer to an operation when something is sent or a fault is raised. -/
def answer (s : Source) (o : Operation) (sent : Except Fault Datum) : Except Fault Aggregate :=
  match s with
  | database r now => r.answer now o sent
  | ready          =>
    match sent with
    | .error f => .error f
    | .ok d    => (readyMade o d).mapError .shape

end Source
end FleetHealth
