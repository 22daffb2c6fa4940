import FleetHealth.Number
import FleetHealth.Sink.Exporter

/-!
# Sink — Relay

An exporter with all that it calls.  A relay stands between whoever exports and a collector.  A batch goes on to the collector while the relay is open, and a listener is told how the export ended; a batch that comes while it is closed goes nowhere, and nobody is told.  Flushes and shutdowns go on to the collector whether it is open or not, and nobody is told of them.  What the collector raises over an export is told and goes no further; what it raises over a flush or a shutdown, and what the listener raises, comes through to the caller.

Whether a relay is open is asked once, when an export begins, so a listener that closes it over one export closes it for the next.  The exporter of an export pipeline is a relay: its provider calls it, and its emitter is the listener.
-/

namespace FleetHealth

/-- How a collector will answer: exports, flushes and shutdowns. -/
structure Collector where
  exports : Script ExportOutcome := .always .success
  flushes : Script (Except Fault Bool) := .always (.ok true)
  shutdowns : Script (Option Fault) := .always none

/-- An exporter, and what else it will meet with: how the collector answers flushes and shutdowns, and
what the listener raises over what it is told. -/
structure Relay extends Exporter where
  flushes : Script (Except Fault Bool) := .always (.ok true)
  shutdowns : Script (Option Fault) := .always none
  hearings : Script (Option Fault) := .always none

namespace Relay

/-- An open relay to a collector, whose listener never raises. -/
def ofCollector (c : Collector) : Relay where
  outcomes := c.exports
  flushes := c.flushes
  shutdowns := c.shutdowns

/-- A batch with what is handed over beside it. -/
structure Shipment where
  metrics : List CollectedMetric
  timeoutMillis : Number := .int 10000
  options : List (String × Datum) := []

/-- What is asked of a relay. -/
inductive Call where
  | ship (s : Shipment)
  | flush (timeoutMillis : Number := .int 10000)
  | shutdown (timeoutMillis : Number := .int 30000) (options : List (String × Datum) := [])

/-- Whether a call is a shutdown. -/
def Call.isShutdown : Call → Bool
  | shutdown .. => true
  | _           => false

/-- What a relay does: it hands a call on to the collector, which answers, or tells the listener. -/
inductive Contact where
  | shipped (s : Shipment) (outcome : ExportOutcome)
  | flushed (timeoutMillis : Number) (answer : Except Fault Bool)
  | shut (timeoutMillis : Number) (options : List (String × Datum)) (raised : Option Fault)
  | told (report : Option Fault)

/-- The answer to a call over which something may have been raised. -/
def answer (a : α) : Option Fault → Except Fault α
  | none   => .ok a
  | some f => .error f

/-- An export: what the relay does, in order, and whether it succeeded. -/
def ship (r : Relay) (s : Shipment) : Relay × List Contact × Except Fault Bool :=
  let (x, came) := r.toExporter.deliver
  let r := { r with toExporter := x }
  match came.reached with
  | none   => (r, [], .ok came.succeeded)
  | some o =>
    let (raised, rest) := r.hearings.next
    ({ r with hearings := rest }, [.shipped s o, .told o.report], answer came.succeeded raised)

/-- A flush: what the relay does, and the collector's answer. -/
def flush (r : Relay) (timeoutMillis : Number) : Relay × List Contact × Except Fault Bool :=
  let (a, rest) := r.flushes.next
  ({ r with flushes := rest }, [.flushed timeoutMillis a], a)

/-- A shutdown: what the relay does, and what the collector raised. -/
def shutdown (r : Relay) (timeoutMillis : Number) (options : List (String × Datum)) :
    Relay × List Contact × Except Fault Unit :=
  let (raised, rest) := r.shutdowns.next
  ({ r with shutdowns := rest }, [.shut timeoutMillis options raised], answer () raised)

/-- One call: what the relay does, and its answer, where it has one. -/
def perform (r : Relay) : Call → Relay × List Contact × Except Fault (Option Bool)
  | .ship s             =>
    let (r, contacts, a) := r.ship s
    (r, contacts, a.map some)
  | .flush t            =>
    let (r, contacts, a) := r.flush t
    (r, contacts, a.map some)
  | .shutdown t options =>
    let (r, contacts, a) := r.shutdown t options
    (r, contacts, a.map fun _ => none)

/-- What happens to a relay: it is called, or opened or closed. -/
inductive Occasion where
  | call (c : Call)
  | turn (isOpen : Bool)

/-- One occasion: what the relay does, and its answer, where it has one. -/
def occur (r : Relay) : Occasion → Relay × List Contact × Except Fault (Option Bool)
  | .call c      => r.perform c
  | .turn isOpen => ({ r with isOpen := isOpen }, [], .ok none)

/-- The relay after a history of occasions. -/
def after (r : Relay) (history : List Occasion) : Relay :=
  history.foldl (fun r o => (r.occur o).1) r

/-- What a relay does over a history of occasions, in order. -/
def trace : Relay → List Occasion → List Contact
  | _, []      => []
  | r, o :: os => (r.occur o).2.1 ++ (r.occur o).1.trace os

end Relay
end FleetHealth
