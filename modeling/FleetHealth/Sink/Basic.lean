import FleetHealth.Log.Entry
import FleetHealth.Sink.Line
import FleetHealth.Sink.Provider

/-!
# Sink — Basic

Where samples go.  There are four sinks: one that plays a script, one that discards, one that sends a datagram for each sample, and one that records with a provider, which exports on its own terms.  A sink answers three hooks (`record` a sample, flush, release) and may lose a sample by raising a fault; an `Event` is something an observer of a sink sees happen.
-/

namespace FleetHealth

/-- What an observer sees on a socket. -/
inductive SocketEvent where
  | nonblocking
  | connect (host : Option String) (port : Option Int)
  | datagram (payload : String) (outcome : Option Fault)
  | close

/-- What an observer sees of an exporter. -/
inductive ExporterEvent where
  | requested (protocol : String) (endpoint : Option String)
  | batch (metrics : List CollectedMetric) (outcome : ExportOutcome)
  | forceFlush
  | shutdown

/-- What happens at a sink. -/
inductive SinkEvent where
  | recorded (metric : Metric) (value : Binary64) (tags : Tags) (outcome : Option Fault)
  | flushed (outcome : Option Fault)
  | released (outcome : Option Fault)
  | turnedOff
  | socket (e : SocketEvent)
  | exporter (e : ExporterEvent)
  | said (entry : Log.Entry)

/-- A sink that plays a script for each of its hooks, and one more for what precedes a flush. -/
structure Rehearsal where
  deliveries : Script (Option Fault) := .always none
  flushes : Script (Option Fault) := .always none
  releases : Script (Option Fault) := .always none
  preludes : Script (Option Fault) := .always none

/-- A connected datagram socket, and how its sends and its closing will end. -/
structure Socket where
  host : Option String
  port : Option Int
  sends : Script (Option Fault)
  closes : Script (Option Fault) := .always none
  isOpen : Bool := true

/-- An export pipeline: the provider of its instruments, the relay that is the provider's exporter, and
what happened between them so far, newest first. -/
structure Pipeline where
  provider : Provider
  relay : Relay
  past : List Provider.Moment := []
  /-- The longest that a flush may take, in milliseconds. -/
  flushTimeout : Number

/-- Where samples go. -/
inductive Sink where
  | rehearsal (r : Rehearsal)
  | discard (warned : Bool)
  | statsd (s : Socket)
  | otlp (p : Pipeline)

namespace Socket

/-- The host and the port as text. -/
def address (host : Option String) (port : Option Int) : String :=
  host.getD "None" ++ ":" ++ (port.map (toString ·)).getD "None"

/-- The fault that a send which raised counts as. -/
def sendFault (s : Socket) (f : Fault) : Fault :=
  if f.kind = .wouldBlock || f.kind = .interrupted then .sendWouldBlock f
  else if f.kind.isSystem then .sendFailed (address s.host s.port) f
  else f

/-- One line sent as one datagram. -/
def sendLine (s : Socket) (line : String) : Socket × List SinkEvent × Option Fault :=
  let (o, rest) := s.sends.next
  ({ s with sends := rest }, [.socket (.datagram line o)], o.map s.sendFault)

/-- One sample sent as one datagram. -/
def send (s : Socket) (m : Metric) (x : Binary64) (tags : Tags) :
    Socket × List SinkEvent × Option Fault :=
  if s.isOpen then s.sendLine (Line.encode m x tags) else (s, [], some .socketClosed)

/-- The socket closed; it is kept when that raises. -/
def close (s : Socket) : Socket × Option Fault :=
  let (o, rest) := s.closes.next
  ({ s with closes := rest, isOpen := o.isSome }, o)

end Socket

namespace Pipeline

/-- The pipeline after one more thing happened to its provider. -/
def note (p : Pipeline) (m : Provider.Moment) : Pipeline := { p with past := m :: p.past }

/-- The operation that records a value of a type. -/
def operation : MetricType → String
  | .gauge        => "set"
  | .counter      => "add"
  | .distribution => "record"

/-- The instrument of a type. -/
def instrument : MetricType → String
  | .gauge        => "_Gauge"
  | .counter      => "_Counter"
  | .distribution => "_Histogram"

/-- One sample recorded by its instrument.  Only the metrics of the catalog have instruments, and an
instrument does nothing but take the sample down. -/
def record (p : Pipeline) (m : Metric) (x : Binary64) (tags : Tags) : Pipeline × Option Fault :=
  match Metric.catalog.find? fun c => c.name == m.name with
  | none   => (p, some (.noInstrument m.name))
  | some c =>
    if c.type = m.type then (p.note (.recorded c x tags), none)
    else (p, some (.instrumentMismatch (instrument c.type) (operation m.type)))

end Pipeline

namespace Sink

/-- The name of a sink. -/
def name : Sink → String
  | rehearsal _ => "scripted"
  | discard _   => "none"
  | statsd _    => "statsd"
  | otlp _      => "otel"

/-- Whether a sample that was recorded has left the process. -/
def isImmediate : Sink → Bool
  | otlp _ => false
  | _      => true

/-- The warning of the sink that discards. -/
def discarding (m : Metric) : Log.Entry where
  level := .warning
  logger := "syncwatch.emitters.noop"
  event := "sink.none.discarding"
  fields := [("metric", .text m.name),
             ("hint", .text "Set SYNCWATCH_SINK=statsd or otel to publish metrics")]

/-- The hook that records a sample: the sink after it, what was seen, and the fault it raised. -/
def record (m : Metric) (x : Binary64) (tags : Tags) : Sink → Sink × List SinkEvent × Option Fault
  | rehearsal r =>
    let (o, rest) := r.deliveries.next
    (rehearsal { r with deliveries := rest }, [], o)
  | discard warned => (discard true, if warned then [] else [.said (discarding m)], none)
  | statsd s       =>
    let (s, seen, o) := s.send m x tags
    (statsd s, seen, o)
  | otlp p         =>
    let (p, o) := p.record m x tags
    (otlp p, [], o)

/-- The sink when it has been turned off: a relay lets no batch leave any more. -/
def turnOff : Sink → Sink
  | otlp p => otlp { p with relay := { p.relay with isOpen := false } }
  | s      => s

end Sink
end FleetHealth
