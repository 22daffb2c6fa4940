import FleetHealth.Config.Basic
import FleetHealth.Emitter.Basic

/-!
# Emitter — Open

How emitters come to be.  Opening the datagram sink resolves the host, opens a socket, makes it not block and connects it; a fault of the system on the way is the unavailability of the socket, and a socket that was opened is closed again.  Opening the export sink asks for an exporter and starts a pipeline; any fault on the way is the unavailability of the pipeline.  `ofConfig` opens the sink that the settings choose.  Each returns what was seen, newest first, beside the emitter or the fault.
-/

namespace FleetHealth

/-- How a network will answer.  A socket that is given up before it is connected is closed without a
fault; `closes` is what closing a connected one raises. -/
structure Network where
  resolve : Script (Option Fault) := .always none
  openSocket : Script (Option Fault) := .always none
  nonblocking : Script (Option Fault) := .always none
  connect : Script (Option Fault) := .always none
  sends : Script (Option Fault) := .always none
  closes : Script (Option Fault) := .always none

/-- What sinks of every kind share: the application tag and the limit on a run of failures. -/
structure EmitterOptions where
  application : Option String := none
  maxFailures : Int := 10

/-- An emitter or a fault, and what was seen on the way, newest first. -/
abbrev Opening := List SinkEvent × Except Fault Emitter

namespace Emitter

/-- An emitter over a sink. -/
def ofSink (o : EmitterOptions) (s : Sink) : Emitter :=
  { application := o.application, maxFailures := o.maxFailures, sink := s }

/-- The emitter that plays a script. -/
def openRehearsal (o : EmitterOptions) (r : Rehearsal) : Opening :=
  ([], .ok (ofSink o (.rehearsal r)))

/-- The emitter that discards. -/
def openDiscard (o : EmitterOptions) : Opening := ([], .ok (ofSink o (.discard false)))

/-- A fault while a socket was being opened: one of the system is the unavailability of the
socket. -/
def socketFault (host : Option String) (port : Option Int) (f : Fault) : Fault :=
  if f.kind.isSystem then .socketUnavailable (Socket.address host port) f else f

/-- The entry that a connected socket is announced by. -/
def socketReady (host : Option String) (port : Option Int) : Log.Entry where
  level := .info
  logger := "syncwatch.emitters.statsd"
  event := "sink.statsd.ready"
  fields := [("host", .optText host), ("port", (port.map Datum.int).getD .null)]

/-- What was seen of an opened socket over which a fault was raised: one of the system closes it. -/
def abandoned (f : Fault) (seen : List SinkEvent) : List SinkEvent :=
  if f.kind.isSystem then .socket .close :: seen else seen

/-- The emitter that sends datagrams. -/
def openSocket (o : EmitterOptions) (host : Option String) (port : Option Int) (n : Network) :
    Opening :=
  match n.resolve.next.1.orElse fun _ => n.openSocket.next.1 with
  | some f => ([], .error (socketFault host port f))
  | none   =>
    let opened : List SinkEvent := [.socket .nonblocking]
    match n.nonblocking.next.1 with
    | some f => (abandoned f opened, .error (socketFault host port f))
    | none   =>
      let connecting : List SinkEvent := .socket (.connect host port) :: opened
      match n.connect.next.1 with
      | some f => (abandoned f connecting, .error (socketFault host port f))
      | none   =>
        (.said (socketReady host port) :: connecting,
         .ok (ofSink o (.statsd { host := host, port := port, sends := n.sends, closes := n.closes })))

/-- The entry that a started pipeline is announced by. -/
def pipelineReady (endpoint : Option String) (protocol : String) (interval : Number) :
    Log.Entry where
  level := .info
  logger := "syncwatch.emitters.otel"
  event := "sink.otel.ready"
  fields := [("endpoint", .optText endpoint), ("protocol", .text protocol),
             ("export_interval_seconds", .number interval),
             ("metric_count", .int Metric.catalog.length)]

/-- The export interval in milliseconds. -/
def intervalMillis (interval : Number) : Number := interval * .int 1000

/-- The longest that a flush may take, in milliseconds. -/
def flushTimeout (interval : Number) : Number :=
  let ms := intervalMillis interval
  if (Number.int 2000).lt ms then .int 2000 else ms

/-- The emitter over a pipeline that was just built. -/
def overPipeline (o : EmitterOptions) (interval : Number) (p : Provider) (x : Collector) : Emitter :=
  ofSink o (.otlp { provider := p, relay := .ofCollector x, flushTimeout := flushTimeout interval })

/-- The emitter over a provider that reads into memory, and has no exporter to call. -/
def openMemory (o : EmitterOptions) (endpoint : String) (interval : Number) (p : Provider) : Opening :=
  ([.said (pipelineReady (some endpoint) "grpc" interval)], .ok (overPipeline o interval p {}))

/-- The emitter that exports, on an exporter that is there: the provider is the one for the interval in
milliseconds. -/
def openExport (o : EmitterOptions) (endpoint : Option String) (protocol : String)
    (interval : Number) (provider : Number → Provider) (x : Collector) : Opening :=
  let ms := intervalMillis interval
  if ms.le (.int 0) then
    ([], .error (.pipelineUnavailable (endpoint.getD "None") (.intervalNotPositive ms.text)))
  else
    ([.said (pipelineReady endpoint protocol interval)],
     .ok (overPipeline o interval (provider ms) x))

/-- The emitter that exports, on an exporter that is first asked for. -/
def requestExport (o : EmitterOptions) (endpoint : Option String) (protocol : String)
    (interval : Number) (exporter : Option Fault) (provider : Number → Provider) (x : Collector) :
    Opening :=
  let request : SinkEvent := .exporter (.requested protocol endpoint)
  match exporter with
  | some f => ([request], .error (.pipelineUnavailable (endpoint.getD "None") f))
  | none   =>
    let (seen, r) := openExport o endpoint protocol interval provider x
    (seen ++ [request], r)

/-- How the surroundings of a sink will answer: its network, what is raised where an exporter is asked
for or a pipeline is built on it, the provider for an export interval, and the collector. -/
structure Surroundings where
  network : Network := {}
  exporter : Option Fault := none
  provider : Number → Provider
  collector : Collector := {}

/-- The application tag of the settings; an empty one is none. -/
def applicationOf (c : Config) : Option String :=
  c.applicationTag.filter (!·.isEmpty)

/-- The emitter that the settings choose. -/
def ofConfig (c : Config) (s : Surroundings) : Opening :=
  let o : EmitterOptions := ⟨applicationOf c, c.maxSinkFailures⟩
  if c.sink = "statsd" then openSocket o c.statsdHost c.statsdPort s.network
  else if c.sink = "otel" then
    requestExport o c.otelEndpoint c.otelProtocol c.otelExportInterval s.exporter s.provider
      s.collector
  else if c.sink = "none" then openDiscard o
  else ([], .error (.setting (.unbuildableSink (Text.quoted c.sink))))

/-- The path that exports over HTTP are sent to. -/
def httpPath : String := "/v1/metrics"

/-- The text without slashes at its end. -/
def trimSlashes (s : String) : String :=
  String.ofList ((s.toList.reverse.dropWhile (· = '/')).reverse)

/-- The kind of exporter that a protocol asks for, and the address it is given. -/
def exporterFor (protocol endpoint : String) : String × String :=
  if protocol = "http/protobuf" then ("http", trimSlashes endpoint ++ httpPath)
  else ("grpc", endpoint)

end Emitter
end FleetHealth
