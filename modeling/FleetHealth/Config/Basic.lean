import FleetHealth.Config.Environment
import FleetHealth.Datum.Basic
import FleetHealth.Url.Basic

/-!
# Config — Basic

The settings of the reporter.  `Config.read` takes them from the environment, with defaults for what it does not say, in the order of the settings; `validate` is the gate at startup; `redacted` is the effective configuration for display, with the password of the database masked.
-/

namespace FleetHealth

/-- Everything the reporter needs to know. -/
structure Config where
  sink : String
  statsdHost : Option String
  statsdPort : Option Int
  otelEndpoint : Option String
  otelProtocol : String
  otelExportInterval : Number
  cadence : Number
  tickDeadline : Option Number
  applicationTag : Option String
  maxSinkFailures : Int
  databaseUrl : String
  poolMaxSize : Int
  knownQueues : List String
  knownGeographies : List String
  logFormatter : String
  logDestination : String
  logLevel : String
  logFormat : String
  logPath : Option String

namespace Config

/-- The variables that every setting is read from, by the names and in the order of the settings. -/
def sources : List (String × List String) :=
  [("sink", ["SYNCWATCH_SINK"]),
   ("statsd_host", ["SYNCWATCH_STATSD_HOST", "DD_AGENT_HOST"]),
   ("statsd_port", ["SYNCWATCH_STATSD_PORT", "DD_DOGSTATSD_PORT"]),
   ("otel_endpoint", ["SYNCWATCH_OTEL_ENDPOINT", "OTEL_EXPORTER_OTLP_ENDPOINT"]),
   ("otel_protocol", ["SYNCWATCH_OTEL_PROTOCOL"]),
   ("otel_export_interval_seconds", ["SYNCWATCH_OTEL_EXPORT_INTERVAL_SECONDS"]),
   ("cadence_seconds", ["SYNCWATCH_CADENCE_SECONDS"]),
   ("tick_deadline_seconds", ["SYNCWATCH_TICK_DEADLINE_SECONDS"]),
   ("application_tag", ["SYNCWATCH_APPLICATION_TAG"]),
   ("max_consecutive_sink_failures", ["SYNCWATCH_MAX_CONSECUTIVE_SINK_FAILURES"]),
   ("database_url", ["SYNCWATCH_DATABASE_URL"]),
   ("db_pool_max_size", ["SYNCWATCH_DB_POOL_MAX_SIZE"]),
   ("known_queues", ["SYNCWATCH_KNOWN_QUEUES"]),
   ("known_geographies", ["SYNCWATCH_GEOGRAPHIES"]),
   ("log_formatter", ["SYNCWATCH_LOG_FORMATTER"]),
   ("log_destination", ["SYNCWATCH_LOG_DESTINATION"]),
   ("log_level", ["SYNCWATCH_LOG_LEVEL"]),
   ("log_format", ["SYNCWATCH_LOG_FORMAT"]),
   ("log_path", ["SYNCWATCH_LOG_PATH"])]

/-- The settings of an environment, or the first that is no number. -/
def read (env : Environment) : Except SettingFault Config := do
  let statsdPort ← env.int? ["SYNCWATCH_STATSD_PORT", "DD_DOGSTATSD_PORT"]
  let otelExportInterval ← env.float? ["SYNCWATCH_OTEL_EXPORT_INTERVAL_SECONDS"]
  let cadence ← env.float? ["SYNCWATCH_CADENCE_SECONDS"]
  let tickDeadline ← env.float? ["SYNCWATCH_TICK_DEADLINE_SECONDS"]
  let maxSinkFailures ← env.int? ["SYNCWATCH_MAX_CONSECUTIVE_SINK_FAILURES"]
  let poolMaxSize ← env.int? ["SYNCWATCH_DB_POOL_MAX_SIZE"]
  .ok {
    sink := Text.lower (env.textOr ["SYNCWATCH_SINK"] "none")
    statsdHost := env.text? ["SYNCWATCH_STATSD_HOST", "DD_AGENT_HOST"]
    statsdPort := statsdPort
    otelEndpoint := env.text? ["SYNCWATCH_OTEL_ENDPOINT", "OTEL_EXPORTER_OTLP_ENDPOINT"]
    otelProtocol := env.textOr ["SYNCWATCH_OTEL_PROTOCOL"] "grpc"
    otelExportInterval := .float (otelExportInterval.getD (.ofNat 10))
    cadence := .float (cadence.getD (.ofNat 15))
    tickDeadline := tickDeadline.map .float
    applicationTag := some (env.textOr ["SYNCWATCH_APPLICATION_TAG"] "metrics-reporter")
    maxSinkFailures := maxSinkFailures.getD 10
    databaseUrl :=
      env.textOr ["SYNCWATCH_DATABASE_URL"] "postgresql://localhost:5432/airbyte"
    poolMaxSize := poolMaxSize.getD 4
    knownQueues := env.list "SYNCWATCH_KNOWN_QUEUES" "SYNC,AWS_PARIS_SYNC"
    knownGeographies := env.list "SYNCWATCH_GEOGRAPHIES" "AUTO,US,EU"
    logFormatter := env.textOr ["SYNCWATCH_LOG_FORMATTER"] "structlog"
    logDestination := env.textOr ["SYNCWATCH_LOG_DESTINATION"] "stderr"
    logLevel := env.textOr ["SYNCWATCH_LOG_LEVEL"] "INFO"
    logFormat := env.textOr ["SYNCWATCH_LOG_FORMAT"] "json"
    logPath := env.text? ["SYNCWATCH_LOG_PATH"] }

/-- The time a query may take: the given one, else a second less than the cadence, or the cadence
itself where that is a second or less. -/
def deadline (c : Config) : Number :=
  match c.tickDeadline with
  | some d => d
  | none   => if (Number.int 1).lt c.cadence then c.cadence - .int 1 else c.cadence

/-- Why the settings of the statsd sink are refused, if they are. -/
def statsdFault? (c : Config) : Option SettingFault :=
  match c.statsdHost, c.statsdPort with
  | some h, some p =>
    if h.isEmpty then some .statsdIncomplete
    else if 0 < p && p < 65536 then none
    else some (.portOutOfRange (toString p))
  | _, _ => some .statsdIncomplete

/-- Why the settings of the export sink are refused, if they are. -/
def otelFault? (c : Config) : Option SettingFault :=
  if (c.otelEndpoint.getD "").isEmpty then some .endpointMissing
  else if !SettingFault.protocols.contains c.otelProtocol then
    some (.unknownProtocol (Text.quoted c.otelProtocol))
  else if c.otelExportInterval.le (.int 0) then some .exportInterval
  else none

/-- Why the settings that every sink shares are refused, if they are. -/
def loopFault? (c : Config) : Option SettingFault :=
  if c.cadence.le (.int 0) then some (.cadence c.cadence.text)
  else if !((Number.int 0).lt c.deadline && c.deadline.le c.cadence) then
    some (.deadline c.cadence.text c.deadline.text)
  else if c.maxSinkFailures ≤ 0 then some .failureLimit
  else if c.poolMaxSize ≤ 0 then some .poolSize
  else if c.knownGeographies.isEmpty then some .noGeography
  else none

/-- Why the settings of the chosen sink are refused, if they are. -/
def sinkFault? (c : Config) : Option SettingFault :=
  if !SettingFault.sinks.contains c.sink then some (.unknownSink (Text.quoted c.sink))
  else if c.sink = "statsd" then c.statsdFault?
  else if c.sink = "otel" then c.otelFault?
  else none

/-- The first reason for which the process cannot start with these settings. -/
def validate (c : Config) : Except SettingFault Unit :=
  match c.sinkFault?.orElse fun _ => c.loopFault? with
  | some e => .error e
  | none   => .ok ()

/-- The settings that are displayed, in order. -/
def displayed : List String :=
  ["sink", "statsd_host", "statsd_port", "otel_endpoint", "otel_protocol",
   "otel_export_interval_seconds", "cadence_seconds", "tick_deadline_seconds", "application_tag",
   "max_consecutive_sink_failures", "database_url", "db_pool_max_size", "known_queues",
   "known_geographies", "log_level"]

/-- The effective settings for display, the database password masked. -/
def redacted (c : Config) : Except UrlFault (List (String × Datum)) :=
  match Url.redact c.databaseUrl with
  | .error e => .error e
  | .ok url  => .ok [
      ("sink", .text c.sink),
      ("statsd_host", .optText c.statsdHost),
      ("statsd_port", (c.statsdPort.map Datum.int).getD .null),
      ("otel_endpoint", .optText c.otelEndpoint),
      ("otel_protocol", .text c.otelProtocol),
      ("otel_export_interval_seconds", .number c.otelExportInterval),
      ("cadence_seconds", .number c.cadence),
      ("tick_deadline_seconds", .number c.deadline),
      ("application_tag", .optText c.applicationTag),
      ("max_consecutive_sink_failures", .int c.maxSinkFailures),
      ("database_url", .text url),
      ("db_pool_max_size", .int c.poolMaxSize),
      ("known_queues", .list (c.knownQueues.map .text)),
      ("known_geographies", .list (c.knownGeographies.map .text)),
      ("log_level", .text c.logLevel)]

end Config
end FleetHealth
