import FleetHealth.Config.Basic
import FleetHealth.Config.Pool
import FleetHealth.Datum.Order

/-!
# Config — Settings

Settings by name, with values of any form.  A caller may give some of them outright; the environment is read for the others.  The gate at startup, the settings on display and the request for a pool are those of a configuration, taken on the values as they are up to the first step that cannot be taken.  Where every value has the form that its setting asks for, settings are a `Config`, and the same comes of both.
-/

namespace FleetHealth

/-- Settings by name, in the order of the settings. -/
abbrev Settings := List (String × Datum)

/-- The settings of a configuration. -/
def Config.toSettings (c : Config) : Settings :=
  [("sink", .text c.sink),
   ("statsd_host", .optText c.statsdHost),
   ("statsd_port", (c.statsdPort.map Datum.int).getD .null),
   ("otel_endpoint", .optText c.otelEndpoint),
   ("otel_protocol", .text c.otelProtocol),
   ("otel_export_interval_seconds", .number c.otelExportInterval),
   ("cadence_seconds", .number c.cadence),
   ("tick_deadline_seconds", (c.tickDeadline.map Datum.number).getD .null),
   ("application_tag", .optText c.applicationTag),
   ("max_consecutive_sink_failures", .int c.maxSinkFailures),
   ("database_url", .text c.databaseUrl),
   ("db_pool_max_size", .int c.poolMaxSize),
   ("known_queues", .list (c.knownQueues.map .text)),
   ("known_geographies", .list (c.knownGeographies.map .text)),
   ("log_formatter", .text c.logFormatter),
   ("log_destination", .text c.logDestination),
   ("log_level", .text c.logLevel),
   ("log_format", .text c.logFormat),
   ("log_path", .optText c.logPath)]

namespace Settings

/-- The value of a setting. -/
def value (s : Settings) (name : String) : Datum := (Entries.get? name s).getD .null

/-- The settings that are given and, for the others, those of an environment.  A variable of a
setting that is given is not even read. -/
def read (env : Environment) (given : Settings) : Except Fault Settings := do
  match given.find? fun g => !Entries.has g.1 Config.sources with
  | some g => .error (.shape (.unknownSetting g.1))
  | none   =>
    let unread := given.flatMap fun g => (Entries.get? g.1 Config.sources).getD []
    let c ← (Config.read (env.filter fun v => !unread.contains v.1)).mapError .setting
    .ok (Entries.putAll c.toSettings given)

/-! ### Settings of the right forms -/

/-- The text that a value is. -/
def text? : Datum → Option String
  | .text s => some s
  | _       => none

/-- The whole number that a value is. -/
def int? : Datum → Option Int
  | .int n => some n
  | _      => none

/-- The number that a value is; a truth value is none. -/
def number? : Datum → Option Number
  | .int n   => some (.int n)
  | .float x => some (.float x)
  | _        => none

/-- The texts that a value lists. -/
def texts? : Datum → Option (List String)
  | .list xs => xs.mapM text?
  | _        => none

/-- What a value is, where it may be nothing. -/
def orNull (read : Datum → Option α) : Datum → Option (Option α)
  | .null => some none
  | d     => (read d).map some

/-- The configuration that settings are, where every value has the right form. -/
def config? (s : Settings) : Option Config := do
  some {
    sink := ← text? (s.value "sink")
    statsdHost := ← orNull text? (s.value "statsd_host")
    statsdPort := ← orNull int? (s.value "statsd_port")
    otelEndpoint := ← orNull text? (s.value "otel_endpoint")
    otelProtocol := ← text? (s.value "otel_protocol")
    otelExportInterval := ← number? (s.value "otel_export_interval_seconds")
    cadence := ← number? (s.value "cadence_seconds")
    tickDeadline := ← orNull number? (s.value "tick_deadline_seconds")
    applicationTag := ← orNull text? (s.value "application_tag")
    maxSinkFailures := ← int? (s.value "max_consecutive_sink_failures")
    databaseUrl := ← text? (s.value "database_url")
    poolMaxSize := ← int? (s.value "db_pool_max_size")
    knownQueues := ← texts? (s.value "known_queues")
    knownGeographies := ← texts? (s.value "known_geographies")
    logFormatter := ← text? (s.value "log_formatter")
    logDestination := ← text? (s.value "log_destination")
    logLevel := ← text? (s.value "log_level")
    logFormat := ← text? (s.value "log_format")
    logPath := ← orNull text? (s.value "log_path") }

/-! ### Settings of any form -/

/-- The fault of two values that a relation does not hold between, because they have no order. -/
def unordered (relation : String) (a b : Datum) : ShapeFault :=
  .incomparable relation a.qualifiedType b.qualifiedType

/-- Whether one value is at most another. -/
def atMost (a b : Datum) : Except ShapeFault Bool :=
  match a.number?, b.number? with
  | some m, some n => .ok (m.le n)
  | _,      _      => .error (unordered "<=" a b)

/-- Whether a value is more than one. -/
def exceedsOne (d : Datum) : Except ShapeFault Bool :=
  match d.number? with
  | some n => .ok ((Number.int 1).lt n)
  | none   => .error (unordered ">" d (.int 1))

/-- The time a query may take. -/
def deadline (s : Settings) : Except ShapeFault Datum := do
  let cadence := s.value "cadence_seconds"
  match s.value "tick_deadline_seconds" with
  | .null =>
    if ← exceedsOne cadence then
      .ok ((cadence.number?.map fun n => Datum.number (n - .int 1)).getD cadence)
    else .ok cadence
  | d     => .ok d

/-- Why the settings of the statsd sink are refused, if they are. -/
def statsdFault? (s : Settings) : Except ShapeFault (Option SettingFault) := do
  let port := s.value "statsd_port"
  let refused := SettingFault.portOutOfRange port.message
  if !(s.value "statsd_host").isPresent || port matches .null then .ok (some .statsdIncomplete)
  else if ← Datum.less (.int 0) port then
    .ok (if ← Datum.less port (.int 65536) then none else some refused)
  else .ok (some refused)

/-- Why the settings of the export sink are refused, if they are. -/
def otelFault? (s : Settings) : Except ShapeFault (Option SettingFault) := do
  let protocol := s.value "otel_protocol"
  if !(s.value "otel_endpoint").isPresent then .ok (some .endpointMissing)
  else if !SettingFault.protocols.any fun p => Datum.same (.text p) protocol then
    .ok (some (.unknownProtocol protocol.shown))
  else if ← atMost (s.value "otel_export_interval_seconds") (.int 0) then
    .ok (some .exportInterval)
  else .ok none

/-- Why the settings of the chosen sink are refused, if they are. -/
def sinkFault? (s : Settings) : Except ShapeFault (Option SettingFault) :=
  match s.value "sink" with
  | .text "statsd" => s.statsdFault?
  | .text "otel"   => s.otelFault?
  | .text "none"   => .ok none
  | d              => .ok (some (.unknownSink d.shown))

/-- Whether a deadline is positive and at most the cadence. -/
def admits (cadence deadline : Datum) : Except ShapeFault Bool := do
  if ← Datum.less (.int 0) deadline then atMost deadline cadence else .ok false

/-- Why the settings that every sink shares are refused, if they are. -/
def loopFault? (s : Settings) : Except ShapeFault (Option SettingFault) := do
  let cadence := s.value "cadence_seconds"
  if ← atMost cadence (.int 0) then .ok (some (.cadence cadence.message))
  else
    let deadline ← s.deadline
    if !(← admits cadence deadline) then
      .ok (some (.deadline cadence.message deadline.message))
    else if ← atMost (s.value "max_consecutive_sink_failures") (.int 0) then
      .ok (some .failureLimit)
    else if ← atMost (s.value "db_pool_max_size") (.int 0) then .ok (some .poolSize)
    else if !(s.value "known_geographies").isPresent then .ok (some .noGeography)
    else .ok none

/-- The first reason for which the process cannot start with these settings. -/
def validate (s : Settings) : Except Fault Unit := do
  let refuse : Option SettingFault → Except Fault Unit
    | some e => .error (.setting e)
    | none   => .ok ()
  refuse (← s.sinkFault?.mapError .shape)
  refuse (← s.loopFault?.mapError .shape)

/-- The address of the database with the password masked.  Nothing, and what else is not present,
has no password; other values that are no text have no parts to look at. -/
def shownUrl : Datum → Except Fault Datum
  | .text u  => ((Url.redact u).mapError .url).map .text
  | .list ds => .error (.shape (.unhashable (Datum.list ds).typeName))
  | .record fs => .error (.shape (.unhashable (Datum.record fs).typeName))
  | d        =>
    if d.isPresent then .error (.shape (.noMember d.qualifiedType "decode")) else .ok d

/-- The effective settings for display, the database password masked. -/
def redacted (s : Settings) : Except Fault Settings := do
  let url ← shownUrl (s.value "database_url")
  let deadline ← s.deadline.mapError .shape
  let queues ← (s.value "known_queues").elements.mapError .shape
  let geographies ← (s.value "known_geographies").elements.mapError .shape
  let shown :=
    [("database_url", url), ("tick_deadline_seconds", deadline), ("known_queues", .list queues),
     ("known_geographies", .list geographies)]
  .ok (Config.displayed.map fun name => (name, (Entries.get? name shown).getD (s.value name)))

/-- The pool that the settings ask for. -/
def poolRequest (s : Settings) : Except ShapeFault PoolRequest := do
  .ok { dsn := s.value "database_url"
        maxSize := s.value "db_pool_max_size"
        commandTimeout := ← s.deadline
        applicationName := PoolRequest.nameUnder (s.value "application_tag") }

end Settings
end FleetHealth
