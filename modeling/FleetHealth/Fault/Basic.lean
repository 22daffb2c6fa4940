import FleetHealth.Datum.Order

/-!
# Fault — Basic

Everything that can go wrong, by cause.  Faults that come from outside (the database, a socket, an exporter) have a kind and perhaps a text; the others say what was found.  `kind` places a fault among the kinds, `message` is its wording, and `summary` is what of it can be seen in other messages and in log fields.
-/

namespace FleetHealth

/-- A setting that the process cannot start with. -/
inductive SettingFault where
  | notAnInteger (name value : String)
  | notANumber (name value : String)
  | unknownSink (shown : String)
  | statsdIncomplete
  | portOutOfRange (port : String)
  | endpointMissing
  | unknownProtocol (shown : String)
  | exportInterval
  | cadence (shown : String)
  | deadline (cadence deadline : String)
  | failureLimit
  | poolSize
  | noGeography
  | unbuildableSink (shown : String)
deriving DecidableEq

/-- A sample that a metric does not admit. -/
inductive SampleFault where
  | wrongType (metric actual expected : String)
  | dimensions (metric : String) (missing extra : List Datum) (detail : Option String)
  | badValue (metric : String) (value : Binary64)
  | unknownMetric (shown : String) (available : List String)

/-- A text that is no URL. -/
inductive UrlFault where
  | unbalancedBrackets
  | badFutureAddress
  | noAddress (host : String)
  | bracketedIPv4
  | foldedSeparator (authority : String)
deriving DecidableEq

/-- Anything that can go wrong. -/
inductive Fault where
  | outside (kind : Fault.Kind) (text : Option String)
  | queryFailed (operation : String) (cause : Fault)
  | setting (cause : SettingFault)
  | shape (cause : ShapeFault)
  | sample (cause : SampleFault)
  | sendWouldBlock (cause : Fault)
  | sendFailed (address : String) (cause : Fault)
  | socketClosed
  | batchDropped
  | noInstrument (metric : String)
  | instrumentMismatch (instrument operation : String)
  | socketUnavailable (address : String) (cause : Fault)
  | pipelineUnavailable (endpoint : String) (cause : Fault)
  | intervalNotPositive (millis : String)
  | clientTaken (sink : String)
  | unknownLogChoice (what shown : String) (available : List String)
  | unknownLogLevel (level : String)
  | noLogLevel
  | file (kind : Fault.Kind) (errno : Nat) (reason path : String)
  | url (cause : UrlFault)

namespace SettingFault

/-- The sinks that can be chosen, in the order of messages. -/
def sinks : List String := ["statsd", "otel", "none"]

/-- The export protocols that can be chosen, in the order of messages. -/
def protocols : List String := ["grpc", "http/protobuf"]

/-- The wording of a refused setting. -/
def message : SettingFault → String
  | notAnInteger v x  => v ++ "=" ++ Text.quoted x ++ " is not a valid integer"
  | notANumber v x    => v ++ "=" ++ Text.quoted x ++ " is not a valid number"
  | unknownSink s     =>
    "Unknown sink: " ++ s ++ ". Available: " ++ Text.quotedList sinks
  | statsdIncomplete  => "sink=statsd requires SYNCWATCH_STATSD_HOST and SYNCWATCH_STATSD_PORT"
  | portOutOfRange p  => "statsd port out of range: " ++ p
  | endpointMissing   => "sink=otel requires SYNCWATCH_OTEL_ENDPOINT"
  | unknownProtocol p =>
    "Unknown OTel protocol: " ++ p ++ ". Available: " ++ Text.quotedList protocols
  | exportInterval    => "otel export interval must be positive"
  | cadence c         => "cadence must be positive, got " ++ c
  | deadline c d      => "tick deadline must be in (0, cadence=" ++ c ++ "], got " ++ d
  | failureLimit      => "max consecutive sink failures must be positive"
  | poolSize          => "database pool size must be positive"
  | noGeography       => "at least one known geography is required"
  | unbuildableSink s => "Unknown sink: " ++ s

end SettingFault

namespace SampleFault

/-- The kind of a refused sample. -/
def kind : SampleFault → Fault.Kind
  | wrongType .. | badValue .. => .value
  | dimensions ..              => .dimensions
  | unknownMetric ..           => .key

/-- The wording of a refused sample. -/
def message : SampleFault → String
  | wrongType m actual expected => m ++ " is a " ++ actual ++ ", not a " ++ expected
  | dimensions m missing extra detail =>
    let parts :=
      (if missing.isEmpty then [] else ["missing " ++ (Datum.list missing).shown])
      ++ (if extra.isEmpty then [] else ["unexpected " ++ (Datum.list extra).shown])
      ++ (match detail with
          | some d => if d.isEmpty then [] else [d]
          | none   => [])
    m ++ ": " ++ String.intercalate ", " parts
  | badValue m x =>
    m ++ ": value must be a finite non-negative number, got " ++ x.text
  | unknownMetric n available =>
    "Unknown metric: " ++ n ++ ". Available: " ++ Text.quotedList available

end SampleFault

/-- The wording of a refused URL. -/
def UrlFault.message : UrlFault → String
  | unbalancedBrackets => "Invalid IPv6 URL"
  | badFutureAddress   => "IPvFuture address is invalid"
  | noAddress h        => Text.quoted h ++ " does not appear to be an IPv4 or IPv6 address"
  | bracketedIPv4      => "An IPv4 address cannot be in brackets"
  | foldedSeparator a  =>
    "netloc '" ++ a ++ "' contains invalid characters under NFKC normalization"

namespace Fault

/-- The kind of a fault. -/
def kind : Fault → Kind
  | outside k _            => k
  | queryFailed ..         => .query
  | setting _              => .config
  | shape c                => c.kind
  | sample c               => c.kind
  | sendWouldBlock _       => .sinkTransient
  | sendFailed ..          => .sinkFatal
  | socketClosed           => .sinkFatal
  | batchDropped           => .sinkFatal
  | noInstrument _         => .key
  | instrumentMismatch ..  => .noMember
  | socketUnavailable ..   => .emitterInit
  | pipelineUnavailable .. => .emitterInit
  | intervalNotPositive _  => .value
  | clientTaken _          => .client
  | unknownLogChoice ..    => .value
  | unknownLogLevel _      => .value
  | noLogLevel             => .wrongType
  | file k ..              => k
  | url _                  => .value

/-- Whether a fault carries no text at all. -/
def isBare : Fault → Bool
  | outside _ none => true
  | _              => false

/-- The summary of a fault with a wording. -/
def summaryFrom (f : Fault) (wording : String) : Summary :=
  if f.isBare then .bare f.kind else .worded f.kind wording

/-- The wording of a fault. -/
def message : Fault → String
  | outside _ s              => s.getD ""
  | queryFailed op c         => op ++ " failed: " ++ (summaryFrom c c.message).shown
  | setting c                => c.message
  | shape c                  => c.message
  | sample c                 => c.message
  | sendWouldBlock c         => "statsd send would block: " ++ (summaryFrom c c.message).text
  | sendFailed a c           => "statsd send to " ++ a ++ " failed: " ++ (summaryFrom c c.message).text
  | socketClosed             => "statsd socket is closed"
  | batchDropped             => "OTLP export failed; batch dropped"
  | noInstrument m           => m
  | instrumentMismatch i op  => "'" ++ i ++ "' object has no attribute '" ++ op ++ "'"
  | socketUnavailable a c    =>
    "Cannot open statsd socket to " ++ a ++ ": " ++ (summaryFrom c c.message).text
  | pipelineUnavailable e c  =>
    "Cannot initialise OTel pipeline for " ++ e ++ ": " ++ (summaryFrom c c.message).text
  | intervalNotPositive m    =>
    "interval value " ++ m ++ " is invalid                 and needs to be larger than zero."
  | clientTaken s            =>
    "Metric client already initialised with the " ++ Text.quoted s ++ " sink"
  | unknownLogChoice w c xs  =>
    "Unknown log " ++ w ++ ": " ++ c ++ ". Available: " ++ Text.quotedList xs ++ "."
  | unknownLogLevel l        => "Unknown level: " ++ Text.quoted l
  | noLogLevel               => "Level not an integer or a valid string"
  | file _ n reason path     =>
    "[Errno " ++ toString n ++ "] " ++ reason ++ ": " ++ Text.quoted path
  | url c                    => c.message

/-- What of a fault can be seen. -/
def summary (f : Fault) : Summary := f.summaryFrom f.message

/-- A fault as it reads inside another message. -/
def text (f : Fault) : String := f.summary.text

/-- A fault as it reads in a log field. -/
def shown (f : Fault) : String := f.summary.shown

/-- The exception line of a fault. -/
def line (f : Fault) : String := f.summary.line

end Fault
end FleetHealth
