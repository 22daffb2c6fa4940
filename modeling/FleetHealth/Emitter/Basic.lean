import FleetHealth.Sink.Basic

/-!
# Emitter — Basic

The contract between the reporter and a sink.  `submit` admits a sample, hands it to the sink unless the emitter is closed or disabled, and keeps account of what becomes of it: a transient fault is counted, a fatal one is counted and lengthens the run of failures, and a run as long as the limit disables the emitter for good.  Every lost sample is tallied under its indicator and the tally is reported as a sample of its own, whose loss is not tallied again.  `flush` and `shutdown` absorb what the sink raises, and the sink is released once.

An emitter writes down what happens to it in its journal, newest first.  `perform` is one public call and `run` a history of them.
-/

namespace FleetHealth

/-- How a sink is doing. -/
structure Health where
  failures : Nat := 0
  degraded : Bool := false
  disabled : Bool := false
  closed : Bool := false
  errors : List (Key × Nat) := []

/-- A sink with its health and its journal. -/
structure Emitter where
  application : Option String := none
  maxFailures : Int := 10
  health : Health := {}
  sink : Sink
  journal : List SinkEvent := []

namespace Health

/-- The health after a delivery. -/
def delivered (h : Health) : Health := { h with failures := 0, degraded := false }

/-- The health after a fatal fault. -/
def failed (limit : Int) (h : Health) : Health :=
  { h with
    failures := h.failures + 1
    degraded := true
    disabled := h.disabled || decide (limit ≤ h.failures + 1) }

/-- The tally of an indicator. -/
def tally (h : Health) (indicator : Key) : Nat := (Entries.get? indicator h.errors).getD 0

/-- The health with one more error of an indicator. -/
def countError (h : Health) (indicator : Key) : Health :=
  { h with errors := Entries.put indicator (h.tally indicator + 1) h.errors }

/-- Whether samples are no longer handed on. -/
def isOff (h : Health) : Bool := h.closed || h.disabled

end Health

namespace Emitter

/-! ### Writing down -/

/-- The emitter with one more event in its journal. -/
def note (e : Emitter) (ev : SinkEvent) : Emitter := { e with journal := ev :: e.journal }

/-- The emitter with events in its journal, the first of them first. -/
def noteAll (e : Emitter) (evs : List SinkEvent) : Emitter := evs.foldl note e

/-- The emitter with one more log entry, whose first field is the name of the sink. -/
def say (e : Emitter) (level : Log.Level) (event : String)
    (fields : List (String × Datum) := []) (attachment : Log.Attachment := .none) : Emitter :=
  e.note (.said
    { level := level
      logger := "syncwatch.emitters.base"
      event := event
      fields := ("sink", .text e.sink.name) :: fields
      attachment := attachment })

/-! ### Health -/

/-- The emitter when its sink has been turned off. -/
def turnOff (e : Emitter) : Emitter := { e with sink := e.sink.turnOff }.note .turnedOff

/-- The emitter after a delivery. -/
def noteDelivery (e : Emitter) : Emitter := { e with health := e.health.delivered }

/-- The fields of an entry about a fatal fault. -/
def failureFields (failures : Nat) (f : Fault) : List (String × Datum) :=
  [("consecutive_failures", .int failures), ("error", .text f.shown)]

/-- The emitter after a fatal fault; the one that completes the run turns the sink off. -/
def noteFatal (e : Emitter) (f : Fault) : Emitter :=
  let before := e.health.disabled
  let e := { e with health := e.health.failed e.maxFailures }
  let fields := failureFields e.health.failures f
  if e.health.disabled && !before then e.turnOff.say .error "sink.disabled" fields
  else e.say .warning "sink.degraded" fields

/-! ### Samples -/

/-- The gate of every sample: its value and its tags, or why the metric does not admit it. -/
def accept (m : Metric) (expected : MetricType) (value dims : Datum) :
    Except Fault (Binary64 × Tags) :=
  if m.type ≠ expected then
    .error (.sample (.wrongType m.name m.type.label expected.label))
  else
    match m.tagsFor dims with
    | .error f => .error f
    | .ok tags =>
      match value.toFloat with
      | .error s => .error (.shape s)
      | .ok x    =>
        if !x.isFinite || x.lt .zero then .error (.sample (.badValue m.name x))
        else .ok (x, tags)

/-- The key of the application tag. -/
def applicationKey : String := "application"

/-- The tags with the application tag, where there is one. -/
def tagged (e : Emitter) (tags : Tags) : Tags :=
  match e.application with
  | some a => if a.isEmpty then tags else Entries.put applicationKey a tags
  | none   => tags

/-- What became of a sample that was handed to the sink. -/
inductive Attempt where
  | settled
  | lost
  | crashed (f : Fault)

/-- The sink's hook for a sample, written down. -/
def record (e : Emitter) (m : Metric) (x : Binary64) (tags : Tags) : Emitter × Option Fault :=
  let (sink, seen, o) := e.sink.record m x tags
  (({ e with sink := sink }.noteAll seen).note (.recorded m x tags o), o)

/-- A sample handed to the sink, and the account kept of it. -/
def attempt (e : Emitter) (m : Metric) (x : Binary64) (tags : Tags) : Emitter × Attempt :=
  match e.record m x tags with
  | (e, none)   => (if e.sink.isImmediate then e.noteDelivery else e, .settled)
  | (e, some f) =>
    if f.kind = .sinkTransient then
      (e.say .debug "sink.send.transient"
        [("metric", .text m.name), ("error", .text f.shown)], .lost)
    else if f.kind = .sinkFatal then (e.noteFatal f, .lost)
    else (e, .crashed f)

/-- A sample admitted and handed on, unless the emitter is off; a crash of the sink is a fault. -/
def offer (e : Emitter) (m : Metric) (expected : MetricType) (value dims : Datum) :
    Emitter × Except Fault Attempt :=
  match accept m expected value dims with
  | .error f      => (e, .error f)
  | .ok (x, tags) =>
    if e.health.isOff then (e, .ok .settled)
    else
      match e.attempt m x (e.tagged tags) with
      | (e, .crashed f) => (e, .error f)
      | (e, a)          => (e, .ok a)

/-- One more error of an indicator: the tally grows and is reported.  An indicator that is no text
is tallied, but its report is refused; one that is no key is not even tallied. -/
def recordError (e : Emitter) (indicator : Datum) : Emitter × Except Fault Nat :=
  match Key.ofDatum indicator with
  | .error s => (e, .error (.shape s))
  | .ok k    =>
    let e := { e with health := e.health.countError k }
    let total := e.health.tally k
    match e.offer .sinkErrors .gauge (.int total) (.record [("indicator", indicator)]) with
    | (e, .error f) => (e, .error f)
    | (e, .ok _)    => (e, .ok total)

/-- A sample; when it is lost, an error of its indicator, unless it is itself a tally. -/
def submit (e : Emitter) (m : Metric) (expected : MetricType) (value dims : Datum) :
    Emitter × Except Fault Unit :=
  match e.offer m expected value dims with
  | (e, .error f)  => (e, .error f)
  | (e, .ok .lost) =>
    if m = .sinkErrors then (e, .ok ())
    else
      match e.recordError (.text m.name) with
      | (e, .error f) => (e, .error f)
      | (e, .ok _)    => (e, .ok ())
  | (e, .ok _)     => (e, .ok ())

/-! ### Exports -/

/-- The account kept of an export that ended. -/
def noteExport (e : Emitter) : Option Fault → Emitter
  | none   => e.noteDelivery
  | some f => e.noteFatal f

/-- What a relay does, as its emitter takes it: what reaches the collector is written down, and the
account is the listener. -/
def heed (e : Emitter) : Relay.Contact → Emitter
  | .shipped s o => e.note (.exporter (.batch s.metrics o))
  | .flushed ..  => e.note (.exporter .forceFlush)
  | .shut ..     => e.note (.exporter .shutdown)
  | .told report => e.noteExport report

/-- A call that the provider of a pipeline makes of its exporter. -/
def callExporter (e : Emitter) (c : Relay.Call) : Emitter × Except Fault (Option Bool) :=
  match e.sink with
  | .otlp p =>
    let (relay, contacts, a) := p.relay.perform c
    let p := { p with relay := relay }.note (.answered c a)
    (contacts.foldl heed { e with sink := .otlp p }, a)
  | _ => (e, .ok none)

/-- A plan followed to its end: the emitter after it, and what was raised. -/
def follow : Plan → Emitter → Emitter × Option Fault
  | .done raised, e => (e, raised)
  | .call c next, e =>
    let (e, a) := e.callExporter c
    follow (next a) e

/-- What is asked of the provider of a pipeline: the emitter after it, and what was raised. -/
def ask (e : Emitter) (r : Provider.Request) : Emitter × Option Fault :=
  match e.sink with
  | .otlp p => follow (p.provider.plan p.past r) { e with sink := .otlp (p.note (.asked r)) }
  | _       => (e, none)

/-! ### Flush and shutdown -/

/-- The sink's hook for a flush, written down. -/
def flushHook (e : Emitter) : Emitter × Option Fault :=
  match e.sink with
  | .rehearsal r =>
    let (o, rest) := r.flushes.next
    ({ e with sink := .rehearsal { r with flushes := rest } }.note (.flushed o), o)
  | .otlp p =>
    let (e, o) := e.ask (.flush p.flushTimeout)
    (e.note (.flushed o), o)
  | _       => (e.note (.flushed none), none)

/-- The sink's hook for a release, written down. -/
def releaseHook (e : Emitter) : Emitter × Option Fault :=
  match e.sink with
  | .rehearsal r =>
    let (o, rest) := r.releases.next
    ({ e with sink := .rehearsal { r with releases := rest } }.note (.released o), o)
  | .statsd s    =>
    if s.isOpen then
      let (s, o) := s.close
      (({ e with sink := .statsd s }.note (.socket .close)).note (.released o), o)
    else (e.note (.released none), none)
  | .otlp _      =>
    let (e, o) := e.ask .shutdown
    (e.note (.released o), o)
  | .discard _   => (e.note (.released none), none)

/-- What a rehearsal does before it flushes. -/
def prelude (e : Emitter) : Emitter × Option Fault :=
  match e.sink with
  | .rehearsal r =>
    let (o, rest) := r.preludes.next
    ({ e with sink := .rehearsal { r with preludes := rest } }, o)
  | _ => (e, none)

/-- A fault that a hook raised, absorbed into a warning. -/
def absorb (e : Emitter) (event : String) : Option Fault → Emitter
  | none   => e
  | some f => e.say .warning event [] (.fault f.summary)

/-- Everything recorded is sent on, as far as possible. -/
def flush (e : Emitter) : Emitter × Except Fault Unit :=
  match e.prelude with
  | (e, some f) => (e, .error f)
  | (e, none)   =>
    if e.health.isOff then (e, .ok ())
    else
      let (e, o) := e.flushHook
      (e.absorb "sink.flush.failed" o, .ok ())

/-- A last flush, and the sink released, once. -/
def shutdown (e : Emitter) : Emitter × Except Fault Unit :=
  if e.health.closed then (e, .ok ())
  else
    match e.flush with
    | (e, .error f) => (e, .error f)
    | (e, .ok _)    =>
      let e := { e with health := { e.health with closed := true } }
      let (e, o) := e.releaseHook
      ((e.absorb "sink.shutdown.failed" o).say .info "sink.shutdown", .ok ())

/-! ### Histories -/

/-- A public call. -/
inductive Call where
  | sample (type : MetricType) (metric : Metric) (value dims : Datum)
  | recordError (indicator : Datum)
  | flush
  | shutdown

/-- One public call: the emitter after it and its answer, a total where it has one. -/
def perform (e : Emitter) : Call → Emitter × Except Fault (Option Nat)
  | .sample t m v d =>
    let (e, r) := e.submit m t v d
    (e, r.map fun _ => none)
  | .recordError i  =>
    let (e, r) := e.recordError i
    (e, r.map some)
  | .flush          =>
    let (e, r) := e.flush
    (e, r.map fun _ => none)
  | .shutdown       =>
    let (e, r) := e.shutdown
    (e, r.map fun _ => none)

/-- The emitter after a history of public calls. -/
def run (e : Emitter) (calls : List Call) : Emitter :=
  calls.foldl (fun e c => (e.perform c).1) e

end Emitter
end FleetHealth
