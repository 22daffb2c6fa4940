import FleetHealth.Emitter.Basic
import FleetHealth.Reporter.Report
import FleetHealth.Reporter.Source

/-!
# Reporter — Basic

One tick of the reporter.  It walks its bindings in order, asks each operation under the deadline, fans the answer out into points and submits them.  An indicator whose query fails, whose answer has no points, or one of whose points the emitter refuses is counted as failed and the next has its turn; before each the reporter looks whether it was told to stop.  However the walk ends, the emitter is flushed.

The reporter writes down what it does in a journal, newest first, with the phase it was in; the events of its emitter stand among its own.
-/

namespace FleetHealth

/-- What the reporter is doing. -/
inductive Phase where
  | idle
  | tick
  | emit
  | sleep
  | stopped
deriving DecidableEq, Repr

/-- The word for a phase. -/
def Phase.word : Phase → String
  | idle    => "idle"
  | tick    => "tick"
  | emit    => "emit"
  | sleep   => "sleep"
  | stopped => "stopped"

/-- What the reporter does. -/
inductive ReporterEvent (τ : Type) where
  | began (time : τ)
  | asked (operation : Operation) (phase : Phase)
  | submitted (metric : Metric) (phase : Phase)
  | flushing (phase : Phase)
  | ended (time : τ) (phase : Phase)
  | ticked (report : TickReport τ)
  | slept (delay : τ) (phase : Phase)
  | told
  | closing (phase : Phase)
  | sink (e : SinkEvent)

/-- The loop over the indicators: its settings, its surroundings, and how far it has come. -/
structure Reporter (τ : Type) where
  cadence : τ
  deadline : τ
  bindings : List Binding
  source : Source
  playbook : Playbook τ
  emitter : Emitter
  clock : τ
  stopRequested : Bool := false
  phase : Phase := .idle
  ticks : Nat := 0
  journal : List (ReporterEvent τ) := []

namespace Reporter

variable {τ : Type} [TimeScale τ]

/-! ### Writing down -/

/-- The reporter with one more event in its journal. -/
def note (r : Reporter τ) (ev : ReporterEvent τ) : Reporter τ :=
  { r with journal := ev :: r.journal }

/-- The reporter with one more log entry. -/
def say (r : Reporter τ) (level : Log.Level) (event : String)
    (fields : List (String × Datum)) (attachment : Log.Attachment := .none) : Reporter τ :=
  r.note (.sink (.said
    { level := level
      logger := "syncwatch.reporter"
      event := event
      fields := fields
      attachment := attachment }))

/-- The reporter in a phase. -/
def enter (r : Reporter τ) (p : Phase) : Reporter τ := { r with phase := p }

/-- The reporter, told to stop or not; it is told once. -/
def tell (r : Reporter τ) (stop : Bool) : Reporter τ :=
  if stop && !r.stopRequested then { r with stopRequested := true }.note .told else r

/-- A call of the emitter, whose events are written down among the reporter's. -/
def onEmitter (r : Reporter τ) (call : Emitter → Emitter × α) : Reporter τ × α :=
  let (e, a) := call { r.emitter with journal := [] }
  ({ r with
      emitter := { e with journal := [] }
      journal := e.journal.map .sink ++ r.journal }, a)

/-! ### Queries -/

/-- The fault of a query that was given up. -/
def timedOut : Fault := .outside .timeout none

/-- An operation asked under the deadline: time passes up to the deadline, and only an answer that
comes by then counts. -/
def ask (r : Reporter τ) (o : Operation) : Reporter τ × Except Fault Aggregate :=
  if TimeScale.notAfter r.deadline 0 then (r, .error timedOut)
  else
    let r := r.note (.asked o r.phase)
    let (b, rest) := r.playbook.next o
    let latest := r.clock + r.deadline
    let answered := r.clock + b.takes
    let r := { r with playbook := rest }.tell b.stopsWaiting
    if TimeScale.before latest answered then ({ r with clock := latest }, .error timedOut)
    else ({ r with clock := answered }.tell b.stops, r.source.answer o b.sent)

/-! ### Indicators -/

/-- A reporter, the report of its tick so far, and a fault that ends the tick. -/
abbrev Progress (τ : Type) := Reporter τ × TickReport τ × Option Fault

/-- The entry about an indicator that crashed at a stage. -/
def sayCrash (r : Reporter τ) (name stage : String) (f : Fault) : Reporter τ :=
  r.say .error "indicator.crashed" [("indicator", .text name), ("stage", .text stage)] (.fault f.summary)

/-- An indicator counted as failed; a crash of the sink under the count ends the tick. -/
def failIndicator (r : Reporter τ) (report : TickReport τ) (name error : String) : Progress τ :=
  let report := { report with failed := report.failed ++ [name] }
  match r.onEmitter fun e => e.recordError (.text name) with
  | (r, .error f)  => (r, report, some f)
  | (r, .ok total) =>
    (r.say .warning "indicator.failed"
      [("indicator", .text name), ("error", .text error), ("errors_total", .int total)],
     report, none)

/-- How long a query was waited for. -/
def patience (r : Reporter τ) : String :=
  "timed out after " ++ (TimeScale.toNumber r.deadline).text ++ "s"

/-- A query that brought no answer, counted as a failure of its indicator. -/
def failQuery (r : Reporter τ) (report : TickReport τ) (name : String) (f : Fault) : Progress τ :=
  match f with
  | .queryFailed _ cause => r.failIndicator report name cause.shown
  | f                    =>
    if f.kind = .timeout then r.failIndicator report name r.patience
    else (r.sayCrash name "query" f).failIndicator report name f.shown

/-- A point that could not be submitted, counted as a failure of its indicator. -/
def failEmit (r : Reporter τ) (report : TickReport τ) (name : String) (f : Fault) : Progress τ :=
  if f.kind.isValue then r.failIndicator report name f.text
  else (r.sayCrash name "emit" f).failIndicator report name f.shown

/-- A point submitted as a sample of a metric. -/
def submit (r : Reporter τ) (m : Metric) (p : Point) : Reporter τ × Except Fault Unit :=
  (r.note (.submitted m r.phase)).onEmitter fun e => e.submit m m.type p.value p.dims

/-- The points of a metric submitted in order, up to the first that is refused. -/
def submitAll (m : Metric) : List Point → Reporter τ → TickReport τ → Progress τ
  | [],      r, report => (r, report, none)
  | p :: ps, r, report =>
    match r.submit m p with
    | (r, .error f) => r.failEmit report m.name f
    | (r, .ok _)    =>
      submitAll m ps r { report with samples := report.samples ++ [⟨m, p.value, p.dims⟩] }

/-- The turn of one binding. -/
def visit (b : Binding) (r : Reporter τ) (report : TickReport τ) : Progress τ :=
  match (r.enter .tick).ask b.operation with
  | (r, .error f)     => r.failQuery report b.metric.name f
  | (r, .ok answered) =>
    let r := r.enter .emit
    match b.shape.points answered with
    | .error f => r.failEmit report b.metric.name f
    | .ok ps   => submitAll b.metric ps r report

/-- The turns of bindings in order; where the reporter heeds the request to stop, it is looked for
before each. -/
def walk (heeds : Bool) : List Binding → Reporter τ → TickReport τ → Progress τ
  | [],      r, report => (r, report, none)
  | b :: bs, r, report =>
    if heeds && r.stopRequested then (r, { report with interrupted := true }, none)
    else
      match visit b r report with
      | (r, report, some f) => (r, report, some f)
      | (r, report, none)   => walk heeds bs r report

/-! ### Ticks -/

/-- The entries about a tick that was completed. -/
def sayCompleted (r : Reporter τ) (report : TickReport τ) : Reporter τ :=
  let r := r.say .info "reporter.tick.completed"
    [("tick", .int r.ticks), ("samples", .int report.samples.length),
     ("failed", report.failedNames), ("duration_seconds", TimeScale.rounded 3 report.duration),
     ("interrupted", .bool report.interrupted)]
  if TimeScale.before r.cadence report.duration then
    r.say .warning "reporter.tick.overrun"
      [("duration_seconds", TimeScale.rounded 3 report.duration),
       ("cadence_seconds", TimeScale.toDatum r.cadence)]
  else r

/-- One tick: every indicator has its turn, then the emitter is flushed. -/
def tick (heeds : Bool) (r : Reporter τ) : Reporter τ × Except Fault (TickReport τ) :=
  let start := r.clock
  let (r, report, escaped) := walk heeds r.bindings (r.note (.began start)) .empty
  match (r.note (.flushing r.phase)).onEmitter Emitter.flush with
  | (r, .error f) => (r.note (.ended r.clock r.phase), .error f)
  | (r, .ok _)    =>
    let r := { r with ticks := r.ticks + 1, phase := .idle }
    match escaped with
    | some f => (r.note (.ended r.clock r.phase), .error f)
    | none   =>
      let report := { report with duration := r.clock - start }
      let r := (r.sayCompleted report).note (.ticked report)
      (r.note (.ended r.clock r.phase), .ok report)

end Reporter
end FleetHealth
