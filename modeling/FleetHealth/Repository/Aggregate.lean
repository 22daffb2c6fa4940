import FleetHealth.Metric.Catalog
import FleetHealth.Repository.Rows
import FleetHealth.Repository.Statement

/-!
# Repository — Aggregate

What an operation answers, and how an answer fans out into points.  `Repository.aggregate` turns what the database sent into the aggregate of an operation; `Shape.points` turns an aggregate into values with dimensions; a `Binding` ties a metric, an operation and a shape together, and `Binding.defaults` has one for every reported metric in catalog order.
-/

namespace FleetHealth

/-- What an operation answers. -/
inductive Aggregate where
  | plain (d : Datum)
  | keyed (entries : List (Key × Datum))
  | runtimes (entries : List (JobStatus × Binary64))
  | runners (records : List LongRunner)

/-- A value of a metric with its dimensions. -/
structure Point where
  value : Datum
  dims : Datum

/-- How an aggregate fans out into points. -/
inductive Shape where
  | scalar
  | each
  | byStatus
  | longRunners
  | keyed (dimension : String)
  | fixed (points : List Point)
  | raises (f : Fault)

/-- The known dimension values, and how many containers may stand one inside the other in the text of
a schedule. -/
structure Repository where
  knownQueues : List String := ["SYNC", "AWS_PARIS_SYNC"]
  knownGeographies : List String := ["AUTO", "US", "EU"]
  nesting : Nat

namespace Repository

/-- Counts as values. -/
def counts (es : List (Key × Int)) : Aggregate := .keyed (es.map fun e => (e.1, .int e.2))

/-- Ages as values. -/
def ages (es : List (Key × Binary64)) : Aggregate := .keyed (es.map fun e => (e.1, .float e.2))

/-- The rows that came back. -/
def rowsOf (answer : Datum) : Except ShapeFault (List Datum) := answer.elements

/-- The aggregate of an operation from what the database sent at a time. -/
def aggregate (r : Repository) (now : Instant) (o : Operation) (answer : Datum) :
    Except ShapeFault Aggregate := do
  match o with
  | .orphanRunningJobs | .scheduledActiveConnectionsLastDay =>
    .ok (.plain (.int (← Rows.count answer)))
  | .runningJobsByQueue =>
    .ok (counts (← Rows.runningJobsByQueue r.knownQueues (← rowsOf answer)))
  | .oldestRunningJobAgeByQueue =>
    .ok (ages (← Rows.oldestRunningJobAgeByQueue r.knownQueues (← rowsOf answer)))
  | .pendingJobsByGeography =>
    .ok (counts (← Rows.pendingJobsByGeography r.knownGeographies (← rowsOf answer)))
  | .oldestPendingJobAgeByGeography =>
    .ok (ages (← Rows.oldestPendingJobAgeByGeography r.knownGeographies (← rowsOf answer)))
  | .activeConnectionsPerWorkspace =>
    .ok (.plain (.list ((← Rows.connectionsPerWorkspace (← rowsOf answer)).map .int)))
  | .terminalJobRuntimeLastHour =>
    .ok (.runtimes (← Rows.terminalRuntimes (← rowsOf answer)))
  | .jobsNotRunningOnScheduleLastDay =>
    .ok (.plain (.int (← Rows.missedSchedules r.nesting now (← rowsOf answer))))
  | .unusuallyLongRunningJobs =>
    .ok (.runners (← Rows.longRunners (← rowsOf answer)))

/-- A fault of the database or of the system is a failure of the operation; others pass as they
are. -/
def wrap (o : Operation) (f : Fault) : Fault :=
  match f with
  | .outside k _ => if k.isDatabase || k.isSystem then .queryFailed o.name f else f
  | f            => f

/-- What an operation answers when the database sends a value or raises. -/
def answer (r : Repository) (now : Instant) (o : Operation) (sent : Except Fault Datum) :
    Except Fault Aggregate :=
  match sent with
  | .error f => .error (wrap o f)
  | .ok d    => (r.aggregate now o d).mapError .shape

end Repository

/-- What an aggregate holds, seen one by one: a value, the status that a runtime stands under, or a
long runner. -/
inductive Member where
  | plain (d : Datum)
  | status (s : JobStatus)
  | runner (r : LongRunner)

namespace Member

/-- The name of a member's type. -/
def typeName : Member → String
  | plain d  => d.qualifiedType
  | status _ => JobStatus.vocabulary
  | runner _ => LongRunner.typeName

/-- A member inside a message. -/
def message : Member → String
  | plain d  => d.message
  | status s => s.qualified
  | runner _ => LongRunner.typeName

/-- The float that a member is or writes; the word for a status writes none. -/
def toFloat : Member → Except ShapeFault Binary64
  | plain d  => d.toFloat
  | status s => .error (.notNumber s.shown)
  | runner _ => .error (.noNumberFrom LongRunner.typeName)

/-- The status that a member is or is the word for. -/
def toStatus : Member → Except ShapeFault JobStatus
  | plain d  => JobStatus.ofDatum d
  | status s => .ok s
  | runner _ => .error (.unknownName LongRunner.typeName JobStatus.vocabulary)

/-- The long runner that a member is. -/
def toRunner : Member → Except ShapeFault LongRunner
  | runner r => .ok r
  | m        => .error (.noMember m.typeName "connection_id")

end Member

namespace Aggregate

/-- The name of an aggregate's type. -/
def typeName : Aggregate → String
  | plain d    => d.qualifiedType
  | keyed _    => "dict"
  | runtimes _ => "dict"
  | runners _  => "list"

/-- The members to go over one by one: of a map, its keys. -/
def members : Aggregate → Except ShapeFault (List Member)
  | plain d     => d.elements.map fun ds => ds.map .plain
  | keyed es    => .ok (es.map fun e => .plain e.1.toDatum)
  | runtimes es => .ok (es.map fun e => .status e.1)
  | runners rs  => .ok (rs.map .runner)

/-- The pairs of a map. -/
def pairs : Aggregate → Except ShapeFault (List (Member × Datum))
  | plain (.record fs) => .ok (fs.map fun f => (.plain (.text f.1), f.2))
  | keyed es           => .ok (es.map fun e => (.plain e.1.toDatum, e.2))
  | runtimes es        => .ok (es.map fun e => (.status e.1, .float e.2))
  | a                  => .error (.noMember a.typeName "items")

end Aggregate

namespace Shape

/-- The dimensions of a long runner. -/
def runnerDims (r : LongRunner) : Datum :=
  .record [("connection_id", r.connectionId), ("source_image", r.sourceImage),
           ("destination_image", r.destinationImage)]

/-- A value as a point, under dimensions. -/
def pointOf (dims d : Datum) : Except ShapeFault Point := do
  .ok ⟨.float (← d.toFloat), dims⟩

/-- The points of an aggregate. -/
def points (s : Shape) (a : Aggregate) : Except Fault (List Point) :=
  let shaped (r : Except ShapeFault (List Point)) : Except Fault (List Point) := r.mapError .shape
  match s with
  | .fixed ps    => .ok ps
  | .raises f    => .error f
  | .scalar      =>
    shaped <| match a with
      | .plain d => (pointOf (.record []) d).map ([·])
      | a        => .error (.noNumberFrom a.typeName)
  | .each        => shaped do
    (← a.members).mapM fun m => do .ok ⟨.float (← m.toFloat), .record []⟩
  | .keyed dim   => shaped do
    (← a.pairs).mapM fun (k, v) => pointOf (.record [(dim, .text k.message)]) v
  | .byStatus    => shaped do
    (← a.pairs).mapM fun (k, v) => do
      let x ← v.toFloat
      .ok ⟨.float x, .record [("status", .text (← k.toStatus).word)]⟩
  | .longRunners => shaped do
    (← a.members).mapM fun m => do .ok ⟨.float (.ofNat 1), runnerDims (← m.toRunner)⟩

end Shape

/-- A metric, the operation that feeds it, and how the answer fans out. -/
structure Binding where
  metric : Metric
  operation : Operation
  shape : Shape

namespace Binding

/-- One binding for every reported metric, in catalog order. -/
def defaults : List Binding :=
  [⟨.jobRunningByQueue, .runningJobsByQueue, .keyed "queue"⟩,
   ⟨.jobRunningOldestAgeSeconds, .oldestRunningJobAgeByQueue, .keyed "queue"⟩,
   ⟨.jobOrphanRunning, .orphanRunningJobs, .scalar⟩,
   ⟨.jobPendingByGeography, .pendingJobsByGeography, .keyed "geography"⟩,
   ⟨.jobPendingOldestAgeSeconds, .oldestPendingJobAgeByGeography, .keyed "geography"⟩,
   ⟨.connectionActivePerWorkspace, .activeConnectionsPerWorkspace, .each⟩,
   ⟨.jobTerminalRuntimeSeconds, .terminalJobRuntimeLastHour, .byStatus⟩,
   ⟨.connectionScheduledLastDay, .scheduledActiveConnectionsLastDay, .scalar⟩,
   ⟨.jobMissedScheduleLastDay, .jobsNotRunningOnScheduleLastDay, .scalar⟩,
   ⟨.jobUnusuallyLongRunning, .unusuallyLongRunningJobs, .longRunners⟩]

end Binding
end FleetHealth
