import FleetHealth.Job.Runtime
import FleetHealth.Job.Schedule

/-!
# Repository — Rows

From the rows of a statement to a small aggregate.  Aggregates keyed by queue or geography begin with the known keys at zero and then take each row's value, so a known key never disappears; ages are never below zero; the counts of schedules and the list of long runners look at each row on its own.  A row that is not of the expected form is a fault.
-/

namespace FleetHealth

/-- A running sync that takes unusually long. -/
structure LongRunner where
  connectionId : Datum
  sourceImage : Datum
  destinationImage : Datum

namespace LongRunner

/-- The name of the type of long runners in messages. -/
def typeName : String := "LongRunningJobRecord"

/-- The long runner of one to three parts: the connection and its images, where an image that is
left out is the empty text. -/
def ofParts : List Datum → Except ShapeFault LongRunner
  | [c]       => .ok ⟨c, .text "", .text ""⟩
  | [c, s]    => .ok ⟨c, s, .text ""⟩
  | [c, s, d] => .ok ⟨c, s, d⟩
  | ds        => .error (.runnerParts ds.length)

/-- The long runner whose parts are the members of a value. -/
def ofDatum (d : Datum) : Except ShapeFault LongRunner :=
  match d.elements with
  | .ok ds   => ofParts ds
  | .error _ => .error (.runnerWhole d.qualifiedType)

end LongRunner

namespace Rows

/-- The queue that stands for no queue. -/
def nullQueue : String := "null"

/-- Every known key at zero first, then the observed ones. -/
def zeroFilled (known : List Key) (observed : List (Key × α)) (zero : α) : List (Key × α) :=
  Entries.putAll (Entries.ofPairs (known.map fun k => (k, zero))) observed

/-- A float that is not below zero. -/
def clamp (x : Binary64) : Binary64 := x.max .zero

/-- The queue of a row, where no queue has a name of its own. -/
def queueOf (row : Datum) : Except ShapeFault Datum :=
  (row.column "queue").map fun d =>
    match d with
    | .null => .text nullQueue
    | d     => d

/-- The geography of a row. -/
def geographyOf (row : Datum) : Except ShapeFault Datum := row.column "geography"

/-- The number of jobs of a row. -/
def jobsOf (row : Datum) : Except ShapeFault Int := do (← row.column "jobs").toInt

/-- The age of a row in seconds, not below zero. -/
def ageOf (row : Datum) : Except ShapeFault Binary64 := do
  .ok (clamp (← (← row.column "age_seconds").toFloat))

/-- The pair of a row: its key and its value. -/
def pairOf (keyOf : Datum → Except ShapeFault Datum) (valueOf : Datum → Except ShapeFault α)
    (row : Datum) : Except ShapeFault (Key × α) := do
  let k ← keyOf row
  let v ← valueOf row
  .ok (← Key.ofDatum k, v)

/-- The aggregate of rows by key, known keys first. -/
def keyed (known : List String) (keyOf : Datum → Except ShapeFault Datum)
    (valueOf : Datum → Except ShapeFault α) (zero : α) (rows : List Datum) :
    Except ShapeFault (List (Key × α)) := do
  .ok (zeroFilled (known.map .text) (← rows.mapM (pairOf keyOf valueOf)) zero)

/-- Running jobs by queue; the name for no queue is always known. -/
def runningJobsByQueue (knownQueues : List String) (rows : List Datum) :
    Except ShapeFault (List (Key × Int)) :=
  keyed (knownQueues ++ [nullQueue]) queueOf jobsOf 0 rows

/-- Age of the oldest running job by queue. -/
def oldestRunningJobAgeByQueue (knownQueues : List String) (rows : List Datum) :
    Except ShapeFault (List (Key × Binary64)) :=
  keyed knownQueues queueOf ageOf .zero rows

/-- Pending jobs by geography. -/
def pendingJobsByGeography (knownGeographies : List String) (rows : List Datum) :
    Except ShapeFault (List (Key × Int)) :=
  keyed knownGeographies geographyOf jobsOf 0 rows

/-- Age of the oldest pending job by geography. -/
def oldestPendingJobAgeByGeography (knownGeographies : List String) (rows : List Datum) :
    Except ShapeFault (List (Key × Binary64)) :=
  keyed knownGeographies geographyOf ageOf .zero rows

/-- A single count; nothing counts as zero. -/
def count (d : Datum) : Except ShapeFault Int :=
  if d.isPresent then d.toInt else .ok 0

/-- The connections of each workspace that has any. -/
def connectionsPerWorkspace (rows : List Datum) : Except ShapeFault (List Int) :=
  rows.foldlM (fun counts row => do
    let d ← row.column "connections"
    if d.isPresent then .ok (counts ++ [← d.toInt]) else .ok counts) []

/-- Mean runtime by terminal status; rows without a runtime are left out. -/
def terminalRuntimes (rows : List Datum) : Except ShapeFault (List (JobStatus × Binary64)) :=
  rows.foldlM (fun means row => do
    match ← row.column "runtime_seconds" with
    | .null => .ok means
    | d     =>
      let status ← JobStatus.ofDatum (← row.column "status")
      .ok (Entries.put status (clamp (← d.toFloat)) means)) []

/-- Whether the connection of a row fell behind its cadence. -/
def fellBehind (nesting : Nat) (now : Instant) (row : Datum) : Except ShapeFault Bool := do
  let cadence ← Schedule.interval nesting (← row.column "schedule")
  let status ← row.column "last_status"
  let ended ← row.column "last_updated_at"
  let created ← row.column "created_at"
  Schedule.missed cadence status ended created (.instant now)

/-- How many connections fell behind their cadence. -/
def missedSchedules (nesting : Nat) (now : Instant) (rows : List Datum) : Except ShapeFault Int :=
  rows.foldlM (fun n row => do .ok (if ← fellBehind nesting now row then n + 1 else n)) 0

/-- The recent runtimes of a row, missing ones left out. -/
def runtimesOf (row : Datum) : Except ShapeFault (List Binary64) := do
  let d ← row.column "runtimes"
  let members ← if d.isPresent then d.elements else .ok []
  (members.filter fun m => !(m matches .null)).mapM Datum.toFloat

/-- A text column where nothing counts as the empty text. -/
def imageOf (name : String) (row : Datum) : Except ShapeFault Datum :=
  (row.column name).map fun d => if d.isPresent then d else .text ""

/-- The record of a row, when its sync takes unusually long. -/
def longRunnerOf (row : Datum) : Except ShapeFault (Option LongRunner) := do
  let runtimes ← runtimesOf row
  let elapsed ← (← row.column "elapsed_seconds").toFloat
  if ← Runtime.isUnusuallyLong (.float elapsed) runtimes then
    let connection ← row.column "connection_id"
    let source ← imageOf "source_image" row
    let destination ← imageOf "destination_image" row
    .ok (some ⟨connection, source, destination⟩)
  else .ok none

/-- The syncs that take unusually long, in the order of the rows. -/
def longRunners (rows : List Datum) : Except ShapeFault (List LongRunner) := do
  .ok ((← rows.mapM longRunnerOf).filterMap id)

end Rows
end FleetHealth
