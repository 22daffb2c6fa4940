import FleetHealth.Metric.Basic

/-!
# Metric — Catalog

Every metric there is, each defined once.  `catalog` lists them in the order in which they are reported, the count of failures last, and `find` looks one up by its stable name.
-/

namespace FleetHealth.Metric

/-! ### Jobs by queue -/

/-- Running jobs, by processing queue. -/
def jobRunningByQueue : Metric where
  name := "job_running_by_queue"
  isListed := true
  type := .gauge
  description := "Running jobs with a running attempt, by processing queue"
  unit := "jobs"
  dimensions := ["queue"]

/-- Age of the oldest running job, by processing queue. -/
def jobRunningOldestAgeSeconds : Metric where
  name := "job_running_oldest_age_seconds"
  isListed := true
  type := .gauge
  description := "Age of the oldest running job, by processing queue"
  unit := "s"
  dimensions := ["queue"]

/-- Running jobs of connections that are no longer active. -/
def jobOrphanRunning : Metric where
  name := "job_orphan_running"
  isListed := true
  type := .gauge
  description := "Running jobs whose connection is no longer active"
  unit := "jobs"

/-! ### Jobs by geography -/

/-- Pending jobs, by geography. -/
def jobPendingByGeography : Metric where
  name := "job_pending_by_geography"
  isListed := true
  type := .gauge
  description := "Pending jobs, by connection geography"
  unit := "jobs"
  dimensions := ["geography"]

/-- Age of the oldest pending job, by geography. -/
def jobPendingOldestAgeSeconds : Metric where
  name := "job_pending_oldest_age_seconds"
  isListed := true
  type := .gauge
  description := "Age of the oldest pending job, by connection geography"
  unit := "s"
  dimensions := ["geography"]

/-! ### Connections -/

/-- Active connections, one value for each workspace. -/
def connectionActivePerWorkspace : Metric where
  name := "connection_active_per_workspace"
  isListed := true
  type := .distribution
  description := "Active connections per non-tombstoned workspace"
  unit := "connections"
  buckets := some [1, 2, 5, 10, 25, 50, 100, 250, 500, 1000]

/-- Mean runtime of recently ended jobs, by terminal status. -/
def jobTerminalRuntimeSeconds : Metric where
  name := "job_terminal_runtime_seconds"
  isListed := true
  type := .distribution
  description := "Mean runtime of jobs that reached a terminal status in the last hour"
  unit := "s"
  dimensions := ["status"]
  buckets := some [60, 300, 900, 1800, 3600, 7200, 14400, 43200, 86400]

/-! ### Schedules -/

/-- Active scheduled connections that are at least a day old. -/
def connectionScheduledLastDay : Metric where
  name := "connection_scheduled_last_day"
  isListed := true
  type := .gauge
  description := "Active scheduled connections that existed a full day ago"
  unit := "connections"

/-- Scheduled connections that fell behind their own cadence. -/
def jobMissedScheduleLastDay : Metric where
  name := "job_missed_schedule_last_day"
  isListed := true
  type := .gauge
  description := "Scheduled connections whose last sync completed more than one interval ago"
  unit := "connections"

/-- Running syncs that take much longer than they recently did. -/
def jobUnusuallyLongRunning : Metric where
  name := "job_unusually_long_running"
  isListed := true
  type := .counter
  description := "Running syncs exceeding twice their recent average runtime"
  unit := "jobs"
  dimensions := ["connection_id", "source_image", "destination_image"]

/-! ### The health of the reporter itself -/

/-- Failures since the start, by indicator. -/
def sinkErrors : Metric where
  name := "sink_errors"
  isListed := true
  type := .gauge
  description := "Indicator query or delivery failures since start, by indicator"
  unit := "errors"
  dimensions := ["indicator"]

/-! ### The catalog -/

/-- All metrics in reporting order. -/
def catalog : List Metric :=
  [jobRunningByQueue, jobRunningOldestAgeSeconds, jobOrphanRunning,
   jobPendingByGeography, jobPendingOldestAgeSeconds,
   connectionActivePerWorkspace, jobTerminalRuntimeSeconds,
   connectionScheduledLastDay, jobMissedScheduleLastDay,
   jobUnusuallyLongRunning, sinkErrors]

/-- The metric of a name. -/
def find (name : String) : Except SampleFault Metric :=
  match catalog.find? fun m => m.name == name with
  | some m => .ok m
  | none   => .error (.unknownMetric (Text.quoted name) (catalog.map Metric.name))

/-- The metric whose name a value is. -/
def lookUp : Datum → Except Fault Metric
  | .text s => (find s).mapError .sample
  | d       =>
    match Key.ofDatum d with
    | .error e => .error (.shape e)
    | .ok _    => .error (.sample (.unknownMetric d.shown (catalog.map Metric.name)))

end FleetHealth.Metric
