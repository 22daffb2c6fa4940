import FleetHealth.Job.Runtime
import FleetHealth.Job.Status

/-!
# Repository — Statement

The statements that are asked of the operational database, and which of them each of the ten operations asks.  A statement is one parameterised text; the wall-clock time is always a parameter, so an answer depends on nothing but the rows.  `Operation.query` gives the statement, its parameters, and whether rows or one value come back.
-/

namespace FleetHealth

/-- The statements. -/
inductive Statement where
  | runningJobsByQueue
  | oldestRunningJobAge
  | orphanRunningJobs
  | pendingJobsByGeography
  | oldestPendingJobAge
  | activeConnectionsPerWorkspace
  | terminalJobRuntime
  | scheduledActiveConnections
  | scheduledConnectionsWithLastSync
  | runningSyncsWithRecentRuntimes
deriving DecidableEq, Repr

namespace Statement

/-- The stable name of a statement. -/
def name : Statement → String
  | runningJobsByQueue                => "RUNNING_JOBS_BY_QUEUE_SQL"
  | oldestRunningJobAge               => "OLDEST_RUNNING_JOB_AGE_SQL"
  | orphanRunningJobs                 => "ORPHAN_RUNNING_JOBS_SQL"
  | pendingJobsByGeography            => "PENDING_JOBS_BY_GEOGRAPHY_SQL"
  | oldestPendingJobAge               => "OLDEST_PENDING_JOB_AGE_SQL"
  | activeConnectionsPerWorkspace     => "ACTIVE_CONNECTIONS_PER_WORKSPACE_SQL"
  | terminalJobRuntime                => "TERMINAL_JOB_RUNTIME_SQL"
  | scheduledActiveConnections        => "SCHEDULED_ACTIVE_CONNECTIONS_SQL"
  | scheduledConnectionsWithLastSync  => "SCHEDULED_CONNECTIONS_WITH_LAST_SYNC_SQL"
  | runningSyncsWithRecentRuntimes    => "RUNNING_SYNCS_WITH_RECENT_RUNTIMES_SQL"

/-- All statements. -/
def all : List Statement :=
  [runningJobsByQueue, oldestRunningJobAge, orphanRunningJobs,
   pendingJobsByGeography, oldestPendingJobAge, activeConnectionsPerWorkspace,
   terminalJobRuntime, scheduledActiveConnections, scheduledConnectionsWithLastSync,
   runningSyncsWithRecentRuntimes]

/-- The condition on connections that count as actively scheduled. -/
def scheduledActive : List String :=
  ["c.status::text = 'active'",
   "AND NOT c.manual",
   "AND c.schedule IS NOT NULL",
   "AND c.schedule::text <> 'null'",
   "AND c.created_at <= $1::timestamptz - interval '1 day'"]

/-- The clauses of a statement. -/
def clauses : Statement → List String
  | runningJobsByQueue =>
    ["SELECT a.processing_task_queue AS queue, count(DISTINCT j.id) AS jobs",
     "FROM jobs j",
     "JOIN attempts a ON a.job_id = j.id",
     "LEFT JOIN connection c ON c.id::text = j.scope",
     "WHERE j.status::text = 'running'",
     "AND a.status::text = 'running'",
     "AND (c.id IS NULL OR c.status::text = 'active')",
     "GROUP BY a.processing_task_queue"]
  | oldestRunningJobAge =>
    ["SELECT a.processing_task_queue AS queue,",
     "extract(epoch FROM ($1::timestamptz - min(j.created_at)))::float8 AS age_seconds",
     "FROM jobs j",
     "JOIN attempts a ON a.job_id = j.id",
     "LEFT JOIN connection c ON c.id::text = j.scope",
     "WHERE j.status::text = 'running'",
     "AND a.status::text = 'running'",
     "AND (c.id IS NULL OR c.status::text = 'active')",
     "GROUP BY a.processing_task_queue"]
  | orphanRunningJobs =>
    ["SELECT count(*)",
     "FROM jobs j",
     "JOIN connection c ON c.id::text = j.scope",
     "WHERE j.status::text = 'running'",
     "AND c.status::text <> 'active'"]
  | pendingJobsByGeography =>
    ["SELECT coalesce(c.geography::text, $1::text) AS geography, count(*) AS jobs",
     "FROM jobs j",
     "JOIN connection c ON c.id::text = j.scope",
     "WHERE j.status::text = 'pending'",
     "GROUP BY 1"]
  | oldestPendingJobAge =>
    ["SELECT coalesce(c.geography::text, $2::text) AS geography,",
     "extract(epoch FROM ($1::timestamptz - min(j.created_at)))::float8 AS age_seconds",
     "FROM jobs j",
     "JOIN connection c ON c.id::text = j.scope",
     "WHERE j.status::text = 'pending'",
     "GROUP BY 1"]
  | activeConnectionsPerWorkspace =>
    ["SELECT w.id AS workspace_id, count(c.id) AS connections",
     "FROM workspace w",
     "JOIN actor a ON a.workspace_id = w.id",
     "JOIN connection c ON c.source_id = a.id",
     "WHERE NOT w.tombstone",
     "AND c.status::text = 'active'",
     "GROUP BY w.id",
     "ORDER BY w.id"]
  | terminalJobRuntime =>
    ["SELECT j.status::text AS status,",
     "avg(extract(epoch FROM (j.updated_at - j.created_at)))::float8 AS runtime_seconds",
     "FROM jobs j",
     "WHERE j.status::text = ANY($2::text[])",
     "AND j.updated_at >= $1::timestamptz - interval '1 hour'",
     "GROUP BY 1"]
  | scheduledActiveConnections =>
    ["SELECT count(*)",
     "FROM connection c",
     "WHERE"] ++ scheduledActive
  | scheduledConnectionsWithLastSync =>
    ["SELECT c.id::text AS connection_id,",
     "c.schedule::text AS schedule,",
     "c.created_at,",
     "last_sync.status AS last_status,",
     "last_sync.updated_at AS last_updated_at",
     "FROM connection c",
     "LEFT JOIN LATERAL (",
     "SELECT j.status::text AS status, j.updated_at",
     "FROM jobs j",
     "WHERE j.scope = c.id::text",
     "AND j.config_type::text = $2::text",
     "ORDER BY j.created_at DESC, j.id DESC",
     "LIMIT 1",
     ") last_sync ON true",
     "WHERE"] ++ scheduledActive
  | runningSyncsWithRecentRuntimes =>
    ["SELECT r.scope AS connection_id,",
     "extract(epoch FROM ($1::timestamptz - r.created_at))::float8 AS elapsed_seconds,",
     "r.config::jsonb -> 'sync' ->> 'sourceDockerImage' AS source_image,",
     "r.config::jsonb -> 'sync' ->> 'destinationDockerImage' AS destination_image,",
     "recent.runtimes",
     "FROM (",
     "SELECT DISTINCT ON (j.scope) j.scope, j.created_at, j.config",
     "FROM jobs j",
     "WHERE j.status::text = 'running'",
     "AND j.config_type::text = $2::text",
     "AND j.scope <> ''",
     "ORDER BY j.scope, j.created_at DESC",
     ") r",
     "CROSS JOIN LATERAL (",
     "SELECT array_agg(d.runtime ORDER BY d.updated_at DESC) AS runtimes",
     "FROM (",
     "SELECT extract(epoch FROM (j.updated_at - j.created_at))::float8 AS runtime,",
     "j.updated_at",
     "FROM jobs j",
     "WHERE j.scope = r.scope",
     "AND j.config_type::text = $2::text",
     "AND j.status::text = 'succeeded'",
     "AND j.updated_at >= $1::timestamptz - $3::interval",
     "ORDER BY j.updated_at DESC",
     "LIMIT $4",
     ") d",
     ") recent"]

/-- The text of a statement on one line. -/
def text (s : Statement) : String := String.intercalate " " s.clauses

/-- The text that a stable name stands for; the shared condition has one too. -/
def textOf? (n : String) : Option String :=
  if n = "_SCHEDULED_ACTIVE_FILTER" then some (String.intercalate " " scheduledActive)
  else (all.find? fun s => s.name == n).map text

end Statement

/-- What can be asked about the fleet. -/
inductive Operation where
  | runningJobsByQueue
  | oldestRunningJobAgeByQueue
  | orphanRunningJobs
  | pendingJobsByGeography
  | oldestPendingJobAgeByGeography
  | activeConnectionsPerWorkspace
  | terminalJobRuntimeLastHour
  | scheduledActiveConnectionsLastDay
  | jobsNotRunningOnScheduleLastDay
  | unusuallyLongRunningJobs
deriving DecidableEq, Repr

/-- What is sent to the database: a statement, its parameters, and whether rows are expected. -/
structure Query where
  statement : Statement
  parameters : List Datum
  wantsRows : Bool

namespace Operation

/-- The stable name of an operation. -/
def name : Operation → String
  | runningJobsByQueue                => "running_jobs_by_queue"
  | oldestRunningJobAgeByQueue        => "oldest_running_job_age_seconds_by_queue"
  | orphanRunningJobs                 => "orphan_running_jobs"
  | pendingJobsByGeography            => "pending_jobs_by_geography"
  | oldestPendingJobAgeByGeography    => "oldest_pending_job_age_seconds_by_geography"
  | activeConnectionsPerWorkspace     => "active_connections_per_workspace"
  | terminalJobRuntimeLastHour        => "terminal_job_runtime_last_hour"
  | scheduledActiveConnectionsLastDay => "scheduled_active_connections_last_day"
  | jobsNotRunningOnScheduleLastDay   => "jobs_not_running_on_schedule_last_day"
  | unusuallyLongRunningJobs          => "unusually_long_running_jobs"

/-- All operations. -/
def all : List Operation :=
  [runningJobsByQueue, oldestRunningJobAgeByQueue, orphanRunningJobs, pendingJobsByGeography,
   oldestPendingJobAgeByGeography, activeConnectionsPerWorkspace, terminalJobRuntimeLastHour,
   scheduledActiveConnectionsLastDay, jobsNotRunningOnScheduleLastDay, unusuallyLongRunningJobs]

/-- The operation of a stable name. -/
def ofName? (s : String) : Option Operation := all.find? fun o => o.name == s

/-- The geography of connections that have none. -/
def defaultGeography : String := "AUTO"

/-- The type of the jobs that sync a connection. -/
def syncType : String := "sync"

/-- What an operation asks at a time. -/
def query (now : Instant) : Operation → Query
  | runningJobsByQueue                => ⟨.runningJobsByQueue, [], true⟩
  | oldestRunningJobAgeByQueue        => ⟨.oldestRunningJobAge, [.instant now], true⟩
  | orphanRunningJobs                 => ⟨.orphanRunningJobs, [], false⟩
  | pendingJobsByGeography            => ⟨.pendingJobsByGeography, [.text defaultGeography], true⟩
  | oldestPendingJobAgeByGeography    =>
    ⟨.oldestPendingJobAge, [.instant now, .text defaultGeography], true⟩
  | activeConnectionsPerWorkspace     => ⟨.activeConnectionsPerWorkspace, [], true⟩
  | terminalJobRuntimeLastHour        =>
    ⟨.terminalJobRuntime, [.instant now, .list (JobStatus.terminalWords.map .text)], true⟩
  | scheduledActiveConnectionsLastDay => ⟨.scheduledActiveConnections, [.instant now], false⟩
  | jobsNotRunningOnScheduleLastDay   =>
    ⟨.scheduledConnectionsWithLastSync, [.instant now, .text syncType], true⟩
  | unusuallyLongRunningJobs          =>
    ⟨.runningSyncsWithRecentRuntimes,
     [.instant now, .text syncType, .duration Runtime.lookback, .int Runtime.windowSize], true⟩

end Operation
end FleetHealth
