import FleetHealth.Config.Basic
import FleetHealth.Log.Entry

/-!
# Config — Pool

What is asked of a connection pool.  Sessions are read-only on the server, a command may take as long as a query of the reporter, and no connection is made before the first query: a database that cannot be reached shows as failed queries.
-/

namespace FleetHealth

/-- A request for a connection pool, with the values that the settings hold. -/
structure PoolRequest where
  dsn : Datum
  minSize : Int := 0
  maxSize : Datum
  commandTimeout : Datum
  applicationName : Datum

namespace PoolRequest

/-- The name that sessions go by under an application tag. -/
def nameUnder (tag : Datum) : Datum := if tag.isPresent then tag else .text "syncwatch"

/-- The pool that a configuration asks for. -/
def ofConfig (c : Config) : PoolRequest where
  dsn := .text c.databaseUrl
  maxSize := .int c.poolMaxSize
  commandTimeout := .number c.deadline
  applicationName := nameUnder (.optText c.applicationTag)

/-- The settings of every session. -/
def sessionSettings (p : PoolRequest) : List (String × Datum) :=
  [("default_transaction_read_only", .text "on"), ("application_name", p.applicationName)]

/-- The request as a record. -/
def toDatum (p : PoolRequest) : Datum :=
  .record [("dsn", p.dsn), ("min_size", .int p.minSize), ("max_size", p.maxSize),
           ("command_timeout", p.commandTimeout),
           ("server_settings", .record p.sessionSettings)]

/-- The entry that a pool is announced by. -/
def created (p : PoolRequest) : Log.Entry where
  level := .info
  logger := "syncwatch.db"
  event := "db.pool.created"
  fields := [("max_size", p.maxSize)]

end PoolRequest
end FleetHealth
