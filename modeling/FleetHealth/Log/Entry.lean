import FleetHealth.Fault.Basic

/-!
# Log — Entry

A log entry is an event with a level, the name of the logger, fields in the order they were given, and perhaps a fault.  Everything the reporter has to say is said in entries; how they are written is another matter.
-/

namespace FleetHealth.Log

/-- How serious an entry is. -/
inductive Level where
  | debug
  | info
  | warning
  | error
  | critical
deriving DecidableEq, Repr

namespace Level

/-- The word for a level. -/
def word : Level → String
  | debug    => "debug"
  | info     => "info"
  | warning  => "warning"
  | error    => "error"
  | critical => "critical"

/-- The weight of a level, by which entries are let through. -/
def weight : Level → Nat
  | debug    => 10
  | info     => 20
  | warning  => 30
  | error    => 40
  | critical => 50

/-- The word for a level in capitals. -/
def capitals : Level → String
  | debug    => "DEBUG"
  | info     => "INFO"
  | warning  => "WARNING"
  | error    => "ERROR"
  | critical => "CRITICAL"

end Level

/-- What is attached to an entry: nothing, a fault, or the absence of the fault that was asked
for. -/
inductive Attachment where
  | none
  | fault (f : Fault.Summary)
  | missing

/-- One thing said. -/
structure Entry where
  level : Level
  logger : String
  event : String
  fields : List (String × Datum) := []
  attachment : Attachment := .none

end FleetHealth.Log
