import FleetHealth.Vocabulary

/-!
# Job — Status

The closed vocabularies of the operational database: the status of a job, the status of a connection, and the units of a schedule.  Each has its words, and reading a word that is none of them is a fault that names the vocabulary.
-/

namespace FleetHealth

/-- The status of a job. -/
inductive JobStatus where
  | pending
  | running
  | succeeded
  | failed
  | cancelled
  | incomplete
deriving DecidableEq, Repr

/-- The status of a connection. -/
inductive ConnectionStatus where
  | active
  | inactive
  | deprecated
deriving DecidableEq, Repr

/-- The unit of a schedule. -/
inductive TimeUnit where
  | minutes
  | hours
  | days
  | weeks
deriving DecidableEq, Repr

namespace JobStatus

/-- All statuses of a job. -/
def all : List JobStatus := [pending, running, succeeded, failed, cancelled, incomplete]

/-- The word for a status. -/
def word : JobStatus → String
  | pending    => "pending"
  | running    => "running"
  | succeeded  => "succeeded"
  | failed     => "failed"
  | cancelled  => "cancelled"
  | incomplete => "incomplete"

/-- The name of the vocabulary. -/
def vocabulary : String := "JobStatus"

/-- A status with its vocabulary, in capitals. -/
def qualified (s : JobStatus) : String := vocabulary ++ "." ++ Text.upperAscii s.word

/-- A status as it is shown in a log field. -/
def shown (s : JobStatus) : String := "<" ++ s.qualified ++ ": " ++ Text.quoted s.word ++ ">"

/-- Whether a job of this status has ended. -/
def isTerminal : JobStatus → Bool
  | succeeded | failed | cancelled => true
  | _ => false

/-- The words of the terminal statuses, sorted. -/
def terminalWords : List String := ["cancelled", "failed", "succeeded"]

/-- The status that a value is the word for. -/
def ofDatum (d : Datum) : Except ShapeFault JobStatus := Vocabulary.member all word vocabulary d

end JobStatus

namespace ConnectionStatus

/-- All statuses of a connection. -/
def all : List ConnectionStatus := [active, inactive, deprecated]

/-- The word for a status. -/
def word : ConnectionStatus → String
  | active     => "active"
  | inactive   => "inactive"
  | deprecated => "deprecated"

/-- The status that a value is the word for. -/
def ofDatum (d : Datum) : Except ShapeFault ConnectionStatus :=
  Vocabulary.member all word "ConnectionStatus" d

end ConnectionStatus

namespace TimeUnit

/-- All units of a schedule. -/
def all : List TimeUnit := [minutes, hours, days, weeks]

/-- The word for a unit. -/
def word : TimeUnit → String
  | minutes => "minutes"
  | hours   => "hours"
  | days    => "days"
  | weeks   => "weeks"

/-- The seconds in a unit. -/
def seconds : TimeUnit → Nat
  | minutes => 60
  | hours   => 3600
  | days    => 86400
  | weeks   => 604800

/-- The unit that a value is the word for. -/
def ofDatum (d : Datum) : Except ShapeFault TimeUnit := Vocabulary.member all word "ScheduleTimeUnit" d

/-- The unit of a word in any letter case. -/
def ofText? (s : String) : Option TimeUnit := all.find? fun u => u.word == Text.lower s

end TimeUnit
end FleetHealth
