import FleetHealth.Config.Pool
import FleetHealth.Emitter.Open
import FleetHealth.Log.Setup
import FleetHealth.MetricClient
import FleetHealth.Reporter.Run

/-!
# Command line — Session

What a command does to its surroundings while it runs.  A session keeps the loggers, the metric client, the lines that were written and printed, and a journal of what happened, newest first; an entry is written by the loggers the moment it is said.  `Surroundings` is all that a command depends on besides its arguments.
-/

namespace FleetHealth.CommandLine

/-- What a command depends on. -/
structure Surroundings where
  environment : Environment
  sinks : Emitter.Surroundings
  pool : Option Fault := none
  playbook : Playbook Number
  now : Instant
  clock : Number
  /-- What closing the pool raises. -/
  poolClosing : Option Fault := none
  /-- Whether the command is told to stop before its reporter begins. -/
  stopsEarly : Bool := false
  /-- How many sleeps are slept to their end before the command is told to stop. -/
  sleeps : Nat := 0
  defaultLogPath : String
  stamp : String
  /-- How many containers may stand one inside the other in a text of JSON. -/
  nesting : Nat

/-- What happens while a command runs. -/
inductive Event where
  | reporter (e : ReporterEvent Number)
  | sink (e : SinkEvent)
  | poolRequested (p : PoolRequest)
  | poolClosed

/-- A command that is running. -/
structure Session where
  logging : Log.Logging := {}
  storage : Log.Storage
  client : MetricClient := {}
  journal : List Event := []
  /-- The lines that were written, newest first. -/
  written : List (Log.Destination × String) := []
  printed : String := ""

/-- How a command ends. -/
inductive Ending where
  | exit (code : Nat)
  | usage (code : Nat)
  | raised (f : Fault)

/-- The exit code of a setting that is refused. -/
def settingExit : Nat := 1

/-- The exit code of a sink that cannot be opened. -/
def sinkExit : Nat := 2

namespace Event

/-- The log entry that an event is. -/
def entry? : Event → Option Log.Entry
  | .reporter (.sink (.said e)) => some e
  | .sink (.said e)             => some e
  | _                           => none

/-- The sink event that an event is. -/
def sink? : Event → Option SinkEvent
  | .reporter (.sink e) => some e
  | .sink e             => some e
  | _                   => none

/-- The delay that an event is. -/
def delay? : Event → Option Number
  | .reporter (.slept d _) => some d
  | _                      => none

/-- The request for a pool that an event is. -/
def request? : Event → Option PoolRequest
  | .poolRequested p => some p
  | _                => none

/-- Whether an event is the closing of the pool. -/
def isClosing : Event → Bool
  | .poolClosed => true
  | _           => false

end Event

namespace Session

/-- The session with lines written. -/
def write (s : Session) (lines : List (Log.Destination × String)) : Session :=
  { s with written := lines.reverse ++ s.written }

/-- The session after an event; an entry is written at once. -/
def note (stamp : String) (s : Session) (ev : Event) : Session :=
  let s := { s with journal := ev :: s.journal }
  match ev.entry? with
  | some e => s.write (s.logging.writeEntry stamp e)
  | none   => s

/-- The session after events, the first of them first. -/
def noteAll (stamp : String) (s : Session) (evs : List Event) : Session :=
  evs.foldl (note stamp) s

/-- The session after events of a sink that were written down newest first. -/
def noteSink (stamp : String) (s : Session) (journal : List SinkEvent) : Session :=
  s.noteAll stamp (journal.reverse.map .sink)

/-- The session after an entry of the command line itself. -/
def say (stamp : String) (s : Session) (level : Log.Level) (event : String)
    (fields : List (String × Datum)) : Session :=
  s.note stamp (.sink (.said
    { level := level
      logger := "syncwatch.cli"
      event := event
      fields := fields }))

/-- The session with a complaint written, whatever the loggers are set to. -/
def complain (s : Session) (message : String) : Session :=
  s.write [(.stderr, "Error: " ++ message)]

/-- The session with a text printed. -/
def print (s : Session) (text : String) : Session := { s with printed := s.printed ++ text ++ "\n" }

/-- The session with its loggers shut down. -/
def shutLogging (s : Session) : Session := { s with logging := s.logging.shutdown }

/-- A call of the metric client, whose events are written down among the session's. -/
def onClient (stamp : String) (s : Session) (call : MetricClient → MetricClient × α) :
    Session × α :=
  let (c, a) := call { s.client with journal := [] }
  let evs := c.journal.reverse.map fun ev =>
    match ev with
    | .said e   => Event.sink (.said e)
    | .seen _ e => Event.sink e
  ({ s with client := { c with journal := [] } }.noteAll stamp evs, a)

end Session
end FleetHealth.CommandLine
