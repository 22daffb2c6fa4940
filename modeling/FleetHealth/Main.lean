import FleetHealth.CommandLine.Basic
import FleetHealth.Sink.Reading
import Std.Time.DateTime.Timestamp

/-!
# Main

The command line on a real process.  The arguments, the environment and the clocks are read here, and what a session has written and printed goes to standard error, to the log files and to standard output; all else is decided by the library.  No database and no network is spoken to: a query, a socket and an exporter are answered with the fault that there is none.  A run therefore goes on, tick after tick, until the process is ended.
-/

namespace FleetHealth.Console

open CommandLine

/-- Where log files are appended to when no path is set. -/
def defaultLogPath : String := "/tmp/syncwatch.jsonl"

/-- How many containers may stand one inside the other in a text of JSON that this process reads. -/
def nesting : Nat := 985

/-- What a command is answered by what is not there. -/
def absent (kind : Fault.Kind) (what : String) : Fault := .outside kind (some ("no " ++ what))

/-- The variables of this process that settings are read from. -/
def environment : IO Environment :=
  (Config.sources.flatMap Prod.snd).filterMapM fun n => do return (← IO.getEnv n).map (n, ·)

/-- The wall clock. -/
def wallClock : IO Instant := do
  return ⟨(← Std.Time.Timestamp.now).toNanosecondsSinceUnixEpoch.val / 1000⟩

/-- The monotonic clock. -/
def monotonicClock : IO Number := do
  return .float (TimeScale.nearestFloat (mkRat (← IO.monoNanosNow) 1000000000))

/-- The surroundings of a command as they are now. -/
def surroundings : IO Surroundings := do
  let now ← wallClock
  return {
    environment := ← environment
    sinks :=
      { network := { resolve := .always (some (absent .os "network")) }
        exporter := some (absent .runtime "exporter")
        provider := .periodic }
    playbook := fun _ => .always
      { takes := .int 0, sent := .error (absent .poolInterface "database driver") }
    now := now
    clock := ← monotonicClock
    defaultLogPath := defaultLogPath
    stamp := now.stamp
    nesting := nesting }

/-- A session that has just begun. -/
def beginning : Session := { storage := { root := "" } }

/-- The folder of a file. -/
def folderOf (path : String) : String :=
  String.intercalate "/" (Text.split '/' path).dropLast

/-- A line written where it belongs. -/
def deliver : Log.Destination × String → IO Unit
  | (.stderr,    line) => IO.eprintln line
  | (.file path, line) => do
    let folder := folderOf path
    if !folder.isEmpty then IO.FS.createDirAll folder
    IO.FS.withFile path .append fun h => h.putStrLn line

/-- The session with everything written and printed, and nothing left to write or print. -/
def settle (s : Session) : IO Session := do
  s.written.reverse.forM deliver
  IO.print s.printed
  return { s with written := [], printed := "" }

/-- The exit code of an ending. -/
def exitCode : Ending → IO UInt32
  | .exit n   => return n.toUInt32
  | .usage n  => do
    IO.eprintln "Usage: syncwatch [--help] run|once|config"
    return n.toUInt32
  | .raised f => do
    IO.eprintln f.line
    return 1

/-- The end of a command. -/
def conclude (s : Session) (e : Ending) : IO UInt32 := do
  let _ ← settle s
  exitCode e

/-- A pause. -/
def pause (seconds : Number) : IO Unit :=
  IO.sleep (seconds * .int 1000).toBinary64.truncate.toNat.toUInt32

/-- Tick after tick by the clocks of the process, for as long as it lives. -/
partial def serve (c : Config) (r : Reporter Number) (s : Session) : IO Unit := do
  let w ← surroundings
  let begun := { r with clock := w.clock, source := (reporterOf w c r.emitter).source }
  let r := begun.cycle
  let s ← settle (s.noteAll w.stamp (r.journal.reverse.map .reporter))
  let r := { r with journal := [], clock := ← monotonicClock }
  pause (r.delayAfter w.clock)
  serve c r s

/-- A run with a configuration that passed the gate. -/
def run (w : Surroundings) (c : Config) (s : Session) : IO UInt32 :=
  match start w c s with
  | (s, .error ending) => conclude s ending
  | (s, .ok e)         =>
    match adoptEmitter w e s with
    | (s, .error f) => conclude s (.raised f)
    | (s, .ok _)    =>
      match openPool w c s with
      | (s, .error f) => conclude s (.raised f)
      | (s, .ok _)    => do
        serve c (reporterOf w c { e with journal := [] }).sayStarted s
        return 0

/-- A request carried out by this process. -/
def carryOut (r : Request) : IO UInt32 := do
  let w ← surroundings
  match r with
  | .command (.run sink cadence) =>
    match loadConfig w.environment sink cadence with
    | .ok c    => run w c beginning
    | .error e =>
      let (s, ending) := refuse beginning e.message settingExit
      conclude s ending
  | r =>
    let (s, ending) := CommandLine.carryOut w beginning r
    conclude s ending

end FleetHealth.Console

/-- The command line. -/
def main (args : List String) : IO UInt32 :=
  FleetHealth.Console.carryOut (.ofArguments args)
