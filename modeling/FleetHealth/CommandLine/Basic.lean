import FleetHealth.CommandLine.Request
import FleetHealth.CommandLine.Session
import FleetHealth.Json.Writer

/-!
# Command line — Basic

The commands.  `config` shows the effective settings, `once` runs a single tick and prints its report, and `run` reports until it is told to stop.  Settings and loggers that are refused end a command with code 1, a sink that cannot be opened with code 2, and a misuse with code 2.  Once the emitter is there, every way out of a command passes through its shutdown, the closing of the pool where there is one, the reset of the metric client and the shutdown of the loggers.
-/

namespace FleetHealth.CommandLine

/-- The settings of an environment with the options of a command, when they pass the gate. -/
def loadConfig (env : Environment) (sink : Option String) (cadence : Option Binary64) :
    Except SettingFault Config := do
  let c ← Config.read env
  let c := { c with
    sink := (sink.map Text.lower).getD c.sink
    cadence := (cadence.map Number.float).getD c.cadence }
  c.validate
  .ok c

/-- The session of a refused setting and its end. -/
def refuse (s : Session) (message : String) (code : Nat) : Session × Ending :=
  (s.complain message, .exit code)

/-- Loggers set up, or the end of the command. -/
def startLogging (w : Surroundings) (c : Config) (s : Session) :
    Session × Except Ending Unit :=
  let (storage, logging, r) := Log.openAndSetUp s.logging s.storage w.defaultLogPath
    (.ofConfig c)
  let s := { s with storage := storage, logging := logging }
  match r with
  | .ok _    => (s, .ok ())
  | .error f =>
    if f.kind.isValue || f.kind.isSystem then
      let (s, e) := refuse s ("logging: " ++ f.text) settingExit
      (s, .error e)
    else (s, .error (.raised f))

/-- An emitter opened, or the end of the command. -/
def startEmitter (w : Surroundings) (c : Config) (s : Session) :
    Session × Except Ending Emitter :=
  let (seen, opened) := Emitter.ofConfig c w.sinks
  let s := s.noteSink w.stamp seen
  match opened with
  | .ok e    => (s, .ok e)
  | .error f =>
    if f.kind = .emitterInit then
      let s := s.say w.stamp .error "sink.init.failed"
        [("sink", .text c.sink), ("error", .text f.text)]
      let (s, e) := refuse s.shutLogging f.text sinkExit
      (s, .error e)
    else (s, .error (.raised f))

/-- Loggers and emitter started. -/
def start (w : Surroundings) (c : Config) (s : Session) : Session × Except Ending Emitter :=
  match startLogging w c s with
  | (s, .error e) => (s, .error e)
  | (s, .ok _)    => startEmitter w c s

/-- The reporter of a command. -/
def reporterOf (w : Surroundings) (c : Config) (e : Emitter) : Reporter Number where
  cadence := c.cadence
  deadline := c.deadline
  bindings := Binding.defaults
  source := .database ⟨c.knownQueues, c.knownGeographies, w.nesting⟩ w.now
  playbook := w.playbook
  emitter := e
  clock := w.clock
  stopRequested := w.stopsEarly

/-- A call of an emitter, whose events are written down among the session's. -/
def onEmitter (w : Surroundings) (s : Session) (e : Emitter) (call : Emitter → Emitter × α) :
    Session × Emitter × α :=
  let (e, a) := call { e with journal := [] }
  (s.noteSink w.stamp e.journal, { e with journal := [] }, a)

/-- The pool closed; what that raises takes the place of the result. -/
def closePool (w : Surroundings) (s : Session) (r : Except Fault α) : Session × Except Fault α :=
  (s.note w.stamp .poolClosed, w.poolClosing.elim r .error)

/-- The end of the work on a pool: the emitter is shut down, then the pool is closed where there is
one. -/
def release (w : Surroundings) (s : Session) (e : Emitter) (hasPool : Bool) (r : Except Fault α) :
    Session × Emitter × Except Fault α :=
  match onEmitter w s e Emitter.shutdown with
  | (s, e, .error f) => (s, e, .error f)
  | (s, e, .ok _)    =>
    if hasPool then
      let (s, r) := closePool w s r
      (s, e, r)
    else (s, e, r)

/-- A pool asked for, and announced where it was made. -/
def openPool (w : Surroundings) (c : Config) (s : Session) : Session × Except Fault Unit :=
  let request := PoolRequest.ofConfig c
  let s := s.note w.stamp (.poolRequested request)
  match w.pool with
  | some f => (s, .error f)
  | none   => (s.note w.stamp (.sink (.said request.created)), .ok ())

/-- Work of a reporter on a pool of its own, released however the work ends. -/
def withReporter (w : Surroundings) (c : Config) (e : Emitter)
    (work : Reporter Number → Reporter Number × Except Fault α) (s : Session) :
    Session × Emitter × Except Fault α :=
  match openPool w c s with
  | (s, .error f) => release w s e false (.error f)
  | (s, .ok _)    =>
    let (r, a) := work (reporterOf w c { e with journal := [] })
    let s := s.noteAll w.stamp (r.journal.reverse.map .reporter)
    release w s r.emitter true a

/-- How a command ends that did its work. -/
def endingOf : Except Fault α → Ending
  | .ok _    => .exit 0
  | .error f => .raised f

/-- The name of the emitter of a process. -/
def emitterName : String := "reporter"

/-- The emitter of the process given to the metric client. -/
def adoptEmitter (w : Surroundings) (e : Emitter) (s : Session) : Session × Except Fault Unit :=
  let s := { s with client := s.client.introduce emitterName e }
  s.onClient w.stamp fun c => c.adopt emitterName

/-- The end of a run: the client is reset and the loggers are shut down. -/
def leave (w : Surroundings) (s : Session) (r : Except Fault α) : Session × Ending :=
  let (s, reset) := s.onClient w.stamp MetricClient.reset
  match reset with
  | .error f => (s, .raised f)
  | .ok _    => ((s.say w.stamp .info "syncwatch.exited" []).shutLogging, endingOf r)

/-- The command that reports until it is told to stop. -/
def run (w : Surroundings) (c : Config) (s : Session) : Session × Ending :=
  match start w c s with
  | (s, .error e) => (s, e)
  | (s, .ok e)    =>
    match adoptEmitter w e s with
    | (s, .error f) => (s, .raised f)
    | (s, .ok _)    =>
      let (s, e, r) := withReporter w c e (fun r => r.run w.sleeps) s
      leave w { s with client := s.client.introduce emitterName e } r

/-- The command that runs a single tick and prints its report. -/
def once (w : Surroundings) (c : Config) (s : Session) : Session × Ending :=
  match start w c s with
  | (s, .error e) => (s, e)
  | (s, .ok e)    =>
    let (s, _, r) := withReporter w c e (Reporter.tick false) s
    let s := s.shutLogging
    match r with
    | .error f => (s, .raised f)
    | .ok t    => (s.print (Json.writeIndented Datum.message t.toDatum), .exit 0)

/-- The command that shows the effective settings. -/
def showConfig (c : Config) (s : Session) : Session × Ending :=
  match c.redacted with
  | .error e => (s, .raised (.url e))
  | .ok fs   => (s.print (Json.writeIndented Datum.message (.record fs)), .exit 0)

/-- A command with its settings. -/
def execute (w : Surroundings) (s : Session) (command : Command) : Session × Ending :=
  let config :=
    match command with
    | .run sink cadence => loadConfig w.environment sink cadence
    | .once sink        => loadConfig w.environment sink none
    | .config           => loadConfig w.environment none none
  match config with
  | .error e => refuse s e.message settingExit
  | .ok c    =>
    match command with
    | .run ..  => run w c s
    | .once _  => once w c s
    | .config  => showConfig c s

/-- A request carried out. -/
def carryOut (w : Surroundings) (s : Session) : Request → Session × Ending
  | .command c => execute w s c
  | .help      => (s, .usage 0)
  | .misuse    => (s, .usage 2)

end FleetHealth.CommandLine
