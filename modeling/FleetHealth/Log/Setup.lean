import FleetHealth.Config.Settings
import FleetHealth.Log.Layout
import FleetHealth.Log.Storage

/-!
# Log — Setup

The loggers of a process: the handlers on the root logger, the level below which nothing is written, and whether entries are made as structured records.  Setting up replaces the one handler of our own and leaves the handlers of others in place; where there is no handler at all, warnings and worse are written bare.  A setup that is refused before its handler is attached changes nothing.
-/

namespace FleetHealth.Log

/-- Where lines are written. -/
inductive Destination where
  | stderr
  | file (path : String)
deriving DecidableEq

/-- A handler of our own. -/
structure Handler where
  layout : Layout
  destination : Destination
deriving DecidableEq

/-- A handler on the root logger: our own, or one that somebody else attached. -/
inductive Attached where
  | own (h : Handler)
  | other (id : Nat)
deriving DecidableEq

/-- The loggers of a process. -/
structure Logging where
  handlers : List Attached := []
  level : Nat := 30
  structured : Bool := false
deriving DecidableEq

/-- The families of layouts, in the order of messages. -/
def formatters : List String := ["structlog", "stdlib"]

/-- The kinds of destination, in the order of messages. -/
def destinations : List String := ["stderr", "jsonl"]

/-- The levels that can be named. -/
def levels : List (String × Nat) :=
  [("CRITICAL", 50), ("FATAL", 50), ("ERROR", 40), ("WARNING", 30), ("WARN", 30), ("INFO", 20),
   ("DEBUG", 10), ("NOTSET", 0)]

/-- What the settings say about log lines, with values of any form. -/
structure Choice where
  formatter : Datum
  destination : Datum
  level : Datum
  format : Datum
  path : Datum

/-- The choice of a configuration. -/
def Choice.ofConfig (c : Config) : Choice where
  formatter := .text c.logFormatter
  destination := .text c.logDestination
  level := .text c.logLevel
  format := .text c.logFormat
  path := .optText c.logPath

/-- The choice of settings of any form. -/
def Choice.ofSettings (s : Settings) : Choice where
  formatter := s.value "log_formatter"
  destination := s.value "log_destination"
  level := s.value "log_level"
  format := s.value "log_format"
  path := s.value "log_path"

/-- The level of a name in any letter case; a name that is none stands for INFO, but for two that
are taken by what is no level. -/
def levelOf : Datum → Except Fault Nat
  | .text name =>
    let n := Text.upperAscii name
    if n = "BASIC_FORMAT" then .error (.unknownLogLevel "%(levelname)s:%(name)s:%(message)s")
    else if n = "_STYLES" then .error .noLogLevel
    else .ok ((Entries.get? n levels).getD 20)
  | d          => .error (.shape (.noMember d.qualifiedType "upper"))

/-- The layout that is chosen. -/
def Choice.layout (c : Choice) : Except Fault Layout :=
  if formatters.any fun f => Datum.same (.text f) c.formatter then
    .ok ⟨Datum.same (.text "structlog") c.formatter, Datum.same (.text "console") c.format⟩
  else .error (.unknownLogChoice "formatter" c.formatter.shown formatters)

/-- The path that is chosen, or a default. -/
def Choice.pathOr (defaultPath : String) (c : Choice) : Except Fault String :=
  match c.path with
  | .text p => .ok (if p.isEmpty then defaultPath else p)
  | d       =>
    if d.isPresent then .error (.shape (.notPath d.typeName)) else .ok defaultPath

/-- The destination that is chosen; the file has a default path. -/
def Choice.handlerDestination (defaultPath : String) (c : Choice) : Except Fault Destination :=
  if Datum.same (.text "stderr") c.destination then .ok .stderr
  else if Datum.same (.text "jsonl") c.destination then
    (c.pathOr defaultPath).map .file
  else .error (.unknownLogChoice "destination" c.destination.shown destinations)

/-- The handler that is chosen. -/
def Handler.ofChoice (defaultPath : String) (c : Choice) : Except Fault Handler := do
  let layout ← c.layout
  let destination ← c.handlerDestination defaultPath
  .ok ⟨layout, destination⟩

/-- Whether a handler is our own. -/
def Attached.isOwn : Attached → Bool
  | own _   => true
  | other _ => false

namespace Logging

/-- The handlers of others. -/
def others (g : Logging) : List Attached := g.handlers.filter fun a => !a.isOwn

/-- The number of our own handlers. -/
def ownCount (g : Logging) : Nat := g.handlers.countP Attached.isOwn

/-- The loggers with a handler in the place of our own. -/
def attach (g : Logging) (h : Handler) : Logging := { g with handlers := g.others ++ [.own h] }

/-- The loggers after a handler that could be opened was set up at a named level. -/
def install (g : Logging) (h : Handler) (levelName : Datum) : Logging × Except Fault Unit :=
  let g := g.attach h
  match levelOf levelName with
  | .error f => (g, .error f)
  | .ok n    => ({ g with level := n, structured := h.layout.structured }, .ok ())

/-- The loggers set up; opening a destination may fail. -/
def setup (g : Logging) (defaultPath : String) (c : Choice)
    (opening : Destination → Except Fault Unit) : Logging × Except Fault Unit :=
  match Handler.ofChoice defaultPath c with
  | .error f => (g, .error f)
  | .ok h    =>
    match opening h.destination with
    | .error f => (g, .error f)
    | .ok _    => g.install h c.level

/-- The loggers without a handler of our own. -/
def shutdown (g : Logging) : Logging := { g with handlers := g.others, structured := false }

/-- The lines that a handler writes. -/
def emit (stamp : String) (r : Record) : Attached → Option (Destination × String)
  | .own h   => some (h.destination, h.layout.render stamp r)
  | .other _ => none

/-- What is written of a record: every handler's line, or the bare message of a warning or worse
where there is no handler. -/
def write (g : Logging) (stamp : String) (r : Record) : List (Destination × String) :=
  if r.level.weight < g.level then []
  else if g.handlers.isEmpty then
    if r.level.weight < Level.warning.weight then [] else [(.stderr, bareLine r)]
  else g.handlers.filterMap (emit stamp r)

/-- Why an entry that is let through cannot be written, if so: a structured record carries what it
was made of under a name of its own. -/
def entryFault? (g : Logging) (e : Entry) : Option ShapeFault :=
  if g.structured && g.level ≤ e.level.weight then
    match Entries.get? madeOfName e.fields with
    | none | some .null => none
    | some d            => some (.noMember d.qualifiedType "name")
  else none

/-- What is written of an entry. -/
def writeEntry (g : Logging) (stamp : String) (e : Entry) : List (Destination × String) :=
  g.write stamp (if g.structured then Record.structuredOf stamp e else Record.ofEntry e)

end Logging

/-- A destination opened in a storage. -/
def Destination.openIn (s : Storage) : Destination → Storage × Except Fault Unit
  | .stderr    => (s, .ok ())
  | .file path => s.openFile path

/-- The loggers set up with their files in a storage. -/
def openAndSetUp (g : Logging) (s : Storage) (defaultPath : String) (c : Choice) :
    Storage × Logging × Except Fault Unit :=
  let (g', r) := g.setup defaultPath c fun d => (d.openIn s).2
  match Handler.ofChoice defaultPath c with
  | .error _ => (s, g', r)
  | .ok h    => ((h.destination.openIn s).1, g', r)

end FleetHealth.Log
