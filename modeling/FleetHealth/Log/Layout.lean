import FleetHealth.Json.Writer
import FleetHealth.Log.Record
import FleetHealth.Metric.Basic

/-!
# Log — Layout

The four layouts of a log line: of the structured or of the plain family, as JSON or for a console.  The structured family shows a record as one map, in the order in which its entries came or, on a console, with the time, the level, the event and the logger in columns and the rest sorted.  The plain family puts time, level, logger and message first and the fields after them.  A fault follows on lines of its own, except in JSON, where it is a field.
-/

namespace FleetHealth.Log

/-- How a log line is laid out. -/
structure Layout where
  structured : Bool
  console : Bool
deriving DecidableEq

/-- A text followed by a line of its own. -/
def withLine (s : String) (line : Option String) : String :=
  match line with
  | none   => s
  | some l => (if s.endsWith "\n" then s else s ++ "\n") ++ l

/-- The name under which a structured record carries what it was made of. -/
def madeOfName : String := "_record"

/-- The names of entries that structured lines never show. -/
def hiddenNames : List String := [madeOfName, "_from_structlog"]

/-- The entries of a record under the structured family. -/
def structuredEntries (stamp : String) : Record → List (String × Datum)
  | .structured _ _ entries => entries.filter fun e => !hiddenNames.contains e.1
  | .plain l logger m _ a   =>
    ("event", .text m)
      :: (a.parts?.toList.map fun d => (attachmentField, d)) ++ Record.marks stamp l logger

/-- The entries of a record under the plain family, without its message. -/
def plainParts : Record → Level × String × String × Option (List (String × Datum)) × Attachment
  | .plain l logger m fields a    => (l, logger, m, fields, a)
  | .structured l logger entries  => (l, logger, (Datum.record entries).shown, none, .none)

/-! ### Structured lines on a console -/

/-- The keys that have columns or lines of their own. -/
def placedKeys : List String :=
  ["timestamp", "level", "event", "logger", "logger_name", "exception", "stack", attachmentField]

/-- The characters that make a text stand between quotes. -/
def needsQuotes (c : Char) : Bool :=
  c = ' ' || c = '\t' || c = '=' || c = '\r' || c = '\n' || c = '"' || c = '\''

/-- A value on a console. -/
def consoleValue : Datum → String
  | .text s => if s.toList.any needsQuotes then Text.quoted s else s
  | d       => d.shown

/-- A name and a value on a console. -/
def consolePair (entries : List (String × Datum)) (k : String) : String :=
  k ++ "=" ++ consoleValue ((Entries.get? k entries).getD .null)

/-- The column of a key, when there is one. -/
def column (entries : List (String × Datum)) (k : String) (lay : String → String) : List String :=
  ((Entries.get? k entries).map fun d => lay d.message).toList

/-- A text between brackets. -/
def bracketed (s : String) : String := "[" ++ s ++ "]"

/-- The text without spaces at its end. -/
def trimSpaces (s : String) : String :=
  String.ofList ((s.toList.reverse.dropWhile (· = ' ')).reverse)

/-- The first line of a structured record on a console. -/
def consoleLine (entries : List (String × Datum)) : String :=
  let others := (entries.map Prod.fst).filter fun k => !placedKeys.contains k
  let parts :=
    column entries "timestamp" id
    ++ column entries "level" (fun s => bracketed (Text.padRight 9 s))
    ++ column entries "event" (Text.padRight 30)
    ++ column entries "logger" bracketed
    ++ column entries "logger_name" bracketed
    ++ (sortTexts others).map (consolePair entries)
  trimSpaces (String.intercalate " " (parts.filter fun s => !s.isEmpty))

/-- The rule between a stack and a fault. -/
def rule : String := String.ofList ('\n' :: '\n' :: (List.replicate 79 '=' ++ ['\n']))

/-- The text of a key that has lines of its own; nothing has no text. -/
def ownLines? (entries : List (String × Datum)) (k : String) : Option String :=
  match Entries.get? k entries with
  | none | some .null => none
  | some d            => some d.message

/-- The lines of a structured record on a console. -/
def consoleLines (entries : List (String × Datum)) (line : Option String) : String :=
  let fault := (ownLines? entries "exception").orElse fun _ => line
  let stack :=
    match ownLines? entries "stack" with
    | some s => "\n" ++ s ++ (if fault.isSome then rule else "")
    | none   => ""
  consoleLine entries ++ stack ++ (fault.map ("\n" ++ ·)).getD ""

/-! ### Layouts -/

/-- The attachment of a record that has not become a field. -/
def looseLine : Record → Option String
  | .plain _ _ _ _ a => a.line?
  | .structured ..   => none

/-- The fields of a plain line of JSON. -/
def plainEntries (stamp : String) (r : Record) : List (String × Datum) :=
  let (l, logger, m, fields, a) := plainParts r
  Entries.putAll
    [("timestamp", .text stamp), ("level", .text l.word), ("logger", .text logger),
     ("event", .text m)]
    (fields.getD [] ++ a.field)

/-- A plain line on a console. -/
def plainLine (stamp : String) (r : Record) : String :=
  let (l, logger, m, fields, a) := plainParts r
  withLine
    (stamp ++ " " ++ Text.padRight 8 l.capitals ++ " " ++ logger ++ ": " ++ m ++ " "
      ++ (fields.map fun fs => (Datum.record fs).shown).getD "")
    a.line?

/-- A record laid out. -/
def Layout.render (y : Layout) (stamp : String) (r : Record) : String :=
  match y.structured, y.console with
  | true,  false => Json.write Datum.shown (.record (structuredEntries stamp r))
  | true,  true  => consoleLines (structuredEntries stamp r) (looseLine r)
  | false, false => Json.write Datum.message (.record (plainEntries stamp r))
  | false, true  => plainLine stamp r

/-- A record of which nothing but its message is written. -/
def bareLine (r : Record) : String :=
  let (_, _, m, _, a) := plainParts r
  withLine m a.line?

end FleetHealth.Log
