import FleetHealth.Log.Entry
import FleetHealth.Log.Template

/-!
# Log — Record

A record is what reaches a handler.  An entry becomes one in two ways: a structured record is one map in which the fields, the event, the logger, the level, the time and the fault stand side by side, and a plain record keeps the message apart from the fields.  Records of other programs are plain and have no fields at all; their message is a template whose directives are filled from arguments.
-/

namespace FleetHealth.Log

/-- What reaches a handler. -/
inductive Record where
  | structured (level : Level) (logger : String) (entries : List (String × Datum))
  | plain (level : Level) (logger message : String) (fields : Option (List (String × Datum)))
      (attachment : Attachment)

/-- How an entry is made: at a level, or at the level of errors with the fault at hand. -/
inductive Method where
  | at (level : Level)
  | exception

namespace Method

/-- The level of a method. -/
def level : Method → Level
  | .at l      => l
  | .exception => .error

/-- The attachment that a method asks for by itself. -/
def attachment : Method → Attachment
  | .at _      => .none
  | .exception => .missing

end Method

/-- The field that asks for a fault to be attached. -/
def attachmentField : String := "exc_info"

/-- The attachment that a value asks for. -/
def Attachment.ofDatum : Datum → Attachment
  | .fault f => .fault f
  | d        => if d.isPresent then .missing else .none

/-- The names that no field may bear. -/
def reservedNames (structured : Bool) : List String :=
  ["self", "event"] ++ if structured then ["method_name"] else []

namespace Entry

/-- The name by which a logger is written: the nameless one is the root. -/
def loggerName (name : String) : String := if name.isEmpty then "root" else name

/-- The entry of a call, or the first field whose name is reserved. -/
def ofCall (structured : Bool) (m : Method) (logger event : String)
    (fields : List (String × Datum)) : Except ShapeFault Entry :=
  match fields.find? fun f => (reservedNames structured).contains f.1 with
  | some f => .error (.reservedField f.1)
  | none   =>
    let asked := (Entries.get? attachmentField fields).map Attachment.ofDatum
    .ok { level := m.level
          logger := loggerName logger
          event := event
          fields := Entries.remove attachmentField fields
          attachment := asked.getD m.attachment }

end Entry

namespace Attachment

/-- The text of an attachment on a line of its own. -/
def line? : Attachment → Option String
  | none    => .none
  | fault f => some f.line
  | missing => some "NoneType: None"

/-- The field that holds the text of an attached fault. -/
def field (a : Attachment) : List (String × Datum) :=
  match a with
  | fault f => [("exception", .text f.line)]
  | _       => []

/-- The parts of an attachment as a value: the kind, the fault and where it was raised. -/
def parts? : Attachment → Option Datum
  | none    => .none
  | fault f =>
    some (.list [.text ("<class '" ++ f.kind.home ++ f.kind.label ++ "'>"), .fault f, .null])
  | missing => some (.list [.null, .null, .null])

end Attachment

namespace Record

/-- The marks that are put on every structured line: logger, level and time. -/
def marks (stamp : String) (level : Level) (logger : String) : List (String × Datum) :=
  [("logger", .text logger), ("level", .text level.word), ("timestamp", .text stamp)]

/-- An entry as a structured record. -/
def structuredOf (stamp : String) (e : Entry) : Record :=
  let own := ("event", .text e.event) :: marks stamp e.level e.logger
  .structured e.level e.logger (Entries.putAll e.fields (own ++ e.attachment.field))

/-- An entry as a plain record. -/
def ofEntry (e : Entry) : Record :=
  .plain e.level e.logger e.event (some e.fields) e.attachment

/-- The level of a record. -/
def level : Record → Level
  | .structured l .. => l
  | .plain l ..      => l

/-- A record of another program. -/
def foreign? (level : Level) (logger template : String) (arguments : List Datum) :
    Option Record :=
  (Template.fill? template arguments).map fun m =>
    .plain level (Entry.loggerName logger) m none .none

end Record
end FleetHealth.Log
