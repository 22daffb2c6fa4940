/-!
# Fault — Kind

The kinds a fault can be of.  A kind decides who handles the fault: faults of the operating system and of the database are query failures, faults of value reject a sample, and the two kinds of sink fault are absorbed by the emitter.  `label` is the word that stands for a kind in messages and log lines, and `home` is what precedes it on an exception line.
-/

namespace FleetHealth.Fault

/-- The kinds of fault. -/
inductive Kind where
  | os
  | isDirectory
  | notDirectory
  | fileExists
  | timeout
  | connectionReset
  | connectionRefused
  | wouldBlock
  | interrupted
  | brokenPipe
  | runtime
  | recursion
  | value
  | encoding
  | dimensions
  | key
  | lookup
  | overflow
  | wrongType
  | noMember
  | sink
  | sinkTransient
  | sinkFatal
  | config
  | query
  | emitterInit
  | client
  | poolInterface
  | database
  | undefinedTable
deriving DecidableEq, Repr

namespace Kind

/-- The word for a kind in messages and log lines. -/
def label : Kind → String
  | os                => "OSError"
  | isDirectory       => "IsADirectoryError"
  | notDirectory      => "NotADirectoryError"
  | fileExists        => "FileExistsError"
  | timeout           => "TimeoutError"
  | connectionReset   => "ConnectionResetError"
  | connectionRefused => "ConnectionRefusedError"
  | wouldBlock        => "BlockingIOError"
  | interrupted       => "InterruptedError"
  | brokenPipe        => "BrokenPipeError"
  | runtime           => "RuntimeError"
  | recursion         => "RecursionError"
  | value             => "ValueError"
  | encoding          => "UnicodeEncodeError"
  | dimensions        => "InvalidDimensions"
  | key               => "KeyError"
  | lookup            => "LookupError"
  | overflow          => "OverflowError"
  | wrongType         => "TypeError"
  | noMember          => "AttributeError"
  | sink              => "SinkError"
  | sinkTransient     => "SinkTransient"
  | sinkFatal         => "SinkFatal"
  | config            => "ConfigError"
  | query             => "QueryFailure"
  | emitterInit       => "EmitterInitError"
  | client            => "MetricClientError"
  | poolInterface     => "InterfaceError"
  | database          => "PostgresError"
  | undefinedTable    => "UndefinedTableError"

/-- What precedes the word on an exception line; nothing for the built-in kinds. -/
def home : Kind → String
  | dimensions | sink | sinkTransient | sinkFatal | config | query | emitterInit | client =>
    "syncwatch.errors."
  | poolInterface | database => "asyncpg.exceptions._base."
  | undefinedTable           => "asyncpg.exceptions."
  | _                        => ""

/-- The kinds that a fault from outside may be of. -/
def outside : List Kind :=
  [os, timeout, connectionReset, connectionRefused, wouldBlock, interrupted, brokenPipe, runtime,
   value, key, lookup, sinkTransient, sinkFatal, sink, poolInterface, database, undefinedTable]

/-- The kind of a fault from outside that a word stands for. -/
def ofLabel? (s : String) : Option Kind :=
  outside.find? fun k => k.label == s

/-- Faults of the operating system, time-outs included. -/
def isSystem : Kind → Bool
  | os | isDirectory | notDirectory | fileExists | timeout | connectionReset | connectionRefused
  | wouldBlock | interrupted | brokenPipe => true
  | _ => false

/-- Faults of the database or of its connections. -/
def isDatabase : Kind → Bool
  | poolInterface | database | undefinedTable => true
  | _ => false

/-- Faults of value, wrong dimensions and texts without an encoding included. -/
def isValue : Kind → Bool
  | value | encoding | dimensions => true
  | _ => false

/-- The kinds whose answers carry a message. -/
def showsMessage : Kind → Bool
  | config | query | emitterInit | client | sink | sinkTransient | sinkFatal | dimensions
  | value | runtime | os | key => true
  | _ => false

end Kind
end FleetHealth.Fault
