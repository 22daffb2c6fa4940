import FleetHealth.Fault.Kind
import FleetHealth.Text.Quoted

/-!
# Fault — Summary

What of a fault can be seen: its kind, how it reads inside another message, and how it reads in a log field.  A fault that is held as a value, or written on a line of its own, is held as its summary.
-/

namespace FleetHealth.Fault

/-- What of a fault can be seen. -/
structure Summary where
  kind : Kind
  text : String
  shown : String
deriving DecidableEq

namespace Summary

/-- How arguments read behind the word of a kind. -/
def call (k : Kind) (arguments : String) : String := k.label ++ "(" ++ arguments ++ ")"

/-- The summary of a fault with a wording: a key stands between quotes wherever it is read. -/
def worded (k : Kind) (wording : String) : Summary where
  kind := k
  text := if k = .key then Text.quoted wording else wording
  shown := call k (Text.quoted wording)

/-- The summary of a fault that carries no text at all. -/
def bare (k : Kind) : Summary where
  kind := k
  text := ""
  shown := call k ""

/-- The exception line of a fault: its kind and its text, or the kind alone. -/
def line (s : Summary) : String :=
  let head := s.kind.home ++ s.kind.label
  if s.text.isEmpty then head else head ++ ": " ++ s.text

end Summary
end FleetHealth.Fault
