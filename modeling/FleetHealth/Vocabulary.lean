import FleetHealth.Datum.Basic

/-!
# Vocabulary

A closed vocabulary is a list of members, each with its word.  A value is read as the member whose word it is; any other value is a fault that shows the value and names the vocabulary.
-/

namespace FleetHealth.Vocabulary

/-- The member of a vocabulary whose word a value is. -/
def member (all : List α) (word : α → String) (vocabulary : String) (d : Datum) :
    Except ShapeFault α :=
  let found :=
    match d with
    | .text s => all.find? fun a => word a == s
    | _       => none
  found.elim (.error (.unknownName d.shown vocabulary)) .ok

end FleetHealth.Vocabulary
