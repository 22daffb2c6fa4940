import FleetHealth.Datum.Basic

/-!
# JSON — Value

What JSON text writes, before it is a value of the library.  A string of JSON is a list of code points, and besides characters it can hold halves of surrogate pairs that stand alone, which are no characters and stand in no text.  `toDatum` is the value that one of JSON comes to: a lone half is spelled out as JSON spells it, by a backslash, a letter and its code in four hexadecimal digits.
-/

namespace FleetHealth.Json

/-- A value that JSON text writes. -/
inductive Value where
  | null
  | bool (b : Bool)
  | int (n : Int)
  | float (x : Binary64)
  | text (codes : List Nat)
  | list (xs : List Value)
  | record (fields : List (List Nat × Value))
deriving Inhabited

/-- A code point as it stands in a text. -/
def spellCode (n : Nat) : List Char :=
  if n.isValidChar then [Char.ofNat n] else Text.escapeUnit n

/-- The text of code points. -/
def spell (codes : List Nat) : String := String.ofList (codes.flatMap spellCode)

namespace Value

mutual

/-- The value that one of JSON comes to. -/
def toDatum : Value → Datum
  | null      => .null
  | bool b    => .bool b
  | int n     => .int n
  | float x   => .float x
  | text cs   => .text (spell cs)
  | list xs   => .list (toData xs)
  | record fs => .record (toFields fs)

/-- The values that those of a list come to. -/
def toData : List Value → List Datum
  | []      => []
  | x :: xs => x.toDatum :: toData xs

/-- The fields that those of a record come to. -/
def toFields : List (List Nat × Value) → List (String × Datum)
  | []           => []
  | (k, x) :: fs => (spell k, x.toDatum) :: toFields fs

end

end Value
end FleetHealth.Json
