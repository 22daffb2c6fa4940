import FleetHealth.Decimal.Reader
import FleetHealth.Entries
import FleetHealth.Fault.Shape
import FleetHealth.Fault.Summary
import FleetHealth.Number
import FleetHealth.Time

/-!
# Datum — Basic

The values that database rows, schedule payloads, sample values, dimensions and log fields hold: JSON values with whole numbers and floats apart, and besides them instants, durations and faults.  A record keeps the order of its fields.  `toFloat?` and `toInt?` read a number out of a value or say why there is none, `text` is a value inside a message, and `shown` is a value in a log field.
-/

namespace FleetHealth

/-- A value of a row, a payload, a sample or a log field. -/
inductive Datum where
  | null
  | bool (b : Bool)
  | int (n : Int)
  | float (x : Binary64)
  | text (s : String)
  | list (xs : List Datum)
  | record (fields : List (String × Datum))
  | instant (t : Instant)
  | duration (d : Duration)
  | fault (f : Fault.Summary)
deriving Inhabited

namespace Datum

/-- A whole number or a float as a value. -/
def number : Number → Datum
  | .int n   => .int n
  | .float x => .float x

/-- A text or nothing as a value. -/
def optText : Option String → Datum
  | some s => .text s
  | none   => .null

/-- The name of a value's type. -/
def typeName : Datum → String
  | null       => "NoneType"
  | bool _     => "bool"
  | int _      => "int"
  | float _    => "float"
  | text _     => "str"
  | list _     => "list"
  | record _   => "dict"
  | instant _  => "datetime"
  | duration _ => "timedelta"
  | fault f    => f.kind.label

/-- The name of a value's type in messages that qualify it. -/
def qualifiedType : Datum → String
  | instant _  => "datetime.datetime"
  | duration _ => "datetime.timedelta"
  | d          => d.typeName

/-- Whether a value counts as present: neither nothing, zero, nor empty. -/
def isPresent : Datum → Bool
  | null       => false
  | bool b     => b
  | int n      => n != 0
  | float x    => !x.eqv .zero
  | text s     => !s.isEmpty
  | list xs    => !xs.isEmpty
  | record fs  => !fs.isEmpty
  | duration d => d.micros != 0
  | instant _ | fault _ => true

/-- A whole number as a float; `none` when it is beyond the range. -/
def floatOfInt? (n : Int) : Option Binary64 :=
  let x := Binary64.ofInt n
  if x.isFinite then some x else none

/-- The float that a value is or writes. -/
def toFloat : Datum → Except ShapeFault Binary64
  | bool b  => .ok (.ofInt (if b then 1 else 0))
  | int n   => (floatOfInt? n).elim (.error .integerTooLarge) .ok
  | float x => .ok x
  | text s  => (Decimal.readFloat s).elim (.error (.notNumber (Text.quoted s))) .ok
  | d       => .error (.noNumberFrom d.qualifiedType)

/-- The float that a value is; a text is none, whatever it writes. -/
def toReal : Datum → Except ShapeFault Binary64
  | text s => .error (.notReal (text s).qualifiedType)
  | d      =>
    match d.toFloat with
    | .error (.noNumberFrom t) => .error (.notReal t)
    | r                        => r

/-- The number that a value is; truth values count as one and zero. -/
def number? : Datum → Option Number
  | bool b  => some (.int (if b then 1 else 0))
  | int n   => some (.int n)
  | float x => some (.float x)
  | _       => none

/-- The whole number that a value is, writes, or has before its point. -/
def toInt : Datum → Except ShapeFault Int
  | bool b  => .ok (if b then 1 else 0)
  | int n   => .ok n
  | float x =>
    match x with
    | .nan        => .error .integerFromNaN
    | .infinity _ => .error .integerFromInfinity
    | x           => .ok x.truncate
  | text s  =>
    match Decimal.readInt s with
    | .ok n               => .ok n
    | .error .malformed   => .error (.notInteger s)
    | .error (.tooLong n) => .error (.tooManyDigits n)
  | d       => .error (.noIntegerFrom d.qualifiedType)

/-- The members of a list, the names in a record, or the characters of a text. -/
def elements : Datum → Except ShapeFault (List Datum)
  | list xs   => .ok xs
  | record fs => .ok (fs.map fun f => .text f.1)
  | text s    => .ok (s.toList.map fun c => .text (String.singleton c))
  | d         => .error (.notIterable d.qualifiedType)

/-- How many members, names or characters a value has. -/
def length (d : Datum) : Except ShapeFault Nat :=
  match d.elements with
  | .ok ds   => .ok ds.length
  | .error _ => .error (.noLength d.qualifiedType)

/-- The value of a column in a row. -/
def column (name : String) : Datum → Except ShapeFault Datum
  | record fs => (Entries.get? name fs).elim (.error (.columnMissing name)) .ok
  | d         => .error (.notSubscriptable d.qualifiedType)

mutual

/-- A value as it is shown in a log field. -/
def shown : Datum → String
  | null       => "None"
  | bool b     => if b then "True" else "False"
  | int n      => toString n
  | float x    => x.text
  | text s     => Text.quoted s
  | list xs    => "[" ++ String.intercalate ", " (shownList xs) ++ "]"
  | record fs  => "\x7b" ++ String.intercalate ", " (shownFields fs) ++ "\x7d"
  | instant t  => t.shown
  | duration d => d.shown
  | fault f    => f.shown

/-- Each value of a list as it is shown in a log field. -/
def shownList : List Datum → List String
  | []      => []
  | x :: xs => shown x :: shownList xs

/-- Each field of a record as it is shown in a log field. -/
def shownFields : List (String × Datum) → List String
  | []           => []
  | (k, x) :: fs => (Text.quoted k ++ ": " ++ shown x) :: shownFields fs

end

/-- A value inside a message. -/
def message : Datum → String
  | text s     => s
  | instant t  => t.text
  | duration d => d.text
  | fault f    => f.text
  | d          => d.shown

end Datum

/-- The keys of an aggregate: every value that is neither a list nor a record. -/
inductive Key where
  | null
  | text (s : String)
  | bool (b : Bool)
  | number (n : Number)
  | instant (t : Instant)
  | duration (d : Duration)
  | fault (f : Fault.Summary)

namespace Key

/-- The key that a value is; lists and records are none. -/
def ofDatum : Datum → Except ShapeFault Key
  | .null       => .ok .null
  | .text s     => .ok (.text s)
  | .bool b     => .ok (.bool b)
  | .int n      => .ok (.number (.int n))
  | .float x    => .ok (.number (.float x))
  | .instant t  => .ok (.instant t)
  | .duration d => .ok (.duration d)
  | .fault f    => .ok (.fault f)
  | d           => .error (.unhashable d.typeName)

/-- The key as a value. -/
def toDatum : Key → Datum
  | null       => .null
  | text s     => .text s
  | bool b     => .bool b
  | number n   => .number n
  | instant t  => .instant t
  | duration d => .duration d
  | fault f    => .fault f

/-- Whether two keys are one key.  Truth values and numbers are one when their values are equal,
whatever their form, so what is not a number is one with nothing; two faults are never one. -/
def same (a b : Key) : Bool :=
  match a.toDatum.number?, b.toDatum.number? with
  | some m, some n => m.eqv n
  | _,      _      =>
    match a, b with
    | null,       null       => true
    | text s,     text t     => s == t
    | instant s,  instant t  => s == t
    | duration c, duration d => c == d
    | _,          _          => false

instance : BEq Key := ⟨same⟩

end Key
end FleetHealth
