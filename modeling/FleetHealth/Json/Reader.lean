import FleetHealth.Json.Value

/-!
# JSON — Reader

JSON text as values.  Besides the standard the reader takes the bare words for what is not a number and for the infinities; it keeps the order of fields and, of a repeated field, the first place and the last value.  A number without fraction and exponent is a whole number, of at most as many digits as `Decimal.digitLimit`; every other number is a float.  White space is space, tab and the two line ends, no byte-order mark may open the text.  How many containers may stand one inside the other is given to the reader: what a host has room for depends on the host and on the depth of the call.
-/

namespace FleetHealth.Json

/-- The values that hold values. -/
inductive Container where
  | list
  | record
deriving DecidableEq

/-- The word for a container. -/
def Container.word : Container → String
  | list   => "array"
  | record => "object"

/-- Why a text is no value. -/
inductive ReadError where
  | malformed
  | tooManyDigits (digits : Nat)
  | tooDeep (container : Container)
deriving DecidableEq

/-- What is read so far and the rest of the text. -/
abbrev Read (α : Type) := Except ReadError (α × List Char)

/-- White space between tokens. -/
def isSpace (c : Char) : Bool := c = ' ' || c = '\t' || c = '\n' || c = '\r'

/-- The text without the white space before it. -/
def skip (cs : List Char) : List Char := cs.dropWhile isSpace

/-- The value of four hexadecimal digits. -/
def hex4? (a b c d : Char) : Option Nat := do
  let w ← Text.hexDigit? a
  let x ← Text.hexDigit? b
  let y ← Text.hexDigit? c
  let z ← Text.hexDigit? d
  some (((w * 16 + x) * 16 + y) * 16 + z)

/-- The character that a letter after a backslash stands for. -/
def escape? : Char → Option Nat
  | '"'  => some 0x22
  | '\\' => some 0x5C
  | '/'  => some 0x2F
  | 'b'  => some 0x08
  | 'f'  => some 0x0C
  | 'n'  => some 0x0A
  | 'r'  => some 0x0D
  | 't'  => some 0x09
  | _    => none

/-- The code units of a string up to its closing quote. -/
def stringUnits : List Char → Read (List Nat)
  | []                                     => .error .malformed
  | '"' :: rest                            => .ok ([], rest)
  | '\\' :: 'u' :: a :: b :: c :: d :: rest =>
    match hex4? a b c d with
    | none   => .error .malformed
    | some n => (stringUnits rest).map fun (ns, tail) => (n :: ns, tail)
  | '\\' :: e :: rest                      =>
    match escape? e with
    | none   => .error .malformed
    | some n => (stringUnits rest).map fun (ns, tail) => (n :: ns, tail)
  | c :: rest                              =>
    if c.toNat < 0x20 || c = '\\' then .error .malformed
    else (stringUnits rest).map fun (ns, tail) => (c.toNat :: ns, tail)

/-- Whether a code unit opens a surrogate pair. -/
def isHigh (n : Nat) : Bool := 0xD800 ≤ n && n ≤ 0xDBFF

/-- Whether a code unit closes a surrogate pair. -/
def isLow (n : Nat) : Bool := 0xDC00 ≤ n && n ≤ 0xDFFF

/-- The code points of code units: surrogate pairs are joined, and a half that stands alone stays as
it is. -/
def ofUnits : List Nat → List Nat
  | []           => []
  | [n]          => [n]
  | m :: n :: ns =>
    if isHigh m && isLow n then
      (0x10000 + (m - 0xD800) * 0x400 + (n - 0xDC00)) :: ofUnits ns
    else m :: ofUnits (n :: ns)

/-- The rest of a string after its opening quote. -/
def string (cs : List Char) : Read (List Nat) :=
  (stringUnits cs).map fun (ns, tail) => (ofUnits ns, tail)

/-- The ASCII digits at the start of a text and the rest. -/
def digits (cs : List Char) : List Nat × List Char :=
  let isDigit := fun c : Char => '0' ≤ c && c ≤ '9'
  ((cs.takeWhile isDigit).map (·.toNat - 0x30), cs.dropWhile isDigit)

/-- A fraction, when a point and at least one digit stand here. -/
def fraction : List Char → List Nat × List Char
  | '.' :: cs =>
    match digits cs with
    | ([], _)     => ([], '.' :: cs)
    | (ds, rest)  => (ds, rest)
  | cs => ([], cs)

/-- An exponent, when its letter, perhaps a sign, and at least one digit stand here. -/
def exponent : List Char → Option Int × List Char
  | []      => (none, [])
  | c :: cs =>
    if c = 'e' || c = 'E' then
      let (negative, body) := Decimal.sign cs
      match digits body with
      | ([], _)    => (none, c :: cs)
      | (ds, rest) =>
        let n : Int := Decimal.ofDigits ds
        (some (if negative then -n else n), rest)
    else (none, c :: cs)

/-- A number after its sign. -/
def number (negative : Bool) (cs : List Char) : Read Value :=
  let (whole, afterWhole) :=
    match cs with
    | '0' :: rest => ([0], rest)
    | _           => digits cs
  if whole.isEmpty then .error .malformed
  else
    let (part, afterPart) := fraction afterWhole
    let (power, rest) := exponent afterPart
    if part.isEmpty && power.isNone then
      if Decimal.digitLimit < whole.length then .error (.tooManyDigits whole.length)
      else
        let n : Int := Decimal.ofDigits whole
        .ok (.int (if negative then -n else n), rest)
    else
      .ok (.float (.ofDecimal negative (Decimal.ofDigits (whole ++ part))
        (power.getD 0 - part.length)), rest)

/-- The words that stand for values, with those values. -/
def words : List (List Char × Value) :=
  [("null".toList, .null), ("true".toList, .bool true), ("false".toList, .bool false),
   ("NaN".toList, .float .nan), ("Infinity".toList, .float (.infinity false)),
   ("-Infinity".toList, .float (.infinity true))]

/-- A word that stands for a value. -/
def word? (cs : List Char) : Option (Value × List Char) :=
  (words.find? fun w => w.1.isPrefixOf cs).map fun w => (w.2, cs.drop w.1.length)

mutual

/-- A value at the start of a text, within so many steps and with room for so many containers one
inside the other. -/
def value : Nat → Nat → List Char → Read Value
  | 0,        _,    _  => .error .malformed
  | fuel + 1, room, cs =>
    match cs with
    | '"' :: rest => (string rest).map fun (s, tail) => (.text s, tail)
    | '[' :: rest =>
      match room with
      | 0        => .error (.tooDeep .list)
      | room + 1 =>
        match skip rest with
        | ']' :: tail => .ok (.list [], tail)
        | body        => (items fuel room body).map fun (xs, tail) => (.list xs, tail)
    | '\x7b' :: rest =>
      match room with
      | 0        => .error (.tooDeep .record)
      | room + 1 =>
        match skip rest with
        | '\x7d' :: tail => .ok (.record [], tail)
        | body           =>
          (fields fuel room body).map fun (fs, tail) => (.record (Entries.ofPairs fs), tail)
    | _ =>
      match word? cs with
      | some r => .ok r
      | none   =>
        match cs with
        | '-' :: rest => number true rest
        | _           => number false cs

/-- The values of a list up to its closing bracket. -/
def items : Nat → Nat → List Char → Read (List Value)
  | 0,        _,    _  => .error .malformed
  | fuel + 1, room, cs =>
    match value fuel room cs with
    | .error e      => .error e
    | .ok (x, rest) =>
      match skip rest with
      | ',' :: tail => (items fuel room (skip tail)).map fun (xs, after) => (x :: xs, after)
      | ']' :: tail => .ok ([x], tail)
      | _           => .error .malformed

/-- The fields of a record up to its closing brace. -/
def fields : Nat → Nat → List Char → Read (List (List Nat × Value))
  | 0,        _,    _  => .error .malformed
  | fuel + 1, room, cs =>
    match cs with
    | '"' :: body =>
      match string body with
      | .error e      => .error e
      | .ok (k, rest) =>
        match skip rest with
        | ':' :: after =>
          match value fuel room (skip after) with
          | .error e      => .error e
          | .ok (x, rest) =>
            match skip rest with
            | ',' :: tail    =>
              (fields fuel room (skip tail)).map fun (fs, rest) => ((k, x) :: fs, rest)
            | '\x7d' :: tail => .ok ([(k, x)], tail)
            | _              => .error .malformed
        | _ => .error .malformed
    | _ => .error .malformed

end

/-- The value that a text writes, with room for so many containers one inside the other. -/
def read (nesting : Nat) (s : String) : Except ReadError Value :=
  let cs := s.toList
  match value (2 * cs.length + 2) nesting (skip cs) with
  | .error e      => .error e
  | .ok (x, rest) => if (skip rest).isEmpty then .ok x else .error .malformed

end FleetHealth.Json
