import FleetHealth.Datum.Basic

/-!
# JSON — Writer

Values as JSON text in ASCII: fields in their order, a comma and a space between members, a colon and a space after a name, other characters by their code units in four hexadecimal digits.  Floats have their shortest text, and what is no number its bare word.  `write` puts everything on one line, `writeIndented` one member on a line; both are given the text that stands for values JSON has no form for.
-/

namespace FleetHealth.Json

/-- One character inside a string. -/
def escapeChar (c : Char) : List Char :=
  let n := c.toNat
  if c = '"' || c = '\\' then ['\\', c]
  else if c = '\n' then ['\\', 'n']
  else if c = '\r' then ['\\', 'r']
  else if c = '\t' then ['\\', 't']
  else if n = 0x08 then ['\\', 'b']
  else if n = 0x0C then ['\\', 'f']
  else if 0x20 ≤ n && n ≤ 0x7E then [c]
  else if n < 0x10000 then Text.escapeUnit n
  else
    Text.escapeUnit (0xD800 + (n - 0x10000) / 0x400)
      ++ Text.escapeUnit (0xDC00 + (n - 0x10000) % 0x400)

/-- A string. -/
def writeString (s : String) : String :=
  String.ofList ('"' :: (s.toList.flatMap escapeChar ++ ['"']))

/-- A float: its shortest text, or its bare word. -/
def writeFloat : Binary64 → String
  | .nan            => "NaN"
  | .infinity true  => "-Infinity"
  | .infinity false => "Infinity"
  | x               => x.text

/-- A value that has no members; the others by the given text. -/
def writeLeaf (other : Datum → String) : Datum → String
  | .null    => "null"
  | .bool b  => if b then "true" else "false"
  | .int n   => toString n
  | .float x => writeFloat x
  | .text s  => writeString s
  | d        => writeString (other d)

mutual

/-- A value on one line. -/
def write (other : Datum → String) : Datum → String
  | .list xs   => "[" ++ String.intercalate ", " (writeItems other xs) ++ "]"
  | .record fs => "\x7b" ++ String.intercalate ", " (writeFields other fs) ++ "\x7d"
  | d          => writeLeaf other d

/-- Each value of a list on one line. -/
def writeItems (other : Datum → String) : List Datum → List String
  | []      => []
  | x :: xs => write other x :: writeItems other xs

/-- Each field of a record on one line. -/
def writeFields (other : Datum → String) : List (String × Datum) → List String
  | []           => []
  | (k, x) :: fs => (writeString k ++ ": " ++ write other x) :: writeFields other fs

end

/-- A line break and the indentation of a depth. -/
def newline (depth : Nat) : String :=
  String.ofList ('\n' :: List.replicate (2 * depth) ' ')

/-- Members on lines of their own between two brackets. -/
def block (depth : Nat) (opening closing : String) (members : List String) : String :=
  if members.isEmpty then opening ++ closing
  else
    opening ++ newline (depth + 1) ++ String.intercalate ("," ++ newline (depth + 1)) members
      ++ newline depth ++ closing

mutual

/-- A value with one member on a line, at a depth. -/
def indent (other : Datum → String) (depth : Nat) : Datum → String
  | .list xs   => block depth "[" "]" (indentItems other (depth + 1) xs)
  | .record fs => block depth "\x7b" "\x7d" (indentFields other (depth + 1) fs)
  | d          => writeLeaf other d

/-- Each value of a list with one member on a line. -/
def indentItems (other : Datum → String) (depth : Nat) : List Datum → List String
  | []      => []
  | x :: xs => indent other depth x :: indentItems other depth xs

/-- Each field of a record with one member on a line. -/
def indentFields (other : Datum → String) (depth : Nat) : List (String × Datum) → List String
  | []           => []
  | (k, x) :: fs =>
    (writeString k ++ ": " ++ indent other depth x) :: indentFields other depth fs

end

/-- A value with one member on a line. -/
def writeIndented (other : Datum → String) (d : Datum) : String := indent other 0 d

end FleetHealth.Json
