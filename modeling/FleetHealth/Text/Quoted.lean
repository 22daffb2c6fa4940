import FleetHealth.Text.Digit
import FleetHealth.Text.Printable

/-!
# Text — Quoted

Text as it stands in messages and log lines: between single quotes, or double ones when it holds a single quote and no double one.  The quote in use, the backslash, tab and the two line ends are escaped by name, and every other unprintable character by its code point in two, four or eight hexadecimal digits.  A list of texts stands in brackets.
-/

namespace FleetHealth.Text

/-- The quote that surrounds a text. -/
def quoteFor (cs : List Char) : Char :=
  if cs.contains '\'' && !cs.contains '"' then '"' else '\''

/-- A code point in four hexadecimal digits. -/
def escapeUnit (n : Nat) : List Char := '\\' :: 'u' :: hexChars 4 n

/-- One character inside quotes. -/
def escapeChar (quote c : Char) : List Char :=
  if c = quote || c = '\\' then ['\\', c]
  else if c = '\t' then ['\\', 't']
  else if c = '\n' then ['\\', 'n']
  else if c = '\r' then ['\\', 'r']
  else if isPrintable c then [c]
  else if c.toNat < 0x100 then '\\' :: 'x' :: hexChars 2 c.toNat
  else if c.toNat < 0x10000 then escapeUnit c.toNat
  else '\\' :: 'U' :: hexChars 8 c.toNat

/-- The text between quotes. -/
def quoted (s : String) : String :=
  let cs := s.toList
  let q := quoteFor cs
  String.ofList (q :: (cs.flatMap (escapeChar q) ++ [q]))

/-- A list of texts, each between quotes. -/
def quotedList (xs : List String) : String :=
  "[" ++ String.intercalate ", " (xs.map quoted) ++ "]"

/-- The number in decimal with zeros on the left up to a width. -/
def padNat (width n : Nat) : String :=
  let s := toString n
  String.ofList (List.replicate (width - s.length) '0') ++ s

/-- The text with spaces on the right up to a width. -/
def padRight (width : Nat) (s : String) : String :=
  s ++ String.ofList (List.replicate (width - s.length) ' ')

end FleetHealth.Text
