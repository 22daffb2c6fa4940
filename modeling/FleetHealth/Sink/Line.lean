import FleetHealth.Metric.Basic

/-!
# Sink — Line

One sample as one line of the DogStatsD protocol: the name, a colon, the value, a bar, the type code, and where there are tags a bar, a number sign and the tags, each a key and a value with a colon between, separated by commas.  Commas, bars, number signs and white space inside a tag become underscores, so the separators of a line are those the encoder wrote.  Whole values have no point.
-/

namespace FleetHealth.Line

/-- The characters that a tag may not hold. -/
def isUnsafe (c : Char) : Bool := c = ',' || c = '|' || c = '#' || Text.isBlank c

/-- A tag key or value with underscores in the place of characters it may not hold. -/
def sanitize (s : String) : String :=
  String.ofList (s.toList.map fun c => if isUnsafe c then '_' else c)

/-- The text of a value. -/
def valueText (x : Binary64) : String :=
  if x.isWhole then toString x.truncate else x.text

/-- The code of a type. -/
def typeCode : MetricType → String
  | .gauge        => "g"
  | .counter      => "c"
  | .distribution => "d"

/-- One tag. -/
def tagText (t : String × String) : String := sanitize t.1 ++ ":" ++ sanitize t.2

/-- The tags of a line. -/
def tagSection (tags : Tags) : String :=
  if tags.isEmpty then "" else "|#" ++ String.intercalate "," (tags.map tagText)

/-- One sample as a line. -/
def encode (m : Metric) (x : Binary64) (tags : Tags) : String :=
  m.name ++ ":" ++ valueText x ++ "|" ++ typeCode m.type ++ tagSection tags

end FleetHealth.Line
