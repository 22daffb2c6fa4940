import FleetHealth.Text.Quoted

/-!
# Time

Points in time and lengths of time, both whole microseconds: an `Instant` counts from the start of 1970 in UTC, a `Duration` from nothing.  Each has a text for documents and a form in which it is shown in log fields.  A duration may last less than 10⁹ days.
-/

namespace FleetHealth

/-- A point in time, in microseconds since 1970-01-01 in UTC. -/
structure Instant where
  micros : Int
deriving DecidableEq, Repr

/-- A length of time in microseconds. -/
structure Duration where
  micros : Int
deriving DecidableEq, Repr

/-- The time from one instant to a later one. -/
def Instant.since (now earlier : Instant) : Duration := ⟨now.micros - earlier.micros⟩

namespace Duration

/-- Difference. -/
def minus (a b : Duration) : Duration := ⟨a.micros - b.micros⟩

/-- Strictly longer. -/
def longerThan (a b : Duration) : Bool := b.micros < a.micros

/-- A number of whole seconds. -/
def ofSeconds (n : Int) : Duration := ⟨n * 1000000⟩

/-- A number of whole days. -/
def ofDays (n : Int) : Duration := ofSeconds (n * 86400)

/-- Whole days, rounded down. -/
def days (d : Duration) : Int := d.micros.fdiv 86400000000

/-- Whether a duration is shorter than 10⁹ days in either direction. -/
def isInRange (d : Duration) : Bool := -999999999 ≤ d.days && d.days ≤ 999999999

/-- Seconds beyond the whole days. -/
def seconds (d : Duration) : Nat := ((d.micros.fmod 86400000000) / 1000000).toNat

/-- Microseconds beyond the whole seconds. -/
def fraction (d : Duration) : Nat := (d.micros.fmod 1000000).toNat

/-- A duration as text: the days, then hours, minutes and seconds. -/
def text (d : Duration) : String :=
  let s := d.seconds
  let head :=
    if d.days = 0 then ""
    else toString d.days ++ (if d.days.natAbs = 1 then " day, " else " days, ")
  let tail := if d.fraction = 0 then "" else "." ++ Text.padNat 6 d.fraction
  head ++ toString (s / 3600) ++ ":" ++ Text.padNat 2 (s / 60 % 60) ++ ":"
    ++ Text.padNat 2 (s % 60) ++ tail

/-- A duration as it is shown in a log field: its parts that are not zero. -/
def shown (d : Duration) : String :=
  let parts :=
    (if d.days = 0 then [] else ["days=" ++ toString d.days])
    ++ (if d.seconds = 0 then [] else ["seconds=" ++ toString d.seconds])
    ++ (if d.fraction = 0 then [] else ["microseconds=" ++ toString d.fraction])
  "datetime.timedelta(" ++ (if parts.isEmpty then "0" else String.intercalate ", " parts) ++ ")"

end Duration

namespace Instant

/-- The first instant of the year 1. -/
def earliest : Instant := ⟨-62135596800000000⟩

/-- The last instant of the year 9999. -/
def latest : Instant := ⟨253402300799999999⟩

/-- Whether an instant lies in the years from 1 to 9999. -/
def isInRange (t : Instant) : Bool :=
  earliest.micros ≤ t.micros && t.micros ≤ latest.micros

/-- The instant that lies a duration before another. -/
def minus (t : Instant) (d : Duration) : Instant := ⟨t.micros - d.micros⟩

/-- The civil date of a day number counted from 1970-01-01: year, month and day. -/
def civil (day : Int) : Int × Nat × Nat :=
  let z := day + 719468
  let era := z.fdiv 146097
  let doe := (z - era * 146097).toNat
  let yoe := (doe - doe / 1460 + doe / 36524 - doe / 146096) / 365
  let doy := doe - (365 * yoe + yoe / 4 - yoe / 100)
  let mp := (5 * doy + 2) / 153
  let d := doy - (153 * mp + 2) / 5 + 1
  let m := if mp < 10 then mp + 3 else mp - 9
  (era * 400 + yoe + (if m ≤ 2 then 1 else 0), m, d)

/-- The time since the epoch, whose parts are those of the day. -/
def sinceEpoch (t : Instant) : Duration := ⟨t.micros⟩

/-- The date and the time of day of an instant, with a text between them. -/
def dateTime (between : String) (t : Instant) : String :=
  let e := t.sinceEpoch
  let (y, m, d) := civil e.days
  let s := e.seconds
  let tail := if e.fraction = 0 then "" else "." ++ Text.padNat 6 e.fraction
  Text.padNat 4 y.toNat ++ "-" ++ Text.padNat 2 m ++ "-" ++ Text.padNat 2 d ++ between
    ++ Text.padNat 2 (s / 3600) ++ ":" ++ Text.padNat 2 (s / 60 % 60) ++ ":"
    ++ Text.padNat 2 (s % 60) ++ tail

/-- An instant as text. -/
def text (t : Instant) : String := t.dateTime " " ++ "+00:00"

/-- An instant as a log line is stamped with it. -/
def stamp (t : Instant) : String := t.dateTime "T" ++ "Z"

/-- An instant as it is shown in a log field. -/
def shown (t : Instant) : String :=
  let e := t.sinceEpoch
  let (y, m, d) := civil e.days
  let s := e.seconds
  let tail :=
    if e.fraction ≠ 0 then [s % 60, e.fraction] else if s % 60 ≠ 0 then [s % 60] else []
  "datetime.datetime("
    ++ String.intercalate ", "
        (toString y :: ([m, d, s / 3600, s / 60 % 60] ++ tail).map (toString ·))
    ++ ", tzinfo=datetime.timezone.utc)"

end Instant
end FleetHealth
