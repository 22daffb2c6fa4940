import FleetHealth.Job.Status
import FleetHealth.Json.Reader

/-!
# Job — Schedule

The cadence of a connection.  A schedule payload is a record, or the JSON text of one, with a number of units and the word for the unit; `interval` reads it as a duration, as nothing when it is missing, malformed or not positive, and as a fault when its length is no duration.  `missed` says whether a connection has fallen behind its cadence, given values of any form: what cannot be subtracted or compared is a fault.
-/

namespace FleetHealth.Schedule

/-- The longest cadence that is expected to run within a day. -/
def horizon : Duration := .ofDays 1

/-- The nearest whole number to a finite float, a tie going to the even one. -/
def nearestInt : Binary64 → Int
  | .finite negative units _ =>
    let n : Int := divNearest units unitsPerOne
    if negative then -n else n
  | _ => 0

/-- A float without its whole part. -/
def fractionOf : Binary64 → Binary64
  | .finite negative units _ => .ofRatio negative (units % unitsPerOne) 1
  | x                        => x

/-- The microseconds in a number of seconds: exact for whole numbers; of a float the whole part is
exact and the fraction, scaled in floats, goes to the nearest microsecond. -/
def microsOfSeconds : Number → Except ShapeFault Int
  | .int n   => .ok (n * 1000000)
  | .float x =>
    match x with
    | .nan        => .error .integerFromNaN
    | .infinity _ => .error .integerFromInfinity
    | x           =>
      .ok (x.truncate * 1000000 + nearestInt ((fractionOf x).mul (.ofInt 1000000)))

/-- A duration, unless it is too long. -/
def bounded (d : Duration) : Except ShapeFault Duration :=
  if d.isInRange then .ok d else .error (.durationTooLong d.days)

/-- A duration of that many seconds. -/
def durationOfSeconds (n : Number) : Except ShapeFault Duration :=
  match microsOfSeconds n with
  | .error e   => .error e
  | .ok micros => bounded ⟨micros⟩

/-- The record that a payload is or writes; the text of one is read with room for so many containers
one inside the other. -/
def payload (nesting : Nat) : Datum → Except ShapeFault (Option (List (String × Datum)))
  | .record fs => .ok (some fs)
  | .text s    =>
    match Json.read nesting s with
    | .ok (.record fs)          => .ok (some (Json.Value.toFields fs))
    | .ok _                     => .ok none
    | .error .malformed         => .ok none
    | .error (.tooManyDigits n) => .error (.tooManyDigits n)
    | .error (.tooDeep c)       => .error (.nestedTooDeep c.word)
  | _ => .ok none

/-- The positive number of units in a payload. -/
def units? (fs : List (String × Datum)) : Option Number :=
  let positive := fun n : Number => if n.le (.int 0) then none else some n
  match Entries.get? "units" fs with
  | some (.int n)   => positive (.int n)
  | some (.float x) => positive (.float x)
  | _               => none

/-- The unit of a payload. -/
def timeUnit? (fs : List (String × Datum)) : Option TimeUnit :=
  let d := ((Entries.get? "timeUnit" fs).orElse fun _ => Entries.get? "time_unit" fs).getD .null
  TimeUnit.ofText? d.message

/-- The cadence that a payload asks for. -/
def interval (nesting : Nat) (schedule : Datum) : Except ShapeFault (Option Duration) :=
  match payload nesting schedule with
  | .error e        => .error e
  | .ok none        => .ok none
  | .ok (some fs)   =>
    match units? fs, timeUnit? fs with
    | some n, some u => (durationOfSeconds (n.mul (.int u.seconds))).map some
    | _,      _      => .ok none

/-! ### Falling behind -/

/-- The name of the type of durations in messages. -/
def durationType : String := (Datum.duration horizon).qualifiedType

/-- The cadence that a value is, where nothing is none. -/
def cadenceOf : Datum → Except ShapeFault (Option Duration)
  | .null       => .ok none
  | .duration d => .ok (some d)
  | d           => .error (.incomparable ">" d.qualifiedType durationType)

/-- Why the difference of two numbers is no time: a float and a whole number beyond its range have
none, and no number compares with a cadence. -/
def differenceFault (a b : Number) : ShapeFault :=
  let isHeld (n : Number) : Bool := n.isFloat || n.toBinary64.isFinite
  if !a.isFloat && !b.isFloat then .incomparable ">" (Datum.int 0).qualifiedType durationType
  else if isHeld a && isHeld b then .incomparable ">" (Datum.float .zero).qualifiedType durationType
  else .integerTooLarge

/-- The time that has passed from one value to another: between two instants, or between two
durations; an instant less a duration is an instant and not a time. -/
def elapsed (now earlier : Datum) : Except ShapeFault Duration :=
  match now, earlier with
  | .instant t,  .instant s  => .ok (t.since s)
  | .duration a, .duration b => bounded (a.minus b)
  | .instant t,  .duration d =>
    if (t.minus d).isInRange then .error (.incomparable ">" now.qualifiedType durationType)
    else .error .instantOutOfRange
  | _,           _           =>
    match now.number?, earlier.number? with
    | some m, some n => .error (differenceFault m n)
    | _,      _      => .error (.unsubtractable now.qualifiedType earlier.qualifiedType)

/-- Whether more time has passed than a cadence. -/
def isOverdue (cadence : Duration) (now earlier : Datum) : Except ShapeFault Bool :=
  (elapsed now earlier).map fun d => d.longerThan cadence

/-- The status of a last sync: nothing where there was none, and the empty text for what is no
status at all. -/
def lastStatusOf : Datum → Except ShapeFault (Option String)
  | .null   => .ok none
  | .text s => .ok (some s)
  | d       => (Key.ofDatum d).map fun _ => some ""

/-- Whether a connection fell behind its cadence.  One that never ran is measured from its creation;
one whose last sync ended, from the end of that sync; one whose sync is in flight is not behind, and
cadences longer than a day do not count. -/
def missed (cadence : Option Duration) (status ended created now : Datum) :
    Except ShapeFault Bool :=
  match cadence with
  | none   => .ok false
  | some c =>
    if c.longerThan horizon then .ok false
    else
      match lastStatusOf status with
      | .error e     => .error e
      | .ok none     => isOverdue c now created
      | .ok (some s) =>
        if JobStatus.terminalWords.contains s then
          match ended with
          | .null => .ok false
          | fin   => isOverdue c now fin
        else .ok false

end FleetHealth.Schedule
