import FleetHealth.Datum.Basic
import FleetHealth.Text.Order

/-!
# Datum — Order

Which of two values is less, and values in ascending order.  Numbers and truth values have one order, and texts, instants, durations and lists have orders of their own, lists that of their first members that differ; other values have none, nor have values of two kinds, and to compare them is a fault.

`sorted` finds the run of values that opens the list in order, or in descending order, and puts every value after it into place by halving.  Where the comparisons agree on an order that is all that can be seen of it; where they do not, because something is not a number or has no order, it decides what is compared and so what comes of it.
-/

namespace FleetHealth.Datum

mutual

/-- Whether two values are equal: numbers by value, records by their fields in any order, and two
faults never. -/
def same : Datum → Datum → Bool
  | null,       null       => true
  | text s,     text t     => s == t
  | instant s,  instant t  => s == t
  | duration c, duration d => c == d
  | list xs,    list ys    => sameList xs ys
  | record fs,  record gs  => fs.length == gs.length && sameFields fs gs
  | a,          b          =>
    match a.number?, b.number? with
    | some m, some n => m.eqv n
    | _,      _      => false

/-- Whether two lists are equal, member by member. -/
def sameList : List Datum → List Datum → Bool
  | [],      []      => true
  | x :: xs, y :: ys => same x y && sameList xs ys
  | _,       _       => false

/-- Whether every field of a record is a field of another. -/
def sameFields : List (String × Datum) → List (String × Datum) → Bool
  | [],           _  => true
  | (k, x) :: fs, gs =>
    match Entries.get? k gs with
    | some y => same x y && sameFields fs gs
    | none   => false

end

mutual

/-- Whether a value is less than another. -/
def less : Datum → Datum → Except ShapeFault Bool
  | text s,     text t     => .ok (Text.precedes s t)
  | instant s,  instant t  => .ok (s.micros < t.micros)
  | duration c, duration d => .ok (c.micros < d.micros)
  | list xs,    list ys    => lessList xs ys
  | a,          b          =>
    match a.number?, b.number? with
    | some m, some n => .ok (m.lt n)
    | _,      _      => .error (.incomparable "<" a.qualifiedType b.qualifiedType)

/-- Whether a list is less than another: by the first members that differ, else by length. -/
def lessList : List Datum → List Datum → Except ShapeFault Bool
  | [],      ys      => .ok (!ys.isEmpty)
  | _ :: _,  []      => .ok false
  | x :: xs, y :: ys => if same x y then lessList xs ys else less x y

end

/-- The values after `last` that go on in one direction, and the rest. -/
def runAfter (descending : Bool) (last : Datum) :
    List Datum → Except ShapeFault (List Datum × List Datum)
  | []      => .ok ([], [])
  | x :: xs => do
    if (← less x last) = descending then
      let (run, rest) ← runAfter descending x xs
      .ok (x :: run, rest)
    else .ok ([], x :: xs)

/-- Values in order with one more, after those that it is not less than; its place is found by
halving. -/
def insert (x : Datum) (xs : List Datum) : Except ShapeFault (List Datum) :=
  match _h : xs.drop (xs.length / 2) with
  | []          => .ok [x]
  | pivot :: ys => do
    let before := xs.take (xs.length / 2)
    if ← less x pivot then .ok ((← insert x before) ++ pivot :: ys)
    else .ok (before ++ pivot :: (← insert x ys))
termination_by xs.length
decreasing_by
  all_goals
    have := congrArg List.length _h
    simp only [List.length_drop, List.length_cons, List.length_take] at *
    omega

/-- Values in ascending order; of equal ones the earlier stays before the later. -/
def sorted : List Datum → Except ShapeFault (List Datum)
  | []           => .ok []
  | [x]          => .ok [x]
  | x :: y :: zs => do
    let descending ← less y x
    let (run, rest) ← runAfter descending y zs
    let opening := x :: y :: run
    rest.foldlM (fun xs z => insert z xs) (if descending then opening.reverse else opening)

end FleetHealth.Datum
