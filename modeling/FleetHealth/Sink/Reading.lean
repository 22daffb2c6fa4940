import FleetHealth.Sink.Provider

/-!
# Sink — Reading

A provider to run with.  It keeps readings: for every instrument and every set of attributes the last value of a gauge, the sum of a counter, or the buckets of a distribution.  Readings are cumulative.  What has been recorded since the last collection is totalled on its own and added at the collection, so a collection is where totals grow.  It lists metrics by name and points by attributes, and instruments that never recorded are absent.

`Provider.cumulative` exports everything that it lists in one batch whenever it is asked for a flush or a collection, and `Provider.inMemory` exports nothing.  Nothing is proved of pipelines by looking into either.
-/

namespace FleetHealth

namespace Total

/-- The total with one more value. -/
def add (t : Total) (x : Binary64) : Total := { t with pending := t.pending.add x }

/-- The total of all values so far, settled. -/
def settle (t : Total) : Total := ⟨t.settled.add t.pending, .zero⟩

end Total

namespace PointState

/-- The bucket of a value: the first whose bound it does not exceed, or the one after the last. -/
def bucket (bounds : List Nat) (x : Binary64) : Nat :=
  (bounds.takeWhile fun b => (Binary64.ofNat b).lt x).length

/-- The state before anything is recorded by an instrument. -/
def start (m : Metric) (x : Binary64) : PointState :=
  match m.type with
  | .gauge        => .gauge x
  | .counter      => .sum {}
  | .distribution =>
    let bounds := m.buckets.getD []
    .histogram {} x x bounds (List.replicate (bounds.length + 1) 0)

/-- The state after one more value. -/
def record (x : Binary64) : PointState → PointState
  | gauge _                      => gauge x
  | sum t                        => sum (t.add x)
  | histogram t lo hi bounds ns =>
    histogram (t.add x) (if x.lt lo then x else lo) (if hi.lt x then x else hi) bounds
      (ns.modify (bucket bounds x) (· + 1))

/-- The state after a collection. -/
def settle : PointState → PointState
  | gauge x                     => gauge x
  | sum t                       => sum t.settle
  | histogram t lo hi bounds ns => histogram t.settle lo hi bounds ns

end PointState

/-- Everything accumulated, by instrument and attributes. -/
abbrev Readings := List (Metric × List (Tags × PointState))

namespace Readings

/-- Attributes in ascending order of their keys. -/
def sortTags (tags : Tags) : Tags := tags.mergeSort fun a b => !Text.precedes b.1 a.1

/-- Whether a set of attributes comes no later than another: the keys and values are compared pair
by pair. -/
def noLater : Tags → Tags → Bool
  | [],      _       => true
  | _ :: _,  []      => false
  | a :: as, b :: bs =>
    if Text.precedes a.1 b.1 then true
    else if Text.precedes b.1 a.1 then false
    else if Text.precedes a.2 b.2 then true
    else if Text.precedes b.2 a.2 then false
    else noLater as bs

/-- The readings after one more value of an instrument. -/
def record (m : Metric) (x : Binary64) (tags : Tags) (r : Readings) : Readings :=
  let attributes := sortTags tags
  let points := (Entries.get? m r).getD []
  let before := (Entries.get? attributes points).getD (PointState.start m x)
  Entries.put m (Entries.put attributes (before.record x) points) r

/-- The readings after a collection. -/
def settle (r : Readings) : Readings :=
  r.map fun e => (e.1, e.2.map fun p => (p.1, p.2.settle))

/-- What a collection lists of settled readings. -/
def listed (r : Readings) : List CollectedMetric :=
  (r.map fun e =>
    { metric := e.1
      points := (e.2.mergeSort fun a b => noLater a.1 b.1).map fun p => ⟨p.1, p.2⟩ }).mergeSort
    fun a b => !Text.precedes b.metric.name a.metric.name

/-- The readings that a past leaves, which is given newest first. -/
def ofPast : List Provider.Moment → Readings
  | []                           => []
  | .recorded m x tags :: past   => (ofPast past).record m x tags
  | .asked (.flush _) :: past    => (ofPast past).settle
  | .asked .collection :: past   => (ofPast past).settle
  | _ :: past                    => ofPast past

/-- What a collection lists after a past. -/
def collected (past : List Provider.Moment) : List CollectedMetric := (ofPast past).settle.listed

end Readings

namespace Plan

/-- A batch exported when there is anything to export, and then another plan. -/
def exporting (batch : List CollectedMetric) (next : Plan) : Plan :=
  if batch.isEmpty then next else .call (.ship { metrics := batch }) fun _ => next

/-- A call of the exporter, and what it raises is raised. -/
def ending (c : Relay.Call) : Plan :=
  .call c fun a =>
    match a with
    | .ok _    => .done none
    | .error f => .done (some f)

end Plan

namespace Provider

/-- The provider that exports everything accumulated, and at a shutdown perhaps a last time. -/
def cumulative (exportsAtEnd : Bool) : Provider where
  plan := fun past r =>
    match r with
    | .flush t    => .exporting (Readings.collected past) (.ending (.flush t))
    | .collection => .exporting (Readings.collected past) (.done none)
    | .shutdown   =>
      .exporting (if exportsAtEnd then Readings.collected past else []) (.ending (.shutdown))

/-- The provider whose clock runs by an interval in milliseconds.  Without a positive finite interval
there is no clock, and no last batch. -/
def periodic (millis : Number) : Provider :=
  cumulative ((Number.int 0).lt millis && millis.lt (.float (.infinity false)))

/-- The provider whose readings stay in memory. -/
def inMemory : Provider where
  plan := fun _ _ => .done none

end Provider
end FleetHealth
