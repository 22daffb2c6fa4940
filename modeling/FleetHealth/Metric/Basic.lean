import FleetHealth.Fault.Basic
import FleetHealth.Text.Order
import FleetHealth.Vocabulary

/-!
# Metric — Basic

A metric is a name, a type, a description, a unit and a schema of dimensions; a distribution has bucket boundaries besides.  `Metric.validate` is the gate of every sample: it takes the dimensions a caller gives, refuses missing and unexpected ones and values that are no text, and returns the tags in schema order.  `Metric.tagsFor` does so for dimensions of any form.
-/

namespace FleetHealth

/-- How the values of a metric combine. -/
inductive MetricType where
  | gauge
  | counter
  | distribution
deriving DecidableEq, Repr

/-- The word for a type. -/
def MetricType.label : MetricType → String
  | gauge        => "gauge"
  | counter      => "counter"
  | distribution => "distribution"

/-- All types. -/
def MetricType.all : List MetricType := [.gauge, .counter, .distribution]

/-- The type that a value is the word for. -/
def MetricType.ofDatum (d : Datum) : Except ShapeFault MetricType :=
  Vocabulary.member all label "MetricType" d

/-- One indicator: its stable name, type, wording and schema. -/
structure Metric where
  name : String
  type : MetricType
  description : String
  unit : String := "1"
  dimensions : List String := []
  buckets : Option (List Nat) := none
  /-- Whether the metric is an entry of the catalog; another definition with the same wording is
  another metric. -/
  isListed : Bool := false
deriving DecidableEq

/-- Dimensions as a caller gives them. -/
abbrev Dimensions := List (String × Datum)

/-- Dimensions that a metric admits, in schema order. -/
abbrev Tags := List (String × String)

/-- Texts in ascending order. -/
def sortTexts (xs : List String) : List String :=
  xs.mergeSort fun a b => !Text.precedes b a

namespace Metric

/-- The schema dimensions that are not given. -/
def missing (m : Metric) (dims : Dimensions) : List String :=
  m.dimensions.filter fun k => !Entries.has k dims

/-- The given dimensions that are not in the schema, sorted. -/
def extra (m : Metric) (dims : Dimensions) : List String :=
  sortTexts ((dims.map Prod.fst).filter fun k => !m.dimensions.contains k)

/-- The fault of a dimension whose value is no text. -/
def notText (m : Metric) (k : String) (v : Datum) : SampleFault :=
  .dimensions m.name [] []
    (some ("dimension " ++ Text.quoted k ++ " must be a string, got " ++ v.typeName))

/-- The tags of the given keys, in order. -/
def tagsOf (m : Metric) (dims : Dimensions) : List String → Tags → Except SampleFault Tags
  | [],      tags => .ok tags
  | k :: ks, tags =>
    match Entries.get? k dims with
    | some (.text v) => tagsOf m dims ks (Entries.put k v tags)
    | some v         => .error (m.notText k v)
    | none           => .error (.dimensions m.name [.text k] [] none)

/-- The given dimensions in schema order, or why the metric does not admit them. -/
def validate (m : Metric) (given : Option Dimensions) : Except SampleFault Tags :=
  let dims := given.getD []
  let missing := m.missing dims
  let extra := m.extra dims
  if missing.isEmpty && extra.isEmpty then m.tagsOf dims m.dimensions []
  else .error (.dimensions m.name (missing.map .text) (extra.map .text) none)

/-! ### Dimensions of any form -/

/-- Whether one text is a part of another. -/
def isPart (part whole : List Char) : Bool :=
  match whole with
  | []      => part.isEmpty
  | _ :: cs => part.isPrefixOf whole || isPart part cs

/-- Whether a value is a dimension of the schema. -/
def hasDimension (m : Metric) : Datum → Bool
  | .text s => m.dimensions.contains s
  | _       => false

/-- The fault of a value of a type that brings names but no values for them. -/
def namesOnly (m : Metric) (type : String) (has : String → Bool) (names : List Datum) : Fault :=
  let missing := m.dimensions.filter fun k => !has k
  match Datum.sorted (names.filter fun d => !m.hasDimension d) with
  | .error e  => .shape e
  | .ok extra =>
    if missing.isEmpty && extra.isEmpty then .shape (.notSubscriptable type)
    else .sample (.dimensions m.name (missing.map .text) extra none)

/-- The fault of a value that is present and is no record: a text brings its characters and parts, a
list its members, and any other value nothing at all. -/
def noRecord (m : Metric) (d : Datum) : Fault :=
  match d with
  | .text s  =>
    m.namesOnly d.typeName (fun k => isPart k.toList s.toList)
      (s.toList.map fun c => .text (String.singleton c))
  | .list ds => m.namesOnly d.typeName (fun k => ds.any (Datum.same (.text k))) ds
  | _        =>
    .shape (if m.dimensions.isEmpty then .notIterable d.qualifiedType
            else .notContainer d.qualifiedType)

/-- The tags of dimensions of any form: a record holds them, and what is not present holds none. -/
def tagsFor (m : Metric) : Datum → Except Fault Tags
  | .record fs => (m.validate (some fs)).mapError .sample
  | d          =>
    if d.isPresent then .error (m.noRecord d) else (m.validate none).mapError .sample

end Metric
end FleetHealth
