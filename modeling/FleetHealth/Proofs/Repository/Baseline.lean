import FleetHealth.Proofs.Repository.Feed
import FleetHealth.Proofs.Repository.Total

/-!
# Proofs — Repository — Baseline

What the four operations by key answer.  A row says a `Reading`, the name it is reported under and a value, and the aggregate has a value for every name that is known or read: the known ones first, as they are configured, and the others in order of first appearance (`Repository.names`), each with the value of its last row, or zero (`latest`).

* `keyed_readings`: the keyed aggregate of rows that say readings, whatever is read off them.
* `answer_readings`: so the four operations differ in their columns and their zero alone.
* `points_readings`: the answer fans out into one point for each name, in order.
-/

namespace FleetHealth

/-- What a row says of a key. -/
structure Reading where
  name : String
  value : Datum

namespace Rows

/-- The row is of a queue, where no queue goes by a name of its own. -/
def IsQueued (row : Datum) (name : String) : Prop :=
  ∃ queue, row.column "queue" = .ok (.optText queue) ∧ name = queue.getD "null"

/-- The row is of a geography. -/
def IsLocated (row : Datum) (name : String) : Prop := row.column "geography" = .ok (.text name)

/-- The row has a number of jobs, of sixty-four bits and not negative. -/
def IsCounted (row value : Datum) : Prop :=
  ∃ d, ∃ n : Nat, row.column "jobs" = .ok d ∧ d.toInt = .ok n ∧ n < 2 ^ 63 ∧ value = .int n

/-- The row has a finite age, which counts as zero when it is below. -/
def IsAged (row value : Datum) : Prop :=
  ∃ d x, row.column "age_seconds" = .ok d ∧ d.toFloat = .ok x ∧ x.isFinite = true
    ∧ value = .float (if x.lt .zero then .zero else x)

end Rows

open Rows

namespace Operation

/-- The operations by key, each with the dimension that its keys are values of. -/
inductive ByKey : String → Operation → Prop
  | running : ByKey "queue" .runningJobsByQueue
  | runningAge : ByKey "queue" .oldestRunningJobAgeByQueue
  | pending : ByKey "geography" .pendingJobsByGeography
  | pendingAge : ByKey "geography" .oldestPendingJobAgeByGeography

/-- A row says a reading to an operation by key. -/
def Reads : Operation → Reading → Datum → Prop
  | .runningJobsByQueue,             x, row => IsQueued row x.name ∧ IsCounted row x.value
  | .oldestRunningJobAgeByQueue,     x, row => IsQueued row x.name ∧ IsAged row x.value
  | .pendingJobsByGeography,         x, row => IsLocated row x.name ∧ IsCounted row x.value
  | .oldestPendingJobAgeByGeography, x, row => IsLocated row x.name ∧ IsAged row x.value
  | _,                               _, _   => False

/-- The value of a key that no row has. -/
def zero : Operation → Datum
  | .runningJobsByQueue | .pendingJobsByGeography => .int 0
  | _                                             => .float .zero

/-- The value of a name: that of its last reading, or zero. -/
def latest (o : Operation) (readings : List Reading) (name : String) : Datum :=
  ((readings.reverse.find? fun x => x.name == name).map Reading.value).getD o.zero

end Operation

/-- The default bindings of a keyed shape are those of the operations by key. -/
theorem Operation.byKey_of_default {b : Binding} {dim : String} (hb : b ∈ Binding.defaults)
    (hs : b.shape = .keyed dim) : b.operation.ByKey dim := by
  simp only [Binding.defaults, List.mem_cons, List.not_mem_nil, or_false] at hb
  rcases hb with rfl | rfl | rfl | rfl | rfl | rfl | rfl | rfl | rfl | rfl
  · cases hs
    exact .running
  · cases hs
    exact .runningAge
  · cases hs
  · cases hs
    exact .pending
  · cases hs
    exact .pendingAge
  all_goals cases hs

namespace Repository

/-- The names that are reported whether or not a row has them. -/
def baseline (r : Repository) : Operation → List String
  | .runningJobsByQueue =>
    r.knownQueues.eraseDups ++ (if "null" ∈ r.knownQueues then [] else ["null"])
  | .oldestRunningJobAgeByQueue => r.knownQueues.eraseDups
  | .pendingJobsByGeography | .oldestPendingJobAgeByGeography => r.knownGeographies.eraseDups
  | _ => []

/-- The names of an answer: those of the baseline, and then the others that are read, in order of first
appearance. -/
def names (r : Repository) (o : Operation) (readings : List Reading) : List String :=
  r.baseline o ++ ((readings.map Reading.name).filter fun n => n ∉ r.baseline o).eraseDups

/-- The baseline is the known names, each once. -/
theorem baseline_eq (r : Repository) (o : Operation) : r.baseline o = (r.known o).eraseDups := by
  cases o with
  | runningJobsByQueue =>
      rw [known, List.eraseDups_append, baseline, Rows.nullQueue, List.removeAll]
      by_cases h : "null" ∈ r.knownQueues
      · simp [h]
      · simp [h, List.eraseDups_cons]
  | _ => rfl

theorem names_eq (r : Repository) (o : Operation) (readings : List Reading) :
    r.names o readings = (r.known o ++ readings.map Reading.name).eraseDups := by
  rw [names, baseline_eq, List.eraseDups_append, List.removeAll]
  congr 3
  funext n
  simp [List.mem_eraseDups]

theorem names_nodup (r : Repository) (o : Operation) (readings : List Reading) :
    (r.names o readings).Nodup := by
  rw [names_eq]
  exact Entries.nodup_eraseDups _

end Repository

/-! ### Rows by key -/

section Keyed

variable {α : Type} {keyOf : Datum → Except ShapeFault Datum} {valueOf : Datum → Except ShapeFault α}
  {wrap : α → Datum} {N : Datum → String → Prop} {V : Datum → Datum → Prop}
  {readings : List Reading} {rows : List Datum}

/-- Rows that say readings are pairs of names and values. -/
theorem mapM_readings (hN : ∀ row n, N row n → keyOf row = .ok (.text n))
    (hV : ∀ row d, V row d → ∃ v, d = wrap v ∧ valueOf row = .ok v)
    (h : List.Forall₂ (fun x row => N row x.name ∧ V row x.value) readings rows) :
    ∃ pairs : List (String × α), readings = pairs.map (fun p => ⟨p.1, wrap p.2⟩)
      ∧ rows.mapM (pairOf keyOf valueOf) = .ok (pairs.map (Prod.map Key.text id)) := by
  induction h with
  | nil => exact ⟨[], rfl, rfl⟩
  | @cons x row readings rows hrow _ ih =>
      obtain ⟨pairs, rfl, hrest⟩ := ih
      obtain ⟨v, hv, hvalue⟩ := hV row x.value hrow.2
      refine ⟨(x.name, v) :: pairs, ?_, ?_⟩
      · rw [List.map_cons, ← hv]
      · have hpair : pairOf keyOf valueOf row = .ok (Key.text x.name, v) := by
          unfold pairOf
          rw [hN row x.name hrow.1, hvalue]
          rfl
        rw [List.mapM_cons, hpair, hrest]
        rfl

/-- **The keyed aggregate of rows that say readings**: every name that is known or read, each with the
value of its last reading, or zero. -/
theorem keyed_readings (hN : ∀ row n, N row n → keyOf row = .ok (.text n))
    (hV : ∀ row d, V row d → ∃ v, d = wrap v ∧ valueOf row = .ok v)
    (h : List.Forall₂ (fun x row => N row x.name ∧ V row x.value) readings rows)
    (known : List String) (zero : α) :
    ∃ es, keyed known keyOf valueOf zero rows = .ok es
      ∧ es.map (fun e => (e.1, wrap e.2)) =
        (known ++ readings.map Reading.name).eraseDups.map fun n =>
          (Key.text n,
            ((readings.reverse.find? fun x => x.name == n).map Reading.value).getD (wrap zero)) := by
  obtain ⟨pairs, rfl, hpairs⟩ := mapM_readings hN hV h
  refine ⟨zeroFilled (known.map Key.text) (pairs.map (Prod.map Key.text id)) zero, ?_, ?_⟩
  · unfold keyed
    rw [hpairs]
    rfl
  · have hnames : (known.map (fun k => (k, zero)) ++ pairs).map Prod.fst =
        known ++ (pairs.map fun p => (⟨p.1, wrap p.2⟩ : Reading)).map Reading.name := by
      rw [List.map_append, List.map_map, List.map_map]
      exact congrArg (· ++ _) (List.map_id' known)
    have hvalue : ∀ n : String,
        wrap ((Entries.get? n (known.map (fun k => (k, zero)) ++ pairs).reverse).getD zero) =
          (((pairs.map fun p => (⟨p.1, wrap p.2⟩ : Reading)).reverse.find? fun x => x.name == n).map
            Reading.value).getD (wrap zero) := by
      intro n
      -- the zeros are overridden by what is read, and are the default as well
      rw [List.reverse_append, Entries.get?_append, ← List.map_reverse, ← List.map_reverse,
        List.find?_map, Entries.get?_eq_find? n pairs.reverse]
      cases hfound : pairs.reverse.find? fun p => p.1 == n with
      | none =>
          have hzero := Entries.get?_zeros n known.reverse zero
          simp only [Function.comp_def, hfound, Option.map_none, Option.none_or, Option.getD_none, hzero]
      | some p => simp only [Function.comp_def, hfound, Option.map_some, Option.some_or, Option.getD_some]
    rw [zeroFilled_names, Entries.ofPairs_eq _ zero, hnames, List.map_map, List.map_map]
    refine List.map_congr_left fun n _ => ?_
    exact congrArg (Prod.mk (Key.text n)) (hvalue n)

end Keyed

/-! ### What is read off the columns -/

section Columns

variable {row value : Datum} {name : String}

theorem queueOf_eq (h : IsQueued row name) : queueOf row = .ok (.text name) := by
  obtain ⟨queue, hq, rfl⟩ := h
  unfold queueOf
  rw [hq]
  cases queue <;> rfl

theorem geographyOf_eq (h : IsLocated row name) : geographyOf row = .ok (.text name) := h

theorem jobsOf_eq (h : IsCounted row value) : ∃ n, value = .int n ∧ jobsOf row = .ok n := by
  obtain ⟨d, n, hd, hn, -, rfl⟩ := h
  refine ⟨n, rfl, ?_⟩
  unfold jobsOf
  rw [hd]
  exact hn

theorem ageOf_eq (h : IsAged row value) : ∃ x, value = .float x ∧ ageOf row = .ok x := by
  obtain ⟨d, x, hd, hx, -, rfl⟩ := h
  refine ⟨clamp x, rfl, ?_⟩
  unfold ageOf
  rw [hd]
  show (d.toFloat >>= _) = _
  rw [hx]
  rfl

end Columns

namespace Repository

variable {r : Repository} {o : Operation} {dim : String} {readings : List Reading} {rows : List Datum}

theorem bind_keyed {α : Type} (wrap : α → Datum) (x : Except ShapeFault (List (Key × α))) :
    (x >>= fun es => .ok (.keyed (es.map fun e => (e.1, wrap e.2)))).mapError Fault.shape =
      (x.map fun es => Aggregate.keyed (es.map fun e => (e.1, wrap e.2))).mapError Fault.shape := by
  cases x <;> rfl

/-- The answer of an operation by key, from how its rows are read. -/
theorem answer_of_keyed {α : Type} (now : Instant) (wrap : α → Datum) {zero : α}
    {keyOf : Datum → Except ShapeFault Datum} {valueOf : Datum → Except ShapeFault α}
    (N : Datum → String → Prop) (V : Datum → Datum → Prop)
    (hN : ∀ row n, N row n → keyOf row = .ok (.text n))
    (hV : ∀ row d, V row d → ∃ v, d = wrap v ∧ valueOf row = .ok v)
    (hreads : ∀ x row, o.Reads x row → N row x.name ∧ V row x.value) (hzero : o.zero = wrap zero)
    (hanswer : r.answer now o (.ok (.list rows)) =
      ((keyed (r.known o) keyOf valueOf zero rows).map fun es =>
        Aggregate.keyed (es.map fun e => (e.1, wrap e.2))).mapError Fault.shape)
    (h : List.Forall₂ o.Reads readings rows) :
    r.answer now o (.ok (.list rows)) =
      .ok (.keyed ((r.names o readings).map fun n => (.text n, o.latest readings n))) := by
  obtain ⟨es, hes, hmap⟩ := keyed_readings hN hV (h.imp hreads) (r.known o) zero
  rw [hanswer, hes, names_eq]
  unfold Operation.latest
  rw [hzero, ← hmap]
  rfl

/-- **What an operation by key answers**: the names of the baseline and of the rows, each with the value
of its last row, or zero. -/
theorem answer_readings (now : Instant) (ho : o.ByKey dim) (h : List.Forall₂ o.Reads readings rows) :
    r.answer now o (.ok (.list rows)) =
      .ok (.keyed ((r.names o readings).map fun n => (.text n, o.latest readings n))) := by
  cases ho with
  | running =>
      exact answer_of_keyed now .int IsQueued IsCounted (fun _ _ => queueOf_eq) (fun _ _ => jobsOf_eq)
        (fun _ _ => id) rfl (bind_keyed .int _) h
  | runningAge =>
      exact answer_of_keyed now .float IsQueued IsAged (fun _ _ => queueOf_eq) (fun _ _ => ageOf_eq)
        (fun _ _ => id) rfl (bind_keyed .float _) h
  | pending =>
      exact answer_of_keyed now .int IsLocated IsCounted (fun _ _ => geographyOf_eq)
        (fun _ _ => jobsOf_eq) (fun _ _ => id) rfl (bind_keyed .int _) h
  | pendingAge =>
      exact answer_of_keyed now .float IsLocated IsAged (fun _ _ => geographyOf_eq)
        (fun _ _ => ageOf_eq) (fun _ _ => id) rfl (bind_keyed .float _) h

end Repository

/-! ### Points -/

/-- The float that a value of a reading is sampled as. -/
def Datum.level : Datum → Binary64
  | .int n   => .ofInt n
  | .float x => x
  | _        => .nan

theorem level_of_count {n : Nat} (h : n < 2 ^ 63) :
    (Datum.int n).toFloat = .ok (Datum.int n).level :=
  Emitter.toFloat_natCast (Datum.le_largestWhole_of_count h)

theorem level_of_counted {row value : Datum} (h : IsCounted row value) :
    value.toFloat = .ok value.level := by
  obtain ⟨d, n, -, -, hn, rfl⟩ := h
  exact level_of_count hn

theorem level_of_aged {row value : Datum} (h : IsAged row value) : value.toFloat = .ok value.level := by
  obtain ⟨d, x, -, -, -, rfl⟩ := h
  rfl

variable {o : Operation} {dim : String} {readings : List Reading} {rows : List Datum}

theorem level_of_reads {x : Reading} {row : Datum} (ho : o.ByKey dim) (h : o.Reads x row) :
    x.value.toFloat = .ok x.value.level := by
  cases ho with
  | running => exact level_of_counted h.2
  | runningAge => exact level_of_aged h.2
  | pending => exact level_of_counted h.2
  | pendingAge => exact level_of_aged h.2

/-- The values of an answer are numbers. -/
theorem level_latest (ho : o.ByKey dim) (h : List.Forall₂ o.Reads readings rows) (n : String) :
    (o.latest readings n).toFloat = .ok (o.latest readings n).level := by
  have hall : ∀ x ∈ readings, x.value.toFloat = .ok x.value.level := by
    induction h with
    | nil => exact List.forall_mem_nil _
    | cons hrow _ ih => exact List.forall_mem_cons.mpr ⟨level_of_reads ho hrow, ih⟩
  unfold Operation.latest
  cases hfound : readings.reverse.find? fun x => x.name == n with
  | some x => exact hall x (List.mem_reverse.mp (List.mem_of_find?_eq_some hfound))
  | none =>
      have hzero := level_of_count (n := 0) (by decide)
      cases ho with
      | running | pending => exact hzero
      | runningAge | pendingAge => rfl

/-- A name that is in no row has the value zero. -/
theorem latest_of_not_mem {n : String} (h : n ∉ readings.map Reading.name) :
    o.latest readings n = o.zero := by
  have hnone : (readings.reverse.find? fun x => x.name == n) = none := by
    rw [List.find?_eq_none]
    intro x hx heq
    exact h (eq_of_beq heq ▸ List.mem_map_of_mem (List.mem_reverse.mp hx))
  rw [Operation.latest, hnone]
  rfl

theorem level_zero (ho : o.ByKey dim) : o.zero.level = .zero := by
  have hzero : Binary64.ofInt 0 = .zero := by decide +kernel
  cases ho with
  | running | pending => exact hzero
  | runningAge | pendingAge => rfl

/-- **One point for each name**, in order. -/
theorem points_readings (names : List String) {value : String → Datum}
    (h : ∀ n, (value n).toFloat = .ok (value n).level) :
    (Shape.keyed dim).points (.keyed (names.map fun n => (.text n, value n))) =
      .ok (names.map fun n => ⟨.float (value n).level, dimsOf [(dim, n)]⟩) := by
  have hpoint : ∀ n, Shape.pointOf (.record [(dim, .text n)]) (value n) =
      .ok ⟨.float (value n).level, dimsOf [(dim, n)]⟩ := fun n => by
    unfold Shape.pointOf
    rw [h n]
    rfl
  have hmapM : (names.mapM fun n => Shape.pointOf (.record [(dim, .text n)]) (value n)) =
      .ok (names.map fun n => (⟨.float (value n).level, dimsOf [(dim, n)]⟩ : Point)) := by
    induction names with
    | nil => rfl
    | cons n names ih =>
        rw [List.mapM_cons, hpoint n, ih]
        rfl
  have hpairs : (Shape.keyed dim).points (.keyed (names.map fun n => (.text n, value n))) =
      (((names.map fun n => (Key.text n, value n)).map fun e =>
        (Member.plain e.1.toDatum, e.2)).mapM fun e =>
          Shape.pointOf (.record [(dim, .text e.1.message)]) e.2).mapError Fault.shape := rfl
  rw [hpairs, List.map_map, List.mapM_map]
  show (names.mapM fun n => Shape.pointOf (.record [(dim, .text n)]) (value n)).mapError _ = _
  rw [hmapM]
  rfl

end FleetHealth
