import FleetHealth.Proofs.Emitter.Locality
import FleetHealth.Reporter.Basic

/-!
# Proofs — Reporter — Contribution

What a binding contributes to a tick, read off the binding and what its query brought (`Heard`), and off nothing else: the points that pass the gate before the first that does not (`admitted`), why the turn failed, if it did (`failure?`), the calls that the emitter receives (`calls`) and what is said about the indicator (`notices`).

* `hear` is the asking side of a tick: the bindings that have a turn, in order, each with what its query brought.
* `ask_congr`: asking reads the surroundings of the reporter (`SameEar`), and neither its emitter nor its journal.
* `answers_hear`: what the queries bring depends on the operations that are asked, and not on the metrics or the shapes that the answers are for.
-/

namespace FleetHealth

/-- How the turn of a binding failed: its query brought no answer, or its answer brought no points, or
a point that the gate refuses. -/
inductive Failure where
  | query (f : Fault)
  | emit (f : Fault)

/-- What the reporter says about an indicator: the level and the event of an entry, and the fields
that name the indicator and say what failed. -/
structure Notice where
  level : Log.Level
  event : String
  fields : List (String × Datum)

namespace Failure

/-- The stage at which a turn failed. -/
def stage : Failure → String
  | query _ => "query"
  | emit _  => "emit"

/-- Whether the failure is none of those that are provided for. -/
def isCrash : Failure → Bool
  | query (.queryFailed ..) => false
  | query f                 => decide (f.kind ≠ .timeout)
  | emit f                  => !f.kind.isValue

/-- The wording of a failure; that of a time-out is given. -/
def wording (patience : String) : Failure → String
  | query (.queryFailed _ cause) => cause.shown
  | query f                      => if f.kind = .timeout then patience else f.shown
  | emit f                       => if f.kind.isValue then f.text else f.shown

/-- What is said about an indicator that crashed. -/
def crashNotice (name : String) (x : Failure) : Notice where
  level := .error
  event := "indicator.crashed"
  fields := [("indicator", .text name), ("stage", .text x.stage)]

/-- What is said about every indicator that failed. -/
def failNotice (patience name : String) (x : Failure) : Notice where
  level := .warning
  event := "indicator.failed"
  fields := [("indicator", .text name), ("error", .text (x.wording patience))]

/-- All that is said about a failed indicator. -/
def notices (patience name : String) (x : Failure) : List Notice :=
  (if x.isCrash then [x.crashNotice name] else []) ++ [x.failNotice patience name]

end Failure

namespace Metric

/-- Why the gate refuses a point as a sample of a metric, where it does. -/
def refusal? (m : Metric) (p : Point) : Option Fault :=
  match Emitter.accept m m.type p.value p.dims with
  | .error f => some f
  | .ok _    => none

/-- Whether the gate lets a point through as a sample of a metric. -/
def admits (m : Metric) (p : Point) : Bool := (m.refusal? p).isNone

/-- The points that are submitted: those let through before the first refused one, and that one. -/
def submitted (m : Metric) (ps : List Point) : List Point :=
  ps.take ((ps.takeWhile m.admits).length + 1)

/-- The call that submits a point. -/
def call (m : Metric) (p : Point) : Emitter.Call := .sample m.type m p.value p.dims

/-- The sample that a point is. -/
def sample (m : Metric) (p : Point) : Sample := ⟨m, p.value, p.dims⟩

end Metric

/-- A binding and what its query brought. -/
structure Heard where
  binding : Binding
  answer : Except Fault Aggregate

namespace Heard

/-- The name of the indicator. -/
def name (h : Heard) : String := h.binding.metric.name

/-- The points that the answer fans out into; none without an answer. -/
def points (h : Heard) : List Point :=
  match h.answer with
  | .error _ => []
  | .ok a    =>
    match h.binding.shape.points a with
    | .error _ => []
    | .ok ps   => ps

/-- How the turn failed, if it did. -/
def failure? (h : Heard) : Option Failure :=
  match h.answer with
  | .error f => some (.query f)
  | .ok a    =>
    match h.binding.shape.points a with
    | .error f => some (.emit f)
    | .ok ps   => (ps.findSome? h.binding.metric.refusal?).map .emit

/-- Whether the turn failed. -/
def fails (h : Heard) : Bool := h.failure?.isSome

/-- The points before the first that the gate refuses. -/
def admitted (h : Heard) : List Point := h.points.takeWhile h.binding.metric.admits

/-- The samples that the binding contributes. -/
def samples (h : Heard) : List Sample := h.admitted.map h.binding.metric.sample

/-- The calls of the emitter that the turn makes. -/
def calls (h : Heard) : List Emitter.Call :=
  (h.binding.metric.submitted h.points).map h.binding.metric.call
    ++ (if h.fails then [.recordError (.text h.name)] else [])

/-- All that is said about the indicator. -/
def notices (patience : String) (h : Heard) : List Notice :=
  (h.failure?.map (Failure.notices patience h.name)).getD []

end Heard

/-- The indicator whose error a call records. -/
def Emitter.Call.indicator? : Emitter.Call → Option Datum
  | .recordError i => some i
  | _              => none

/-! ### What is recorded -/

/-- Of the calls of a turn, only the last records an error, and it does where the turn failed. -/
theorem Heard.indicators_calls (h : Heard) :
    h.calls.filterMap Emitter.Call.indicator? = if h.fails then [.text h.name] else [] := by
  have hnone : ((h.binding.metric.submitted h.points).map h.binding.metric.call).filterMap
      Emitter.Call.indicator? = [] := by
    rw [List.filterMap_eq_nil_iff]
    intro c hc
    obtain ⟨p, -, rfl⟩ := List.mem_map.mp hc
    rfl
  rw [calls, List.filterMap_append, hnone, List.nil_append]
  cases h.fails <;> rfl

/-- **One error is recorded for every turn that failed**, in order. -/
theorem indicators_of_heard (hs : List Heard) :
    (hs.flatMap Heard.calls).filterMap Emitter.Call.indicator? =
      (hs.filter Heard.fails).map fun h => .text h.name := by
  induction hs with
  | nil => rfl
  | cons h hs ih =>
      rw [List.flatMap_cons, List.filterMap_append, h.indicators_calls, ih]
      cases hf : h.fails with
      | true =>
          rw [List.filter_cons_of_pos hf]
          rfl
      | false =>
          rw [List.filter_cons_of_neg (by rw [hf]; exact Bool.false_ne_true)]
          rfl

namespace Reporter

variable {τ : Type} [TimeScale τ]

/-- The bindings that have a turn, in order, each with what its query brought.  Where the request to
stop is heeded, it is looked for before each. -/
def hear (heeds : Bool) : List Binding → Reporter τ → List Heard
  | [],      _ => []
  | b :: bs, r =>
    if heeds && r.stopRequested then []
    else
      let (r, a) := (r.enter .tick).ask b.operation
      ⟨b, a⟩ :: hear heeds bs r

/-! ### What asking reads -/

/-- `r'` has the surroundings of `r`: all that asking reads. -/
structure SameEar (r r' : Reporter τ) : Prop where
  deadline : r'.deadline = r.deadline
  source : r'.source = r.source
  playbook : r'.playbook = r.playbook
  clock : r'.clock = r.clock
  stopRequested : r'.stopRequested = r.stopRequested

omit [TimeScale τ] in
theorem SameEar.refl (r : Reporter τ) : SameEar r r := ⟨rfl, rfl, rfl, rfl, rfl⟩

omit [TimeScale τ] in
theorem SameEar.trans {r₁ r₂ r₃ : Reporter τ} (h : SameEar r₁ r₂) (k : SameEar r₂ r₃) :
    SameEar r₁ r₃ where
  deadline := k.deadline.trans h.deadline
  source := k.source.trans h.source
  playbook := k.playbook.trans h.playbook
  clock := k.clock.trans h.clock
  stopRequested := k.stopRequested.trans h.stopRequested

omit [TimeScale τ] in
/-- **Being told to stop**: nothing, or the reporter is told and had not been. -/
theorem tell_cases {P : Reporter τ → Prop} (r : Reporter τ) (stop : Bool)
    (unchanged : (stop && !r.stopRequested) = false → P r)
    (told : r.stopRequested = false →
      P (({ r with stopRequested := true } : Reporter τ).note .told)) :
    P (r.tell stop) := by
  unfold Reporter.tell
  split
  case isTrue h =>
    simp only [Bool.and_eq_true, Bool.not_eq_true'] at h
    exact told h.2
  case isFalse h => exact unchanged (Bool.eq_false_iff.mpr h)

/-- When the query of an operation would be answered. -/
def answeredAt (r : Reporter τ) (o : Operation) : τ := r.clock + (r.playbook.next o).1.takes

theorem ask_impatient {r : Reporter τ} (h : TimeScale.notAfter r.deadline 0 = true)
    (o : Operation) : r.ask o = (r, .error timedOut) := by
  unfold ask
  rw [if_pos h]

/-- The reporter when a query has begun, told to stop or not while it waits. -/
def asking (r : Reporter τ) (o : Operation) : Reporter τ :=
  ({ r.note (.asked o r.phase) with playbook := (r.playbook.next o).2 } : Reporter τ).tell
    (r.playbook.next o).1.stopsWaiting

theorem ask_late {r : Reporter τ} {o : Operation} (h : ¬ TimeScale.notAfter r.deadline 0 = true)
    (hl : TimeScale.before (r.clock + r.deadline) (r.answeredAt o) = true) :
    r.ask o = ({ r.asking o with clock := r.clock + r.deadline }, .error timedOut) := by
  unfold ask
  rw [if_neg h]
  exact if_pos hl

theorem ask_answered {r : Reporter τ} {o : Operation}
    (h : ¬ TimeScale.notAfter r.deadline 0 = true)
    (hl : ¬ TimeScale.before (r.clock + r.deadline) (r.answeredAt o) = true) :
    r.ask o =
      (({ r.asking o with clock := r.answeredAt o } : Reporter τ).tell
          (r.playbook.next o).1.stops,
        (r.asking o).source.answer o (r.playbook.next o).1.sent) := by
  unfold ask
  rw [if_neg h]
  exact if_neg hl

/-- **A query**: given up at once, given up at the deadline, or answered before it. -/
theorem ask_cases {P : Reporter τ × Except Fault Aggregate → Prop} (r : Reporter τ) (o : Operation)
    (impatient : TimeScale.notAfter r.deadline 0 = true → P (r, .error timedOut))
    (late : TimeScale.notAfter r.deadline 0 = false →
      P ({ r.asking o with clock := r.clock + r.deadline }, .error timedOut))
    (answered : TimeScale.notAfter r.deadline 0 = false →
      P (({ r.asking o with clock := r.answeredAt o } : Reporter τ).tell
          (r.playbook.next o).1.stops,
        (r.asking o).source.answer o (r.playbook.next o).1.sent)) :
    P (r.ask o) := by
  by_cases hnow : TimeScale.notAfter r.deadline 0 = true
  · rw [ask_impatient hnow]
    exact impatient hnow
  · have hpatient := Bool.eq_false_iff.mpr hnow
    by_cases hlate : TimeScale.before (r.clock + r.deadline) (r.answeredAt o) = true
    · rw [ask_late hnow hlate]
      exact late hpatient
    · rw [ask_answered hnow hlate]
      exact answered hpatient

omit [TimeScale τ] in
theorem SameEar.tell {r r' : Reporter τ} (h : SameEar r r') (stop : Bool) :
    SameEar (r.tell stop) (r'.tell stop) := by
  unfold Reporter.tell
  rw [h.stopRequested]
  split
  · exact ⟨h.deadline, h.source, h.playbook, h.clock, rfl⟩
  · exact h

omit [TimeScale τ] in
theorem SameEar.asking {r r' : Reporter τ} (h : SameEar r r') (o : Operation) :
    SameEar (r.asking o) (r'.asking o) := by
  have hbegun : SameEar
      ({ r.note (.asked o r.phase) with playbook := (r.playbook.next o).2 } : Reporter τ)
      { r'.note (.asked o r'.phase) with playbook := (r.playbook.next o).2 } :=
    ⟨h.deadline, h.source, rfl, h.clock, h.stopRequested⟩
  rw [Reporter.asking, Reporter.asking, h.playbook]
  exact hbegun.tell _

/-- Asking gives one answer, and leaves the same surroundings, wherever they are the same. -/
theorem ask_congr {r r' : Reporter τ} (h : SameEar r r') (o : Operation) :
    SameEar (r.ask o).1 (r'.ask o).1 ∧ (r'.ask o).2 = (r.ask o).2 := by
  have hat : r'.answeredAt o = r.answeredAt o := by
    rw [answeredAt, answeredAt, h.clock, h.playbook]
  by_cases hnow : TimeScale.notAfter r.deadline 0 = true
  · have hnow' : TimeScale.notAfter r'.deadline 0 = true := by rw [h.deadline]; exact hnow
    rw [ask_impatient hnow, ask_impatient hnow']
    exact ⟨h, rfl⟩
  · have hnow' : ¬ TimeScale.notAfter r'.deadline 0 = true := by rw [h.deadline]; exact hnow
    by_cases hlate : TimeScale.before (r.clock + r.deadline) (r.answeredAt o) = true
    · have hlate' : TimeScale.before (r'.clock + r'.deadline) (r'.answeredAt o) = true := by
        rw [h.clock, h.deadline, hat]
        exact hlate
      have ha := h.asking o
      rw [ask_late hnow hlate, ask_late hnow' hlate', h.clock, h.deadline]
      exact ⟨⟨ha.deadline, ha.source, ha.playbook, rfl, ha.stopRequested⟩, rfl⟩
    · have hlate' : ¬ TimeScale.before (r'.clock + r'.deadline) (r'.answeredAt o) = true := by
        rw [h.clock, h.deadline, hat]
        exact hlate
      have ha := h.asking o
      rw [ask_answered hnow hlate, ask_answered hnow' hlate', h.playbook, hat, ha.source]
      have hcame : SameEar ({ r.asking o with clock := r.answeredAt o } : Reporter τ)
          { r'.asking o with clock := r.answeredAt o } :=
        ⟨ha.deadline, ha.source, ha.playbook, rfl, ha.stopRequested⟩
      exact ⟨hcame.tell _, rfl⟩

/-- What is heard depends on the surroundings alone. -/
theorem hear_congr (heeds : Bool) (bs : List Binding) {r r' : Reporter τ} (h : SameEar r r') :
    hear heeds bs r' = hear heeds bs r := by
  induction bs generalizing r r' with
  | nil => rfl
  | cons b bs ih =>
      have he : SameEar (r.enter .tick) (r'.enter .tick) := ⟨h.1, h.2, h.3, h.4, h.5⟩
      obtain ⟨ha, hans⟩ := ask_congr he b.operation
      simp only [hear, h.stopRequested, hans, ih ha]

/-- Bindings that ask the same operations hear the same answers. -/
theorem answers_hear (heeds : Bool) {bs bs' : List Binding}
    (h : bs'.map Binding.operation = bs.map Binding.operation) (r : Reporter τ) :
    (hear heeds bs' r).map Heard.answer = (hear heeds bs r).map Heard.answer := by
  induction bs generalizing bs' r with
  | nil =>
      obtain rfl := List.map_eq_nil_iff.mp h
      rfl
  | cons b bs ih =>
      cases bs' with
      | nil => cases h
      | cons b' bs' =>
          obtain ⟨hb, hbs⟩ := List.cons.inj h
          unfold hear
          split
          · rfl
          · rw [hb]
            exact congrArg (_ :: ·) (ih hbs _)

/-- The bindings that are heard are the first of all. -/
theorem hear_isPrefix (heeds : Bool) (bs : List Binding) (r : Reporter τ) :
    (hear heeds bs r).map Heard.binding <+: bs := by
  induction bs generalizing r with
  | nil => exact List.prefix_refl []
  | cons b bs ih =>
      unfold hear
      split
      · exact List.nil_prefix
      · exact List.cons_prefix_cons.mpr ⟨rfl, ih _⟩

/-- Where the request to stop is not heeded, every binding is heard. -/
theorem hear_all (bs : List Binding) (r : Reporter τ) :
    (hear false bs r).map Heard.binding = bs := by
  induction bs generalizing r with
  | nil => rfl
  | cons b bs ih => exact congrArg (b :: ·) (ih _)

end Reporter
end FleetHealth
