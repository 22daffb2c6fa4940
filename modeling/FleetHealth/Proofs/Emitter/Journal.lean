import FleetHealth.Emitter.Basic

/-!
# Proofs — Emitter — Journal

What can be read off an emitter's journal, and what one sample writes into it.  A *delivery* is a sample that was handed to the sink, with what the sink raised over it; a *verdict* is an event by which the emitter says that its sink is degraded, disabled or turned off; an event is the emitter's *own* when it is no log entry of another speaker.

* `record_deliveries`, `record_verdicts`: the sink's hook for a sample adds that one delivery and no verdict.
* `attempt_cases`: what becomes of a sample is decided by the fault that the sink raised over it.
* `noteFatal_verdicts`: a fatal fault adds the verdict that `verdictOn` gives, and nothing else that is read here.
* `Health.Within` is how the health of a sink and its limit agree; a delivery and a fatal fault keep it (`within_delivered`, `Within.failed`).
-/

namespace FleetHealth

/-- A sample handed to a sink, and the fault that the sink raised over it. -/
structure Delivery where
  metric : Metric
  value : Binary64
  tags : Tags
  outcome : Option Fault

namespace SinkEvent

/-- The delivery that an event is. -/
def delivery? : SinkEvent → Option Delivery
  | recorded m x tags o => some ⟨m, x, tags, o⟩
  | _                   => none

/-- Whether an event says that the sink is degraded, disabled or turned off. -/
def isVerdict : SinkEvent → Bool
  | turnedOff  => true
  | said entry => entry.event == "sink.degraded" || entry.event == "sink.disabled"
  | _          => false

/-- Whether an event is no log entry, or one of a logger that an emitter speaks through. -/
def isOwn : SinkEvent → Bool
  | said entry =>
    entry.logger == "syncwatch.emitters.base" || entry.logger == "syncwatch.emitters.noop"
  | _          => true

/-- Whether an event is an emitter's own, and neither a delivery nor a verdict. -/
def isPlain (ev : SinkEvent) : Bool := ev.delivery?.isNone && !ev.isVerdict && ev.isOwn

theorem isPlain_iff {ev : SinkEvent} :
    ev.isPlain = true ↔ (ev.delivery? = none ∧ ev.isVerdict = false) ∧ ev.isOwn = true := by
  simp [isPlain]

end SinkEvent

/-- What a sink raises before its next flush. -/
def Sink.beforeFlush : Sink → Option Fault
  | rehearsal r => r.preludes.next.1
  | _           => none

/-! ### The limit -/

namespace Health

/-- The health of a sink under a limit of failures, or of one: degraded exactly when there are any,
disabled exactly when they are as many as the limit, and never more. -/
structure Within (limit : Int) (h : Health) : Prop where
  degraded : h.degraded = decide (0 < h.failures)
  bound : (h.failures : Int) ≤ max limit 1
  disabled : h.disabled = decide ((h.failures : Int) = max limit 1)

variable {limit : Int} {h : Health}

theorem within_new (limit : Int) : Within limit {} where
  degraded := rfl
  bound := by show (0 : Int) ≤ max limit 1; omega
  disabled := by
    show false = decide ((0 : Int) = max limit 1)
    rw [eq_comm, decide_eq_false_iff_not]
    omega

/-- While a sink is not disabled, its run of failures is shorter than the limit. -/
theorem Within.lt_limit (w : Within limit h) (hd : h.disabled = false) :
    (h.failures : Int) < max limit 1 := by
  have hne := w.disabled
  rw [hd, eq_comm, decide_eq_false_iff_not] at hne
  have hb := w.bound
  omega

/-- A delivery ends the run of failures. -/
theorem within_delivered (limit : Int) (hd : h.disabled = false) : Within limit h.delivered where
  degraded := rfl
  bound := (within_new limit).bound
  disabled := by
    rw [show h.delivered.disabled = false from hd]
    exact (within_new limit).disabled

/-- A fatal fault that finds the sink not disabled makes the run longer, and disables it where it is
then as long as the limit. -/
theorem Within.failed (w : Within limit h) (hd : h.disabled = false) :
    Within limit (h.failed limit) := by
  have hlt := w.lt_limit hd
  have hn : (h.failed limit).failures = h.failures + 1 := rfl
  refine ⟨by simp [Health.failed], ?_, ?_⟩
  · rw [hn]
    omega
  · simp only [Health.failed, hd, Bool.false_or, decide_eq_decide]
    omega

end Health

namespace Emitter

/-! ### Reading a journal -/

/-- The samples that were handed to the sink, newest first. -/
def deliveries (e : Emitter) : List Delivery := e.journal.filterMap SinkEvent.delivery?

/-- What the sink raised over the samples it was handed, newest first. -/
def outcomes (e : Emitter) : List (Option Fault) := e.deliveries.map Delivery.outcome

/-- What was said about the health of the sink, newest first. -/
def verdicts (e : Emitter) : List SinkEvent := e.journal.filter SinkEvent.isVerdict

/-- Whether all that an emitter has written down is its own. -/
def Own (e : Emitter) : Prop := ∀ ev ∈ e.journal, ev.isOwn = true

theorem outcomes_congr {e e' : Emitter} (h : e'.deliveries = e.deliveries) :
    e'.outcomes = e.outcomes :=
  congrArg (List.map Delivery.outcome) h

theorem deliveries_of_journal {e e' : Emitter} (evs : List SinkEvent)
    (h : e'.journal = evs ++ e.journal) (hp : ∀ ev ∈ evs, ev.isPlain = true) :
    e'.deliveries = e.deliveries := by
  have hn : evs.filterMap SinkEvent.delivery? = [] :=
    List.filterMap_eq_nil_iff.mpr fun ev hev => (SinkEvent.isPlain_iff.mp (hp ev hev)).1.1
  rw [deliveries, h, List.filterMap_append, hn, List.nil_append, deliveries]

theorem verdicts_of_journal {e e' : Emitter} (evs : List SinkEvent)
    (h : e'.journal = evs ++ e.journal) (hp : ∀ ev ∈ evs, ev.isPlain = true) :
    e'.verdicts = e.verdicts := by
  have hn : evs.filter SinkEvent.isVerdict = [] :=
    List.filter_eq_nil_iff.mpr fun ev hev => by simp [(SinkEvent.isPlain_iff.mp (hp ev hev)).1.2]
  rw [verdicts, h, List.filter_append, hn, List.nil_append, verdicts]

theorem own_of_journal {e e' : Emitter} (evs : List SinkEvent) (h : e'.journal = evs ++ e.journal)
    (hp : ∀ ev ∈ evs, ev.isOwn = true) (ho : e.Own) : e'.Own := by
  intro ev hev
  rw [h, List.mem_append] at hev
  exact hev.elim (hp ev) (ho ev)

theorem noteAll_eq (e : Emitter) (evs : List SinkEvent) :
    e.noteAll evs = { e with journal := evs.reverse ++ e.journal } := by
  induction evs generalizing e with
  | nil => rfl
  | cons ev evs ih =>
      have h : e.noteAll (ev :: evs) = (e.note ev).noteAll evs := rfl
      rw [h, ih]
      simp [note]

/-! ### The sink's hook for a sample -/

/-- What a sink is seen to do with a sample is plain. -/
theorem sink_record_plain (s : Sink) (m : Metric) (x : Binary64) (tags : Tags) :
    ∀ ev ∈ (s.record m x tags).2.1, ev.isPlain = true := by
  intro ev hev
  cases s with
  | rehearsal r => cases hev
  | discard warned =>
      cases warned with
      | true => cases hev
      | false =>
          obtain rfl := List.mem_singleton.mp hev
          rfl
  | statsd s =>
      have hev : ev ∈ (s.send m x tags).2.1 := hev
      unfold Socket.send at hev
      split at hev
      · obtain rfl := List.mem_singleton.mp hev
        rfl
      · cases hev
  | otlp p => cases hev

theorem sink_record_isImmediate (s : Sink) (m : Metric) (x : Binary64) (tags : Tags) :
    (s.record m x tags).1.isImmediate = s.isImmediate := by
  cases s <;> rfl

theorem sink_record_name (s : Sink) (m : Metric) (x : Binary64) (tags : Tags) :
    (s.record m x tags).1.name = s.name := by
  cases s <;> rfl

theorem sink_record_beforeFlush (s : Sink) (m : Metric) (x : Binary64) (tags : Tags) :
    (s.record m x tags).1.beforeFlush = s.beforeFlush := by
  cases s <;> rfl

variable (e : Emitter) (m : Metric) (x : Binary64) (tags : Tags)

@[simp] theorem record_health : (e.record m x tags).1.health = e.health := by
  simp [record, note, noteAll_eq]

@[simp] theorem record_application : (e.record m x tags).1.application = e.application := by
  simp [record, note, noteAll_eq]

@[simp] theorem record_maxFailures : (e.record m x tags).1.maxFailures = e.maxFailures := by
  simp [record, note, noteAll_eq]

theorem record_sink : (e.record m x tags).1.sink = (e.sink.record m x tags).1 := by
  simp [record, note, noteAll_eq]

@[simp] theorem record_isImmediate :
    (e.record m x tags).1.sink.isImmediate = e.sink.isImmediate := by
  rw [record_sink, sink_record_isImmediate]

@[simp] theorem record_name : (e.record m x tags).1.sink.name = e.sink.name := by
  rw [record_sink, sink_record_name]

theorem record_journal_eq : (e.record m x tags).1.journal =
    .recorded m x tags (e.record m x tags).2 ::
      ((e.sink.record m x tags).2.1.reverse ++ e.journal) := by
  simp [record, note, noteAll_eq]

theorem record_journal : ∃ evs, (∀ ev ∈ evs, ev.isPlain = true) ∧
    (e.record m x tags).1.journal =
      .recorded m x tags (e.record m x tags).2 :: (evs ++ e.journal) := by
  refine ⟨(e.sink.record m x tags).2.1.reverse, fun ev hev => ?_, record_journal_eq e m x tags⟩
  exact sink_record_plain e.sink m x tags ev (List.mem_reverse.mp hev)

/-- The hook adds one delivery: the sample, with what the sink raised over it. -/
@[simp] theorem record_deliveries :
    (e.record m x tags).1.deliveries =
      ⟨m, x, tags, (e.record m x tags).2⟩ :: e.deliveries := by
  obtain ⟨evs, hp, hj⟩ := record_journal e m x tags
  have h : ({ e with journal := evs ++ e.journal } : Emitter).deliveries = e.deliveries :=
    deliveries_of_journal evs rfl hp
  rw [← h, deliveries, hj]
  rfl

theorem record_own (h : e.Own) : (e.record m x tags).1.Own := by
  obtain ⟨evs, hp, hj⟩ := record_journal e m x tags
  refine own_of_journal (.recorded m x tags (e.record m x tags).2 :: evs) hj ?_ h
  rw [List.forall_mem_cons]
  exact ⟨rfl, fun ev hev => (SinkEvent.isPlain_iff.mp (hp ev hev)).2⟩

@[simp] theorem record_beforeFlush :
    (e.record m x tags).1.sink.beforeFlush = e.sink.beforeFlush := by
  rw [record_sink, sink_record_beforeFlush]

@[simp] theorem record_verdicts : (e.record m x tags).1.verdicts = e.verdicts := by
  obtain ⟨evs, hp, hj⟩ := record_journal e m x tags
  have h : ({ e with journal := evs ++ e.journal } : Emitter).verdicts = e.verdicts :=
    verdicts_of_journal evs rfl hp
  rw [← h, verdicts, hj]
  rfl

/-! ### What becomes of a sample -/

/-- **A sample, by what the sink raised over it.**  Nothing, a transient fault, a fatal one, or any
other. -/
theorem attempt_cases {P : Emitter × Attempt → Prop}
    (delivered : (e.record m x tags).2 = none →
      P (if e.sink.isImmediate then (e.record m x tags).1.noteDelivery
          else (e.record m x tags).1, .settled))
    (transient : ∀ f, (e.record m x tags).2 = some f → f.kind = .sinkTransient →
      P ((e.record m x tags).1.say .debug "sink.send.transient"
          [("metric", .text m.name), ("error", .text f.shown)], .lost))
    (fatal : ∀ f, (e.record m x tags).2 = some f → f.kind = .sinkFatal →
      P ((e.record m x tags).1.noteFatal f, .lost))
    (crashed : ∀ f, (e.record m x tags).2 = some f → f.kind ≠ .sinkTransient →
      f.kind ≠ .sinkFatal → P ((e.record m x tags).1, .crashed f)) :
    P (e.attempt m x tags) := by
  have hi := record_isImmediate e m x tags
  unfold attempt
  split
  case h_1 e₁ h =>
    rw [h] at delivered hi
    rw [hi]
    exact delivered rfl
  case h_2 e₁ f h =>
    rw [h] at transient fatal crashed
    by_cases ht : f.kind = .sinkTransient
    · rw [if_pos ht]
      exact transient f rfl ht
    · rw [if_neg ht]
      by_cases hf : f.kind = .sinkFatal
      · rw [if_pos hf]
        exact fatal f rfl hf
      · rw [if_neg hf]
        exact crashed f rfl ht hf

/-! ### A fatal fault -/

/-- The entry by which an emitter says how its sink is doing after a fatal fault. -/
def verdictEntry (sink : String) (level : Log.Level) (event : String) (failures : Nat)
    (f : Fault) : SinkEvent :=
  .said
    { level := level
      logger := "syncwatch.emitters.base"
      event := event
      fields := ("sink", .text sink) :: failureFields failures f }

/-- The verdict on a fatal fault that makes a run of failures of a length, newest first: the one that
completes the run turns the sink off and is an error, any other is a warning. -/
def verdictOn (limit : Int) (sink : String) (failures : Nat) (f : Fault) : List SinkEvent :=
  if limit ≤ failures then [verdictEntry sink .error "sink.disabled" failures f, .turnedOff]
  else [verdictEntry sink .warning "sink.degraded" failures f]

theorem sink_turnOff_isImmediate (s : Sink) : s.turnOff.isImmediate = s.isImmediate := by
  cases s <;> rfl

theorem sink_turnOff_name (s : Sink) : s.turnOff.name = s.name := by
  cases s <;> rfl

theorem sink_turnOff_beforeFlush (s : Sink) : s.turnOff.beforeFlush = s.beforeFlush := by
  cases s <;> rfl

/-- The emitter when its run of failures is one longer. -/
def failed (e : Emitter) : Emitter := { e with health := e.health.failed e.maxFailures }

/-- A run of failures as long as the limit disables the emitter. -/
theorem failed_disabled {e : Emitter} (h : e.health.disabled = false) :
    e.failed.health.disabled = decide (e.maxFailures ≤ ((e.health.failures + 1 : Nat) : Int)) := by
  simp [failed, Health.failed, h]

variable (f : Fault)

/-- **A fatal fault**: the one that completes the run of failures turns the sink off, and any other
leaves it as it is. -/
theorem noteFatal_cases {P : Emitter → Prop}
    (completing : e.health.disabled = false → e.failed.health.disabled = true →
      P (e.failed.turnOff.say .error "sink.disabled" (failureFields (e.health.failures + 1) f)))
    (other : e.health.disabled = true ∨ e.failed.health.disabled = false →
      P (e.failed.say .warning "sink.degraded" (failureFields (e.health.failures + 1) f))) :
    P (e.noteFatal f) := by
  unfold noteFatal
  dsimp only
  split
  case isTrue h =>
    simp only [Bool.and_eq_true, Bool.not_eq_true'] at h
    exact completing h.2 h.1
  case isFalse h =>
    cases hd : e.health.disabled with
    | true => exact other (.inl hd)
    | false => exact other (.inr (by simpa [hd, failed] using h))

@[simp] theorem noteFatal_health : (e.noteFatal f).health = e.health.failed e.maxFailures :=
  noteFatal_cases (P := fun e' => e'.health = _) e f (fun _ _ => rfl) (fun _ => rfl)

@[simp] theorem noteFatal_application : (e.noteFatal f).application = e.application :=
  noteFatal_cases (P := fun e' => e'.application = _) e f (fun _ _ => rfl) (fun _ => rfl)

@[simp] theorem noteFatal_maxFailures : (e.noteFatal f).maxFailures = e.maxFailures :=
  noteFatal_cases (P := fun e' => e'.maxFailures = _) e f (fun _ _ => rfl) (fun _ => rfl)

/-- A fatal fault leaves the sink as it is, or turns it off. -/
theorem noteFatal_sink_cases :
    (e.noteFatal f).sink = e.sink.turnOff ∨ (e.noteFatal f).sink = e.sink :=
  noteFatal_cases (P := fun e' => e'.sink = _ ∨ e'.sink = _) e f (fun _ _ => .inl rfl)
    (fun _ => .inr rfl)

@[simp] theorem noteFatal_isImmediate :
    (e.noteFatal f).sink.isImmediate = e.sink.isImmediate := by
  rcases noteFatal_sink_cases e f with h | h
  · rw [h, sink_turnOff_isImmediate]
  · rw [h]

@[simp] theorem noteFatal_name : (e.noteFatal f).sink.name = e.sink.name := by
  rcases noteFatal_sink_cases e f with h | h
  · rw [h, sink_turnOff_name]
  · rw [h]

@[simp] theorem noteFatal_deliveries : (e.noteFatal f).deliveries = e.deliveries :=
  noteFatal_cases (P := fun e' => e'.deliveries = _) e f (fun _ _ => rfl) (fun _ => rfl)

@[simp] theorem noteFatal_beforeFlush :
    (e.noteFatal f).sink.beforeFlush = e.sink.beforeFlush := by
  rcases noteFatal_sink_cases e f with h | h
  · rw [h, sink_turnOff_beforeFlush]
  · rw [h]

theorem noteFatal_own (h : e.Own) : (e.noteFatal f).Own := by
  have hnone : ∀ ev ∈ ([] : List SinkEvent), ev.isOwn = true :=
    fun _ hev => (List.not_mem_nil hev).elim
  refine noteFatal_cases (P := Own) e f (fun _ _ => ?_) (fun _ => ?_)
  · exact own_of_journal (e := e) [.said _, .turnedOff] rfl
      (List.forall_mem_cons.mpr ⟨rfl, List.forall_mem_cons.mpr ⟨rfl, hnone⟩⟩) h
  · exact own_of_journal (e := e) [.said _] rfl (List.forall_mem_cons.mpr ⟨rfl, hnone⟩) h

/-- A fatal fault adds its verdict, while the sink has not been disabled. -/
theorem noteFatal_verdicts (h : e.health.disabled = false) :
    (e.noteFatal f).verdicts =
      verdictOn e.maxFailures e.sink.name (e.health.failures + 1) f ++ e.verdicts := by
  have hlimit := failed_disabled h
  have hn := sink_turnOff_name e.sink
  unfold verdictOn
  refine noteFatal_cases (P := fun e' => e'.verdicts = _) e f (fun _ hd => ?_) (fun hd => ?_)
  · rw [hlimit, decide_eq_true_eq] at hd
    rw [if_pos hd]
    simp [verdicts, failed, say, note, turnOff, verdictEntry, SinkEvent.isVerdict,
      List.filter_cons, hn]
  · rw [h, hlimit, decide_eq_false_iff_not] at hd
    rw [if_neg (hd.resolve_left Bool.false_ne_true)]
    simp [verdicts, failed, say, note, verdictEntry, SinkEvent.isVerdict]

/-! ### A sample handed over -/

/-- `e'` came of `e` by handing a sample to the sink: nothing but the health of the sink has changed,
no indicator was counted, and an emitter that was disabled still is. -/
structure Handed (d : Delivery) (e e' : Emitter) : Prop where
  application : e'.application = e.application
  maxFailures : e'.maxFailures = e.maxFailures
  name : e'.sink.name = e.sink.name
  isImmediate : e'.sink.isImmediate = e.sink.isImmediate
  errors : e'.health.errors = e.health.errors
  closed : e'.health.closed = e.health.closed
  disabled : e.health.disabled = true → e'.health.disabled = true
  deliveries : e'.deliveries = d :: e.deliveries
  beforeFlush : e'.sink.beforeFlush = e.sink.beforeFlush
  own : e.Own → e'.Own

theorem record_handed : Handed ⟨m, x, tags, (e.record m x tags).2⟩ e (e.record m x tags).1 where
  application := record_application e m x tags
  maxFailures := record_maxFailures e m x tags
  name := record_name e m x tags
  isImmediate := record_isImmediate e m x tags
  errors := by rw [record_health]
  closed := by rw [record_health]
  disabled := by rw [record_health]; exact id
  deliveries := record_deliveries e m x tags
  beforeFlush := record_beforeFlush e m x tags
  own := record_own e m x tags

theorem attempt_handed : Handed ⟨m, x, tags, (e.record m x tags).2⟩ e (e.attempt m x tags).1 := by
  have hr := record_handed e m x tags
  refine attempt_cases (P := fun r => Handed ⟨m, x, tags, (e.record m x tags).2⟩ e r.1)
    e m x tags ?_ ?_ ?_ ?_
  · intro _
    dsimp only
    split
    · exact { hr with }
    · exact hr
  · intro f _ _
    refine { hr with own := fun h => own_of_journal [.said _] rfl ?_ (hr.own h) }
    intro ev hev
    obtain rfl := List.mem_singleton.mp hev
    rfl
  · intro f _ _
    exact {
      application := (noteFatal_application _ f).trans hr.application
      maxFailures := (noteFatal_maxFailures _ f).trans hr.maxFailures
      name := (noteFatal_name _ f).trans hr.name
      isImmediate := (noteFatal_isImmediate _ f).trans hr.isImmediate
      errors := by rw [noteFatal_health]; exact hr.errors
      closed := by rw [noteFatal_health]; exact hr.closed
      disabled := fun h => by simp [Health.failed, h]
      deliveries := (noteFatal_deliveries _ f).trans hr.deliveries
      beforeFlush := (noteFatal_beforeFlush _ f).trans hr.beforeFlush
      own := fun h => noteFatal_own _ f (hr.own h) }
  · intro f _ _ _
    exact hr

/-- The health of a sink that keeps no sample back, after a sample over which a fault or nothing was
raised. -/
def healthAfter (limit : Int) (h : Health) : Option Fault → Health
  | none   => h.delivered
  | some f => if f.kind = .sinkFatal then h.failed limit else h

/-- The verdict that such a sample adds, after a run of failures. -/
def verdictAfter (limit : Int) (sink : String) (failures : Nat) : Option Fault → List SinkEvent
  | none   => []
  | some f => if f.kind = .sinkFatal then verdictOn limit sink (failures + 1) f else []

theorem attempt_health (h : e.sink.isImmediate = true) :
    (e.attempt m x tags).1.health = healthAfter e.maxFailures e.health (e.record m x tags).2 := by
  refine attempt_cases
    (P := fun r => r.1.health = healthAfter e.maxFailures e.health (e.record m x tags).2)
    e m x tags ?_ ?_ ?_ ?_
  · intro ho
    rw [ho, if_pos h]
    simp [noteDelivery, healthAfter]
  · intro f ho ht
    rw [ho, healthAfter, if_neg (by rw [ht]; decide)]
    exact record_health e m x tags
  · intro f ho hf
    rw [ho, healthAfter, if_pos hf]
    simp
  · intro f ho _ hf
    rw [ho, healthAfter, if_neg hf]
    exact record_health e m x tags

theorem attempt_verdicts (h : e.health.disabled = false) :
    (e.attempt m x tags).1.verdicts =
      verdictAfter e.maxFailures e.sink.name e.health.failures (e.record m x tags).2
        ++ e.verdicts := by
  have hr := record_verdicts e m x tags
  refine attempt_cases
    (P := fun r => r.1.verdicts =
      verdictAfter e.maxFailures e.sink.name e.health.failures (e.record m x tags).2
        ++ e.verdicts) e m x tags ?_ ?_ ?_ ?_
  · intro ho
    rw [ho]
    dsimp only
    split
    · exact hr
    · exact hr
  · intro f ho ht
    rw [ho, verdictAfter, if_neg (by rw [ht]; decide)]
    exact hr
  · intro f ho hf
    rw [ho, verdictAfter, if_pos hf]
    have hv := noteFatal_verdicts (e.record m x tags).1 f (by rw [record_health]; exact h)
    rw [record_maxFailures, record_name, record_health, record_verdicts] at hv
    exact hv
  · intro f ho _ hf
    rw [ho, verdictAfter, if_neg hf]
    exact hr

end Emitter
end FleetHealth
