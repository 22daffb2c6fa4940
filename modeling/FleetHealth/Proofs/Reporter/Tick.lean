import FleetHealth.Proofs.Emitter.Sound
import FleetHealth.Proofs.Reporter.Contribution

/-!
# Proofs — Reporter — Tick

A tick is the sum of what its bindings contribute.  The reporter asks, and for each answer it calls the emitter and says what failed; what it asks does not depend on what it emits, and what it emits for one binding does not depend on the others.

* `Told` says what a part of a turn has done: which calls the emitter received and what was said, while the surroundings stayed as they were.  Its parts compose (`Told.trans`).
* `turn_told` is one binding, `walk_told` all of them.
* `tick_contributions` is the tick: it answers, and its report, its calls and its notices are those of the bindings that were heard, in order.

The emitter is *sound* throughout: its sink raises only faults that it absorbs.  Then a call raises exactly when the gate refuses the sample.
-/

namespace FleetHealth

/-- What the reporter says about a failed indicator, where an event is that. -/
def ReporterEvent.notice? {τ : Type} : ReporterEvent τ → Option Notice
  | .sink (.said entry) =>
    if entry.logger == "syncwatch.reporter"
        && (entry.event == "indicator.failed" || entry.event == "indicator.crashed") then
      some ⟨entry.level, entry.event, entry.fields.take 2⟩
    else none
  | _ => none

/-- An emitter does not speak through the reporter's logger. -/
theorem logger_of_isOwn {entry : Log.Entry} (h : (SinkEvent.said entry).isOwn = true) :
    (entry.logger == "syncwatch.reporter") = false := by
  simp only [SinkEvent.isOwn, Bool.or_eq_true, beq_iff_eq] at h
  rcases h with h | h
  · rw [h]
    rfl
  · rw [h]
    rfl

theorem notice?_of_isOwn {τ : Type} {ev : SinkEvent} (h : ev.isOwn = true) :
    (ReporterEvent.sink ev : ReporterEvent τ).notice? = none := by
  cases ev with
  | said entry =>
      simp only [ReporterEvent.notice?, logger_of_isOwn h, Bool.false_and, Bool.false_eq_true,
        if_false]
  | _ => rfl

/-- The report with more failed indicators and more samples. -/
def TickReport.plus {τ : Type} (report : TickReport τ) (failed : List String)
    (samples : List Sample) : TickReport τ :=
  { report with failed := report.failed ++ failed, samples := report.samples ++ samples }

theorem TickReport.plus_nil {τ : Type} (report : TickReport τ) : report.plus [] [] = report := by
  simp only [plus, List.append_nil]

theorem TickReport.plus_plus {τ : Type} (report : TickReport τ) (fs gs : List String)
    (ss ts : List Sample) : (report.plus fs ss).plus gs ts = report.plus (fs ++ gs) (ss ++ ts) := by
  simp only [plus, List.append_assoc]

theorem TickReport.plus_failed {τ : Type} (report : TickReport τ) (name : String) :
    { report with failed := report.failed ++ [name] } = report.plus [name] [] := by
  simp only [plus, List.append_nil]

theorem TickReport.plus_sample {τ : Type} (report : TickReport τ) (s : Sample) :
    { report with samples := report.samples ++ [s] } = report.plus [] [s] := by
  simp only [plus, List.append_nil]

/-- The report with what bindings contribute, when so many of them had a turn. -/
def TickReport.hearing {τ : Type} (report : TickReport τ) (heard : List Heard)
    (bs : List Binding) : TickReport τ :=
  { report.plus ((heard.filter Heard.fails).map Heard.name) (heard.flatMap Heard.samples) with
    interrupted := report.interrupted || decide (heard.length < bs.length) }

theorem TickReport.hearing_nil {τ : Type} (report : TickReport τ) : report.hearing [] [] = report := by
  simp [hearing, plus]

theorem TickReport.hearing_none {τ : Type} (report : TickReport τ) (b : Binding)
    (bs : List Binding) : report.hearing [] (b :: bs) = { report with interrupted := true } := by
  simp [hearing, plus]

theorem TickReport.hearing_cons {τ : Type} (report : TickReport τ) (h : Heard) (hs : List Heard)
    (b : Binding) (bs : List Binding) :
    report.hearing (h :: hs) (b :: bs) =
      (report.plus (if h.fails then [h.name] else []) h.samples).hearing hs bs := by
  cases hf : h.fails <;>
    simp [hearing, plus, hf]

namespace Reporter

open Emitter (Call Sound)

variable {τ : Type} [TimeScale τ]

/-- What the reporter has said about failed indicators, the first of it first. -/
def notices (r : Reporter τ) : List Notice := (r.journal.filterMap ReporterEvent.notice?).reverse

omit [TimeScale τ] in
theorem notices_of_journal {r r' : Reporter τ} (evs : List (ReporterEvent τ))
    (h : r'.journal = evs ++ r.journal) :
    r'.notices = r.notices ++ (evs.filterMap ReporterEvent.notice?).reverse := by
  rw [notices, h, List.filterMap_append, List.reverse_append, notices]

/-! ### Parts of a turn -/

/-- `r'` came of `r` by calls of the emitter and by saying what failed, in unchanged surroundings. -/
structure Told (cs : List Call) (ns : List Notice) (r r' : Reporter τ) : Prop where
  ear : SameEar r r'
  emitter : r'.emitter.clear = (r.emitter.run cs).clear
  beforeFlush : r'.emitter.sink.beforeFlush = r.emitter.sink.beforeFlush
  notices : r'.notices = r.notices ++ ns

namespace Told

variable {cs ds : List Call} {ns ms : List Notice} {r r₁ r₂ : Reporter τ}

omit [TimeScale τ] in
theorem trans (h : Told cs ns r r₁) (k : Told ds ms r₁ r₂) : Told (cs ++ ds) (ns ++ ms) r r₂ where
  ear := h.ear.trans k.ear
  emitter := by
    rw [k.emitter, ← Emitter.run_clear_clear, h.emitter, Emitter.run_clear_clear,
      Emitter.run_append]
  beforeFlush := k.beforeFlush.trans h.beforeFlush
  notices := by rw [k.notices, h.notices, List.append_assoc]

omit [TimeScale τ] in
/-- What follows a part of a sound turn is sound. -/
theorem sound (h : Told cs ns r r₁) (hs : (r.emitter.clear.run (cs ++ ds)).Sound) :
    (r₁.emitter.clear.run ds).Sound := by
  have hr := hs.of_run_append.2
  rwa [Emitter.run_clear_clear, ← h.emitter] at hr

end Told

omit [TimeScale τ] in
/-- Something written down that is no notice. -/
theorem told_note {ev : ReporterEvent τ} (h : ev.notice? = none) (r : Reporter τ) :
    Told [] [] r (r.note ev) where
  ear := ⟨rfl, rfl, rfl, rfl, rfl⟩
  emitter := rfl
  beforeFlush := rfl
  notices := by
    rw [notices_of_journal (r := r) [ev] rfl, List.filterMap_cons_none h]
    rfl

omit [TimeScale τ] in
/-- Something said about a failed indicator. -/
theorem told_say {event : String} (h : event = "indicator.failed" ∨ event = "indicator.crashed")
    (r : Reporter τ) (level : Log.Level) (fields : List (String × Datum)) (a : Log.Attachment) :
    Told [] [⟨level, event, fields.take 2⟩] r (r.say level event fields a) where
  ear := ⟨rfl, rfl, rfl, rfl, rfl⟩
  emitter := rfl
  beforeFlush := rfl
  notices := by
    have hn : (r.say level event fields a).notices = r.notices ++ _ := notices_of_journal [_] rfl
    rcases h with rfl | rfl
    · exact hn
    · exact hn

omit [TimeScale τ] in
theorem told_enter (r : Reporter τ) (p : Phase) : Told [] [] r (r.enter p) :=
  ⟨⟨rfl, rfl, rfl, rfl, rfl⟩, rfl, rfl, (List.append_nil _).symm⟩

omit [TimeScale τ] in
/-- The reporter after a call of its emitter. -/
theorem onEmitter_eq {α : Type} {r : Reporter τ} {call : Emitter → Emitter × α} {e : Emitter} {a : α}
    (h : call r.emitter.clear = (e, a)) :
    r.onEmitter call =
      ({ r with emitter := e.clear, journal := e.journal.map .sink ++ r.journal }, a) := by
  have ho : r.onEmitter call =
      ({ r with
          emitter := (call r.emitter.clear).1.clear
          journal := (call r.emitter.clear).1.journal.map .sink ++ r.journal },
        (call r.emitter.clear).2) := rfl
  rw [ho, h]

omit [TimeScale τ] in
/-- What is not read off an emitter's own events is not read off what a call of it writes down. -/
theorem filterMap_perform {β : Type} {f : ReporterEvent τ → Option β}
    (hf : ∀ ev : SinkEvent, ev.isOwn = true → f (.sink ev) = none) (e : Emitter) (c : Call) :
    ((e.clear.perform c).1.journal.map .sink).filterMap f = [] := by
  have hown : (e.clear.perform c).1.Own := by
    refine Emitter.own_invariant.perform (fun ev hev => ?_) c
    cases hev
  rw [List.filterMap_eq_nil_iff]
  intro ev hev
  obtain ⟨own, hmem, rfl⟩ := List.mem_map.mp hev
  exact hf own (hown own hmem)

omit [TimeScale τ] in
/-- The events of an emitter are no notices. -/
theorem notices_onEmitter {r : Reporter τ} {c : Call} {e : Emitter}
    (h : (r.emitter.clear.perform c).1 = e) :
    ({ r with emitter := e.clear, journal := e.journal.map .sink ++ r.journal } :
      Reporter τ).notices = r.notices := by
  subst h
  rw [notices_of_journal (r := r) ((r.emitter.clear.perform c).1.journal.map .sink) rfl,
    filterMap_perform (fun _ => notice?_of_isOwn)]
  exact List.append_nil _

omit [TimeScale τ] in
/-- One call of the emitter that is no flush. -/
theorem told_onEmitter {α : Type} {r : Reporter τ} (call : Emitter → Emitter × α) {c : Call}
    {e : Emitter} {a : α} (h : call r.emitter.clear = (e, a))
    (he : (r.emitter.clear.perform c).1 = e)
    (hb : e.sink.beforeFlush = r.emitter.sink.beforeFlush) :
    ∃ r₁, r.onEmitter call = (r₁, a) ∧ Told [c] [] r r₁ := by
  refine ⟨_, onEmitter_eq h, ⟨rfl, rfl, rfl, rfl, rfl⟩, ?_, hb, ?_⟩
  · rw [Emitter.run_singleton, Emitter.perform_clear, he]
    rfl
  · rw [notices_onEmitter he, List.append_nil]

/-! ### A failure -/

omit [TimeScale τ] in
/-- An indicator is counted as failed, and that is said, when the emitter is sound. -/
theorem failIndicator_told (r : Reporter τ) (report : TickReport τ) (name error : String)
    (hs : (r.emitter.clear.run [.recordError (.text name)]).Sound) :
    ∃ r', r.failIndicator report name error = (r', report.plus [name] [], none)
      ∧ Told [.recordError (.text name)]
          [⟨.warning, "indicator.failed", [("indicator", .text name), ("error", .text error)]⟩]
          r r' := by
  cases hc : r.emitter.clear.recordError (.text name) with
  | mk e answer =>
      have he := Emitter.perform_recordError hc
      rw [Emitter.run_singleton, he] at hs
      have hb : e.sink.beforeFlush = r.emitter.sink.beforeFlush := by
        have hk := (Emitter.beforeFlush_invariant r.emitter.sink.beforeFlush).recordError
          (e := r.emitter.clear) rfl (.text name)
        rwa [hc] at hk
      obtain ⟨total, rfl⟩ := Emitter.recordError_answered hc hs.absorbed (hs.tallies _)
      obtain ⟨r₁, ho, ht⟩ := told_onEmitter (fun e => e.recordError (.text name)) hc he hb
      have hsay := told_say (.inl rfl) r₁ .warning
        [("indicator", .text name), ("error", .text error), ("errors_total", .int total)] .none
      refine ⟨_, ?_, ht.trans hsay⟩
      unfold failIndicator
      dsimp only
      split
      case h_1 r₂ f hf => cases ho.symm.trans hf
      case h_2 r₂ total' hok =>
        cases ho.symm.trans hok
        rw [report.plus_failed name]

omit [TimeScale τ] in
/-- A failure that crashed is first said to have crashed. -/
theorem fail_told (x : Failure) (patience : String) (r : Reporter τ) (report : TickReport τ)
    (name : String) (f : Fault) (hs : (r.emitter.clear.run [.recordError (.text name)]).Sound) :
    ∃ r', (if x.isCrash then r.sayCrash name x.stage f else r).failIndicator report name
        (x.wording patience) = (r', report.plus [name] [], none)
      ∧ Told [.recordError (.text name)] (x.notices patience name) r r' := by
  cases hc : x.isCrash with
  | true =>
      have hsay : Told [] [x.crashNotice name] r (r.sayCrash name x.stage f) :=
        told_say (.inr rfl) r .error [("indicator", .text name), ("stage", .text x.stage)]
          (.fault f.summary)
      obtain ⟨r', hf, ht⟩ := failIndicator_told (r.sayCrash name x.stage f) report name
        (x.wording patience) (hsay.sound hs)
      refine ⟨r', hf, ?_⟩
      rw [Failure.notices, hc]
      exact hsay.trans ht
  | false =>
      obtain ⟨r', hf, ht⟩ := failIndicator_told r report name (x.wording patience) hs
      refine ⟨r', hf, ?_⟩
      rw [Failure.notices, hc]
      exact ht

theorem failQuery_eq (r : Reporter τ) (report : TickReport τ) (name : String) (f : Fault) :
    r.failQuery report name f =
      (if (Failure.query f).isCrash then r.sayCrash name "query" f else r).failIndicator report name
        ((Failure.query f).wording r.patience) := by
  by_cases hq : ∃ op cause, f = .queryFailed op cause
  · obtain ⟨op, cause, rfl⟩ := hq
    rfl
  · have hcrash : (Failure.query f).isCrash = decide (f.kind ≠ .timeout) := by
      cases f with
      | queryFailed op cause => exact absurd ⟨op, cause, rfl⟩ hq
      | _ => rfl
    have hword : (Failure.query f).wording r.patience =
        if f.kind = .timeout then r.patience else f.shown := by
      cases f with
      | queryFailed op cause => exact absurd ⟨op, cause, rfl⟩ hq
      | _ => rfl
    have hfail : r.failQuery report name f =
        if f.kind = .timeout then r.failIndicator report name r.patience
        else (r.sayCrash name "query" f).failIndicator report name f.shown := by
      cases f with
      | queryFailed op cause => exact absurd ⟨op, cause, rfl⟩ hq
      | _ => rfl
    rw [hcrash, hword, hfail]
    by_cases ht : f.kind = .timeout
    · simp only [ht, ne_eq, not_true_eq_false, decide_false, Bool.false_eq_true, if_false, if_true]
    · simp only [ht, ne_eq, not_false_eq_true, decide_true, if_true, if_false]

omit [TimeScale τ] in
theorem failEmit_eq (patience : String) (r : Reporter τ) (report : TickReport τ) (name : String)
    (f : Fault) :
    r.failEmit report name f =
      (if (Failure.emit f).isCrash then r.sayCrash name "emit" f else r).failIndicator report name
        ((Failure.emit f).wording patience) := by
  rw [failEmit]
  cases hv : f.kind.isValue with
  | true => simp only [Failure.isCrash, Failure.wording, hv, Bool.not_true, Bool.false_eq_true,
      if_false, if_true]
  | false => simp only [Failure.isCrash, Failure.wording, hv, Bool.not_false, Bool.false_eq_true,
      if_false, if_true]

/-! ### Points -/

end Reporter

namespace Metric

variable {m : Metric} {p : Point}

theorem refusal?_of_error {f : Fault} (h : Emitter.accept m m.type p.value p.dims = .error f) :
    m.refusal? p = some f := by
  rw [refusal?, h]

theorem admits_of_refusal {f : Fault} (h : m.refusal? p = some f) : m.admits p = false := by
  rw [admits, h]
  rfl

theorem admits_of_none (h : m.refusal? p = none) : m.admits p = true := by
  rw [admits, h]
  rfl

theorem submitted_cons_refused (h : m.admits p = false) (ps : List Point) :
    m.submitted (p :: ps) = [p] := by
  rw [submitted, List.takeWhile_cons_of_neg (by rw [h]; exact Bool.false_ne_true)]
  rfl

theorem submitted_cons_admitted (h : m.admits p = true) (ps : List Point) :
    m.submitted (p :: ps) = p :: m.submitted ps := by
  rw [submitted, List.takeWhile_cons_of_pos h]
  rfl

end Metric

namespace Reporter

open Emitter (Call Sound)

variable {τ : Type} [TimeScale τ]

omit [TimeScale τ] in
theorem submit_eq (r : Reporter τ) (m : Metric) (p : Point) :
    r.submit m p =
      (r.note (.submitted m r.phase)).onEmitter fun e => e.submit m m.type p.value p.dims := rfl

omit [TimeScale τ] in
/-- A point that the gate refuses is refused, whatever the emitter. -/
theorem submit_refused {m : Metric} {p : Point} {f : Fault} (h : m.refusal? p = some f)
    (r : Reporter τ) :
    ∃ r₁, r.submit m p = (r₁, .error f) ∧ Told [m.call p] [] r r₁ := by
  have ha : Emitter.accept m m.type p.value p.dims = .error f := by
    rw [Metric.refusal?] at h
    split at h
    case h_1 g hg => rw [hg, Option.some.inj h]
    case h_2 a ha => cases h
  have hnote : Told [] [] r (r.note (.submitted m r.phase)) := told_note rfl r
  have hc := Emitter.submit_refused ha (r.note (.submitted m r.phase)).emitter.clear
  obtain ⟨r₁, ho, ht⟩ := told_onEmitter (fun e => e.submit m m.type p.value p.dims)
    (c := m.call p) hc (Emitter.perform_sample hc) rfl
  exact ⟨r₁, (submit_eq r m p).trans ho, hnote.trans ht⟩

omit [TimeScale τ] in
/-- A point that the gate admits is submitted, when the emitter is sound. -/
theorem submit_admitted {m : Metric} {p : Point} (h : m.admits p = true) (r : Reporter τ)
    (hs : (r.emitter.clear.run [m.call p]).Sound) :
    ∃ r₁, r.submit m p = (r₁, .ok ()) ∧ Told [m.call p] [] r r₁ := by
  obtain ⟨admitted, ha⟩ : ∃ admitted, Emitter.accept m m.type p.value p.dims = .ok admitted := by
    cases ha : Emitter.accept m m.type p.value p.dims with
    | error f =>
        rw [Metric.admits_of_refusal (Metric.refusal?_of_error ha)] at h
        cases h
    | ok admitted => exact ⟨admitted, rfl⟩
  have hnote : Told [] [] r (r.note (.submitted m r.phase)) := told_note rfl r
  cases hc : (r.note (.submitted m r.phase)).emitter.clear.submit m m.type p.value p.dims with
  | mk e answer =>
      have he := Emitter.perform_sample hc
      have hb : e.sink.beforeFlush = r.emitter.sink.beforeFlush := by
        have hk := (Emitter.beforeFlush_invariant r.emitter.sink.beforeFlush).submit
          (e := r.emitter.clear) rfl m m.type p.value p.dims
        rwa [show r.emitter.clear.submit m m.type p.value p.dims = (e, answer) from hc] at hk
      have hse : e.Sound := by
        rw [Emitter.run_singleton] at hs
        rwa [← he]
      obtain rfl := Emitter.submit_answered ha hc hse.absorbed (hse.tallies _)
      obtain ⟨r₁, ho, ht⟩ := told_onEmitter (fun e => e.submit m m.type p.value p.dims)
        (c := m.call p) hc he hb
      exact ⟨r₁, (submit_eq r m p).trans ho, hnote.trans ht⟩

omit [TimeScale τ] in
/-- **The points of an answer are submitted up to the first that is refused**, and that one makes the
indicator fail. -/
theorem submitAll_told (patience : String) (m : Metric) (ps : List Point) (r : Reporter τ)
    (report : TickReport τ)
    (hs : (r.emitter.clear.run ((m.submitted ps).map m.call
      ++ if (ps.findSome? m.refusal?).isSome then [.recordError (.text m.name)] else [])).Sound) :
    ∃ r', submitAll m ps r report =
        (r', report.plus (if (ps.findSome? m.refusal?).isSome then [m.name] else [])
          ((ps.takeWhile m.admits).map m.sample), none)
      ∧ Told ((m.submitted ps).map m.call
          ++ if (ps.findSome? m.refusal?).isSome then [.recordError (.text m.name)] else [])
        (((ps.findSome? m.refusal?).map fun f => (Failure.emit f).notices patience m.name).getD [])
        r r' := by
  induction ps generalizing r report with
  | nil =>
      refine ⟨r, ?_, SameEar.refl r, rfl, rfl, (List.append_nil _).symm⟩
      rw [List.takeWhile_nil, List.map_nil]
      exact congrArg (fun x => (r, x, none)) report.plus_nil.symm
  | cons p ps ih =>
      cases hp : m.refusal? p with
      | some f =>
          have hno := Metric.admits_of_refusal hp
          rw [List.findSome?_cons_of_isSome (by rw [hp]; rfl), hp,
            Metric.submitted_cons_refused hno] at hs ⊢
          rw [List.takeWhile_cons_of_neg (by rw [hno]; exact Bool.false_ne_true)]
          obtain ⟨r₁, hsub, h₁⟩ := submit_refused hp r
          obtain ⟨r₂, hfail, h₂⟩ := fail_told (.emit f) patience r₁ report m.name f (h₁.sound hs)
          refine ⟨r₂, ?_, h₁.trans h₂⟩
          rw [submitAll, hsub]
          exact (failEmit_eq patience r₁ report m.name f).trans hfail
      | none =>
          have hyes := Metric.admits_of_none hp
          rw [List.findSome?_cons_of_isNone (by rw [hp]; rfl),
            Metric.submitted_cons_admitted hyes] at hs ⊢
          rw [List.takeWhile_cons_of_pos hyes]
          obtain ⟨r₁, hsub, h₁⟩ := submit_admitted hyes r hs.of_run_cons
          obtain ⟨r₂, hrest, h₂⟩ := ih r₁ (report.plus [] [m.sample p]) (h₁.sound hs)
          refine ⟨r₂, ?_, h₁.trans h₂⟩
          have hsampled : ({ report with samples := report.samples ++ [⟨m, p.value, p.dims⟩] } :
              TickReport τ) = report.plus [] [m.sample p] := report.plus_sample (m.sample p)
          rw [submitAll, hsub]
          dsimp only
          rw [hsampled, hrest, TickReport.plus_plus]
          rfl

/-! ### Turns -/

/-- The turn of a binding, once its query has brought what it brought. -/
def turn (h : Heard) (r : Reporter τ) (report : TickReport τ) : Progress τ :=
  match h.answer with
  | .error f => r.failQuery report h.name f
  | .ok a    =>
    match h.binding.shape.points a with
    | .error f => (r.enter .emit).failEmit report h.name f
    | .ok ps   => submitAll h.binding.metric ps (r.enter .emit) report

theorem visit_eq (b : Binding) (r : Reporter τ) (report : TickReport τ) :
    visit b r report =
      turn ⟨b, ((r.enter .tick).ask b.operation).2⟩ ((r.enter .tick).ask b.operation).1 report := by
  unfold visit turn
  cases (r.enter .tick).ask b.operation with
  | mk r₁ answer => cases answer <;> rfl

/-- **A turn contributes what its binding and its answer say**, and raises nothing. -/
theorem turn_told (h : Heard) (r : Reporter τ) (report : TickReport τ)
    (hs : (r.emitter.clear.run h.calls).Sound) :
    ∃ r', turn h r report =
        (r', report.plus (if h.fails then [h.name] else []) h.samples, none)
      ∧ Told h.calls (h.notices r.patience) r r' := by
  obtain ⟨b, answer⟩ := h
  cases answer with
  | error f =>
      obtain ⟨r', hf, ht⟩ := fail_told (.query f) r.patience r report b.metric.name f hs
      exact ⟨r', (failQuery_eq r report b.metric.name f).trans hf, ht⟩
  | ok a =>
      have henter := told_enter r .emit
      cases hp : b.shape.points a with
      | error f =>
          have hfail : (⟨b, .ok a⟩ : Heard).failure? = some (.emit f) := by
            simp only [Heard.failure?, hp]
          have hnone : (⟨b, .ok a⟩ : Heard).points = [] := by
            simp only [Heard.points, hp]
          simp only [Heard.calls, Heard.fails, Heard.samples, Heard.admitted, Heard.notices, hfail,
            hnone, turn, hp] at hs ⊢
          obtain ⟨r', hf, ht⟩ := fail_told (.emit f) r.patience (r.enter .emit) report b.metric.name
            f hs
          exact ⟨r', (failEmit_eq r.patience _ report b.metric.name f).trans hf, henter.trans ht⟩
      | ok ps =>
          have hfail : (⟨b, .ok a⟩ : Heard).failure? =
              (ps.findSome? b.metric.refusal?).map .emit := by
            simp only [Heard.failure?, hp]
          have hpoints : (⟨b, .ok a⟩ : Heard).points = ps := by
            simp only [Heard.points, hp]
          simp only [Heard.calls, Heard.fails, Heard.samples, Heard.admitted, Heard.notices, hfail,
            hpoints, turn, hp, Option.isSome_map, Option.map_map] at hs ⊢
          obtain ⟨r', hf, ht⟩ := submitAll_told r.patience b.metric ps (r.enter .emit) report hs
          exact ⟨r', hf, henter.trans ht⟩

/-! ### Ticks -/

/-- `r'` came of `r` without a turn of the emitter: it has the same settings, is in the same phase and
has counted as many ticks, and nothing was said about an indicator. -/
structure Kept (r r' : Reporter τ) : Prop where
  emitter : r'.emitter = r.emitter
  notices : r'.notices = r.notices
  deadline : r'.deadline = r.deadline
  bindings : r'.bindings = r.bindings
  source : r'.source = r.source
  phase : r'.phase = r.phase
  ticks : r'.ticks = r.ticks

namespace Kept

variable {r r₁ r₂ : Reporter τ}

omit [TimeScale τ] in
theorem refl (r : Reporter τ) : Kept r r := ⟨rfl, rfl, rfl, rfl, rfl, rfl, rfl⟩

omit [TimeScale τ] in
theorem trans (h : Kept r r₁) (k : Kept r₁ r₂) : Kept r r₂ where
  emitter := k.emitter.trans h.emitter
  notices := k.notices.trans h.notices
  deadline := k.deadline.trans h.deadline
  bindings := k.bindings.trans h.bindings
  source := k.source.trans h.source
  phase := k.phase.trans h.phase
  ticks := k.ticks.trans h.ticks

omit [TimeScale τ] in
theorem note {ev : ReporterEvent τ} (h : ev.notice? = none) (r : Reporter τ) : Kept r (r.note ev) :=
  { Kept.refl r with notices := (told_note h r).notices.trans (List.append_nil _) }

omit [TimeScale τ] in
theorem tell (r : Reporter τ) (stop : Bool) : Kept r (r.tell stop) :=
  tell_cases (P := Kept r) r stop (fun _ => .refl r) (fun _ => { Kept.refl r with })

omit [TimeScale τ] in
theorem asking (r : Reporter τ) (o : Operation) : Kept r (r.asking o) := by
  have hbegun : Kept r { r.note (.asked o r.phase) with playbook := (r.playbook.next o).2 } :=
    { Kept.note rfl r with }
  exact hbegun.trans (tell _ _)

end Kept

/-- Asking says nothing and does not touch the emitter or the settings. -/
theorem ask_keeps (r : Reporter τ) (o : Operation) : Kept r (r.ask o).1 := by
  have hwaited : ∀ t, Kept r { r.asking o with clock := t } :=
    fun t => (Kept.asking r o).trans { Kept.refl (r.asking o) with }
  exact ask_cases (P := fun p => Kept r p.1) r o (fun _ => .refl r) (fun _ => hwaited _)
    (fun _ => (hwaited _).trans (.tell _ _))

theorem patience_congr {r r' : Reporter τ} (h : r'.deadline = r.deadline) :
    r'.patience = r.patience := by
  unfold patience
  rw [h]

theorem hear_stopped {heeds : Bool} {r : Reporter τ}
    (h : (heeds && r.stopRequested) = true) (bs : List Binding) : hear heeds bs r = [] := by
  cases bs with
  | nil => rfl
  | cons b bs => exact if_pos h

theorem hear_cons {heeds : Bool} {r : Reporter τ} (h : ¬ (heeds && r.stopRequested) = true)
    (b : Binding) (bs : List Binding) :
    hear heeds (b :: bs) r =
      ⟨b, ((r.enter .tick).ask b.operation).2⟩
        :: hear heeds bs ((r.enter .tick).ask b.operation).1 := by
  rw [hear]
  exact if_neg h

/-- **The turns of bindings contribute one after another**, and raise nothing. -/
theorem walk_told (heeds : Bool) (bs : List Binding) (r : Reporter τ) (report : TickReport τ)
    (hs : (r.emitter.clear.run ((hear heeds bs r).flatMap Heard.calls)).Sound) :
    ∃ r', walk heeds bs r report = (r', report.hearing (hear heeds bs r) bs, none)
      ∧ r'.emitter.clear = (r.emitter.run ((hear heeds bs r).flatMap Heard.calls)).clear
      ∧ r'.emitter.sink.beforeFlush = r.emitter.sink.beforeFlush
      ∧ r'.notices = r.notices ++ (hear heeds bs r).flatMap (Heard.notices r.patience) := by
  induction bs generalizing r report with
  | nil =>
      refine ⟨r, ?_, rfl, rfl, (List.append_nil _).symm⟩
      rw [hear, TickReport.hearing_nil, walk]
  | cons b bs ih =>
      by_cases hstop : (heeds && r.stopRequested) = true
      · refine ⟨r, ?_, ?_, rfl, ?_⟩
        · rw [walk, if_pos hstop, hear_stopped hstop, TickReport.hearing_none]
        · rw [hear_stopped hstop]
          rfl
        · rw [hear_stopped hstop]
          exact (List.append_nil _).symm
      · rw [hear_cons hstop, List.flatMap_cons] at hs
        rw [hear_cons hstop, walk, if_neg hstop, visit_eq, List.flatMap_cons, List.flatMap_cons]
        have hkept := ask_keeps (r.enter .tick) b.operation
        cases hask : (r.enter .tick).ask b.operation with
        | mk r₁ answer =>
            rw [hask] at hs hkept
            have hemitter : r₁.emitter = r.emitter := hkept.emitter
            have hpatience : r₁.patience = r.patience := patience_congr hkept.deadline
            have hnotices : r₁.notices = r.notices := hkept.notices
            rw [← hemitter] at hs
            obtain ⟨r₂, hturn, ht⟩ := turn_told ⟨b, answer⟩ r₁ report hs.of_run_append.1
            have hear₂ : hear heeds bs r₂ = hear heeds bs r₁ := hear_congr heeds bs ht.ear
            have hs₂ := ht.sound hs
            rw [← hear₂] at hs₂
            obtain ⟨r₃, hwalk, hcalls, hflush, hsaid⟩ := ih r₂
              (report.plus (if (⟨b, answer⟩ : Heard).fails then [(⟨b, answer⟩ : Heard).name] else [])
                (⟨b, answer⟩ : Heard).samples) hs₂
            have hpatience₂ : r₂.patience = r₁.patience := patience_congr ht.ear.deadline
            refine ⟨r₃, ?_, ?_, ?_, ?_⟩
            · rw [hturn, TickReport.hearing_cons, ← hear₂]
              exact hwalk
            · rw [hcalls, hear₂, ← Emitter.run_clear_clear, ht.emitter, Emitter.run_clear_clear,
                hemitter, Emitter.run_append]
            · rw [hflush, ht.beforeFlush, hemitter]
            · rw [hsaid, ht.notices, hear₂, hpatience₂, hpatience, hnotices, List.append_assoc]

omit [TimeScale τ] in
/-- A flush that nothing precedes answers. -/
theorem flush_answers {e : Emitter} (h : e.sink.beforeFlush = none) :
    ∃ e', e.flush = (e', .ok ()) := by
  refine Emitter.flush_cases (P := fun r => ∃ e', r = (e', .ok ())) e (fun f hf => ?_)
    (fun _ _ => ⟨_, rfl⟩) (fun _ _ => ⟨_, rfl⟩)
  rw [Emitter.prelude_snd, h] at hf
  cases hf

/-- **The end of a completed tick** is said under its number, and after that an overrun. -/
theorem sayCompleted_cases {P : Reporter τ → Prop} (r : Reporter τ) (report : TickReport τ)
    (inTime : ∀ fields, P (r.say .info "reporter.tick.completed" (("tick", .int r.ticks) :: fields)))
    (overrun : ∀ fields fields', P ((r.say .info "reporter.tick.completed"
      (("tick", .int r.ticks) :: fields)).say .warning "reporter.tick.overrun" fields')) :
    P (r.sayCompleted report) := by
  unfold sayCompleted
  dsimp only
  split
  · exact overrun _ _
  · exact inTime _

theorem sayCompleted_keeps (r : Reporter τ) (report : TickReport τ) :
    Kept r (r.sayCompleted report) :=
  sayCompleted_cases (P := Kept r) r report (fun _ => .note rfl r)
    (fun _ _ => (Kept.note rfl r).trans (.note rfl _))

/-- **A tick is the sum of what its bindings contribute.**  When the sink raises only faults that an
emitter absorbs, a tick answers, and after it: the report names the indicators that failed, each once
for every turn of it that did, and lists the samples before the first refused point of each turn, in
order; the emitter is where the calls of the turns bring it, and a flush; for every turn that failed
one error was recorded and one warning said, and before that one error said where the fault was none
that is provided for.  What the queries bring does not depend on the emitter, the metrics or the
shapes. -/
theorem tick_contributions (heeds : Bool) (r : Reporter τ)
    (hflush : r.emitter.sink.beforeFlush = none)
    (hsound : (r.emitter.clear.run ((hear heeds r.bindings r).flatMap Heard.calls)).Sound) :
    let heard := hear heeds r.bindings r
    ∃ r' report, r.tick heeds = (r', .ok report)
      ∧ heard.map Heard.binding <+: r.bindings
      ∧ (heeds = false → heard.map Heard.binding = r.bindings)
      ∧ (∀ r₂ : Reporter τ, SameEar r r₂ →
          r₂.bindings.map Binding.operation = r.bindings.map Binding.operation →
          (hear heeds r₂.bindings r₂).map Heard.answer = heard.map Heard.answer)
      ∧ report.failed = (heard.filter Heard.fails).map Heard.name
      ∧ report.samples = heard.flatMap Heard.samples
      ∧ report.interrupted = decide (heard.length < r.bindings.length)
      ∧ r'.emitter = (r.emitter.run (heard.flatMap Heard.calls ++ [.flush])).clear
      ∧ (heard.flatMap Heard.calls).filterMap Emitter.Call.indicator? =
          (heard.filter Heard.fails).map (fun h => .text h.name)
      ∧ r'.notices = r.notices ++ heard.flatMap (Heard.notices r.patience) := by
  intro heard
  have hbegan : Told [] [] r (r.note (.began r.clock)) := told_note rfl r
  have hheard : hear heeds r.bindings (r.note (.began r.clock)) = heard :=
    hear_congr heeds r.bindings hbegan.ear
  have hwalk := walk_told heeds r.bindings (r.note (.began r.clock)) .empty
    (by rw [hheard]; exact hsound)
  rw [hheard] at hwalk
  obtain ⟨r₁, hwalk, hcalls, hbefore, hsaid⟩ := hwalk
  obtain ⟨e, he⟩ := flush_answers (e := (r₁.note (.flushing r₁.phase)).emitter.clear)
    (hbefore.trans hflush)
  have hperform : (r₁.emitter.clear.perform .flush).1 = e := by
    simp only [Emitter.perform]
    rw [show r₁.emitter.clear.flush = (e, .ok ()) from he]
  have hemitter : e.clear = (r.emitter.run (heard.flatMap Heard.calls ++ [.flush])).clear := by
    have hrun : (r.emitter.run (heard.flatMap Heard.calls)).clear = r₁.emitter.clear := hcalls.symm
    rw [Emitter.run_append, ← Emitter.run_clear_clear, hrun, Emitter.run_singleton, hperform]
  have hnotices := notices_onEmitter (r := r₁.note (.flushing r₁.phase)) hperform
  have hsame : (r.note (.began r.clock)).notices = r.notices :=
    hbegan.notices.trans (List.append_nil _)
  have hindep : ∀ r₂ : Reporter τ, SameEar r r₂ →
      r₂.bindings.map Binding.operation = r.bindings.map Binding.operation →
      (hear heeds r₂.bindings r₂).map Heard.answer = heard.map Heard.answer := by
    intro r₂ hear₂ hbs
    rw [answers_hear heeds hbs r₂, hear_congr heeds r.bindings hear₂]
  unfold tick
  dsimp only
  rw [hwalk]
  dsimp only
  rw [onEmitter_eq he]
  dsimp only
  refine ⟨_, _, rfl, hear_isPrefix heeds r.bindings r, ?_, hindep, rfl, rfl, rfl, ?_,
    indicators_of_heard heard, ?_⟩
  · rintro rfl
    exact hear_all r.bindings r
  · exact (sayCompleted_keeps _ _).1.trans hemitter
  · refine (sayCompleted_keeps _ _).2.trans ?_
    refine (hnotices.trans hsaid).trans ?_
    rw [hsame]
    rfl

/-- Three bindings: the shape of the first raises, the second has a negative point after a good one,
and the third is in order. -/
def threeBindings : List Binding :=
  [⟨.jobOrphanRunning, .orphanRunningJobs, .raises (.outside .value none)⟩,
   ⟨.connectionScheduledLastDay, .scheduledActiveConnectionsLastDay,
    .fixed [⟨.int 1, .null⟩, ⟨.int (-1), .null⟩, ⟨.int 2, .null⟩]⟩,
   ⟨.jobMissedScheduleLastDay, .jobsNotRunningOnScheduleLastDay, .scalar⟩]

/-- A reporter of three bindings, whose sink loses the second sample that it is handed. -/
def lossyReporter : Reporter Rat where
  cadence := 60
  deadline := 30
  bindings := threeBindings
  source := .ready
  playbook := fun _ => .always { takes := 1, sent := .ok (.int 3) }
  emitter := .ofSink {} Emitter.losingSecond
  clock := 0

/-- Two of three bindings fail, one of them after its first sample, and the third contributes. -/
theorem contributions_of_three_bindings :
    let heard := hear true threeBindings lossyReporter
    (lossyReporter.emitter.clear.run (heard.flatMap Heard.calls)).Sound
    ∧ ∃ r' report, lossyReporter.tick true = (r', .ok report)
      ∧ report.failed = ["job_orphan_running", "connection_scheduled_last_day"]
      ∧ report.samples.map (fun s => s.metric.name) =
          ["connection_scheduled_last_day", "job_missed_schedule_last_day"] := by
  intro heard
  have habsorbed : ∀ d ∈ (lossyReporter.emitter.clear.run (heard.flatMap Heard.calls)).deliveries,
      d.isAbsorbed = true := by decide +kernel
  have hfew : (heard.flatMap Heard.calls).length
      + (lossyReporter.emitter.clear.run (heard.flatMap Heard.calls)).deliveries.length
        ≤ twoPow 4 := by decide +kernel
  have hlarge : twoPow 4 ≤ Binary64.largestWhole :=
    Nat.le_trans (twoPow_le (by decide)) Binary64.largestWhole_bounds.1
  have hsound : (lossyReporter.emitter.clear.run (heard.flatMap Heard.calls)).Sound :=
    Emitter.sound_of_absorbed {} Emitter.losingSecond _ habsorbed (Nat.le_trans hfew hlarge)
  have hfailed : (heard.filter Heard.fails).map Heard.name =
      ["job_orphan_running", "connection_scheduled_last_day"] := by decide +kernel
  have hsamples : (heard.flatMap Heard.samples).map (fun s => s.metric.name) =
      ["connection_scheduled_last_day", "job_missed_schedule_last_day"] := by decide +kernel
  obtain ⟨r', report, htick, -, -, -, hf, hs, -⟩ :=
    tick_contributions true lossyReporter rfl hsound
  refine ⟨hsound, r', report, htick, hf.trans hfailed, ?_⟩
  rw [hs]
  exact hsamples

end Reporter
end FleetHealth
