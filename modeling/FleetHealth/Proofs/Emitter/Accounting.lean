import FleetHealth.Emitter.Open
import FleetHealth.Proofs.Emitter.Call

/-!
# Proofs — Emitter — Accounting

The health of a sink is a function of what it raised.  Where samples leave at once, the failures that an emitter counts are the fatal faults since the last delivery (`fatalRun`): a transient fault or a crash neither adds to the run nor ends it.  The emitter is degraded while the run is not empty and disabled once it is as long as the limit, or one where the limit is less than one.

* `Accounted` is the invariant; it also says that every fatal fault has its verdict, in order and with its own count (`verdictsOn`), and that only one of them turned the sink off.
* `health_of_outcomes` is the account after every history.

A failing sample is followed by the report of its tally, which may itself be delivered, fail or complete the run.  The invariant is therefore kept by one sample handed to the sink, and not by one public call.
-/

namespace FleetHealth

namespace SinkEvent

/-- Whether an event is that the sink was turned off. -/
def isTurnedOff : SinkEvent → Bool
  | turnedOff => true
  | _         => false

/-- Whether an event is an entry of a level and a name. -/
def isEntry (level : Log.Level) (event : String) : SinkEvent → Bool
  | said entry => decide (entry.level = level) && entry.event == event
  | _          => false

end SinkEvent

namespace Emitter

/-- Whether a sink raised a fatal fault. -/
def isFatal : Option Fault → Bool
  | some f => decide (f.kind = .sinkFatal)
  | none   => false

/-- The number of fatal faults since the last delivery, of outcomes that stand newest first. -/
def fatalRun : List (Option Fault) → Nat
  | []           => 0
  | none :: _    => 0
  | some f :: os => if f.kind = .sinkFatal then fatalRun os + 1 else fatalRun os

/-- The verdicts that outcomes bring about, both newest first: one on every fatal fault. -/
def verdictsOn (limit : Int) (sink : String) : List (Option Fault) → List SinkEvent
  | []      => []
  | o :: os => verdictAfter limit sink (fatalRun os) o ++ verdictsOn limit sink os

/-- The account that an emitter keeps of its sink agrees with what the sink raised. -/
structure Accounted (e : Emitter) : Prop where
  immediate : e.sink.isImmediate = true
  failures : e.health.failures = fatalRun e.outcomes
  degraded : e.health.degraded = decide (0 < e.health.failures)
  bound : (e.health.failures : Int) ≤ max e.maxFailures 1
  disabled : e.health.disabled = decide ((e.health.failures : Int) = max e.maxFailures 1)
  verdicts : e.verdicts = verdictsOn e.maxFailures e.sink.name e.outcomes
  turnedOff : e.verdicts.countP SinkEvent.isTurnedOff = e.health.disabled.toNat
  saidDisabled : e.verdicts.countP (SinkEvent.isEntry .error "sink.disabled") = e.health.disabled.toNat
  saidDegraded : e.verdicts.countP (SinkEvent.isEntry .warning "sink.degraded")
    + e.health.disabled.toNat = e.outcomes.countP isFatal

theorem accounted_ofSink (o : EmitterOptions) {s : Sink} (hs : s.isImmediate = true) :
    Accounted (ofSink o s) where
  immediate := hs
  failures := rfl
  degraded := rfl
  bound := (Health.within_new o.maxFailures).bound
  disabled := (Health.within_new o.maxFailures).disabled
  verdicts := rfl
  turnedOff := rfl
  saidDisabled := rfl
  saidDegraded := rfl

/-- What hands over no sample and decides nothing leaves the account as it is. -/
theorem Accounted.still {e e' : Emitter} (h : Accounted e) (k : Still e e') : Accounted e' := by
  have ho := outcomes_congr k.deliveries
  constructor
  · rw [k.isImmediate, h.immediate]
  · rw [k.failures, ho, h.failures]
  · rw [k.degraded, k.failures, h.degraded]
  · rw [k.failures, k.maxFailures]
    exact h.bound
  · rw [k.disabled_eq, k.failures, k.maxFailures, h.disabled]
  · rw [k.verdicts, k.maxFailures, k.name, ho, h.verdicts]
  · rw [k.verdicts, k.disabled_eq, h.turnedOff]
  · rw [k.verdicts, k.disabled_eq, h.saidDisabled]
  · rw [k.verdicts, k.disabled_eq, ho, h.saidDegraded]

/-! ### One sample -/

theorem countP_verdictOn_isTurnedOff (limit : Int) (sink : String) (n : Nat) (f : Fault) :
    (verdictOn limit sink n f).countP SinkEvent.isTurnedOff = (decide (limit ≤ n)).toNat := by
  unfold verdictOn
  split
  · next h => rw [decide_eq_true h]; rfl
  · next h => rw [decide_eq_false h]; rfl

theorem countP_verdictOn_disabled (limit : Int) (sink : String) (n : Nat) (f : Fault) :
    (verdictOn limit sink n f).countP (SinkEvent.isEntry .error "sink.disabled") =
      (decide (limit ≤ n)).toNat := by
  unfold verdictOn
  split
  · next h => rw [decide_eq_true h]; rfl
  · next h => rw [decide_eq_false h]; rfl

theorem countP_verdictOn_degraded (limit : Int) (sink : String) (n : Nat) (f : Fault) :
    (verdictOn limit sink n f).countP (SinkEvent.isEntry .warning "sink.degraded")
      + (decide (limit ≤ n)).toNat = 1 := by
  unfold verdictOn
  split
  · next h => rw [decide_eq_true h]; rfl
  · next h => rw [decide_eq_false h]; rfl

theorem Accounted.within {e : Emitter} (h : Accounted e) : e.health.Within e.maxFailures :=
  ⟨h.degraded, h.bound, h.disabled⟩

/-- A sample that was delivered ends the run of failures. -/
theorem Accounted.handed_delivered {e e' : Emitter} {m : Metric} {x : Binary64} {tags : Tags}
    (h : Accounted e) (k : Handed ⟨m, x, tags, none⟩ e e') (hd : e.health.disabled = false)
    (hh : e'.health = e.health.delivered) (hv : e'.verdicts = e.verdicts) : Accounted e' := by
  have hw : e'.health.Within e'.maxFailures := by
    rw [hh]
    exact Health.within_delivered e'.maxFailures hd
  have ho : e'.outcomes = none :: e.outcomes := congrArg (List.map Delivery.outcome) k.deliveries
  have hf : e'.health.failures = 0 := by rw [hh]; rfl
  have hs : e'.health.disabled = e.health.disabled := by rw [hh]; rfl
  constructor
  · rw [k.isImmediate, h.immediate]
  · rw [hf, ho, fatalRun]
  · exact hw.degraded
  · exact hw.bound
  · exact hw.disabled
  · rw [hv, k.maxFailures, k.name, ho, h.verdicts]
    rfl
  · rw [hv, hs, h.turnedOff]
  · rw [hv, hs, h.saidDisabled]
  · rw [hv, hs, ho, h.saidDegraded]
    rfl

/-- A fatal fault makes the run longer, and the one that completes it disables the emitter. -/
theorem Accounted.handed_fatal {e e' : Emitter} {m : Metric} {x : Binary64} {tags : Tags}
    {f : Fault} (h : Accounted e) (k : Handed ⟨m, x, tags, some f⟩ e e')
    (hd : e.health.disabled = false) (hf : f.kind = .sinkFatal)
    (hh : e'.health = e.health.failed e.maxFailures)
    (hv : e'.verdicts =
      verdictOn e.maxFailures e.sink.name (e.health.failures + 1) f ++ e.verdicts) :
    Accounted e' := by
  have hw : e'.health.Within e'.maxFailures := by
    rw [hh, k.maxFailures]
    exact h.within.failed hd
  have ho : e'.outcomes = some f :: e.outcomes := congrArg (List.map Delivery.outcome) k.deliveries
  have hn : e'.health.failures = e.health.failures + 1 := by rw [hh]; rfl
  have hs : e'.health.disabled = decide (e.maxFailures ≤ ((e.health.failures + 1 : Nat) : Int)) := by
    rw [hh]
    simp [Health.failed, hd]
  -- until now the emitter was on, so nothing has turned the sink off
  have ht := h.turnedOff
  have hq := h.saidDisabled
  have hg := h.saidDegraded
  rw [hd] at ht hq hg
  constructor
  · rw [k.isImmediate, h.immediate]
  · rw [hn, ho, fatalRun, if_pos hf, h.failures]
  · exact hw.degraded
  · exact hw.bound
  · exact hw.disabled
  · rw [hv, k.maxFailures, k.name, ho, verdictsOn, verdictAfter, if_pos hf, h.failures, h.verdicts]
  · rw [hv, List.countP_append, countP_verdictOn_isTurnedOff, ht, hs]
    rfl
  · rw [hv, List.countP_append, countP_verdictOn_disabled, hq, hs]
    rfl
  · have hone := countP_verdictOn_degraded e.maxFailures e.sink.name (e.health.failures + 1) f
    have hc : (some f :: e.outcomes).countP isFatal = e.outcomes.countP isFatal + 1 :=
      List.countP_cons_of_pos (decide_eq_true hf)
    rw [hv, List.countP_append, hs, ho, hc, ← hg]
    show _ = _ + 0 + 1
    omega

/-- Any other fault leaves the account of the sink as it is. -/
theorem Accounted.handed_other {e e' : Emitter} {m : Metric} {x : Binary64} {tags : Tags}
    {f : Fault} (h : Accounted e) (k : Handed ⟨m, x, tags, some f⟩ e e') (hf : f.kind ≠ .sinkFatal)
    (hh : e'.health = e.health) (hv : e'.verdicts = e.verdicts) : Accounted e' := by
  have ho : e'.outcomes = some f :: e.outcomes := congrArg (List.map Delivery.outcome) k.deliveries
  have hc : (some f :: e.outcomes).countP isFatal = e.outcomes.countP isFatal :=
    List.countP_cons_of_neg (by simpa [isFatal] using hf)
  constructor
  · rw [k.isImmediate, h.immediate]
  · rw [hh, ho, fatalRun, if_neg hf, h.failures]
  · rw [hh, h.degraded]
  · rw [hh, k.maxFailures]
    exact h.bound
  · rw [hh, k.maxFailures, h.disabled]
  · rw [hv, k.maxFailures, k.name, ho, verdictsOn, verdictAfter, if_neg hf, h.verdicts]
    rfl
  · rw [hv, hh, h.turnedOff]
  · rw [hv, hh, h.saidDisabled]
  · rw [hv, hh, ho, hc, h.saidDegraded]

/-- **One sample handed to the sink keeps the account.** -/
theorem Accounted.attempt {e : Emitter} (h : Accounted e) (hd : e.health.disabled = false)
    (m : Metric) (x : Binary64) (tags : Tags) : Accounted (e.attempt m x tags).1 := by
  have hk := attempt_handed e m x tags
  have hh := attempt_health e m x tags h.immediate
  have hv := attempt_verdicts e m x tags hd
  cases ho : (e.record m x tags).2 with
  | none =>
      rw [ho] at hk hh hv
      exact h.handed_delivered hk hd hh hv
  | some f =>
      rw [ho] at hk hh hv
      by_cases hf : f.kind = .sinkFatal
      · rw [healthAfter, if_pos hf] at hh
        rw [verdictAfter, if_pos hf] at hv
        exact h.handed_fatal hk hd hf hh hv
      · rw [healthAfter, if_neg hf] at hh
        rw [verdictAfter, if_neg hf] at hv
        exact h.handed_other hk hf hh hv

theorem accounted_invariant : Invariant Accounted where
  attempt := by
    intro e m t v d x tags e' a _ hon ha h
    have hd : e.health.disabled = false := (Bool.or_eq_false_iff.mp hon).2
    have hp := h.attempt hd m x (e.tagged tags)
    rwa [ha] at hp
  counted := fun k h => ⟨h.immediate, h.failures, h.degraded, h.bound, h.disabled, h.verdicts,
    h.turnedOff, h.saidDisabled, h.saidDegraded⟩
  flush := fun h => h.still (flush_still h.immediate)
  shutdown := fun h => h.still (shutdown_still h.immediate)

/-! ### Every history -/

/-- The settings of an emitter and the name of its sink stay as they were. -/
theorem settings_invariant (limit : Int) (name : String) :
    Invariant fun e => e.maxFailures = limit ∧ e.sink.name = name where
  attempt := by
    intro e m t v d x tags e' a _ _ ha h
    have hk := attempt_handed e m x (e.tagged tags)
    rw [ha] at hk
    exact ⟨hk.maxFailures.trans h.1, hk.name.trans h.2⟩
  counted := fun _ h => h
  flush := fun {e} h => ⟨(flush_framed e).maxFailures.trans h.1, (flush_framed e).name.trans h.2⟩
  shutdown := fun {e} h =>
    ⟨(shutdown_framed e).maxFailures.trans h.1, (shutdown_framed e).name.trans h.2⟩

/-- A disabled emitter stays disabled. -/
theorem disabled_invariant : Invariant fun e => e.health.disabled = true where
  attempt := by
    intro e m t v d x tags e' a _ _ ha h
    have hk := (attempt_handed e m x (e.tagged tags)).disabled h
    rwa [ha] at hk
  counted := fun _ h => h
  flush := fun {e} h => (flush_framed e).disabled h
  shutdown := fun {e} h => (shutdown_framed e).disabled h

theorem countP_verdicts {p : SinkEvent → Bool} (hp : ∀ ev, p ev = true → ev.isVerdict = true)
    (e : Emitter) : e.journal.countP p = e.verdicts.countP p := by
  rw [verdicts, List.countP_filter]
  refine List.countP_congr fun ev _ => ?_
  simp only [Bool.and_eq_true]
  exact ⟨fun h => ⟨h, hp ev h⟩, fun h => h.1⟩

theorem isVerdict_of_isEntry {level : Log.Level} {event : String} {ev : SinkEvent}
    (h : ev.isEntry level event = true) (he : event = "sink.degraded" ∨ event = "sink.disabled") :
    ev.isVerdict = true := by
  cases ev with
  | said entry =>
      simp only [SinkEvent.isEntry, Bool.and_eq_true, beq_iff_eq] at h
      simp only [SinkEvent.isVerdict, Bool.or_eq_true, beq_iff_eq, h.2]
      exact he
  | _ => cases h

/-- **The health of a sink, from what it raised.**  After every history of public calls on a sink that
keeps no sample back: the failures are the fatal faults since the last delivery; the emitter is
degraded exactly when there are any, and disabled exactly when they are as many as the limit, or one;
once disabled it stays so; the sink was turned off, and said to be disabled, once if it is and never
otherwise; every other fatal fault has its warning; and the verdicts are, in order, those that the
outcomes bring about. -/
theorem health_of_outcomes (o : EmitterOptions) (s : Sink) (hs : s.isImmediate = true)
    (calls : List Call) :
    let e := (ofSink o s).run calls
    e.health.failures = fatalRun e.outcomes
    ∧ (e.health.degraded = true ↔ 0 < e.health.failures)
    ∧ (e.health.disabled = true ↔ (e.health.failures : Int) = max o.maxFailures 1)
    ∧ (∀ more, e.health.disabled = true → (e.run more).health.disabled = true)
    ∧ e.journal.countP SinkEvent.isTurnedOff = e.health.disabled.toNat
    ∧ e.journal.countP (SinkEvent.isEntry .error "sink.disabled") = e.health.disabled.toNat
    ∧ e.journal.countP (SinkEvent.isEntry .warning "sink.degraded") + e.health.disabled.toNat
        = e.outcomes.countP isFatal
    ∧ e.verdicts = verdictsOn o.maxFailures s.name e.outcomes := by
  intro e
  have h : Accounted e := accounted_invariant.run (accounted_ofSink o hs) calls
  obtain ⟨hm, hn⟩ := (settings_invariant o.maxFailures s.name).run (e := ofSink o s) ⟨rfl, rfl⟩ calls
  have hm : e.maxFailures = o.maxFailures := hm
  have hn : e.sink.name = s.name := hn
  refine ⟨h.failures, ?_, ?_, ?_, ?_, ?_, ?_, ?_⟩
  · rw [h.degraded, decide_eq_true_eq]
  · rw [h.disabled, decide_eq_true_eq, hm]
  · intro more hd
    exact disabled_invariant.run hd more
  · rw [countP_verdicts (fun ev hev => by cases ev <;> first | rfl | cases hev), h.turnedOff]
  · rw [countP_verdicts (fun ev hev => isVerdict_of_isEntry hev (.inr rfl)), h.saidDisabled]
  · rw [countP_verdicts (fun ev hev => isVerdict_of_isEntry hev (.inl rfl)), h.saidDegraded]
  · rw [h.verdicts, hm, hn]

/-- A sink that delivers one sample and then fails. -/
def failingLater : Sink :=
  .rehearsal { deliveries := ⟨[none], some (.outside .sinkFatal none)⟩ }

/-- Two samples of one metric. -/
def twoSamples : List Call :=
  [.sample .gauge .jobOrphanRunning (.int 1) .null, .sample .gauge .jobOrphanRunning (.int 1) .null]

/-- The second sample and the report of its loss complete a run of two. -/
theorem health_of_two_samples :
    let e := (ofSink ⟨none, 2⟩ failingLater).run twoSamples
    failingLater.isImmediate = true
    ∧ fatalRun e.outcomes = 2
    ∧ (e.health.failures : Int) = max 2 1
    ∧ e.health.disabled = true
    ∧ (∀ more, (e.run more).health.disabled = true)
    ∧ e.journal.countP SinkEvent.isTurnedOff = 1
    ∧ e.journal.countP (SinkEvent.isEntry .warning "sink.degraded") + 1 = 2 := by
  intro e
  have hd : e.health.disabled = true := by decide +kernel
  have hc : e.outcomes.countP isFatal = 2 := by decide +kernel
  obtain ⟨hf, -, hl, hm, ht, -, hw, -⟩ :=
    health_of_outcomes ⟨none, 2⟩ failingLater rfl twoSamples
  have hl : (e.health.failures : Int) = 2 := hl.mp hd
  refine ⟨rfl, ?_, hl, hd, fun more => hm more hd, ?_, ?_⟩
  · have hf : e.health.failures = fatalRun e.outcomes := hf
    omega
  · have ht : e.journal.countP SinkEvent.isTurnedOff = e.health.disabled.toNat := ht
    rw [ht, hd]
    rfl
  · have hw : _ + e.health.disabled.toNat = e.outcomes.countP isFatal := hw
    rw [hd, hc] at hw
    exact hw

end Emitter
end FleetHealth
