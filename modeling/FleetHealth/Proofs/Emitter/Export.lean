import FleetHealth.Emitter.Open
import FleetHealth.Proofs.Emitter.Call
import FleetHealth.Proofs.Sink.Provider
import FleetHealth.Proofs.Sink.Relay

/-!
# Proofs — Emitter — Export

The health of an export pipeline is a function of how its exports ended.  A sample leaves nothing behind but a record of it, so no sample says anything about the health of the sink; an export does, whether a flush, a shutdown or the pipeline's own clock asked for it.  When the provider exports, how often and what, is the provider's affair: a plan is followed call by call, each a call of the pipeline's relay whose contacts the emitter heeds, and every call keeps the account.  Exports are what reached the collector, newest first.

* `Exporting` is the invariant: the failures are the failed exports since the last that succeeded, and the relay lets batches leave exactly while the emitter is not disabled.
* `follow_continues`: it is kept along every plan, whatever the provider does.
* `follow_shut`: a plan that shuts the exporter down so many times is seen to do so.
* `live` is a history of public calls with collections of the pipeline's own anywhere between them.
* `health_of_exports` is the account after every such history.

The export that completes the run of failures closes the relay before anything else can happen.  A shutdown flushes first, so an export of that flush may be the one that disables the emitter; then the provider is shut down over a closed relay, which passes the shutdown on all the same.
-/

namespace FleetHealth

/-- Whether an export failed: the collector refused the batch, or a fault was raised. -/
def ExportOutcome.isFailed : ExportOutcome → Bool
  | success => false
  | _       => true

namespace SinkEvent

/-- How an export ended, where an event is one. -/
def export? : SinkEvent → Option ExportOutcome
  | exporter (.batch _ o) => some o
  | _                     => none

/-- Whether an event is that the exporter was shut down. -/
def isExporterShutdown : SinkEvent → Bool
  | exporter .shutdown => true
  | _                  => false

end SinkEvent

namespace Emitter

/-- How the exports ended that reached the collector, newest first. -/
def exports (e : Emitter) : List ExportOutcome := e.journal.filterMap SinkEvent.export?

/-- How often the exporter was shut down. -/
def exporterShutdowns (e : Emitter) : Nat := e.journal.countP SinkEvent.isExporterShutdown

/-- The number of failed exports since the last that succeeded, of exports that stand newest first. -/
def failedRun (exports : List ExportOutcome) : Nat :=
  (exports.takeWhile ExportOutcome.isFailed).length

/-- The account that an emitter keeps of its exports agrees with how they ended, and the relay lets
batches leave exactly while the emitter is not disabled. -/
structure Exporting (e : Emitter) : Prop where
  gate : ∃ p, e.sink = .otlp p ∧ p.relay.isOpen = !e.health.disabled
  failures : e.health.failures = failedRun e.exports
  degraded : e.health.degraded = decide (0 < e.health.failures)
  bound : (e.health.failures : Int) ≤ max e.maxFailures 1
  disabled : e.health.disabled = decide ((e.health.failures : Int) = max e.maxFailures 1)

theorem Exporting.disabled_eq {e : Emitter} {p : Pipeline} (h : Exporting e)
    (hs : e.sink = .otlp p) : e.health.disabled = !p.relay.isOpen := by
  obtain ⟨q, hq, hgate⟩ := h.gate
  obtain rfl := Sink.otlp.inj (hs.symm.trans hq)
  rw [hgate, Bool.not_not]

/-! ### Between exports -/

/-- `e'` came of `e` without an export, and batches may leave as before. -/
structure Idle (e e' : Emitter) : Prop where
  sink : ∀ p, e.sink = .otlp p → ∃ p', e'.sink = .otlp p' ∧ p'.relay.isOpen = p.relay.isOpen
  maxFailures : e'.maxFailures = e.maxFailures
  failures : e'.health.failures = e.health.failures
  degraded : e'.health.degraded = e.health.degraded
  disabled : e'.health.disabled = e.health.disabled
  exports : e'.exports = e.exports

theorem Idle.refl (e : Emitter) : Idle e e :=
  ⟨fun p hp => ⟨p, hp, rfl⟩, rfl, rfl, rfl, rfl, rfl⟩

theorem Idle.trans {e₁ e₂ e₃ : Emitter} (h : Idle e₁ e₂) (k : Idle e₂ e₃) : Idle e₁ e₃ where
  sink := fun p hp => by
    obtain ⟨p₂, hp₂, hx₂⟩ := h.sink p hp
    obtain ⟨p₃, hp₃, hx₃⟩ := k.sink p₂ hp₂
    exact ⟨p₃, hp₃, hx₃.trans hx₂⟩
  maxFailures := k.maxFailures.trans h.maxFailures
  failures := k.failures.trans h.failures
  degraded := k.degraded.trans h.degraded
  disabled := k.disabled.trans h.disabled
  exports := k.exports.trans h.exports

theorem Exporting.idle {e e' : Emitter} (h : Exporting e) (k : Idle e e') : Exporting e' where
  gate := by
    obtain ⟨p, hs, ho⟩ := h.gate
    obtain ⟨p', hs', ho'⟩ := k.sink p hs
    exact ⟨p', hs', by rw [ho', k.disabled, ho]⟩
  failures := by rw [k.failures, k.exports, h.failures]
  degraded := by rw [k.degraded, k.failures, h.degraded]
  bound := by rw [k.failures, k.maxFailures]; exact h.bound
  disabled := by rw [k.disabled, k.failures, k.maxFailures, h.disabled]

/-! ### One export -/

/-- `e'` came of an exporting `e`: the account is kept, and once disabled nothing is exported. -/
structure Continues (e e' : Emitter) : Prop where
  exporting : Exporting e'
  maxFailures : e'.maxFailures = e.maxFailures
  disabled : e.health.disabled = true → e'.health.disabled = true
  exports : e.health.disabled = true → e'.exports = e.exports

theorem Continues.refl {e : Emitter} (h : Exporting e) : Continues e e := ⟨h, rfl, id, fun _ => rfl⟩

theorem Continues.trans {e₁ e₂ e₃ : Emitter} (h : Continues e₁ e₂) (k : Continues e₂ e₃) :
    Continues e₁ e₃ where
  exporting := k.exporting
  maxFailures := k.maxFailures.trans h.maxFailures
  disabled := k.disabled ∘ h.disabled
  exports := fun hd => (k.exports (h.disabled hd)).trans (h.exports hd)

theorem Idle.continues {e e' : Emitter} (k : Idle e e') (h : Exporting e) : Continues e e' where
  exporting := h.idle k
  maxFailures := k.maxFailures
  disabled := fun hd => k.disabled.trans hd
  exports := fun _ => k.exports

theorem idle_note {ev : SinkEvent} (h : ev.export? = none) (e : Emitter) : Idle e (e.note ev) :=
  { Idle.refl e with exports := List.filterMap_cons_none h }

theorem idle_pipeline {e : Emitter} {p p' : Pipeline} (hs : e.sink = .otlp p)
    (ho : p'.relay.isOpen = p.relay.isOpen) : Idle e { e with sink := .otlp p' } :=
  { Idle.refl e with
    sink := fun q hq => by
      cases hs.symm.trans hq
      exact ⟨p', rfl, ho⟩ }

theorem idle_absorb (e : Emitter) (event : String) (o : Option Fault) :
    Idle e (e.absorb event o) := by
  cases o with
  | none => exact .refl e
  | some f => exact idle_note rfl e

theorem idle_close (e : Emitter) : Idle e e.close := { Idle.refl e with }

theorem Exporting.within {e : Emitter} (h : Exporting e) : e.health.Within e.maxFailures :=
  ⟨h.degraded, h.bound, h.disabled⟩

/-- `e'` came of `e` by a batch that reached the collector, and that no account has been kept of yet. -/
structure Exported (o : ExportOutcome) (e e' : Emitter) : Prop where
  gate : ∃ p, e'.sink = .otlp p ∧ p.relay.isOpen = true
  maxFailures : e'.maxFailures = e.maxFailures
  health : e'.health = e.health
  exports : e'.exports = o :: e.exports

theorem noteFatal_exports (e : Emitter) (f : Fault) : (e.noteFatal f).exports = e.exports :=
  noteFatal_cases (P := fun e' => e'.exports = _) e f (fun _ _ => rfl) (fun _ => rfl)

/-- The fatal fault that completes the run turns the sink off, and no other does. -/
theorem noteFatal_sink (e : Emitter) (f : Fault) (hd : e.health.disabled = false) :
    (e.noteFatal f).sink =
      if e.maxFailures ≤ ((e.health.failures + 1 : Nat) : Int) then e.sink.turnOff else e.sink := by
  have hlimit := failed_disabled hd
  refine noteFatal_cases (P := fun e' => e'.sink = _) e f (fun _ h => ?_) (fun h => ?_)
  · rw [hlimit, decide_eq_true_eq] at h
    rw [if_pos h]
    rfl
  · rw [hd, hlimit, decide_eq_false_iff_not] at h
    rw [if_neg (h.resolve_left Bool.false_ne_true)]
    rfl

namespace Exported

variable {o : ExportOutcome} {e e' : Emitter} (k : Exported o e e')
include k

/-- An export that succeeded ends the run of failures. -/
theorem succeeded (ho : o.isFailed = false) (hd : e.health.disabled = false) :
    Exporting e'.noteDelivery := by
  have hd' : e'.noteDelivery.health.disabled = false := by
    rw [← hd, ← k.health]
    rfl
  have hrun : failedRun e'.noteDelivery.exports = 0 := by
    rw [show e'.noteDelivery.exports = o :: e.exports from k.exports, failedRun,
      List.takeWhile_cons_of_neg (by rw [ho]; exact Bool.false_ne_true)]
    rfl
  have hw : e'.noteDelivery.health.Within e'.noteDelivery.maxFailures :=
    Health.within_delivered e'.maxFailures hd'
  constructor
  · obtain ⟨p, hs, hopen⟩ := k.gate
    exact ⟨p, hs, by rw [hopen, hd']; rfl⟩
  · exact hrun.symm
  · exact hw.degraded
  · exact hw.bound
  · exact hw.disabled

/-- An export that failed makes the run longer, and the one that completes it closes the relay. -/
theorem failed (h : Exporting e) (ho : o.isFailed = true) (hd : e.health.disabled = false)
    (f : Fault) : Exporting (e'.noteFatal f) := by
  have hw : (e'.noteFatal f).health.Within (e'.noteFatal f).maxFailures := by
    rw [noteFatal_health, noteFatal_maxFailures, k.health, k.maxFailures]
    exact h.within.failed hd
  have hd' : e'.health.disabled = false := by rw [k.health, hd]
  have hn : (e'.noteFatal f).health.failures = e.health.failures + 1 := by
    rw [noteFatal_health, k.health]
    rfl
  have hs : (e'.noteFatal f).health.disabled =
      decide (e.maxFailures ≤ ((e.health.failures + 1 : Nat) : Int)) := by
    rw [noteFatal_health, k.health, k.maxFailures]
    simp [Health.failed, hd]
  constructor
  · obtain ⟨p, hp, hopen⟩ := k.gate
    have hsink := noteFatal_sink e' f hd'
    rw [k.maxFailures, k.health, hp] at hsink
    rw [hs]
    by_cases hl : e.maxFailures ≤ ((e.health.failures + 1 : Nat) : Int)
    · rw [if_pos hl] at hsink
      exact ⟨_, hsink, by rw [decide_eq_true hl]; rfl⟩
    · rw [if_neg hl] at hsink
      exact ⟨_, hsink, by rw [decide_eq_false hl, hopen]; rfl⟩
  · rw [hn, noteFatal_exports, k.exports, failedRun, List.takeWhile_cons_of_pos ho, h.failures]
    rfl
  · exact hw.degraded
  · exact hw.bound
  · exact hw.disabled

/-- **One export keeps the account.** -/
theorem account (h : Exporting e) (hd : e.health.disabled = false) :
    Exporting (e'.noteExport o.report) := by
  cases o with
  | success => exact k.succeeded rfl hd
  | failure => exact k.failed h rfl hd _
  | raised f => exact k.failed h rfl hd f

end Exported

/-! ### One call of the exporter -/

/-- **A call that the provider makes of its exporter.**  A batch that comes to a closed relay goes
nowhere; one that comes to an open relay reaches the collector, and an account is kept of it; a flush and
a shutdown are passed on. -/
theorem callExporter_cases {P : Emitter → Prop} {e : Emitter} {p : Pipeline} (hs : e.sink = .otlp p)
    (c : Relay.Call)
    (kept : ∀ s relay a, c = .ship s → p.relay.isOpen = false → relay.isOpen = false →
      P { e with sink := .otlp ({ p with relay := relay }.note (.answered c a)) })
    (shipped : ∀ s relay a o, c = .ship s → p.relay.isOpen = true → relay.isOpen = true →
      P (({ e with sink := .otlp ({ p with relay := relay }.note (.answered c a)) }.note
        (.exporter (.batch s.metrics o))).noteExport o.report))
    (passed : ∀ relay a ev, (ev = .forceFlush ∧ (∃ t, c = .flush t)
        ∨ ev = .shutdown ∧ ∃ t options, c = .shutdown t options) →
      relay.isOpen = p.relay.isOpen →
      P ({ e with sink := .otlp ({ p with relay := relay }.note (.answered c a)) }.note
        (.exporter ev))) :
    P (e.callExporter c).1 := by
  unfold callExporter
  rw [hs]
  cases c with
  | ship s =>
      cases ho : p.relay.isOpen with
      | false =>
          dsimp only [Relay.perform]
          rw [Relay.ship_closed ho]
          exact kept s _ _ rfl ho ho
      | true =>
          dsimp only [Relay.perform]
          rw [Relay.ship_open ho]
          exact shipped s _ _ _ rfl ho ho
  | flush t => exact passed _ _ _ (.inl ⟨rfl, t, rfl⟩) rfl
  | shutdown t options => exact passed _ _ _ (.inr ⟨rfl, t, options, rfl⟩) rfl

/-- **One call of the exporter** keeps the account. -/
theorem callExporter_continues {e : Emitter} (h : Exporting e) (c : Relay.Call) :
    Continues e (e.callExporter c).1 := by
  obtain ⟨p, hs, -⟩ := h.gate
  have hlimit := (motions_framed (callExporter_motions e c)).maxFailures
  revert hlimit
  refine callExporter_cases (P := fun e' => e'.maxFailures = e.maxFailures → Continues e e') hs c
    ?kept ?shipped ?passed
  case kept =>
    intro s relay a _ hclosed ho _
    exact (idle_pipeline hs (ho.trans hclosed.symm)).continues h
  case shipped =>
    intro s relay a o _ hopen ho hlimit
    -- the relay is open, so the emitter is not disabled yet
    have hd : e.health.disabled = false := by
      rw [h.disabled_eq hs, hopen]
      rfl
    have hk : Exported o e ({ e with
          sink := .otlp ({ p with relay := relay }.note (.answered c a)) }.note
        (.exporter (.batch s.metrics o))) :=
      ⟨⟨_, rfl, ho⟩, rfl, rfl, rfl⟩
    refine ⟨hk.account h hd, hlimit, fun hd' => ?_, fun hd' => ?_⟩
    all_goals
      rw [hd] at hd'
      cases hd'
  case passed =>
    intro relay a ev hev ho _
    have hno : (SinkEvent.exporter ev).export? = none := by
      rcases hev with ⟨rfl, -⟩ | ⟨rfl, -⟩ <;> rfl
    exact ((idle_pipeline hs ho).trans (idle_note hno _)).continues h

theorem noteExport_exports (e : Emitter) (o : Option Fault) : (e.noteExport o).exports = e.exports := by
  cases o with
  | none => rfl
  | some f => exact noteFatal_exports e f

/-- **A batch that is shipped** reaches the collector while the emitter is not disabled, and only then. -/
theorem callExporter_ship {e : Emitter} (h : Exporting e) (s : Relay.Shipment) :
    ∃ o, (e.callExporter (.ship s)).1.exports =
      if e.health.disabled then e.exports else o :: e.exports := by
  obtain ⟨p, hs, -⟩ := h.gate
  rw [h.disabled_eq hs]
  refine callExporter_cases
    (P := fun e' => ∃ o, e'.exports = if !p.relay.isOpen then e.exports else o :: e.exports) hs
    (.ship s) ?kept ?shipped ?passed
  case kept =>
    intro _ relay a _ hclosed _
    rw [hclosed]
    exact ⟨.success, rfl⟩
  case shipped =>
    intro _ relay a o _ hopen _
    rw [hopen]
    exact ⟨o, noteExport_exports _ _⟩
  case passed =>
    rintro relay a ev (⟨-, t, ht⟩ | ⟨-, t, options, ht⟩) _
    · cases ht
    · cases ht

/-- **Every plan** keeps the account, whatever the provider does. -/
theorem follow_continues (plan : Plan) {e : Emitter} (h : Exporting e) :
    Continues e (follow plan e).1 := by
  -- on the plan: however a call is answered, what follows starts from an account that was kept
  induction plan generalizing e with
  | done raised => exact .refl h
  | call c next ih =>
      have hc := callExporter_continues h c
      exact hc.trans (ih _ hc.exporting)

theorem ask_continues {e : Emitter} (h : Exporting e) (r : Provider.Request) :
    Continues e (e.ask r).1 := by
  obtain ⟨p, hs, -⟩ := h.gate
  have hidle : Idle e { e with sink := .otlp (p.note (.asked r)) } := idle_pipeline hs rfl
  have hasked := hidle.continues h
  unfold ask
  rw [hs]
  exact hasked.trans (follow_continues _ hasked.exporting)

/-! ### The shutdown of the exporter -/

/-- A pipeline is another later: its provider is the same, and was not asked to shut down since. -/
structure Later (p p' : Pipeline) : Prop where
  provider : p'.provider = p.provider
  past : .asked .shutdown ∈ p'.past → .asked .shutdown ∈ p.past

/-- `e'` came of `e` with so many shutdowns of the exporter, of which none was asked for since. -/
structure Shut (n : Nat) (e e' : Emitter) : Prop where
  pipeline : ∀ p, e.sink = .otlp p → ∃ p', e'.sink = .otlp p' ∧ Later p p'
  closed : e'.health.closed = e.health.closed
  shutdowns : e'.exporterShutdowns = e.exporterShutdowns + n

theorem Later.refl (p : Pipeline) : Later p p := ⟨rfl, id⟩

theorem later_note {m : Provider.Moment} (h : m ≠ .asked .shutdown) (p : Pipeline) (relay : Relay) :
    Later p ({ p with relay := relay }.note m) where
  provider := rfl
  past := fun hm => (List.mem_cons.mp hm).resolve_left h.symm

theorem Shut.refl (e : Emitter) : Shut 0 e e := ⟨fun p hp => ⟨p, hp, .refl p⟩, rfl, rfl⟩

theorem Shut.trans {m n : Nat} {e₁ e₂ e₃ : Emitter} (h : Shut m e₁ e₂) (k : Shut n e₂ e₃) :
    Shut (m + n) e₁ e₃ where
  pipeline := fun p hp => by
    obtain ⟨p₂, hp₂, hl₂⟩ := h.pipeline p hp
    obtain ⟨p₃, hp₃, hl₃⟩ := k.pipeline p₂ hp₂
    exact ⟨p₃, hp₃, hl₃.provider.trans hl₂.provider, hl₂.past ∘ hl₃.past⟩
  closed := k.closed.trans h.closed
  shutdowns := by rw [k.shutdowns, h.shutdowns, Nat.add_assoc]

theorem shut_note {ev : SinkEvent} (h : ev.isExporterShutdown = false) (e : Emitter) :
    Shut 0 e (e.note ev) :=
  { Shut.refl e with
    shutdowns := List.countP_cons_of_neg (by rw [h]; exact Bool.false_ne_true) }

theorem shut_pipeline {e : Emitter} {p p' : Pipeline} (hs : e.sink = .otlp p) (h : Later p p') :
    Shut 0 e { e with sink := .otlp p' } :=
  { Shut.refl e with
    pipeline := fun q hq => by
      cases hs.symm.trans hq
      exact ⟨p', rfl, h⟩ }

theorem shut_absorb (e : Emitter) (event : String) (o : Option Fault) :
    Shut 0 e (e.absorb event o) := by
  cases o with
  | none => exact .refl e
  | some f => exact shut_note rfl e

theorem shut_noteExport (e : Emitter) (o : Option Fault) : Shut 0 e (e.noteExport o) := by
  cases o with
  | none => exact { Shut.refl e with }
  | some f =>
      refine noteFatal_cases (P := Shut 0 e) e f (fun _ _ => ⟨fun q hq => ?_, rfl, rfl⟩)
        fun _ => { Shut.refl e with }
      have hoff : e.sink.turnOff = .otlp { q with relay := { q.relay with isOpen := false } } := by
        rw [hq]
        rfl
      exact ⟨_, hoff, rfl, id⟩

/-- **One call of the exporter** is seen to shut it down, or does not. -/
theorem callExporter_shut {e : Emitter} {p : Pipeline} (hs : e.sink = .otlp p) (c : Relay.Call) :
    Shut c.isShutdown.toNat e (e.callExporter c).1 := by
  have hl : ∀ relay a, Shut 0 e
      { e with sink := .otlp ({ p with relay := relay }.note (.answered c a)) } := fun relay a =>
    shut_pipeline hs (later_note (m := .answered c a) nofun p relay)
  refine callExporter_cases (P := Shut _ e) hs c ?kept ?shipped ?passed
  case kept =>
    rintro s relay a rfl - -
    exact hl relay a
  case shipped =>
    rintro s relay a o rfl - -
    exact ((hl relay a).trans (shut_note rfl _)).trans (shut_noteExport _ _)
  case passed =>
    rintro relay a ev (⟨rfl, t, rfl⟩ | ⟨rfl, t, options, rfl⟩) -
    · exact (hl relay a).trans (shut_note rfl _)
    · exact { hl relay a with shutdowns := List.countP_cons_of_pos rfl }

/-- **A plan** that shuts the exporter down so many times is seen to do so, however it is answered. -/
theorem follow_shut {n : Nat} {plan : Plan} (h : plan.Shuts n) {e : Emitter} {p : Pipeline}
    (hs : e.sink = .otlp p) : Shut n e (follow plan e).1 := by
  induction h generalizing e p with
  | done raised => exact .refl e
  | call c _ ih =>
      have hc := callExporter_shut hs c
      obtain ⟨p', hs', -⟩ := hc.pipeline p hs
      exact hc.trans (ih (e.callExporter c).2 hs')

/-- What is asked of a provider is a plan of its own, followed with that noted. -/
theorem ask_eq {e : Emitter} {p : Pipeline} (hs : e.sink = .otlp p) (r : Provider.Request) :
    e.ask r = follow (p.provider.plan p.past r) { e with sink := .otlp (p.note (.asked r)) } := by
  rw [ask, hs]

/-- The provider of a pipeline keeps to the law; it was not asked to shut down before the emitter was
closed, and since then its exporter was shut down, once. -/
structure Released (e : Emitter) : Prop where
  provider : ∃ p, e.sink = .otlp p ∧ p.provider.Lawful
    ∧ (e.health.closed = false → .asked .shutdown ∉ p.past)
  shutdowns : e.exporterShutdowns = e.health.closed.toNat

theorem Released.shut {e e' : Emitter} (h : Released e) (k : Shut 0 e e') : Released e' where
  provider := by
    obtain ⟨p, hs, hlaw, hpast⟩ := h.provider
    obtain ⟨p', hs', hl⟩ := k.pipeline p hs
    refine ⟨p', hs', hl.provider ▸ hlaw, fun hc => ?_⟩
    exact hpast (k.closed.symm.trans hc) ∘ hl.past
  shutdowns := by rw [k.shutdowns, k.closed, h.shutdowns, Nat.add_zero]

/-- A request that is no shutdown leaves the exporter running. -/
theorem ask_shut {e : Emitter} (h : Released e) {r : Provider.Request} (hr : r ≠ .shutdown) :
    Shut 0 e (e.ask r).1 := by
  obtain ⟨p, hs, hlaw, -⟩ := h.provider
  have hasked : Shut 0 e { e with sink := .otlp (p.note (.asked r)) } :=
    shut_pipeline hs (later_note (by simpa using hr) p p.relay)
  have hplan : (p.provider.plan p.past r).Shuts 0 := by
    cases r with
    | flush t => exact hlaw.flush p.past t
    | collection => exact hlaw.collection p.past
    | shutdown => exact absurd rfl hr
  rw [ask_eq hs]
  exact hasked.trans (follow_shut hplan rfl)

/-- The shutdown of the provider of an emitter that was just closed shuts its exporter down. -/
theorem ask_shutdown {e : Emitter} (h : Released e) (hc : e.health.closed = false) :
    Released (e.close.ask .shutdown).1 := by
  obtain ⟨p, hs, hlaw, hpast⟩ := h.provider
  have hs' : e.close.sink = .otlp p := hs
  have hfollow := follow_shut (hlaw.shutdown p.past (hpast hc))
    (e := { e.close with sink := .otlp (p.note (.asked .shutdown)) }) rfl
  obtain ⟨p', hp', hl⟩ := hfollow.pipeline _ rfl
  -- the emitter is closed by now, so nothing is said of whether a shutdown was asked for
  rw [ask_eq hs']
  refine ⟨⟨p', hp', hl.provider ▸ hlaw, fun ho => nomatch hfollow.closed.symm.trans ho⟩, ?_⟩
  rw [hfollow.shutdowns, hfollow.closed]
  exact congrArg (· + 1) (h.shutdowns.trans (congrArg Bool.toNat hc))

/-! ### Flush and shutdown -/

/-- **A flush** of a pipeline, unless the emitter is off, is asked of the provider, and never raises. -/
theorem flush_exports {e : Emitter} (h : Exporting e) :
    Continues e e.flush.1 ∧ e.flush.2 = .ok () ∧ (Released e → Shut 0 e e.flush.1) := by
  obtain ⟨p, hs, -⟩ := h.gate
  have hprelude : e.prelude = (e, none) := by rw [prelude, hs]
  refine flush_cases (P := fun r => Continues e r.1 ∧ r.2 = .ok () ∧ (Released e → Shut 0 e r.1)) e
    ?refused ?left ?done
  case refused =>
    intro f hf
    rw [hprelude] at hf
    cases hf
  case left =>
    intro _ _
    rw [hprelude]
    exact ⟨.refl h, rfl, fun _ => .refl e⟩
  case done =>
    intro _ _
    have hhook : e.flushHook = ((e.ask (.flush p.flushTimeout)).1.note
        (.flushed (e.ask (.flush p.flushTimeout)).2), (e.ask (.flush p.flushTimeout)).2) := by
      rw [flushHook, hs]
    have hasked := ask_continues h (.flush p.flushTimeout)
    rw [hprelude, flushed, hhook]
    refine ⟨hasked.trans (((idle_note rfl _).trans (idle_absorb _ _ _)).continues hasked.exporting),
      rfl, fun hr => ?_⟩
    have hnote : Shut 0 (e.ask (.flush p.flushTimeout)).1 ((e.ask (.flush p.flushTimeout)).1.note
        (.flushed (e.ask (.flush p.flushTimeout)).2)) := shut_note rfl _
    exact (ask_shut hr (r := .flush p.flushTimeout) nofun).trans (hnote.trans (shut_absorb _ _ _))

/-- **The release** of an emitter that was just closed is asked of the provider. -/
theorem released_exports {e : Emitter} (h : Exporting e) :
    Continues e e.close.released
      ∧ (Released e → e.health.closed = false → Released e.close.released) := by
  obtain ⟨p, hs, -⟩ := h.gate
  have hhook : e.close.releaseHook = ((e.close.ask .shutdown).1.note
      (.released (e.close.ask .shutdown).2), (e.close.ask .shutdown).2) := by
    rw [releaseHook, show e.close.sink = .otlp p from hs]
  have hclosed := (idle_close e).continues h
  have hasked := ask_continues hclosed.exporting .shutdown
  rw [released, hhook]
  -- what was raised over the shutdown is absorbed, and the farewell said
  refine ⟨(hclosed.trans hasked).trans (Idle.continues ?_ hasked.exporting), fun hr hc => ?_⟩
  · exact ((idle_note rfl _).trans (idle_absorb _ _ _)).trans (idle_note rfl _)
  · exact (ask_shutdown hr hc).shut
      (((shut_note rfl _).trans (shut_absorb _ _ _)).trans (shut_note rfl _))

/-- **A shutdown** never raises; whatever the provider makes of it, the emitter is closed. -/
theorem shutdown_exports {e : Emitter} (h : Exporting e) :
    Continues e e.shutdown.1 ∧ (Released e → Released e.shutdown.1)
      ∧ e.shutdown.1.health.closed = true := by
  obtain ⟨hf, hanswer, hshut⟩ := flush_exports h
  refine shutdown_cases (P := fun r => Continues e r.1 ∧ (Released e → Released r.1)
    ∧ r.1.health.closed = true) e ?closed ?refused ?done
  case closed =>
    intro hclosed
    exact ⟨.refl h, id, hclosed⟩
  case refused =>
    intro f _ hraised
    cases hanswer.symm.trans hraised
  case done =>
    intro hc _
    obtain ⟨hk, hrel⟩ := released_exports hf.exporting
    refine ⟨hf.trans hk, fun hr => ?_, (released_framed _).closed rfl⟩
    exact hrel (hr.shut (hshut hr)) ((hshut hr).closed.trans hc)

/-! ### Samples -/

/-- What a pipeline raises over a sample is none of the faults that an emitter absorbs. -/
theorem pipeline_record_fault {p : Pipeline} {m : Metric} {x : Binary64} {tags : Tags} {f : Fault}
    (h : (p.record m x tags).2 = some f) : f.kind ≠ .sinkTransient ∧ f.kind ≠ .sinkFatal := by
  unfold Pipeline.record at h
  split at h
  · obtain rfl := Option.some.inj h
    exact ⟨nofun, nofun⟩
  · split at h
    · cases h
    · obtain rfl := Option.some.inj h
      exact ⟨nofun, nofun⟩

/-- The hook of a pipeline only takes the sample down. -/
theorem record_pipeline {e : Emitter} {p : Pipeline} (hs : e.sink = .otlp p) (m : Metric)
    (x : Binary64) (tags : Tags) :
    e.record m x tags =
      ({ e with sink := .otlp (p.record m x tags).1 }.note (.recorded m x tags (p.record m x tags).2),
        (p.record m x tags).2) := by
  unfold record
  rw [hs]
  rfl

theorem pipeline_record_keeps (p : Pipeline) (m : Metric) (x : Binary64) (tags : Tags) :
    (p.record m x tags).1.relay = p.relay ∧ Later p (p.record m x tags).1 := by
  unfold Pipeline.record
  split
  · exact ⟨rfl, .refl p⟩
  · split
    · exact ⟨rfl, later_note (m := .recorded _ x tags) nofun p p.relay⟩
    · exact ⟨rfl, .refl p⟩

/-- **A sample says nothing of the health of a pipeline.** -/
theorem attempt_idle {e : Emitter} {p : Pipeline} (hs : e.sink = .otlp p) (m : Metric)
    (x : Binary64) (tags : Tags) :
    Idle e (e.attempt m x tags).1 ∧ Shut 0 e (e.attempt m x tags).1 := by
  obtain ⟨hrelay, hlater⟩ := pipeline_record_keeps p m x tags
  have hrecord : Idle e (e.record m x tags).1 ∧ Shut 0 e (e.record m x tags).1 := by
    rw [record_pipeline hs]
    exact ⟨(idle_pipeline hs (congrArg (fun r : Relay => r.isOpen) hrelay)).trans (idle_note rfl _),
      (shut_pipeline hs hlater).trans (shut_note rfl _)⟩
  have hfault : ∀ f, (e.record m x tags).2 = some f →
      f.kind ≠ .sinkTransient ∧ f.kind ≠ .sinkFatal := by
    rw [record_pipeline hs]
    exact fun f hf => pipeline_record_fault hf
  refine attempt_cases (P := fun r => Idle e r.1 ∧ Shut 0 e r.1) e m x tags ?_ ?_ ?_ ?_
  · intro _
    rw [show e.sink.isImmediate = false by rw [hs]; rfl]
    exact hrecord
  · intro f hf ht
    exact absurd ht (hfault f hf).1
  · intro f hf hk
    exact absurd hk (hfault f hf).2
  · intro f _ _ _
    exact hrecord

/-- A sample or an error leaves the account where it was. -/
theorem samples_idle {e : Emitter} (h : Exporting e) :
    SampleInvariant fun e' => Idle e e' ∧ Shut 0 e e' where
  attempt := by
    rintro e₁ m t v d x tags e₂ a _ _ ha ⟨hi, hu⟩
    obtain ⟨p, hs, -⟩ := (h.idle hi).gate
    have hk := attempt_idle hs m x (e₁.tagged tags)
    rw [ha] at hk
    exact ⟨hi.trans hk.1, hu.trans hk.2⟩
  counted := fun {e₁} k hk => by
    have hcounted : Shut 0 e₁ (e₁.counted k) := { Shut.refl e₁ with }
    exact ⟨hk.1.trans { Idle.refl e₁ with }, hk.2.trans hcounted⟩

/-! ### Every history -/

/-- What happens to an emitter that exports: a public call, or a collection of its pipeline's own. -/
inductive Occasion where
  | call (c : Call)
  | collection

/-- Whether an occasion is a sample or an error. -/
def Occasion.isSample : Occasion → Bool
  | call (.sample ..)     => true
  | call (.recordError _) => true
  | _                     => false

/-- The emitter after an occasion. -/
def occur (e : Emitter) : Occasion → Emitter
  | .call c     => (e.perform c).1
  | .collection => (e.ask .collection).1

/-- The emitter after a history of occasions. -/
def live (e : Emitter) (history : List Occasion) : Emitter := history.foldl occur e

/-- A sample or an error leaves the account where it was. -/
theorem occur_idle {e : Emitter} (h : Exporting e) {o : Occasion} (ho : o.isSample = true) :
    Idle e (e.occur o) ∧ Shut 0 e (e.occur o) := by
  have hinv := samples_idle h
  have hrefl : Idle e e ∧ Shut 0 e e := ⟨.refl e, .refl e⟩
  cases o with
  | collection => cases ho
  | call c =>
      cases c with
      | sample t m v d => exact hinv.submit hrefl m t v d
      | recordError i => exact hinv.recordError hrefl i
      | flush => cases ho
      | shutdown => cases ho

/-- A flush, a shutdown or a collection counts no error. -/
theorem occur_errors (e : Emitter) {o : Occasion} (ho : o.isSample = false) :
    (e.occur o).health.errors = e.health.errors := by
  cases o with
  | collection => exact (ask_framed e .collection).errors
  | call c =>
      cases c with
      | sample t m v d => cases ho
      | recordError i => cases ho
      | flush => exact (flush_framed e).errors
      | shutdown => exact (shutdown_framed e).errors

/-- **One occasion** keeps the account, and the exporter of a lawful provider is shut down with the
emitter or not at all. -/
theorem occur_continues {e : Emitter} (h : Exporting e) (o : Occasion) :
    Continues e (e.occur o) ∧ (Released e → Released (e.occur o)) := by
  by_cases ho : o.isSample = true
  · obtain ⟨hi, hu⟩ := occur_idle h ho
    exact ⟨hi.continues h, fun hr => hr.shut hu⟩
  · cases o with
    | collection =>
        exact ⟨ask_continues h .collection,
          fun hr => hr.shut (ask_shut hr (r := .collection) nofun)⟩
    | call c =>
        cases c with
        | sample t m v d => exact absurd rfl ho
        | recordError i => exact absurd rfl ho
        | flush =>
            obtain ⟨hf, -, hshut⟩ := flush_exports h
            exact ⟨hf, fun hr => hr.shut (hshut hr)⟩
        | shutdown =>
            obtain ⟨hk, hr, -⟩ := shutdown_exports h
            exact ⟨hk, hr⟩

/-- **Every history** keeps the account. -/
theorem live_continues {e : Emitter} (h : Exporting e) (history : List Occasion) :
    Continues e (e.live history) ∧ (Released e → Released (e.live history)) := by
  induction history generalizing e with
  | nil => exact ⟨.refl h, id⟩
  | cons o os ih =>
      obtain ⟨ho, hro⟩ := occur_continues h o
      obtain ⟨hk, hrk⟩ := ih ho.exporting
      exact ⟨ho.trans hk, hrk ∘ hro⟩

/-- An emitter over a pipeline that was just built begins with nothing to account for. -/
theorem exporting_overPipeline (o : EmitterOptions) (interval : Number) (p : Provider)
    (x : Collector) :
    Exporting (overPipeline o interval p x)
      ∧ (p.Lawful → Released (overPipeline o interval p x)) := by
  have hw := Health.within_new o.maxFailures
  exact ⟨⟨⟨_, rfl, rfl⟩, rfl, hw.degraded, hw.bound, hw.disabled⟩,
    fun hp => ⟨⟨_, rfl, hp, fun _ => List.not_mem_nil⟩, rfl⟩⟩

section opening

variable {o : EmitterOptions} {endpoint : Option String} {protocol : String} {interval : Number}
  {provider : Number → Provider} {x : Collector} {e : Emitter}

/-- What is opened on an exporter that is there is an emitter over a pipeline. -/
theorem openExport_eq (h : (openExport o endpoint protocol interval provider x).2 = .ok e) :
    e = overPipeline o interval (provider (intervalMillis interval)) x := by
  unfold openExport at h
  dsimp only at h
  split at h
  · cases h
  · exact (Except.ok.inj h).symm

/-- **The health of a pipeline, from how its exports ended.**  After every history of public calls and
collections, over any provider, whatever it exports and raises, and any collector: the failures are the
failed exports since the last that succeeded; the emitter is degraded exactly when there are any, and
disabled exactly when they are as many as the limit, or one; a sample or an error changes none of this,
and any other occasion no tally; a batch that the provider ships reaches the collector while the emitter is
not disabled, and once disabled none does any more, whatever happens; the first shutdown closes the
emitter; and where the provider shuts its exporter down with itself, the exporter is shut down once if
the emitter was closed, and never otherwise. -/
theorem health_of_exports {request : Option Fault}
    (h₀ : (openExport o endpoint protocol interval provider x).2 = .ok e
      ∨ (requestExport o endpoint protocol interval request provider x).2 = .ok e)
    (history : List Occasion) :
    let e := e.live history
    e.health.failures = (e.exports.takeWhile ExportOutcome.isFailed).length
    ∧ (e.health.degraded = true ↔ 0 < e.health.failures)
    ∧ (e.health.failures : Int) ≤ max o.maxFailures 1
    ∧ (e.health.disabled = true ↔ (e.health.failures : Int) = max o.maxFailures 1)
    ∧ (∀ s : Occasion, s.isSample = true →
        (e.occur s).health.failures = e.health.failures
        ∧ (e.occur s).health.degraded = e.health.degraded
        ∧ (e.occur s).health.disabled = e.health.disabled)
    ∧ (∀ s : Occasion, s.isSample = false → (e.occur s).health.errors = e.health.errors)
    ∧ (∀ s, ∃ o, (e.callExporter (.ship s)).1.exports =
        if e.health.disabled then e.exports else o :: e.exports)
    ∧ (∀ future, e.health.disabled = true → (e.live future).exports = e.exports)
    ∧ (e.perform .shutdown).1.health.closed = true
    ∧ ((provider (intervalMillis interval)).Lawful →
        e.exporterShutdowns = e.health.closed.toNat) := by
  have h₀ : e = overPipeline o interval (provider (intervalMillis interval)) x := by
    rcases h₀ with h₀ | h₀
    · exact openExport_eq h₀
    · cases request with
      | some f => cases h₀
      | none => exact openExport_eq h₀
  obtain ⟨hnew, hlaw⟩ := exporting_overPipeline o interval (provider (intervalMillis interval)) x
  rw [← h₀] at hnew hlaw
  obtain ⟨hk, hr⟩ := live_continues hnew history
  have hn : (e.live history).maxFailures = o.maxFailures := by rw [hk.maxFailures, h₀]; rfl
  generalize e.live history = e' at hk hr hn
  have h := hk.exporting
  refine ⟨h.failures, ?_, ?_, ?_, fun s hs => ?_, fun s hs => occur_errors e' hs, callExporter_ship h,
    fun future hd => ?_, (shutdown_exports h).2.2, fun hp => (hr (hlaw hp)).shutdowns⟩
  · rw [h.degraded, decide_eq_true_eq]
  · rw [← hn]
    exact h.bound
  · rw [h.disabled, decide_eq_true_eq, hn]
  · obtain ⟨hi, -⟩ := occur_idle h hs
    exact ⟨hi.failures, hi.degraded, hi.disabled⟩
  · exact (live_continues h future).1.exports hd

end opening

/-- A collector that refuses every batch. -/
def refusing : Collector := { exports := .always .failure }

/-- A sample and two flushes, then a sample, a collection and a shutdown. -/
def twoRefusals : List Occasion :=
  [.call (.sample .gauge .jobOrphanRunning (.int 1) .null), .call .flush, .call .flush,
   .call (.sample .gauge .jobOrphanRunning (.int 2) .null), .collection, .call .shutdown]

/-- Two refused batches disable an emitter with a limit of two: none leaves after them, and the exporter
is shut down all the same. -/
theorem health_of_two_refusals :
    ∃ e, (requestExport ⟨none, 2⟩ (some "collector") "grpc" (.int 10) none .periodic refusing).2 =
        .ok e
      ∧ (Provider.periodic (intervalMillis (.int 10))).Lawful
      ∧ (e.live twoRefusals).health.disabled = true
      ∧ (e.live twoRefusals).exports.length = 2
      ∧ (∀ future, ((e.live twoRefusals).live future).exports = (e.live twoRefusals).exports)
      ∧ (e.live twoRefusals).exporterShutdowns = 1 := by
  have h₀ : (requestExport ⟨none, 2⟩ (some "collector") "grpc" (.int 10) none .periodic refusing).2 =
      .ok (overPipeline ⟨none, 2⟩ (.int 10) (.periodic (.int 10000)) refusing) := rfl
  have hlaw := Provider.periodic_lawful (intervalMillis (.int 10))
  refine ⟨_, h₀, hlaw, ?_⟩
  obtain ⟨-, -, -, hd, -, -, -, hlast, -, hshut⟩ := health_of_exports (.inr h₀) twoRefusals
  have hfailures : ((overPipeline ⟨none, 2⟩ (.int 10) (.periodic (.int 10000)) refusing).live
      twoRefusals).health.failures = 2 := by decide +kernel
  have hexports : ((overPipeline ⟨none, 2⟩ (.int 10) (.periodic (.int 10000)) refusing).live
      twoRefusals).exports.length = 2 := by decide +kernel
  have hclosed : ((overPipeline ⟨none, 2⟩ (.int 10) (.periodic (.int 10000)) refusing).live
      twoRefusals).health.closed = true := by decide +kernel
  have hdisabled := hd.mpr (by rw [hfailures]; rfl)
  refine ⟨hdisabled, hexports, fun future => hlast future hdisabled, (hshut hlaw).trans ?_⟩
  rw [hclosed]
  rfl

end Emitter
end FleetHealth
