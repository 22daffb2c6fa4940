import FleetHealth.Proofs.Emitter.Motion

/-!
# Proofs — Emitter — Frame

What a flush and a shutdown leave alone.  `Framed e e'` says that `e'` came of `e` without a sample and without a tally: nothing was handed to the sink, no indicator was counted, and an emitter that was off is still off.  `Still e e'` says besides that nothing was decided about the health of the sink.

* `flush_framed`, `shutdown_framed`: a flush and a shutdown hand no sample to a sink of any kind.  A pipeline may export in them, and an export may disable the emitter.
* `flush_still`, `shutdown_still`: where samples leave at once, a flush and a shutdown decide nothing about the health of the sink.
-/

namespace FleetHealth.Emitter

/-- `e'` came of `e` without a sample and without a tally. -/
structure Framed (e e' : Emitter) : Prop where
  application : e'.application = e.application
  maxFailures : e'.maxFailures = e.maxFailures
  name : e'.sink.name = e.sink.name
  isImmediate : e'.sink.isImmediate = e.sink.isImmediate
  errors : e'.health.errors = e.health.errors
  closed : e.health.closed = true → e'.health.closed = true
  disabled : e.health.disabled = true → e'.health.disabled = true
  deliveries : e'.deliveries = e.deliveries
  own : e.Own → e'.Own

/-- `e'` came of `e` without a sample, a tally or a word on the health of the sink. -/
structure Still (e e' : Emitter) : Prop extends Framed e e' where
  failures : e'.health.failures = e.health.failures
  degraded : e'.health.degraded = e.health.degraded
  disabled_eq : e'.health.disabled = e.health.disabled
  verdicts : e'.verdicts = e.verdicts

theorem Framed.refl (e : Emitter) : Framed e e :=
  ⟨rfl, rfl, rfl, rfl, rfl, id, id, rfl, id⟩

theorem Framed.trans {e₁ e₂ e₃ : Emitter} (h : Framed e₁ e₂) (k : Framed e₂ e₃) :
    Framed e₁ e₃ where
  application := k.application.trans h.application
  maxFailures := k.maxFailures.trans h.maxFailures
  name := k.name.trans h.name
  isImmediate := k.isImmediate.trans h.isImmediate
  errors := k.errors.trans h.errors
  closed := k.closed ∘ h.closed
  disabled := k.disabled ∘ h.disabled
  deliveries := k.deliveries.trans h.deliveries
  own := k.own ∘ h.own

theorem Still.refl (e : Emitter) : Still e e :=
  ⟨.refl e, rfl, rfl, rfl, rfl⟩

theorem Still.trans {e₁ e₂ e₃ : Emitter} (h : Still e₁ e₂) (k : Still e₂ e₃) : Still e₁ e₃ where
  toFramed := h.toFramed.trans k.toFramed
  failures := k.failures.trans h.failures
  degraded := k.degraded.trans h.degraded
  disabled_eq := k.disabled_eq.trans h.disabled_eq
  verdicts := k.verdicts.trans h.verdicts

/-- An emitter that was off is still off. -/
theorem Framed.isOff {e e' : Emitter} (h : Framed e e') (hoff : e.health.isOff = true) :
    e'.health.isOff = true := by
  simp only [Health.isOff, Bool.or_eq_true] at hoff ⊢
  exact hoff.imp h.closed h.disabled

/-! ### Writing down -/

theorem still_note {ev : SinkEvent} (h : ev.isPlain = true) (e : Emitter) : Still e (e.note ev) :=
  have hp : ∀ ev' ∈ [ev], ev'.isPlain = true := fun _ hm => List.mem_singleton.mp hm ▸ h
  { Framed.refl e with
    deliveries := deliveries_of_journal [ev] rfl hp
    own := own_of_journal [ev] rfl fun ev' hev => (SinkEvent.isPlain_iff.mp (hp ev' hev)).2
    failures := rfl
    degraded := rfl
    disabled_eq := rfl
    verdicts := verdicts_of_journal [ev] rfl hp }

theorem still_say {event : String} (h : event ≠ "sink.degraded") (h' : event ≠ "sink.disabled")
    (e : Emitter) (level : Log.Level) (fields : List (String × Datum)) (a : Log.Attachment) :
    Still e (e.say level event fields a) := by
  refine still_note ?_ e
  simp [SinkEvent.isPlain, SinkEvent.isVerdict, SinkEvent.delivery?, SinkEvent.isOwn, h, h']

theorem still_absorb {event : String} (h : event ≠ "sink.degraded") (h' : event ≠ "sink.disabled")
    (e : Emitter) (o : Option Fault) : Still e (e.absorb event o) := by
  cases o with
  | none => exact .refl e
  | some f => exact still_say h h' e .warning [] (.fault f.summary)

/-- Another sink of the same kind. -/
theorem still_sink {e : Emitter} {s : Sink} (hn : s.name = e.sink.name)
    (hi : s.isImmediate = e.sink.isImmediate) : Still e { e with sink := s } :=
  { Framed.refl e with
    name := hn
    isImmediate := hi
    failures := rfl
    degraded := rfl
    disabled_eq := rfl
    verdicts := rfl }

theorem framed_noteExport (e : Emitter) (o : Option Fault) : Framed e (e.noteExport o) := by
  cases o with
  | none => exact { Framed.refl e with }
  | some f =>
      exact {
        application := noteFatal_application e f
        maxFailures := noteFatal_maxFailures e f
        name := noteFatal_name e f
        isImmediate := noteFatal_isImmediate e f
        errors := by rw [noteExport, noteFatal_health]; rfl
        closed := by rw [noteExport, noteFatal_health]; exact id
        disabled := fun h => by simp [noteExport, Health.failed, h]
        deliveries := noteFatal_deliveries e f
        own := noteFatal_own e f }

/-! ### Flush and shutdown -/

/-- **One motion** hands no sample to the sink; where samples leave at once, it is no word on the health
of the sink either. -/
theorem motion_framed {e e' : Emitter} (h : Motion e e') :
    Framed e e' ∧ (e.sink.isImmediate = true → Still e e') := by
  have hstill : Still e e' → Framed e e' ∧ (e.sink.isImmediate = true → Still e e') :=
    fun hs => ⟨hs.toFramed, fun _ => hs⟩
  cases h with
  | sink s hn hi => exact hstill (still_sink hn hi)
  | flushed | exporter | closed => exact hstill (still_note rfl e)
  | absorbed o => exact hstill (still_absorb (by decide) (by decide) e o)
  | account hpipeline o =>
      refine ⟨framed_noteExport e o, fun hi => ?_⟩
      rw [hpipeline] at hi
      cases hi

theorem motions_framed {e e' : Emitter} (h : Motions e e') : Framed e e' :=
  h.lift .refl .trans fun hm => (motion_framed hm).1

theorem motions_still {e e' : Emitter} (h : Motions e e') (hi : e.sink.isImmediate = true) :
    Still e e' := by
  refine h.lift (Q := fun e e' => e.sink.isImmediate = true → Still e e') (fun e _ => .refl e) ?_
    (fun hm => (motion_framed hm).2) hi
  intro e₁ e₂ e₃ h k hi
  exact (h hi).trans (k ((h hi).isImmediate.trans hi))

theorem ask_framed (e : Emitter) (r : Provider.Request) : Framed e (e.ask r).1 :=
  motions_framed (ask_motions e r)

theorem flush_framed (e : Emitter) : Framed e e.flush.1 := motions_framed (flush_motions e)

theorem flush_still {e : Emitter} (hi : e.sink.isImmediate = true) : Still e e.flush.1 :=
  motions_still (flush_motions e) hi

theorem still_close (e : Emitter) : Still e e.close :=
  { Framed.refl e with
    closed := fun _ => rfl
    failures := rfl
    degraded := rfl
    disabled_eq := rfl
    verdicts := rfl }

/-- What is said at the end of a shutdown. -/
theorem still_farewell (e : Emitter) (o : Option Fault) :
    Still e ((e.absorb "sink.shutdown.failed" o).say .info "sink.shutdown") :=
  (still_absorb (by decide) (by decide) e o).trans
    (still_say (by decide) (by decide) _ .info [] .none)

theorem released_framed (e : Emitter) : Framed e e.released := by
  obtain ⟨e', o, hmotions, hhook⟩ := releaseHook_motions e
  have hreleased : Framed e e.releaseHook.1 := by
    rw [hhook]
    exact (motions_framed hmotions).trans (still_note rfl e').toFramed
  exact hreleased.trans (still_farewell _ _).toFramed

theorem released_still {e : Emitter} (hi : e.sink.isImmediate = true) : Still e e.released := by
  obtain ⟨e', o, hmotions, hhook⟩ := releaseHook_motions e
  have hreleased : Still e e.releaseHook.1 := by
    rw [hhook]
    exact (motions_still hmotions hi).trans (still_note rfl e')
  exact hreleased.trans (still_farewell _ _)

theorem shutdown_framed (e : Emitter) : Framed e e.shutdown.1 := by
  have hf := flush_framed e
  exact shutdown_cases (P := fun r => Framed e r.1) e (fun _ => .refl e) (fun _ _ _ => hf)
    (fun _ _ => (hf.trans (still_close _).toFramed).trans (released_framed _))

theorem shutdown_still {e : Emitter} (hi : e.sink.isImmediate = true) : Still e e.shutdown.1 := by
  have hf := flush_still hi
  exact shutdown_cases (P := fun r => Still e r.1) e (fun _ => .refl e) (fun _ _ _ => hf)
    (fun _ _ => (hf.trans (still_close _)).trans (released_still (hf.isImmediate.trans hi)))

end FleetHealth.Emitter
