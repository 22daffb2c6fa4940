import FleetHealth.Proofs.Emitter.Call

/-!
# Proofs — Emitter — Locality

An emitter writes its journal and never reads it.  What it does, and what it adds to the journal, is the same whatever the journal held before (`perform_atop`, `run_atop`), so a history may be cut anywhere and continued with an empty journal.

* `perform_clear`: a call is the call on an empty journal, over the events of before.
* `run_append_clear`: a history in two parts is the second part on an empty journal, over the events of the first.
-/

namespace FleetHealth.Emitter

/-- The emitter with earlier events under its journal. -/
def atop (e : Emitter) (j : List SinkEvent) : Emitter := { e with journal := e.journal ++ j }

/-- The emitter with an empty journal. -/
def clear (e : Emitter) : Emitter := { e with journal := [] }

variable (e : Emitter) (j : List SinkEvent)

theorem clear_atop : e.clear.atop e.journal = e := rfl

@[simp] theorem atop_clear : (e.atop j).clear = e.clear := rfl

@[simp] theorem atop_journal : (e.atop j).journal = e.journal ++ j := rfl

@[simp] theorem atop_health : (e.atop j).health = e.health := rfl

@[simp] theorem atop_maxFailures : (e.atop j).maxFailures = e.maxFailures := rfl

@[simp] theorem atop_sink : (e.atop j).sink = e.sink := rfl

/-! ### Samples -/

theorem atop_record (m : Metric) (x : Binary64) (tags : Tags) :
    (e.atop j).record m x tags = ((e.record m x tags).1.atop j, (e.record m x tags).2) := by
  simp [record, note, noteAll_eq, atop]

theorem atop_noteFatal (f : Fault) : (e.atop j).noteFatal f = (e.noteFatal f).atop j := by
  unfold noteFatal
  dsimp only [atop_health, atop_maxFailures]
  split <;> rfl

theorem atop_attempt (m : Metric) (x : Binary64) (tags : Tags) :
    (e.atop j).attempt m x tags = ((e.attempt m x tags).1.atop j, (e.attempt m x tags).2) := by
  unfold attempt
  rw [atop_record]
  cases e.record m x tags with
  | mk e₁ o =>
      cases o with
      | none =>
          dsimp only
          by_cases hi : e₁.sink.isImmediate = true
          · have hi' : (e₁.atop j).sink.isImmediate = true := hi
            rw [if_pos hi, if_pos hi']
            rfl
          · have hi' : ¬ (e₁.atop j).sink.isImmediate = true := hi
            rw [if_neg hi, if_neg hi']
      | some f =>
          dsimp only
          by_cases ht : f.kind = .sinkTransient
          · rw [if_pos ht, if_pos ht]
            rfl
          · by_cases hf : f.kind = .sinkFatal
            · rw [if_neg ht, if_neg ht, if_pos hf, if_pos hf, atop_noteFatal]
            · rw [if_neg ht, if_neg ht, if_neg hf, if_neg hf]

theorem atop_offer (m : Metric) (t : MetricType) (v d : Datum) :
    (e.atop j).offer m t v d = ((e.offer m t v d).1.atop j, (e.offer m t v d).2) := by
  unfold offer
  cases accept m t v d with
  | error f => rfl
  | ok admitted =>
      dsimp only
      by_cases hoff : e.health.isOff = true
      · have hoff' : (e.atop j).health.isOff = true := hoff
        rw [if_pos hoff, if_pos hoff']
      · have hoff' : ¬ (e.atop j).health.isOff = true := hoff
        have ht : (e.atop j).tagged admitted.2 = e.tagged admitted.2 := rfl
        rw [if_neg hoff, if_neg hoff', ht, atop_attempt]
        cases e.attempt m admitted.1 (e.tagged admitted.2) with
        | mk e₁ a => cases a <;> rfl

theorem atop_reportTally (k : Key) (d : Datum) :
    (e.atop j).reportTally k d = ((e.reportTally k d).1.atop j, (e.reportTally k d).2) := by
  have hc : (e.atop j).counted k = (e.counted k).atop j := rfl
  rw [reportTally, reportTally, hc, atop_offer, atop_health]

theorem atop_recordError (d : Datum) :
    (e.atop j).recordError d = ((e.recordError d).1.atop j, (e.recordError d).2) := by
  cases hk : Key.ofDatum d with
  | error s => rw [recordError_of_error hk, recordError_of_error hk]
  | ok k =>
      rw [recordError_of_ok hk, recordError_of_ok hk, atop_reportTally]
      cases e.reportTally k d with
      | mk e' r =>
          cases r with
          | error f => rfl
          | ok a => rfl

theorem atop_submit (m : Metric) (t : MetricType) (v d : Datum) :
    (e.atop j).submit m t v d = ((e.submit m t v d).1.atop j, (e.submit m t v d).2) := by
  have ho := atop_offer e j m t v d
  cases h : e.offer m t v d with
  | mk e₁ r =>
      rw [h] at ho
      cases r with
      | error f => rw [submit_of_error ho, submit_of_error h]
      | ok a =>
          by_cases hl : a = .lost → m = .sinkErrors
          · rw [submit_of_kept ho hl, submit_of_kept h hl]
          · obtain ⟨rfl, hm⟩ := Classical.not_imp.mp hl
            have hr := atop_recordError e₁ j (.text m.name)
            cases hn : e₁.recordError (.text m.name) with
            | mk e₂ n =>
                rw [hn] at hr
                rw [submit_of_lost ho hm hr, submit_of_lost h hm hn]

/-! ### Exports -/

theorem atop_noteExport (o : Option Fault) :
    (e.atop j).noteExport o = (e.noteExport o).atop j := by
  cases o with
  | none => rfl
  | some f => exact atop_noteFatal e j f

theorem atop_heed (c : Relay.Contact) : (e.atop j).heed c = (e.heed c).atop j := by
  cases c with
  | told report => exact atop_noteExport e j report
  | _ => rfl

theorem atop_heeds (contacts : List Relay.Contact) :
    contacts.foldl heed (e.atop j) = (contacts.foldl heed e).atop j := by
  induction contacts generalizing e with
  | nil => rfl
  | cons c cs ih => rw [List.foldl_cons, List.foldl_cons, atop_heed, ih]

theorem atop_callExporter (c : Relay.Call) :
    (e.atop j).callExporter c = ((e.callExporter c).1.atop j, (e.callExporter c).2) := by
  unfold callExporter
  rw [atop_sink]
  cases e.sink with
  | otlp p => exact congrArg (·, _) (atop_heeds { e with sink := _ } j _)
  | _ => rfl

/-- **A plan is followed in the same way** on top of any journal. -/
theorem atop_follow (plan : Plan) :
    follow plan (e.atop j) = ((follow plan e).1.atop j, (follow plan e).2) := by
  induction plan generalizing e with
  | done raised => rfl
  | call c next ih =>
      rw [follow, follow, atop_callExporter]
      exact ih _ _

theorem atop_ask (r : Provider.Request) :
    (e.atop j).ask r = ((e.ask r).1.atop j, (e.ask r).2) := by
  unfold ask
  rw [atop_sink]
  cases e.sink with
  | otlp p => exact atop_follow { e with sink := _ } j _
  | _ => rfl

/-! ### Flush and shutdown -/

theorem atop_flushHook :
    (e.atop j).flushHook = (e.flushHook.1.atop j, e.flushHook.2) := by
  unfold flushHook
  rw [atop_sink]
  cases e.sink with
  | otlp p =>
      dsimp only
      rw [atop_ask]
      rfl
  | _ => rfl

theorem atop_releaseHook :
    (e.atop j).releaseHook = (e.releaseHook.1.atop j, e.releaseHook.2) := by
  unfold releaseHook
  rw [atop_sink]
  cases e.sink with
  | statsd s =>
      dsimp only
      split <;> rfl
  | otlp p =>
      dsimp only
      rw [atop_ask]
      rfl
  | _ => rfl

theorem atop_prelude : (e.atop j).prelude = (e.prelude.1.atop j, e.prelude.2) := by
  unfold prelude
  rw [atop_sink]
  cases e.sink <;> rfl

theorem atop_absorb (event : String) (o : Option Fault) :
    (e.atop j).absorb event o = (e.absorb event o).atop j := by
  cases o <;> rfl

theorem atop_flush : (e.atop j).flush = (e.flush.1.atop j, e.flush.2) := by
  unfold flush
  rw [atop_prelude]
  cases e.prelude with
  | mk e₁ o =>
      cases o with
      | some f => rfl
      | none =>
          dsimp only
          by_cases hoff : e₁.health.isOff = true
          · have hoff' : (e₁.atop j).health.isOff = true := hoff
            rw [if_pos hoff, if_pos hoff']
          · have hoff' : ¬ (e₁.atop j).health.isOff = true := hoff
            rw [if_neg hoff, if_neg hoff', atop_flushHook]
            dsimp only
            rw [atop_absorb]

theorem atop_shutdown : (e.atop j).shutdown = (e.shutdown.1.atop j, e.shutdown.2) := by
  unfold shutdown
  by_cases hc : e.health.closed = true
  · have hc' : (e.atop j).health.closed = true := hc
    rw [if_pos hc, if_pos hc']
  · have hc' : ¬ (e.atop j).health.closed = true := hc
    rw [if_neg hc, if_neg hc', atop_flush]
    cases e.flush with
    | mk e₁ r =>
        cases r with
        | error f => rfl
        | ok a =>
            have hclose : { e₁.atop j with health := { (e₁.atop j).health with closed := true } } =
                ({ e₁ with health := { e₁.health with closed := true } } : Emitter).atop j := rfl
            dsimp only
            rw [hclose, atop_releaseHook]
            dsimp only
            rw [atop_absorb]
            rfl

/-! ### Histories -/

/-- **A call does not read the journal.** -/
theorem atop_perform (c : Call) :
    (e.atop j).perform c = ((e.perform c).1.atop j, (e.perform c).2) := by
  cases c with
  | sample t m v d =>
      simp only [perform, atop_submit]
  | recordError d =>
      simp only [perform, atop_recordError]
  | flush =>
      simp only [perform, atop_flush]
  | shutdown =>
      simp only [perform, atop_shutdown]

theorem atop_run (calls : List Call) : (e.atop j).run calls = (e.run calls).atop j := by
  induction calls generalizing e with
  | nil => rfl
  | cons c cs ih =>
      have hl : (e.atop j).run (c :: cs) = ((e.atop j).perform c).1.run cs := rfl
      rw [hl, atop_perform, ih]
      rfl

theorem run_singleton (c : Call) : e.run [c] = (e.perform c).1 := rfl

theorem run_append (cs ds : List Call) : e.run (cs ++ ds) = (e.run cs).run ds :=
  List.foldl_append

/-- A call is the call on an empty journal, over the events of before. -/
theorem perform_clear (c : Call) :
    e.perform c = ((e.clear.perform c).1.atop e.journal, (e.clear.perform c).2) := by
  rw [← atop_perform, clear_atop]

/-- A history is the history on an empty journal, over the events of before. -/
theorem run_clear (calls : List Call) : e.run calls = (e.clear.run calls).atop e.journal := by
  rw [← atop_run, clear_atop]

theorem run_clear_clear (calls : List Call) : (e.clear.run calls).clear = (e.run calls).clear := by
  rw [run_clear e calls, atop_clear]

/-- A history in two parts is the second on an empty journal, over the events of the first. -/
theorem run_append_clear (cs ds : List Call) :
    e.run (cs ++ ds) = ((e.run cs).clear.run ds).atop (e.run cs).journal := by
  rw [run_append, run_clear]

end FleetHealth.Emitter
