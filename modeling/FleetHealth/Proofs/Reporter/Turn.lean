import Mathlib.Logic.Relation
import FleetHealth.Proofs.Reporter.Tick

/-!
# Proofs — Reporter — Turn

What the turn of a binding does once its query is over.  An `Emission` is one step of that: the phase for samples is entered, a sample of the metric is written down in it, a failure of the indicator is said, or the emitter is called.

* `turn_emissions` says once that a turn is emissions and nothing else, whatever the emitter answers and wherever the turn is cut short; `Emissions.lift` that what every emission keeps is kept by all of them.
* `turn_contributes` is the report after a turn: it has a sample for every point of the answer, or the indicator among the failed.
-/

namespace FleetHealth.Reporter

open Emitter (Call)

variable {τ : Type}

/-- The reporter after a call of its emitter, whatever was answered. -/
def called (r : Reporter τ) (c : Call) : Reporter τ := (r.onEmitter fun e => e.perform c).1

theorem onEmitter_called {α : Type} {r : Reporter τ} (call : Emitter → Emitter × α) (c : Call)
    (h : (call r.emitter.clear).1 = (r.emitter.clear.perform c).1) :
    (r.onEmitter call).1 = r.called c := by
  have hr : (r.onEmitter call).1 =
      { r with
        emitter := (call r.emitter.clear).1.clear
        journal := (call r.emitter.clear).1.journal.map .sink ++ r.journal } := rfl
  rw [hr, h]
  rfl

theorem called_emitter (r : Reporter τ) (c : Call) :
    (r.called c).emitter = (r.emitter.perform c).1.clear := by
  have he : (r.called c).emitter = (r.emitter.clear.perform c).1.clear := rfl
  rw [he, Emitter.perform_clear r.emitter]
  rfl

theorem called_journal (r : Reporter τ) (c : Call) :
    (r.called c).journal = (r.emitter.clear.perform c).1.journal.map .sink ++ r.journal := rfl

/-! ### Emissions -/

/-- One step of the turn of a binding once its query is over.  Samples are of the metric of the
binding, and have a phase of their own. -/
inductive Emission (m : Metric) : Reporter τ → Reporter τ → Prop where
  | enter (r : Reporter τ) : Emission m r (r.enter .emit)
  | submitted {r : Reporter τ} (h : r.phase = .emit) : Emission m r (r.note (.submitted m r.phase))
  | failed (r : Reporter τ) (fields : List (String × Datum)) :
      Emission m r (r.say .warning "indicator.failed" fields)
  | crashed (r : Reporter τ) (fields : List (String × Datum)) (a : Log.Attachment) :
      Emission m r (r.say .error "indicator.crashed" fields a)
  | called (r : Reporter τ) (c : Call) : Emission m r (r.called c)

/-- Any number of emissions, one after another. -/
abbrev Emissions (m : Metric) (r r' : Reporter τ) : Prop := Relation.ReflTransGen (Emission m) r r'

/-- **What every emission keeps, all of them keep.** -/
theorem Emissions.lift {m : Metric} {Q : Reporter τ → Reporter τ → Prop} (hrefl : ∀ r, Q r r)
    (htrans : ∀ {r₁ r₂ r₃}, Q r₁ r₂ → Q r₂ r₃ → Q r₁ r₃)
    (hstep : ∀ {r r'}, Emission m r r' → Q r r') {r r' : Reporter τ} (h : Emissions m r r') :
    Q r r' := by
  induction h with
  | refl => exact hrefl r
  | tail _ h ih => exact htrans ih (hstep h)

variable (m : Metric)

theorem failIndicator_emissions (r : Reporter τ) (report : TickReport τ) (name error : String) :
    Emissions m r (r.failIndicator report name error).1 := by
  have hcount : (r.onEmitter fun e => e.recordError (.text name)).1 =
      r.called (.recordError (.text name)) := onEmitter_called _ _ rfl
  have hcalled : Emissions m r (r.called (.recordError (.text name))) := .single (.called r _)
  rw [← hcount] at hcalled
  unfold failIndicator
  dsimp only
  split
  case h_1 r₁ f hf =>
    rw [hf] at hcalled
    exact hcalled
  case h_2 r₁ total hok =>
    rw [hok] at hcalled
    exact hcalled.tail (.failed r₁ _)

/-- A failure, said to have crashed or not. -/
theorem fail_emissions (r : Reporter τ) (report : TickReport τ) (name stage error : String)
    (f : Fault) (isCrash : Bool) :
    Emissions m r
      ((if isCrash then r.sayCrash name stage f else r).failIndicator report name error).1 := by
  cases isCrash with
  | true => exact .head (.crashed r _ _) (failIndicator_emissions m _ report name error)
  | false => exact failIndicator_emissions m r report name error

theorem failEmit_emissions (r : Reporter τ) (report : TickReport τ) (name : String) (f : Fault) :
    Emissions m r (r.failEmit report name f).1 := by
  rw [failEmit_eq ""]
  exact fail_emissions m r report name _ _ f _

theorem submit_emissions {r : Reporter τ} (h : r.phase = .emit) (p : Point) :
    Emissions m r (r.submit m p).1 := by
  have hcall : (r.submit m p).1 = (r.note (.submitted m r.phase)).called (m.call p) :=
    onEmitter_called _ _ rfl
  rw [hcall]
  exact .tail (.single (.submitted h)) (.called _ _)

/-- **The points of an answer** are submitted in the phase for samples. -/
theorem submitAll_emissions (ps : List Point) {r : Reporter τ} (h : r.phase = .emit)
    (report : TickReport τ) : Emissions m r (submitAll m ps r report).1 := by
  induction ps generalizing r report with
  | nil => exact .refl
  | cons p ps ih =>
      have hsub := submit_emissions m h p
      have hphase : (r.submit m p).1.phase = .emit := h
      unfold submitAll
      split
      case h_1 r₁ f hf =>
        rw [hf] at hsub
        exact hsub.trans (failEmit_emissions m r₁ report m.name f)
      case h_2 r₁ _ hok =>
        rw [hok] at hsub hphase
        exact hsub.trans (ih hphase _)

/-- **A turn is emissions and nothing else**, once its query has brought what it brought. -/
theorem turn_emissions [TimeScale τ] (h : Heard) (r : Reporter τ) (report : TickReport τ) :
    Emissions h.binding.metric r (turn h r report).1 := by
  unfold turn
  split
  case h_1 f _ =>
    rw [failQuery_eq]
    exact fail_emissions _ r report h.name _ _ f _
  case h_2 a _ =>
    split
    case h_1 f _ => exact .head (.enter r) (failEmit_emissions _ _ report h.name f)
    case h_2 ps _ => exact .head (.enter r) (submitAll_emissions _ ps rfl report)

/-- An emission leaves the surroundings of the reporter alone. -/
theorem emission_ear {m : Metric} {r r' : Reporter τ} (h : Emission m r r') : SameEar r r' := by
  cases h with
  | _ => exact ⟨rfl, rfl, rfl, rfl, rfl⟩

/-- **A turn leaves alone what the next ones hear.** -/
theorem turn_ear [TimeScale τ] (h : Heard) (r : Reporter τ) (report : TickReport τ) :
    SameEar r (turn h r report).1 :=
  (turn_emissions h r report).lift .refl .trans emission_ear

/-! ### What a turn contributes -/

/-- The failed names and the samples that the turn of a binding adds to a report: no other name than its
own, no sample of another metric, and where it did not fail a sample for each point of its answer. -/
structure Contributes (h : Heard) (failed : List String) (samples : List Sample) : Prop where
  name : ∀ n ∈ failed, n = h.name
  metric : ∀ s ∈ samples, s.metric = h.binding.metric
  points : failed = [] → ∃ a ps, h.answer = .ok a ∧ h.binding.shape.points a = .ok ps
    ∧ samples = ps.map h.binding.metric.sample

theorem metric_of_mem_map_sample {m : Metric} {ps : List Point} {s : Sample}
    (hs : s ∈ ps.map m.sample) : s.metric = m := by
  obtain ⟨p, -, rfl⟩ := List.mem_map.mp hs
  rfl

theorem Contributes.failed (h : Heard) (ps : List Point) :
    Contributes h [h.name] (ps.map h.binding.metric.sample) :=
  ⟨fun _ hn => List.mem_singleton.mp hn, fun _ => metric_of_mem_map_sample, nofun⟩

theorem failIndicator_report (r : Reporter τ) (report : TickReport τ) (name error : String) :
    (r.failIndicator report name error).2.1 = report.plus [name] [] := by
  rw [← TickReport.plus_failed]
  unfold failIndicator
  dsimp only
  split <;> rfl

/-- **The points of an answer** are submitted to the last, or the indicator is counted as failed after
those before the one that was refused. -/
theorem submitAll_report (ps : List Point) (r : Reporter τ) (report : TickReport τ) :
    (submitAll m ps r report).2.1 = report.plus [] (ps.map m.sample)
      ∨ ∃ taken : List Point,
          (submitAll m ps r report).2.1 = report.plus [m.name] (taken.map m.sample) := by
  induction ps generalizing r report with
  | nil => exact .inl report.plus_nil.symm
  | cons p ps ih =>
      unfold submitAll
      split
      case h_1 r₁ f _ =>
        rw [failEmit_eq ""]
        exact .inr ⟨[], failIndicator_report _ _ _ _⟩
      case h_2 r₁ _ _ =>
        have hsampled : ({ report with samples := report.samples ++ [⟨m, p.value, p.dims⟩] } :
            TickReport τ) = report.plus [] [m.sample p] := report.plus_sample (m.sample p)
        rw [hsampled]
        rcases ih r₁ (report.plus [] [m.sample p]) with hall | ⟨taken, hcut⟩
        · exact .inl (hall.trans (TickReport.plus_plus ..))
        · exact .inr ⟨p :: taken, hcut.trans (TickReport.plus_plus ..)⟩

/-- **What a turn contributes**, whatever becomes of its samples in the emitter. -/
theorem turn_contributes [TimeScale τ] (h : Heard) (r : Reporter τ) (report : TickReport τ) :
    ∃ failed samples, (turn h r report).2.1 = report.plus failed samples
      ∧ Contributes h failed samples := by
  unfold turn
  split
  case h_1 f _ =>
    rw [failQuery_eq]
    exact ⟨[h.name], [], failIndicator_report _ _ _ _, .failed h []⟩
  case h_2 a ha =>
    split
    case h_1 f _ =>
      rw [failEmit_eq ""]
      exact ⟨[h.name], [], failIndicator_report _ _ _ _, .failed h []⟩
    case h_2 ps hps =>
      rcases submitAll_report h.binding.metric ps (r.enter .emit) report with hall | ⟨taken, hcut⟩
      · exact ⟨_, _, hall, fun _ => nofun, fun _ => metric_of_mem_map_sample,
          fun _ => ⟨a, ps, ha, hps, rfl⟩⟩
      · exact ⟨_, _, hcut, .failed h taken⟩

/-- That a tick was interrupted is not for a turn to say. -/
theorem turn_interrupted [TimeScale τ] (h : Heard) (r : Reporter τ) (report : TickReport τ) :
    (turn h r report).2.1.interrupted = report.interrupted := by
  obtain ⟨failed, samples, hreport, -⟩ := turn_contributes h r report
  rw [hreport]
  rfl

end FleetHealth.Reporter
