import FleetHealth.Proofs.Reporter.Turn
import FleetHealth.Reporter.Run

/-!
# Proofs — Reporter — Act

What a tick is made of.  An `Act` is one thing that a reporter does in a turn: it enters a phase, writes down a query or a sample in the phase for that, says that an indicator failed, calls its emitter, waits, or is told to stop.

* `walk_acts` says once that the turns of a tick are acts and nothing else, whatever the queries bring and wherever a turn is cut short; `Acts.lift` that what every act keeps is kept by all of them.
* `tick_cases` takes the rest of a tick apart: the flush raised, a turn had crashed, or the tick is completed.
* `cycle_cases` and `finish_cases` do the same for a tick of the loop and for the end of a run.
-/

namespace FleetHealth.Reporter

open Emitter (Call)

variable {τ : Type}

/-- One thing that a reporter does in a turn.  Queries and samples have a phase of their own. -/
inductive Act : Reporter τ → Reporter τ → Prop where
  | enter (r : Reporter τ) (p : Phase) : Act r (r.enter p)
  | asked {r : Reporter τ} (h : r.phase = .tick) (o : Operation) : Act r (r.note (.asked o r.phase))
  | submitted {r : Reporter τ} (h : r.phase = .emit) (m : Metric) :
      Act r (r.note (.submitted m r.phase))
  | failed (r : Reporter τ) (fields : List (String × Datum)) :
      Act r (r.say .warning "indicator.failed" fields)
  | crashed (r : Reporter τ) (fields : List (String × Datum)) (a : Log.Attachment) :
      Act r (r.say .error "indicator.crashed" fields a)
  | called (r : Reporter τ) (c : Call) : Act r (r.called c)
  | told (r : Reporter τ) (stop : Bool) : Act r (r.tell stop)
  | waited (r : Reporter τ) (clock : τ) : Act r { r with clock := clock }
  | turned (r : Reporter τ) (playbook : Playbook τ) : Act r { r with playbook := playbook }

/-- Any number of acts, one after another. -/
abbrev Acts (r r' : Reporter τ) : Prop := Relation.ReflTransGen Act r r'

theorem Act.acts {r r' : Reporter τ} (h : Act r r') : Acts r r' := .single h

/-- **What every act keeps, all of them keep.** -/
theorem Acts.lift {Q : Reporter τ → Reporter τ → Prop} (hrefl : ∀ r, Q r r)
    (htrans : ∀ {r₁ r₂ r₃}, Q r₁ r₂ → Q r₂ r₃ → Q r₁ r₃) (hact : ∀ {r r'}, Act r r' → Q r r')
    {r r' : Reporter τ} (h : Acts r r') : Q r r' := by
  induction h with
  | refl => exact hrefl r
  | tail _ h ih => exact htrans ih (hact h)

/-! ### Turns -/

theorem Emission.act {m : Metric} {r r' : Reporter τ} (h : Emission m r r') : Act r r' := by
  cases h with
  | enter => exact .enter r .emit
  | submitted h => exact .submitted h m
  | failed fields => exact .failed r fields
  | crashed fields a => exact .crashed r fields a
  | called c => exact .called r c

variable [TimeScale τ]

theorem turn_acts (h : Heard) (r : Reporter τ) (report : TickReport τ) :
    Acts r (turn h r report).1 :=
  (turn_emissions h r report).lift (fun _ => .refl) .trans fun hstep => hstep.act.acts

theorem ask_acts {r : Reporter τ} (h : r.phase = .tick) (o : Operation) : Acts r (r.ask o).1 := by
  have hasking : Acts r (r.asking o) :=
    ((Act.asked h o).acts.tail (.turned _ (r.playbook.next o).2)).tail (.told _ _)
  exact ask_cases (P := fun p => Acts r p.1) r o (fun _ => .refl)
    (fun _ => hasking.tail (.waited _ _)) (fun _ => (hasking.tail (.waited _ _)).tail (.told _ _))

/-- **The turns of bindings are acts, and nothing else.**  The induction is on the bindings. -/
theorem walk_acts (heeds : Bool) (bs : List Binding) (r : Reporter τ) (report : TickReport τ) :
    Acts r (walk heeds bs r report).1 := by
  induction bs generalizing r report with
  | nil => exact .refl
  | cons b bs ih =>
      have hvisit : Acts r (visit b r report).1 := by
        rw [visit_eq]
        exact ((Act.enter r .tick).acts.trans (ask_acts rfl b.operation)).trans (turn_acts _ _ report)
      unfold walk
      split
      case isTrue => exact .refl
      case isFalse =>
        split
        case h_1 r₁ report₁ f hv =>
          rw [hv] at hvisit
          exact hvisit
        case h_2 r₁ report₁ hv =>
          rw [hv] at hvisit
          exact hvisit.trans (ih r₁ report₁)

/-! ### Ticks -/

omit [TimeScale τ] in
/-- A flush of the emitter, and what it answers. -/
theorem onEmitter_flush (r : Reporter τ) :
    r.onEmitter Emitter.flush = (r.called .flush, r.emitter.flush.2) := by
  have hcalled : (r.onEmitter Emitter.flush).1 = r.called .flush := onEmitter_called _ _ rfl
  have ha := Emitter.atop_flush r.emitter.clear r.emitter.journal
  rw [Emitter.clear_atop] at ha
  rw [← hcalled, ha]
  rfl

omit [TimeScale τ] in
/-- A shutdown of the emitter, and what it answers. -/
theorem onEmitter_shutdown (r : Reporter τ) :
    r.onEmitter Emitter.shutdown = (r.called .shutdown, r.emitter.shutdown.2) := by
  have hcalled : (r.onEmitter Emitter.shutdown).1 = r.called .shutdown := onEmitter_called _ _ rfl
  have ha := Emitter.atop_shutdown r.emitter.clear r.emitter.journal
  rw [Emitter.clear_atop] at ha
  rw [← hcalled, ha]
  rfl

/-- The reporter after the flush that ends the turns. -/
def flushing (r : Reporter τ) : Reporter τ := (r.note (.flushing r.phase)).called .flush

/-- The reporter with one more tick in its count. -/
def counted (r : Reporter τ) : Reporter τ := { r with ticks := r.ticks + 1, phase := .idle }

/-- The reporter when the end of its tick is written down. -/
def ending (r : Reporter τ) : Reporter τ := r.note (.ended r.clock r.phase)

/-- **A tick, by how it ends.**  The flush raises; or it answers, and then a turn had crashed, or the
tick is completed.  It is counted unless the flush raises. -/
theorem tick_cases {P : Reporter τ × Except Fault (TickReport τ) → Prop} (heeds : Bool)
    (r : Reporter τ)
    (refused : ∀ r₁ report escaped f,
      walk heeds r.bindings (r.note (.began r.clock)) .empty = (r₁, report, escaped) →
      r₁.emitter.flush.2 = .error f → P (r₁.flushing.ending, .error f))
    (crashed : ∀ r₁ report f,
      walk heeds r.bindings (r.note (.began r.clock)) .empty = (r₁, report, some f) →
      r₁.emitter.flush.2 = .ok () → P (r₁.flushing.counted.ending, .error f))
    (completed : ∀ r₁ report report',
      walk heeds r.bindings (r.note (.began r.clock)) .empty = (r₁, report, none) →
      r₁.emitter.flush.2 = .ok () →
      report' = { report with duration := r₁.flushing.clock - r.clock } →
      P (((r₁.flushing.counted.sayCompleted report').note (.ticked report')).ending, .ok report')) :
    P (r.tick heeds) := by
  unfold tick
  dsimp only
  cases hw : walk heeds r.bindings (r.note (.began r.clock)) .empty with
  | mk r₁ rest =>
      obtain ⟨report, escaped⟩ := rest
      have he : (r₁.note (.flushing r₁.phase)).emitter.flush.2 = r₁.emitter.flush.2 := rfl
      dsimp only
      rw [onEmitter_flush, he]
      cases ha : r₁.emitter.flush.2 with
      | error f => exact refused r₁ report escaped f hw ha
      | ok _ =>
          cases escaped with
          | some f => exact crashed r₁ report f hw ha
          | none => exact completed r₁ report _ hw ha rfl

/-! ### Runs -/

/-- **A tick of the loop**: one that crashed is written down under the number after the count. -/
theorem cycle_cases {P : Reporter τ → Prop} (r : Reporter τ)
    (crashed : ∀ r₁ f, r.tick true = (r₁, .error f) →
      P (r₁.say .error "reporter.tick.crashed" [("tick", .int (r₁.ticks + 1))] (.fault f.summary)))
    (completed : ∀ r₁ report, r.tick true = (r₁, .ok report) → P r₁) : P r.cycle := by
  unfold cycle
  split
  case h_1 r₁ f h => exact crashed r₁ f h
  case h_2 r₁ report h => exact completed r₁ report h

/-- The reporter after the shutdown that ends a run. -/
def closing (r : Reporter τ) : Reporter τ :=
  ((r.enter .stopped).note (.closing .stopped)).called .shutdown

omit [TimeScale τ] in
/-- **The end of a run**: the shutdown raises, or that the run is over is said. -/
theorem finish_cases {P : Reporter τ × Except Fault Unit → Prop} (r : Reporter τ)
    (refused : ∀ f, r.emitter.shutdown.2 = .error f → P (r.closing, .error f))
    (done : r.emitter.shutdown.2 = .ok () →
      P (r.closing.say .info "reporter.stopped" [("ticks", .int r.ticks)], .ok ())) :
    P r.finish := by
  have he : ((r.enter .stopped).note (.closing .stopped)).emitter.shutdown.2 =
      r.emitter.shutdown.2 := rfl
  unfold finish
  dsimp only
  rw [show (r.enter .stopped).phase = .stopped from rfl, onEmitter_shutdown, he]
  cases ha : r.emitter.shutdown.2 with
  | error f => exact refused f ha
  | ok _ => exact done ha

end FleetHealth.Reporter
