import Mathlib.Logic.Relation
import FleetHealth.Proofs.Emitter.Journal

/-!
# Proofs — Emitter — Motion

What a flush and a shutdown are made of.  `flush_cases` and `shutdown_cases` take the two calls apart: a flush is refused by what precedes it, left out, or done; a shutdown is a flush, and then the closed emitter is released.

A `Motion` is one step inside them, short of the release itself: the sink has moved on, what was seen at it is written down, an account is kept of an export, or a fault of the flush is absorbed.

* `flush_motions`: a flush is motions, on a sink of any kind.
* `releaseHook_motions`: a release is motions, and then it is written down.

What every motion keeps is kept by both (`Motions.lift`).  Account is kept only of exports, so where samples leave at once there is none.
-/

namespace FleetHealth.Emitter

/-! ### Flush and shutdown -/

/-- The emitter flushed: its hook is run, and a fault of it absorbed. -/
def flushed (e : Emitter) : Emitter := e.flushHook.1.absorb "sink.flush.failed" e.flushHook.2

/-- The emitter closed. -/
def close (e : Emitter) : Emitter := { e with health := { e.health with closed := true } }

/-- The emitter released: its hook is run, a fault of it absorbed, and the shutdown said. -/
def released (e : Emitter) : Emitter :=
  (e.releaseHook.1.absorb "sink.shutdown.failed" e.releaseHook.2).say .info "sink.shutdown"

/-- What precedes a flush raises what the sink is about to raise. -/
theorem prelude_snd (e : Emitter) : e.prelude.2 = e.sink.beforeFlush := by
  unfold prelude Sink.beforeFlush
  cases e.sink <;> rfl

/-- **A flush**: refused by what precedes it, left out because the emitter is off, or done. -/
theorem flush_cases {P : Emitter × Except Fault Unit → Prop} (e : Emitter)
    (refused : ∀ f, e.prelude.2 = some f → P (e.prelude.1, .error f))
    (left : e.prelude.2 = none → e.prelude.1.health.isOff = true → P (e.prelude.1, .ok ()))
    (done : e.prelude.2 = none → e.prelude.1.health.isOff = false →
      P (e.prelude.1.flushed, .ok ())) :
    P e.flush := by
  unfold flush
  split
  case h_1 e₁ f h =>
    rw [h] at refused
    exact refused f rfl
  case h_2 e₁ h =>
    rw [h] at left done
    split
    case isTrue hoff => exact left rfl hoff
    case isFalse hon => exact done rfl (Bool.eq_false_iff.mpr hon)

/-- **A shutdown**: nothing when the emitter was closed; refused with its flush; or the flushed emitter
is closed and then released. -/
theorem shutdown_cases {P : Emitter × Except Fault Unit → Prop} (e : Emitter)
    (closed : e.health.closed = true → P (e, .ok ()))
    (refused : ∀ f, e.health.closed = false → e.flush.2 = .error f → P (e.flush.1, .error f))
    (done : e.health.closed = false → e.flush.2 = .ok () → P (e.flush.1.close.released, .ok ())) :
    P e.shutdown := by
  unfold shutdown
  split
  case isTrue hc => exact closed hc
  case isFalse hc =>
    have hopen : e.health.closed = false := Bool.eq_false_iff.mpr hc
    split
    case h_1 e₁ f h =>
      rw [h] at refused
      exact refused f hopen rfl
    case h_2 e₁ a h =>
      rw [h] at done
      exact done hopen rfl

/-! ### Motions -/

/-- One step of a flush or of a release, short of writing the release down.  The sink stays one of its
kind, and only a sink that exports has an account to keep. -/
inductive Motion : Emitter → Emitter → Prop where
  | sink {e : Emitter} (s : Sink) (hn : s.name = e.sink.name)
      (hi : s.isImmediate = e.sink.isImmediate) : Motion e { e with sink := s }
  | flushed (e : Emitter) (o : Option Fault) : Motion e (e.note (.flushed o))
  | exporter (e : Emitter) (ev : ExporterEvent) : Motion e (e.note (.exporter ev))
  | closed (e : Emitter) : Motion e (e.note (.socket .close))
  | account {e : Emitter} (h : e.sink.isImmediate = false) (o : Option Fault) :
      Motion e (e.noteExport o)
  | absorbed (e : Emitter) (o : Option Fault) : Motion e (e.absorb "sink.flush.failed" o)

/-- Any number of motions, one after another. -/
abbrev Motions (e e' : Emitter) : Prop := Relation.ReflTransGen Motion e e'

/-- **What every motion keeps, all of them keep.** -/
theorem Motions.lift {Q : Emitter → Emitter → Prop} (hrefl : ∀ e, Q e e)
    (htrans : ∀ {e₁ e₂ e₃}, Q e₁ e₂ → Q e₂ e₃ → Q e₁ e₃) (hstep : ∀ {e e'}, Motion e e' → Q e e')
    {e e' : Emitter} (h : Motions e e') : Q e e' := by
  induction h with
  | refl => exact hrefl e
  | tail _ h ih => exact htrans ih (hstep h)

/-- Another sink of the kind of a known one. -/
theorem Motion.sink_of_eq {e : Emitter} {s s' : Sink} (hs : e.sink = s) (hn : s'.name = s.name)
    (hi : s'.isImmediate = s.isImmediate) : Motion e { e with sink := s' } := by
  subst hs
  exact .sink s' hn hi

/-- Another pipeline in the place of a pipeline. -/
theorem Motion.pipeline {e : Emitter} {p : Pipeline} (hs : e.sink = .otlp p) (p' : Pipeline) :
    Motion e { e with sink := .otlp p' } :=
  .sink_of_eq hs rfl rfl

/-- What a relay does is a motion of the emitter that heeds it, which exports. -/
theorem heed_motion {e : Emitter} (h : e.sink.isImmediate = false) (c : Relay.Contact) :
    Motion e (e.heed c) := by
  cases c with
  | shipped s o => exact .exporter e (.batch s.metrics o)
  | flushed t a => exact .exporter e .forceFlush
  | shut t options raised => exact .exporter e .shutdown
  | told report => exact .account h report

theorem heed_isImmediate (e : Emitter) (c : Relay.Contact) :
    (e.heed c).sink.isImmediate = e.sink.isImmediate := by
  cases c with
  | told report =>
      cases report with
      | none => rfl
      | some f => exact noteFatal_isImmediate e f
  | _ => rfl

theorem heeds_motions (contacts : List Relay.Contact) {e : Emitter}
    (h : e.sink.isImmediate = false) : Motions e (contacts.foldl heed e) := by
  induction contacts generalizing e with
  | nil => exact .refl
  | cons c cs ih => exact .head (heed_motion h c) (ih ((heed_isImmediate e c).trans h))

theorem callExporter_motions (e : Emitter) (c : Relay.Call) : Motions e (e.callExporter c).1 := by
  unfold callExporter
  split
  case h_1 p hs => exact .head (.pipeline hs _) (heeds_motions _ rfl)
  case h_2 => exact .refl

/-- **A plan is followed in motions**, whatever the provider does. -/
theorem follow_motions (plan : Plan) (e : Emitter) : Motions e (follow plan e).1 := by
  induction plan generalizing e with
  | done raised => exact .refl
  | call c next ih => exact (callExporter_motions e c).trans (ih _ _)

theorem ask_motions (e : Emitter) (r : Provider.Request) : Motions e (e.ask r).1 := by
  unfold ask
  split
  case h_1 p hs => exact .head (.pipeline hs _) (follow_motions _ _)
  case h_2 => exact .refl

/-! ### Hooks -/

theorem prelude_motions (e : Emitter) : Motions e e.prelude.1 := by
  unfold prelude
  split
  case h_1 r hs => exact .single (.sink_of_eq hs rfl rfl)
  case h_2 => exact .refl

theorem flushHook_motions (e : Emitter) : Motions e e.flushHook.1 := by
  unfold flushHook
  split
  case h_1 r hs =>
    have hmoved : Motions e { e with sink := .rehearsal { r with flushes := r.flushes.next.2 } } :=
      .single (.sink_of_eq hs rfl rfl)
    exact hmoved.tail (.flushed _ r.flushes.next.1)
  case h_2 => exact (ask_motions e _).tail (.flushed _ _)
  case h_3 => exact .single (.flushed e _)

/-- **A flush is motions.** -/
theorem flush_motions (e : Emitter) : Motions e e.flush.1 := by
  have hp := prelude_motions e
  exact flush_cases (P := fun r => Motions e r.1) e (fun _ _ => hp) (fun _ _ => hp)
    (fun _ _ => (hp.trans (flushHook_motions _)).tail (.absorbed _ _))

/-- **A release is motions, and then it is written down.** -/
theorem releaseHook_motions (e : Emitter) :
    ∃ e' o, Motions e e' ∧ e.releaseHook.1 = e'.note (.released o) := by
  unfold releaseHook
  split
  case h_1 r hs =>
    have hmoved : Motions e { e with sink := .rehearsal { r with releases := r.releases.next.2 } } :=
      .single (.sink_of_eq hs rfl rfl)
    exact ⟨_, r.releases.next.1, hmoved, rfl⟩
  case h_2 s hs =>
    split
    · have hclosed : Motions e { e with sink := .statsd s.close.1 } := .single (.sink_of_eq hs rfl rfl)
      exact ⟨_, _, hclosed.tail (.closed _), rfl⟩
    · exact ⟨_, _, .refl, rfl⟩
  case h_3 => exact ⟨_, _, ask_motions e _, rfl⟩
  case h_4 => exact ⟨_, _, .refl, rfl⟩

end FleetHealth.Emitter
