import FleetHealth.Proofs.Emitter.Frame

/-!
# Proofs — Emitter — Call

A public call taken apart.  A sample is refused by the gate, dropped because the emitter is off, or handed to the sink; an error of an indicator is one step of its tally and one sample; a sample that is lost is, besides, an error of its indicator.  `offer_cases`, `recordError_cases` and `submit_cases` say so once, so that no later proof opens the calls again.

An `Invariant` is a property that each of these parts keeps, and a flush and a shutdown keep; `Invariant.run` carries it along every history.  A `SampleInvariant` is one that the parts alone keep.
-/

namespace FleetHealth.Emitter

/-- What is answered when a sample was handed to the sink: a crash is a fault. -/
def Attempt.answer : Attempt → Except Fault Attempt
  | crashed f => .error f
  | a         => .ok a

/-- The emitter with one more error of an indicator in its tally. -/
def counted (e : Emitter) (k : Key) : Emitter := { e with health := e.health.countError k }

/-- The report of the tally of an indicator. -/
def reportTally (e : Emitter) (k : Key) (indicator : Datum) : Emitter × Except Fault Attempt :=
  (e.counted k).offer .sinkErrors .gauge (.int ((e.counted k).health.tally k))
    (.record [("indicator", indicator)])

/-! ### The parts of a call -/

/-- **A sample**: refused, dropped or handed to the sink. -/
theorem offer_cases {P : Emitter × Except Fault Attempt → Prop} (e : Emitter) (m : Metric)
    (t : MetricType) (v d : Datum)
    (refused : ∀ f, accept m t v d = .error f → P (e, .error f))
    (dropped : ∀ x tags, accept m t v d = .ok (x, tags) → e.health.isOff = true →
      P (e, .ok .settled))
    (handed : ∀ x tags e' a, accept m t v d = .ok (x, tags) → e.health.isOff = false →
      e.attempt m x (e.tagged tags) = (e', a) → P (e', a.answer)) :
    P (e.offer m t v d) := by
  unfold offer
  split
  case h_1 f h => exact refused f h
  case h_2 x tags h =>
    split
    case isTrue hoff => exact dropped x tags h hoff
    case isFalse hon =>
      have hon : e.health.isOff = false := by simpa using hon
      split
      case h_1 e₁ f hf => exact handed x tags e₁ (.crashed f) h hon hf
      case h_2 e₁ a hne ha =>
        have hp := handed x tags e₁ a h hon ha
        cases a with
        | settled => exact hp
        | lost => exact hp
        | crashed f => exact absurd rfl (hne f)

/-- **An error of an indicator**: nothing, when the indicator is no key, and otherwise one step of its
tally and the report of it. -/
theorem recordError_cases {P : Emitter × Except Fault Nat → Prop} (e : Emitter) (i : Datum)
    (unhashable : ∀ s, Key.ofDatum i = .error s → P (e, .error (.shape s)))
    (refused : ∀ k e' f, Key.ofDatum i = .ok k → e.reportTally k i = (e', .error f) →
      P (e', .error f))
    (reported : ∀ k e' a, Key.ofDatum i = .ok k → e.reportTally k i = (e', .ok a) →
      P (e', .ok ((e.counted k).health.tally k))) :
    P (e.recordError i) := by
  unfold recordError
  split
  case h_1 s h => exact unhashable s h
  case h_2 k h =>
    dsimp only
    split
    case h_1 e₁ f hf => exact refused k e₁ f h hf
    case h_2 e₁ a ha => exact reported k e₁ a h ha

theorem recordError_of_error {e : Emitter} {i : Datum} {s : ShapeFault}
    (h : Key.ofDatum i = .error s) : e.recordError i = (e, .error (.shape s)) := by
  unfold recordError
  rw [h]

theorem recordError_of_ok {e : Emitter} {i : Datum} {k : Key} (h : Key.ofDatum i = .ok k) :
    e.recordError i =
      match e.reportTally k i with
      | (e', .error f) => (e', .error f)
      | (e', .ok _)    => (e', .ok ((e.counted k).health.tally k)) := by
  unfold recordError
  rw [h]
  rfl

section offer

variable {e : Emitter} {m : Metric} {t : MetricType} {v d : Datum}

theorem offer_of_error {f : Fault} (h : accept m t v d = .error f) :
    e.offer m t v d = (e, .error f) := by
  rw [offer, h]

theorem offer_of_off {admitted : Binary64 × Tags} (h : accept m t v d = .ok admitted)
    (hoff : e.health.isOff = true) : e.offer m t v d = (e, .ok .settled) := by
  rw [offer, h]
  exact if_pos hoff

theorem offer_of_on {x : Binary64} {tags : Tags} (h : accept m t v d = .ok (x, tags))
    (hon : e.health.isOff = false) :
    e.offer m t v d =
      ((e.attempt m x (e.tagged tags)).1, (e.attempt m x (e.tagged tags)).2.answer) := by
  refine offer_cases (P := fun r => r = _) e m t v d ?_ ?_ ?_
  · intro f hf
    cases h.symm.trans hf
  · intro x' tags' _ hoff
    cases hon.symm.trans hoff
  · intro x' tags' e' a hx _ ha
    obtain ⟨rfl, rfl⟩ := Prod.mk.inj (Except.ok.inj (h.symm.trans hx))
    rw [ha]

end offer

theorem recordError_fst {e : Emitter} {i : Datum} {k : Key} (h : Key.ofDatum i = .ok k) :
    (e.recordError i).1 = (e.reportTally k i).1 := by
  rw [recordError_of_ok h]
  cases e.reportTally k i with
  | mk e' r => cases r <;> rfl

/-- **A sample and its loss**: a lost sample is an error of its indicator, unless it is a tally. -/
theorem submit_cases {P : Emitter × Except Fault Unit → Prop} (e : Emitter) (m : Metric)
    (t : MetricType) (v d : Datum)
    (refused : ∀ e' f, e.offer m t v d = (e', .error f) → P (e', .error f))
    (kept : ∀ e' a, e.offer m t v d = (e', .ok a) → (a = .lost → m = .sinkErrors) →
      P (e', .ok ()))
    (lost : ∀ e₁ e' r, e.offer m t v d = (e₁, .ok .lost) → m ≠ .sinkErrors →
      e₁.recordError (.text m.name) = (e', r) → P (e', r.map fun _ => ())) :
    P (e.submit m t v d) := by
  unfold submit
  split
  case h_1 e₁ f h => exact refused e₁ f h
  case h_2 e₁ h =>
    split
    case isTrue hm => exact kept e₁ .lost h fun _ => hm
    case isFalse hm =>
      split
      case h_1 e₂ f hf => exact lost e₁ e₂ (.error f) h hm hf
      case h_2 e₂ n hn => exact lost e₁ e₂ (.ok n) h hm hn
  case h_3 e₁ a h ha => exact kept e₁ a ha fun hl => (h hl).elim

section submit

variable {e e' : Emitter} {m : Metric} {t : MetricType} {v d : Datum}

theorem submit_of_error {f : Fault} (h : e.offer m t v d = (e', .error f)) :
    e.submit m t v d = (e', .error f) := by
  refine submit_cases (P := fun r => r = (e', .error f)) e m t v d ?_ ?_ ?_
  · intro e₁ g hg
    cases hg.symm.trans h
    rfl
  · intro e₁ a ha _
    cases ha.symm.trans h
  · intro e₁ e₂ r hl _ _
    cases hl.symm.trans h

theorem submit_of_kept {a : Attempt} (h : e.offer m t v d = (e', .ok a))
    (hl : a = .lost → m = .sinkErrors) : e.submit m t v d = (e', .ok ()) := by
  refine submit_cases (P := fun r => r = (e', .ok ())) e m t v d ?_ ?_ ?_
  · intro e₁ g hg
    cases hg.symm.trans h
  · intro e₁ b hb _
    cases hb.symm.trans h
    rfl
  · intro e₁ e₂ r hb hm _
    cases hb.symm.trans h
    exact absurd (hl rfl) hm

theorem submit_of_lost {e₂ : Emitter} {r : Except Fault Nat} (h : e.offer m t v d = (e', .ok .lost))
    (hm : m ≠ .sinkErrors) (hr : e'.recordError (.text m.name) = (e₂, r)) :
    e.submit m t v d = (e₂, r.map fun _ => ()) := by
  refine submit_cases (P := fun p => p = (e₂, r.map fun _ => ())) e m t v d ?_ ?_ ?_
  · intro e₁ g hg
    cases hg.symm.trans h
  · intro e₁ b hb hl
    cases hb.symm.trans h
    exact absurd (hl rfl) hm
  · intro e₁ e₃ p hb _ hp
    cases hb.symm.trans h
    cases hp.symm.trans hr
    rfl

end submit

theorem perform_recordError {e e' : Emitter} {i : Datum} {r : Except Fault Nat}
    (h : e.recordError i = (e', r)) : (e.perform (.recordError i)).1 = e' := by
  simp only [perform, h]

theorem perform_sample {e e' : Emitter} {m : Metric} {t : MetricType} {v d : Datum}
    {r : Except Fault Unit} (h : e.submit m t v d = (e', r)) :
    (e.perform (.sample t m v d)).1 = e' := by
  simp only [perform, h]

/-! ### What a call keeps -/

/-- A property of emitters that every part of a sample and of an error keeps. -/
structure SampleInvariant (P : Emitter → Prop) : Prop where
  attempt : ∀ {e m t v d x tags e' a}, accept m t v d = .ok (x, tags) → e.health.isOff = false →
    e.attempt m x (e.tagged tags) = (e', a) → P e → P e'
  counted : ∀ {e} k, P e → P (e.counted k)

/-- A property of emitters that every part of a public call keeps. -/
structure Invariant (P : Emitter → Prop) : Prop extends SampleInvariant P where
  flush : ∀ {e}, P e → P e.flush.1
  shutdown : ∀ {e}, P e → P e.shutdown.1

namespace SampleInvariant

variable {P : Emitter → Prop} (inv : SampleInvariant P)
include inv

theorem offer {e : Emitter} (h : P e) (m : Metric) (t : MetricType) (v d : Datum) :
    P (e.offer m t v d).1 := by
  refine offer_cases (P := fun r => P r.1) e m t v d (fun _ _ => h) (fun _ _ _ _ => h) ?_
  intro x tags e' a hx hon ha
  exact inv.attempt hx hon ha h

theorem reportTally {e : Emitter} (h : P e) (k : Key) (i : Datum) : P (e.reportTally k i).1 := by
  rw [Emitter.reportTally]
  exact inv.offer (inv.counted k h) _ _ _ _

theorem recordError {e : Emitter} (h : P e) (i : Datum) : P (e.recordError i).1 := by
  refine recordError_cases (P := fun r => P r.1) e i (fun _ _ => h) ?_ ?_
  · intro k e' f _ hr
    have hk := inv.reportTally h k i
    rwa [hr] at hk
  · intro k e' a _ hr
    have hk := inv.reportTally h k i
    rwa [hr] at hk

theorem submit {e : Emitter} (h : P e) (m : Metric) (t : MetricType) (v d : Datum) :
    P (e.submit m t v d).1 := by
  have ho := inv.offer h m t v d
  refine submit_cases (P := fun r => P r.1) e m t v d ?_ ?_ ?_
  · intro e' f hf
    rwa [hf] at ho
  · intro e' a ha _
    rwa [ha] at ho
  · intro e₁ e' r hl _ hr
    rw [hl] at ho
    have hc := inv.recordError ho (.text m.name)
    rwa [hr] at hc

end SampleInvariant

namespace Invariant

variable {P : Emitter → Prop} (inv : Invariant P)
include inv

theorem perform {e : Emitter} (h : P e) (c : Call) : P (e.perform c).1 := by
  cases c with
  | sample t m v d => exact inv.submit h m t v d
  | recordError i => exact inv.recordError h i
  | flush => exact inv.flush h
  | shutdown => exact inv.shutdown h

/-- **What every part of a call keeps, every history keeps.** -/
theorem run {e : Emitter} (h : P e) (calls : List Call) : P (e.run calls) := by
  induction calls generalizing e with
  | nil => exact h
  | cons c cs ih => exact ih (inv.perform h c)

end Invariant

/-- An emitter writes down nothing but its own. -/
theorem own_invariant : Invariant Own where
  attempt := by
    intro e m t v d x tags e' a _ _ ha h
    have hk := (attempt_handed e m x (e.tagged tags)).own h
    rwa [ha] at hk
  counted := fun _ h => h
  flush := fun {e} h => (flush_framed e).own h
  shutdown := fun {e} h => (shutdown_framed e).own h

/-- What a sink raises before its next flush is not touched by samples and errors. -/
theorem beforeFlush_invariant (o : Option Fault) :
    SampleInvariant fun e => e.sink.beforeFlush = o where
  attempt := by
    intro e m t v d x tags e' a _ _ ha h
    have hk := (attempt_handed e m x (e.tagged tags)).beforeFlush
    rw [ha] at hk
    exact hk.trans h
  counted := fun _ h => h

end FleetHealth.Emitter
