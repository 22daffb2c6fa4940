import FleetHealth.Proofs.Reporter.Tick

/-!
# Proofs — Reporter — Independence

The report of a tick is independent of the sink.  What a binding contributes is read off what its query brought and off the gate, and neither knows the emitter: two reporters with the same surroundings hear the same, and report the same, whatever has become of their sinks, what their emitters are tagged with, and what happens to the samples on the way.

* `Served` is what a tick needs of its emitter: that the sink raises only what is absorbed.
* `tick_heard`: the report of a served tick, from what is heard.
* `report_independent`: two served ticks report the same, with the dimensions that the shapes gave.

The application tag is added to the tags that a sink is handed, which are a map of their own, and not to the dimensions of a point; so it can be in no report.
-/

namespace FleetHealth

/-- The samples of a binding are points of its shape, as the shape gave them. -/
theorem Heard.mem_samples {h : Heard} {s : Sample} (hs : s ∈ h.samples) :
    ∃ a ps, h.answer = .ok a ∧ h.binding.shape.points a = .ok ps
      ∧ ⟨s.value, s.dims⟩ ∈ ps ∧ s.metric = h.binding.metric := by
  obtain ⟨p, hp, rfl⟩ := List.mem_map.mp hs
  have hp : p ∈ h.points := (List.takeWhile_prefix _).subset hp
  unfold Heard.points at hp
  split at hp
  case h_1 => cases hp
  case h_2 a ha =>
    split at hp
    case h_1 => cases hp
    case h_2 ps hps => exact ⟨a, ps, ha, hps, hp, rfl⟩

namespace Reporter

variable {τ : Type} [TimeScale τ]

/-- The emitter of a reporter serves the next tick: nothing is raised before its flush and, over the
calls that the tick makes, the sink raises only what an emitter absorbs and every tally stays a number
of the format. -/
structure Served (heeds : Bool) (r : Reporter τ) : Prop where
  calm : r.emitter.sink.beforeFlush = none
  sound : (r.emitter.clear.run ((hear heeds r.bindings r).flatMap Heard.calls)).Sound

/-- A new emitter serves a tick when its sink raises only what is absorbed and no tally can outgrow the
format. -/
theorem served_ofSink {heeds : Bool} {r : Reporter τ} (o : EmitterOptions) (s : Sink)
    (he : r.emitter = .ofSink o s) (hb : s.beforeFlush = none)
    (ha : ∀ d ∈ (r.emitter.run ((hear heeds r.bindings r).flatMap Heard.calls)).deliveries,
      d.isAbsorbed = true)
    (hn : ((hear heeds r.bindings r).flatMap Heard.calls).length
      + (r.emitter.run ((hear heeds r.bindings r).flatMap Heard.calls)).deliveries.length
        ≤ twoPow 1023) :
    r.Served heeds := by
  rw [he] at ha hn
  refine ⟨by rw [he]; exact hb, ?_⟩
  rw [he]
  exact Emitter.sound_of_absorbed o s _ ha (Nat.le_trans hn Binary64.largestWhole_bounds.1)

/-- **The report of a served tick** is that of the bindings that were heard, in order. -/
theorem tick_heard {heeds : Bool} {r : Reporter τ} (hs : r.Served heeds) :
    ∃ r' duration, r.tick heeds =
      (r', .ok { (TickReport.empty : TickReport τ).hearing (hear heeds r.bindings r) r.bindings with
        duration := duration }) := by
  have hbegan : Told [] [] r (r.note (.began r.clock)) := told_note rfl r
  have hheard : hear heeds r.bindings (r.note (.began r.clock)) = hear heeds r.bindings r :=
    hear_congr heeds r.bindings hbegan.ear
  obtain ⟨r₁, hwalk, -, hbefore, -⟩ := walk_told heeds r.bindings (r.note (.began r.clock)) .empty
    (by rw [hheard]; exact hs.sound)
  obtain ⟨e, he⟩ := flush_answers (e := (r₁.note (.flushing r₁.phase)).emitter.clear)
    (hbefore.trans hs.calm)
  unfold tick
  dsimp only
  rw [hwalk]
  dsimp only
  rw [onEmitter_eq he, hheard]
  exact ⟨_, _, rfl⟩

/-- **The report of a tick does not depend on the sink.**  Two reporters with the same surroundings and
the same bindings, each with an emitter of any history, tag, limit and health whose sink raises only
what an emitter absorbs: both ticks answer, with the same samples, the same failed indicators and the
same word on whether the tick was interrupted; and every sample has the value and the dimensions that
its shape gave. -/
theorem report_independent (heeds : Bool) {r₁ r₂ : Reporter τ} (hear₁₂ : SameEar r₁ r₂)
    (hb : r₂.bindings = r₁.bindings) (hs₁ : r₁.Served heeds) (hs₂ : r₂.Served heeds) :
    ∃ out₁ out₂, (r₁.tick heeds).2 = .ok out₁ ∧ (r₂.tick heeds).2 = .ok out₂
      ∧ out₂.samples = out₁.samples
      ∧ out₂.failed = out₁.failed
      ∧ out₂.interrupted = out₁.interrupted
      ∧ ∀ s ∈ out₁.samples, ∃ h ∈ hear heeds r₁.bindings r₁, ∃ a ps,
          h.answer = .ok a ∧ h.binding.shape.points a = .ok ps
            ∧ ⟨s.value, s.dims⟩ ∈ ps ∧ s.metric = h.binding.metric := by
  obtain ⟨r₁', d₁, h₁⟩ := tick_heard hs₁
  obtain ⟨r₂', d₂, h₂⟩ := tick_heard hs₂
  have hsame : hear heeds r₂.bindings r₂ = hear heeds r₁.bindings r₁ := by
    rw [hb]
    exact hear_congr heeds r₁.bindings hear₁₂
  rw [hsame, hb] at h₂
  rw [h₁, h₂]
  refine ⟨_, _, rfl, rfl, rfl, rfl, rfl, fun s hs => ?_⟩
  obtain ⟨h, hh, hs⟩ := List.mem_flatMap.mp hs
  exact ⟨h, hh, Heard.mem_samples hs⟩

/-- The reporter of three bindings with an emitter that is tagged and that the first lost sample
disables. -/
def taggedReporter : Reporter Rat :=
  { lossyReporter with
    emitter := .ofSink ⟨some "reporter", 1⟩
      (.rehearsal { deliveries := .always (some (.outside .sinkFatal none)) }) }

/-- One sink loses a sample and another, tagged, is disabled in the middle of the tick: the reports
agree. -/
theorem report_of_two_sinks :
    SameEar lossyReporter taggedReporter
    ∧ lossyReporter.Served true ∧ taggedReporter.Served true
    ∧ (taggedReporter.tick true).1.emitter.health.disabled = true
    ∧ ∃ out₁ out₂, (lossyReporter.tick true).2 = .ok out₁ ∧ (taggedReporter.tick true).2 = .ok out₂
      ∧ out₂.samples = out₁.samples ∧ out₂.failed = out₁.failed := by
  have hsame : SameEar lossyReporter taggedReporter := ⟨rfl, rfl, rfl, rfl, rfl⟩
  have hlarge : twoPow 4 ≤ twoPow 1023 := twoPow_le (by decide)
  have hlossy : lossyReporter.Served true :=
    served_ofSink {} Emitter.losingSecond rfl rfl (by decide +kernel)
      (Nat.le_trans (by decide +kernel) hlarge)
  have htagged : taggedReporter.Served true :=
    served_ofSink ⟨some "reporter", 1⟩ _ rfl rfl (by decide +kernel)
      (Nat.le_trans (by decide +kernel) hlarge)
  obtain ⟨out₁, out₂, h₁, h₂, hsamples, hfailed, -⟩ :=
    report_independent true hsame rfl hlossy htagged
  exact ⟨hsame, hlossy, htagged, by decide +kernel, out₁, out₂, h₁, h₂, hsamples, hfailed⟩

end Reporter
end FleetHealth
