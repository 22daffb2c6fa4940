import FleetHealth.Proofs.Reporter.Numbering

/-!
# Proofs — Reporter — Phase

In which phase a run does what it does.  What can be seen of the phases is read off the journal as a list of *sights*: queries, samples of indicators, ends of ticks, sleeps and the beginning of the shutdown, each in the phase in which it was written down, and the moment at which the reporter is told to stop.

* `Sight.IsTimely` says which phase each of them belongs to.
* `Seen` says which sights lead from one reporter to another: all of them timely, and no sleep after the reporter was told.  Sights compose (`Seen.trans`), and every act keeps this (`act_seen`).
* `cycle_seen`, `loop_seen`: a tick, after which the reporter is idle again, and the loop.
* `run_phases` is the run, up to the shutdown at its end, in which nothing more is seen.
-/

namespace FleetHealth

/-- What a journal shows of phases. -/
inductive Sight where
  | asked (phase : Phase)
  | submitted (phase : Phase)
  | ended (phase : Phase)
  | slept (phase : Phase)
  | closing (phase : Phase)
  | told
deriving DecidableEq

/-- The sight that an event is. -/
def ReporterEvent.sight? {τ : Type} : ReporterEvent τ → Option Sight
  | .asked _ p     => some (.asked p)
  | .submitted _ p => some (.submitted p)
  | .ended _ p     => some (.ended p)
  | .slept _ p     => some (.slept p)
  | .closing p     => some (.closing p)
  | .told          => some .told
  | _              => none

namespace Sight

/-- The discipline of phases: queries are asked in a tick, samples are submitted while emitting, a tick
that is over leaves the reporter idle, and it sleeps and stops in phases of their own. -/
def IsTimely : Sight → Prop
  | asked p     => p = .tick
  | submitted p => p = .emit
  | ended p     => p = .idle
  | slept p     => p = .sleep
  | closing p   => p = .stopped
  | told        => True

/-- Whether one sight may come before another: once the reporter is told to stop, it does not fall
asleep. -/
def MayPrecede (s t : Sight) : Prop := s = told → ∀ p, t ≠ slept p

end Sight

namespace Reporter

variable {τ : Type}

/-- What has been seen of the phases, the first of it first. -/
def sights (r : Reporter τ) : List Sight := (r.journal.filterMap ReporterEvent.sight?).reverse

theorem sights_of_journal {r r' : Reporter τ} (evs : List (ReporterEvent τ))
    (h : r'.journal = evs ++ r.journal) :
    r'.sights = r.sights ++ (evs.filterMap ReporterEvent.sight?).reverse := by
  rw [sights, h, List.filterMap_append, List.reverse_append, sights]

/-- What is written down need not be a sight. -/
theorem sights_silent {ev : ReporterEvent τ} (h : ev.sight? = none) (r : Reporter τ) :
    (r.note ev).sights = r.sights := by
  rw [sights_of_journal (r := r) [ev] rfl, List.filterMap_cons_none h]
  exact List.append_nil _

/-- The events of an emitter are no sights. -/
theorem sights_called (r : Reporter τ) (c : Emitter.Call) : (r.called c).sights = r.sights := by
  rw [sights_of_journal _ (called_journal r c), filterMap_perform fun _ _ => rfl]
  exact List.append_nil _

/-- `r'` came of `r` by timely sights, before the shutdown.  It was told to stop if one of them says so,
and did not fall asleep after that. -/
structure Seen (ss : List Sight) (r r' : Reporter τ) : Prop where
  sights : r'.sights = r.sights ++ ss
  timely : ∀ s ∈ ss, s.IsTimely
  running : ∀ p, .closing p ∉ ss
  stopRequested : r'.stopRequested = (r.stopRequested || ss.contains .told)
  wakeful : r.stopRequested = true → ∀ p, .slept p ∉ ss
  ordered : ss.Pairwise Sight.MayPrecede

/-- `r'` came of `r` by some timely sights. -/
def Saw (r r' : Reporter τ) : Prop := ∃ ss, Seen ss r r'

namespace Seen

variable {ss ts : List Sight} {r r₁ r₂ : Reporter τ}

theorem trans (h : Seen ss r r₁) (k : Seen ts r₁ r₂) : Seen (ss ++ ts) r r₂ where
  sights := by rw [k.sights, h.sights, List.append_assoc]
  timely := List.forall_mem_append.mpr ⟨h.timely, k.timely⟩
  running := fun p hp => (List.mem_append.mp hp).elim (h.running p) (k.running p)
  stopRequested := by
    rw [k.stopRequested, h.stopRequested, List.contains_append, Bool.or_assoc]
  wakeful := by
    intro hr p hp
    have hr₁ : r₁.stopRequested = true := by rw [h.stopRequested, hr, Bool.true_or]
    exact (List.mem_append.mp hp).elim (h.wakeful hr p) (k.wakeful hr₁ p)
  ordered := by
    refine List.pairwise_append.mpr ⟨h.ordered, k.ordered, fun s hs t ht htold p hp => ?_⟩
    -- what was told in the first part keeps the second part awake
    have hr₁ : r₁.stopRequested = true := by
      rw [h.stopRequested, List.contains_iff_mem.mpr (htold ▸ hs), Bool.or_true]
    exact k.wakeful hr₁ p (hp ▸ ht)

/-- Nothing was seen. -/
theorem quiet (hs : r₁.sights = r.sights) (ht : r₁.stopRequested = r.stopRequested) :
    Seen [] r r₁ where
  sights := hs.trans (List.append_nil _).symm
  timely := fun _ h => (List.not_mem_nil h).elim
  running := fun _ => List.not_mem_nil
  stopRequested := ht.trans (Bool.or_false _).symm
  wakeful := fun _ _ => List.not_mem_nil
  ordered := .nil

/-- Something timely was written down, other than that the reporter was told to stop; it was not that a
reporter fell asleep which had been told. -/
theorem note {ev : ReporterEvent τ} {s : Sight} (h : ev.sight? = some s) (ht : s.IsTimely)
    (hr : ∀ p, s ≠ .closing p) (hn : s ≠ .told)
    (hw : r.stopRequested = true → ∀ p, s ≠ .slept p) : Seen [s] r (r.note ev) where
  sights := by
    rw [sights_of_journal (r := r) [ev] rfl, List.filterMap_cons_some h]
    rfl
  timely := List.forall_mem_singleton.mpr ht
  running := fun p hp => hr p (List.mem_singleton.mp hp).symm
  stopRequested := by simp [Reporter.note, hn.symm]
  wakeful := fun h p hp => hw h p (List.mem_singleton.mp hp).symm
  ordered := List.pairwise_singleton _ _

end Seen

namespace Saw

variable {r r₁ r₂ : Reporter τ}

theorem trans (h : Saw r r₁) (k : Saw r₁ r₂) : Saw r r₂ := by
  obtain ⟨ss, hs⟩ := h
  obtain ⟨ts, ht⟩ := k
  exact ⟨ss ++ ts, hs.trans ht⟩

theorem quiet (hs : r₁.sights = r.sights) (ht : r₁.stopRequested = r.stopRequested) : Saw r r₁ :=
  ⟨[], .quiet hs ht⟩

theorem refl (r : Reporter τ) : Saw r r := .quiet rfl rfl

theorem silent {ev : ReporterEvent τ} (h : ev.sight? = none) (r : Reporter τ) : Saw r (r.note ev) :=
  .quiet (sights_silent h r) rfl

theorem called (r : Reporter τ) (c : Emitter.Call) : Saw r (r.called c) :=
  .quiet (sights_called r c) rfl

end Saw

/-! ### Turns -/

theorem tell_seen (r : Reporter τ) (stop : Bool) : Saw r (r.tell stop) := by
  refine tell_cases (P := Saw r) r stop (fun _ => .refl r) (fun _ => ?_)
  refine ⟨[.told], sights_of_journal [.told] rfl, List.forall_mem_singleton.mpr trivial, ?_,
    (Bool.or_true _).symm, ?_, List.pairwise_singleton _ _⟩
  · exact fun p hp => nomatch List.mem_singleton.mp hp
  · exact fun _ p hp => nomatch List.mem_singleton.mp hp

/-- **One act** is done in its phase, and is no sleep. -/
theorem act_seen {r r' : Reporter τ} (h : Act r r') : Saw r r' := by
  cases h with
  | enter | waited | turned => exact .quiet rfl rfl
  | failed | crashed => exact .silent rfl r
  | called c => exact .called r c
  | told stop => exact tell_seen r stop
  | asked h o => exact ⟨_, .note rfl h nofun nofun nofun⟩
  | submitted h m => exact ⟨_, .note rfl h nofun nofun nofun⟩

variable [TimeScale τ]

/-- **The turns of bindings** do everything in its phase. -/
theorem walk_seen (heeds : Bool) (bs : List Binding) (r : Reporter τ) (report : TickReport τ) :
    Saw r (walk heeds bs r report).1 :=
  (walk_acts heeds bs r report).lift .refl .trans act_seen

/-- A query leaves the phase as it is until it is over. -/
theorem ask_phase (r : Reporter τ) (o : Operation) : (r.ask o).1.phase = r.phase :=
  (ask_keeps r o).phase

/-! ### Ticks -/

omit [TimeScale τ] in
/-- The end of a tick whose flush answered. -/
theorem ending_seen {r : Reporter τ} (h : r.phase = .idle) : Saw r r.ending :=
  ⟨_, .note rfl h nofun nofun nofun⟩

theorem sayCompleted_seen (r : Reporter τ) (report : TickReport τ) : Saw r (r.sayCompleted report) :=
  sayCompleted_cases (P := Saw r) r report (fun _ => .silent rfl r)
    (fun _ _ => (Saw.silent rfl r).trans (.silent rfl _))

/-- **A tick leaves the reporter idle**, however it ends, where its flush answers. -/
theorem tick_seen {r : Reporter τ} (hflush : r.flushAnswers = true) :
    Saw r (r.tick true).1 ∧ (r.tick true).1.phase = .idle := by
  have hwalk := (Saw.silent rfl r).trans (walk_seen true r.bindings (r.note (.began r.clock)) .empty)
  have hcounted : ∀ r : Reporter τ, Saw r r.flushing.counted := fun r =>
    ((Saw.silent rfl r).trans (.called _ .flush)).trans (.quiet rfl rfl)
  unfold flushAnswers at hflush
  refine tick_cases (P := fun p => Saw r p.1 ∧ p.1.phase = .idle) true r ?_ ?_ ?_
  · intro r₁ report escaped f hw hf
    rw [hw, hf] at hflush
    cases hflush
  · intro r₁ report f hw _
    rw [hw] at hwalk
    exact ⟨(hwalk.trans (hcounted r₁)).trans (ending_seen rfl), rfl⟩
  · intro r₁ report report' hw _ _
    rw [hw] at hwalk
    have hsaid := sayCompleted_seen r₁.flushing.counted report'
    have hphase := (sayCompleted_keeps r₁.flushing.counted report').phase
    have hticked : ∀ r : Reporter τ, Saw r (r.note (.ticked report')) := fun r => .silent rfl r
    exact ⟨(((hwalk.trans (hcounted r₁)).trans hsaid).trans (hticked _)).trans (ending_seen hphase),
      hphase⟩

/-- A crash is written down, which is no sight. -/
theorem cycle_seen {r : Reporter τ} (hflush : r.flushAnswers = true) : Saw r r.cycle := by
  have htick := (tick_seen hflush).1
  refine cycle_cases (P := Saw r) r (fun r₁ f h => ?_) (fun r₁ _ h => ?_)
  · rw [h] at htick
    exact htick.trans (.silent rfl r₁)
  · rw [h] at htick
    exact htick

/-! ### Runs -/

/-- A reporter falls asleep only when it has not been told to stop. -/
theorem asleep_seen {r : Reporter τ} (hflush : r.flushAnswers = true)
    (h : r.cycle.stopRequested = false) : Saw r r.asleep := by
  have hslept : Saw (r.cycle.enter .sleep) r.asleep :=
    ⟨_, .note rfl rfl nofun nofun fun htold => (Bool.false_ne_true (h.symm.trans htold)).elim⟩
  have henter : Saw r.cycle (r.cycle.enter .sleep) := .quiet rfl rfl
  exact ((cycle_seen hflush).trans henter).trans hslept

/-- **The loop** does everything in its phase. -/
theorem loop_seen (sleeps : Nat) (r : Reporter τ)
    (hflush : (r.begins sleeps).all flushAnswers = true) : Saw r (r.loop sleeps) := by
  induction sleeps, r using loop_induction with
  | stopped n r h =>
      rw [loop_stopped h]
      exact .refl r
  | cut n r hgo h =>
      rw [begins_cut hgo h] at hflush
      rw [loop_cut hgo h]
      exact cycle_seen (List.all_eq_true.mp hflush r (List.mem_singleton_self r))
  | last r hgo h =>
      rw [begins_zero hgo] at hflush
      rw [loop_zero hgo h]
      exact (asleep_seen (List.all_eq_true.mp hflush r (List.mem_singleton_self r)) h).trans
        (tell_seen _ true)
  | next n r hgo h ih =>
      rw [begins_succ hgo h, List.all_cons, Bool.and_eq_true] at hflush
      have hwake : Saw r.asleep r.awake := .quiet rfl rfl
      rw [loop_succ hgo h]
      exact ((asleep_seen hflush.1 h).trans hwake).trans (ih hflush.2)

omit [TimeScale τ] in
/-- **The end of a run**: the reporter is stopped before its emitter is shut down, and stays so. -/
theorem finish_seen {r : Reporter τ} (h : r.emitter.shutdown.2.isOk = true) :
    ∃ r', r.finish = (r', .ok ()) ∧ r'.phase = .stopped
      ∧ r'.sights = r.sights ++ [.closing .stopped] := by
  have hclosing : ((r.enter .stopped).note (.closing .stopped)).sights =
      r.sights ++ [.closing .stopped] := sights_of_journal [.closing .stopped] rfl
  refine ⟨_, finish_eq h, rfl, ?_⟩
  rw [say, sights_silent rfl, closing, sights_called, hclosing]

/-- **Everything in a run is done in its phase.**  Whatever its queries, its shapes and its sink raise
and whenever it is told to stop, as long as no flush raises: a query is asked in a tick, and the phase
stays until it is over; samples of indicators are submitted while the reporter emits; it is idle when a
tick is over, whether the tick is completed or crashes; it falls asleep in the phase for that, and not
once it has been told to stop; and it is stopped when its emitter is shut down, after which nothing of
all this is done. -/
theorem run_phases (r : Reporter τ) (sleeps : Nat) (hflush : r.flushesAnswer sleeps = true) :
    ∃ r' course, r.run sleeps = (r', .ok ())
      ∧ r'.phase = .stopped
      ∧ r'.sights = r.sights ++ course ++ [.closing .stopped]
      ∧ (∀ s ∈ course, s.IsTimely)
      ∧ (∀ p, .closing p ∉ course)
      ∧ course.Pairwise Sight.MayPrecede
      ∧ (r.stopRequested = true → course = [])
      ∧ (∀ s ∈ r.sayStarted.begins sleeps, (s.tick true).1.phase = .idle)
      ∧ ∀ (s : Reporter τ) o, (s.ask o).1.phase = s.phase := by
  obtain ⟨hticks, hshut⟩ := Bool.and_eq_true_iff.mp hflush
  have hstarted : Saw r r.sayStarted := .silent rfl r
  obtain ⟨course, hc⟩ := hstarted.trans (loop_seen sleeps _ hticks)
  obtain ⟨r', hrun, hphase, hsights⟩ := finish_seen hshut
  refine ⟨r', course, hrun, hphase, ?_, hc.timely, hc.running, hc.ordered, fun hstop => ?_,
    fun s hs => (tick_seen (List.all_eq_true.mp hticks s hs)).2, ask_phase⟩
  · rw [hsights, hc.sights]
  · -- a reporter that was told before its run begins no tick
    have hsame := hc.sights
    rw [loop_stopped (r := r.sayStarted) hstop, sayStarted, say, sights_silent rfl] at hsame
    exact List.self_eq_append_right.mp hsame

/-- A reporter of three bindings whose sink crashes on the first sample that it is handed, told to stop
in the second query of its third tick. -/
def unrulyReporter : Reporter Rat :=
  { toldReporter with
    emitter := { sink := .rehearsal { deliveries := ⟨[some (.outside .runtime none)], none⟩ } } }

/-- The first tick crashes over the error of the first binding, which has no points to emit; the third is
the last, and is followed by no sleep. -/
theorem phases_of_unruly_run :
    unrulyReporter.flushesAnswer 5 = true
      ∧ ∃ r', unrulyReporter.run 5 = (r', .ok ())
        ∧ r'.phase = .stopped
        ∧ r'.sights =
          [.asked .tick, .ended .idle, .slept .sleep,
           .asked .tick, .asked .tick, .submitted .emit, .submitted .emit, .asked .tick,
           .submitted .emit, .ended .idle, .slept .sleep,
           .asked .tick, .asked .tick, .told, .submitted .emit, .submitted .emit, .ended .idle,
           .closing .stopped] := by
  have hflush : unrulyReporter.flushesAnswer 5 = true := by decide +kernel
  obtain ⟨r', -, hrun, hphase, -⟩ := run_phases unrulyReporter 5 hflush
  have hr : (unrulyReporter.run 5).1 = r' := by rw [hrun]
  refine ⟨hflush, r', hrun, hphase, ?_⟩
  rw [← hr]
  decide +kernel

end Reporter
end FleetHealth
