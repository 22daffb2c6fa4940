import Mathlib.Algebra.Order.BigOperators.Group.List
import Mathlib.Algebra.Order.Ring.Rat
import Mathlib.Tactic.Ring
import FleetHealth.Proofs.Reporter.Act
import FleetHealth.Proofs.Reporter.Stop

/-!
# Proofs — Reporter — Cadence

A run keeps its cadence, in exact time.  What a run does is read off its journal as a list of *marks*, the times at which ticks begin and end and the sleeps between them, and the marks are those of *laps*: a tick and the sleep after it.

* `Passed` says that part of a tick has left no mark, but perhaps that the reporter was told to stop.  Its parts compose (`Passed.trans`).
* `act_passed`, `cycle_ticked`: one act of a turn, and a tick, which leaves two marks of time even when it crashes.
* `Laps` is the step of the loop, as the clock shows it; `loop_laps` finds the laps of every loop.
* `Laps.next_start`, `Laps.start_eq`: each tick begins when the one before has ended and the cadence has passed since that one began, so the schedule is late by the overruns so far and by nothing else.
* `run_keeps_cadence` is the run.

The schedule is not a grid: after an overrun the cadence is counted from the late start, and no tick is made up for.
-/

namespace FleetHealth

/-- What a journal says of time. -/
inductive Mark where
  | began (time : Rat)
  | ended (time : Rat)
  | slept (delay : Rat)
  | told
deriving DecidableEq

/-- The mark that an event is. -/
def ReporterEvent.mark? : ReporterEvent Rat → Option Mark
  | .began t   => some (.began t)
  | .ended t _ => some (.ended t)
  | .slept d _ => some (.slept d)
  | .told      => some .told
  | _          => none

/-- A tick, from its start to its end, and the delay of the sleep after it.  There is none when the
reporter was told to stop in the tick. -/
structure Lap where
  start : Rat
  finish : Rat
  delay : Option Rat
deriving DecidableEq

namespace Lap

/-- The marks that a lap leaves. -/
def marks (lap : Lap) : List Mark :=
  match lap.delay with
  | some d => [.began lap.start, .ended lap.finish, .slept d]
  | none   => [.began lap.start, .told, .ended lap.finish]

/-- The marks of a run of laps.  A reporter that was told in none of them is told in the last sleep. -/
def course : List Lap → List Mark
  | []                => []
  | [lap]             => lap.marks ++ if lap.delay.isSome then [.told] else []
  | lap :: lap' :: ls => lap.marks ++ course (lap' :: ls)

/-- By how much the tick of a lap took longer than the cadence. -/
def overrun (cadence : Rat) (lap : Lap) : Rat := max 0 (lap.finish - lap.start - cadence)

theorem overrun_nonneg (cadence : Rat) (lap : Lap) : 0 ≤ lap.overrun cadence := le_max_left _ _

theorem overrun_eq_zero {cadence : Rat} {lap : Lap} :
    lap.overrun cadence = 0 ↔ lap.finish - lap.start ≤ cadence := by
  rw [overrun, max_eq_left_iff, sub_nonpos]

end Lap

/-! ### The recurrence -/

/-- When a sleep is over that lasts for what is left of the cadence. -/
theorem awake_at (start cadence finish : Rat) :
    finish + max 0 (start + cadence - finish) = max (start + cadence) finish := by
  rw [← max_add_add_left, add_zero, add_sub_cancel, max_comm]

theorem late_by (start cadence finish : Rat) :
    max (start + cadence) finish = start + cadence + max 0 (finish - start - cadence) := by
  rw [← max_add_add_left, add_zero, sub_sub, add_sub_cancel]

/-- The laps of a loop from a time on, when so many sleeps may be slept to their end: each lap begins
at the end of the sleep before it, which is as long as what is left of the cadence. -/
inductive Laps (cadence : Rat) : Nat → Rat → List Lap → Prop where
  | told {n : Nat} {start : Rat} (finish : Rat) : Laps cadence n start [⟨start, finish, none⟩]
  | last {start : Rat} (finish : Rat) :
      Laps cadence 0 start [⟨start, finish, some (max 0 (start + cadence - finish))⟩]
  | next {n : Nat} {start : Rat} (finish : Rat) {laps : List Lap}
      (h : Laps cadence n (finish + max 0 (start + cadence - finish)) laps) :
      Laps cadence (n + 1) start (⟨start, finish, some (max 0 (start + cadence - finish))⟩ :: laps)

namespace Laps

variable {cadence start : Rat} {n : Nat} {laps : List Lap}

theorem first (h : Laps cadence n start laps) : ∃ lap rest, laps = lap :: rest ∧ lap.start = start := by
  cases h with
  | told finish => exact ⟨_, _, rfl, rfl⟩
  | last finish => exact ⟨_, _, rfl, rfl⟩
  | next finish _ => exact ⟨_, _, rfl, rfl⟩

theorem course_cons (h : Laps cadence n start laps) (lap : Lap) :
    Lap.course (lap :: laps) = lap.marks ++ Lap.course laps := by
  obtain ⟨lap', rest, rfl, -⟩ := h.first
  rfl

/-- The run of laps ends in the sleep after those that are slept to their end, or in a tick before. -/
theorem length_le (h : Laps cadence n start laps) :
    laps.length ≤ n + 1 ∧ ((∀ lap ∈ laps, lap.delay ≠ none) → laps.length = n + 1) := by
  induction h with
  | told finish => exact ⟨by simp, fun hall => absurd rfl (hall _ (List.mem_singleton_self _))⟩
  | last finish => exact ⟨Nat.le_refl 1, fun _ => rfl⟩
  | next finish _ ih =>
      refine ⟨Nat.succ_le_succ ih.1, fun hall => ?_⟩
      exact congrArg (· + 1) (ih.2 fun lap hlap => hall lap (List.mem_cons_of_mem _ hlap))

/-- No sleep is asked to be shorter than nothing. -/
theorem delay_nonneg (h : Laps cadence n start laps) :
    ∀ lap ∈ laps, ∀ d, lap.delay = some d → 0 ≤ d := by
  induction h with
  | told finish => simp
  | last finish => simp
  | next finish _ ih =>
      intro lap hlap d hd
      rcases List.mem_cons.mp hlap with rfl | hlap
      · rw [← Option.some.inj hd]
        exact le_max_left _ _
      · exact ih lap hlap d hd

/-- **The next tick** begins when the sleep is over: when this one has ended and the cadence has passed
since it began. -/
theorem next_start (h : Laps cadence n start laps) (k : Nat) {a b : Lap} (ha : laps[k]? = some a)
    (hb : laps[k + 1]? = some b) :
    a.delay = some (b.start - a.finish) ∧ b.start = max (a.start + cadence) a.finish := by
  induction h generalizing k with
  | told finish => simp at hb
  | last finish => simp at hb
  | @next n start finish laps h ih =>
      cases k with
      | succ k => exact ih k ha hb
      | zero =>
          obtain ⟨lap, rest, rfl, hlap⟩ := h.first
          cases ha
          cases hb
          rw [hlap]
          exact ⟨by rw [add_sub_cancel_left], awake_at start cadence finish⟩

/-- **The start of every tick**: the cadences since the first, and all the overruns before it. -/
theorem start_eq (h : Laps cadence n start laps) (k : Nat) {b : Lap} (hb : laps[k]? = some b) :
    b.start = start + k * cadence + ((laps.take k).map (Lap.overrun cadence)).sum := by
  induction h generalizing k with
  | told finish =>
      cases k with
      | zero => cases hb; simp
      | succ k => simp at hb
  | last finish =>
      cases k with
      | zero => cases hb; simp
      | succ k => simp at hb
  | @next n start finish laps h ih =>
      cases k with
      | zero => cases hb; simp
      | succ k =>
          -- a lap that ends late is late by its overrun, another by nothing
          have hwake : finish + max 0 (start + cadence - finish) =
              start + cadence + max 0 (finish - start - cadence) :=
            (awake_at start cadence finish).trans (late_by start cadence finish)
          have hk := ih k hb
          rw [hwake] at hk
          rw [hk, List.take_succ_cons, List.map_cons, List.sum_cons, Lap.overrun]
          push_cast
          ring

/-- No tick begins before its place on the grid of the first, and one begins there exactly when no tick
before it overran. -/
theorem start_ge (h : Laps cadence n start laps) (k : Nat) {b : Lap} (hb : laps[k]? = some b) :
    start + k * cadence ≤ b.start
      ∧ (b.start = start + k * cadence ↔ ∀ a ∈ laps.take k, a.finish - a.start ≤ cadence) := by
  have hnonneg : ∀ x ∈ (laps.take k).map (Lap.overrun cadence), (0 : Rat) ≤ x := by
    intro x hx
    obtain ⟨a, -, rfl⟩ := List.mem_map.mp hx
    exact a.overrun_nonneg cadence
  have hsum := List.sum_nonneg hnonneg
  rw [h.start_eq k hb]
  refine ⟨le_add_of_nonneg_right hsum, ?_⟩
  rw [add_eq_left]
  constructor
  · intro hzero a ha
    exact Lap.overrun_eq_zero.mp
      (List.all_zero_of_le_zero_le_of_sum_eq_zero hnonneg hzero (List.mem_map_of_mem ha))
  · intro hall
    refine List.sum_eq_zero fun x hx => ?_
    obtain ⟨a, ha, rfl⟩ := List.mem_map.mp hx
    exact Lap.overrun_eq_zero.mpr (hall a ha)

end Laps

namespace Reporter

variable {r r₁ r₂ : Reporter Rat}

/-- What the journal says of time, the first of it first. -/
def marks (r : Reporter Rat) : List Mark := (r.journal.filterMap ReporterEvent.mark?).reverse

theorem marks_of_journal (evs : List (ReporterEvent Rat)) (h : r₁.journal = evs ++ r.journal) :
    r₁.marks = r.marks ++ (evs.filterMap ReporterEvent.mark?).reverse := by
  rw [marks, h, List.filterMap_append, List.reverse_append, marks]

theorem marks_note {ev : ReporterEvent Rat} {m : Mark} (h : ev.mark? = some m) (r : Reporter Rat) :
    (r.note ev).marks = r.marks ++ [m] := by
  rw [marks_of_journal (r := r) [ev] rfl, List.filterMap_cons_some h]
  rfl

theorem marks_quiet {ev : ReporterEvent Rat} (h : ev.mark? = none) (r : Reporter Rat) :
    (r.note ev).marks = r.marks := by
  rw [marks_of_journal (r := r) [ev] rfl, List.filterMap_cons_none h]
  exact List.append_nil _

/-- What the emitter does leaves no mark. -/
theorem marks_onEmitter {α : Type} (r : Reporter Rat) (call : Emitter → Emitter × α) :
    (r.onEmitter call).1.marks = r.marks := by
  have hnone : ((call r.emitter.clear).1.journal.map .sink).filterMap ReporterEvent.mark? = [] := by
    rw [List.filterMap_map, List.filterMap_eq_nil_iff]
    exact fun _ _ => rfl
  rw [marks_of_journal (r := r) ((call r.emitter.clear).1.journal.map .sink) rfl, hnone]
  exact List.append_nil _

/-! ### Parts of a tick -/

/-- The mark of being told to stop, where a reporter has been told since. -/
def toldSince (r r' : Reporter Rat) : List Mark :=
  if r'.stopRequested && !r.stopRequested then [.told] else []

/-- `r'` came of `r` by what leaves no mark of time: the cadence is the same, and what was told stays
told. -/
structure Passed (r r' : Reporter Rat) : Prop where
  marks : r'.marks = r.marks ++ toldSince r r'
  cadence : r'.cadence = r.cadence
  told : r.stopRequested = true → r'.stopRequested = true

theorem toldSince_append (h : r.stopRequested = true → r₁.stopRequested = true)
    (k : r₁.stopRequested = true → r₂.stopRequested = true) :
    toldSince r r₁ ++ toldSince r₁ r₂ = toldSince r r₂ := by
  unfold toldSince
  cases h₀ : r.stopRequested <;> cases h₁ : r₁.stopRequested <;> cases h₂ : r₂.stopRequested <;> simp_all

theorem Passed.trans (h : Passed r r₁) (k : Passed r₁ r₂) : Passed r r₂ where
  marks := by rw [k.marks, h.marks, List.append_assoc, toldSince_append h.told k.told]
  cadence := k.cadence.trans h.cadence
  told := k.told ∘ h.told

/-- No mark was left, and nothing that a run's time depends on was changed. -/
theorem Passed.quiet (hm : r₁.marks = r.marks) (hc : r₁.cadence = r.cadence)
    (hs : r₁.stopRequested = r.stopRequested) : Passed r r₁ where
  marks := by
    rw [hm, toldSince, hs, Bool.and_not_self]
    exact (List.append_nil _).symm
  cadence := hc
  told := hs.trans

theorem Passed.refl (r : Reporter Rat) : Passed r r := .quiet rfl rfl rfl

theorem passed_enter (r : Reporter Rat) (p : Phase) : Passed r (r.enter p) := .quiet rfl rfl rfl

theorem passed_clock (r : Reporter Rat) (t : Rat) : Passed r { r with clock := t } :=
  .quiet rfl rfl rfl

theorem passed_note {ev : ReporterEvent Rat} (h : ev.mark? = none) (r : Reporter Rat) :
    Passed r (r.note ev) :=
  .quiet (marks_quiet h r) rfl rfl

theorem passed_say (r : Reporter Rat) (level : Log.Level) (event : String)
    (fields : List (String × Datum)) (a : Log.Attachment) : Passed r (r.say level event fields a) :=
  passed_note rfl r

theorem passed_onEmitter {α : Type} (r : Reporter Rat) (call : Emitter → Emitter × α) :
    Passed r (r.onEmitter call).1 :=
  .quiet (marks_onEmitter r call) rfl rfl

theorem passed_tell (r : Reporter Rat) (stop : Bool) : Passed r (r.tell stop) := by
  refine tell_cases (P := Passed r) r stop (fun _ => .refl r) (fun hgo => ⟨?_, rfl, fun _ => rfl⟩)
  rw [marks_note rfl, toldSince, hgo]
  rfl

/-- **One act** leaves no mark of time. -/
theorem act_passed (h : Act r r₁) : Passed r r₁ := by
  cases h with
  | enter p => exact passed_enter r p
  | asked | submitted => exact passed_note rfl r
  | failed fields => exact passed_say r _ _ fields _
  | crashed fields a => exact passed_say r _ _ fields a
  | called c => exact passed_onEmitter r _
  | told stop => exact passed_tell r stop
  | waited clock => exact passed_clock r clock
  | turned playbook => exact .quiet rfl rfl rfl

/-- **The turns of bindings** leave no mark of time. -/
theorem walk_passed (heeds : Bool) (bs : List Binding) (r : Reporter Rat) (report : TickReport Rat) :
    Passed r (walk heeds bs r report).1 :=
  (walk_acts heeds bs r report).lift .refl .trans act_passed

theorem flushing_passed (r : Reporter Rat) : Passed r r.flushing :=
  (passed_note rfl r).trans (passed_onEmitter _ _)

theorem counted_passed (r : Reporter Rat) : Passed r r.counted := .quiet rfl rfl rfl

theorem sayCompleted_passed (r : Reporter Rat) (report : TickReport Rat) :
    Passed r (r.sayCompleted report) :=
  sayCompleted_cases (P := Passed r) r report (fun _ => passed_say r _ _ _ _)
    (fun _ _ => (passed_say r _ _ _ _).trans (passed_say _ _ _ _ _))

/-! ### Ticks -/

/-- A tick left its two marks, and perhaps between them the one of being told to stop. -/
structure Ticked (r r' : Reporter Rat) : Prop where
  marks : r'.marks = r.marks ++ .began r.clock :: (toldSince r r' ++ [.ended r'.clock])
  cadence : r'.cadence = r.cadence
  told : r.stopRequested = true → r'.stopRequested = true

/-- The start of a tick, what leaves no mark, and the end. -/
theorem Passed.ticked (h : Passed (r.note (.began r.clock)) r₁) : Ticked r r₁.ending := by
  have htold : toldSince (r.note (.began r.clock)) r₁ = toldSince r r₁.ending := rfl
  refine ⟨?_, h.cadence, h.told⟩
  rw [ending, marks_note (m := .ended r₁.clock) rfl, h.marks, marks_note (m := .began r.clock) rfl, htold]
  simp [ending, note]

/-- An entry after a tick. -/
theorem Ticked.said (h : Ticked r r₁) (level : Log.Level) (event : String)
    (fields : List (String × Datum)) (a : Log.Attachment) : Ticked r (r₁.say level event fields a) where
  marks := (marks_quiet rfl r₁).trans h.marks
  cadence := h.cadence
  told := h.told

/-- **A tick of the loop** leaves two marks of time, its start and its end, also when it crashes. -/
theorem cycle_ticked (r : Reporter Rat) : Ticked r r.cycle := by
  have hwalk := walk_passed true r.bindings (r.note (.began r.clock)) .empty
  have htick : Ticked r (r.tick true).1 := by
    refine tick_cases (P := fun p => Ticked r p.1) true r ?_ ?_ ?_
    · intro r₁ report escaped f hw _
      rw [hw] at hwalk
      exact (hwalk.trans (flushing_passed r₁)).ticked
    · intro r₁ report f hw _
      rw [hw] at hwalk
      exact ((hwalk.trans (flushing_passed r₁)).trans (counted_passed _)).ticked
    · intro r₁ report report' hw _ _
      rw [hw] at hwalk
      have hcounted := (hwalk.trans (flushing_passed r₁)).trans (counted_passed _)
      exact (hcounted.trans ((sayCompleted_passed _ report').trans (passed_note rfl _))).ticked
  refine cycle_cases (P := Ticked r) r (fun r₁ f h => ?_) (fun r₁ _ h => ?_)
  · rw [h] at htick
    exact htick.said _ _ _ _
  · rw [h] at htick
    exact htick

/-! ### Runs -/

theorem delayAfter_eq (r : Reporter Rat) (start : Rat) :
    r.delayAfter start = max 0 (start + r.cadence - r.clock) := by
  have hzero : r.delayAfter start =
      if decide ((0 : Rat) < start + r.cadence - r.clock) then start + r.cadence - r.clock else 0 := rfl
  rw [hzero]
  by_cases hpos : 0 < start + r.cadence - r.clock
  · rw [if_pos (decide_eq_true hpos), max_eq_right hpos.le]
  · rw [if_neg (by simpa using hpos), max_eq_left (not_lt.mp hpos)]

theorem cycle_marks_told (hgo : r.stopRequested = false) (h : r.cycle.stopRequested = true) :
    r.cycle.marks = r.marks ++ Lap.marks ⟨r.clock, r.cycle.clock, none⟩ := by
  rw [(cycle_ticked r).marks, toldSince, hgo, h]
  rfl

theorem asleep_marks (hgo : r.stopRequested = false) (h : r.cycle.stopRequested = false) :
    r.asleep.marks = r.marks ++
      Lap.marks ⟨r.clock, r.cycle.clock, some (max 0 (r.clock + r.cadence - r.cycle.clock))⟩ := by
  have hcycle := (cycle_ticked r).marks
  rw [toldSince, hgo, h] at hcycle
  have hasleep : r.asleep.marks = r.cycle.marks ++ [.slept (r.cycle.delayAfter r.clock)] :=
    marks_note rfl (r.cycle.enter .sleep)
  rw [hasleep, hcycle, delayAfter_eq, (cycle_ticked r).cadence, List.append_assoc]
  rfl

theorem awake_cadence (r : Reporter Rat) : r.awake.cadence = r.cadence := by
  simp only [awake, asleep, note, enter, (cycle_ticked r).cadence]

theorem awake_clock (r : Reporter Rat) :
    r.awake.clock = r.cycle.clock + max 0 (r.clock + r.cadence - r.cycle.clock) := by
  rw [← (cycle_ticked r).cadence, ← delayAfter_eq]
  simp only [awake, asleep, note, enter]

/-- **The laps of a loop**, when nobody had told the reporter to stop before it. -/
theorem loop_laps (sleeps : Nat) {r : Reporter Rat} (hgo : r.stopRequested = false) :
    ∃ laps, Laps r.cadence sleeps r.clock laps
      ∧ (r.loop sleeps).marks = r.marks ++ Lap.course laps := by
  induction sleeps, r using loop_induction with
  | stopped n r h => cases hgo.symm.trans h
  | cut n r _ h =>
      refine ⟨_, .told r.cycle.clock, ?_⟩
      rw [loop_cut hgo h, cycle_marks_told hgo h]
      simp [Lap.course]
  | last r _ h =>
      refine ⟨_, .last r.cycle.clock, ?_⟩
      have htold := (passed_tell r.asleep true).marks
      have hgo' : r.asleep.stopRequested = false := (asleep_stopRequested r).trans h
      rw [loop_zero hgo h, htold, asleep_marks hgo h, List.append_assoc]
      simp [Lap.course, toldSince, tell, hgo', note]
  | next n r _ h ih =>
      have hmarks : r.awake.marks = r.asleep.marks := rfl
      obtain ⟨laps, hlaps, hloop⟩ := ih ((awake_stopRequested r).trans h)
      rw [awake_cadence, awake_clock] at hlaps
      refine ⟨_, .next r.cycle.clock hlaps, ?_⟩
      rw [loop_succ hgo h, hloop, hmarks, asleep_marks hgo h, hlaps.course_cons, List.append_assoc]

/-- The end of a run leaves no mark of time. -/
theorem finish_marks (r : Reporter Rat) : r.finish.1.marks = r.marks := by
  have hclosing : r.closing.marks = r.marks := (marks_onEmitter _ _).trans (marks_quiet rfl _)
  exact finish_cases (P := fun p => p.1.marks = r.marks) r (fun _ _ => hclosing)
    (fun _ => (marks_quiet rfl _).trans hclosing)

/-- **A run keeps its cadence.**  Its journal is that of laps, however often a tick overruns or crashes,
and none only when the reporter was told to stop before.  The first tick begins at once; every other
begins when the one before it has ended and the cadence has passed since that one began, and the sleep
between them is as long as that asks for, which is never less than nothing.  So each tick begins as
many cadences after the first as there are ticks between, and later by what those overran, no more.
Laps end in the sleep after those that are slept to their end, or in a tick in which the reporter was
told. -/
theorem run_keeps_cadence (r : Reporter Rat) (sleeps : Nat) :
    ∃ laps : List Lap, (r.run sleeps).1.marks = r.marks ++ Lap.course laps
      ∧ (laps = [] ↔ r.stopRequested = true)
      ∧ laps.length ≤ sleeps + 1
      ∧ (r.stopRequested = false → (∀ lap ∈ laps, lap.delay ≠ none) → laps.length = sleeps + 1)
      ∧ (∀ lap ∈ laps, ∀ d, lap.delay = some d → 0 ≤ d)
      ∧ (∀ k a b, laps[k]? = some a → laps[k + 1]? = some b →
          a.delay = some (b.start - a.finish) ∧ b.start = max (a.start + r.cadence) a.finish)
      ∧ ∀ k b, laps[k]? = some b →
          b.start = r.clock + k * r.cadence + ((laps.take k).map (Lap.overrun r.cadence)).sum
            ∧ r.clock + k * r.cadence ≤ b.start
            ∧ (b.start = r.clock + k * r.cadence ↔
                ∀ a ∈ laps.take k, a.finish - a.start ≤ r.cadence) := by
  have hrun : (r.run sleeps).1.marks = (r.sayStarted.loop sleeps).marks := finish_marks _
  have hstarted : r.sayStarted.marks = r.marks := marks_quiet rfl r
  rw [hrun]
  cases hgo : r.stopRequested with
  | true =>
      have hnone : (r.sayStarted.loop sleeps).marks = r.marks ++ Lap.course [] := by
        rw [loop_stopped (r := r.sayStarted) hgo, hstarted]
        exact (List.append_nil _).symm
      exact ⟨[], hnone, by simp, by simp, by simp, by simp, by simp, by simp⟩
  | false =>
      obtain ⟨laps, hlaps, hloop⟩ := loop_laps sleeps (r := r.sayStarted) hgo
      rw [hstarted] at hloop
      obtain ⟨lap, rest, hne, -⟩ := hlaps.first
      refine ⟨laps, hloop, by simp [hne], hlaps.length_le.1, fun _ => hlaps.length_le.2,
        hlaps.delay_nonneg, fun k _ _ => hlaps.next_start k, fun k b hb => ?_⟩
      exact ⟨hlaps.start_eq k hb, hlaps.start_ge k hb⟩

/-- The first tick takes half as long again as the cadence, the second crashes before its flush, and
the cadence is kept from the late start on. -/
def overrunReporter : Reporter Rat where
  cadence := 60
  deadline := 100
  bindings := [⟨.jobMissedScheduleLastDay, .jobsNotRunningOnScheduleLastDay, .scalar⟩]
  source := .ready
  playbook := fun _ => ⟨[{ takes := 90, sent := .ok (.int 3) }], { takes := 1, sent := .ok (.int 3) }⟩
  emitter := { sink := .rehearsal { preludes := ⟨[none, some (.outside .runtime none)], none⟩ } }
  clock := 7

example : (overrunReporter.run 2).1.marks =
    [.began 7, .ended 97, .slept 0, .began 97, .ended 98, .slept 59, .began 157, .ended 158, .slept 59,
     .told] := by
  decide +kernel

end Reporter
end FleetHealth
