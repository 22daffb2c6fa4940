import FleetHealth.Proofs.Reporter.Act
import FleetHealth.Proofs.Reporter.Stop

/-!
# Proofs — Reporter — Numbering

Under which numbers the ticks of a run are recorded.  What a run says about its ticks is read off its journal as a list of *tick marks*: that a tick began, the record of its end with the number in it, and the number of ticks in the last entry.

* `walk_uncounted`: the turns of a tick record no tick.  Every act keeps this (`Uncounted`).
* `cycle_numbered`: a tick is recorded once, as completed or as crashed.
* `run_numbers` is the run: a completed tick is recorded under its own number, a crashed one under the number of the next, and the last entry counts both.

The count goes up as soon as the flush of a tick has answered, and the record of a crash is written after that, with one more than the count.  So two records can have one number while another number is missing (`numbers_after_crash`).
-/

namespace FleetHealth

/-- What a journal says of ticks: that one began, the record of its end, and the count at the end of a
run, each with the number that stands in it. -/
inductive TickMark where
  | began
  | completed (tick : Option Int)
  | crashed (tick : Option Int)
  | stopped (ticks : Option Int)
deriving DecidableEq

/-- The whole number in a field of an entry. -/
def Log.Entry.whole? (entry : Log.Entry) (field : String) : Option Int :=
  match Entries.get? field entry.fields with
  | some (.int n) => some n
  | _             => none

/-- The mark that an entry of the reporter is. -/
def Log.Entry.tickMark? (entry : Log.Entry) : Option TickMark :=
  if entry.event == "reporter.tick.completed" then some (.completed (entry.whole? "tick"))
  else if entry.event == "reporter.tick.crashed" then some (.crashed (entry.whole? "tick"))
  else if entry.event == "reporter.stopped" then some (.stopped (entry.whole? "ticks"))
  else none

/-- The mark that an event is. -/
def ReporterEvent.tickMark? {τ : Type} : ReporterEvent τ → Option TickMark
  | .began _            => some .began
  | .sink (.said entry) => if entry.logger == "syncwatch.reporter" then entry.tickMark? else none
  | _                   => none

theorem tickMark?_of_isOwn {τ : Type} {ev : SinkEvent} (h : ev.isOwn = true) :
    (ReporterEvent.sink ev : ReporterEvent τ).tickMark? = none := by
  cases ev with
  | said entry =>
      simp only [ReporterEvent.tickMark?, logger_of_isOwn h, Bool.false_eq_true, if_false]
  | _ => rfl

/-- How a tick ended. -/
inductive TickEnd where
  | completed
  | crashed
deriving DecidableEq

/-- The number in the record of a tick. -/
def TickMark.number? : TickMark → Option (Option Int)
  | completed n => some n
  | crashed n   => some n
  | _           => none

/-- The record of a tick that followed so many. -/
def TickEnd.record (before : Nat) : TickEnd → TickMark
  | completed => .completed (some (before + 1 : Nat))
  | crashed   => .crashed (some (before + 2 : Nat))

/-- The marks of ticks that followed so many and ended so. -/
def tickCourse (before : Nat) : List TickEnd → List TickMark
  | []      => []
  | e :: es => .began :: e.record before :: tickCourse (before + 1) es

/-- The numbers from the one after a number on. -/
def numbersAfter (before count : Nat) : List (Option Int) :=
  (List.range' (before + 1) count).map fun n : Nat => some (n : Int)

/-- **The records of ticks are numbered one after another exactly where no tick crashed.** -/
theorem numbers_tickCourse (before : Nat) (ends : List TickEnd) :
    (tickCourse before ends).filterMap TickMark.number? = numbersAfter before ends.length
      ↔ .crashed ∉ ends := by
  induction ends generalizing before with
  | nil => simp [tickCourse, numbersAfter]
  | cons e es ih =>
      have hnumbers : numbersAfter before (e :: es).length =
          some ((before + 1 : Nat) : Int) :: numbersAfter (before + 1) es.length := by
        rw [List.length_cons, numbersAfter, List.range'_succ, List.map_cons, numbersAfter]
      rw [hnumbers, tickCourse, List.filterMap_cons_none rfl]
      cases e with
      | completed =>
          have hrecord : (TickEnd.completed.record before).number? =
              some (some ((before + 1 : Nat) : Int)) := rfl
          rw [List.filterMap_cons_some hrecord, List.cons_inj_right, ih]
          simp
      | crashed =>
          have hrecord : (TickEnd.crashed.record before).number? =
              some (some ((before + 2 : Nat) : Int)) := rfl
          rw [List.filterMap_cons_some hrecord]
          simp

namespace Reporter

variable {τ : Type}

/-- What the journal says of ticks, the first of it first. -/
def tickMarks (r : Reporter τ) : List TickMark :=
  (r.journal.filterMap ReporterEvent.tickMark?).reverse

theorem tickMarks_of_journal {r r' : Reporter τ} (evs : List (ReporterEvent τ))
    (h : r'.journal = evs ++ r.journal) :
    r'.tickMarks = r.tickMarks ++ (evs.filterMap ReporterEvent.tickMark?).reverse := by
  rw [tickMarks, h, List.filterMap_append, List.reverse_append, tickMarks]

theorem tickMarks_note {ev : ReporterEvent τ} {m : TickMark} (h : ev.tickMark? = some m)
    (r : Reporter τ) : (r.note ev).tickMarks = r.tickMarks ++ [m] := by
  rw [tickMarks_of_journal (r := r) [ev] rfl, List.filterMap_cons_some h]
  rfl

/-! ### Turns -/

/-- `r'` came of `r` by nothing that counts or records a tick. -/
structure Uncounted (r r' : Reporter τ) : Prop where
  ticks : r'.ticks = r.ticks
  tickMarks : r'.tickMarks = r.tickMarks

namespace Uncounted

variable {r r₁ r₂ : Reporter τ}

theorem trans (h : Uncounted r r₁) (k : Uncounted r₁ r₂) : Uncounted r r₂ :=
  ⟨k.ticks.trans h.ticks, k.tickMarks.trans h.tickMarks⟩

/-- Nothing was written down or counted. -/
theorem quiet (hj : r₁.journal = r.journal) (ht : r₁.ticks = r.ticks) : Uncounted r r₁ :=
  ⟨ht, by rw [Reporter.tickMarks, Reporter.tickMarks, hj]⟩

theorem note {ev : ReporterEvent τ} (h : ev.tickMark? = none) (r : Reporter τ) :
    Uncounted r (r.note ev) := by
  refine ⟨rfl, ?_⟩
  rw [tickMarks_of_journal (r := r) [ev] rfl, List.filterMap_cons_none h]
  exact List.append_nil _

end Uncounted

theorem act_uncounted {r r' : Reporter τ} (h : Act r r') : Uncounted r r' := by
  cases h with
  | enter | waited | turned => exact .quiet rfl rfl
  | asked | submitted | failed | crashed => exact .note rfl r
  | called c =>
      refine ⟨rfl, ?_⟩
      rw [tickMarks_of_journal _ (called_journal r c),
        filterMap_perform fun _ => tickMark?_of_isOwn]
      exact List.append_nil _
  | told stop =>
      have hstopped : Uncounted r { r with stopRequested := true } := .quiet rfl rfl
      exact tell_cases (P := Uncounted r) r stop (fun _ => .quiet rfl rfl)
        (fun _ => hstopped.trans (.note rfl _))

variable [TimeScale τ]

/-- **The turns of bindings** record no tick. -/
theorem walk_uncounted (heeds : Bool) (bs : List Binding) (r : Reporter τ) (report : TickReport τ) :
    Uncounted r (walk heeds bs r report).1 :=
  (walk_acts heeds bs r report).lift (fun _ => .quiet rfl rfl) .trans act_uncounted

/-! ### Ticks -/

/-- Whether the flush of the next tick raises nothing. -/
def flushAnswers (r : Reporter τ) : Bool :=
  (walk true r.bindings (r.note (.began r.clock)) .empty).1.emitter.flush.2.isOk

/-- How the next tick ends. -/
def tickEnd (r : Reporter τ) : TickEnd := if (r.tick true).2.isOk then .completed else .crashed

omit [TimeScale τ] in
theorem flushing_uncounted (r : Reporter τ) : Uncounted r r.flushing :=
  (Uncounted.note rfl r).trans (act_uncounted (.called _ .flush))

omit [TimeScale τ] in
theorem ending_uncounted (r : Reporter τ) : Uncounted r r.ending := .note rfl r

/-- The end of a completed tick records it, under the count. -/
theorem sayCompleted_tickMarks (r : Reporter τ) (report : TickReport τ) :
    (r.sayCompleted report).tickMarks = r.tickMarks ++ [.completed (some r.ticks)] := by
  have hcompleted : ∀ fields, (r.say .info "reporter.tick.completed"
      (("tick", .int r.ticks) :: fields)).tickMarks = r.tickMarks ++ [.completed (some r.ticks)] :=
    fun fields => tickMarks_note rfl r
  exact sayCompleted_cases (P := fun r' => r'.tickMarks = _) r report hcompleted
    (fun _ _ => (Uncounted.note rfl _).tickMarks.trans (hcompleted _))

theorem cycle_of_error {r r' : Reporter τ} {f : Fault} (h : r.tick true = (r', .error f)) :
    r.tickEnd = .crashed
      ∧ r.cycle = r'.say .error "reporter.tick.crashed" [("tick", .int (r'.ticks + 1))]
          (.fault f.summary) := by
  rw [tickEnd, cycle, h]
  exact ⟨rfl, rfl⟩

theorem cycle_of_ok {r r' : Reporter τ} {report : TickReport τ} (h : r.tick true = (r', .ok report)) :
    r.tickEnd = .completed ∧ r.cycle = r' := by
  rw [tickEnd, cycle, h]
  exact ⟨rfl, rfl⟩

/-- **A tick is recorded once**, where its flush answers: as completed under the number that follows
the count before it, or as crashed under the number after that. -/
theorem cycle_numbered {r : Reporter τ} (hflush : r.flushAnswers = true) :
    r.cycle.ticks = r.ticks + 1
      ∧ r.cycle.tickMarks = r.tickMarks ++ [.began, r.tickEnd.record r.ticks] := by
  have hwalk := walk_uncounted true r.bindings (r.note (.began r.clock)) .empty
  have hbegan : (r.note (.began r.clock)).tickMarks = r.tickMarks ++ [.began] := tickMarks_note rfl r
  unfold flushAnswers at hflush
  refine tick_cases (P := fun p => r.tick true = p → _) true r ?_ ?_ ?_ rfl
  · intro r₁ report escaped f hw hf _
    rw [hw, hf] at hflush
    cases hflush
  · intro r₁ report f hw _ htick
    rw [hw] at hwalk
    have hturns := hwalk.trans (flushing_uncounted r₁)
    have hn : r₁.flushing.counted.ending.ticks = r.ticks + 1 := congrArg (· + 1) hturns.ticks
    have hm : r₁.flushing.counted.ending.tickMarks = r.tickMarks ++ [.began] :=
      (ending_uncounted r₁.flushing.counted).tickMarks.trans (hturns.tickMarks.trans hbegan)
    obtain ⟨hend, hcycle⟩ := cycle_of_error htick
    rw [hend, hcycle]
    refine ⟨hn, (tickMarks_note rfl _).trans ?_⟩
    rw [hm, hn, List.append_assoc]
    rfl
  · intro r₁ report report' hw _ _ htick
    rw [hw] at hwalk
    have hturns := hwalk.trans (flushing_uncounted r₁)
    have hn : r₁.flushing.counted.ticks = r.ticks + 1 := congrArg (· + 1) hturns.ticks
    have hm : r₁.flushing.counted.tickMarks = r.tickMarks ++ [.began] := hturns.tickMarks.trans hbegan
    have hsn := (sayCompleted_keeps r₁.flushing.counted report').ticks
    have hsm := sayCompleted_tickMarks r₁.flushing.counted report'
    obtain ⟨hend, hcycle⟩ := cycle_of_ok htick
    rw [hend, hcycle]
    refine ⟨hsn.trans hn, (ending_uncounted _).tickMarks.trans
      ((Uncounted.note rfl _).tickMarks.trans ?_)⟩
    rw [hsm, hm, hn, List.append_assoc]
    rfl

/-! ### Runs -/

/-- The reporter at the beginning of every tick of a loop. -/
def begins (r : Reporter τ) (sleeps : Nat) : List (Reporter τ) :=
  if r.stopRequested then []
  else
    r :: if r.cycle.stopRequested then []
      else
        match sleeps with
        | 0     => []
        | n + 1 => r.awake.begins n

theorem begins_stopped {r : Reporter τ} (h : r.stopRequested = true) (sleeps : Nat) :
    r.begins sleeps = [] := by
  unfold begins
  exact if_pos h

theorem begins_cut {r : Reporter τ} (hgo : r.stopRequested = false)
    (h : r.cycle.stopRequested = true) (sleeps : Nat) : r.begins sleeps = [r] := by
  unfold begins
  simp only [hgo, h, Bool.false_eq_true, if_false, if_true]

theorem begins_zero {r : Reporter τ} (hgo : r.stopRequested = false) : r.begins 0 = [r] := by
  unfold begins
  simp only [hgo, Bool.false_eq_true, if_false, ite_self]

theorem begins_succ {r : Reporter τ} (hgo : r.stopRequested = false)
    (h : r.cycle.stopRequested = false) (n : Nat) : r.begins (n + 1) = r :: r.awake.begins n := by
  rw [begins]
  simp only [hgo, h, Bool.false_eq_true, if_false]

/-- A loop of a reporter that was not told to stop has a first tick, and at most one for each sleep and
one more. -/
theorem begins_length (sleeps : Nat) (r : Reporter τ) :
    (r.begins sleeps = [] ↔ r.stopRequested = true) ∧ (r.begins sleeps).length ≤ sleeps + 1 := by
  induction sleeps, r using loop_induction with
  | stopped n r h => simp [begins_stopped h, h]
  | cut n r hgo h => simp [begins_cut hgo h, hgo]
  | last r hgo h => simp [begins_zero hgo, hgo]
  | next n r hgo h ih => simp [begins_succ hgo h, hgo, ih.2]

/-- A sleep records no tick. -/
theorem asleep_uncounted (r : Reporter τ) : Uncounted r.cycle r.asleep :=
  (act_uncounted (.enter r.cycle .sleep)).trans (.note rfl _)

/-- **The ticks of a loop are recorded in order.** -/
theorem loop_numbered (sleeps : Nat) (r : Reporter τ)
    (hflush : (r.begins sleeps).all flushAnswers = true) :
    (r.loop sleeps).ticks = r.ticks + (r.begins sleeps).length
      ∧ (r.loop sleeps).tickMarks =
          r.tickMarks ++ tickCourse r.ticks ((r.begins sleeps).map tickEnd) := by
  induction sleeps, r using loop_induction with
  | stopped n r h =>
      rw [loop_stopped h, begins_stopped h]
      exact ⟨rfl, (List.append_nil _).symm⟩
  | cut n r hgo h =>
      rw [begins_cut hgo h] at hflush ⊢
      rw [loop_cut hgo h]
      exact cycle_numbered (List.all_eq_true.mp hflush r (List.mem_singleton_self r))
  | last r hgo h =>
      rw [begins_zero hgo] at hflush ⊢
      obtain ⟨hn, hm⟩ := cycle_numbered (List.all_eq_true.mp hflush r (List.mem_singleton_self r))
      have htold := (asleep_uncounted r).trans (act_uncounted (.told r.asleep true))
      rw [loop_zero hgo h]
      exact ⟨htold.ticks.trans hn, htold.tickMarks.trans hm⟩
  | next n r hgo h ih =>
      rw [begins_succ hgo h, List.all_cons, Bool.and_eq_true] at hflush
      obtain ⟨hn, hm⟩ := cycle_numbered hflush.1
      have hwake : Uncounted r.cycle r.awake := (asleep_uncounted r).trans (.quiet rfl rfl)
      obtain ⟨hln, hlm⟩ := ih hflush.2
      rw [loop_succ hgo h, begins_succ hgo h, hln, hlm, hwake.ticks, hwake.tickMarks, hn, hm]
      refine ⟨?_, ?_⟩
      · rw [List.length_cons]
        omega
      · rw [List.append_assoc]
        rfl

/-- Whether no flush of a run raises, neither in a tick nor in the shutdown at the end. -/
def flushesAnswer (r : Reporter τ) (sleeps : Nat) : Bool :=
  (r.sayStarted.begins sleeps).all flushAnswers
    && (r.sayStarted.loop sleeps).emitter.shutdown.2.isOk

omit [TimeScale τ] in
/-- The end of a run whose shutdown answers. -/
theorem finish_eq {r : Reporter τ} (h : r.emitter.shutdown.2.isOk = true) :
    r.finish = (r.closing.say .info "reporter.stopped" [("ticks", .int r.ticks)], .ok ()) := by
  refine finish_cases (P := fun p => p = _) r (fun f hf => ?_) (fun _ => rfl)
  rw [hf] at h
  cases h

omit [TimeScale τ] in
/-- **The end of a run** says how many ticks were counted. -/
theorem finish_numbered {r : Reporter τ} (h : r.emitter.shutdown.2.isOk = true) :
    ∃ r', r.finish = (r', .ok ()) ∧ r'.ticks = r.ticks
      ∧ r'.tickMarks = r.tickMarks ++ [.stopped (some r.ticks)] := by
  have hclosing : Uncounted r r.closing :=
    ((act_uncounted (.enter r .stopped)).trans (.note rfl _)).trans (act_uncounted (.called _ _))
  refine ⟨_, finish_eq h, hclosing.ticks, (tickMarks_note rfl _).trans ?_⟩
  rw [hclosing.tickMarks]
  rfl

/-- **How the ticks of a run are numbered.**  Whatever its queries, its shapes and its sink raise, as
long as no flush does: the run answers; every tick that begins is recorded exactly once before the next
begins, a completed one under its own number and a crashed one under the number of the next; and the
last entry says how many ticks there were.  So the records are numbered one after another exactly where
no tick crashed. -/
theorem run_numbers (r : Reporter τ) (sleeps : Nat) (hflush : r.flushesAnswer sleeps = true) :
    let ends := (r.sayStarted.begins sleeps).map tickEnd
    ∃ r', r.run sleeps = (r', .ok ())
      ∧ (ends = [] ↔ r.stopRequested = true)
      ∧ ends.length ≤ sleeps + 1
      ∧ r'.ticks = r.ticks + ends.length
      ∧ r'.tickMarks =
          r.tickMarks ++ tickCourse r.ticks ends ++ [.stopped (some (r.ticks + ends.length : Nat))]
      ∧ ((tickCourse r.ticks ends).filterMap TickMark.number? = numbersAfter r.ticks ends.length
          ↔ .crashed ∉ ends) := by
  intro ends
  obtain ⟨hticks, hshut⟩ := Bool.and_eq_true_iff.mp hflush
  have hstarted : Uncounted r r.sayStarted := .note rfl r
  obtain ⟨hn, hm⟩ := loop_numbered sleeps _ hticks
  obtain ⟨r', hrun, hn', hm'⟩ := finish_numbered hshut
  obtain ⟨hnone, hlength⟩ := begins_length sleeps r.sayStarted
  have hlen : ends.length = (r.sayStarted.begins sleeps).length := List.length_map _
  rw [hstarted.ticks] at hn hm
  rw [hstarted.tickMarks] at hm
  refine ⟨r', hrun, ?_, ?_, ?_, ?_, numbers_tickCourse r.ticks ends⟩
  · rw [List.map_eq_nil_iff]
    exact hnone
  · rw [hlen]
    exact hlength
  · rw [hn', hn, hlen]
  · rw [hm', hm, hn, hlen]

/-- A reporter whose sink crashes on the sample of the first tick, and on the count of that failure. -/
def crashingReporter : Reporter Rat where
  cadence := 60
  deadline := 30
  bindings := [⟨.jobOrphanRunning, .orphanRunningJobs, .scalar⟩]
  source := .ready
  playbook := fun _ => .always { takes := 0, sent := .ok (.int 1) }
  emitter := { sink := .rehearsal { deliveries :=
    ⟨[some (.outside .runtime none), some (.outside .runtime none)], none⟩ } }
  clock := 0

/-- The first of three ticks crashes, and its record and that of the second have one number. -/
theorem numbers_of_crashing_reporter :
    crashingReporter.flushesAnswer 2 = true
      ∧ ∃ r', crashingReporter.run 2 = (r', .ok ())
        ∧ r'.ticks = 3
        ∧ r'.tickMarks = [.began, .crashed (some 2), .began, .completed (some 2), .began,
            .completed (some 3), .stopped (some 3)] := by
  have hflush : crashingReporter.flushesAnswer 2 = true := by decide +kernel
  obtain ⟨r', hrun, -, -, hticks, hmarks, -⟩ := run_numbers crashingReporter 2 hflush
  have hends : (crashingReporter.sayStarted.begins 2).map tickEnd = [.crashed, .completed, .completed] := by
    decide +kernel
  rw [hends] at hticks hmarks
  exact ⟨hflush, r', hrun, hticks, hmarks⟩

/-- The records of a run need not be numbered one after another. -/
theorem numbers_after_crash :
    crashingReporter.flushesAnswer 0 = true
      ∧ (crashingReporter.run 0).1.tickMarks = [.began, .crashed (some 2), .stopped (some 1)]
      ∧ (crashingReporter.run 0).1.tickMarks.filterMap TickMark.number? ≠
          numbersAfter crashingReporter.ticks 1 := by
  decide +kernel

end Reporter
end FleetHealth
