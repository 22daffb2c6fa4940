import FleetHealth.Proofs.Emitter.Accounting
import FleetHealth.Proofs.Reporter.Act

/-!
# Proofs — Reporter — Stop

A run ends when the reporter is told to stop, and not before.  What a run does is read off its journal as a list of *deeds*: ticks that begin, queries that are started, points that are submitted, flushes, sleeps, and the moment at which the reporter is told.

* `Turns`, `Round` and `Rounds` are the deeds of turns, of a tick that nobody interrupts and of ticks and sleeps in alternation; `Halt` is what is done before the reporter is told to stop and what is still done after.
* `Did` says which deeds lead from one reporter to another.  Deeds compose (`Did.trans`).
* `walk_did`, `cycle_did`, `loop_halts`: the turns of a tick, a tick, and the loop.
* `run_stops`: after the reporter was told, no query is started and no tick begun; only the binding whose query was in progress submits points, the tick flushes once and reports whether a binding was left; then the run is over.

The emitter is *calm*: whatever it is called for, nothing is raised before a flush, so that a flush and a shutdown answer.  Samples and errors may raise anything.
-/

namespace FleetHealth

/-- What a run does, apart from what it says and what its emitter does. -/
inductive Deed where
  | began
  | asked (operation : Operation)
  | submitted (metric : Metric)
  | flushing
  | ticked (interrupted : Bool)
  | ended
  | crashed
  | slept
  | told
  | closing
  | stopped
deriving DecidableEq

/-- The deed that an event is.  Two entries count: that a tick crashed, and that the run is over. -/
def ReporterEvent.deed? {τ : Type} : ReporterEvent τ → Option Deed
  | .began _           => some .began
  | .asked o _         => some (.asked o)
  | .submitted m _     => some (.submitted m)
  | .flushing _        => some .flushing
  | .ticked report     => some (.ticked report.interrupted)
  | .ended _ _         => some .ended
  | .slept _ _         => some .slept
  | .told              => some .told
  | .closing _         => some .closing
  | .sink (.said entry) =>
    if entry.logger == "syncwatch.reporter" then
      if entry.event == "reporter.tick.crashed" then some .crashed
      else if entry.event == "reporter.stopped" then some .stopped
      else none
    else none
  | .sink _            => none

theorem deed?_of_isOwn {τ : Type} {ev : SinkEvent} (h : ev.isOwn = true) :
    (ReporterEvent.sink ev : ReporterEvent τ).deed? = none := by
  cases ev with
  | said entry =>
      simp only [ReporterEvent.deed?, logger_of_isOwn h, Bool.false_eq_true, if_false]
  | _ => rfl

namespace Deed

/-- Whether a deed is none of those by which a run ends. -/
def isWork : Deed → Bool
  | told | closing | stopped => false
  | _                        => true

/-- The query of an operation, started unless there is no time for it. -/
def query (hurried : Bool) (o : Operation) : List Deed := if hurried then [] else [.asked o]

/-- The turns of bindings: the query of each is started, and some points are submitted as samples of
its metric. -/
inductive Turns (hurried : Bool) : List Binding → List Deed → Prop where
  | nil : Turns hurried [] []
  | cons {b : Binding} {bs : List Binding} {ds : List Deed} (k : Nat) (h : Turns hurried bs ds) :
      Turns hurried (b :: bs)
        (query hurried b.operation ++ List.replicate k (.submitted b.metric) ++ ds)

/-- A tick that nobody interrupts.  It flushes once and reports, when every binding had its turn; or
it crashes in the turn of one, and even then it flushes once. -/
inductive Round (hurried : Bool) (bs : List Binding) : List Deed → Prop where
  | reported {ds : List Deed} (h : Turns hurried bs ds) :
      Round hurried bs (.began :: ds ++ [.flushing, .ticked false, .ended])
  | crashed {done : List Binding} {ds : List Deed} (hb : done <+: bs) (h : Turns hurried done ds) :
      Round hurried bs (.began :: ds ++ [.flushing, .ended, .crashed])

/-- A number of ticks that nobody interrupts, each with the sleep after it. -/
inductive Rounds (hurried : Bool) (bs : List Binding) : Nat → List Deed → Prop where
  | zero : Rounds hurried bs 0 []
  | succ {n : Nat} {ds es : List Deed} (h : Round hurried bs ds) (t : Rounds hurried bs n es) :
      Rounds hurried bs (n + 1) (ds ++ .slept :: es)

/-- What is left to do in a tick whose reporter has been told to stop: points of the binding whose
query was in progress, one flush, and a report, unless the tick crashes. -/
inductive LastTurn (b : Binding) (interrupted : Bool) : List Deed → Prop where
  | reported (k : Nat) :
      LastTurn b interrupted
        (List.replicate k (.submitted b.metric) ++ [.flushing, .ticked interrupted, .ended])
  | crashed (k : Nat) :
      LastTurn b interrupted
        (List.replicate k (.submitted b.metric) ++ [.flushing, .ended, .crashed])

/-- What a loop does before and after the reporter is told to stop: in the sleep after the given
number of sleeps, and then nothing is done after; or earlier, in the query of a binding, and then its
turn and its tick are brought to an end.  The report says whether bindings are left. -/
inductive Halt (hurried : Bool) (bs : List Binding) (sleeps : Nat) :
    List Deed → List Deed → Prop where
  | asleep {before : List Deed} (h : Rounds hurried bs (sleeps + 1) before) :
      Halt hurried bs sleeps before []
  | asking {n : Nat} {rounds ds after : List Deed} {done left : List Binding} {b : Binding}
      (hn : n ≤ sleeps) (h : Rounds hurried bs n rounds) (hb : bs = done ++ b :: left)
      (ht : Turns hurried done ds) (hl : LastTurn b (!left.isEmpty) after) :
      Halt hurried bs sleeps (rounds ++ .began :: ds ++ [.asked b.operation]) after

/-! ### Deeds that are work -/

@[simp] theorem work_replicate (k : Nat) (m : Metric) :
    (List.replicate k (submitted m)).all isWork = true := by
  rw [List.all_eq_true]
  intro d hd
  rw [List.eq_of_mem_replicate hd]
  rfl

@[simp] theorem work_query (hurried : Bool) (o : Operation) :
    (query hurried o).all isWork = true := by
  cases hurried <;> rfl

theorem Turns.work {hurried : Bool} {bs : List Binding} {ds : List Deed}
    (h : Turns hurried bs ds) : ds.all isWork = true := by
  induction h with
  | nil => rfl
  | cons k _ ih => simp only [List.all_append, work_query, work_replicate, ih, Bool.and_self]

theorem Round.work {hurried : Bool} {bs : List Binding} {ds : List Deed}
    (h : Round hurried bs ds) : ds.all isWork = true := by
  cases h with
  | reported h => simp [h.work, isWork]
  | crashed _ h => simp [h.work, isWork]

theorem Rounds.work {hurried : Bool} {bs : List Binding} {n : Nat} {ds : List Deed}
    (h : Rounds hurried bs n ds) : ds.all isWork = true := by
  induction h with
  | zero => rfl
  | succ h _ ih => simp [h.work, ih, isWork]

theorem LastTurn.work {b : Binding} {interrupted : Bool} {ds : List Deed}
    (h : LastTurn b interrupted ds) : ds.all isWork = true := by
  cases h with
  | reported k => simp [isWork]
  | crashed k => simp [isWork]

/-- The reporter is told once, and the run ends only after. -/
theorem Halt.work {hurried : Bool} {bs : List Binding} {sleeps : Nat} {before after : List Deed}
    (h : Halt hurried bs sleeps before after) : (before ++ after).all isWork = true := by
  cases h with
  | asleep h => simp [h.work]
  | asking _ h _ ht hl => simp [h.work, ht.work, hl.work, isWork]

/-- A tick that nobody interrupts, and its sleep, before the rest of a loop. -/
theorem Halt.later {hurried : Bool} {bs : List Binding} {sleeps : Nat} {ds before after : List Deed}
    (h : Round hurried bs ds) (k : Halt hurried bs sleeps before after) :
    Halt hurried bs (sleeps + 1) (ds ++ .slept :: before) after := by
  cases k with
  | asleep k => exact .asleep (.succ h k)
  | @asking n rounds es _ done left b hn k hb ht hl =>
      have hk := Halt.asking (Nat.succ_le_succ hn) (.succ h k) hb ht hl
      simpa only [List.append_assoc, List.cons_append] using hk

end Deed

/-! ### The emitter -/

namespace Emitter

/-- An emitter is calm when no history of calls makes its sink raise before a flush. -/
def Calm (e : Emitter) : Prop := ∀ calls, (e.run calls).sink.beforeFlush = none

theorem Calm.beforeFlush {e : Emitter} (h : e.Calm) : e.sink.beforeFlush = none := h []

theorem Calm.perform {e : Emitter} (h : e.Calm) (c : Call) : (e.perform c).1.Calm :=
  fun calls => h (c :: calls)

theorem calm_clear {e : Emitter} : e.clear.Calm ↔ e.Calm := by
  have hrun : ∀ calls, (e.clear.run calls).sink = (e.run calls).sink := by
    intro calls
    rw [run_clear e calls, atop_sink]
  unfold Calm
  simp only [hrun]

/-- A sink that plays no script raises nothing before a flush. -/
theorem calm_of_name {e : Emitter} (h : e.sink.name ≠ "scripted") : e.Calm := by
  intro calls
  have hname := ((settings_invariant e.maxFailures e.sink.name).run (e := e) ⟨rfl, rfl⟩ calls).2
  cases hs : (e.run calls).sink with
  | rehearsal s => exact absurd (hname.symm.trans (by rw [hs]; rfl)) h
  | _ => rfl

/-- A shutdown that nothing precedes answers, and the emitter is closed. -/
theorem shutdown_answers {e : Emitter} (h : e.sink.beforeFlush = none) :
    ∃ e', e.shutdown = (e', .ok ()) ∧ e'.health.closed = true := by
  refine shutdown_cases (P := fun r => ∃ e', r = (e', .ok ()) ∧ e'.health.closed = true) e
    (fun hc => ⟨e, rfl, hc⟩) (fun f _ hf => ?_)
    (fun _ _ => ⟨_, rfl, (released_framed _).closed rfl⟩)
  obtain ⟨e₁, hflush⟩ := Reporter.flush_answers h
  rw [hflush] at hf
  cases hf

end Emitter

namespace Reporter

open Emitter (Call)

variable {τ : Type} [TimeScale τ]

/-- What the reporter has done, the first of it first. -/
def deeds (r : Reporter τ) : List Deed := (r.journal.filterMap ReporterEvent.deed?).reverse

/-- Whether there is no time for any query. -/
def hurried (r : Reporter τ) : Bool := TimeScale.notAfter r.deadline 0

/-- `r'` came of `r` by deeds.  It has the same bindings and the same time for a query, it was told
to stop if one of the deeds says so, and its emitter is calm if it was. -/
structure Did (ds : List Deed) (r r' : Reporter τ) : Prop where
  deeds : r'.deeds = r.deeds ++ ds
  bindings : r'.bindings = r.bindings
  deadline : r'.deadline = r.deadline
  stopRequested : r'.stopRequested = (r.stopRequested || ds.contains .told)
  calm : r.emitter.Calm → r'.emitter.Calm

namespace Did

variable {ds es : List Deed} {r r₁ r₂ : Reporter τ}

omit [TimeScale τ] in
/-- Nothing was written down, and nothing that a run depends on was changed. -/
theorem quiet (hj : r₁.journal = r.journal) (hb : r₁.bindings = r.bindings)
    (hd : r₁.deadline = r.deadline) (hs : r₁.stopRequested = r.stopRequested)
    (he : r₁.emitter = r.emitter) : Did [] r r₁ where
  deeds := by rw [Reporter.deeds, Reporter.deeds, hj, List.append_nil]
  bindings := hb
  deadline := hd
  stopRequested := hs.trans (Bool.or_false _).symm
  calm := by rw [he]; exact id

omit [TimeScale τ] in
theorem refl (r : Reporter τ) : Did [] r r := quiet rfl rfl rfl rfl rfl

omit [TimeScale τ] in
theorem trans (h : Did ds r r₁) (k : Did es r₁ r₂) : Did (ds ++ es) r r₂ where
  deeds := by rw [k.deeds, h.deeds, List.append_assoc]
  bindings := k.bindings.trans h.bindings
  deadline := k.deadline.trans h.deadline
  stopRequested := by
    rw [k.stopRequested, h.stopRequested, List.contains_append, Bool.or_assoc]
  calm := k.calm ∘ h.calm

theorem hurried (h : Did ds r r₁) : r₁.hurried = r.hurried := by
  rw [Reporter.hurried, Reporter.hurried, h.deadline]

omit [TimeScale τ] in
/-- Work does not tell the reporter to stop. -/
theorem unstopped (h : Did ds r r₁) (hw : ds.all Deed.isWork = true) :
    r₁.stopRequested = r.stopRequested := by
  have hno : ds.contains .told = false := by
    cases hc : ds.contains .told with
    | false => rfl
    | true => cases List.all_eq_true.mp hw .told (List.contains_iff_mem.mp hc)
  rw [h.stopRequested, hno, Bool.or_false]

end Did

/-! ### Parts of a tick -/

omit [TimeScale τ] in
theorem deeds_of_journal {r r' : Reporter τ} (evs : List (ReporterEvent τ))
    (h : r'.journal = evs ++ r.journal) :
    r'.deeds = r.deeds ++ (evs.filterMap ReporterEvent.deed?).reverse := by
  rw [deeds, h, List.filterMap_append, List.reverse_append, deeds]

omit [TimeScale τ] in
theorem did_enter (r : Reporter τ) (p : Phase) : Did [] r (r.enter p) :=
  .quiet rfl rfl rfl rfl rfl

omit [TimeScale τ] in
/-- A deed written down, other than that the reporter was told to stop. -/
theorem did_note {ev : ReporterEvent τ} {d : Deed} (h : ev.deed? = some d) (hd : d ≠ .told)
    (r : Reporter τ) : Did [d] r (r.note ev) where
  deeds := by
    rw [deeds_of_journal (r := r) [ev] rfl, List.filterMap_cons_some h]
    rfl
  bindings := rfl
  deadline := rfl
  stopRequested := by simp [note, hd.symm]
  calm := id

omit [TimeScale τ] in
/-- Something said that is neither that a tick crashed nor that the run is over. -/
theorem did_say {event : String} (h : event ≠ "reporter.tick.crashed")
    (h' : event ≠ "reporter.stopped") (r : Reporter τ) (level : Log.Level)
    (fields : List (String × Datum)) (a : Log.Attachment) :
    Did [] r (r.say level event fields a) where
  deeds := by
    rw [deeds_of_journal (r := r) [_] rfl]
    simp [ReporterEvent.deed?, h, h']
  bindings := rfl
  deadline := rfl
  stopRequested := (Bool.or_false _).symm
  calm := id

omit [TimeScale τ] in
/-- A call of the emitter is no deed of the reporter. -/
theorem did_onEmitter {α : Type} (r : Reporter τ) (call : Emitter → Emitter × α) (c : Call)
    (h : (call r.emitter.clear).1 = (r.emitter.clear.perform c).1) :
    Did [] r (r.onEmitter call).1 where
  deeds := by
    have hj : (r.onEmitter call).1.journal =
        (r.emitter.clear.perform c).1.journal.map .sink ++ r.journal := by
      rw [← h]
      rfl
    -- all that a call writes down is the emitter's own, and no deed
    rw [deeds_of_journal _ hj, filterMap_perform fun _ => deed?_of_isOwn]
    rfl
  bindings := rfl
  deadline := rfl
  stopRequested := (Bool.or_false _).symm
  calm := by
    intro hcalm
    have hc : (r.onEmitter call).1.emitter = (r.emitter.clear.perform c).1.clear := by
      rw [← h]
      rfl
    rw [hc]
    exact Emitter.calm_clear.mpr ((Emitter.calm_clear.mpr hcalm).perform c)

/-! ### Turns -/

omit [TimeScale τ] in
/-- **One emission** is at most a sample. -/
theorem emission_did {m : Metric} {r r' : Reporter τ} (h : Emission m r r') :
    ∃ k, Did (List.replicate k (.submitted m)) r r' := by
  cases h with
  | enter => exact ⟨0, did_enter r .emit⟩
  | submitted => exact ⟨1, did_note rfl (by nofun) r⟩
  | failed fields => exact ⟨0, did_say (by decide) (by decide) r .warning fields .none⟩
  | crashed fields a => exact ⟨0, did_say (by decide) (by decide) r .error fields a⟩
  | called c => exact ⟨0, did_onEmitter r (·.perform c) c rfl⟩

/-- **The turn of a binding**, once its query is over: samples of its metric, and nothing else. -/
theorem turn_did (h : Heard) (r : Reporter τ) (report : TickReport τ) :
    ∃ k, Did (List.replicate k (.submitted h.binding.metric)) r (turn h r report).1 := by
  refine (turn_emissions h r report).lift (fun r => ⟨0, Did.refl r⟩) ?_ emission_did
  rintro r₁ r₂ r₃ ⟨j, hj⟩ ⟨k, hk⟩
  refine ⟨j + k, ?_⟩
  rw [← List.replicate_append_replicate]
  exact hj.trans hk

omit [TimeScale τ] in
/-- The reporter told to stop, or not; it is told once. -/
theorem tell_did (r : Reporter τ) (stop : Bool) :
    Did (if stop && !r.stopRequested then [.told] else []) r (r.tell stop) := by
  unfold tell
  split
  case isFalse => exact Did.refl r
  case isTrue => exact ⟨deeds_of_journal [.told] rfl, rfl, rfl, (Bool.or_true _).symm, id⟩

/-- The query of an operation was started, and perhaps the reporter was told to stop while it was in
progress. -/
def Inquired (o : Operation) (r r₁ : Reporter τ) : Prop :=
  Did [.asked o] r r₁ ∨ r.stopRequested = false ∧ Did [.asked o, .told] r r₁

omit [TimeScale τ] in
theorem Inquired.tell {o : Operation} {r r₁ : Reporter τ} (h : Inquired o r r₁) (stop : Bool) :
    Inquired o r (r₁.tell stop) := by
  have hd := tell_did r₁ stop
  split at hd
  case isFalse => exact h.imp (fun h => h.trans hd) (fun h => ⟨h.1, h.2.trans hd⟩)
  case isTrue hstop =>
    simp only [Bool.and_eq_true, Bool.not_eq_true'] at hstop
    rcases h with h | ⟨-, h⟩
    · exact .inr ⟨(h.unstopped rfl).symm.trans hstop.2, h.trans hd⟩
    · -- a reporter that has been told is not told again
      have htold : r₁.stopRequested = true := h.stopRequested.trans (Bool.or_true _)
      rw [htold] at hstop
      cases hstop.2

/-- A query is started, unless there is no time for any. -/
theorem ask_did (r : Reporter τ) (o : Operation) :
    r.hurried = true ∧ Did [] r (r.ask o).1 ∨ r.hurried = false ∧ Inquired o r (r.ask o).1 := by
  have hquiet : ∀ (r : Reporter τ) (t : τ), Did [] r { r with clock := t } :=
    fun r t => .quiet rfl rfl rfl rfl rfl
  have hbegun : Did [.asked o] r
      { r.note (.asked o r.phase) with playbook := (r.playbook.next o).2 } :=
    (did_note rfl (by nofun) r).trans (.quiet rfl rfl rfl rfl rfl)
  have hasking : Inquired o r (r.asking o) := Inquired.tell (.inl hbegun) _
  have hclock : ∀ t, Inquired o r { r.asking o with clock := t } := fun t =>
    hasking.imp (fun h => h.trans (hquiet _ t)) (fun h => ⟨h.1, h.2.trans (hquiet _ t)⟩)
  exact ask_cases
    (P := fun p => r.hurried = true ∧ Did [] r p.1 ∨ r.hurried = false ∧ Inquired o r p.1) r o
    (fun hnow => .inl ⟨hnow, Did.refl r⟩) (fun hpatient => .inr ⟨hpatient, hclock _⟩)
    (fun hpatient => .inr ⟨hpatient, (hclock _).tell _⟩)

/-- **The turn of a binding**: its query, in which the reporter may be told to stop, and then samples
of its metric. -/
theorem visit_did (b : Binding) (r : Reporter τ) (report : TickReport τ) :
    (visit b r report).2.1.interrupted = report.interrupted
      ∧ ∃ k, Did (Deed.query r.hurried b.operation ++ List.replicate k (.submitted b.metric)) r
            (visit b r report).1
          ∨ r.stopRequested = false
            ∧ Did (.asked b.operation :: .told :: List.replicate k (.submitted b.metric)) r
                (visit b r report).1 := by
  obtain ⟨k, hturn⟩ := turn_did ⟨b, ((r.enter .tick).ask b.operation).2⟩
    ((r.enter .tick).ask b.operation).1 report
  rw [visit_eq]
  refine ⟨turn_interrupted _ _ report, k, ?_⟩
  have henter := did_enter r .tick
  rcases ask_did (r.enter .tick) b.operation with ⟨hh, hd⟩ | ⟨hh, hd | ⟨hgo, hd⟩⟩
  · rw [henter.hurried] at hh
    rw [hh]
    exact .inl ((henter.trans hd).trans hturn)
  · rw [henter.hurried] at hh
    rw [hh]
    exact .inl ((henter.trans hd).trans hturn)
  · exact .inr ⟨hgo, (henter.trans hd).trans hturn⟩

/-! ### Ticks -/

/-- How the turns of bindings went, when nobody had told the reporter to stop before: to their end or
up to a crash; or the reporter was told in the query of one, and no further one had a turn. -/
inductive Walked (bs : List Binding) (r : Reporter τ) (p : Progress τ) : Prop where
  | untold {done rest : List Binding} {ds : List Deed} (hb : bs = done ++ rest)
      (ht : Deed.Turns r.hurried done ds) (hd : Did ds r p.1)
      (hi : p.2.2 = none → rest = [] ∧ p.2.1.interrupted = false)
  | told {done left : List Binding} {b : Binding} {ds : List Deed} (k : Nat)
      (hb : bs = done ++ b :: left) (ht : Deed.Turns r.hurried done ds)
      (hd : Did (ds ++ .asked b.operation :: .told :: List.replicate k (.submitted b.metric)) r p.1)
      (hi : p.2.2 = none → p.2.1.interrupted = !left.isEmpty)

/-- One more turn before the others. -/
theorem Walked.cons {b : Binding} {bs : List Binding} {r r₁ : Reporter τ} {p : Progress τ} {k : Nat}
    (h : Did (Deed.query r.hurried b.operation ++ List.replicate k (.submitted b.metric)) r r₁)
    (w : Walked bs r₁ p) : Walked (b :: bs) r p := by
  cases w with
  | untold hb ht hd hi =>
      rw [h.hurried] at ht
      exact .untold (congrArg (b :: ·) hb) (.cons k ht) (h.trans hd) hi
  | told n hb ht hd hi =>
      rw [h.hurried] at ht
      have hall := h.trans hd
      rw [← List.append_assoc] at hall
      exact .told n (congrArg (b :: ·) hb) (.cons k ht) hall hi

/-- A reporter that has been told to stop visits nobody, and says so if there is anybody left. -/
theorem walk_stopped {r : Reporter τ} (h : r.stopRequested = true) (bs : List Binding)
    (report : TickReport τ) :
    walk true bs r report =
      (r, { report with interrupted := report.interrupted || !bs.isEmpty }, none) := by
  cases bs with
  | nil => simp [walk]
  | cons b bs => simp [walk, h]

/-- **The turns of bindings**, by when the reporter was told to stop.  The induction is on the
bindings; the reporter is untold before each turn. -/
theorem walk_did (bs : List Binding) {r : Reporter τ} {report : TickReport τ}
    (hgo : r.stopRequested = false) (hi : report.interrupted = false) :
    Walked bs r (walk true bs r report) := by
  induction bs generalizing r report with
  | nil => exact .untold (List.append_nil []).symm .nil (Did.refl r) fun _ => ⟨rfl, hi⟩
  | cons b bs ih =>
      have hno : ¬ (true && r.stopRequested) = true := by
        rw [hgo]
        exact Bool.false_ne_true
      obtain ⟨hint, k, hd⟩ := visit_did b r report
      rw [walk, if_neg hno]
      cases hv : visit b r report with
      | mk r₁ rest =>
          obtain ⟨report₁, escaped⟩ := rest
          rw [hv] at hint hd
          have hi₁ : report₁.interrupted = false := hint.trans hi
          rcases hd with hd | ⟨-, hd⟩
          · -- untold, so the others have their turns, unless this one crashed
            have hgo₁ : r₁.stopRequested = false :=
              (hd.unstopped (by rw [List.all_append, Deed.work_query, Deed.work_replicate]; rfl)).trans hgo
            cases escaped with
            | some f =>
                have ht : Deed.Turns r.hurried [b] _ := .cons k .nil
                rw [List.append_nil] at ht
                exact .untold (List.singleton_append).symm ht hd (fun h => by cases h)
            | none => exact .cons hd (ih hgo₁ hi₁)
          · -- told in this query: none of the others is visited
            have hstop : r₁.stopRequested = true := by
              rw [hd.stopRequested, hgo]
              rfl
            cases escaped with
            | some f => exact .told k (List.nil_append _).symm .nil hd (fun h => by cases h)
            | none =>
                dsimp only
                rw [walk_stopped hstop bs report₁]
                refine .told k (List.nil_append _).symm .nil hd fun _ => ?_
                dsimp only
                rw [hi₁, Bool.false_or]

theorem sayCompleted_did (r : Reporter τ) (report : TickReport τ) :
    Did [] r (r.sayCompleted report) := by
  have hcompleted : ∀ fields, Did [] r (r.say .info "reporter.tick.completed" fields .none) :=
    fun fields => did_say (by decide) (by decide) r .info fields .none
  exact sayCompleted_cases (P := Did [] r) r report (fun _ => hcompleted _)
    (fun _ _ => (hcompleted _).trans (did_say (by decide) (by decide) _ .warning _ .none))

/-- **The end of a tick**: one flush, and then a report or, where a turn crashed, an entry about it. -/
theorem cycle_ends {r r₁ : Reporter τ} {report : TickReport τ} {escaped : Option Fault}
    (h : walk true r.bindings (r.note (.began r.clock)) .empty = (r₁, report, escaped))
    (hcalm : r₁.emitter.Calm) :
    escaped = none ∧ Did [.flushing, .ticked report.interrupted, .ended] r₁ r.cycle
      ∨ escaped ≠ none ∧ Did [.flushing, .ended, .crashed] r₁ r.cycle := by
  have hnoted : Did [.flushing] r₁ (r₁.note (.flushing r₁.phase)) := did_note rfl (by nofun) r₁
  have hflush : Did [.flushing] r₁ r₁.flushing.counted :=
    (hnoted.trans (did_onEmitter _ (·.perform .flush) .flush rfl)).trans (.quiet rfl rfl rfl rfl rfl)
  have hended : ∀ r : Reporter τ, Did [.ended] r r.ending := fun r => did_note rfl (by nofun) r
  obtain ⟨e, he⟩ := flush_answers hcalm.beforeFlush
  refine tick_cases (P := fun p => r.tick true = p → _) true r ?refused ?crashed ?completed rfl
  case refused =>
    intro r₂ report₂ escaped₂ f hw hf _
    cases h.symm.trans hw
    rw [he] at hf
    cases hf
  case crashed =>
    intro r₂ report₂ f hw _ htick
    cases h.symm.trans hw
    have hcrashed : Did [.crashed] r₁.flushing.counted.ending r.cycle := by
      rw [cycle, htick]
      exact did_note rfl (by nofun) _
    exact .inr ⟨nofun, (hflush.trans (hended _)).trans hcrashed⟩
  case completed =>
    intro r₂ report₂ report' hw _ hreport htick
    cases h.symm.trans hw
    have hticked : ∀ r : Reporter τ, Did [.ticked report.interrupted] r (r.note (.ticked report')) := by
      rw [hreport]
      exact fun r => did_note rfl (by nofun) r
    rw [show r.cycle = _ by rw [cycle, htick]]
    exact .inl ⟨rfl, ((hflush.trans (sayCompleted_did _ _)).trans (hticked _)).trans (hended _)⟩

/-- **A tick of the loop**, when nobody had told the reporter to stop before it: one that nobody
interrupts, or one in which the reporter was told. -/
theorem cycle_did {r : Reporter τ} (hcalm : r.emitter.Calm) (hgo : r.stopRequested = false) :
    (∃ ds, Deed.Round r.hurried r.bindings ds ∧ Did ds r r.cycle)
      ∨ ∃ before after, (∀ sleeps, Deed.Halt r.hurried r.bindings sleeps before after)
        ∧ Did (before ++ .told :: after) r r.cycle := by
  have hbegan : Did [.began] r (r.note (.began r.clock)) := did_note rfl (by nofun) r
  have hw : Walked r.bindings (r.note (.began r.clock))
      (walk true r.bindings (r.note (.began r.clock)) .empty) :=
    walk_did r.bindings ((hbegan.unstopped rfl).trans hgo) rfl
  cases hp : walk true r.bindings (r.note (.began r.clock)) .empty with
  | mk r₁ rest =>
      obtain ⟨report, escaped⟩ := rest
      rw [hp] at hw
      cases hw with
      | @untold done rest ds hb ht hd hi =>
          have hdone := hbegan.trans hd
          -- a walk that nobody cut short and nothing crashed has visited every binding
          rcases cycle_ends hp (hdone.calm hcalm) with ⟨hnone, hend⟩ | ⟨-, hend⟩
          · obtain ⟨rfl, hint⟩ := hi hnone
            rw [List.append_nil] at hb
            rw [hint] at hend
            subst hb
            exact .inl ⟨_, .reported ht, hdone.trans hend⟩
          · exact .inl ⟨_, .crashed ⟨rest, hb.symm⟩ ht, hdone.trans hend⟩
      | @told done left b ds k hb ht hd hi =>
          have hdone := hbegan.trans hd
          rcases cycle_ends hp (hdone.calm hcalm) with ⟨hnone, hend⟩ | ⟨-, hend⟩
          · rw [hi hnone] at hend
            refine .inr ⟨_, _, fun n => .asking n.zero_le .zero hb ht (.reported k), ?_⟩
            simpa only [List.append_assoc, List.cons_append, List.nil_append] using hdone.trans hend
          · refine .inr ⟨_, _, fun n => .asking n.zero_le .zero hb ht (.crashed k), ?_⟩
            simpa only [List.append_assoc, List.cons_append, List.nil_append] using hdone.trans hend

/-! ### Runs -/

/-- The reporter in the sleep after a tick. -/
def asleep (r : Reporter τ) : Reporter τ :=
  (r.cycle.enter .sleep).note (.slept (r.cycle.delayAfter r.clock) .sleep)

/-- The reporter when that sleep is over. -/
def awake (r : Reporter τ) : Reporter τ :=
  { r.asleep with clock := r.asleep.clock + r.cycle.delayAfter r.clock }

theorem asleep_stopRequested (r : Reporter τ) : r.asleep.stopRequested = r.cycle.stopRequested := by
  simp only [asleep, note, enter]

theorem awake_stopRequested (r : Reporter τ) : r.awake.stopRequested = r.cycle.stopRequested := by
  simp only [awake, asleep, note, enter]

/-- A reporter that has been told to stop begins no tick. -/
theorem loop_stopped {r : Reporter τ} (h : r.stopRequested = true) (sleeps : Nat) :
    r.loop sleeps = r := by
  unfold loop
  exact if_pos h

/-- A tick in which the reporter is told is the last. -/
theorem loop_cut {r : Reporter τ} (hgo : r.stopRequested = false)
    (h : r.cycle.stopRequested = true) (sleeps : Nat) : r.loop sleeps = r.cycle := by
  unfold loop
  simp only [hgo, h, Bool.false_eq_true, if_false, if_true]

theorem loop_told {r : Reporter τ} {before after : List Deed} (hgo : r.stopRequested = false)
    (h : Did (before ++ .told :: after) r r.cycle) (sleeps : Nat) : r.loop sleeps = r.cycle := by
  refine loop_cut hgo ?_ sleeps
  rw [h.stopRequested, List.contains_append, List.contains_cons]
  simp

theorem loop_zero {r : Reporter τ} (hgo : r.stopRequested = false)
    (h : r.cycle.stopRequested = false) : r.loop 0 = r.asleep.tell true := by
  unfold loop
  simp only [hgo, h, Bool.false_eq_true, if_false]
  rfl

theorem loop_succ {r : Reporter τ} (hgo : r.stopRequested = false)
    (h : r.cycle.stopRequested = false) (n : Nat) : r.loop (n + 1) = r.awake.loop n := by
  rw [loop]
  simp only [hgo, h, Bool.false_eq_true, if_false]
  rfl

/-- **Induction along a loop**: it was stopped before it began, its first tick is the last, so is the
sleep after that tick, or it goes on when the sleep is over. -/
theorem loop_induction {motive : Nat → Reporter τ → Prop}
    (stopped : ∀ n r, r.stopRequested = true → motive n r)
    (cut : ∀ n r, r.stopRequested = false → r.cycle.stopRequested = true → motive n r)
    (last : ∀ r, r.stopRequested = false → r.cycle.stopRequested = false → motive 0 r)
    (next : ∀ n r, r.stopRequested = false → r.cycle.stopRequested = false → motive n r.awake →
      motive (n + 1) r)
    (n : Nat) (r : Reporter τ) : motive n r := by
  induction n generalizing r with
  | zero =>
      cases hgo : r.stopRequested with
      | true => exact stopped 0 r hgo
      | false =>
          cases h : r.cycle.stopRequested with
          | true => exact cut 0 r hgo h
          | false => exact last r hgo h
  | succ n ih =>
      cases hgo : r.stopRequested with
      | true => exact stopped (n + 1) r hgo
      | false =>
          cases h : r.cycle.stopRequested with
          | true => exact cut (n + 1) r hgo h
          | false => exact next n r hgo h (ih r.awake)

theorem asleep_did {ds : List Deed} {r : Reporter τ} (h : Did ds r r.cycle) :
    Did (ds ++ [.slept]) r r.asleep := by
  have hslept : Did [.slept] (r.cycle.enter .sleep) r.asleep := did_note rfl (by nofun) _
  exact h.trans ((did_enter r.cycle .sleep).trans hslept)

/-- **The loop goes on until the reporter is told to stop**, and then it ends.  The induction is on
the sleeps that are slept to their end. -/
theorem loop_halts (sleeps : Nat) {r : Reporter τ} (hcalm : r.emitter.Calm)
    (hgo : r.stopRequested = false) :
    ∃ before after, Deed.Halt r.hurried r.bindings sleeps before after
      ∧ Did (before ++ .told :: after) r (r.loop sleeps) := by
  induction sleeps generalizing r with
  | zero =>
      rcases cycle_did hcalm hgo with ⟨ds, hround, hd⟩ | ⟨before, after, hhalt, hd⟩
      · have hgo₁ : r.cycle.stopRequested = false := (hd.unstopped hround.work).trans hgo
        have hgo₂ : r.asleep.stopRequested = false := (asleep_stopRequested r).trans hgo₁
        have htold := tell_did r.asleep true
        rw [hgo₂] at htold
        rw [loop_zero hgo hgo₁]
        exact ⟨_, _, .asleep (.succ hround .zero), (asleep_did hd).trans htold⟩
      · rw [loop_told hgo hd]
        exact ⟨before, after, hhalt 0, hd⟩
  | succ n ih =>
      rcases cycle_did hcalm hgo with ⟨ds, hround, hd⟩ | ⟨before, after, hhalt, hd⟩
      · have hgo₁ : r.cycle.stopRequested = false := (hd.unstopped hround.work).trans hgo
        have hgo₂ : r.awake.stopRequested = false := (awake_stopRequested r).trans hgo₁
        have hwake : Did [] r.asleep r.awake := .quiet rfl rfl rfl rfl rfl
        have hslept := (asleep_did hd).trans hwake
        obtain ⟨before, after, hhalt, hrest⟩ := ih (hslept.calm hcalm) hgo₂
        rw [hslept.hurried, hslept.bindings] at hhalt
        rw [loop_succ hgo hgo₁]
        refine ⟨_, _, hhalt.later hround, ?_⟩
        simpa only [List.append_assoc, List.cons_append, List.nil_append] using hslept.trans hrest
      · rw [loop_told hgo hd]
        exact ⟨before, after, hhalt (n + 1), hd⟩

omit [TimeScale τ] in
/-- **The end of a run**: the emitter is shut down, and that is said. -/
theorem finish_did {r : Reporter τ} (hcalm : r.emitter.Calm) :
    ∃ r', r.finish = (r', .ok ()) ∧ Did [.closing, .stopped] r r' ∧ r'.phase = .stopped
      ∧ r'.emitter.health.closed = true := by
  have hnoted : Did [.closing] (r.enter .stopped) ((r.enter .stopped).note (.closing .stopped)) :=
    did_note rfl (by nofun) _
  have hshut : Did [.closing] r r.closing :=
    ((did_enter r .stopped).trans hnoted).trans (did_onEmitter _ (·.perform .shutdown) .shutdown rfl)
  obtain ⟨e, he, hclosed⟩ := Emitter.shutdown_answers hcalm.beforeFlush
  have hemitter : r.closing.emitter = e.clear := by
    rw [closing, called_emitter]
    exact congrArg (fun p => p.1.clear) he
  refine finish_cases (P := fun p => ∃ r', p = (r', .ok ()) ∧ Did [.closing, .stopped] r r'
    ∧ r'.phase = .stopped ∧ r'.emitter.health.closed = true) r (fun f hf => ?_) (fun _ => ?_)
  · rw [he] at hf
    cases hf
  · have hstopped : Did [.stopped] r.closing
        (r.closing.say .info "reporter.stopped" [("ticks", .int r.ticks)]) :=
      did_note rfl (by nofun) _
    refine ⟨_, rfl, hshut.trans hstopped, rfl, ?_⟩
    show r.closing.emitter.health.closed = true
    rw [hemitter]
    exact hclosed

/-- **A run ends when the reporter is told to stop.**  Whatever its queries bring, whatever its sink
raises over samples and however often a tick crashes: a run that was told before it began does nothing
but end; any other goes on until it is told, and then does no more than `Halt` says.  At the end of
either the reporter is stopped, its emitter was shut down once and is closed, and that the run is over
was said once. -/
theorem run_stops (r : Reporter τ) (hcalm : r.emitter.Calm) (sleeps : Nat) :
    ∃ r' course, r.run sleeps = (r', .ok ())
      ∧ r'.phase = .stopped
      ∧ r'.emitter.health.closed = true
      ∧ r'.deeds = r.deeds ++ course ++ [.closing, .stopped]
      ∧ (r.stopRequested = true → course = [])
      ∧ (r.stopRequested = false → ∃ before after, course = before ++ .told :: after
          ∧ (before ++ after).all Deed.isWork = true
          ∧ Deed.Halt r.hurried r.bindings sleeps before after) := by
  have hstarted : Did [] r r.sayStarted := did_say (by decide) (by decide) r .info _ .none
  -- what the loop did, before the end that every run has
  have hcourse : ∃ course, Did course r (r.sayStarted.loop sleeps)
      ∧ (r.stopRequested = true → course = [])
      ∧ (r.stopRequested = false → ∃ before after, course = before ++ .told :: after
          ∧ (before ++ after).all Deed.isWork = true
          ∧ Deed.Halt r.hurried r.bindings sleeps before after) := by
    cases hgo : r.stopRequested with
    | true =>
        rw [loop_stopped (r := r.sayStarted) hgo]
        exact ⟨[], hstarted, fun _ => rfl, nofun⟩
    | false =>
        obtain ⟨before, after, hhalt, hd⟩ := loop_halts sleeps (hstarted.calm hcalm) hgo
        rw [hstarted.hurried, hstarted.bindings] at hhalt
        exact ⟨_, hstarted.trans hd, nofun, fun _ => ⟨before, after, rfl, hhalt.work, hhalt⟩⟩
  obtain ⟨course, hd, hbefore, hafter⟩ := hcourse
  obtain ⟨r', hfinish, hend, hphase, hclosed⟩ := finish_did (hd.calm hcalm)
  refine ⟨r', course, hfinish, hphase, hclosed, ?_, hbefore, hafter⟩
  rw [(hd.trans hend).deeds, List.append_assoc]

/-- A reporter of three bindings, told to stop in the second query of its second tick. -/
def toldReporter : Reporter Rat where
  cadence := 60
  deadline := 30
  bindings := threeBindings
  source := .ready
  playbook := Playbook.set (fun _ => .always { takes := 1, sent := .ok (.int 3) })
    .scheduledActiveConnectionsLastDay
    ⟨[{ takes := 1, sent := .ok (.int 3) }],
      { takes := 1, stopsWaiting := true, sent := .ok (.int 3) }⟩
  emitter := { sink := .discard false }
  clock := 0

/-- The second tick submits the points of the second binding, leaves the third out, and is the last. -/
theorem stops_in_second_tick :
    toldReporter.emitter.Calm
      ∧ ∃ r', toldReporter.run 5 = (r', .ok ())
        ∧ r'.phase = .stopped
        ∧ r'.emitter.health.closed = true
        ∧ r'.deeds =
          [.began, .asked .orphanRunningJobs, .asked .scheduledActiveConnectionsLastDay,
           .submitted .connectionScheduledLastDay, .submitted .connectionScheduledLastDay,
           .asked .jobsNotRunningOnScheduleLastDay, .submitted .jobMissedScheduleLastDay, .flushing,
           .ticked false, .ended, .slept,
           .began, .asked .orphanRunningJobs, .asked .scheduledActiveConnectionsLastDay, .told,
           .submitted .connectionScheduledLastDay, .submitted .connectionScheduledLastDay, .flushing,
           .ticked true, .ended, .closing, .stopped] := by
  have hcalm : toldReporter.emitter.Calm := Emitter.calm_of_name (by decide)
  obtain ⟨r', -, hrun, hphase, hclosed, -⟩ := run_stops toldReporter hcalm 5
  have hr : (toldReporter.run 5).1 = r' := by rw [hrun]
  refine ⟨hcalm, r', hrun, hphase, hclosed, ?_⟩
  rw [← hr]
  decide +kernel

end Reporter
end FleetHealth
