import FleetHealth.Proofs.Emitter.Accounting
import FleetHealth.Proofs.Emitter.Contact

/-!
# Proofs — Emitter — Disabled

A disabled emitter and one that discards.  The first drops a sample before its sink is reached, the other hands it to a sink that takes everything, and a caller cannot tell which of the two it has.  A `Sight` is what a caller sees of a call; an `Understudy` of an emitter is one that discards, with the same application tag, tally and closed flag.

* `Understudy.perform`: one call is answered alike, and the understudy is still one.
* `Understudy.sights_eq`: so is every history.
* `disabled_discards` is the account of every disabled emitter that a history leads to: nothing reaches its sink any more but the release.

The two never agree on the health of their sinks.  What has to be carried along is that the one stays disabled and the other never becomes so.
-/

namespace FleetHealth.Emitter

/-! ### What a caller sees -/

/-- What a caller sees of a call: its answer, and what can be asked for afterwards. -/
structure Sight where
  answer : Except Fault (Option Nat)
  errors : List (Key × Nat)
  closed : Bool

/-- What a caller sees of one call. -/
def see (e : Emitter) (c : Call) : Sight :=
  { answer := (e.perform c).2
    errors := (e.perform c).1.health.errors
    closed := (e.perform c).1.health.closed }

/-- What a caller sees of a history, call by call. -/
def sights (e : Emitter) : List Call → List Sight
  | []      => []
  | c :: cs => e.see c :: (e.perform c).1.sights cs

/-- `n` discards, with the application tag, the tally and the closed flag of `e`. -/
structure Understudy (e n : Emitter) : Prop where
  discards : ∃ warned, n.sink = .discard warned
  enabled : n.health.disabled = false
  application : n.application = e.application
  errors : n.health.errors = e.health.errors
  closed : n.health.closed = e.health.closed

/-- An emitter with the application tag, the tally and the closed flag of another, which discards. -/
def understudy (e : Emitter) : Emitter where
  application := e.application
  health := { closed := e.health.closed, errors := e.health.errors }
  sink := .discard false

theorem understudy_stands (e : Emitter) : Understudy e e.understudy :=
  ⟨⟨false, rfl⟩, rfl, rfl, rfl, rfl⟩

theorem discards_of_name {s : Sink} (h : s.name = "none") : ∃ warned, s = .discard warned := by
  cases s with
  | discard warned => exact ⟨warned, rfl⟩
  | rehearsal r | statsd s | otlp p => exact absurd h (by simp [Sink.name])

/-! ### Samples -/

/-- A sample that finds the emitter off is admitted or refused, and nothing becomes of it. -/
theorem offer_off {e : Emitter} (h : e.health.isOff = true) (m : Metric) (t : MetricType)
    (v d : Datum) : e.offer m t v d = (e, (accept m t v d).map fun _ => .settled) := by
  cases hx : accept m t v d with
  | error f => exact offer_of_error hx
  | ok admitted => exact offer_of_off hx h

theorem accept_map_ne_lost {m : Metric} {t : MetricType} {v d : Datum} :
    ((accept m t v d).map fun _ => Attempt.settled) ≠ .ok .lost := by
  cases accept m t v d with
  | error f => exact fun h => nomatch h
  | ok admitted => exact fun h => nomatch h

section

variable {e n : Emitter}

theorem isOff_of_disabled (h : e.health.disabled = true) : e.health.isOff = true := by
  rw [Health.isOff, h, Bool.or_true]

/-- The sink that discards takes every sample. -/
theorem Understudy.attempt (h : Understudy e n) (m : Metric) (x : Binary64) (tags : Tags) :
    (n.attempt m x tags).2 = .settled ∧ Understudy e (n.attempt m x tags).1 := by
  obtain ⟨warned, hs⟩ := h.discards
  have hnone : (n.record m x tags).2 = none := by rw [record, hs]; rfl
  refine attempt_cases (P := fun r => r.2 = .settled ∧ Understudy e r.1) n m x tags
    (fun _ => ⟨rfl, ?_⟩) (fun f hf _ => ?_) (fun f hf _ => ?_) (fun f hf _ _ => ?_)
  · have hi : n.sink.isImmediate = true := by rw [hs]; rfl
    have hh : (n.record m x tags).1.noteDelivery.health = n.health.delivered := by
      rw [noteDelivery, record_health]
    rw [if_pos hi]
    refine ⟨discards_of_name ?_, ?_, ?_, ?_, ?_⟩
    · rw [noteDelivery, record_name, hs]
      rfl
    · rw [hh]
      exact h.enabled
    · rw [noteDelivery, record_application]
      exact h.application
    · rw [hh]
      exact h.errors
    · rw [hh]
      exact h.closed
  · cases hnone.symm.trans hf
  · cases hnone.symm.trans hf
  · cases hnone.symm.trans hf

theorem Understudy.offer (h : Understudy e n) (m : Metric) (t : MetricType) (v d : Datum) :
    (n.offer m t v d).2 = ((accept m t v d).map fun _ => .settled)
      ∧ Understudy e (n.offer m t v d).1 := by
  refine offer_cases (P := fun r => r.2 = ((accept m t v d).map fun _ => .settled)
    ∧ Understudy e r.1) n m t v d ?_ ?_ ?_
  · intro f hf
    exact ⟨by rw [hf]; rfl, h⟩
  · intro x tags hx _
    exact ⟨by rw [hx]; rfl, h⟩
  · intro x tags n' a hx _ ha
    obtain ⟨hsettled, hn⟩ := h.attempt m x (n.tagged tags)
    rw [ha] at hsettled hn
    obtain rfl : a = .settled := hsettled
    exact ⟨by rw [hx]; rfl, hn⟩

theorem Understudy.counted (h : Understudy e n) (k : Key) :
    Understudy (e.counted k) (n.counted k) where
  discards := h.discards
  enabled := h.enabled
  application := h.application
  errors := by
    have ht : n.health.tally k = e.health.tally k := by rw [Health.tally, h.errors, Health.tally]
    show Entries.put k (n.health.tally k + 1) n.health.errors = _
    rw [ht, h.errors]
    rfl
  closed := h.closed

/-- **An error of an indicator** is answered alike, with the same tally. -/
theorem Understudy.recordError (h : Understudy e n) (hd : e.health.disabled = true) (i : Datum) :
    (n.recordError i).2 = (e.recordError i).2
      ∧ Understudy (e.recordError i).1 (n.recordError i).1 := by
  cases hk : Key.ofDatum i with
  | error s =>
      rw [recordError_of_error hk, recordError_of_error hk]
      exact ⟨rfl, h⟩
  | ok k =>
      have hc := h.counted k
      have htally : (n.counted k).health.tally k = (e.counted k).health.tally k := by
        rw [Health.tally, hc.errors, Health.tally]
      have hoff : (e.counted k).health.isOff = true := isOff_of_disabled hd
      rw [recordError_of_ok hk, recordError_of_ok hk]
      -- the report is admitted or refused on both sides alike, and lost on neither
      obtain ⟨ha, hn⟩ := hc.offer .sinkErrors .gauge (.int ((e.counted k).health.tally k))
        (.record [("indicator", i)])
      rw [reportTally, reportTally, htally, offer_off hoff]
      cases hr : (n.counted k).offer .sinkErrors .gauge (.int ((e.counted k).health.tally k))
          (.record [("indicator", i)]) with
      | mk n' r =>
          rw [hr] at ha hn
          obtain rfl : r = _ := ha
          cases accept .sinkErrors .gauge (.int ((e.counted k).health.tally k))
              (.record [("indicator", i)]) with
          | error f => exact ⟨rfl, hn⟩
          | ok admitted => exact ⟨rfl, hn⟩

/-- **A sample** is answered alike: no sample is lost on either side. -/
theorem Understudy.submit (h : Understudy e n) (hd : e.health.disabled = true) (m : Metric)
    (t : MetricType) (v d : Datum) :
    (n.submit m t v d).2 = (e.submit m t v d).2
      ∧ Understudy (e.submit m t v d).1 (n.submit m t v d).1 := by
  have he := offer_off (isOff_of_disabled hd) m t v d
  obtain ⟨ha, hn⟩ := h.offer m t v d
  have hno : (n.offer m t v d).2 ≠ .ok .lost := by
    rw [ha]
    exact accept_map_ne_lost
  cases hr : n.offer m t v d with
  | mk n' r =>
      rw [hr] at ha hn hno
      cases hacc : accept m t v d with
      | error f =>
          rw [hacc] at ha he
          obtain rfl : r = .error f := ha
          rw [submit_of_error hr, submit_of_error he]
          exact ⟨rfl, hn⟩
      | ok admitted =>
          rw [hacc] at ha he
          obtain rfl : r = .ok .settled := ha
          rw [submit_of_kept hr (fun h => nomatch h), submit_of_kept he (fun h => nomatch h)]
          exact ⟨rfl, hn⟩

/-! ### Flush and shutdown -/

theorem Understudy.isCalm (h : Understudy e n) :
    n.sink.isImmediate = true ∧ n.sink.isCalm = true := by
  obtain ⟨warned, hs⟩ := h.discards
  rw [hs]
  exact ⟨rfl, rfl⟩

theorem Understudy.name (h : Understudy e n) : n.sink.name = "none" := by
  obtain ⟨warned, hs⟩ := h.discards
  rw [hs]
  rfl

theorem Understudy.flush (h : Understudy e n) (he : Living e) :
    n.flush.2 = e.flush.2 ∧ Understudy e.flush.1 n.flush.1 := by
  obtain ⟨hni, hnc⟩ := h.isCalm
  obtain ⟨ha, hr⟩ := flush_ran he.immediate he.calm
  obtain ⟨hna, hnr⟩ := flush_ran hni hnc
  have hf := flush_framed e
  have hnf := flush_framed n
  refine ⟨hna.trans ha.symm, discards_of_name (hnf.name.trans h.name), ?_, ?_, ?_, ?_⟩
  · rw [hnr.health]
    exact h.enabled
  · rw [hnf.application, hf.application]
    exact h.application
  · rw [hnr.health, hr.health]
    exact h.errors
  · rw [hnr.health, hr.health]
    exact h.closed

theorem Understudy.shutdown (h : Understudy e n) (he : Living e) :
    n.shutdown.2 = e.shutdown.2 ∧ Understudy e.shutdown.1 n.shutdown.1 := by
  cases hclosed : e.health.closed with
  | true =>
      rw [shutdown_closed hclosed, shutdown_closed (h.closed.trans hclosed)]
      exact ⟨rfl, h⟩
  | false =>
      obtain ⟨hni, hnc⟩ := h.isCalm
      obtain ⟨ha, hr⟩ := shutdown_ran he.immediate he.calm hclosed
      obtain ⟨hna, hnr⟩ := shutdown_ran hni hnc (h.closed.trans hclosed)
      have hf := shutdown_framed e
      have hnf := shutdown_framed n
      refine ⟨hna.trans ha.symm, discards_of_name (hnf.name.trans h.name), ?_, ?_, ?_, ?_⟩
      · rw [hnr.health]
        exact h.enabled
      · rw [hnf.application, hf.application]
        exact h.application
      · rw [hnr.health, hr.health]
        exact h.errors
      · rw [hnr.health, hr.health]
        rfl

/-! ### Every history -/

/-- **One call is answered alike**, by a disabled emitter and by its understudy. -/
theorem Understudy.perform (h : Understudy e n) (he : Living e) (hd : e.health.disabled = true)
    (c : Call) : (n.perform c).2 = (e.perform c).2 ∧ Understudy (e.perform c).1 (n.perform c).1 := by
  cases c with
  | sample t m v d =>
      obtain ⟨ha, hs⟩ := h.submit hd m t v d
      exact ⟨congrArg (Except.map fun _ => none) ha, hs⟩
  | recordError i =>
      obtain ⟨ha, hs⟩ := h.recordError hd i
      exact ⟨congrArg (Except.map some) ha, hs⟩
  | flush =>
      obtain ⟨ha, hs⟩ := h.flush he
      exact ⟨congrArg (Except.map fun _ => none) ha, hs⟩
  | shutdown =>
      obtain ⟨ha, hs⟩ := h.shutdown he
      exact ⟨congrArg (Except.map fun _ => none) ha, hs⟩

theorem Understudy.sights_eq (h : Understudy e n) (he : Living e) (hd : e.health.disabled = true)
    (later : List Call) : n.sights later = e.sights later := by
  induction later generalizing e n with
  | nil => rfl
  | cons c cs ih =>
      obtain ⟨ha, hs⟩ := h.perform he hd c
      have hsee : n.see c = e.see c := by rw [see, see, ha, hs.errors, hs.closed]
      rw [sights, sights, hsee,
        ih hs (living_invariant.perform he c) (disabled_invariant.perform hd c)]

/-- One call reaches the sink of a disabled emitter only where it is the first shutdown. -/
theorem perform_parting (he : Living e) (hd : e.health.disabled = true) (c : Call) :
    ∃ evs, (e.perform c).1.contacts = e.contacts ++ evs
      ∧ Parting (!e.health.closed && c.isShutdown) evs := by
  have hoff := isOff_of_disabled hd
  have hnothing : ∀ {e' : Emitter}, e'.contacts = e.contacts →
      ∃ evs, e'.contacts = e.contacts ++ evs ∧ Parting (!e.health.closed && false) evs := by
    intro e' h
    refine ⟨[], by rw [h, List.append_nil], ?_⟩
    rw [Bool.and_false]
    exact parting_nil
  cases c with
  | sample t m v d => exact hnothing ((off_contacts e.contacts).submit ⟨hoff, rfl⟩ m t v d).2
  | recordError i => exact hnothing ((off_contacts e.contacts).recordError ⟨hoff, rfl⟩ i).2
  | flush => exact hnothing (flush_off_contacts hoff)
  | shutdown =>
      show ∃ evs, e.shutdown.1.contacts = e.contacts ++ evs ∧ Parting (!e.health.closed && true) evs
      rw [Bool.and_true]
      cases hclosed : e.health.closed with
      | true =>
          rw [shutdown_closed hclosed]
          exact ⟨[], (List.append_nil _).symm, parting_nil⟩
      | false => exact shutdown_disabled he hd hclosed

/-- **A history reaches the sink of a disabled emitter once at most**, with its first shutdown. -/
theorem run_parting (he : Living e) (hd : e.health.disabled = true) (later : List Call) :
    ∃ evs, (e.run later).contacts = e.contacts ++ evs
      ∧ Parting (!e.health.closed && later.any Call.isShutdown) evs := by
  induction later generalizing e with
  | nil =>
      refine ⟨[], (List.append_nil _).symm, ?_⟩
      rw [List.any_nil, Bool.and_false]
      exact parting_nil
  | cons c cs ih =>
      obtain ⟨evs, hevs, hp⟩ := perform_parting he hd c
      obtain ⟨rest, hrest, hq⟩ := ih (living_invariant.perform he c) (disabled_invariant.perform hd c)
      refine ⟨evs ++ rest, ?_, ?_⟩
      · show ((e.perform c).1.run cs).contacts = _
        rw [hrest, hevs, List.append_assoc]
      · -- a call that released the sink has closed the emitter
        rw [perform_closed he] at hq
        have hall := hp.append hq (by cases e.health.closed <;> cases c.isShutdown <;> rfl)
        have hb : (!e.health.closed && c.isShutdown
              || !(e.health.closed || c.isShutdown) && cs.any Call.isShutdown)
            = (!e.health.closed && (c :: cs).any Call.isShutdown) := by
          rw [List.any_cons]
          cases e.health.closed <;> cases c.isShutdown <;> simp
        rwa [hb] at hall

end

/-- **A disabled emitter behaves as one that discards.**  Where samples leave at once and nothing but
the sink's own hooks is run by a flush, and a history has disabled the emitter: whatever calls follow,
a caller sees of each of them what it would see of an emitter that discards, with the same application
tag, tally and closed flag; and nothing reaches the sink any more but one release, with the first
shutdown, if the emitter was not closed before and there is one. -/
theorem disabled_discards (o : EmitterOptions) (s : Sink) (hs : s.isImmediate = true)
    (hc : s.isCalm = true) (calls : List Call)
    (hd : ((ofSink o s).run calls).health.disabled = true) (n : Emitter)
    (hn : Understudy ((ofSink o s).run calls) n) (later : List Call) :
    let e := (ofSink o s).run calls
    n.sights later = e.sights later
    ∧ ∃ evs, (e.run later).contacts = e.contacts ++ evs
      ∧ Parting (!e.health.closed && later.any Call.isShutdown) evs := by
  intro e
  have he : Living e := living_invariant.run (living_ofSink o hs hc) calls
  exact ⟨hn.sights_eq he hd later, run_parting he hd later⟩

/-- Calls of every kind, one of them refused, and two shutdowns among them. -/
def lateCalls : List Call :=
  [.sample .gauge .jobOrphanRunning (.int 1) .null, .sample .gauge .jobOrphanRunning .null .null,
   .recordError (.text "job_orphan_running"), .flush, .shutdown,
   .recordError (.text "job_orphan_running"), .shutdown]

/-- The second of two samples was lost, and disabled the emitter. -/
theorem disabled_discards_of_lost :
    let e := (ofSink ⟨none, 1⟩ failingRelease).run (twoShutdowns.take 4)
    e.health.disabled = true ∧ e.understudy.sights lateCalls = e.sights lateCalls
    ∧ (e.sights lateCalls).map Sight.closed = [false, false, false, false, true, true, true]
    ∧ ∃ evs, (e.run lateCalls).contacts = e.contacts ++ evs ∧ Parting true evs := by
  intro e
  have hd : e.health.disabled = true := by decide +kernel
  obtain ⟨hsights, evs, hevs, hp⟩ := disabled_discards ⟨none, 1⟩ failingRelease rfl rfl
    (twoShutdowns.take 4) hd e.understudy (understudy_stands e) lateCalls
  have hreleased : (!e.health.closed && lateCalls.any Call.isShutdown) = true := by decide +kernel
  rw [hreleased] at hp
  exact ⟨hd, hsights, by decide +kernel, evs, hevs, hp⟩

end FleetHealth.Emitter
