import FleetHealth.Emitter.Open
import FleetHealth.Proofs.Emitter.Locality

/-!
# Proofs — Emitter — Lifecycle

When the hooks of a sink run.  A *hook* is one of the four ways in which an emitter calls its sink: to record a sample, to flush, to release, and to be turned off.  `Life` says which sequences of hooks an emitter can have run, by whether it has been disabled and closed: samples and flushes in any order, then perhaps a sample that turned the sink off, then perhaps the release, which follows a flush unless the sink was turned off before.

* `Living` is the invariant that ties a journal to a life and to the two flags of its emitter.
* `flush_ran` and `shutdown_ran` are the two calls that end a life, on a sink that raises nothing of its own before a flush (`Sink.isCalm`).
* `hooks_of_history` is the account of every history.

The report of a lost sample is itself a sample.  Where the loss has turned the sink off, the report finds the emitter off, and no hook runs after the turn: so the invariant is kept by one sample handed to the sink, and not by one public call.
-/

namespace FleetHealth

/-- A way in which an emitter calls its sink. -/
inductive Hook where
  | record
  | flush
  | release
  | turnOff
deriving DecidableEq

/-- The hook that an event says has run. -/
def SinkEvent.hook? : SinkEvent → Option Hook
  | recorded .. => some .record
  | flushed _   => some .flush
  | released _  => some .release
  | turnedOff   => some .turnOff
  | _           => none

/-- Whether a sink raises nothing of its own before a flush, now and later. -/
def Sink.isCalm : Sink → Bool
  | rehearsal r => r.preludes.queue.all Option.isNone && r.preludes.rest.isNone
  | _           => true

/-! ### Lives -/

/-- The hooks that an emitter can have run, the first of them first, by whether it has been disabled
and whether it has been closed. -/
inductive Life : Bool → Bool → List Hook → Prop where
  | new : Life false false []
  | record {hs : List Hook} (h : Life false false hs) : Life false false (hs ++ [.record])
  | flush {hs : List Hook} (h : Life false false hs) : Life false false (hs ++ [.flush])
  | turnOff {hs : List Hook} (h : Life false false hs) : Life true false (hs ++ [.record, .turnOff])
  | release {disabled : Bool} {hs : List Hook} (h : Life disabled false hs) :
      Life disabled true (hs ++ if disabled then [.release] else [.flush, .release])

namespace Life

variable {disabled closed : Bool} {hs : List Hook}

/-- The sink was released once if the emitter was closed, and never otherwise. -/
theorem count_release (h : Life disabled closed hs) : hs.count .release = closed.toNat := by
  induction h with
  | new => rfl
  | record _ ih | flush _ ih | turnOff _ ih => simpa using ih
  | @release disabled _ _ ih => cases disabled <;> simp [ih]

/-- The sink was turned off once if the emitter was disabled, and never otherwise. -/
theorem count_turnOff (h : Life disabled closed hs) : hs.count .turnOff = disabled.toNat := by
  induction h with
  | new => rfl
  | record _ ih | flush _ ih => simpa using ih
  | turnOff _ ih => simp [ih]
  | @release disabled _ _ ih => cases disabled <;> simp [ih]

theorem not_released (h : Life disabled false hs) : .release ∉ hs :=
  List.count_eq_zero.mp h.count_release

theorem not_turnedOff (h : Life false closed hs) : .turnOff ∉ hs :=
  List.count_eq_zero.mp h.count_turnOff

/-- No hook runs after the release, and only the release after the sink was turned off. -/
theorem ordered (h : Life disabled closed hs) :
    hs.Pairwise fun earlier later =>
      earlier ≠ .release ∧ (earlier = .turnOff → later = .release) := by
  induction h with
  | new => exact .nil
  | record h ih | flush h ih =>
      -- the hooks before are neither the release nor the turn
      refine List.pairwise_append.mpr ⟨ih, List.pairwise_singleton _ _, fun x hx y _ => ⟨?_, ?_⟩⟩
      · rintro rfl
        exact h.not_released hx
      · rintro rfl
        exact absurd hx h.not_turnedOff
  | turnOff h ih =>
      refine List.pairwise_append.mpr ⟨ih, by simp, fun x hx y _ => ⟨?_, ?_⟩⟩
      · rintro rfl
        exact h.not_released hx
      · rintro rfl
        exact absurd hx h.not_turnedOff
  | @release disabled _ h ih =>
      refine List.pairwise_append.mpr ⟨ih, by cases disabled <;> simp, fun x hx y hy => ⟨?_, ?_⟩⟩
      · rintro rfl
        exact h.not_released hx
      · rintro rfl
        cases disabled with
        | true => exact List.mem_singleton.mp hy
        | false => exact absurd hx h.not_turnedOff

end Life

namespace Emitter

/-! ### Hooks that have run -/

/-- The hooks that have run, the first of them first. -/
def hooks (e : Emitter) : List Hook := (e.journal.filterMap SinkEvent.hook?).reverse

theorem hooks_of_journal {e e' : Emitter} (evs : List SinkEvent)
    (h : e'.journal = evs ++ e.journal) :
    e'.hooks = e.hooks ++ (evs.filterMap SinkEvent.hook?).reverse := by
  rw [hooks, h, List.filterMap_append, List.reverse_append, hooks]

@[simp] theorem hooks_say (e : Emitter) (level : Log.Level) (event : String)
    (fields : List (String × Datum)) (a : Log.Attachment) :
    (e.say level event fields a).hooks = e.hooks :=
  (hooks_of_journal [.said _] rfl).trans (List.append_nil _)

/-- What a sink is seen to do with a sample is no other hook. -/
theorem sink_record_hooks (s : Sink) (m : Metric) (x : Binary64) (tags : Tags) :
    (s.record m x tags).2.1.filterMap SinkEvent.hook? = [] := by
  cases s with
  | rehearsal r => rfl
  | discard warned => cases warned <;> rfl
  | statsd s =>
      show (s.send m x tags).2.1.filterMap SinkEvent.hook? = []
      unfold Socket.send
      split
      · unfold Socket.sendLine
        split
        rfl
      · rfl
  | otlp p => rfl

@[simp] theorem record_hooks (e : Emitter) (m : Metric) (x : Binary64) (tags : Tags) :
    (e.record m x tags).1.hooks = e.hooks ++ [.record] := by
  have hj : (e.record m x tags).1.journal =
      (.recorded m x tags (e.record m x tags).2 :: (e.sink.record m x tags).2.1.reverse)
        ++ e.journal := record_journal_eq e m x tags
  have hr : SinkEvent.hook? (.recorded m x tags (e.record m x tags).2) = some .record := rfl
  rw [hooks_of_journal _ hj, List.filterMap_cons_some hr, List.filterMap_reverse,
    sink_record_hooks]
  rfl

theorem noteFatal_hooks {e : Emitter} (h : e.health.disabled = false) (f : Fault) :
    (e.noteFatal f).hooks =
      e.hooks ++ if (e.health.failed e.maxFailures).disabled then [.turnOff] else [] := by
  show _ = e.hooks ++ if e.failed.health.disabled then [.turnOff] else []
  refine noteFatal_cases (P := fun e' => e'.hooks = _) e f (fun _ hd => ?_) (fun hd => ?_)
  · rw [hooks_say, if_pos hd]
    exact hooks_of_journal [.turnedOff] rfl
  · have hd : e.failed.health.disabled = false := hd.resolve_left (Bool.eq_false_iff.mp h)
    rw [hooks_say, hd]
    exact (List.append_nil _).symm

/-! ### Calm sinks -/

theorem sink_record_isCalm (s : Sink) (m : Metric) (x : Binary64) (tags : Tags) :
    (s.record m x tags).1.isCalm = s.isCalm := by
  cases s <;> rfl

theorem sink_turnOff_isCalm (s : Sink) : s.turnOff.isCalm = s.isCalm := by
  cases s <;> rfl

@[simp] theorem record_isCalm (e : Emitter) (m : Metric) (x : Binary64) (tags : Tags) :
    (e.record m x tags).1.sink.isCalm = e.sink.isCalm := by
  rw [record_sink, sink_record_isCalm]

@[simp] theorem noteFatal_isCalm (e : Emitter) (f : Fault) :
    (e.noteFatal f).sink.isCalm = e.sink.isCalm := by
  rcases noteFatal_sink_cases e f with h | h
  · rw [h, sink_turnOff_isCalm]
  · rw [h]

/-! ### Flush and shutdown -/

/-- `e'` came of `e` by running hooks, and by nothing that the health of the sink shows. -/
structure Ran (hs : List Hook) (e e' : Emitter) : Prop where
  hooks : e'.hooks = e.hooks ++ hs
  health : e'.health = e.health
  isImmediate : e'.sink.isImmediate = e.sink.isImmediate
  isCalm : e'.sink.isCalm = e.sink.isCalm

theorem Ran.trans {hs ks : List Hook} {e₁ e₂ e₃ : Emitter} (h : Ran hs e₁ e₂) (k : Ran ks e₂ e₃) :
    Ran (hs ++ ks) e₁ e₃ where
  hooks := by rw [k.hooks, h.hooks, List.append_assoc]
  health := k.health.trans h.health
  isImmediate := k.isImmediate.trans h.isImmediate
  isCalm := k.isCalm.trans h.isCalm

theorem ran_say (e : Emitter) (level : Log.Level) (event : String)
    (fields : List (String × Datum)) (a : Log.Attachment) :
    Ran [] e (e.say level event fields a) :=
  ⟨hooks_of_journal [.said _] rfl, rfl, rfl, rfl⟩

theorem ran_absorb (e : Emitter) (event : String) (o : Option Fault) :
    Ran [] e (e.absorb event o) := by
  cases o with
  | none => exact ⟨(List.append_nil _).symm, rfl, rfl, rfl⟩
  | some f => exact ran_say e .warning event [] (.fault f.summary)

theorem flushHook_ran {e : Emitter} (h : e.sink.isImmediate = true) :
    Ran [.flush] e e.flushHook.1 := by
  unfold flushHook
  split
  case h_1 r hs => exact ⟨hooks_of_journal [.flushed _] rfl, rfl, by rw [hs]; rfl, by rw [hs]; rfl⟩
  case h_2 p hs =>
    rw [hs] at h
    cases h
  case h_3 => exact ⟨hooks_of_journal [.flushed _] rfl, rfl, rfl, rfl⟩

theorem releaseHook_ran {e : Emitter} (h : e.sink.isImmediate = true) :
    Ran [.release] e e.releaseHook.1 := by
  unfold releaseHook
  split
  case h_1 r hs => exact ⟨hooks_of_journal [.released _] rfl, rfl, by rw [hs]; rfl, by rw [hs]; rfl⟩
  case h_2 s hs =>
    split
    · exact ⟨hooks_of_journal [.released _, .socket .close] rfl, rfl, by rw [hs]; rfl,
        by rw [hs]; rfl⟩
    · exact ⟨hooks_of_journal [.released _] rfl, rfl, rfl, rfl⟩
  case h_3 p hs =>
    rw [hs] at h
    cases h
  case h_4 => exact ⟨hooks_of_journal [.released _] rfl, rfl, rfl, rfl⟩

/-- What precedes a flush runs no hook, and on a calm sink raises nothing. -/
theorem prelude_ran (e : Emitter) (h : e.sink.isCalm = true) :
    Ran [] e e.prelude.1 ∧ e.prelude.2 = none := by
  unfold prelude
  split
  case h_1 r hs =>
    rw [hs] at h
    obtain ⟨deliveries, flushes, releases, ⟨queue, rest⟩⟩ := r
    obtain ⟨hq, hr⟩ := Bool.and_eq_true_iff.mp h
    cases queue with
    | nil =>
        exact ⟨⟨(List.append_nil _).symm, rfl, by rw [hs]; rfl, by rw [hs]; rfl⟩,
          Option.isNone_iff_eq_none.mp hr⟩
    | cons o os =>
        obtain ⟨ho, hos⟩ := Bool.and_eq_true_iff.mp hq
        refine ⟨⟨(List.append_nil _).symm, rfl, by rw [hs]; rfl, ?_⟩,
          Option.isNone_iff_eq_none.mp ho⟩
        rw [hs, h]
        exact Bool.and_eq_true_iff.mpr ⟨hos, hr⟩
  case h_2 => exact ⟨⟨(List.append_nil _).symm, rfl, rfl, rfl⟩, rfl⟩

theorem flushed_ran {e : Emitter} (h : e.sink.isImmediate = true) : Ran [.flush] e e.flushed :=
  (flushHook_ran h).trans (ran_absorb _ _ _)

theorem released_ran {e : Emitter} (h : e.sink.isImmediate = true) : Ran [.release] e e.released :=
  ((releaseHook_ran h).trans (ran_absorb _ _ _)).trans (ran_say _ _ _ _ _)

/-- **A flush answers**, and runs its hook unless the emitter is off. -/
theorem flush_ran {e : Emitter} (hi : e.sink.isImmediate = true) (hc : e.sink.isCalm = true) :
    e.flush.2 = .ok () ∧ Ran (if e.health.isOff then [] else [.flush]) e e.flush.1 := by
  obtain ⟨hp, ho⟩ := prelude_ran e hc
  rw [← hp.health]
  refine flush_cases (P := fun r => r.2 = .ok () ∧
    Ran (if e.prelude.1.health.isOff then [] else [.flush]) e r.1) e ?refused ?left ?done
  case refused =>
    intro f hf
    cases ho.symm.trans hf
  case left =>
    intro _ hoff
    rw [if_pos hoff]
    exact ⟨rfl, hp⟩
  case done =>
    intro _ hon
    rw [if_neg (Bool.eq_false_iff.mp hon)]
    exact ⟨rfl, hp.trans (flushed_ran (hp.isImmediate.trans hi))⟩

/-- An emitter that was closed answers a shutdown, and no hook runs. -/
theorem shutdown_closed {e : Emitter} (h : e.health.closed = true) : e.shutdown = (e, .ok ()) := by
  unfold shutdown
  rw [if_pos h]

/-- **The first shutdown answers**, and runs the release on the closed emitter, after a flush unless
the sink was turned off. -/
theorem shutdown_ran {e : Emitter} (hi : e.sink.isImmediate = true) (hc : e.sink.isCalm = true)
    (h : e.health.closed = false) :
    e.shutdown.2 = .ok ()
      ∧ Ran (if e.health.disabled then [.release] else [.flush, .release]) e.close
          e.shutdown.1 := by
  obtain ⟨ho, hf⟩ := flush_ran hi hc
  have hoff : e.health.isOff = e.health.disabled := by rw [Health.isOff, h, Bool.false_or]
  rw [hoff] at hf
  refine shutdown_cases (P := fun r => r.2 = .ok () ∧
    Ran (if e.health.disabled then [.release] else [.flush, .release]) e.close r.1) e
    ?closed ?refused ?done
  case closed =>
    intro hclosed
    cases h.symm.trans hclosed
  case refused =>
    intro f _ hr
    cases ho.symm.trans hr
  case done =>
    intro _ _
    have hclose : Ran (if e.health.disabled then [] else [.flush]) e.close e.flush.1.close :=
      ⟨hf.hooks, congrArg (fun h : Health => { h with closed := true }) hf.health,
        hf.isImmediate, hf.isCalm⟩
    have hall := hclose.trans (released_ran (hf.isImmediate.trans hi))
    refine ⟨rfl, ?_⟩
    cases hd : e.health.disabled with
    | true =>
        rw [hd] at hall
        exact hall
    | false =>
        rw [hd] at hall
        exact hall

/-! ### The invariant -/

/-- The journal of an emitter is that of a life, at the point that its two flags say. -/
structure Living (e : Emitter) : Prop where
  immediate : e.sink.isImmediate = true
  calm : e.sink.isCalm = true
  life : Life e.health.disabled e.health.closed e.hooks

theorem living_ofSink (o : EmitterOptions) {s : Sink} (hs : s.isImmediate = true)
    (hc : s.isCalm = true) : Living (ofSink o s) :=
  ⟨hs, hc, .new⟩

/-- An emitter that is on has come to no turn of its life yet. -/
theorem Living.life_on {e : Emitter} (h : Living e) (hon : e.health.isOff = false) :
    Life false false e.hooks := by
  obtain ⟨hclosed, hdisabled⟩ := Bool.or_eq_false_iff.mp hon
  have hl := h.life
  rwa [hclosed, hdisabled] at hl

/-- One more record, with which the emitter stays on. -/
theorem Living.recorded {e e' : Emitter} (h : Living e) (hon : e.health.isOff = false)
    (hi : e'.sink.isImmediate = e.sink.isImmediate) (hc : e'.sink.isCalm = e.sink.isCalm)
    (hon' : e'.health.isOff = false) (hh : e'.hooks = e.hooks ++ [.record]) : Living e' := by
  refine ⟨hi.trans h.immediate, hc.trans h.calm, ?_⟩
  obtain ⟨hclosed, hdisabled⟩ := Bool.or_eq_false_iff.mp hon'
  rw [hclosed, hdisabled, hh]
  exact (h.life_on hon).record

/-- One more record that ends in a fatal fault, and the turn when the fault completes the run. -/
theorem Living.recorded_fatal {e : Emitter} (h : Living e) (hon : e.health.isOff = false)
    (m : Metric) (x : Binary64) (tags : Tags) (f : Fault) :
    Living ((e.record m x tags).1.noteFatal f) := by
  obtain ⟨hclosed, hdisabled⟩ := Bool.or_eq_false_iff.mp hon
  refine ⟨by simpa using h.immediate, by simpa using h.calm, ?_⟩
  have hd : (e.record m x tags).1.health.disabled = false := by rw [record_health, hdisabled]
  have hcl : (e.health.failed e.maxFailures).closed = false := hclosed
  rw [noteFatal_hooks hd, noteFatal_health, record_hooks, record_health, record_maxFailures, hcl]
  cases (e.health.failed e.maxFailures).disabled with
  | true =>
      rw [if_pos rfl, List.append_assoc]
      exact (h.life_on hon).turnOff
  | false =>
      rw [if_neg Bool.false_ne_true, List.append_nil]
      exact (h.life_on hon).record

/-- **One sample handed to the sink** is one more record, and perhaps the turn. -/
theorem Living.attempt {e : Emitter} (h : Living e) (hon : e.health.isOff = false) (m : Metric)
    (x : Binary64) (tags : Tags) : Living (e.attempt m x tags).1 := by
  have hi := record_isImmediate e m x tags
  have hc := record_isCalm e m x tags
  have hh := record_hooks e m x tags
  have hon' : (e.record m x tags).1.health.isOff = false := by rw [record_health, hon]
  refine attempt_cases (P := fun r => Living r.1) e m x tags ?delivered ?transient ?fatal ?crashed
  case delivered =>
    intro _
    rw [if_pos h.immediate]
    exact h.recorded hon hi hc hon' hh
  case transient =>
    intro f _ _
    exact h.recorded hon hi hc hon' ((hooks_say _ _ _ _ _).trans hh)
  case fatal =>
    intro f _ _
    exact h.recorded_fatal hon m x tags f
  case crashed =>
    intro f _ _ _
    exact h.recorded hon hi hc hon' hh

theorem Living.flush {e : Emitter} (h : Living e) : Living e.flush.1 := by
  obtain ⟨-, hf⟩ := flush_ran h.immediate h.calm
  refine ⟨hf.isImmediate.trans h.immediate, hf.isCalm.trans h.calm, ?_⟩
  have hl := h.life
  rw [hf.health, hf.hooks]
  cases hoff : e.health.isOff with
  | true =>
      rw [if_pos rfl, List.append_nil]
      exact hl
  | false =>
      obtain ⟨hclosed, hdisabled⟩ := Bool.or_eq_false_iff.mp hoff
      rw [hclosed, hdisabled] at hl ⊢
      exact hl.flush

theorem Living.shutdown {e : Emitter} (h : Living e) : Living e.shutdown.1 := by
  cases hclosed : e.health.closed with
  | true =>
      rw [shutdown_closed hclosed]
      exact h
  | false =>
      obtain ⟨-, hs⟩ := shutdown_ran h.immediate h.calm hclosed
      refine ⟨hs.isImmediate.trans h.immediate, hs.isCalm.trans h.calm, ?_⟩
      have hl := h.life
      rw [hclosed] at hl
      rw [hs.health, hs.hooks]
      exact hl.release

theorem living_invariant : Invariant Living where
  attempt := by
    intro e m t v d x tags e' a _ hon ha h
    have hp := h.attempt hon m x (e.tagged tags)
    rwa [ha] at hp
  counted := fun _ h => ⟨h.immediate, h.calm, h.life⟩
  flush := Living.flush
  shutdown := Living.shutdown

/-! ### Every history -/

/-- Whether a call is a shutdown. -/
def Call.isShutdown : Call → Bool
  | shutdown => true
  | _        => false

/-- No hook of a closed emitter runs. -/
theorem closed_invariant (hs : List Hook) :
    Invariant fun e => Living e ∧ e.health.closed = true ∧ e.hooks = hs where
  attempt := by
    rintro e m t v d x tags e' a _ hon - ⟨-, hclosed, -⟩
    rw [Health.isOff, hclosed] at hon
    cases hon
  counted := fun k h => ⟨living_invariant.counted k h.1, h.2⟩
  flush := by
    rintro e ⟨h, hclosed, hh⟩
    obtain ⟨-, hf⟩ := flush_ran h.immediate h.calm
    have hoff : e.health.isOff = true := by rw [Health.isOff, hclosed, Bool.true_or]
    rw [hoff] at hf
    refine ⟨h.flush, by rw [hf.health, hclosed], ?_⟩
    rw [hf.hooks, hh]
    exact List.append_nil _
  shutdown := by
    rintro e ⟨h, hclosed, hh⟩
    rw [shutdown_closed hclosed]
    exact ⟨h, hclosed, hh⟩

/-- Samples and errors neither close an emitter nor open it. -/
theorem closed_kept (closed : Bool) : SampleInvariant fun e => e.health.closed = closed where
  attempt := by
    intro e m t v d x tags e' a _ _ ha h
    have hk := (attempt_handed e m x (e.tagged tags)).closed
    rw [ha] at hk
    exact hk.trans h
  counted := fun _ h => h

/-- A shutdown closes an emitter, and no other call does. -/
theorem perform_closed {e : Emitter} (h : Living e) (c : Call) :
    (e.perform c).1.health.closed = (e.health.closed || c.isShutdown) := by
  cases c with
  | sample t m v d =>
      exact ((closed_kept e.health.closed).submit rfl m t v d).trans (Bool.or_false _).symm
  | recordError i =>
      exact ((closed_kept e.health.closed).recordError rfl i).trans (Bool.or_false _).symm
  | flush =>
      have hf := congrArg Health.closed (flush_ran h.immediate h.calm).2.health
      exact hf.trans (Bool.or_false _).symm
  | shutdown =>
      refine Eq.trans ?_ (Bool.or_true _).symm
      show e.shutdown.1.health.closed = true
      cases hclosed : e.health.closed with
      | true => rw [shutdown_closed hclosed, hclosed]
      | false => rw [(shutdown_ran h.immediate h.calm hclosed).2.health]; rfl

theorem run_closed {e : Emitter} (h : Living e) (calls : List Call) :
    (e.run calls).health.closed = (e.health.closed || calls.any Call.isShutdown) := by
  induction calls generalizing e with
  | nil => exact (Bool.or_false _).symm
  | cons c cs ih =>
      have hcs := ih (living_invariant.perform h c)
      rw [perform_closed h, Bool.or_assoc] at hcs
      exact hcs

/-- **A flush and a shutdown never raise.** -/
theorem Living.answers {e : Emitter} (h : Living e) : e.flush.2 = .ok () ∧ e.shutdown.2 = .ok () := by
  refine ⟨(flush_ran h.immediate h.calm).1, ?_⟩
  cases hclosed : e.health.closed with
  | true => rw [shutdown_closed hclosed]
  | false => exact (shutdown_ran h.immediate h.calm hclosed).1

/-- After the first shutdown the hooks are those of before it and the end of the life. -/
theorem Living.hooks_shutdown {e : Emitter} (h : Living e) (hclosed : e.health.closed = false)
    (later : List Call) :
    (e.run (.shutdown :: later)).hooks =
      e.hooks ++ if e.health.disabled then [.release] else [.flush, .release] := by
  obtain ⟨-, hs⟩ := shutdown_ran h.immediate h.calm hclosed
  have hend : e.shutdown.1.health.closed = true := by rw [hs.health]; rfl
  exact ((closed_invariant _).run ⟨h.shutdown, hend, hs.hooks⟩ later).2.2

/-- **The hooks of a sink, over every history.**  Where samples leave at once and nothing but the
sink's own hooks is run by a flush: flush and shutdown answer at every point, whatever the hooks
raise; the sink is released once if there was a shutdown and never otherwise, and turned off once if
the emitter is disabled and never otherwise; no hook runs after the release, and none but the release
after the sink was turned off; and the first shutdown runs the release, right after one flush unless
the emitter was disabled, and nothing runs after it. -/
theorem hooks_of_history (o : EmitterOptions) (s : Sink) (hs : s.isImmediate = true)
    (hc : s.isCalm = true) (calls : List Call) :
    let e := (ofSink o s).run calls
    (e.flush.2 = .ok () ∧ e.shutdown.2 = .ok ())
    ∧ e.hooks.count .release = (calls.any Call.isShutdown).toNat
    ∧ e.hooks.count .turnOff = e.health.disabled.toNat
    ∧ e.hooks.Pairwise (fun earlier later =>
        earlier ≠ .release ∧ (earlier = .turnOff → later = .release))
    ∧ (∀ earlier later, calls = earlier ++ .shutdown :: later →
        earlier.any Call.isShutdown = false →
        let e₀ := (ofSink o s).run earlier
        e.hooks = e₀.hooks ++ if e₀.health.disabled then [.release] else [.flush, .release]) := by
  intro e
  have hnew := living_ofSink o hs hc
  have h : Living e := living_invariant.run hnew calls
  have hclosed : e.health.closed = calls.any Call.isShutdown := by
    rw [run_closed hnew calls]
    exact Bool.false_or _
  refine ⟨h.answers, ?_, h.life.count_turnOff, h.life.ordered, ?_⟩
  · rw [h.life.count_release, hclosed]
  · rintro earlier later rfl hfirst e₀
    have hopen : e₀.health.closed = false := by
      rw [run_closed hnew earlier, hfirst]
      rfl
    show ((ofSink o s).run (earlier ++ .shutdown :: later)).hooks = _
    rw [run_append]
    exact (living_invariant.run hnew earlier).hooks_shutdown hopen later

/-- A sink that delivers one sample and then fails for good, and raises over its release. -/
def failingRelease : Sink :=
  .rehearsal
    { deliveries := ⟨[none], some (.outside .sinkFatal none)⟩
      flushes := .always (some (.outside .runtime none))
      releases := .always (some (.outside .runtime none)) }

/-- Two samples, of which the second is lost, and two shutdowns with calls between them. -/
def twoShutdowns : List Call :=
  [.sample .gauge .jobOrphanRunning (.int 1) .null, .flush,
   .sample .gauge .jobOrphanRunning (.int 1) .null, .flush, .shutdown, .flush,
   .recordError (.text "job_orphan_running"), .shutdown]

/-- The loss of the second sample turns the sink off, and then only the release runs. -/
theorem hooks_of_two_shutdowns :
    let e := (ofSink ⟨none, 1⟩ failingRelease).run twoShutdowns
    failingRelease.isImmediate = true ∧ failingRelease.isCalm = true
    ∧ (e.flush.2 = .ok () ∧ e.shutdown.2 = .ok ())
    ∧ e.hooks.count .release = 1
    ∧ e.hooks = [.record, .flush, .record, .turnOff, .release] := by
  intro e
  obtain ⟨hanswers, hreleased, -, -, hend⟩ :=
    hooks_of_history ⟨none, 1⟩ failingRelease rfl rfl twoShutdowns
  have hbefore := hend (twoShutdowns.take 4) (twoShutdowns.drop 5) rfl rfl
  refine ⟨rfl, rfl, hanswers, hreleased, ?_⟩
  rw [hbefore]
  decide +kernel

end Emitter
end FleetHealth
