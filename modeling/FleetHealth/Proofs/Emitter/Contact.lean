import FleetHealth.Proofs.Emitter.Lifecycle

/-!
# Proofs — Emitter — Contact

What reaches a sink.  Everything in a journal but a log entry is a *contact*: a hook that ran, or what was seen on the socket or at the exporter behind it.

* `off_contacts`: samples and errors reach no sink of an emitter that is off, of any kind.
* `flush_off_contacts`: neither does a flush.
* `shutdown_disabled`: the first shutdown of a disabled emitter releases its sink, and at most closes a socket besides.
* `sealed_invariant`: the sink of an emitter of any kind has not been released while the emitter is open, and when it is closed the release was the last to reach it, and the only one.
-/

namespace FleetHealth

/-- Whether an event says that the sink, or what is behind it, was reached. -/
def SinkEvent.reachesSink : SinkEvent → Bool
  | said _ => false
  | _      => true

/-- Whether an event is the release of the sink. -/
def SinkEvent.isRelease : SinkEvent → Bool
  | released _ => true
  | _          => false

namespace Emitter

/-- What has reached the sink, the first of it first. -/
def contacts (e : Emitter) : List SinkEvent := (e.journal.filter SinkEvent.reachesSink).reverse

theorem contacts_of_journal {e e' : Emitter} (evs : List SinkEvent)
    (h : e'.journal = evs ++ e.journal) :
    e'.contacts = e.contacts ++ (evs.filter SinkEvent.reachesSink).reverse := by
  rw [contacts, h, List.filter_append, List.reverse_append, contacts]

/-- What a history in two parts reaches. -/
theorem contacts_run_append (e : Emitter) (cs ds : List Call) :
    (e.clear.run (cs ++ ds)).contacts =
      (e.clear.run cs).contacts ++ ((e.run cs).clear.run ds).contacts := by
  rw [run_append_clear, run_clear_clear, contacts_of_journal _ (atop_journal _ _)]
  rfl

@[simp] theorem contacts_say (e : Emitter) (level : Log.Level) (event : String)
    (fields : List (String × Datum)) (a : Log.Attachment) :
    (e.say level event fields a).contacts = e.contacts :=
  (contacts_of_journal [.said _] rfl).trans (List.append_nil _)

@[simp] theorem contacts_absorb (e : Emitter) (event : String) (o : Option Fault) :
    (e.absorb event o).contacts = e.contacts := by
  cases o with
  | none => rfl
  | some f => exact contacts_say e .warning event [] (.fault f.summary)

theorem released_contacts (e : Emitter) : e.released.contacts = e.releaseHook.1.contacts :=
  (contacts_say _ _ _ _ _).trans (contacts_absorb _ _ _)

@[simp] theorem contacts_prelude (e : Emitter) : e.prelude.1.contacts = e.contacts := by
  unfold prelude
  split <;> rfl

@[simp] theorem health_prelude (e : Emitter) : e.prelude.1.health = e.health := by
  unfold prelude
  split <;> rfl

/-! ### An emitter that is off -/

/-- **Samples and errors reach no sink of an emitter that is off.** -/
theorem off_contacts (evs : List SinkEvent) :
    SampleInvariant fun e => e.health.isOff = true ∧ e.contacts = evs where
  attempt := by
    rintro e m t v d x tags e' a _ hon - ⟨hoff, -⟩
    rw [hoff] at hon
    cases hon
  counted := fun _ h => h

/-- A flush of an emitter that is off does what precedes a flush, and nothing else. -/
theorem flush_off {e : Emitter} (h : e.health.isOff = true) :
    e.flush = (e.prelude.1, match e.prelude.2 with | some f => .error f | none => .ok ()) := by
  refine flush_cases (P := fun r => r = _) e (fun f hf => ?_) (fun hnone _ => ?_) (fun _ hon => ?_)
  · rw [hf]
  · rw [hnone]
  · rw [health_prelude, h] at hon
    cases hon

theorem flush_off_contacts {e : Emitter} (h : e.health.isOff = true) :
    e.flush.1.contacts = e.contacts := by
  rw [flush_off h]
  exact contacts_prelude e

/-! ### The end of a disabled emitter -/

/-- What reaches a sink that receives no samples: the release, where there is one, and beside it at
most the close of a socket. -/
structure Parting (isReleased : Bool) (evs : List SinkEvent) : Prop where
  hooks : evs.filterMap SinkEvent.hook? = if isReleased then [.release] else []
  socket : ∀ ev ∈ evs, ev.hook? = none → ev = .socket .close

theorem parting_nil : Parting false [] :=
  ⟨rfl, fun _ h => (List.not_mem_nil h).elim⟩

theorem Parting.append {b c : Bool} {evs later : List SinkEvent} (h : Parting b evs)
    (k : Parting c later) (hbc : (b && c) = false) : Parting (b || c) (evs ++ later) where
  hooks := by
    rw [List.filterMap_append, h.hooks, k.hooks]
    cases b <;> cases c <;> first | rfl | cases hbc
  socket := fun ev hev => (List.mem_append.mp hev).elim (h.socket ev) (k.socket ev)

theorem releaseHook_parting {e : Emitter} (h : e.sink.isImmediate = true) :
    ∃ evs, e.releaseHook.1.contacts = e.contacts ++ evs ∧ Parting true evs := by
  have hone : ∀ o, Parting true [.released o] := fun o =>
    ⟨rfl, fun ev hev hno => by obtain rfl := List.mem_singleton.mp hev; cases hno⟩
  unfold releaseHook
  split
  case h_1 r hs =>
    exact ⟨[.released r.releases.next.1], contacts_of_journal [.released _] rfl, hone _⟩
  case h_2 s hs =>
    split
    · refine ⟨[.socket .close, .released s.close.2],
        contacts_of_journal (e := { e with sink := .statsd s.close.1 })
          [.released _, .socket .close] rfl, rfl, fun ev hev hno => ?_⟩
      rcases List.mem_cons.mp hev with rfl | hev
      · rfl
      · exact (hone _).socket ev hev hno
    · exact ⟨[.released none], contacts_of_journal [.released none] rfl, hone _⟩
  case h_3 p hs =>
    rw [hs] at h
    cases h
  case h_4 => exact ⟨[.released none], contacts_of_journal [.released none] rfl, hone _⟩

/-- **The first shutdown of a disabled emitter** releases its sink and does nothing else to it but
close a socket. -/
theorem shutdown_disabled {e : Emitter} (h : Living e) (hd : e.health.disabled = true)
    (hopen : e.health.closed = false) :
    ∃ evs, e.shutdown.1.contacts = e.contacts ++ evs ∧ Parting true evs := by
  have hoff : e.health.isOff = true := by rw [Health.isOff, hd, Bool.or_true]
  have hf := flush_off_contacts hoff
  obtain ⟨ha, hr⟩ := flush_ran h.immediate h.calm
  refine shutdown_cases (P := fun r => ∃ evs, r.1.contacts = e.contacts ++ evs ∧ Parting true evs) e
    ?closed ?refused ?done
  case closed =>
    intro hclosed
    cases hopen.symm.trans hclosed
  case refused =>
    intro f _ hraised
    cases ha.symm.trans hraised
  case done =>
    intro _ _
    obtain ⟨evs, hevs, hp⟩ :=
      releaseHook_parting (e := e.flush.1.close) (hr.isImmediate.trans h.immediate)
    have hclose : e.flush.1.close.contacts = e.contacts := hf
    refine ⟨evs, ?_, hp⟩
    rw [released_contacts, hevs, hclose]

/-! ### What releases nothing -/

/-- `e'` came of `e` by what may have reached the sink, but neither released it nor closed the
emitter. -/
structure Unclosed (e e' : Emitter) : Prop where
  closed : e'.health.closed = e.health.closed
  contacts : ∃ evs, e'.contacts = e.contacts ++ evs ∧ ∀ ev ∈ evs, ev.isRelease = false

theorem Unclosed.trans {e₁ e₂ e₃ : Emitter} (h : Unclosed e₁ e₂) (k : Unclosed e₂ e₃) :
    Unclosed e₁ e₃ := by
  obtain ⟨evs, hevs, hno⟩ := h.contacts
  obtain ⟨later, hlater, hno'⟩ := k.contacts
  refine ⟨k.closed.trans h.closed, evs ++ later, ?_, fun ev hev => ?_⟩
  · rw [hlater, hevs, List.append_assoc]
  · exact (List.mem_append.mp hev).elim (hno ev) (hno' ev)

/-- The emitter with more in its journal that is no release. -/
theorem unclosed_of_journal {e e' : Emitter} (evs : List SinkEvent)
    (h : e'.journal = evs ++ e.journal) (hno : ∀ ev ∈ evs, ev.isRelease = false)
    (hc : e'.health.closed = e.health.closed) : Unclosed e e' := by
  refine ⟨hc, _, contacts_of_journal evs h, fun ev hev => ?_⟩
  exact hno ev (List.mem_filter.mp (List.mem_reverse.mp hev)).1

theorem unclosed_quiet {e e' : Emitter} (h : e'.journal = e.journal)
    (hc : e'.health.closed = e.health.closed) : Unclosed e e' :=
  unclosed_of_journal [] h (fun _ hev => (List.not_mem_nil hev).elim) hc

theorem unclosed_note {e e' : Emitter} {x : SinkEvent} (hj : e'.journal = x :: e.journal)
    (h : x.isRelease = false) (hc : e'.health.closed = e.health.closed) : Unclosed e e' :=
  unclosed_of_journal [x] hj (fun _ hev => List.mem_singleton.mp hev ▸ h) hc

theorem unclosed_absorb (e : Emitter) (event : String) (o : Option Fault) :
    Unclosed e (e.absorb event o) := by
  cases o with
  | none => exact unclosed_quiet rfl rfl
  | some f => exact unclosed_note rfl rfl rfl

theorem unclosed_noteFatal (e : Emitter) (f : Fault) : Unclosed e (e.noteFatal f) := by
  have hnone : ∀ ev ∈ ([] : List SinkEvent), ev.isRelease = false :=
    fun _ hev => (List.not_mem_nil hev).elim
  refine noteFatal_cases (P := Unclosed e) e f (fun _ _ => ?_) (fun _ => ?_)
  · exact unclosed_of_journal [.said _, .turnedOff] rfl
      (List.forall_mem_cons.mpr ⟨rfl, List.forall_mem_cons.mpr ⟨rfl, hnone⟩⟩) rfl
  · exact unclosed_of_journal [.said _] rfl (List.forall_mem_cons.mpr ⟨rfl, hnone⟩) rfl

/-- **One sample handed to the sink** releases nothing. -/
theorem unclosed_attempt (e : Emitter) (m : Metric) (x : Binary64) (tags : Tags) :
    Unclosed e (e.attempt m x tags).1 := by
  have hrecord : Unclosed e (e.record m x tags).1 := by
    have hno : ∀ ev ∈ (e.sink.record m x tags).2.1.reverse, ev.isRelease = false := by
      intro ev hev
      have hhook := List.filterMap_eq_nil_iff.mp (sink_record_hooks e.sink m x tags) ev
        (List.mem_reverse.mp hev)
      cases ev with
      | released o => cases hhook
      | _ => rfl
    refine unclosed_of_journal (.recorded m x tags (e.record m x tags).2 :: _)
      (record_journal_eq e m x tags) (List.forall_mem_cons.mpr ⟨rfl, hno⟩) ?_
    rw [record_health]
  refine attempt_cases (P := fun r => Unclosed e r.1) e m x tags ?_ ?_ ?_ ?_
  · intro _
    dsimp only
    split
    · exact hrecord.trans (unclosed_quiet rfl rfl)
    · exact hrecord
  · intro f _ _
    exact hrecord.trans (unclosed_note rfl rfl rfl)
  · intro f _ _
    exact hrecord.trans (unclosed_noteFatal _ f)
  · intro f _ _ _
    exact hrecord

/-- **One motion** releases nothing. -/
theorem motion_unclosed {e e' : Emitter} (h : Motion e e') : Unclosed e e' := by
  cases h with
  | sink => exact unclosed_quiet rfl rfl
  | flushed | exporter | closed => exact unclosed_note rfl rfl rfl
  | absorbed o => exact unclosed_absorb e _ o
  | account _ o =>
      cases o with
      | none => exact unclosed_quiet rfl rfl
      | some f => exact unclosed_noteFatal e f

theorem motions_unclosed {e e' : Emitter} (h : Motions e e') : Unclosed e e' :=
  h.lift (fun _ => unclosed_quiet rfl rfl) .trans motion_unclosed

/-- **A flush** releases nothing. -/
theorem unclosed_flush (e : Emitter) : Unclosed e e.flush.1 := motions_unclosed (flush_motions e)

/-- **The release** reaches the sink last. -/
theorem releaseHook_contacts (e : Emitter) :
    ∃ evs o, e.releaseHook.1.contacts = e.contacts ++ evs ++ [.released o]
      ∧ ∀ ev ∈ evs, ev.isRelease = false := by
  obtain ⟨e', o, hmotions, hhook⟩ := releaseHook_motions e
  obtain ⟨evs, hevs, hno⟩ := (motions_unclosed hmotions).contacts
  refine ⟨evs, o, ?_, hno⟩
  rw [hhook, contacts_of_journal (e := e') [.released o] rfl, hevs]
  rfl

/-- A shutdown that answers leaves the emitter closed. -/
theorem closed_of_shutdown {e : Emitter} (h : e.shutdown.2 = .ok ()) :
    e.shutdown.1.health.closed = true := by
  revert h
  exact shutdown_cases (P := fun r => r.2 = .ok () → r.1.health.closed = true) e (fun hc _ => hc)
    (fun _ _ _ => nofun) (fun _ _ _ => (released_framed _).closed rfl)

/-! ### The release is the last -/

/-- The sink has not been released while the emitter is open; when it is closed, the release was the
last to reach the sink, and the only one. -/
structure Sealed (e : Emitter) : Prop where
  opened : e.health.closed = false → ∀ ev ∈ e.contacts, ev.isRelease = false
  closed : e.health.closed = true →
    ∃ evs o, e.contacts = evs ++ [.released o] ∧ ∀ ev ∈ evs, ev.isRelease = false

/-- The sink was released once if the emitter was closed, and never otherwise. -/
theorem Sealed.count_release {e : Emitter} (h : Sealed e) :
    e.contacts.countP SinkEvent.isRelease = e.health.closed.toNat := by
  have hnone : ∀ {evs : List SinkEvent}, (∀ ev ∈ evs, ev.isRelease = false) →
      evs.countP SinkEvent.isRelease = 0 := by
    intro evs hno
    rw [List.countP_eq_zero]
    intro ev hev
    rw [hno ev hev]
    exact Bool.false_ne_true
  cases hc : e.health.closed with
  | false => exact hnone (h.opened hc)
  | true =>
      obtain ⟨evs, o, hevs, hno⟩ := h.closed hc
      rw [hevs, List.countP_append, hnone hno]
      rfl

theorem Sealed.unclosed {e e' : Emitter} (hs : Sealed e) (hopen : e.health.closed = false)
    (h : Unclosed e e') : Sealed e' := by
  refine ⟨fun _ ev hev => ?_, fun hclosed => ?_⟩
  · obtain ⟨evs, hevs, hno⟩ := h.contacts
    rw [hevs] at hev
    exact (List.mem_append.mp hev).elim (hs.opened hopen ev) (hno ev)
  · rw [h.closed, hopen] at hclosed
    cases hclosed

/-- Nothing has changed that the release shows in. -/
theorem Sealed.quiet {e e' : Emitter} (hs : Sealed e) (hc : e'.health.closed = e.health.closed)
    (h : e'.contacts = e.contacts) : Sealed e' := by
  refine ⟨?_, ?_⟩
  · rw [hc, h]
    exact hs.opened
  · rw [hc, h]
    exact hs.closed

theorem Sealed.flush {e : Emitter} (hs : Sealed e) : Sealed e.flush.1 := by
  cases hclosed : e.health.closed with
  | false => exact hs.unclosed hclosed (unclosed_flush e)
  | true =>
      have hoff : e.health.isOff = true := by rw [Health.isOff, hclosed, Bool.true_or]
      exact hs.quiet (unclosed_flush e).closed (flush_off_contacts hoff)

theorem Sealed.shutdown {e : Emitter} (hs : Sealed e) : Sealed e.shutdown.1 := by
  have hf := hs.flush
  refine shutdown_cases (P := fun r => Sealed r.1) e (fun _ => hs) (fun _ _ _ => hf) ?done
  case done =>
    intro hopen _
    have hopen₁ : e.flush.1.health.closed = false := (unclosed_flush e).closed.trans hopen
    have hend : e.flush.1.close.released.health.closed = true := (released_framed _).closed rfl
    obtain ⟨evs, o, hevs, hno⟩ := releaseHook_contacts e.flush.1.close
    refine ⟨fun hno => ?_, fun _ => ⟨e.flush.1.contacts ++ evs, o, ?_, fun ev hev => ?_⟩⟩
    · cases hno.symm.trans hend
    · exact (released_contacts _).trans hevs
    · exact (List.mem_append.mp hev).elim (hf.opened hopen₁ ev) (hno ev)

/-- **The release is the last to reach a sink, and the only one of its kind.** -/
theorem sealed_invariant : Invariant Sealed where
  attempt := by
    intro e m t v d x tags e' a _ hon ha hs
    have hu := unclosed_attempt e m x (e.tagged tags)
    rw [ha] at hu
    exact hs.unclosed (Bool.or_eq_false_iff.mp hon).1 hu
  counted := fun _ h => h.quiet rfl rfl
  flush := Sealed.flush
  shutdown := Sealed.shutdown

end Emitter
end FleetHealth
