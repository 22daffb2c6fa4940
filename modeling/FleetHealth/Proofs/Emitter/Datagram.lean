import FleetHealth.Proofs.Emitter.Gate
import FleetHealth.Proofs.Emitter.Lifecycle
import FleetHealth.Proofs.Emitter.Opening
import FleetHealth.Proofs.Script
import FleetHealth.Proofs.Sink.Line

/-!
# Proofs — Emitter — Datagram

What a datagram sink does with its socket, where the network raises nothing but faults of the system on the way to a connected socket and over its sends; what closing the socket raises may be anything.

* `CallSent` says which samples one public call sends: none while the emitter is off, and otherwise the sample that the gate admits, and right after a failed one the new total of its indicator, unless the failure disabled the sink or the sample was itself a total.  `Sent` says it for a history.
* `Connected` is the invariant that ties an emitter to the samples that were sent: its socket is open until the emitter is closed, has used up one answer of the network for each of them, and has been seen to do nothing else.
* `Connected.perform` is the step, one case for each kind of call, and `socket_discipline` the account of every history.

A sample that is lost is followed by the report of its tally through the same gate; so the invariant is kept by one sample handed to the sink (`Connected.offer`), and both halves of a call use that.
-/

namespace FleetHealth

/-! ### Networks -/

/-- Whether an answer is nothing but perhaps a fault of the system. -/
def IsSystemic (o : Option Fault) : Prop := ∀ f ∈ o, f.kind.isSystem = true

instance : (o : Option Fault) → Decidable (IsSystemic o)
  | none   => .isTrue nofun
  | some f => decidable_of_iff (f.kind.isSystem = true) (by simp [IsSystemic])

namespace Network

/-- Whether a network raises nothing but faults of the system. -/
structure Systemic (n : Network) : Prop where
  opening : IsSystemic n.fault?
  sends : n.sends.All IsSystemic

/-- How a send ends, after a number of others. -/
def answer (n : Network) (k : Nat) : Option Fault := (n.sends.after k).next.1

/-- A connected socket, after a number of sends. -/
def socket (n : Network) (host : Option String) (port : Option Int) (k : Nat) : Socket :=
  { host := host, port := port, sends := n.sends.after k, closes := n.closes }

theorem Systemic.answer {n : Network} (h : n.Systemic) (k : Nat) : IsSystemic (n.answer k) :=
  (h.sends.after k).next.1

end Network

/-! ### What is seen on a socket -/

/-- What an event says of a socket. -/
def SinkEvent.socket? : SinkEvent → Option SocketEvent
  | socket ev => some ev
  | _         => none

/-- What was seen on a socket, the first of it first, of events that stand newest first. -/
def socketEvents (seen : List SinkEvent) : List SocketEvent :=
  (seen.filterMap SinkEvent.socket?).reverse

theorem socketEvents_append (newer older : List SinkEvent) :
    socketEvents (newer ++ older) = socketEvents older ++ socketEvents newer := by
  rw [socketEvents, List.filterMap_append, List.reverse_append, socketEvents, socketEvents]

/-- The datagram that a sample is sent as, and how the send ended. -/
def Delivery.datagram (δ : Delivery) : SocketEvent :=
  .datagram (Line.encode δ.metric δ.value δ.tags) δ.outcome

/-- A fault that a send counts as. -/
inductive Fault.OfSend : Fault → Prop where
  | wouldBlock (c : Fault) : OfSend (.sendWouldBlock c)
  | failed (address : String) (c : Fault) : OfSend (.sendFailed address c)

namespace Socket

variable {m : Metric} {x : Binary64} {tags : Tags} {s : Socket} {f : Fault}

/-- A sample sent over an open socket is one datagram, and takes the next answer of the network. -/
theorem send_connected (n : Network) (host : Option String) (port : Option Int) (k : Nat) :
    (n.socket host port k).send m x tags = (n.socket host port (k + 1),
      [.socket (.datagram (Line.encode m x tags) (n.answer k))],
      (n.answer k).map (n.socket host port k).sendFault) := by
  have hopen : (n.socket host port k).isOpen = true := rfl
  rw [send, if_pos hopen, sendLine, Network.socket, Network.socket, Script.after_succ]
  rfl

/-- Whether a fault of a send is passed over, as one that says that the send would have to wait. -/
def isWait (f : Fault) : Bool := f.kind = .wouldBlock || f.kind = .interrupted

theorem sendFault_kind (hf : f.kind.isSystem = true) :
    (s.sendFault f).OfSend
      ∧ (s.sendFault f).kind = if isWait f then .sinkTransient else .sinkFatal := by
  unfold sendFault isWait
  split
  · exact ⟨.wouldBlock f, rfl⟩
  · exact ⟨.failed _ f, rfl⟩

end Socket

namespace Emitter

/-! ### What a history sends -/

/-- Whether a failed send disables the sink: it is more than a wait, and the run of failures is then as
long as the limit. -/
def DisabledBy (e : Emitter) (f : Fault) : Prop :=
  Socket.isWait f = false ∧ e.maxFailures ≤ e.health.failures + 1

/-- What is sent for one more error of an indicator: its new total, as long as that is a number of the
format, and nothing while the emitter is off. -/
inductive TotalSent (e : Emitter) (i : String) : List Delivery → Prop where
  | off (h : e.health.isOff = true) : TotalSent e i []
  | beyond (h : Binary64.largestWhole ≤ e.health.tally (.text i)) : TotalSent e i []
  | total (hon : e.health.isOff = false)
      (h : e.health.tally (.text i) < Binary64.largestWhole) (o : Option Fault) :
      TotalSent e i
        [⟨.sinkErrors, .ofNat (e.health.tally (.text i) + 1), e.tagged [("indicator", i)], o⟩]

/-- The samples that one public call sends, the first of them first, each with the answer of the
network. -/
inductive CallSent (e : Emitter) : Call → List Delivery → Prop where
  | off (h : e.health.isOff = true) (c : Call) : CallSent e c []
  | refused {t : MetricType} {m : Metric} {v d : Datum} {f : Fault}
      (h : accept m t v d = .error f) : CallSent e (.sample t m v d) []
  | delivered {t : MetricType} {m : Metric} {v d : Datum} {x : Binary64} {tags : Tags}
      (hon : e.health.isOff = false) (h : accept m t v d = .ok (x, tags)) :
      CallSent e (.sample t m v d) [⟨m, x, e.tagged tags, none⟩]
  | unreported {t : MetricType} {m : Metric} {v d : Datum} {x : Binary64} {tags : Tags} {f : Fault}
      (hon : e.health.isOff = false) (h : accept m t v d = .ok (x, tags))
      (hlast : m = .sinkErrors ∨ e.DisabledBy f) :
      CallSent e (.sample t m v d) [⟨m, x, e.tagged tags, some f⟩]
  | reported {t : MetricType} {m : Metric} {v d : Datum} {x : Binary64} {tags : Tags} {f : Fault}
      {total : List Delivery} (hon : e.health.isOff = false) (h : accept m t v d = .ok (x, tags))
      (hm : m ≠ .sinkErrors) (hf : ¬ e.DisabledBy f) (ht : TotalSent e m.name total) :
      CallSent e (.sample t m v d) (⟨m, x, e.tagged tags, some f⟩ :: total)
  | error {i : String} {total : List Delivery} (ht : TotalSent e i total) :
      CallSent e (.recordError (.text i)) total
  | noText {d : Datum} (h : ∀ i, d ≠ .text i) : CallSent e (.recordError d) []
  | flush : CallSent e .flush []
  | shutdown : CallSent e .shutdown []

/-- The samples that a history sends, the first of them first. -/
inductive Sent : Emitter → List Call → List Delivery → Prop where
  | nil (e : Emitter) : Sent e [] []
  | cons {e : Emitter} {c : Call} {cs : List Call} {ds later : List Delivery} (h : CallSent e c ds)
      (hs : Sent (e.perform c).1 cs later) : Sent e (c :: cs) (ds ++ later)

namespace TotalSent

variable {e e' : Emitter} {i : String} {total : List Delivery}

theorem eq_nil (h : TotalSent e i total) (hoff : e.health.isOff = true) : total = [] := by
  cases h with
  | off _ | beyond _ => rfl
  | total hon _ _ => cases hon.symm.trans hoff

/-- What an emitter sends for an error, it would have sent before a sample that left it on. -/
theorem before (h : TotalSent e' i total) (hon : e.health.isOff = false)
    (hon' : e'.health.isOff = false) (ht : e'.health.tally (.text i) = e.health.tally (.text i))
    (ha : e'.application = e.application) : TotalSent e i total := by
  cases h with
  | off hoff => cases hon'.symm.trans hoff
  | beyond hb => exact .beyond (by rwa [ht] at hb)
  | total _ hlt o =>
      have htagged : e'.tagged [("indicator", i)] = e.tagged [("indicator", i)] := by
        rw [tagged, tagged, ha]
      rw [ht] at hlt
      rw [ht, htagged]
      exact .total hon hlt o

end TotalSent

/-! ### One sample -/

section attempt

variable (e : Emitter) (m : Metric) (x : Binary64) (tags : Tags)

theorem noteFatal_statsd {s : Socket} (h : e.sink = .statsd s) (f : Fault) :
    (e.noteFatal f).sink = e.sink := by
  have ht : e.sink.turnOff = e.sink := by rw [h]; rfl
  rcases noteFatal_sink_cases e f with hf | hf
  · rw [hf, ht]
  · exact hf

theorem noteFatal_socketEvents (f : Fault) :
    socketEvents (e.noteFatal f).journal = socketEvents e.journal :=
  noteFatal_cases (P := fun e' => socketEvents e'.journal = _) e f (fun _ _ => rfl) (fun _ => rfl)

/-- The account that is kept of a sample touches no socket. -/
theorem attempt_socket {s : Socket} (h : (e.record m x tags).1.sink = .statsd s) :
    (e.attempt m x tags).1.sink = .statsd s
      ∧ socketEvents (e.attempt m x tags).1.journal =
        socketEvents (e.record m x tags).1.journal := by
  refine attempt_cases (P := fun r => r.1.sink = .statsd s
    ∧ socketEvents r.1.journal = socketEvents (e.record m x tags).1.journal) e m x tags ?_ ?_ ?_ ?_
  · intro _
    dsimp only
    split
    · exact ⟨h, rfl⟩
    · exact ⟨h, rfl⟩
  · intro f _ _
    exact ⟨h, rfl⟩
  · intro f _ _
    exact ⟨(noteFatal_statsd _ h f).trans h, noteFatal_socketEvents _ f⟩
  · intro f _ _ _
    exact ⟨h, rfl⟩

end attempt

/-- A sample over which a send raises something is lost. -/
theorem attempt_answer {e : Emitter} {m : Metric} {x : Binary64} {tags : Tags}
    (h : ∀ f ∈ (e.record m x tags).2, f.OfSend) :
    (e.attempt m x tags).2 = if (e.record m x tags).2.isSome then .lost else .settled := by
  refine attempt_cases
    (P := fun r => r.2 = if (e.record m x tags).2.isSome then .lost else .settled)
    e m x tags ?_ ?_ ?_ ?_
  · intro ho
    rw [ho]
    rfl
  · intro f ho _
    rw [ho]
    rfl
  · intro f ho _
    rw [ho]
    rfl
  · intro f ho ht hf
    cases h f ho with
    | wouldBlock c => exact absurd rfl ht
    | failed a c => exact absurd rfl hf

/-- A failed send turns an emitter off exactly where it completes the run of failures. -/
theorem isOff_after {e : Emitter} (hon : e.health.isOff = false) (s : Socket) {o : Option Fault}
    (ho : IsSystemic o) :
    (healthAfter e.maxFailures e.health (o.map s.sendFault)).isOff = true ↔
      ∃ f ∈ o, e.DisabledBy f := by
  obtain ⟨hclosed, hdisabled⟩ := Bool.or_eq_false_iff.mp hon
  cases o with
  | none => simp [healthAfter, Health.delivered, Health.isOff, hclosed, hdisabled]
  | some f =>
      obtain ⟨-, hkind⟩ := Socket.sendFault_kind (s := s) (ho f rfl)
      rw [Option.map_some, healthAfter, hkind]
      cases hw : Socket.isWait f with
      | true => simp [DisabledBy, hw, Health.isOff, hclosed, hdisabled]
      | false => simp [DisabledBy, hw, Health.failed, Health.isOff, hclosed, hdisabled]

/-! ### Flush and shutdown -/

section hooks

variable {e : Emitter} {s : Socket}

/-- A flush of a datagram sink is written down, and nothing else. -/
theorem flush_of_statsd (h : e.sink = .statsd s) :
    e.flush = (if e.health.isOff then e else e.note (.flushed none), .ok ()) := by
  have hprelude : e.prelude = (e, none) := by rw [prelude, h]
  have hflushed : e.flushed = e.note (.flushed none) := by
    rw [flushed, show e.flushHook = (e.note (.flushed none), none) by rw [flushHook, h]]
    rfl
  refine flush_cases (P := fun r => r = _) e ?refused ?left ?done
  case refused =>
    intro f hf
    rw [hprelude] at hf
    cases hf
  case left =>
    intro _ hoff
    rw [hprelude] at hoff ⊢
    rw [if_pos hoff]
  case done =>
    intro _ hon
    rw [hprelude] at hon ⊢
    rw [if_neg (Bool.eq_false_iff.mp hon), hflushed]

/-- A fault that a hook raised is no event of a socket. -/
theorem socketEvents_absorb (e : Emitter) (event : String) (o : Option Fault) :
    socketEvents (e.absorb event o).journal = socketEvents e.journal := by
  cases o <;> rfl

theorem absorb_sink (e : Emitter) (event : String) (o : Option Fault) :
    (e.absorb event o).sink = e.sink := by
  cases o <;> rfl

/-- The release of a datagram sink closes its socket, whatever that raises. -/
theorem released_socket (h : e.sink = .statsd s) (hs : s.isOpen = true) :
    e.released.sink = .statsd s.close.1
      ∧ socketEvents e.released.journal = socketEvents e.journal ++ [.close] := by
  have hhook : e.releaseHook =
      (({ e with sink := .statsd s.close.1 }.note (.socket .close)).note (.released s.close.2),
        s.close.2) := by
    rw [releaseHook, h]
    exact if_pos hs
  constructor
  · show (e.releaseHook.1.absorb _ _).sink = _
    rw [absorb_sink, hhook]
    rfl
  · show socketEvents (e.releaseHook.1.absorb _ _).journal = _
    rw [socketEvents_absorb, hhook]
    exact socketEvents_append [.released _, .socket .close] e.journal

/-- The first shutdown closes the socket, once. -/
theorem shutdown_socket (h : e.sink = .statsd s) (hs : s.isOpen = true)
    (hclosed : e.health.closed = false) :
    e.shutdown.1.sink = .statsd s.close.1 ∧ e.shutdown.1.health.closed = true
      ∧ socketEvents e.shutdown.1.journal = socketEvents e.journal ++ [.close] := by
  have hf := flush_of_statsd h
  have hflushed : e.flush.1.close.sink = .statsd s
      ∧ socketEvents e.flush.1.close.journal = socketEvents e.journal := by
    rw [hf]
    dsimp only
    split <;> exact ⟨h, rfl⟩
  refine shutdown_cases (P := fun r => r.1.sink = .statsd s.close.1
    ∧ r.1.health.closed = true ∧ socketEvents r.1.journal = socketEvents e.journal ++ [.close]) e
    ?closed ?refused ?done
  case closed =>
    intro hc
    cases hclosed.symm.trans hc
  case refused =>
    intro f _ hr
    rw [hf] at hr
    cases hr
  case done =>
    intro _ _
    obtain ⟨hsink, hevents⟩ := released_socket hflushed.1 hs
    exact ⟨hsink, (released_framed _).closed rfl, hevents.trans (congrArg (· ++ _) hflushed.2)⟩

end hooks

/-! ### The invariant -/

variable {n : Network} {host : Option String} {port : Option Int} {ds : List Delivery} {e : Emitter}

/-- An emitter over a socket, and the samples that were sent over it, the first of them first. -/
structure Connected (n : Network) (host : Option String) (port : Option Int) (ds : List Delivery)
    (e : Emitter) : Prop where
  sink : ∃ s, e.sink = .statsd s ∧ (e.health.closed = false → s = n.socket host port ds.length)
  outcomes : ds.map Delivery.outcome = n.sends.first ds.length
  events : socketEvents e.journal =
    ds.map Delivery.datagram ++ if e.health.closed then [.close] else []
  raised : ∀ δ ∈ e.deliveries, ∀ f ∈ δ.outcome, f.OfSend

namespace Connected

/-- An error that is counted sends nothing. -/
theorem counted (h : Connected n host port ds e) (k : Key) :
    Connected n host port ds (e.counted k) :=
  ⟨h.sink, h.outcomes, h.events, h.raised⟩

theorem absorbed (h : Connected n host port ds e) : e.Absorbed := by
  intro δ hδ
  unfold Delivery.isAbsorbed
  split
  case h_2 => rfl
  case h_1 f hf =>
    cases h.raised δ hδ f hf with
    | wouldBlock c => rfl
    | failed a c => rfl

variable {m : Metric} {x : Binary64} {tags : Tags}

/-- What an open socket does with a sample. -/
theorem record (h : Connected n host port ds e) (hopen : e.health.closed = false) (m : Metric)
    (x : Binary64) (tags : Tags) :
    e.sink.record m x tags = (.statsd (n.socket host port (ds.length + 1)),
      [.socket (.datagram (Line.encode m x tags) (n.answer ds.length))],
      (n.answer ds.length).map (n.socket host port ds.length).sendFault) := by
  obtain ⟨s, hs, hsocket⟩ := h.sink
  rw [hs, hsocket hopen, Sink.record, Socket.send_connected n host port ds.length]

/-- **One sample handed to an open socket** is one datagram; it is lost exactly when its send fails,
and turns the emitter off exactly when that completes the run of failures. -/
theorem attempt (h : Connected n host port ds e) (hn : n.Systemic) (hon : e.health.isOff = false)
    (m : Metric) (x : Binary64) (tags : Tags) :
    Connected n host port (ds ++ [⟨m, x, tags, n.answer ds.length⟩]) (e.attempt m x tags).1
      ∧ (e.attempt m x tags).2 = (if (n.answer ds.length).isSome then .lost else .settled)
      ∧ ((e.attempt m x tags).1.health.isOff = true ↔
          ∃ f ∈ n.answer ds.length, e.DisabledBy f) := by
  have hopen : e.health.closed = false := (Bool.or_eq_false_iff.mp hon).1
  have hevents := h.events
  rw [hopen, if_neg Bool.false_ne_true, List.append_nil] at hevents
  have hsystem := hn.answer ds.length
  have hrecord := h.record hopen m x tags
  obtain ⟨s, hs, -⟩ := h.sink
  have houtcome : (e.record m x tags).2 =
      (n.answer ds.length).map (n.socket host port ds.length).sendFault :=
    congrArg (fun r => r.2.2) hrecord
  -- a fault of the system counts as one of the two that a send raises, and both are absorbed
  have hraised : ∀ f ∈ (e.record m x tags).2, f.OfSend := by
    rw [houtcome]
    intro f hf
    obtain ⟨c, hc, rfl⟩ := Option.map_eq_some_iff.mp hf
    exact (Socket.sendFault_kind (hsystem c hc)).1
  have hanswer := attempt_answer hraised
  rw [houtcome, Option.isSome_map] at hanswer
  have hhealth := attempt_health e m x tags (by rw [hs]; rfl)
  rw [houtcome] at hhealth
  refine ⟨?_, hanswer, by rw [hhealth]; exact isOff_after hon _ hsystem⟩
  have hnext : (e.record m x tags).1.sink = .statsd (n.socket host port (ds.length + 1)) := by
    rw [record_sink, hrecord]
  have hk := attempt_handed e m x tags
  obtain ⟨hsink', hevents'⟩ := attempt_socket e m x tags hnext
  refine ⟨⟨_, hsink', fun _ => by rw [List.length_append]; rfl⟩, ?_, ?_, ?_⟩
  · rw [List.map_append, h.outcomes, List.length_append]
    exact (Script.first_succ n.sends ds.length).symm
  · rw [hevents', record_journal_eq, hrecord, hk.closed, hopen, if_neg Bool.false_ne_true,
      List.append_nil, List.map_append, ← hevents]
    exact socketEvents_append [.recorded m x tags _, .socket (.datagram _ _)] e.journal
  · rw [hk.deliveries, List.forall_mem_cons]
    exact ⟨hraised, h.raised⟩

variable {t : MetricType} {v d : Datum}

/-- **One sample that the gate admits**, while the emitter is on. -/
theorem offer (h : Connected n host port ds e) (hn : n.Systemic) (hon : e.health.isOff = false)
    (hx : accept m t v d = .ok (x, tags)) :
    ∃ e', e.offer m t v d = (e', .ok (if (n.answer ds.length).isSome then .lost else .settled))
      ∧ Connected n host port (ds ++ [⟨m, x, e.tagged tags, n.answer ds.length⟩]) e'
      ∧ (e'.health.isOff = true ↔ ∃ f ∈ n.answer ds.length, e.DisabledBy f)
      ∧ (∀ k, e'.health.tally k = e.health.tally k) ∧ e'.application = e.application := by
  have hk := attempt_handed e m x (e.tagged tags)
  obtain ⟨hconnected, hanswer, hoff⟩ := h.attempt hn hon m x (e.tagged tags)
  refine ⟨_, ?_, hconnected, hoff, fun k => ?_, hk.application⟩
  · rw [offer_of_on hx hon, hanswer]
    split <;> rfl
  · rw [Health.tally, Health.tally, hk.errors]

/-- **One more error of an indicator** sends its new total. -/
theorem recordError (h : Connected n host port ds e) (hn : n.Systemic) (i : String) :
    ∃ total, TotalSent e i total
      ∧ Connected n host port (ds ++ total) (e.recordError (.text i)).1 := by
  have hk : Key.ofDatum (.text i) = .ok (.text i) := rfl
  have hcounted := h.counted (.text i)
  have hsame : Connected n host port (ds ++ []) (e.counted (.text i)) := by
    rwa [List.append_nil]
  rw [recordError_fst hk, reportTally, counted_tally_self]
  by_cases hle : e.health.tally (.text i) + 1 ≤ Binary64.largestWhole
  case neg =>
    rw [offer_of_error (accept_report_large (by omega) i)]
    exact ⟨[], .beyond (by omega), hsame⟩
  case pos =>
    have hx := accept_report hle i
    cases hoff : (e.counted (.text i)).health.isOff with
    | true =>
        rw [offer_of_off hx hoff]
        exact ⟨[], .off hoff, hsame⟩
    | false =>
        obtain ⟨e', ho, hconnected, -⟩ := hcounted.offer hn hoff hx
        rw [ho]
        exact ⟨_, TotalSent.total (e := e) hoff hle _, hconnected⟩

/-- **A sample and its loss.** -/
theorem submit (h : Connected n host port ds e) (hn : n.Systemic) (t : MetricType) (m : Metric)
    (v d : Datum) :
    ∃ sent, CallSent e (.sample t m v d) sent
      ∧ Connected n host port (ds ++ sent) (e.submit m t v d).1 := by
  have hsame : Connected n host port (ds ++ []) e := by rwa [List.append_nil]
  cases hx : accept m t v d with
  | error f =>
      rw [submit_refused hx e]
      exact ⟨[], .refused hx, hsame⟩
  | ok admitted =>
      obtain ⟨x, tags⟩ := admitted
      cases hon : e.health.isOff with
      | true =>
          rw [submit_of_kept (offer_of_off hx hon) nofun]
          exact ⟨[], .off hon _, hsame⟩
      | false =>
          obtain ⟨e₁, ho, h₁, hoff, htally, happlication⟩ := h.offer hn hon hx
          generalize n.answer ds.length = o at ho h₁ hoff
          cases o with
          | none =>
              rw [submit_of_kept ho nofun]
              exact ⟨_, .delivered hon hx, h₁⟩
          | some f =>
              by_cases hm : m = .sinkErrors
              · rw [submit_of_kept ho fun _ => hm]
                exact ⟨_, .unreported hon hx (.inl hm), h₁⟩
              · obtain ⟨total, ht, h₂⟩ := h₁.recordError hn m.name
                rw [submit_of_lost ho hm rfl]
                rw [List.append_assoc] at h₂
                refine ⟨_, ?_, h₂⟩
                -- a failure that disabled the sink has left the emitter off, so no total follows
                by_cases hf : e.DisabledBy f
                · rw [ht.eq_nil (hoff.mpr ⟨f, rfl, hf⟩)]
                  exact .unreported hon hx (.inr hf)
                · have hon₁ : e₁.health.isOff = false := by
                    rw [Bool.eq_false_iff]
                    intro hoff₁
                    obtain ⟨g, hg, hd⟩ := hoff.mp hoff₁
                    obtain rfl := Option.some.inj hg
                    exact hf hd
                  exact .reported hon hx hm hf (ht.before hon hon₁ (htally _) happlication)

/-- A flush sends nothing. -/
theorem flush (h : Connected n host port ds e) : Connected n host port ds e.flush.1 := by
  obtain ⟨s, hs, -⟩ := h.sink
  rw [flush_of_statsd hs]
  dsimp only
  split
  · exact h
  · exact ⟨h.sink, h.outcomes, h.events, h.raised⟩

/-- A shutdown sends nothing, and the first closes the socket. -/
theorem shutdown (h : Connected n host port ds e) : Connected n host port ds e.shutdown.1 := by
  cases hclosed : e.health.closed with
  | true =>
      rw [shutdown_closed hclosed]
      exact h
  | false =>
      obtain ⟨s, hs, hsocket⟩ := h.sink
      have hopen : s.isOpen = true := by rw [hsocket hclosed]; rfl
      have hf := shutdown_framed e
      obtain ⟨hsink, hclosed', hevents⟩ := shutdown_socket hs hopen hclosed
      have hbefore := h.events
      rw [hclosed, if_neg Bool.false_ne_true, List.append_nil] at hbefore
      refine ⟨⟨_, hsink, fun hc => nomatch hclosed'.symm.trans hc⟩, h.outcomes, ?_, ?_⟩
      · rw [hevents, hclosed', if_pos rfl, hbefore]
      · rw [hf.deliveries]
        exact h.raised

/-! ### Every history -/

/-- **One public call** sends what `CallSent` says, and leaves the emitter connected. -/
theorem perform (h : Connected n host port ds e) (hn : n.Systemic) (c : Call) :
    ∃ sent, CallSent e c sent ∧ Connected n host port (ds ++ sent) (e.perform c).1 := by
  cases c with
  | sample t m v d => exact h.submit hn t m v d
  | recordError d =>
      by_cases hd : ∃ i, d = .text i
      case pos =>
        obtain ⟨i, rfl⟩ := hd
        obtain ⟨total, ht, hconnected⟩ := h.recordError hn i
        exact ⟨total, .error ht, hconnected⟩
      case neg =>
        refine ⟨[], .noText fun i hi => hd ⟨i, hi⟩, ?_⟩
        rw [List.append_nil]
        show Connected n host port ds (e.recordError d).1
        cases hk : Key.ofDatum d with
        | error s =>
            rw [recordError_of_error hk]
            exact h
        | ok k =>
            -- it is counted under its key, but the gate refuses the report
            obtain ⟨f, hf⟩ := accept_report_other (fun i hi => hd ⟨i, hi⟩)
              ((e.counted k).health.tally k)
            rw [recordError_fst hk, reportTally, offer_of_error hf]
            exact h.counted k
  | flush =>
      refine ⟨[], .flush, ?_⟩
      rw [List.append_nil]
      exact h.flush
  | shutdown =>
      refine ⟨[], .shutdown, ?_⟩
      rw [List.append_nil]
      exact h.shutdown

/-- **A history** sends what `Sent` says, and leaves the emitter connected. -/
theorem run (h : Connected n host port ds e) (hn : n.Systemic) (calls : List Call) :
    ∃ sent, Sent e calls sent ∧ Connected n host port (ds ++ sent) (e.run calls) := by
  -- the samples of before are any, so the induction may go on from what the first call sent
  induction calls generalizing e ds with
  | nil => exact ⟨[], .nil e, by rwa [List.append_nil]⟩
  | cons c cs ih =>
      obtain ⟨sent, hsent, hnext⟩ := h.perform hn c
      obtain ⟨later, hlater, hend⟩ := ih hnext
      rw [List.append_assoc] at hend
      exact ⟨sent ++ later, .cons hsent hlater, hend⟩

/-- A sample that the gate admits is answered. -/
theorem submit_ok (h : Connected n host port ds e) (hn : n.Systemic) {admitted : Binary64 × Tags}
    (hx : accept m t v d = .ok admitted)
    (ht : e.health.tally (.text m.name) < Binary64.largestWhole) :
    (e.submit m t v d).2 = .ok () := by
  obtain ⟨_, _, hconnected⟩ := h.submit hn t m v d
  exact submit_answered hx rfl hconnected.absorbed (Nat.le_trans (submit_tally_le e m t v d _) ht)

/-- An error of a text is answered. -/
theorem recordError_ok (h : Connected n host port ds e) (hn : n.Systemic) {i : String}
    (ht : e.health.tally (.text i) < Binary64.largestWhole) :
    ∃ total, (e.recordError (.text i)).2 = .ok total := by
  obtain ⟨_, _, hconnected⟩ := h.recordError hn i
  have htotal := recordError_tally e i
  exact recordError_answered rfl hconnected.absorbed (Nat.le_trans (Nat.le_of_eq htotal) ht)

end Connected

/-- A call is at most one step of any tally. -/
theorem perform_tally_le (e : Emitter) (c : Call) (i : String) :
    (e.perform c).1.health.tally (.text i) ≤ e.health.tally (.text i) + 1 := by
  have hframed : ∀ e', Framed e e' → e'.health.tally (.text i) ≤ e.health.tally (.text i) + 1 := by
    intro e' hf
    rw [Health.tally, Health.tally, hf.errors]
    exact Nat.le_succ _
  cases c with
  | sample t m v d => exact submit_tally_le e m t v d i
  | recordError d =>
      have hb := (recordError_balance e d i).1
      exact Nat.le_trans (Nat.le_of_eq hb) (Nat.add_le_add_left (Bool.toNat_le _) _)
  | flush => exact hframed e.flush.1 (flush_framed e)
  | shutdown => exact hframed e.shutdown.1 (shutdown_framed e)

theorem run_tally_le (e : Emitter) (calls : List Call) (i : String) :
    (e.run calls).health.tally (.text i) ≤ e.health.tally (.text i) + calls.length := by
  induction calls generalizing e with
  | nil => exact Nat.le_refl _
  | cons c cs ih =>
      have hc := perform_tally_le e c i
      have hcs : (e.run (c :: cs)).health.tally (.text i) ≤ _ := ih (e.perform c).1
      rw [List.length_cons]
      omega

/-- A new emitter over a connected socket has sent nothing. -/
theorem connected_new (o : EmitterOptions) (n : Network) (host : Option String)
    (port : Option Int) : Connected n host port [] (ofSink o (.statsd (n.socket host port 0))) where
  sink := ⟨_, rfl, fun _ => rfl⟩
  outcomes := rfl
  events := rfl
  raised := fun _ hδ => nomatch hδ

/-- **The discipline of a socket**, where the network raises nothing but faults of the system until the
socket is closed.  If the socket cannot be opened the sink is unavailable, and a socket that was
opened is closed once.  If it can, then after every history: what was seen on the socket is that it was
made not to block and connected, then one datagram for each sample that was sent, in order, each with
the answer of the network, and last, if there was a shutdown, that it was closed; the samples that were
sent are those that `Sent` says; none was refused because the socket was closed; a flush and a shutdown
answer; and so do a sample that the gate admits and an error of a text, as long as the tally that they
may step is below the largest number of the format, which no tally reaches in fewer calls than that. -/
theorem socket_discipline (o : EmitterOptions) (host : Option String) (port : Option Int)
    (n : Network) (hn : n.Systemic) :
    (∀ seen f, openSocket o host port n = (seen, .error f) →
      f.kind = .emitterInit ∧ closings seen = n.opens.toNat)
    ∧ (∀ seen e₀, openSocket o host port n = (seen, .ok e₀) →
        ∀ calls : List Call,
        let e := e₀.run calls
        (∃ ds, Sent e₀ calls ds
          ∧ ds.map Delivery.outcome = n.sends.first ds.length
          ∧ socketEvents (e.journal ++ seen) =
              [.nonblocking, .connect host port] ++ ds.map Delivery.datagram
                ++ if calls.any Call.isShutdown then [.close] else [])
        ∧ (∀ δ ∈ e.deliveries, δ.outcome ≠ some .socketClosed)
        ∧ (e.flush.2 = .ok () ∧ e.shutdown.2 = .ok ())
        ∧ (∀ m t v d admitted, accept m t v d = .ok admitted →
            e.health.tally (.text m.name) < Binary64.largestWhole →
            (e.submit m t v d).2 = .ok ())
        ∧ (∀ i, e.health.tally (.text i) < Binary64.largestWhole →
            ∃ total, (e.recordError (.text i)).2 = .ok total)
        ∧ ∀ i, e.health.tally (.text i) ≤ calls.length) := by
  have hopening := openSocket_opening o host port n
  constructor
  · intro seen f hf
    rw [hf] at hopening
    cases hopening with
    | @failed g _ hg hclosed =>
        have hsystem := hn.opening g hg
        rw [hsystem, Bool.and_true] at hclosed
        exact ⟨socketFault_kind host port hsystem, hclosed⟩
  · intro seen e₀ h₀ calls e
    rw [h₀] at hopening
    cases hopening with
    | connected _ =>
        obtain ⟨ds, hsent, hrun⟩ := (connected_new o n host port).run hn calls
        have hconnected : Connected n host port ds e := by rwa [List.nil_append] at hrun
        have hnew := living_ofSink o
          (s := .statsd (n.socket host port 0)) rfl rfl
        have hclosed : e.health.closed = _ := run_closed hnew calls
        refine ⟨⟨ds, hsent, hconnected.outcomes, ?_⟩, ?_, ?_, ?_, ?_, ?_⟩
        · rw [socketEvents_append, hconnected.events, hclosed]
          exact (List.append_assoc _ _ _).symm
        · rintro δ hδ hraised
          cases hconnected.raised δ hδ _ hraised
        · exact (living_invariant.run hnew calls).answers
        · intro m t v d admitted hx ht
          exact hconnected.submit_ok hn hx ht
        · intro i ht
          exact hconnected.recordError_ok hn ht
        · intro i
          have ht : e.health.tally (.text i) ≤ 0 + calls.length := run_tally_le _ calls i
          rwa [Nat.zero_add] at ht

/-- A network over which the second send is refused. -/
def refusingSecond : Network where
  sends := ⟨[none, some (.outside .connectionRefused none)], none⟩

/-- Two samples, a shutdown, and a sample after it. -/
def closedEarly : List Call :=
  [.sample .gauge .jobOrphanRunning (.int 1) .null, .sample .gauge .jobOrphanRunning (.int 1) .null,
   .shutdown, .sample .gauge .jobOrphanRunning (.int 1) .null]

/-- The refused sample is followed by the total of its indicator, the sample after the shutdown is not
sent, and one more sample and one more error are answered; a connection that is refused closes the
socket. -/
theorem discipline_of_refusals :
    (∃ seen e₀, openSocket {} (some "agent") (some 8125) refusingSecond = (seen, .ok e₀)
      ∧ (∃ ds, Sent e₀ closedEarly ds
        ∧ ds.map Delivery.outcome = [none, some (.outside .connectionRefused none), none]
        ∧ socketEvents ((e₀.run closedEarly).journal ++ seen) =
            [.nonblocking, .connect (some "agent") (some 8125)] ++ ds.map Delivery.datagram
              ++ [.close])
      ∧ ((e₀.run closedEarly).submit .jobOrphanRunning .gauge (.int 1) .null).2 = .ok ()
      ∧ ∃ total, ((e₀.run closedEarly).recordError (.text "job_orphan_running")).2 = .ok total)
    ∧ (∃ seen f, openSocket {} (some "agent") (some 8125) (disconnected .connectionRefused).network =
          (seen, .error f)
        ∧ f.kind = .emitterInit ∧ closings seen = 1) := by
  have hsends : refusingSecond.Systemic := ⟨by decide, by decide, by decide⟩
  have hrefused : (disconnected .connectionRefused).network.Systemic :=
    ⟨by decide, by decide, by decide⟩
  refine ⟨?_, ?_⟩
  · obtain ⟨-, hconnected⟩ :=
      socket_discipline {} (some "agent") (some 8125) refusingSecond hsends
    obtain ⟨⟨ds, hsent, houtcomes, hevents⟩, -, -, hsample, herror, htally⟩ :=
      hconnected _ _ rfl closedEarly
    have hthree : ds.length = 3 := by
      have hlength := congrArg List.length hevents
      rw [List.length_append, List.length_append, List.length_map] at hlength
      have hsix : 2 + ds.length + 1 = 6 := hlength.symm.trans (by decide +kernel)
      omega
    rw [hthree] at houtcomes
    have hsmall : closedEarly.length < Binary64.largestWhole :=
      Nat.lt_of_lt_of_le (show 4 < twoPow 3 by decide)
        (Nat.le_trans (twoPow_le (by decide)) Binary64.largestWhole_bounds.1)
    have hbelow := Nat.lt_of_le_of_lt (htally "job_orphan_running") hsmall
    have hfits : Metric.jobOrphanRunning.Fits .null := ⟨rfl, rfl⟩
    obtain ⟨tags, htags⟩ := Metric.tagsFor_ok_iff.mpr hfits
    have hx : accept .jobOrphanRunning .gauge (.int 1) .null = .ok (Binary64.ofNat 1, tags) :=
      accept_ok_iff.mpr ⟨rfl, htags, toFloat_natCast (Nat.le_trans (by decide) (Nat.le_of_lt hsmall)),
        by decide +kernel, by decide +kernel⟩
    exact ⟨_, _, rfl, ⟨ds, hsent, houtcomes, hevents⟩, hsample _ _ _ _ _ hx hbelow,
      herror _ hbelow⟩
  · obtain ⟨hfailed, -⟩ := socket_discipline {} (some "agent") (some 8125)
      (disconnected .connectionRefused).network hrefused
    exact ⟨_, _, rfl, hfailed _ _ rfl⟩

end Emitter
end FleetHealth
