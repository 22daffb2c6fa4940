import FleetHealth.Emitter.Open
import FleetHealth.Proofs.Config.Gate
import FleetHealth.Sink.Reading

/-!
# Proofs — Emitter — Opening

How the opening of a sink ends, by the first fault that its surroundings raise on the way.

* `SocketOpening` says it for a socket: it is connected, or a fault was met, and a fault of the system closes a socket that was already opened.
* `opening_settled` says it for the sink of any settings that are let through: without a fault there is an emitter on the sink that was chosen; a fault of the export pipeline, and one of the system, is the unavailability of the sink; any other fault of the network is raised as it is, and a socket that was already opened stays open.
-/

namespace FleetHealth

/-- Whether an event is the closing of a socket. -/
def SinkEvent.isSocketClose : SinkEvent → Bool
  | socket .close => true
  | _             => false

/-- How often a socket was seen to be closed. -/
def closings (seen : List SinkEvent) : Nat := seen.countP SinkEvent.isSocketClose

namespace Network

/-- The first fault on the way to a connected socket. -/
def fault? (n : Network) : Option Fault :=
  n.resolve.next.1 <|> n.openSocket.next.1 <|> n.nonblocking.next.1 <|> n.connect.next.1

/-- Whether a socket is opened on that way. -/
def opens (n : Network) : Bool := n.resolve.next.1.isNone && n.openSocket.next.1.isNone

end Network

namespace Emitter

variable (o : EmitterOptions) (host : Option String) (port : Option Int) (n : Network)

/-! ### A socket -/

/-- How the opening of a socket ends. -/
inductive SocketOpening : Opening → Prop where
  | connected (h : n.fault? = none) :
      SocketOpening
        ([.said (socketReady host port), .socket (.connect host port), .socket .nonblocking],
          .ok (ofSink o (.statsd { host := host, port := port, sends := n.sends, closes := n.closes })))
  | failed {f : Fault} {seen : List SinkEvent} (h : n.fault? = some f)
      (hclosed : closings seen = (n.opens && f.kind.isSystem).toNat) :
      SocketOpening (seen, .error (socketFault host port f))

theorem closings_abandoned (f : Fault) {seen : List SinkEvent} (h : closings seen = 0) :
    closings (abandoned f seen) = f.kind.isSystem.toNat := by
  unfold abandoned
  cases f.kind.isSystem with
  | true => rw [if_pos rfl, closings, List.countP_cons, ← closings, h]; rfl
  | false => rw [if_neg Bool.false_ne_true, h]; rfl

theorem openSocket_opening : SocketOpening o host port n (openSocket o host port n) := by
  unfold openSocket
  cases hresolve : n.resolve.next.1 with
  | some f =>
      refine .failed (by rw [Network.fault?, hresolve]; rfl) ?_
      rw [Network.opens, hresolve]
      rfl
  | none =>
      cases hopen : n.openSocket.next.1 with
      | some f =>
          refine .failed (by rw [Network.fault?, hresolve, hopen]; rfl) ?_
          rw [Network.opens, hresolve, hopen]
          rfl
      | none =>
          have hopens : n.opens = true := by rw [Network.opens, hresolve, hopen]; rfl
          dsimp only [Option.orElse_none]
          cases hblock : n.nonblocking.next.1 with
          | some f =>
              refine .failed (by rw [Network.fault?, hresolve, hopen, hblock]; rfl) ?_
              rw [hopens, Bool.true_and]
              exact closings_abandoned f rfl
          | none =>
              dsimp only
              cases hconnect : n.connect.next.1 with
              | some f =>
                  refine .failed (by rw [Network.fault?, hresolve, hopen, hblock, hconnect]; rfl) ?_
                  rw [hopens, Bool.true_and]
                  exact closings_abandoned f rfl
              | none =>
                  exact .connected (by rw [Network.fault?, hresolve, hopen, hblock, hconnect]; rfl)

theorem socketFault_kind {f : Fault} (h : f.kind.isSystem = true) :
    (socketFault host port f).kind = .emitterInit := by
  rw [socketFault, if_pos h]
  rfl

theorem socketFault_of_other {f : Fault} (h : f.kind.isSystem = false) :
    socketFault host port f = f := by
  rw [socketFault, h, if_neg Bool.false_ne_true]

end Emitter

/-! ### A pipeline -/

namespace Binary64

theorem infinity_mul_thousand : (infinity false).mul (.ofInt 1000) = .infinity false := by
  obtain ⟨thousand, hthousand⟩ := ofNat_of_le (n := 1000) (by decide)
  have hthousand : ofInt 1000 = .finite false (1000 * unitsPerOne) thousand := hthousand
  have hone := unitsPerOne_pos
  rw [hthousand, mul, if_neg (by omega)]
  rfl

/-- A thousand times a positive number is a positive number, or too large for one. -/
theorem mul_thousand {u : Nat} (held : Representable u) (h : 0 < u) :
    ∃ d, 0 < d ∧ (finite false u held).mul (.ofInt 1000) = ofUnits false d := by
  obtain ⟨thousand, hthousand⟩ := ofNat_of_le (n := 1000) (by decide)
  have hthousand : ofInt 1000 = .finite false (1000 * unitsPerOne) thousand := hthousand
  have hmul : (finite false u held).mul (.finite false (1000 * unitsPerOne) thousand) =
      ofRatio false (u * (1000 * unitsPerOne)) unitsPerOne := rfl
  have hratio := roundUnits_mul_right (u * 1000) 1 unitsPerOne_pos
  rw [Nat.one_mul, Nat.mul_assoc] at hratio
  have hpos : twoPow 0 ≤ u * 1000 := by
    show 1 ≤ _
    omega
  exact ⟨_, twoPow_le_roundUnits hpos, by rw [hthousand, hmul, ofRatio, hratio]⟩

end Binary64

namespace Emitter

/-- An interval that is positive or no number is one in milliseconds too. -/
theorem intervalMillis_le_zero {a : Number}
    (h : (Number.int 0).lt a = true ∨ a.isNaN = true) : (intervalMillis a).le (.int 0) = false := by
  rw [Number.le_zero_eq_false_iff]
  cases a with
  | int n =>
      have hn : 0 < n := of_decide_eq_true (h.resolve_right Bool.false_ne_true)
      exact .inl (decide_eq_true (show 0 < n * 1000 by omega))
  | float x =>
      have hmul : intervalMillis (.float x) = .float (x.mul (.ofInt 1000)) := rfl
      rw [hmul]
      rcases h with h | h
      case inr =>
        cases x with
        | nan => exact .inr rfl
        | infinity s => cases h
        | finite s u held => cases h
      case inl =>
        rcases Number.float_above (n := 0) h with rfl | ⟨u, held, rfl, hu⟩
        · rw [Binary64.infinity_mul_thousand]
          exact .inl rfl
        · obtain ⟨d, hd, hprod⟩ := Binary64.mul_thousand held (by omega)
          rw [hprod, Binary64.ofUnits]
          split
          case isTrue kept => exact .inl (Number.zero_lt_finite kept hd)
          case isFalse => exact .inl rfl

/-- An interval that is let through starts a pipeline. -/
theorem openExport_ok (o : EmitterOptions) (endpoint : Option String) (protocol : String)
    {interval : Number} (h : (Number.int 0).lt interval = true ∨ interval.isNaN = true)
    (provider : Number → Provider) (x : Collector) :
    (openExport o endpoint protocol interval provider x).2 =
      .ok (overPipeline o interval (provider (intervalMillis interval)) x) := by
  unfold openExport
  dsimp only
  rw [intervalMillis_le_zero h, if_neg Bool.false_ne_true]

/-! ### Any sink -/

variable (c : Config) (s : Surroundings)

/-- The first fault that the surroundings raise while the chosen sink is opened. -/
def openingFault? : Option Fault :=
  if c.sink = "statsd" then s.network.fault? else if c.sink = "otel" then s.exporter else none

/-- How many sockets are opened for the chosen sink. -/
def socketsOpened : Nat := if c.sink = "statsd" then s.network.opens.toNat else 0

variable {c}

theorem ofConfig_statsd (h : c.sink = "statsd") :
    ∃ o, SocketOpening o c.statsdHost c.statsdPort s.network (ofConfig c s) := by
  unfold ofConfig
  rw [if_pos h]
  exact ⟨_, openSocket_opening _ _ _ _⟩

theorem ofConfig_otel (h : c.sink = "otel") :
    ∃ o, ofConfig c s = requestExport o c.otelEndpoint c.otelProtocol c.otelExportInterval s.exporter
      s.provider s.collector := by
  have hne : c.sink ≠ "statsd" := by rw [h]; decide
  unfold ofConfig
  rw [if_neg hne, if_pos h]
  exact ⟨_, rfl⟩

theorem ofConfig_none (h : c.sink = "none") : ∃ o, ofConfig c s = openDiscard o := by
  have hne : c.sink ≠ "statsd" := by rw [h]; decide
  have hne' : c.sink ≠ "otel" := by rw [h]; decide
  unfold ofConfig
  rw [if_neg hne, if_neg hne', if_pos h]
  exact ⟨_, rfl⟩

/-- How the opening of the sink of settings ends: with an emitter where nothing is raised; with the
unavailability of the sink where a fault of a pipeline or of the system is, and every socket that was
opened is closed; and with the fault itself where the network raises any other, and none is closed. -/
structure Settled (c : Config) (s : Surroundings) : Prop where
  opened : openingFault? c s = none → ∃ e, (ofConfig c s).2 = .ok e ∧ e.sink.name = c.sink
  unavailable : ∀ f, openingFault? c s = some f → (c.sink = "otel" ∨ f.kind.isSystem = true) →
    ∃ g, (ofConfig c s).2 = .error g ∧ g.kind = .emitterInit
      ∧ closings (ofConfig c s).1 = socketsOpened c s
  stray : ∀ f, openingFault? c s = some f → c.sink = "statsd" → f.kind.isSystem = false →
    (ofConfig c s).2 = .error f ∧ closings (ofConfig c s).1 = 0

theorem settled_statsd (h : c.sink = "statsd") : Settled c s := by
  have hne : c.sink ≠ "otel" := by rw [h]; decide
  have hfault : openingFault? c s = s.network.fault? := if_pos h
  have hsockets : socketsOpened c s = s.network.opens.toNat := if_pos h
  obtain ⟨o, ho⟩ := ofConfig_statsd s h
  generalize hx : ofConfig c s = x at ho
  cases ho with
  | connected hnone =>
      rw [← hfault] at hnone
      exact {
        opened := fun _ => ⟨_, congrArg Prod.snd hx, h.symm⟩
        unavailable := fun f hf => nomatch hnone.symm.trans hf
        stray := fun f hf => nomatch hnone.symm.trans hf }
  | @failed f seen hsome hclosed =>
      rw [← hfault] at hsome
      refine ⟨fun hf => (nomatch hsome.symm.trans hf), fun g hg hsystem => ?_, fun g hg _ hother => ?_⟩
      · obtain rfl := Option.some.inj (hsome.symm.trans hg)
        have hsystem := hsystem.resolve_left hne
        rw [hsystem, Bool.and_true] at hclosed
        rw [hx, hsockets]
        exact ⟨_, rfl, socketFault_kind _ _ hsystem, hclosed⟩
      · obtain rfl := Option.some.inj (hsome.symm.trans hg)
        rw [hother, Bool.and_false] at hclosed
        rw [hx]
        exact ⟨congrArg Except.error (socketFault_of_other _ _ hother), hclosed⟩

theorem settled_otel (h : c.sink = "otel") (hc : c.ExportReady) : Settled c s := by
  have hne : c.sink ≠ "statsd" := by rw [h]; decide
  have hfault : openingFault? c s = s.exporter := by
    rw [openingFault?, if_neg hne, if_pos h]
  have hsockets : socketsOpened c s = 0 := if_neg hne
  obtain ⟨o, ho⟩ := ofConfig_otel s h
  unfold requestExport at ho
  dsimp only at ho
  rw [← hfault] at ho
  cases hf : openingFault? c s with
  | none =>
      rw [hf] at ho
      dsimp only at ho
      have hp := openExport_ok o c.otelEndpoint c.otelProtocol hc.interval s.provider s.collector
      refine ⟨fun _ => ⟨_, (congrArg Prod.snd ho).trans hp, h.symm⟩, fun f hf' => ?_, fun f hf' => ?_⟩
      · cases hf.symm.trans hf'
      · cases hf.symm.trans hf'
  | some f =>
      rw [hf] at ho
      refine ⟨fun hf' => (nomatch hf.symm.trans hf'), fun g _ _ => ?_, fun g _ hs => absurd hs hne⟩
      rw [ho, hsockets]
      exact ⟨_, rfl, rfl, rfl⟩

theorem settled_none (h : c.sink = "none") : Settled c s := by
  have hne : c.sink ≠ "statsd" := by rw [h]; decide
  have hne' : c.sink ≠ "otel" := by rw [h]; decide
  have hfault : openingFault? c s = none := by rw [openingFault?, if_neg hne, if_neg hne']
  obtain ⟨o, ho⟩ := ofConfig_none s h
  refine ⟨fun _ => ⟨_, congrArg Prod.snd ho, h.symm⟩, fun f hf => ?_, fun f hf => ?_⟩
  · cases hfault.symm.trans hf
  · cases hfault.symm.trans hf

/-- **How the opening of a sink ends**, for all settings that are let through and all surroundings. -/
theorem opening_settled {c : Config} (hc : c.validate = .ok ()) (s : Surroundings) : Settled c s := by
  have hstart := (Config.validate_ok_iff_startable c).1.mp hc
  rcases hstart.sink with h | h | h
  · exact settled_statsd s h
  · exact settled_otel s h (hstart.otel h)
  · exact settled_none s h

/-- An environment that chooses the statsd sink. -/
def statsdEnvironment : Environment :=
  [("SYNCWATCH_SINK", "statsd"), ("SYNCWATCH_STATSD_HOST", "agent"), ("SYNCWATCH_STATSD_PORT", "8125")]

/-- Surroundings in which a socket is opened and cannot be connected, for a fault of a kind. -/
def disconnected (k : Fault.Kind) : Surroundings where
  network := { connect := .always (some (.outside k none)) }
  provider := .periodic

/-- The settings that choose the statsd sink are read, and let through. -/
theorem statsdEnvironment_read :
    ∃ c, Config.read statsdEnvironment = .ok c ∧ c.validate = .ok () ∧ c.sink = "statsd" := by
  have hread : (Config.read statsdEnvironment).toOption.any (fun c =>
      c.validate.isOk && c.sink == "statsd") = true := by decide +kernel
  obtain ⟨c, hc, hv, hs⟩ := Config.read_validated hread
  exact ⟨c, hc, hv, beq_iff_eq.mp hs⟩

/-- A socket that is refused a connection is closed, and the sink is unavailable. -/
theorem opening_settled_of_refusal :
    ∃ c, Config.read statsdEnvironment = .ok c ∧ c.validate = .ok ()
      ∧ ∃ g, (ofConfig c (disconnected .connectionRefused)).2 = .error g ∧ g.kind = .emitterInit
        ∧ closings (ofConfig c (disconnected .connectionRefused)).1 = 1 := by
  obtain ⟨c, hc, hv, hs⟩ := statsdEnvironment_read
  have hsettled := opening_settled hv (disconnected .connectionRefused)
  have hfault : openingFault? c (disconnected .connectionRefused) =
      some (.outside .connectionRefused none) := if_pos hs
  obtain ⟨g, hg, hkind, hclosed⟩ := hsettled.unavailable _ hfault (.inr rfl)
  have hsockets : socketsOpened c (disconnected .connectionRefused) = 1 := if_pos hs
  exact ⟨c, hc, hv, g, hg, hkind, hclosed.trans hsockets⟩

/-- A fault of value while a socket is connected is not the unavailability of the sink, and leaves the
socket open. -/
theorem stray_fault_escapes :
    ∃ c, Config.read statsdEnvironment = .ok c ∧ c.validate = .ok ()
      ∧ (ofConfig c (disconnected .value)).2 = .error (.outside .value none)
      ∧ (ofConfig c (disconnected .value)).1.countP SinkEvent.isSocketClose = 0 := by
  obtain ⟨c, hc, hv, hs⟩ := statsdEnvironment_read
  have hopening : ofConfig c (disconnected .value) =
      ([.socket (.connect c.statsdHost c.statsdPort), .socket .nonblocking],
        .error (.outside .value none)) := by
    unfold ofConfig
    rw [if_pos hs]
    rfl
  refine ⟨c, hc, hv, ?_⟩
  rw [hopening]
  exact ⟨rfl, rfl⟩

end Emitter
end FleetHealth
