import FleetHealth.Emitter.Basic

/-!
# Metric client

One emitter for the whole process.  The client holds at most one emitter: it is given once, a second one is refused until the client is reset, and the reset shuts the held one down.  A caller that asks while none is held gets a fresh emitter that discards.  Emitters are known by name, so the one that is held and the ones that were refused can be told apart; they may also be used directly.
-/

namespace FleetHealth

/-- The emitter that a caller gets. -/
inductive Supply where
  | held (name : String)
  | fresh
deriving DecidableEq

/-- What happens at the client and at the emitters used through it. -/
inductive ClientEvent where
  | said (entry : Log.Entry)
  | seen (supply : Supply) (e : SinkEvent)

/-- The emitters of a process, by name, and the one that is held; the journal is newest first. -/
structure MetricClient where
  emitters : List (String × Emitter) := []
  held : Option String := none
  journal : List ClientEvent := []

namespace MetricClient

/-- The emitter of a caller that has none. -/
def spare : Emitter := { sink := .discard false }

/-- The client with one more log entry. -/
def say (c : MetricClient) (level : Log.Level) (event : String)
    (fields : List (String × Datum)) : MetricClient :=
  { c with
    journal := .said
      { level := level
        logger := "syncwatch.metric_client"
        event := event
        fields := fields } :: c.journal }

/-- The client with one more emitter. -/
def introduce (c : MetricClient) (name : String) (e : Emitter) : MetricClient :=
  { c with emitters := Entries.put name e c.emitters }

/-- Whether an emitter is held. -/
def isHolding (c : MetricClient) : Bool := c.held.isSome

/-- A call of an emitter by name; an unknown name stands for a fresh emitter. -/
def onEmitter (c : MetricClient) (name : String) (call : Emitter → Emitter × α) :
    MetricClient × α :=
  let e := (Entries.get? name c.emitters).getD spare
  let (e, a) := call { e with journal := [] }
  ({ c with
      emitters := Entries.put name { e with journal := [] } c.emitters
      journal := e.journal.map (.seen (.held name)) ++ c.journal }, a)

/-- A call of a fresh emitter, which is then forgotten. -/
def onFresh (c : MetricClient) (call : Emitter → Emitter × α) : MetricClient × α :=
  let (e, a) := call spare
  ({ c with journal := e.journal.map (.seen .fresh) ++ c.journal }, a)

/-- The name of the sink of an emitter. -/
def sinkName (c : MetricClient) (name : String) : String :=
  ((Entries.get? name c.emitters).getD spare).sink.name

/-- An emitter given to the client, once. -/
def adopt (c : MetricClient) (name : String) : MetricClient × Except Fault Unit :=
  match c.held with
  | some h => (c, .error (.clientTaken (c.sinkName h)))
  | none   =>
    ({ c with held := some name }.say .info "metric_client.initialized"
      [("sink", .text (c.sinkName name))], .ok ())

/-- The emitter that a caller gets. -/
def supply (c : MetricClient) : MetricClient × Supply :=
  match c.held with
  | some h => (c, .held h)
  | none   =>
    (c.say .warning "metric_client.uninitialized"
      [("hint", .text "Call metric_client.initialize() at startup; samples are discarded")],
     .fresh)

/-- A call of the emitter that a caller gets. -/
def onSupplied (c : MetricClient) (call : Emitter → Emitter × α) : MetricClient × α :=
  match c.supply with
  | (c, .held h) => c.onEmitter h call
  | (c, .fresh)  => c.onFresh call

/-- The held emitter shut down and let go. -/
def reset (c : MetricClient) : MetricClient × Except Fault Unit :=
  match c.held with
  | none   => (c, .ok ())
  | some h =>
    match c.onEmitter h Emitter.shutdown with
    | (c, .error f) => (c, .error f)
    | (c, .ok _)    => ({ c with held := none }, .ok ())

end MetricClient
end FleetHealth
