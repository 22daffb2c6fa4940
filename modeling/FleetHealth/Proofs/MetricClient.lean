import FleetHealth.MetricClient
import FleetHealth.Proofs.Emitter.Contact
import FleetHealth.Proofs.Reporter.Stop

/-!
# Proofs — Metric client

The client over every history of adoptions, supplies, questions and resets, among which the emitters are also called directly.  What it holds is what was adopted since the last reset (`adopted`), and every emitter is as the calls that reached it have left it (`calls`); of the acts of the client itself, only a reset is such a call, of the emitter that is held.

* `perform_emitterOf`: one act, and what it is to each emitter.
* `Upheld` is the invariant of a history.
* `client_of_history`: how a client answers after every history, and that a reset leaves its emitter closed and released once.
-/

namespace FleetHealth

namespace Emitter

/-- No shutdown of the emitter raises, now or later. -/
def ShutsDown (e : Emitter) : Prop := ∀ calls, (e.run calls).shutdown.2 = .ok ()

theorem Calm.shutsDown {e : Emitter} (h : e.Calm) : e.ShutsDown := by
  intro calls
  obtain ⟨e', he, -⟩ := shutdown_answers (h calls)
  rw [he]

theorem ShutsDown.clear {e : Emitter} (h : e.ShutsDown) : e.clear.ShutsDown := by
  intro calls
  have hcalls := h calls
  rw [run_clear, atop_shutdown] at hcalls
  exact hcalls

end Emitter

namespace ClientEvent

/-- What an event says was seen at the emitter of a name. -/
def seenAt? (name : String) : ClientEvent → Option SinkEvent
  | seen (.held n) ev => if n = name then some ev else none
  | _                 => none

theorem seenAt_held (n name : String) (evs : List SinkEvent) :
    (evs.map (seen (.held n))).filterMap (seenAt? name) = if n = name then evs else [] := by
  rw [List.filterMap_map]
  split
  case isTrue h =>
    have hsome : seenAt? name ∘ seen (.held n) = some := funext fun ev => if_pos h
    rw [hsome, List.filterMap_some]
  case isFalse h => exact List.filterMap_eq_nil_iff.mpr fun ev _ => if_neg h

theorem seenAt_fresh (name : String) (evs : List SinkEvent) :
    (evs.map (seen .fresh)).filterMap (seenAt? name) = [] := by
  rw [List.filterMap_map]
  exact List.filterMap_eq_nil_iff.mpr fun _ _ => rfl

end ClientEvent

namespace MetricClient

open Emitter (Call)

/-! ### The emitters -/

/-- What was seen at the emitter of a name, newest first. -/
def seenAt (c : MetricClient) (name : String) : List SinkEvent :=
  c.journal.filterMap (ClientEvent.seenAt? name)

/-- The emitter of a name; its journal is all that was seen at it. -/
def emitterOf (c : MetricClient) (name : String) : Emitter :=
  { (Entries.get? name c.emitters).getD spare with journal := c.seenAt name }

theorem spare_shutsDown : spare.ShutsDown := (Emitter.calm_of_name (by decide)).shutsDown

/-- What holds of the emitters of a client, and of the one that stands for a name it does not know,
holds of the emitter of every name. -/
theorem emitterOf_cases {P : Emitter → Prop} {c : MetricClient} (hspare : P spare.clear)
    (h : ∀ d ∈ c.emitters, P d.2.clear) (hnew : c.journal = []) (name : String) :
    P (c.emitterOf name) := by
  have hseen : c.seenAt name = [] := by rw [seenAt, hnew, List.filterMap_nil]
  unfold emitterOf
  rw [hseen]
  cases hname : Entries.get? name c.emitters with
  | none => exact hspare
  | some e =>
      rw [Entries.get?_eq_find?] at hname
      obtain ⟨d, hd, rfl⟩ := Option.map_eq_some_iff.mp hname
      exact h d (List.mem_of_find?_eq_some hd)

section onEmitter

variable {α : Type} {call : Emitter → Emitter × α} (c : MetricClient) (n : String)

/-- A call that does not read the journal answers as the emitter with all that was seen at it. -/
theorem onEmitter_eq (hcall : ∀ e j, call (e.atop j) = ((call e).1.atop j, (call e).2)) :
    (c.onEmitter n call).2 = (call (c.emitterOf n)).2
      ∧ (c.onEmitter n call).1.emitterOf n = (call (c.emitterOf n)).1 := by
  have hwhole : c.emitterOf n =
      ((Entries.get? n c.emitters).getD spare).clear.atop (c.seenAt n) := rfl
  rw [hwhole, hcall]
  refine ⟨rfl, ?_⟩
  have hseen : (c.onEmitter n call).1.seenAt n =
      (call ((Entries.get? n c.emitters).getD spare).clear).1.journal ++ c.seenAt n :=
    List.filterMap_append.trans
      (congrArg (· ++ _) ((ClientEvent.seenAt_held n n _).trans (if_pos rfl)))
  unfold emitterOf
  rw [hseen]
  unfold onEmitter
  dsimp only
  rw [Entries.get?_put_self (beq_self_eq_true n)]
  rfl

/-- A call of one emitter is nothing to another. -/
theorem onEmitter_other {name : String} (hne : n ≠ name) :
    (c.onEmitter n call).1.emitterOf name = c.emitterOf name := by
  have hseen : (c.onEmitter n call).1.seenAt name = c.seenAt name :=
    List.filterMap_append.trans
      (congrArg (· ++ _) ((ClientEvent.seenAt_held n name _).trans (if_neg hne)))
  unfold emitterOf
  rw [hseen]
  unfold onEmitter
  dsimp only
  rw [Entries.get?_put_of_ne (beq_eq_false_iff_ne.mpr hne)
    (fun a ha => beq_eq_false_iff_ne.mpr (eq_of_beq ha ▸ hne))]

/-- A call of a fresh emitter is nothing to those of the process. -/
theorem onFresh_emitterOf (name : String) :
    (c.onFresh call).1.emitterOf name = c.emitterOf name := by
  have hseen : (c.onFresh call).1.seenAt name = c.seenAt name :=
    List.filterMap_append.trans (congrArg (· ++ _) (ClientEvent.seenAt_fresh name _))
  unfold emitterOf
  rw [hseen]
  rfl

end onEmitter

/-! ### Acts -/

/-- What is done with a client and with the emitters of its process. -/
inductive Act where
  | adopt (name : String)
  | supply
  | ask
  | reset
  | call (name : String) (c : Call)
  | callSupplied (c : Call)

/-- What is answered. -/
inductive Answer where
  | done (r : Except Fault Unit)
  | supplied (s : Supply)
  | told (isHolding : Bool)
  | called (r : Except Fault (Option Nat))

/-- One act: the client after it and its answer. -/
def perform (c : MetricClient) : Act → MetricClient × Answer
  | .adopt name     =>
    let (c, r) := c.adopt name
    (c, .done r)
  | .supply         =>
    let (c, s) := c.supply
    (c, .supplied s)
  | .ask            => (c, .told c.isHolding)
  | .reset          =>
    let (c, r) := c.reset
    (c, .done r)
  | .call name call =>
    let (c, r) := c.onEmitter name (·.perform call)
    (c, .called r)
  | .callSupplied call =>
    let (c, r) := c.onSupplied (·.perform call)
    (c, .called r)

/-- The call that reaches an emitter of the process, by what is held. -/
def Act.call? (held : Option String) : Act → Option (String × Call)
  | call name c    => some (name, c)
  | callSupplied c => held.map (·, c)
  | reset          => held.map (·, .shutdown)
  | _              => none

/-- The calls of the emitter of a name. -/
def callsOf (name : String) (calls : List (String × Call)) : List Call :=
  (calls.filter fun d => d.1 = name).map Prod.snd

theorem callsOf_append (name : String) (cs ds : List (String × Call)) :
    callsOf name (cs ++ ds) = callsOf name cs ++ callsOf name ds := by
  rw [callsOf, List.filter_append, List.map_append, callsOf, callsOf]

/-- One call of an emitter by name, and what it is to each emitter. -/
theorem called_emitterOf (c : MetricClient) (n name : String) (call : Call) :
    (c.onEmitter n (·.perform call)).1.emitterOf name =
      (c.emitterOf name).run (callsOf name [(n, call)]) := by
  by_cases hn : n = name
  · obtain rfl := hn
    rw [(onEmitter_eq c n fun e j => e.atop_perform j call).2]
    simp [callsOf, Emitter.run_singleton]
  · rw [onEmitter_other c n hn]
    simp [callsOf, hn]
    rfl

/-- The emitters after a reset, whatever it answers. -/
theorem reset_emitterOf (c : MetricClient) (name : String) :
    c.reset.1.emitterOf name =
      (c.emitterOf name).run (callsOf name (Act.reset.call? c.held).toList) := by
  unfold reset
  cases hheld : c.held with
  | none => rfl
  | some h =>
      have hcalled : (c.onEmitter h Emitter.shutdown).1.emitterOf name =
          (c.emitterOf name).run (callsOf name [(h, .shutdown)]) :=
        called_emitterOf c h name .shutdown
      dsimp only
      split
      · next c' f hc => rw [hc] at hcalled; exact hcalled
      · next c' a hc => rw [hc] at hcalled; exact hcalled

/-- A reset answers where a shutdown does, and then nothing is held. -/
theorem reset_answers {c : MetricClient} (h : ∀ name, (c.emitterOf name).shutdown.2 = .ok ()) :
    c.reset.2 = .ok () ∧ c.reset.1.held = none := by
  unfold reset
  cases hheld : c.held with
  | none => exact ⟨rfl, hheld⟩
  | some n =>
      have hanswer : (c.onEmitter n Emitter.shutdown).2 = .ok () :=
        (onEmitter_eq c n Emitter.atop_shutdown).1.trans (h n)
      dsimp only
      split
      · next c' f hc =>
          rw [hc] at hanswer
          cases hanswer
      · exact ⟨rfl, rfl⟩

/-- **One act, and what it is to each emitter**: nothing, unless it is a call that reaches it. -/
theorem perform_emitterOf (c : MetricClient) (a : Act) (name : String) :
    (c.perform a).1.emitterOf name =
      (c.emitterOf name).run (callsOf name (a.call? c.held).toList) := by
  cases a with
  | adopt n =>
      show (c.adopt n).1.emitterOf name = c.emitterOf name
      unfold adopt
      cases c.held <;> rfl
  | supply =>
      show c.supply.1.emitterOf name = c.emitterOf name
      unfold supply
      cases c.held <;> rfl
  | ask => rfl
  | reset => exact reset_emitterOf c name
  | call n call => exact called_emitterOf c n name call
  | callSupplied call =>
      show (c.onSupplied (·.perform call)).1.emitterOf name = _
      unfold onSupplied supply
      cases c.held with
      | some h => exact called_emitterOf c h name call
      | none => exact onFresh_emitterOf _ name

/-! ### Histories -/

/-- The acts of a process with their answers, newest first. -/
abbrev Past := List (Act × Answer)

namespace Past

/-- The name that was adopted, where an adoption answered. -/
def adopted? : Act × Answer → Option String
  | (.adopt name, .done (.ok _)) => some name
  | _                            => none

/-- Whether an act is a reset. -/
def isReset (d : Act × Answer) : Bool :=
  match d.1 with
  | .reset => true
  | _      => false

/-- The names that were adopted since the last reset. -/
def adopted (past : Past) : List String :=
  (past.takeWhile fun d => !isReset d).filterMap adopted?

/-- The calls that reached an emitter of the process, the first of them first. -/
def calls : Past → List (String × Call)
  | []        => []
  | d :: past => calls past ++ (d.1.call? (adopted past).head?).toList

end Past

/-- A client and what was done with it. -/
structure Process where
  client : MetricClient
  past : Past := []

namespace Process

/-- One act. -/
def step (p : Process) (a : Act) : Process :=
  let (c, r) := p.client.perform a
  { client := c, past := (a, r) :: p.past }

/-- The process after a history of acts. -/
def run (p : Process) (acts : List Act) : Process := acts.foldl step p

/-- A client is as its past says: it holds what was adopted since the last reset, no more than one,
and every emitter is as the calls that reached it have left it. -/
structure Upheld (c₀ : MetricClient) (p : Process) : Prop where
  held : p.past.adopted = p.client.held.toList
  emitters : ∀ name, p.client.emitterOf name =
    (c₀.emitterOf name).run (callsOf name p.past.calls)

variable {c₀ : MetricClient} {p : Process}

theorem Upheld.held_eq (h : Upheld c₀ p) : p.client.held = p.past.adopted.head? := by
  rw [h.held, Option.head?_toList]

theorem Upheld.shutsDown (h : Upheld c₀ p) (hs : ∀ name, (c₀.emitterOf name).ShutsDown)
    (name : String) : (p.client.emitterOf name).shutdown.2 = .ok () := by
  rw [h.emitters]
  exact hs name _

/-- **One act** leaves a client as its past says. -/
theorem Upheld.step (h : Upheld c₀ p) (hs : ∀ name, (c₀.emitterOf name).ShutsDown) (a : Act) :
    Upheld c₀ (p.step a) where
  emitters name := by
    show (p.client.perform a).1.emitterOf name = _
    rw [perform_emitterOf, h.emitters, ← Emitter.run_append, ← callsOf_append, h.held_eq]
    rfl
  held := by
    have hheld := h.held
    cases a with
    | adopt name =>
        show Past.adopted ((.adopt name, .done (p.client.adopt name).2) :: p.past) =
          (p.client.adopt name).1.held.toList
        unfold adopt
        cases hc : p.client.held with
        | some n =>
            rw [hc] at hheld
            rw [hc]
            exact hheld
        | none =>
            rw [hc] at hheld
            exact congrArg (name :: ·) hheld
    | supply =>
        show p.past.adopted = p.client.supply.1.held.toList
        unfold supply
        cases hc : p.client.held <;> exact hheld
    | ask => exact hheld
    | reset =>
        show [] = p.client.reset.1.held.toList
        rw [(reset_answers (h.shutsDown hs)).2]
        rfl
    | call n call => exact hheld
    | callSupplied call =>
        show p.past.adopted = (p.client.onSupplied (·.perform call)).1.held.toList
        unfold onSupplied supply
        cases hc : p.client.held <;> exact hheld

theorem Upheld.run (h : Upheld c₀ p) (hs : ∀ name, (c₀.emitterOf name).ShutsDown)
    (acts : List Act) : Upheld c₀ (p.run acts) := by
  induction acts generalizing p with
  | nil => exact h
  | cons a acts ih => exact ih (h.step hs a)

end Process

/-! ### Answers -/

/-- How a client answers that holds an emitter: it takes no other, it supplies the one it holds, which
answers the calls of what is supplied, and a reset lets it go, closed and released once.  No other
emitter is touched. -/
structure Holds (c : MetricClient) (name : String) : Prop where
  adopt : ∀ other, c.adopt other = (c, .error (.clientTaken (c.sinkName name)))
  supply : c.supply = (c, .held name)
  call : ∀ call, (c.onSupplied (·.perform call)).2 = ((c.emitterOf name).perform call).2
  isHolding : c.isHolding = true
  reset : ∃ c', c.reset = (c', .ok ()) ∧ c'.held = none
    ∧ (c'.emitterOf name).health.closed = true
    ∧ (c'.emitterOf name).contacts.countP SinkEvent.isRelease = 1
    ∧ ∀ other, other ≠ name → c'.emitterOf other = c.emitterOf other

/-- How a client answers that holds no emitter: it takes any, and supplies a fresh one that discards,
which answers the calls of what is supplied.  No emitter of the process is touched. -/
structure Free (c : MetricClient) : Prop where
  adopt : ∀ name, ∃ c', c.adopt name = (c', .ok ()) ∧ c'.held = some name
    ∧ ∀ other, c'.emitterOf other = c.emitterOf other
  supply : ∃ c', c.supply = (c', .fresh) ∧ c'.held = none
    ∧ ∀ other, c'.emitterOf other = c.emitterOf other
  call : ∀ call, (c.onSupplied (·.perform call)).2 = (spare.perform call).2
  isHolding : c.isHolding = false
  reset : c.reset = (c, .ok ())

theorem holds_of_some {c : MetricClient} {name : String} (hheld : c.held = some name)
    (hs : ∀ other, (c.emitterOf other).shutdown.2 = .ok ())
    (hsealed : Emitter.Sealed (c.emitterOf name)) : Holds c name := by
  have hafter : ∀ other, c.reset.1.emitterOf other =
      (c.emitterOf other).run (callsOf other [(name, .shutdown)]) := by
    intro other
    rw [reset_emitterOf, hheld]
    rfl
  have hself : c.reset.1.emitterOf name = (c.emitterOf name).shutdown.1 := by
    rw [hafter, callsOf, List.filter_cons_of_pos (by exact decide_eq_true rfl)]
    rfl
  have hclosed := Emitter.closed_of_shutdown (hs name)
  obtain ⟨hdone, hnone⟩ := reset_answers hs
  refine ⟨fun other => ?_, ?_, fun call => ?_, ?_, c.reset.1, Prod.ext rfl hdone, hnone, ?_, ?_, ?_⟩
  · rw [adopt, hheld]
  · rw [supply, hheld]
  · rw [onSupplied, supply, hheld]
    exact (onEmitter_eq c name fun e j => e.atop_perform j call).1
  · rw [isHolding, hheld]
    rfl
  · rw [hself]
    exact hclosed
  · rw [hself, hsealed.shutdown.count_release, hclosed]
    rfl
  · intro other hne
    rw [hafter, callsOf, List.filter_cons_of_neg (by simpa using hne.symm)]
    rfl

theorem free_of_none {c : MetricClient} (hheld : c.held = none) : Free c := by
  refine ⟨fun name => ?_, ?_, fun call => ?_, ?_, ?_⟩
  · rw [adopt, hheld]
    exact ⟨_, rfl, rfl, fun _ => rfl⟩
  · rw [supply, hheld]
    exact ⟨_, rfl, hheld, fun _ => rfl⟩
  · rw [onSupplied, supply, hheld]
    rfl
  · rw [isHolding, hheld]
    rfl
  · rw [reset, hheld]

/-- **The client over every history.**  Where none of the emitters of a process was called or adopted
before, and no shutdown of them raises, the client holds what was adopted since the last reset, and no
second name has been: so it answers as one that holds it (`Holds`), or as one that holds none (`Free`).
At every point, every emitter is as the calls that reached it have left it, of which a client makes only
the shutdown of the one that it holds, and it has been released once if it is closed, and never
otherwise. -/
theorem client_of_history (c : MetricClient) (hheld : c.held = none) (hnew : c.journal = [])
    (hopen : ∀ d ∈ c.emitters, d.2.health.closed = false)
    (hshuts : ∀ d ∈ c.emitters, d.2.ShutsDown) (acts : List Act) :
    let p := Process.run ⟨c, []⟩ acts
    p.client.held.toList = p.past.adopted
    ∧ (∀ name, p.past.adopted = [name] → Holds p.client name)
    ∧ (p.past.adopted = [] → Free p.client)
    ∧ ∀ name, p.client.emitterOf name = (c.emitterOf name).run (callsOf name p.past.calls)
      ∧ (p.client.emitterOf name).contacts.countP SinkEvent.isRelease =
          (p.client.emitterOf name).health.closed.toNat := by
  intro p
  have hs : ∀ name, (c.emitterOf name).ShutsDown :=
    emitterOf_cases spare_shutsDown.clear (fun d hd => (hshuts d hd).clear) hnew
  have hsealed₀ : ∀ name, Emitter.Sealed (c.emitterOf name) := by
    have hclear : ∀ {e : Emitter}, e.health.closed = false → Emitter.Sealed e.clear := fun ho =>
      ⟨fun _ _ hev => (List.not_mem_nil hev).elim, fun hc => nomatch ho.symm.trans hc⟩
    exact emitterOf_cases (hclear rfl) (fun d hd => hclear (hopen d hd)) hnew
  have hstart : Process.Upheld c ⟨c, []⟩ := ⟨by rw [hheld]; rfl, fun _ => rfl⟩
  have h : Process.Upheld c p := hstart.run hs acts
  have hsealed : ∀ name, Emitter.Sealed (p.client.emitterOf name) := by
    intro name
    rw [h.emitters]
    exact Emitter.sealed_invariant.run (hsealed₀ name) _
  refine ⟨h.held.symm, fun name hname => ?_, fun hnone => ?_, fun name =>
    ⟨h.emitters name, (hsealed name).count_release⟩⟩
  · refine holds_of_some ?_ (h.shutsDown hs) (hsealed name)
    rw [h.held_eq, hname]
    rfl
  · refine free_of_none ?_
    rw [h.held_eq, hnone]
    rfl

/-- Two emitters, of which the one that was adopted is shut down directly and the other is refused. -/
theorem client_of_refused_adoption :
    let c : MetricClient :=
      { emitters := [("a", { sink := .discard false }), ("b", { sink := .discard false })] }
    c.held = none ∧ c.journal = []
      ∧ (∀ d ∈ c.emitters, d.2.health.closed = false)
      ∧ (∀ d ∈ c.emitters, d.2.ShutsDown)
      ∧ ∃ p, p = Process.run ⟨c, []⟩
          [.adopt "a", .adopt "b", .callSupplied .flush, .call "a" .shutdown]
        ∧ Holds p.client "a"
        ∧ (p.client.emitterOf "a").contacts.countP SinkEvent.isRelease = 1
        ∧ (p.client.emitterOf "b").contacts.countP SinkEvent.isRelease = 0 := by
  intro c
  have hopen : ∀ d ∈ c.emitters, d.2.health.closed = false := by decide
  have hshuts : ∀ d ∈ c.emitters, d.2.ShutsDown := fun d hd =>
    (Emitter.calm_of_name (by revert d; decide)).shutsDown
  obtain ⟨-, hholds, -, hemitters⟩ := client_of_history c rfl rfl hopen hshuts
    [.adopt "a", .adopt "b", .callSupplied .flush, .call "a" .shutdown]
  exact ⟨rfl, rfl, hopen, hshuts, _, rfl, hholds "a" rfl, (hemitters "a").2, (hemitters "b").2⟩

end MetricClient
end FleetHealth
