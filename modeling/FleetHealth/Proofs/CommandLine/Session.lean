import FleetHealth.CommandLine.Basic
import FleetHealth.Proofs.Emitter.Contact
import FleetHealth.Proofs.Entries
import FleetHealth.Proofs.Reporter.History

/-!
# Proofs — Command line — Session

What a command adds to the journal of its session, and what it leaves as it was.  `Noted evs s s'` says that events came to the journal and that the metric client is the same; the steps of a command compose in it.

* `start_cases`: how the loggers and the emitter are started, or why they are not.
* `Course` is what a history of calls of the emitter leads to; courses compose.
* `withReporter_noted`: the work of a reporter, on every path.
-/

namespace FleetHealth

/-- What a configuration opens is an emitter that has seen nothing, on a sink that plays no script. -/
theorem Emitter.of_ofConfig {c : Config} {s : Surroundings} {e : Emitter}
    (h : (ofConfig c s).2 = .ok e) : ∃ o k, e = ofSink o k ∧ k.name ≠ "scripted" := by
  have hexport : ∀ {o endpoint protocol interval provider x},
      (openExport o endpoint protocol interval provider x).2 = .ok e →
      ∃ o k, e = ofSink o k ∧ k.name ≠ "scripted" := by
    intro o endpoint protocol interval provider x h
    unfold openExport at h
    dsimp only at h
    split at h
    · cases h
    · obtain rfl := Except.ok.inj h
      exact ⟨_, _, rfl, by simp [Sink.name]⟩
  unfold ofConfig at h
  dsimp only at h
  split at h
  · unfold openSocket at h
    split at h
    · cases h
    · dsimp only at h
      split at h
      · cases h
      · split at h
        · cases h
        · obtain rfl := Except.ok.inj h
          exact ⟨_, _, rfl, by simp [Sink.name]⟩
  · split at h
    · unfold requestExport at h
      dsimp only at h
      split at h
      · cases h
      · exact hexport h
    · split at h
      · obtain rfl := Except.ok.inj h
        exact ⟨_, _, rfl, by simp [Sink.name]⟩
      · cases h

theorem Emitter.Calm.run {e : Emitter} (h : e.Calm) (calls : List Call) : (e.run calls).Calm := by
  intro later
  rw [← run_append]
  exact h _

namespace CommandLine

open Emitter (Call)

namespace Event

/-- What reached the sink, as an event of the session's journal. -/
def contact? (ev : Event) : Option SinkEvent := ev.sink?.filter SinkEvent.reachesSink

/-- Whether an event is the release of the sink. -/
def isRelease (ev : Event) : Bool := ev.sink?.any SinkEvent.isRelease

/-- Whether an event is a query that is started. -/
def isQuery : Event → Bool
  | .reporter (.asked _ _) => true
  | _                      => false

/-- Whether an event is something that happened at a sink, or something that was said. -/
def isSink : Event → Bool
  | .sink _ => true
  | _       => false

theorem contact?_reporter (ev : ReporterEvent Number) :
    (Event.reporter ev).contact? = ev.contact? := by
  cases ev with
  | sink e =>
      show (some e).filter SinkEvent.reachesSink = if e.reachesSink then some e else none
      rw [Option.filter_some]
  | _ => rfl

theorem contacts_of_sink (evs : List SinkEvent) :
    (evs.map Event.sink).filterMap contact? = evs.filter SinkEvent.reachesSink := by
  have hguard : contact? ∘ Event.sink = Option.guard SinkEvent.reachesSink := by
    funext ev
    exact Option.filter_some
  rw [List.filterMap_map, hguard, List.filterMap_eq_filter]

end Event

/-! ### What is noted -/

/-- Events came to the journal, the first of them first, and the metric client is the same. -/
structure Noted (evs : List Event) (s s' : Session) : Prop where
  journal : s'.journal = evs.reverse ++ s.journal
  client : s'.client = s.client

namespace Noted

variable {evs later : List Event} {s s₁ s₂ : Session}

theorem trans (h : Noted evs s s₁) (k : Noted later s₁ s₂) : Noted (evs ++ later) s s₂ where
  journal := by rw [k.journal, h.journal, List.reverse_append, List.append_assoc]
  client := k.client.trans h.client

theorem quiet (hj : s₁.journal = s.journal) (hc : s₁.client = s.client) : Noted [] s s₁ := ⟨hj, hc⟩

theorem refl (s : Session) : Noted [] s s := ⟨rfl, rfl⟩

end Noted

theorem noted_note (stamp : String) (s : Session) (ev : Event) : Noted [ev] s (s.note stamp ev) := by
  unfold Session.note
  dsimp only
  split <;> exact ⟨rfl, rfl⟩

theorem noted_noteAll (stamp : String) (s : Session) (evs : List Event) :
    Noted evs s (s.noteAll stamp evs) := by
  induction evs generalizing s with
  | nil => exact .refl s
  | cons ev evs ih => exact (noted_note stamp s ev).trans (ih _)

theorem noted_say (stamp : String) (s : Session) (level : Log.Level) (event : String)
    (fields : List (String × Datum)) :
    ∃ entry, Noted [.sink (.said entry)] s (s.say stamp level event fields) :=
  ⟨_, noted_note stamp s _⟩

/-! ### The start -/

/-- Why a command could not start: its loggers or its emitter were refused, and the way it ends. -/
inductive Unstarted (w : Surroundings) (c : Config) (s : Session) : Ending → Prop where
  | logging {f : Fault}
      (h : (Log.openAndSetUp s.logging s.storage w.defaultLogPath (.ofConfig c)).2.2 = .error f) :
      Unstarted w c s
        (if f.kind.isValue || f.kind.isSystem then .exit settingExit else .raised f)
  | emitter {f : Fault} (h : (Emitter.ofConfig c w.sinks).2 = .error f) :
      Unstarted w c s (if f.kind = .emitterInit then .exit sinkExit else .raised f)

theorem startLogging_cases (w : Surroundings) (c : Config) (s : Session) :
    (∃ s₁, startLogging w c s = (s₁, .ok ()) ∧ Noted [] s s₁)
      ∨ ∃ s₁ ending, startLogging w c s = (s₁, .error ending) ∧ Noted [] s s₁
        ∧ Unstarted w c s ending := by
  unfold startLogging
  cases h : Log.openAndSetUp s.logging s.storage w.defaultLogPath (.ofConfig c) with
  | mk storage rest =>
      obtain ⟨logging, r⟩ := rest
      cases r with
      | ok a => exact .inl ⟨_, rfl, rfl, rfl⟩
      | error f =>
          have hu : Unstarted w c s _ := .logging (f := f) (by rw [h])
          dsimp only
          split
          case isTrue hk =>
            rw [if_pos hk] at hu
            exact .inr ⟨_, _, rfl, ⟨rfl, rfl⟩, hu⟩
          case isFalse hk =>
            rw [if_neg hk] at hu
            exact .inr ⟨_, _, rfl, ⟨rfl, rfl⟩, hu⟩

/-- **The start of a command.**  Loggers and emitter are there, or it ends; nothing but events of the
sink and entries are noted. -/
theorem start_cases (w : Surroundings) (c : Config) (s : Session) :
    (∃ s₁ e evs, start w c s = (s₁, .ok e) ∧ (Emitter.ofConfig c w.sinks).2 = .ok e
        ∧ Noted evs s s₁ ∧ ∀ ev ∈ evs, ev.isSink = true)
      ∨ ∃ s₁ ending evs, start w c s = (s₁, .error ending) ∧ Noted evs s s₁
        ∧ (∀ ev ∈ evs, ev.isSink = true) ∧ Unstarted w c s ending := by
  unfold start
  rcases startLogging_cases w c s with ⟨s₁, h, hn⟩ | ⟨s₁, ending, h, hn, hu⟩
  · rw [h]
    dsimp only
    unfold startEmitter
    cases ho : Emitter.ofConfig c w.sinks with
    | mk seen opened =>
        have hseen := hn.trans (noted_noteAll w.stamp s₁ (seen.reverse.map .sink))
        have hsink : ∀ ev ∈ [] ++ seen.reverse.map Event.sink, ev.isSink = true := by
          intro ev hev
          obtain ⟨x, -, rfl⟩ := List.mem_map.mp hev
          rfl
        cases opened with
        | ok e => exact .inl ⟨_, e, _, rfl, rfl, hseen, hsink⟩
        | error f =>
            have hu : Unstarted w c s _ := .emitter (f := f) (by rw [ho])
            dsimp only
            split
            case isFalse hk =>
              rw [if_neg hk] at hu
              exact .inr ⟨_, _, _, rfl, hseen, hsink, hu⟩
            case isTrue hk =>
              rw [if_pos hk] at hu
              refine .inr ⟨_, _, _, rfl, (hseen.trans (noted_note w.stamp _ (.sink (.said _)))).trans
                (.quiet rfl rfl), ?_, hu⟩
              intro ev hev
              rw [List.append_nil] at hev
              rcases List.mem_append.mp hev with hev | hev
              · exact hsink ev hev
              · obtain rfl := List.mem_singleton.mp hev
                rfl
  · rw [h]
    exact .inr ⟨s₁, ending, [], rfl, hn, fun _ hev => (List.not_mem_nil hev).elim, hu⟩

/-! ### The work of a reporter -/

/-- The emitter shut down, on behalf of a session. -/
theorem onEmitter_shutdown (w : Surroundings) (s : Session) (e : Emitter) :
    onEmitter w s e Emitter.shutdown =
      (s.noteSink w.stamp (e.clear.perform .shutdown).1.journal, (e.perform .shutdown).1.clear,
        e.shutdown.2) := by
  have ha := Emitter.atop_shutdown e.clear e.journal
  rw [Emitter.clear_atop] at ha
  have he : (e.perform .shutdown).1 = e.shutdown.1 := rfl
  rw [he, ha]
  rfl

theorem noted_noteSink (stamp : String) (s : Session) (journal : List SinkEvent) :
    Noted (journal.reverse.map .sink) s (s.noteSink stamp journal) :=
  noted_noteAll stamp s _

/-- The closing of the pool, where there is one. -/
def closings (hasPool : Bool) : List Event := if hasPool then [.poolClosed] else []

/-- **The end of the work on a pool**: the emitter is shut down and closed, and only then the pool. -/
theorem release_noted {α : Type} (w : Surroundings) (s : Session) {e : Emitter} (hcalm : e.Calm)
    (hasPool : Bool) (r : Except Fault α) :
    ∃ s' r', release w s e hasPool r = (s', (e.perform .shutdown).1.clear, r')
      ∧ Noted ((e.clear.perform .shutdown).1.journal.reverse.map .sink ++ closings hasPool) s s'
      ∧ (e.perform .shutdown).1.health.closed = true := by
  -- the shutdown answers, so the pool is reached
  obtain ⟨e', he, hclosed⟩ := Emitter.shutdown_answers hcalm.beforeFlush
  have hperform : (e.perform .shutdown).1 = e' := congrArg Prod.fst he
  have hn := noted_noteSink w.stamp s (e.clear.perform .shutdown).1.journal
  unfold release
  rw [onEmitter_shutdown, he]
  dsimp only
  rw [hperform]
  cases hasPool with
  | true => exact ⟨_, _, rfl, hn.trans (noted_note w.stamp _ .poolClosed), hclosed⟩
  | false => exact ⟨_, _, rfl, hn.trans (.refl _), hclosed⟩

/-- Events that a history of calls of an emitter leads to: what reaches the sink in it and, in any order
with that, what is said, and queries if there is a pool. -/
structure Course (hasPool : Bool) (e : Emitter) (calls : List Call) (evs : List Event) : Prop where
  contacts : evs.filterMap Event.contact? = (e.clear.run calls).contacts
  pool : ∀ ev ∈ evs, ev.request? = none ∧ ev.isClosing = false
  queries : hasPool = false → ∀ ev ∈ evs, ev.isQuery = false

theorem Course.trans {hasPool : Bool} {e e₁ : Emitter} {calls later : List Call}
    {evs more : List Event} (h : Course hasPool e calls evs) (he : e₁.clear = (e.run calls).clear)
    (k : Course hasPool e₁ later more) : Course hasPool e (calls ++ later) (evs ++ more) where
  contacts := by
    rw [List.filterMap_append, h.contacts, k.contacts, he, Emitter.contacts_run_append]
  pool := fun ev hev => (List.mem_append.mp hev).elim (h.pool ev) (k.pool ev)
  queries := fun hp ev hev => (List.mem_append.mp hev).elim (h.queries hp ev) (k.queries hp ev)

/-- An entry said. -/
theorem course_said (hasPool : Bool) (e : Emitter) (entry : Log.Entry) :
    Course hasPool e [] [.sink (.said entry)] where
  contacts := rfl
  pool := fun _ hev => List.mem_singleton.mp hev ▸ ⟨rfl, rfl⟩
  queries := fun _ _ hev => List.mem_singleton.mp hev ▸ rfl

/-- One call of the emitter. -/
theorem course_call (hasPool : Bool) (e : Emitter) (c : Call) :
    Course hasPool e [c] ((e.clear.perform c).1.journal.reverse.map .sink) where
  contacts := by
    rw [Event.contacts_of_sink, List.filter_reverse]
    rfl
  pool := fun ev hev => by
    obtain ⟨x, -, rfl⟩ := List.mem_map.mp hev
    exact ⟨rfl, rfl⟩
  queries := fun _ ev hev => by
    obtain ⟨x, -, rfl⟩ := List.mem_map.mp hev
    rfl

/-- The work of a reporter that began with an empty journal. -/
theorem course_reporter {r r' : Reporter Number} {calls : List Call} (hj : r.journal = [])
    (h : Reporter.Uses calls r r') :
    Course true r.emitter calls (r'.journal.reverse.map .reporter) where
  contacts := by
    have hnone : r.contacts = [] := by
      rw [Reporter.contacts, hj]
      rfl
    have hmap : Event.contact? ∘ Event.reporter = ReporterEvent.contact? :=
      funext Event.contact?_reporter
    rw [List.filterMap_map, hmap, List.filterMap_reverse]
    have hc := h.contacts
    rw [hnone] at hc
    exact hc
  pool := fun ev hev => by
    obtain ⟨x, -, rfl⟩ := List.mem_map.mp hev
    exact ⟨rfl, rfl⟩
  queries := nofun

/-- The session once its pool was asked for and made. -/
def withPool (w : Surroundings) (c : Config) (s : Session) : Session :=
  (s.note w.stamp (.poolRequested (.ofConfig c))).note w.stamp
    (.sink (.said (PoolRequest.ofConfig c).created))

theorem withReporter_of_pool {α : Type} {w : Surroundings} (h : w.pool = none) (c : Config)
    (e : Emitter) (work : Reporter Number → Reporter Number × Except Fault α) (s : Session) :
    withReporter w c e work s =
      release w
        ((withPool w c s).noteAll w.stamp
          ((work (reporterOf w c e.clear)).1.journal.reverse.map .reporter))
        (work (reporterOf w c e.clear)).1.emitter true (work (reporterOf w c e.clear)).2 := by
  unfold withReporter openPool
  rw [h]
  rfl

theorem withReporter_of_fault {α : Type} {w : Surroundings} {f : Fault} (h : w.pool = some f)
    (c : Config) (e : Emitter) (work : Reporter Number → Reporter Number × Except Fault α)
    (s : Session) :
    withReporter w c e work s =
      release w (s.note w.stamp (.poolRequested (.ofConfig c))) e false (.error f) := by
  unfold withReporter openPool
  rw [h]

/-- **The work of a reporter**, whatever comes of it: a pool is asked for, a history of calls leads to an
emitter that is closed, and last the pool is closed if it was made. -/
theorem withReporter_noted {α : Type} (w : Surroundings) (c : Config) {e : Emitter}
    (hcalm : e.Calm) {work : Reporter Number → Reporter Number × Except Fault α}
    (hwork : ∀ r, Reporter.Used r (work r).1) (s : Session) :
    ∃ s' e' r calls evs, withReporter w c e work s = (s', e', r)
      ∧ Noted (.poolRequested (.ofConfig c) :: (evs ++ closings w.pool.isNone)) s s'
      ∧ Course w.pool.isNone e calls evs
      ∧ e'.clear = (e.run calls).clear ∧ e'.health.closed = true := by
  have hrequest := noted_note w.stamp s (.poolRequested (.ofConfig c))
  cases hpool : w.pool with
  | some f =>
      rw [withReporter_of_fault hpool]
      obtain ⟨s', r, hr, hn, hclosed⟩ :=
        release_noted w (s.note w.stamp (.poolRequested (.ofConfig c))) hcalm false (.error f)
      exact ⟨s', _, r, [.shutdown], (e.clear.perform .shutdown).1.journal.reverse.map .sink, hr,
        hrequest.trans hn, course_call false e .shutdown, rfl, hclosed⟩
  | none =>
      have hsaid := hrequest.trans
        (noted_note w.stamp _ (.sink (.said (PoolRequest.ofConfig c).created)))
      obtain ⟨calls, hu⟩ := hwork (reporterOf w c e.clear)
      rw [withReporter_of_pool hpool]
      cases hw : work (reporterOf w c e.clear) with
      | mk r a =>
          rw [hw] at hu
          have hemitter : r.emitter.clear = (e.run calls).clear := by
            rw [hu.emitter]
            exact Emitter.run_clear_clear e calls
          have hcalm' : r.emitter.Calm :=
            Emitter.calm_clear.mp (hemitter ▸ Emitter.calm_clear.mpr (hcalm.run calls))
          obtain ⟨s', b, hr, hn, hclosed⟩ := release_noted w
            ((withPool w c s).noteAll w.stamp (r.journal.reverse.map .reporter)) hcalm' true a
          have hnoted := (hsaid.trans (noted_noteAll w.stamp _ _)).trans hn
          have hcourse : Course true e.clear calls (r.journal.reverse.map .reporter) :=
            course_reporter rfl hu
          have hfresh : e.clear.clear = (e.run []).clear := rfl
          -- the entry about the pool, the reporter's events, and the shutdown that follows them
          have hall := ((course_said true e (PoolRequest.ofConfig c).created).trans hfresh
            hcourse).trans hemitter (course_call true r.emitter .shutdown)
          refine ⟨s', _, b, _, _, hr, ?_, hall, ?_, hclosed⟩
          · simp only [List.append_assoc, List.cons_append, List.nil_append] at hnoted ⊢
            exact hnoted
          · show (r.emitter.run [.shutdown]).clear = (e.run (calls ++ [.shutdown])).clear
            rw [← Emitter.run_clear_clear, hemitter, Emitter.run_clear_clear, Emitter.run_append]

end CommandLine
end FleetHealth
