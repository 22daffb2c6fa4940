import FleetHealth.Proofs.CommandLine.Session
import FleetHealth.Proofs.Log.Setup
import FleetHealth.Sink.Reading

/-!
# Proofs — Command line — Release

A command gives back what it took, on every path.  Up to three places shut the emitter down: the end of a run, the end of the work on a pool, and the reset of the metric client.  Only the first of them reaches the sink.

* `Course.release_last`: at the end of a course that closed the emitter, the release is the last that reached the sink, and the only one of its kind.
* `run_releases`, `once_releases`: the two commands, once their emitter is there.
* `resources_released` is the account of every command that reports.

Whatever the sink raises, the shutdown of an emitter that a configuration opens does not: such a sink plays no script.  Closing the pool may raise, and so may anything before it.
-/

namespace FleetHealth.CommandLine

open Emitter (Call)

/-! ### The cut -/

theorem Event.isRelease_eq (ev : Event) :
    ev.isRelease = ev.contact?.any SinkEvent.isRelease := by
  unfold isRelease contact?
  cases ev.sink? with
  | none => rfl
  | some x => cases x <;> rfl

/-- **The release is the last that reaches the sink, and the only one of its kind.** -/
theorem Course.release_last {hasPool : Bool} {e : Emitter} {calls : List Call} {evs : List Event}
    (h : Course hasPool e calls evs) (hopen : e.health.closed = false)
    (hclosed : (e.run calls).health.closed = true) :
    ∃ earlier ev later, evs = earlier ++ ev :: later ∧ ev.isRelease = true
      ∧ (∀ x ∈ earlier, x.isRelease = false) ∧ ∀ x ∈ later, x.contact? = none := by
  have hnew : e.clear.Sealed :=
    ⟨fun _ ev hev => (List.not_mem_nil hev).elim, fun hc => by cases hopen.symm.trans hc⟩
  have hend : (e.clear.run calls).health.closed = true := by
    rw [Emitter.run_clear e calls, Emitter.atop_health] at hclosed
    exact hclosed
  obtain ⟨before, o, hcontacts, hno⟩ := (Emitter.sealed_invariant.run hnew calls).closed hend
  -- the contacts of the events are those of the history, so the events are cut where they are
  have hcut := h.contacts
  rw [hcontacts, List.filterMap_eq_append_iff] at hcut
  obtain ⟨first, rest, rfl, hfirst, hrest⟩ := hcut
  obtain ⟨quiet, ev, later, rfl, hquiet, hev, hlater⟩ := List.filterMap_eq_cons_iff.mp hrest
  refine ⟨first ++ quiet, ev, later, (List.append_assoc _ _ _).symm, ?_, fun x hx => ?_,
    List.filterMap_eq_nil_iff.mp hlater⟩
  · rw [Event.isRelease_eq, hev]
    rfl
  · rw [Event.isRelease_eq]
    rcases List.mem_append.mp hx with hx | hx
    · cases hc : x.contact? with
      | none => rfl
      | some y =>
          have hy : y ∈ first.filterMap Event.contact? := List.mem_filterMap.mpr ⟨x, hx, hc⟩
          rw [hfirst] at hy
          exact hno y hy
    · rw [hquiet x hx]
      rfl

/-- The events of a command from the moment its emitter is there: a pool was asked for once, and no
query was started if there is none; what reached the sink is what a history of calls reaches at whose
end the emitter is closed; the sink was released once, nothing reached it afterwards, and the pool was
closed after that, once if it was made and never otherwise. -/
structure Released (w : Surroundings) (c : Config) (e : Emitter) (calls : List Call)
    (evs : List Event) : Prop where
  request : evs.filterMap Event.request? = [PoolRequest.ofConfig c]
  queries : w.pool.isSome = true → ∀ ev ∈ evs, ev.isQuery = false
  contacts : evs.filterMap Event.contact? = (e.clear.run calls).contacts
  closed : (e.run calls).health.closed = true
  release : ∃ earlier ev later, evs = earlier ++ ev :: later ∧ ev.isRelease = true
    ∧ (∀ x ∈ earlier, x.isRelease = false ∧ x.isClosing = false)
    ∧ (∀ x ∈ later, x.contact? = none)
    ∧ later.countP Event.isClosing = w.pool.isNone.toNat

/-- What may stand around a course: before it the request for the pool, after it the closing, and what
is said on either side. -/
structure Around (w : Surroundings) (c : Config) (before after : List Event) : Prop where
  request : before.filterMap Event.request? = [PoolRequest.ofConfig c]
  before : ∀ x ∈ before, x.contact? = none ∧ x.isClosing = false ∧ x.isQuery = false
  closing : after.countP Event.isClosing = w.pool.isNone.toNat
  after : ∀ x ∈ after, x.contact? = none ∧ x.request? = none ∧ x.isQuery = false

/-- **A course that closed the emitter is released**, with what stands around it. -/
theorem Course.released {w : Surroundings} {c : Config} {e : Emitter} {calls : List Call}
    {before evs after : List Event} (h : Course w.pool.isNone e calls evs)
    (ha : Around w c before after) (hopen : e.health.closed = false)
    (hclosed : (e.run calls).health.closed = true) :
    Released w c e calls (before ++ (evs ++ after)) := by
  have hnone : ∀ {β : Type} {f : Event → Option β} {xs : List Event},
      (∀ x ∈ xs, f x = none) → xs.filterMap f = [] := List.filterMap_eq_nil_iff.mpr
  refine ⟨?_, fun hpool x hx => ?_, ?_, hclosed, ?_⟩
  · rw [List.filterMap_append, List.filterMap_append, ha.request, hnone fun x hx => (h.pool x hx).1,
      hnone fun x hx => (ha.after x hx).2.1]
    rfl
  · have hno : w.pool.isNone = false := by
      cases hp : w.pool with
      | none =>
          rw [hp] at hpool
          cases hpool
      | some f => rfl
    rcases List.mem_append.mp hx with hx | hx
    · exact (ha.before x hx).2.2
    · exact (List.mem_append.mp hx).elim (h.queries hno x) fun hx => (ha.after x hx).2.2
  · rw [List.filterMap_append, List.filterMap_append, hnone fun x hx => (ha.before x hx).1, h.contacts,
      hnone fun x hx => (ha.after x hx).1, List.nil_append, List.append_nil]
  · obtain ⟨earlier, ev, later, rfl, hev, hearlier, hlater⟩ := h.release_last hopen hclosed
    refine ⟨before ++ earlier, ev, later ++ after, by simp, hev, fun x hx => ?_, fun x hx => ?_, ?_⟩
    · rcases List.mem_append.mp hx with hx | hx
      · obtain ⟨hc, hclosing, -⟩ := ha.before x hx
        rw [Event.isRelease_eq, hc]
        exact ⟨rfl, hclosing⟩
      · exact ⟨hearlier x hx, (h.pool x (List.mem_append_left _ hx)).2⟩
    · exact (List.mem_append.mp hx).elim (hlater x) fun hx => (ha.after x hx).1
    · have hzero : later.countP Event.isClosing = 0 := by
        rw [List.countP_eq_zero]
        intro x hx
        rw [(h.pool x (List.mem_append_right _ (List.mem_cons_of_mem _ hx))).2]
        exact Bool.false_ne_true
      rw [List.countP_append, hzero, ha.closing, Nat.zero_add]

/-- What stands around the work of a reporter, with what is said before and after it. -/
theorem around_work (w : Surroundings) (c : Config) (before after : List Log.Entry) :
    Around w c (before.map (fun entry => .sink (.said entry)) ++ [.poolRequested (.ofConfig c)])
      (closings w.pool.isNone ++ after.map fun entry => .sink (.said entry)) := by
  have hsaid : ∀ {entries : List Log.Entry} {x : Event},
      x ∈ entries.map (fun entry => Event.sink (.said entry)) →
      x.contact? = none ∧ x.request? = none ∧ x.isClosing = false ∧ x.isQuery = false := by
    intro entries x hx
    obtain ⟨entry, -, rfl⟩ := List.mem_map.mp hx
    exact ⟨rfl, rfl, rfl, rfl⟩
  refine ⟨?_, fun x hx => ?_, ?_, fun x hx => ?_⟩
  · rw [List.filterMap_append, List.filterMap_eq_nil_iff.mpr fun x hx => (hsaid hx).2.1]
    rfl
  · rcases List.mem_append.mp hx with hx | hx
    · exact ⟨(hsaid hx).1, (hsaid hx).2.2⟩
    · obtain rfl := List.mem_singleton.mp hx
      exact ⟨rfl, rfl, rfl⟩
  · have hzero : (after.map fun entry => Event.sink (.said entry)).countP Event.isClosing = 0 := by
      rw [List.countP_eq_zero]
      intro x hx
      rw [(hsaid hx).2.2.1]
      exact Bool.false_ne_true
    rw [List.countP_append, hzero]
    cases w.pool.isNone <;> rfl
  · rcases List.mem_append.mp hx with hx | hx
    · unfold closings at hx
      split at hx
      · obtain rfl := List.mem_singleton.mp hx
        exact ⟨rfl, rfl, rfl⟩
      · exact (List.not_mem_nil hx).elim
    · exact ⟨(hsaid hx).1, (hsaid hx).2.1, (hsaid hx).2.2.2⟩

/-! ### The metric client and the loggers -/

/-- An emitter given to a client that holds none is held. -/
theorem adoptEmitter_held (w : Surroundings) (e : Emitter) {s : Session}
    (hheld : s.client.held = none) :
    ∃ s' entry, adoptEmitter w e s = (s', .ok ())
      ∧ s'.journal = .sink (.said entry) :: s.journal ∧ s'.client.held = some emitterName := by
  unfold adoptEmitter Session.onClient MetricClient.adopt MetricClient.introduce
  dsimp only
  rw [hheld]
  dsimp only
  obtain ⟨hj, hc⟩ := noted_noteAll w.stamp
    ({ s with client :=
        { emitters := Entries.put emitterName e s.client.emitters
          held := some emitterName } } : Session)
    [.sink (.said _)]
  exact ⟨_, _, rfl, hj, congrArg MetricClient.held hc⟩

/-- A client whose emitter is closed already lets it go, and nothing happens. -/
theorem reset_closed {c : MetricClient} {name : String} {e : Emitter} (hheld : c.held = some name)
    (he : Entries.get? name c.emitters = some e) (hclosed : e.health.closed = true) :
    c.reset = ({ c with
      emitters := Entries.put name e.clear c.emitters
      held := none }, .ok ()) := by
  have hshut : Emitter.shutdown { e with journal := [] } = (e.clear, .ok ()) :=
    Emitter.shutdown_closed hclosed
  have hcall : c.onEmitter name Emitter.shutdown =
      ({ c with emitters := Entries.put name e.clear c.emitters }, .ok ()) := by
    unfold MetricClient.onEmitter
    rw [he, Option.getD_some]
    dsimp only
    rw [hshut]
    rfl
  unfold MetricClient.reset
  rw [hheld]
  dsimp only
  rw [hcall]

/-- **The end of a run**, whose emitter is closed: the client lets it go, and the loggers are shut
down. -/
theorem leave_released {α : Type} (w : Surroundings) {s : Session} {e : Emitter}
    (hheld : s.client.held = some emitterName)
    (he : Entries.get? emitterName s.client.emitters = some e) (hclosed : e.health.closed = true)
    (r : Except Fault α) :
    ∃ s' entry, leave w s r = (s', endingOf r) ∧ s'.journal = .sink (.said entry) :: s.journal
      ∧ s'.client.held = none ∧ Entries.get? emitterName s'.client.emitters = some e.clear
      ∧ s'.logging.ownCount = 0 := by
  have hreset : ({ s.client with journal := [] } : MetricClient).reset = _ :=
    reset_closed hheld he hclosed
  unfold leave Session.onClient
  rw [hreset]
  dsimp only
  obtain ⟨entry, hj, hc⟩ := noted_say w.stamp
    ({ s with client :=
        { emitters := Entries.put emitterName e.clear s.client.emitters } } : Session)
    .info "syncwatch.exited" []
  refine ⟨_, entry, rfl, hj, congrArg MetricClient.held hc, ?_, Log.Logging.ownCount_shutdown _⟩
  exact (congrArg (fun c => Entries.get? emitterName c.emitters) hc).trans
    (Entries.get?_put_self (beq_self_eq_true _) _ _)

/-! ### The commands -/

/-- What a command leaves whose emitter was there: its events since then release all it took, no emitter
is held, and none of the handlers on the root logger is our own. -/
structure Cleared (w : Surroundings) (c : Config) (e : Emitter) (calls : List Call)
    (s s' : Session) : Prop where
  events : ∃ evs, s'.journal = evs.reverse ++ s.journal ∧ Released w c e calls evs
  held : s'.client.held = none
  handlers : s'.logging.ownCount = 0

section Commands

variable (w : Surroundings) (c : Config) {s s₁ : Session} {e : Emitter}

/-- **A run whose emitter is there** releases all it took and lets the emitter go. -/
theorem run_releases (hstart : start w c s = (s₁, .ok e)) (hheld : s₁.client.held = none)
    (hcalm : e.Calm) (hopen : e.health.closed = false) :
    ∃ s' ending calls, run w c s = (s', ending) ∧ Cleared w c e calls s₁ s'
      ∧ Entries.get? emitterName s'.client.emitters = some (e.run calls).clear := by
  obtain ⟨s₂, adopted, hadopt, hj₂, hheld₂⟩ := adoptEmitter_held w e hheld
  obtain ⟨s₃, e', r, calls, evs, hwork, hn, hcourse, he', hclosed⟩ :=
    withReporter_noted w c hcalm (fun r => Reporter.run_used r w.sleeps) s₂
  -- the work closed the emitter, so its third shutdown, in the reset of the client, does nothing
  obtain ⟨s₄, exited, hleave, hj₄, hheld₄, hemitter, hown⟩ :=
    leave_released w (s := { s₃ with client := s₃.client.introduce emitterName e' })
      ((congrArg MetricClient.held hn.client).trans hheld₂)
      (Entries.get?_put_self (beq_self_eq_true _) _ _) hclosed r
  have hend : (e.run calls).health.closed = true :=
    (congrArg (fun e : Emitter => e.health.closed) he').symm.trans hclosed
  have hreleased := hcourse.released (around_work w c [adopted] [exited]) hopen hend
  refine ⟨s₄, endingOf r, calls, ?_, ⟨⟨_, ?_, hreleased⟩, hheld₄, hown⟩, hemitter.trans (by rw [he'])⟩
  · unfold run
    rw [hstart]
    dsimp only
    rw [hadopt]
    dsimp only
    rw [hwork]
    exact hleave
  · rw [hj₄, hn.journal, hj₂]
    simp

/-- **A single tick whose emitter is there** releases all it took. -/
theorem once_releases (hstart : start w c s = (s₁, .ok e)) (hheld : s₁.client.held = none)
    (hcalm : e.Calm) (hopen : e.health.closed = false) :
    ∃ s' ending calls, once w c s = (s', ending) ∧ Cleared w c e calls s₁ s'
      ∧ (withReporter w c e (Reporter.tick false) s₁).2.1.clear = (e.run calls).clear := by
  obtain ⟨s₂, e', r, calls, evs, hwork, hn, hcourse, he', hclosed⟩ :=
    withReporter_noted w c hcalm (Reporter.tick_used false) s₁
  have hend : (e.run calls).health.closed = true :=
    (congrArg (fun e : Emitter => e.health.closed) he').symm.trans hclosed
  have hreleased := hcourse.released (around_work w c [] []) hopen hend
  simp only [List.map_nil, List.append_nil, List.nil_append] at hreleased
  have hcleared : ∀ s' : Session, s'.journal = s₂.journal → s'.client = s₂.client →
      s'.logging = s₂.logging.shutdown → Cleared w c e calls s₁ s' := by
    intro s' hj hc hl
    refine ⟨⟨_, hj.trans hn.journal, hreleased⟩, ?_, hl ▸ Log.Logging.ownCount_shutdown _⟩
    rw [hc, hn.client, hheld]
  unfold once
  rw [hstart]
  dsimp only
  rw [hwork]
  cases r with
  | error f => exact ⟨_, _, calls, rfl, hcleared _ rfl rfl rfl, he'⟩
  | ok t => exact ⟨_, _, calls, rfl, hcleared _ rfl rfl rfl, he'⟩

end Commands

/-- The settings of a command. -/
def settings (w : Surroundings) : Command → Except SettingFault Config
  | .run sink cadence => loadConfig w.environment sink cadence
  | .once sink        => loadConfig w.environment sink none
  | .config           => loadConfig w.environment none none

/-- What becomes of the emitter of a command that reports: a run leaves it among the emitters of the
process, and that of a single tick is what its work on the pool gives back. -/
def emitterAfter (w : Surroundings) (c : Config) (e : Emitter) (s s' : Session) :
    Command → Option Emitter
  | .run ..  => Entries.get? emitterName s'.client.emitters
  | .once _  => some (withReporter w c e (Reporter.tick false) s).2.1
  | .config  => none

/-- How a command that reports ends, and what it leaves. -/
inductive Outcome (w : Surroundings) (s : Session) (command : Command) : Session × Ending → Prop
  /-- Its settings are refused, and nothing else has happened. -/
  | refused {f : SettingFault} {s' : Session} (h : settings w command = .error f)
      (hn : Noted [] s s') : Outcome w s command (s', .exit settingExit)
  /-- Its loggers or its emitter are refused, and all that has happened is about the sink. -/
  | unstarted {c : Config} {s' : Session} {ending : Ending} {evs : List Event}
      (h : settings w command = .ok c) (hu : Unstarted w c s ending) (hn : Noted evs s s')
      (hevs : ∀ ev ∈ evs, ev.isSink = true) : Outcome w s command (s', ending)
  /-- Its emitter was there, and all it took has been released. -/
  | reported {c : Config} {e e' : Emitter} {s₁ s' : Session} {ending : Ending} {evs : List Event}
      {calls : List Call} (h : settings w command = .ok c) (hstart : start w c s = (s₁, .ok e))
      (hn : Noted evs s s₁) (hevs : ∀ ev ∈ evs, ev.isSink = true)
      (hcleared : Cleared w c e calls s₁ s') (hafter : emitterAfter w c e s₁ s' command = some e')
      (hemitter : e'.clear = (e.run calls).clear) : Outcome w s command (s', ending)

/-- The commands that report, once their settings are accepted. -/
theorem execute_reporting (w : Surroundings) (s : Session) {command : Command}
    (h : command ≠ .config) :
    execute w s command =
      match settings w command with
      | .error f => refuse s f.message settingExit
      | .ok c    => match command with
        | .run .. => run w c s
        | _       => once w c s := by
  cases command with
  | run sink cadence => rfl
  | once sink => rfl
  | config => exact absurd rfl h

/-- **A command that reports releases what it took, on every path**, if no emitter is held when it
begins. -/
theorem resources_released (w : Surroundings) (s : Session) (hheld : s.client.held = none)
    (command : Command) (hcommand : command ≠ .config) :
    Outcome w s command (execute w s command) := by
  rw [execute_reporting w s hcommand]
  cases hsettings : settings w command with
  | error f => exact .refused hsettings (.quiet rfl rfl)
  | ok c =>
      dsimp only
      rcases start_cases w c s with ⟨s₁, e, evs, hstart, hopened, hn, hevs⟩
        | ⟨s₁, ending, evs, hstart, hn, hevs, hu⟩
      · -- a sink that a configuration opens plays no script, so no shutdown of it raises
        obtain ⟨o, k, rfl, hk⟩ := Emitter.of_ofConfig hopened
        have hcalm : (Emitter.ofSink o k).Calm := Emitter.calm_of_name hk
        have hheld₁ : s₁.client.held = none := (congrArg MetricClient.held hn.client).trans hheld
        cases command with
        | run sink cadence =>
            obtain ⟨s', ending, calls, hrun, hcleared, hemitter⟩ :=
              run_releases w c hstart hheld₁ hcalm rfl
            dsimp only
            rw [hrun]
            exact .reported hsettings hstart hn hevs hcleared hemitter rfl
        | once sink =>
            obtain ⟨s', ending, calls, honce, hcleared, hemitter⟩ :=
              once_releases w c hstart hheld₁ hcalm rfl
            dsimp only
            rw [honce]
            exact .reported hsettings hstart hn hevs hcleared rfl hemitter
        | config => exact absurd rfl hcommand
      · have hout : Outcome w s command (s₁, ending) := .unstarted hsettings hu hn hevs
        cases command with
        | run sink cadence =>
            show Outcome w s _ (run w c s)
            unfold run
            rw [hstart]
            exact hout
        | once sink =>
            show Outcome w s _ (once w c s)
            unfold once
            rw [hstart]
            exact hout
        | config => exact absurd rfl hcommand

/-- Surroundings in which every query takes a second and fails, and the pool cannot be closed. -/
def brokenPool : Surroundings where
  environment := [("SYNCWATCH_SINK", "none")]
  playbook := fun _ => .always { takes := .int 1, sent := .error (.outside .database none) }
  poolClosing := some (.outside .connectionReset none)
  now := ⟨0⟩
  clock := .int 0
  sleeps := 2
  defaultLogPath := "/var/log/fleet.jsonl"
  stamp := "now"
  sinks := { provider := .periodic }
  nesting := 985

/-- A run among them gets as far as its emitter, and all it took is released. -/
theorem resources_released_of_broken_pool :
    ({ storage := { root := "/var/log" } } : Session).client.held = none
      ∧ Command.run none none ≠ .config
      ∧ ∃ c e s₁ s' ending calls,
        execute brokenPool { storage := { root := "/var/log" } } (.run none none) = (s', ending)
          ∧ start brokenPool c { storage := { root := "/var/log" } } = (s₁, .ok e)
          ∧ Cleared brokenPool c e calls s₁ s' := by
  have hok : ((settings brokenPool (.run none none)).toOption.any fun c =>
      (Log.openAndSetUp {} { root := "/var/log" } brokenPool.defaultLogPath (.ofConfig c)).2.2.isOk
        && (Emitter.ofConfig c brokenPool.sinks).2.isOk) = true := by
    decide +kernel
  refine ⟨rfl, nofun, ?_⟩
  have hout := resources_released brokenPool { storage := { root := "/var/log" } } rfl
    (.run none none) nofun
  generalize hx : execute brokenPool _ _ = x at hout
  cases hout with
  | refused h _ =>
      rw [h] at hok
      cases hok
  | unstarted h hu _ _ =>
      rw [h] at hok
      obtain ⟨hlog, hemitter⟩ := Bool.and_eq_true_iff.mp hok
      cases hu with
      | logging hf =>
          rw [hf] at hlog
          cases hlog
      | emitter hf =>
          rw [hf] at hemitter
          cases hemitter
  | reported _ hstart _ _ hcleared _ _ => exact ⟨_, _, _, _, _, _, rfl, hstart, hcleared⟩

end FleetHealth.CommandLine
