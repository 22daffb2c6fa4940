import FleetHealth.Proofs.Reporter.Act
import FleetHealth.Proofs.Reporter.Faultless
import FleetHealth.Proofs.Repository.Baseline

/-!
# Proofs — Reporter — Success

What a tick has reported of an indicator that it does not name as failed.  Nothing is assumed of the emitter: a turn that the report does not count as failed has contributed a sample for each of its points (`turn_contributes`), and in a tick that is not interrupted every binding has its turn (`walk_contributes`).

* `hear_answer`: what a binding hears, when it hears an answer, is what its source makes of its own script.
* `tick_samples`: so the samples of its metric are the points of that answer, in order.
* `zero_baselines`: an operation by key reports one sample for each name of its baseline and of its rows, and a known name that is in no row is reported as zero.
-/

namespace FleetHealth

open Reporter

namespace Reporter

variable {τ : Type} [TimeScale τ]

/-! ### What the turns contribute -/

/-- The samples of a metric among those that the turns of bindings add: those of its own binding, where
that did not fail. -/
structure Blocks (heard : List Heard) (failed : List String) (samples : List Sample) : Prop where
  metric : ∀ s ∈ samples, s.metric ∈ heard.map fun h => h.binding.metric
  block : (heard.map fun h => h.binding.metric).Nodup → ∀ h ∈ heard, h.name ∉ failed →
    ∃ a ps, h.answer = .ok a ∧ h.binding.shape.points a = .ok ps
      ∧ samples.filter (fun s => s.metric = h.binding.metric) = ps.map h.binding.metric.sample

theorem filter_metric_nil {samples : List Sample} {m : Metric} (h : ∀ s ∈ samples, s.metric ≠ m) :
    samples.filter (fun s => s.metric = m) = [] := by
  rw [List.filter_eq_nil_iff]
  exact fun s hs heq => h s hs (of_decide_eq_true heq)

theorem filter_metric_self {samples : List Sample} {m : Metric} (h : ∀ s ∈ samples, s.metric = m) :
    samples.filter (fun s => s.metric = m) = samples :=
  List.filter_eq_self.mpr fun s hs => decide_eq_true (h s hs)

/-- One more turn before others. -/
theorem Blocks.cons {h : Heard} {heard : List Heard} {failed fs : List String}
    {samples ss : List Sample} (hc : Contributes h fs ss) (hb : Blocks heard failed samples) :
    Blocks (h :: heard) (fs ++ failed) (ss ++ samples) where
  metric s hs := by
    rcases List.mem_append.mp hs with hs | hs
    · exact List.mem_cons.mpr (.inl (hc.metric s hs))
    · exact List.mem_cons_of_mem _ (hb.metric s hs)
  block hn x hx hname := by
    rw [List.map_cons, List.nodup_cons] at hn
    rw [List.mem_append, not_or] at hname
    rw [List.filter_append]
    rcases List.mem_cons.mp hx with rfl | hx
    · have hnone : fs = [] := by
        rw [List.eq_nil_iff_forall_not_mem]
        exact fun n hmem => hname.1 (hc.name n hmem ▸ hmem)
      obtain ⟨a, ps, ha, hps, rfl⟩ := hc.points hnone
      refine ⟨a, ps, ha, hps, ?_⟩
      rw [filter_metric_self hc.metric, filter_metric_nil, List.append_nil]
      exact fun s hs heq => hn.1 (heq ▸ hb.metric s hs)
    · obtain ⟨a, ps, ha, hps, hblock⟩ := hb.block hn.2 x hx hname.2
      refine ⟨a, ps, ha, hps, ?_⟩
      rw [filter_metric_nil, List.nil_append, hblock]
      intro s hs heq
      have hown : h.binding.metric = x.binding.metric := (hc.metric s hs).symm.trans heq
      exact hn.1 (hown ▸ List.mem_map_of_mem (f := fun h => h.binding.metric) hx)

/-- **What the turns of bindings contribute**, when they are gone through to the end and not interrupted:
every binding has its turn.  The induction is on the bindings, and a turn leaves alone what the next ones
hear. -/
theorem walk_contributes (heeds : Bool) (bs : List Binding) {r r' : Reporter τ}
    {report report' : TickReport τ} (h : walk heeds bs r report = (r', report', none))
    (hi : report'.interrupted = false) :
    (hear heeds bs r).map Heard.binding = bs
      ∧ ∃ failed samples, report' = report.plus failed samples
        ∧ Blocks (hear heeds bs r) failed samples := by
  induction bs generalizing r report with
  | nil =>
      cases h
      exact ⟨rfl, [], [], (TickReport.plus_nil _).symm, List.forall_mem_nil _, fun _ _ hx => nomatch hx⟩
  | cons b bs ih =>
      by_cases hstop : (heeds && r.stopRequested) = true
      · rw [walk, if_pos hstop] at h
        cases h
        cases hi
      · rw [walk, if_neg hstop, visit_eq] at h
        rw [hear_cons hstop]
        generalize (r.enter .tick).ask b.operation = asked at h ⊢
        obtain ⟨r₁, answer⟩ := asked
        obtain ⟨fs, ss, hreport, hc⟩ := turn_contributes ⟨b, answer⟩ r₁ report
        have hear₁ := turn_ear ⟨b, answer⟩ r₁ report
        cases hturn : turn ⟨b, answer⟩ r₁ report with
        | mk r₂ rest =>
            obtain ⟨report₂, escaped⟩ := rest
            rw [hturn] at h hear₁ hreport
            cases escaped with
            | some f => cases h
            | none =>
                obtain ⟨hall, failed, samples, hrest, hb⟩ := ih h
                rw [hear_congr heeds bs hear₁] at hall hb
                obtain rfl : report₂ = report.plus fs ss := hreport
                refine ⟨congrArg (b :: ·) hall, fs ++ failed, ss ++ samples, ?_, .cons hc hb⟩
                rw [hrest, TickReport.plus_plus]

/-- **What a tick reports of a binding that did not fail**, when it was not interrupted. -/
theorem tick_contributes {heeds : Bool} {r r' : Reporter τ} {report : TickReport τ}
    (h : r.tick heeds = (r', .ok report)) (hi : report.interrupted = false) :
    (hear heeds r.bindings r).map Heard.binding = r.bindings
      ∧ Blocks (hear heeds r.bindings r) report.failed report.samples := by
  have hear₀ : SameEar r (r.note (.began r.clock)) := ⟨rfl, rfl, rfl, rfl, rfl⟩
  revert h
  refine tick_cases (P := fun out => out = (r', .ok report) → _) heeds r ?refused ?crashed ?completed
  case refused => exact fun _ _ _ _ _ _ h => nomatch h
  case crashed => exact fun _ _ _ _ _ h => nomatch h
  case completed =>
    rintro r₁ walked report' hwalk - rfl h
    cases h
    obtain ⟨hall, failed, samples, hreport, hb⟩ := walk_contributes heeds r.bindings hwalk hi
    rw [hear_congr heeds r.bindings hear₀] at hall hb
    refine ⟨hall, ?_⟩
    rw [hreport]
    exact hb

/-! ### What is heard -/

/-- Asking leaves the scripts of all other operations alone. -/
theorem ask_others (r : Reporter τ) {o o' : Operation} (hne : o' ≠ o) :
    ((r.ask o).1.playbook.next o').1 = (r.playbook.next o').1 := by
  have hasking : ((r.asking o).playbook.next o').1 = (r.playbook.next o').1 := by
    rw [asking_playbook]
    simp only [Playbook.next, hne, if_false]
  refine ask_cases (P := fun p => (p.1.playbook.next o').1 = _) r o (fun _ => rfl)
    (fun _ => hasking) (fun _ => ?_)
  rw [tell_playbook]
  exact hasking

/-- An answer is what the source makes of what is sent. -/
theorem ask_answer {r : Reporter τ} {o : Operation} {a : Aggregate} (h : (r.ask o).2 = .ok a) :
    r.source.answer o (r.playbook.next o).1.sent = .ok a := by
  revert h
  refine ask_cases (P := fun p => p.2 = .ok a → _) r o (fun _ => nofun) (fun _ => nofun)
    (fun _ h => ?_)
  rw [← (Kept.asking r o).source]
  exact h

/-- **An answer that is heard** is what the source makes of what is sent to its operation, when every
operation is asked once. -/
theorem hear_answer {heeds : Bool} {bs : List Binding} {r : Reporter τ}
    (hn : (bs.map Binding.operation).Nodup) {h : Heard} (hh : h ∈ hear heeds bs r) {a : Aggregate}
    (ha : h.answer = .ok a) :
    r.source.answer h.binding.operation (r.playbook.next h.binding.operation).1.sent = .ok a := by
  induction bs generalizing r with
  | nil => exact (List.not_mem_nil hh).elim
  | cons b bs ih =>
      rw [List.map_cons, List.nodup_cons] at hn
      by_cases hstop : (heeds && r.stopRequested) = true
      · rw [hear_stopped hstop] at hh
        exact (List.not_mem_nil hh).elim
      · have hsource := (ask_keeps (r.enter .tick) b.operation).source
        rw [hear_cons hstop] at hh
        rcases List.mem_cons.mp hh with rfl | hh
        · exact ask_answer (r := r.enter .tick) ha
        · -- the operation of a later binding is another one, so its script is as it was
          have hmem : h.binding.operation ∈ bs.map Binding.operation := by
            refine List.mem_map_of_mem
              ((hear_isPrefix heeds bs ((r.enter .tick).ask b.operation).1).subset ?_)
            exact List.mem_map_of_mem hh
          have hne : h.binding.operation ≠ b.operation := fun heq => hn.1 (heq ▸ hmem)
          have hlater := ih hn.2 hh
          rw [hsource, ask_others _ hne] at hlater
          exact hlater

/-- **The samples of a binding that did not fail** are the points of the answer to its operation. -/
theorem tick_samples {heeds : Bool} {r r' : Reporter τ} {report : TickReport τ}
    (h : r.tick heeds = (r', .ok report)) (hi : report.interrupted = false)
    (ho : (r.bindings.map Binding.operation).Nodup) (hm : (r.bindings.map Binding.metric).Nodup)
    {b : Binding} (hb : b ∈ r.bindings) (hname : b.metric.name ∉ report.failed) :
    ∃ a ps, r.source.answer b.operation (r.playbook.next b.operation).1.sent = .ok a
      ∧ b.shape.points a = .ok ps ∧ report.samplesOf b.metric = ps.map b.metric.sample := by
  obtain ⟨hall, hblocks⟩ := tick_contributes h hi
  rw [← hall] at hb
  obtain ⟨turn, hturn, rfl⟩ := List.mem_map.mp hb
  have hmetrics : ((hear heeds r.bindings r).map fun h => h.binding.metric).Nodup := by
    rw [← hall, List.map_map] at hm
    exact hm
  obtain ⟨a, ps, ha, hps, hblock⟩ := hblocks.block hmetrics turn hturn hname
  exact ⟨a, ps, hear_answer ho hturn ha, hps, hblock⟩

omit [TimeScale τ] in
theorem Act.setup {r r' : Reporter τ} (h : Act r r') :
    r'.source = r.source ∧ r'.bindings = r.bindings := by
  cases h with
  | told stop => exact ⟨(Kept.tell r stop).source, (Kept.tell r stop).bindings⟩
  | _ => exact ⟨rfl, rfl⟩

/-- A tick leaves the source and the bindings alone. -/
theorem tick_setup {heeds : Bool} {r r' : Reporter τ} {report : TickReport τ}
    (h : r.tick heeds = (r', .ok report)) : r'.source = r.source ∧ r'.bindings = r.bindings := by
  revert h
  refine tick_cases (P := fun out => out = (r', .ok report) →
    r'.source = r.source ∧ r'.bindings = r.bindings) heeds r ?refused ?crashed ?completed
  case refused => exact fun _ _ _ _ _ _ h => nomatch h
  case crashed => exact fun _ _ _ _ _ h => nomatch h
  case completed =>
    rintro r₁ walked report' hwalk - rfl h
    have hacts := walk_acts heeds r.bindings (r.note (.began r.clock)) .empty
    rw [hwalk] at hacts
    have hkept := hacts.lift (Q := fun r₁ r₂ => r₂.source = r₁.source ∧ r₂.bindings = r₁.bindings)
      (fun _ => ⟨rfl, rfl⟩) (fun h k => ⟨k.1.trans h.1, k.2.trans h.2⟩) Act.setup
    have hsaid := sayCompleted_keeps r₁.flushing.counted
      { walked with duration := r₁.flushing.clock - r.clock }
    cases h
    exact ⟨hsaid.source.trans hkept.1, hsaid.bindings.trans hkept.2⟩

/-! ### Zero baselines -/

/-- A tick is completed without interruption, and does not name the indicator of a binding as failed. -/
structure Succeeds (b : Binding) (heeds : Bool) (r r' : Reporter τ) (report : TickReport τ) : Prop where
  tick : r.tick heeds = (r', .ok report)
  whole : report.interrupted = false
  reported : b.metric.name ∉ report.failed

/-- The sample of a name in an answer by key. -/
def sampleOf (b : Binding) (dim : String) (readings : List Reading) (n : String) : Sample :=
  ⟨b.metric, .float (b.operation.latest readings n).level, dimsOf [(dim, n)]⟩

/-- The samples of a binding by key, when its indicator did not fail. -/
theorem samples_of_readings {repository : Repository} {now : Instant} {b : Binding} {dim : String}
    (hb : b ∈ Binding.defaults) (hshape : b.shape = .keyed dim) {readings : List Reading}
    {rows : List Datum} (hrows : List.Forall₂ b.operation.Reads readings rows) {heeds : Bool}
    {r r' : Reporter τ} {report : TickReport τ} (hsource : r.source = .database repository now)
    (hbindings : r.bindings = Binding.defaults)
    (hsent : (r.playbook.next b.operation).1.sent = .ok (.list rows))
    (h : Succeeds b heeds r r' report) :
    report.samplesOf b.metric =
      (repository.names b.operation readings).map (sampleOf b dim readings) := by
  have ho := Operation.byKey_of_default hb hshape
  obtain ⟨hn, hm⟩ := defaults_nodup
  rw [← hbindings] at hb hn hm
  obtain ⟨a, ps, ha, hps, hsamples⟩ := tick_samples h.tick h.whole hn hm hb h.reported
  have hanswer : r.source.answer b.operation (r.playbook.next b.operation).1.sent =
      .ok (.keyed ((repository.names b.operation readings).map fun n =>
        (.text n, b.operation.latest readings n))) := by
    rw [hsource, hsent]
    exact Repository.answer_readings now ho hrows
  obtain rfl := Except.ok.inj (hanswer.symm.trans ha)
  rw [hshape, points_readings _ (level_latest ho hrows)] at hps
  obtain rfl := Except.ok.inj hps
  rw [hsamples, List.map_map]
  rfl

/-- **Zero baselines.**  An operation by key answers with a value for every name of its baseline, in
order, and then for every other name of its rows, in order of first appearance, each once: that of the
last row of the name, or zero when there is none.  A tick that succeeds for its binding has exactly one
sample for each of these names, in that order.  So whatever was reported of a known name in one tick, it
is reported as zero in the next one that succeeds when no row has it. -/
theorem zero_baselines (repository : Repository) {b : Binding} {dim : String}
    (hb : b ∈ Binding.defaults) (hshape : b.shape = .keyed dim) {readings : List Reading}
    {rows : List Datum} (hrows : List.Forall₂ b.operation.Reads readings rows) :
    (∀ now, repository.answer now b.operation (.ok (.list rows)) =
        .ok (.keyed ((repository.names b.operation readings).map fun n =>
          (.text n, b.operation.latest readings n))))
      ∧ (repository.names b.operation readings).Nodup
      ∧ (∀ (now : Instant) (heeds : Bool) (r r' : Reporter τ) (report : TickReport τ),
        r.source = .database repository now → r.bindings = Binding.defaults →
        (r.playbook.next b.operation).1.sent = .ok (.list rows) → Succeeds b heeds r r' report →
        report.samplesOf b.metric =
          (repository.names b.operation readings).map (sampleOf b dim readings))
      ∧ ∀ (now : Instant) (heeds heeds' : Bool) (r r₁ r₂ r₃ : Reporter τ) (report report' : TickReport τ),
        r.source = .database repository now → r.bindings = Binding.defaults →
        Succeeds b heeds r r₁ report → r₂.source = r₁.source → r₂.bindings = r₁.bindings →
        (r₂.playbook.next b.operation).1.sent = .ok (.list rows) → Succeeds b heeds' r₂ r₃ report' →
        ∀ n ∈ repository.baseline b.operation, n ∉ readings.map Reading.name →
          ⟨b.metric, .float .zero, dimsOf [(dim, n)]⟩ ∈ report'.samples
            ∧ ∀ s ∈ report'.samplesOf b.metric, s.dims = dimsOf [(dim, n)] →
              s.value = .float .zero := by
  have ho := Operation.byKey_of_default hb hshape
  refine ⟨fun now => Repository.answer_readings now ho hrows, Repository.names_nodup _ _ _,
    fun now heeds r r' report hsource hbindings hsent h =>
      samples_of_readings hb hshape hrows hsource hbindings hsent h, ?_⟩
  intro now heeds heeds' r r₁ r₂ r₃ report report' hsource hbindings hfirst hsource₂ hbindings₂ hsent
    hsecond n hn habsent
  obtain ⟨hs, hbs⟩ := tick_setup hfirst.tick
  have hsamples := samples_of_readings hb hshape hrows (hsource₂.trans (hs.trans hsource))
    (hbindings₂.trans (hbs.trans hbindings)) hsent hsecond
  have hzero : sampleOf b dim readings n = ⟨b.metric, .float .zero, dimsOf [(dim, n)]⟩ := by
    rw [sampleOf, latest_of_not_mem habsent, level_zero ho]
  have hmem : n ∈ repository.names b.operation readings := List.mem_append_left _ hn
  refine ⟨?_, fun s hs hdims => ?_⟩
  · have hsample : sampleOf b dim readings n ∈ report'.samplesOf b.metric := by
      rw [hsamples]
      exact List.mem_map_of_mem hmem
    rw [hzero] at hsample
    exact List.mem_of_mem_filter hsample
  · rw [hsamples] at hs
    obtain ⟨m, -, rfl⟩ := List.mem_map.mp hs
    obtain rfl : m = n := by
      have hfields := Datum.record.inj hdims
      simpa using hfields
    rw [hzero]

/-- The answers to a fleet in which no job is running. -/
def quietAnswers : Operation → Datum
  | .runningJobsByQueue => .list []
  | o                   => fleetAnswers o

/-- The reporter of the fleet when no job is running. -/
def quietReporter : Reporter Rat :=
  { fleetReporter with playbook := fun o => .always { takes := 1, sent := .ok (quietAnswers o) } }

/-- Whether a tick is completed without interruption and names no indicator as failed. -/
def isFaultless : Except Fault (TickReport τ) → Bool
  | .ok report => !report.interrupted && report.failed.isEmpty
  | .error _   => false

theorem succeeds_of_faultless (b : Binding) {heeds : Bool} {r : Reporter τ}
    (h : isFaultless (r.tick heeds).2 = true) : ∃ r' report, Succeeds b heeds r r' report := by
  cases htick : r.tick heeds with
  | mk r' out =>
      rw [htick] at h
      cases out with
      | error f => cases h
      | ok report =>
          rw [isFaultless, Bool.and_eq_true, Bool.not_eq_true', List.isEmpty_iff] at h
          refine ⟨r', report, htick, h.1, ?_⟩
          rw [h.2]
          exact List.not_mem_nil

/-- The binding of the running jobs. -/
def runningJobs : Binding := ⟨.jobRunningByQueue, .runningJobsByQueue, .keyed "queue"⟩

/-- What the rows of the small fleet say of its running jobs. -/
def fleetReadings : List Reading := [⟨"BULK", .int 2⟩, ⟨"null", .int 1⟩]

theorem fleet_reads :
    ∃ rows, fleetAnswers .runningJobsByQueue = .list rows
      ∧ List.Forall₂ (Operation.Reads .runningJobsByQueue) fleetReadings rows :=
  ⟨_, rfl, .cons ⟨⟨some "BULK", rfl, rfl⟩, .int 2, 2, rfl, rfl, by decide, rfl⟩
    (.cons ⟨⟨none, rfl, rfl⟩, .int 1, 1, rfl, rfl, by decide, rfl⟩ .nil)⟩

/-- One job without a queue runs in one tick of the small fleet and none in the next. -/
theorem baselines_of_two_ticks :
    runningJobs ∈ Binding.defaults
      ∧ ∃ r₁ r₂ report report', Succeeds runningJobs false fleetReporter r₁ report
        ∧ Succeeds runningJobs false quietReporter r₂ report'
        ∧ report.samplesOf .jobRunningByQueue =
          [("SYNC", 0), ("AWS_PARIS_SYNC", 0), ("null", 1), ("BULK", 2)].map (fun s =>
            (⟨.jobRunningByQueue, .float (.ofInt s.2), dimsOf [("queue", s.1)]⟩ : Sample))
        ∧ ⟨.jobRunningByQueue, .float .zero, dimsOf [("queue", "null")]⟩ ∈ report'.samples := by
  have hb : runningJobs ∈ Binding.defaults := List.mem_cons_self
  obtain ⟨rows, hsent, hrows⟩ := fleet_reads
  have hnone : List.Forall₂ runningJobs.operation.Reads [] [] := .nil
  have hfleet : isFaultless (fleetReporter.tick false).2 = true := by decide +kernel
  have hquiet : isFaultless (quietReporter.tick false).2 = true := by decide +kernel
  obtain ⟨r₁, report, hfirst⟩ := succeeds_of_faultless runningJobs hfleet
  obtain ⟨r₂, report', hsecond⟩ := succeeds_of_faultless runningJobs hquiet
  obtain ⟨hs, hbs⟩ := tick_setup hfirst.tick
  obtain ⟨-, -, hsamples, -⟩ := zero_baselines (τ := Rat) { nesting := 985 } hb rfl hrows
  obtain ⟨-, -, -, hzero⟩ := zero_baselines (τ := Rat) { nesting := 985 } hb rfl hnone
  refine ⟨hb, r₁, r₂, report, report', hfirst, hsecond, ?_, ?_⟩
  · exact hsamples ⟨0⟩ false fleetReporter r₁ report rfl rfl (congrArg Except.ok hsent) hfirst
  · exact (hzero ⟨0⟩ false false fleetReporter r₁ quietReporter r₂ report report' rfl rfl hfirst
      hs.symm hbs.symm rfl hsecond "null" (by decide +kernel) List.not_mem_nil).1

end Reporter
end FleetHealth
