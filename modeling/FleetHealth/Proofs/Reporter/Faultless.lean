import Mathlib.Data.List.Basic
import Mathlib.Data.List.TakeWhile
import FleetHealth.Proofs.Reporter.Independence
import FleetHealth.Proofs.Repository.Feed

/-!
# Proofs — Reporter — Faultless

A tick of the default bindings fails no indicator, when the database answers every query in time and with the columns that were asked for.  What is put together here was proved in parts: the repository reads every typed row, the shapes make points that fit the catalog, the gate lets them through, and a tick reports what it hears, whatever becomes of its sink.

* `Prompt`: every query is answered, and before the deadline.
* `hear_prompt`: then every binding hears the answer to its own operation.
* `tick_of_typed`: nothing failed and nothing is missing.  The samples come in blocks, in the order of the catalog; each has the dimensions of its schema; and those of a metric of one dimension are one for each name that is known or observed.
-/

namespace FleetHealth

/-- A turn whose points all fit contributes them all. -/
theorem Heard.of_fits {h : Heard} {a : Aggregate} {ps : List Point} (ha : h.answer = .ok a)
    (hp : h.binding.shape.points a = .ok ps) (hf : ∀ p ∈ ps, p.Fits h.binding.metric.dimensions) :
    h.fails = false ∧ h.samples = ps.map h.binding.metric.sample := by
  have hadmits : ∀ p ∈ ps, h.binding.metric.admits p = true := fun p hp => (hf p hp).admits
  have hnone : ps.findSome? h.binding.metric.refusal? = none := by
    rw [List.findSome?_eq_none_iff]
    exact fun p hp => Option.isNone_iff_eq_none.mp (hadmits p hp)
  refine ⟨?_, ?_⟩
  · rw [fails, failure?, ha]
    dsimp only
    rw [hp]
    dsimp only
    rw [hnone]
    rfl
  · have hpoints : h.points = ps := by
      rw [points, ha]
      dsimp only
      rw [hp]
    rw [samples, admitted, hpoints, List.takeWhile_eq_self_iff.mpr hadmits]

/-- A report of turns none of which failed. -/
theorem TickReport.hearing_faultless {τ : Type} [TimeScale τ] {bs : List Binding}
    {heard : Binding → Heard} (h : ∀ b ∈ bs, (heard b).fails = false) :
    (TickReport.empty : TickReport τ).hearing (bs.map heard) bs =
      { TickReport.empty with samples := bs.flatMap fun b => (heard b).samples } := by
  have hnone : (bs.map heard).filter Heard.fails = [] := by
    rw [List.filter_eq_nil_iff]
    intro turn hturn
    obtain ⟨b, hb, rfl⟩ := List.mem_map.mp hturn
    rw [h b hb]
    exact Bool.false_ne_true
  simp [hearing, plus, empty, hnone, List.flatMap_map]

/-! ### Blocks -/

/-- The samples of a metric in a report. -/
def TickReport.samplesOf {τ : Type} (report : TickReport τ) (m : Metric) : List Sample :=
  report.samples.filter fun s => s.metric = m

section Blocks

variable {bs : List Binding} {f : Binding → List Sample}

/-- No binding of another metric contributes samples of a metric. -/
theorem block_eq_nil (hf : ∀ b ∈ bs, ∀ s ∈ f b, s.metric = b.metric) {m : Metric}
    (hm : m ∉ bs.map Binding.metric) : (bs.flatMap f).filter (fun s => s.metric = m) = [] := by
  rw [List.filter_eq_nil_iff]
  intro s hs heq
  obtain ⟨b, hb, hs⟩ := List.mem_flatMap.mp hs
  rw [← of_decide_eq_true heq, hf b hb s hs] at hm
  exact hm (List.mem_map_of_mem hb)

/-- Where every binding has a metric of its own, the samples of a metric are those of its binding. -/
theorem block_eq (hf : ∀ b ∈ bs, ∀ s ∈ f b, s.metric = b.metric)
    (hn : (bs.map Binding.metric).Nodup) {b : Binding} (hb : b ∈ bs) :
    (bs.flatMap f).filter (fun s => s.metric = b.metric) = f b := by
  induction bs with
  | nil => exact (List.not_mem_nil hb).elim
  | cons c bs ih =>
      obtain ⟨hc, hbs⟩ := List.forall_mem_cons.mp hf
      rw [List.map_cons, List.nodup_cons] at hn
      rw [List.flatMap_cons, List.filter_append]
      rcases List.mem_cons.mp hb with rfl | hb
      · have hown : (f b).filter (fun s => s.metric = b.metric) = f b :=
          List.filter_eq_self.mpr fun s hs => decide_eq_true (hc s hs)
        rw [hown, block_eq_nil hbs hn.1, List.append_nil]
      · have hfirst : (f c).filter (fun s => s.metric = b.metric) = [] := by
          rw [List.filter_eq_nil_iff]
          intro s hs heq
          rw [← hc s hs, of_decide_eq_true heq] at hn
          exact hn.1 (List.mem_map_of_mem hb)
        rw [hfirst, List.nil_append]
        exact ih hbs hn.2 hb

/-- All samples, one block for each metric. -/
theorem flatMap_blocks (hf : ∀ b ∈ bs, ∀ s ∈ f b, s.metric = b.metric)
    (hn : (bs.map Binding.metric).Nodup) :
    (bs.map Binding.metric).flatMap (fun m => (bs.flatMap f).filter fun s => s.metric = m) =
      bs.flatMap f := by
  rw [List.flatMap_map]
  exact List.flatMap_congr fun b hb => block_eq hf hn hb

end Blocks

namespace Reporter

variable {τ : Type} [TimeScale τ]

/-- Every query of some operations is answered, and before the deadline, whenever it is started. -/
structure Prompt (r : Reporter τ) (sent : Operation → Datum) (os : List Operation) : Prop where
  patient : TimeScale.notAfter r.deadline 0 = false
  answered : ∀ o ∈ os, (r.playbook.next o).1.sent = .ok (sent o)
  inTime : ∀ o ∈ os, ∀ t : τ,
    TimeScale.before (t + r.deadline) (t + (r.playbook.next o).1.takes) = false

variable {r : Reporter τ} {sent : Operation → Datum} {os : List Operation}

omit [TimeScale τ] in
theorem tell_playbook (r : Reporter τ) (stop : Bool) : (r.tell stop).playbook = r.playbook :=
  tell_cases (P := fun r' => r'.playbook = r.playbook) r stop (fun _ => rfl) (fun _ => rfl)

omit [TimeScale τ] in
/-- A query uses one answer of its own script. -/
theorem asking_playbook (r : Reporter τ) (o : Operation) :
    (r.asking o).playbook = (r.playbook.next o).2 :=
  tell_playbook _ _

/-- A prompt query is answered, and only its own script has been used. -/
theorem Prompt.ask {o : Operation} (h : r.Prompt sent (o :: os)) :
    (r.ask o).2 = r.source.answer o (.ok (sent o))
      ∧ (r.ask o).1.playbook = (r.playbook.next o).2 ∧ (r.ask o).1.source = r.source := by
  have hnow : ¬ TimeScale.notAfter r.deadline 0 = true := by
    rw [h.patient]
    exact Bool.false_ne_true
  have hlate : ¬ TimeScale.before (r.clock + r.deadline) (r.answeredAt o) = true := by
    rw [answeredAt, h.inTime o List.mem_cons_self]
    exact Bool.false_ne_true
  refine ⟨?_, ?_, (ask_keeps r o).source⟩
  · rw [ask_answered hnow hlate]
    dsimp only
    rw [h.answered o List.mem_cons_self, (Kept.asking r o).source]
  · rw [ask_answered hnow hlate]
    exact (tell_playbook _ _).trans (asking_playbook r o)

/-- What the next queries bring does not depend on the one before them. -/
theorem Prompt.after {o : Operation} (h : r.Prompt sent (o :: os)) (ho : o ∉ os) :
    (r.ask o).1.Prompt sent os := by
  have hnext : ∀ o' ∈ os, ((r.ask o).1.playbook.next o').1 = (r.playbook.next o').1 := by
    intro o' ho'
    have hne : o' ≠ o := fun heq => ho (heq ▸ ho')
    rw [h.ask.2.1]
    simp only [Playbook.next, hne, if_false]
  refine ⟨?_, fun o' ho' => ?_, fun o' ho' => ?_⟩
  · rw [(ask_keeps r o).deadline]
    exact h.patient
  · rw [hnext o' ho']
    exact h.answered o' (List.mem_cons_of_mem _ ho')
  · rw [hnext o' ho', (ask_keeps r o).deadline]
    exact h.inTime o' (List.mem_cons_of_mem _ ho')

/-- **Every binding hears the answer to its own operation.** -/
theorem hear_prompt {bs : List Binding} (h : r.Prompt sent (bs.map Binding.operation))
    (hn : (bs.map Binding.operation).Nodup) :
    hear false bs r = bs.map fun b => ⟨b, r.source.answer b.operation (.ok (sent b.operation))⟩ := by
  induction bs generalizing r with
  | nil => rfl
  | cons b bs ih =>
      rw [List.map_cons, List.nodup_cons] at hn
      -- each query has a script of its own, so the first takes nothing from those that follow
      have henter : (r.enter .tick).Prompt sent ((b :: bs).map Binding.operation) :=
        ⟨h.patient, h.answered, h.inTime⟩
      obtain ⟨hanswer, -, hsource⟩ := henter.ask
      have hgo : ¬ (false && r.stopRequested) = true := Bool.false_ne_true
      rw [hear_cons hgo, hanswer, ih (henter.after hn.1) hn.2, hsource]
      rfl

/-! ### The tick -/

theorem defaults_nodup : (Binding.defaults.map Binding.operation).Nodup
    ∧ (Binding.defaults.map Binding.metric).Nodup := by
  decide +kernel

theorem catalog_eq : Metric.catalog = Binding.defaults.map Binding.metric ++ [Metric.sinkErrors] := rfl

theorem mem_all (o : Operation) : o ∈ Operation.all := by
  cases o <;> decide

/-- **A tick of the default bindings fails no indicator** when it may not be interrupted, every query is
answered before the deadline and with typed rows, and the sink raises only what is absorbed.  Its samples
come in blocks in the order of the catalog, with the dimensions of their schemas.  A metric of one
dimension has one sample for each name that is known or observed, in that order, and a metric of a single
value has one sample. -/
theorem tick_of_typed {r : Reporter τ} {repository : Repository} {now : Instant}
    {sent : Operation → Datum} (hsource : r.source = .database repository now)
    (hbindings : r.bindings = Binding.defaults) (hprompt : r.Prompt sent Operation.all)
    (htyped : ∀ o : Operation, o.Typed repository.nesting (sent o)) (hserved : r.Served false) :
    ∃ r' report, r.tick false = (r', .ok report)
      ∧ report.failed = []
      ∧ report.interrupted = false
      ∧ report.samples = Metric.catalog.flatMap report.samplesOf
      ∧ (∀ s ∈ report.samples, ∃ tags, s.dims = dimsOf tags ∧ tags.map Prod.fst = s.metric.dimensions)
      ∧ (∀ b ∈ Binding.defaults, ∀ dim, b.metric.dimensions = [dim] →
          (report.samplesOf b.metric).map Sample.dims =
            (repository.known b.operation
              ++ observed b.operation dim (sent b.operation)).eraseDups.map fun n => dimsOf [(dim, n)])
      ∧ ∀ b ∈ Binding.defaults, b.shape = .scalar → (report.samplesOf b.metric).length = 1 := by
  have hprompt' : r.Prompt sent (Binding.defaults.map Binding.operation) :=
    ⟨hprompt.patient, fun o _ => hprompt.answered o (mem_all o), fun o _ => hprompt.inTime o (mem_all o)⟩
  obtain ⟨r', duration, htick⟩ := tick_heard hserved
  -- what is heard for a binding, and what its turn contributes
  let heard (b : Binding) : Heard :=
    ⟨b, repository.answer now b.operation (.ok (sent b.operation))⟩
  have hheard : hear false r.bindings r = Binding.defaults.map heard := by
    rw [hbindings, hear_prompt hprompt' defaults_nodup.1, hsource]
    rfl
  have hturn : ∀ b ∈ Binding.defaults, (heard b).fails = false
      ∧ ∃ ps, (heard b).samples = ps.map b.metric.sample ∧ Feeds repository b (sent b.operation) ps := by
    intro b hb
    obtain ⟨a, ha, ps, hps, hfeeds⟩ := default_feeds (r := repository) now hb (htyped b.operation)
    obtain ⟨hfails, hsamples⟩ := Heard.of_fits (h := heard b) ha hps hfeeds.fits
    exact ⟨hfails, ps, hsamples, hfeeds⟩
  have hmetric : ∀ b ∈ Binding.defaults, ∀ s ∈ (heard b).samples, s.metric = b.metric := by
    intro b hb s hs
    obtain ⟨-, -, -, -, -, hm⟩ := Heard.mem_samples hs
    exact hm
  rw [hheard, hbindings, TickReport.hearing_faultless fun b hb => (hturn b hb).1] at htick
  have hblock : ∀ b ∈ Binding.defaults,
      (Binding.defaults.flatMap fun b => (heard b).samples).filter (fun s => s.metric = b.metric) =
        (heard b).samples := fun b hb => block_eq hmetric defaults_nodup.2 hb
  refine ⟨r', { samples := Binding.defaults.flatMap fun b => (heard b).samples, duration := duration },
    htick, rfl, rfl, ?_, ?_, ?_, ?_⟩
  · have hsink : Metric.sinkErrors ∉ Binding.defaults.map Binding.metric := by decide +kernel
    rw [catalog_eq, List.flatMap_append, List.flatMap_singleton]
    unfold TickReport.samplesOf
    rw [flatMap_blocks hmetric defaults_nodup.2, block_eq_nil hmetric hsink, List.append_nil]
  · intro s hs
    obtain ⟨b, hb, hs⟩ := List.mem_flatMap.mp hs
    obtain ⟨ps, hps, hfeeds⟩ := (hturn b hb).2
    rw [hps] at hs
    obtain ⟨p, hp, rfl⟩ := List.mem_map.mp hs
    exact (hfeeds.fits p hp).dims
  · intro b hb dim hdim
    obtain ⟨ps, hps, hfeeds⟩ := (hturn b hb).2
    unfold TickReport.samplesOf
    rw [hblock b hb, hps, ← hfeeds.keys dim hdim, List.map_map]
    rfl
  · intro b hb hscalar
    obtain ⟨ps, hps, hfeeds⟩ := (hturn b hb).2
    unfold TickReport.samplesOf
    rw [hblock b hb, hps, List.length_map]
    exact hfeeds.single hscalar

/-- What the database of a small fleet sends: a queue that nobody expected and jobs without one, an age
below zero, a sync without images and with few runtimes. -/
def fleetAnswers : Operation → Datum
  | .runningJobsByQueue                =>
    .list [.record [("queue", .text "BULK"), ("jobs", .int 2)],
           .record [("queue", .null), ("jobs", .int 1)]]
  | .oldestRunningJobAgeByQueue        =>
    .list [.record [("queue", .text "SYNC"), ("age_seconds", .float (.ofInt (-3)))]]
  | .orphanRunningJobs                 => .null
  | .terminalJobRuntimeLastHour        =>
    .list [.record [("status", .text "failed"), ("runtime_seconds", .float (.ofInt 40))]]
  | .scheduledActiveConnectionsLastDay => .int 5
  | .unusuallyLongRunningJobs          =>
    .list [.record [("runtimes", .list [.null, .float (.ofInt 60)]),
                    ("elapsed_seconds", .float (.ofInt 90)), ("connection_id", .text "c"),
                    ("source_image", .null), ("destination_image", .text "d")]]
  | _                                  => .list []

theorem fleetAnswers_typed (o : Operation) : o.Typed 985 (fleetAnswers o) := by
  have hspan : ∀ n ∈ [(-3 : Int), 40, 60, 90], Datum.IsSpan (.float (.ofInt n)) := by
    have hsmall : ∀ n ∈ [(-3 : Int), 40, 60, 90], (Binary64.ofInt n).isFinite = true
        ∧ (Binary64.ofInt n).signedUnits.natAbs < 10 ^ 300 * unitsPerOne := by decide +kernel
    exact fun n hn => ⟨_, rfl, hsmall n hn⟩
  have hend {α : Type} {P : α → Prop} : ∀ a ∈ [], P a := List.forall_mem_nil P
  cases o with
  | runningJobsByQueue =>
      refine ⟨_, rfl, by decide, ?_⟩
      simp only [HasColumns, Operation.columns, List.forall_mem_cons]
      exact ⟨⟨⟨_, rfl, .inr ⟨"BULK", rfl⟩⟩, ⟨_, rfl, 2, rfl, by decide⟩, hend⟩,
        ⟨⟨_, rfl, .inl rfl⟩, ⟨_, rfl, 1, rfl, by decide⟩, hend⟩, hend⟩
  | oldestRunningJobAgeByQueue =>
      refine ⟨_, rfl, by decide, ?_⟩
      simp only [HasColumns, Operation.columns, List.forall_mem_cons]
      exact ⟨⟨⟨_, rfl, .inr ⟨"SYNC", rfl⟩⟩, ⟨_, rfl, hspan _ (by decide)⟩, hend⟩, hend⟩
  | orphanRunningJobs => exact .inl rfl
  | terminalJobRuntimeLastHour =>
      refine ⟨_, rfl, by decide, ?_⟩
      simp only [HasColumns, Operation.columns, List.forall_mem_cons]
      exact ⟨⟨⟨_, rfl, .failed, rfl, rfl⟩, ⟨_, rfl, .inr (hspan _ (by decide))⟩, hend⟩, hend⟩
  | scheduledActiveConnectionsLastDay => exact .inr ⟨5, rfl, by decide⟩
  | unusuallyLongRunningJobs =>
      refine ⟨_, rfl, by decide, ?_⟩
      simp only [HasColumns, Operation.columns, List.forall_mem_cons]
      refine ⟨⟨⟨_, rfl, .inr ⟨_, rfl, ?_⟩⟩, ⟨_, rfl, hspan _ (by decide)⟩, ⟨_, rfl, "c", rfl⟩,
        ⟨_, rfl, .inl rfl⟩, ⟨_, rfl, .inr ⟨"d", rfl⟩⟩, hend⟩, hend⟩
      rw [List.forall_mem_cons, List.forall_mem_singleton]
      exact ⟨.inl rfl, .inr (hspan _ (by decide))⟩
  | _ => exact ⟨[], rfl, by decide, hend⟩

/-- The reporter of that fleet, whose sink loses the second sample that it is handed. -/
def fleetReporter : Reporter Rat where
  cadence := 60
  deadline := 30
  bindings := Binding.defaults
  source := .database { nesting := 985 } ⟨0⟩
  playbook := fun o => .always { takes := 1, sent := .ok (fleetAnswers o) }
  emitter := .ofSink {} Emitter.losingSecond
  clock := 0

/-- The tick of that fleet fails no indicator, and has a sample for every queue, known or not. -/
theorem tick_of_small_fleet :
    (∀ o : Operation, o.Typed 985 (fleetAnswers o))
      ∧ fleetReporter.Prompt fleetAnswers Operation.all
      ∧ fleetReporter.Served false
      ∧ ∃ r' report, fleetReporter.tick false = (r', .ok report)
        ∧ report.failed = []
        ∧ report.interrupted = false
        ∧ (report.samplesOf .jobRunningByQueue).map Sample.dims =
            ["SYNC", "AWS_PARIS_SYNC", "null", "BULK"].map fun n => dimsOf [("queue", n)] := by
  have hprompt : fleetReporter.Prompt fleetAnswers Operation.all := by
    refine ⟨rfl, fun _ _ => rfl, fun _ _ t => ?_⟩
    have hle : t + 1 ≤ t + 30 := Rat.add_le_add_left.mpr (by decide)
    exact decide_eq_false (Rat.not_lt.mpr hle)
  have hlarge : twoPow 6 ≤ twoPow 1023 := twoPow_le (by decide)
  have hserved : fleetReporter.Served false :=
    served_ofSink {} Emitter.losingSecond rfl rfl (by decide +kernel)
      (Nat.le_trans (by decide +kernel) hlarge)
  obtain ⟨r', report, htick, hfailed, hinterrupted, -, -, hkeys, -⟩ :=
    tick_of_typed rfl rfl hprompt fleetAnswers_typed hserved
  have hqueues := hkeys ⟨.jobRunningByQueue, .runningJobsByQueue, .keyed "queue"⟩ List.mem_cons_self
    "queue" rfl
  refine ⟨fleetAnswers_typed, hprompt, hserved, r', report, htick, hfailed, hinterrupted, ?_⟩
  rw [hqueues]
  exact congrArg (List.map fun n => dimsOf [("queue", n)]) (by decide +kernel)

end Reporter
end FleetHealth
