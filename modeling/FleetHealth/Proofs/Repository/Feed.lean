import FleetHealth.Proofs.Emitter.Gate
import FleetHealth.Proofs.Reporter.Contribution
import FleetHealth.Proofs.Repository.Typed

/-!
# Proofs — Repository — Feed

What the default bindings make of typed answers.  The columns of the rows, the aggregates, the shapes, the schemas of the catalog and the gate of the emitter are written apart from each other; here they agree.

* `Point.Fits`: a point has a size for a value and the dimensions of a schema, in schema order, each with a text.  The gate lets it through (`Fits.admits`).
* `points_scalar`, `points_keyed`, `points_each`, `points_byStatus`, `points_longRunners`: every shape makes of sizes points that fit the schema it is meant for.
* `default_feeds`: **a typed answer to the operation of a default binding becomes points that fit its metric**, and those of a metric of one dimension are one for each name that is known or observed.
-/

namespace FleetHealth

open Datum

/-- Tags as the dimensions of a point. -/
def dimsOf (tags : Tags) : Datum := .record (tags.map fun t => (t.1, .text t.2))

/-- A point fits a schema: its value is a size, and its dimensions are those of the schema, in schema
order, each with a text. -/
structure Point.Fits (dimensions : List String) (p : Point) : Prop where
  size : p.value.IsSize
  dims : ∃ tags, p.dims = dimsOf tags ∧ tags.map Prod.fst = dimensions

namespace Metric

variable {m : Metric} {p : Point}

theorem get?_text {k : String} {tags : Tags} (h : k ∈ tags.map Prod.fst) :
    ∃ s, Entries.get? k (tags.map fun t => (t.1, Datum.text t.2)) = some (.text s) := by
  induction tags with
  | nil => exact (List.not_mem_nil h).elim
  | cons t tags ih =>
      rw [List.map_cons]
      cases ht : t.1 == k with
      | true => exact ⟨t.2, Entries.get?_cons_pos _ ht⟩
      | false =>
          rw [Entries.get?_cons_neg (e := (t.1, Datum.text t.2)) _ ht]
          refine ih ((List.mem_cons.mp h).resolve_left fun hk => ?_)
          rw [hk, beq_self_eq_true] at ht
          cases ht

theorem fitsRecord_of_tags {tags : Tags} (h : tags.map Prod.fst = m.dimensions) :
    m.FitsRecord (tags.map fun t => (t.1, .text t.2)) where
  texts k hk := by
    rw [← h] at hk
    exact get?_text hk
  known e he := by
    obtain ⟨t, ht, rfl⟩ := List.mem_map.mp he
    rw [← h]
    exact List.mem_map_of_mem ht

end Metric

/-- **The gate lets a point through that fits.** -/
theorem Point.Fits.admits {m : Metric} {p : Point} (h : p.Fits m.dimensions) : m.admits p = true := by
  obtain ⟨x, hx, hfinite, hsign⟩ := h.size
  obtain ⟨tags, hdims, hkeys⟩ := h.dims
  obtain ⟨out, hout⟩ : ∃ out, m.tagsFor p.dims = .ok out := by
    rw [Metric.tagsFor_ok_iff, hdims]
    exact Metric.fitsRecord_of_tags hkeys
  have haccept : Emitter.accept m m.type p.value p.dims = .ok (x, out) :=
    Emitter.accept_ok_iff.mpr ⟨rfl, hout, hx, hfinite, hsign⟩
  rw [Metric.admits, Metric.refusal?, haccept]
  rfl

/-! ### Shapes -/

namespace Shape

theorem pointOf_answers {d : Datum} (h : d.IsSize) (dims : Datum) :
    Answers (pointOf dims d) fun p => p.dims = dims ∧ p.value.IsSize := by
  obtain ⟨x, hx, hsize⟩ := h
  unfold pointOf
  rw [hx]
  exact .ok ⟨rfl, x, rfl, hsize⟩

theorem points_scalar {d : Datum} (h : d.IsSize) :
    Answers (scalar.points (.plain d)) fun ps => ps.length = 1 ∧ ∀ p ∈ ps, p.Fits [] := by
  refine Answers.mapError ?_ _
  refine (pointOf_answers h (.record [])).map fun p hp => ⟨rfl, List.forall_mem_singleton.mpr ?_⟩
  exact ⟨hp.2, [], hp.1, rfl⟩

/-- A map by key fans out into one point for each key. -/
theorem points_keyed {dim : String} {es : List (Key × Datum)} {names : List String}
    (hk : es.map Prod.fst = names.map Key.text) (hv : ∀ e ∈ es, e.2.IsSize) :
    Answers ((keyed dim).points (.keyed es)) fun ps =>
      ps.map Point.dims = names.map (fun n => dimsOf [(dim, n)]) ∧ ∀ p ∈ ps, p.Fits [dim] := by
  -- the dimension of a point is the message of its key, and that of a text is the text
  have hdims : (es.map fun e => (Member.plain e.1.toDatum, e.2)).map
      (fun e => Datum.record [(dim, .text e.1.message)]) = names.map fun n => dimsOf [(dim, n)] := by
    have hkeys := congrArg (List.map fun k : Key => Datum.record [(dim, .text k.toDatum.message)]) hk
    rw [List.map_map, List.map_map] at hkeys
    rw [List.map_map]
    exact hkeys
  refine Answers.mapError ?_ _
  rw [← hdims]
  refine Answers.mapM _ fun member hmember => ?_
  obtain ⟨e, he, rfl⟩ := List.mem_map.mp hmember
  exact (pointOf_answers (hv e he) _).mono fun p hp => ⟨hp.1, hp.2, [(dim, _)], hp.1, rfl⟩

theorem points_each {ds : List Datum} (h : ∀ d ∈ ds, d.IsSize) :
    Answers (each.points (.plain (.list ds))) fun ps => ∀ p ∈ ps, p.Fits [] := by
  refine Answers.mapError ?_ _
  refine Answers.mapM_all _ fun member hmember => ?_
  obtain ⟨d, hd, rfl⟩ := List.mem_map.mp hmember
  obtain ⟨x, hx, hsize⟩ := h d hd
  refine Answers.bind (P := fun y => y = x) ⟨x, hx, rfl⟩ fun y hy => .ok ?_
  rw [hy]
  exact ⟨⟨x, rfl, hsize⟩, [], rfl, rfl⟩

/-- Means by status fan out into one point for each status. -/
theorem points_byStatus {es : List (JobStatus × Binary64)} (h : ∀ e ∈ es, IsSize (.float e.2)) :
    Answers (byStatus.points (.runtimes es)) fun ps =>
      ps.map Point.dims = (es.map fun e => e.1.word).map (fun n => dimsOf [("status", n)])
        ∧ ∀ p ∈ ps, p.Fits ["status"] := by
  refine Answers.mapError ?_ _
  change Answers ((es.map fun e => (Member.status e.1, Datum.float e.2)).mapM _) _
  rw [List.map_map, List.mapM_map]
  refine Answers.mapM es fun e he => ?_
  exact .ok ⟨rfl, h e he, [("status", e.1.word)], rfl, rfl⟩

theorem isSize_one : IsSize (.float (.ofNat 1)) :=
  ⟨_, rfl, (Binary64.isFinite_ofNat 1).mpr (Nat.le_trans (twoPow_pos 1023)
    Binary64.largestWhole_bounds.1), Binary64.ofNat_lt_zero 1⟩

theorem points_longRunners {rs : List LongRunner} (h : ∀ l ∈ rs, l.IsNamed) :
    Answers (longRunners.points (.runners rs)) fun ps =>
      ∀ p ∈ ps, p.Fits ["connection_id", "source_image", "destination_image"] := by
  refine Answers.mapError ?_ _
  refine Answers.mapM_all _ fun member hmember => ?_
  obtain ⟨l, hl, rfl⟩ := List.mem_map.mp hmember
  obtain ⟨⟨c, hc⟩, ⟨s, hs⟩, ⟨d, hd⟩⟩ := h l hl
  refine .ok ⟨isSize_one, [("connection_id", c), ("source_image", s), ("destination_image", d)], ?_, rfl⟩
  unfold runnerDims
  rw [hc, hs, hd]
  rfl

end Shape

/-! ### Bindings -/

/-- The keys that an operation by key reports whether or not a row has them. -/
def Repository.known (r : Repository) : Operation → List String
  | .runningJobsByQueue                                      => r.knownQueues ++ [Rows.nullQueue]
  | .oldestRunningJobAgeByQueue                              => r.knownQueues
  | .pendingJobsByGeography | .oldestPendingJobAgeByGeography => r.knownGeographies
  | _                                                        => []

/-- The names that the rows of an answer have in a column; only rows with a runtime count for the mean
runtimes. -/
def observed (o : Operation) (column : String) (sent : Datum) : List String :=
  match o, sent with
  | .terminalJobRuntimeLastHour, .list rows => Rows.endedIn rows
  | _, .list rows                           => rows.map (Rows.nameIn column)
  | _, _                                    => []

/-- Points that a binding makes of an answer: they fit its metric; where the metric has one dimension they
are one for each name that is known or observed, in that order; and a single value makes one. -/
structure Feeds (r : Repository) (b : Binding) (sent : Datum) (ps : List Point) : Prop where
  fits : ∀ p ∈ ps, p.Fits b.metric.dimensions
  keys : ∀ dim, b.metric.dimensions = [dim] → ps.map Point.dims =
    (r.known b.operation ++ observed b.operation dim sent).eraseDups.map fun n => dimsOf [(dim, n)]
  single : b.shape = .scalar → ps.length = 1

variable {r : Repository} {b : Binding} {rows : List Datum}

/-- A binding by key, whatever its values are. -/
theorem feeds_keyed {α : Type} {dim : String} {known : List String}
    {keyOf : Datum → Except ShapeFault Datum} {valueOf : Datum → Except ShapeFault α} {zero : α}
    (value : α → Datum) (hs : b.shape = .keyed dim) (hm : b.metric.dimensions = [dim])
    (hn : r.known b.operation = known)
    (ho : observed b.operation dim (.list rows) = rows.map (Rows.nameIn dim)) (hz : (value zero).IsSize)
    (hk : ∀ row ∈ rows, Answers (keyOf row) fun d => d = .text (Rows.nameIn dim row))
    (hv : ∀ row ∈ rows, Answers (valueOf row) fun v => (value v).IsSize) :
    Answers (Rows.keyed known keyOf valueOf zero rows) fun es =>
      Answers (b.shape.points (.keyed (es.map fun e => (e.1, value e.2)))) (Feeds r b (.list rows)) := by
  refine (Rows.keyed_answers hk hv hz).mono fun es hes => ?_
  have hkeys : (es.map fun e => (e.1, value e.2)).map Prod.fst =
      (known ++ rows.map (Rows.nameIn dim)).eraseDups.map Key.text := by
    rw [List.map_map]
    exact hes.1
  have hvalues : ∀ e ∈ es.map fun e => (e.1, value e.2), e.2.IsSize := by
    intro entry hentry
    obtain ⟨e, he, rfl⟩ := List.mem_map.mp hentry
    exact hes.2 e he
  rw [hs]
  refine (Shape.points_keyed hkeys hvalues).mono fun ps hps => ⟨?_, ?_, ?_⟩
  · rw [hm]
    exact hps.2
  · intro dim' hdim
    obtain rfl := List.head_eq_of_cons_eq (hm.symm.trans hdim)
    rw [hn, ho]
    exact hps.1
  · intro hscalar
    cases hs.symm.trans hscalar

section ByKey

variable {dim : String} {known : List String} {keyOf : Datum → Except ShapeFault Datum}
  {K : Datum → Prop} {sent : Datum}

/-- Numbers of jobs by key. -/
theorem feeds_counts (hs : b.shape = .keyed dim) (hm : b.metric.dimensions = [dim])
    (hn : r.known b.operation = known)
    (ho : ∀ rows, observed b.operation dim (.list rows) = rows.map (Rows.nameIn dim))
    (hk : ∀ row, Answers (row.column dim) K →
      Answers (keyOf row) fun d => d = .text (Rows.nameIn dim row))
    (h : IsTable [(dim, K), ("jobs", IsCount)] sent) :
    Answers
      (do .ok (Repository.counts (← Rows.keyed known keyOf Rows.jobsOf 0 (← Repository.rowsOf sent))))
      fun a => Answers (b.shape.points a) (Feeds r b sent) := by
  obtain ⟨rows, rfl, -, hrows⟩ := h
  simp only [hasColumns_cons] at hrows
  have hfeeds := feeds_keyed .int hs hm hn (ho rows) (IsCount.isSize ⟨0, rfl, by decide⟩)
    (fun row hrow => hk row (hrows row hrow).1) fun row hrow => Rows.jobsOf_answers (hrows row hrow).2.1
  exact hfeeds.bind fun _ hes => .ok hes

/-- Ages of jobs by key. -/
theorem feeds_ages (hs : b.shape = .keyed dim) (hm : b.metric.dimensions = [dim])
    (hn : r.known b.operation = known)
    (ho : ∀ rows, observed b.operation dim (.list rows) = rows.map (Rows.nameIn dim))
    (hk : ∀ row, Answers (row.column dim) K →
      Answers (keyOf row) fun d => d = .text (Rows.nameIn dim row))
    (h : IsTable [(dim, K), ("age_seconds", IsSpan)] sent) :
    Answers
      (do .ok (Repository.ages (← Rows.keyed known keyOf Rows.ageOf .zero (← Repository.rowsOf sent))))
      fun a => Answers (b.shape.points a) (Feeds r b sent) := by
  obtain ⟨rows, rfl, -, hrows⟩ := h
  simp only [hasColumns_cons] at hrows
  have hfeeds := feeds_keyed .float hs hm hn (ho rows) isSize_zero
    (fun row hrow => hk row (hrows row hrow).1) fun row hrow => Rows.ageOf_answers (hrows row hrow).2.1
  exact hfeeds.bind fun _ hes => .ok hes

end ByKey

/-- Rows come through as they are, to be read by the operation. -/
theorem of_rows {β : Type} {f : List Datum → Except ShapeFault β} {P : β → Prop}
    (h : Answers (f rows) P) : Answers (Repository.rowsOf (.list rows) >>= f) P := h

/-- A single number, of the metric that has no dimensions. -/
theorem feeds_single {x : Except ShapeFault Int} {sent : Datum} (hs : b.shape = .scalar)
    (hm : b.metric.dimensions = []) (hx : Answers x fun n => IsSize (.int n)) :
    Answers (x >>= fun n => .ok (.plain (.int n))) fun a =>
      Answers (b.shape.points a) (Feeds r b sent) := by
  refine hx.bind fun n hn => .ok ?_
  rw [hs]
  refine (Shape.points_scalar hn).mono fun ps hps => ⟨?_, ?_, fun _ => hps.1⟩
  · rw [hm]
    exact hps.2
  · intro dim hdim
    cases hm.symm.trans hdim

/-- Points of a binding that is not single, of a metric that has not one dimension, need only fit. -/
theorem Feeds.of_fits {ps : List Point} {sent : Datum} (hd : b.metric.dimensions.length ≠ 1)
    (hs : b.shape ≠ .scalar) (h : ∀ p ∈ ps, p.Fits b.metric.dimensions) : Feeds r b sent ps :=
  ⟨h, fun _ hdim => absurd (congrArg List.length hdim) hd, fun hscalar => absurd hscalar hs⟩

/-- **A typed answer to the operation of a default binding becomes points that fit its metric.**  The
cases are the bindings, in order. -/
theorem default_feeds (now : Instant) (hb : b ∈ Binding.defaults) {sent : Datum}
    (h : b.operation.Typed r.nesting sent) :
    Answers (r.answer now b.operation (.ok sent)) fun a =>
      Answers (b.shape.points a) (Feeds r b sent) := by
  simp only [Binding.defaults, List.mem_cons, List.not_mem_nil, or_false] at hb
  refine Answers.mapError ?_ _
  rcases hb with rfl | rfl | rfl | rfl | rfl | rfl | rfl | rfl | rfl | rfl
  · exact feeds_counts rfl rfl rfl (fun _ => rfl) (fun _ => Rows.queueOf_answers) h
  · exact feeds_ages rfl rfl rfl (fun _ => rfl) (fun _ => Rows.queueOf_answers) h
  · exact feeds_single rfl rfl (Rows.count_answers h)
  · exact feeds_counts rfl rfl rfl (fun _ => rfl) (fun _ => Rows.geographyOf_answers) h
  · exact feeds_ages rfl rfl rfl (fun _ => rfl) (fun _ => Rows.geographyOf_answers) h
  · obtain ⟨rows, rfl, -, hrows⟩ := h
    refine of_rows ((Rows.connectionsPerWorkspace_answers hrows).bind fun counts hcounts => .ok ?_)
    have hsizes : ∀ d ∈ counts.map Datum.int, d.IsSize := by
      intro d hd
      obtain ⟨n, hn, rfl⟩ := List.mem_map.mp hd
      exact hcounts n hn
    exact (Shape.points_each hsizes).mono fun ps hps => .of_fits (by decide) (by simp) hps
  · obtain ⟨rows, rfl, -, hrows⟩ := h
    refine of_rows ((Rows.terminalRuntimes_answers hrows).bind fun means hmeans => .ok ?_)
    refine (Shape.points_byStatus hmeans.2).mono fun ps hps => ⟨hps.2, fun dim hdim => ?_, by simp⟩
    obtain rfl := List.head_eq_of_cons_eq hdim
    rw [hps.1, hmeans.1]
    rfl
  · exact feeds_single rfl rfl (Rows.count_answers h)
  · obtain ⟨rows, rfl, hlen, hrows⟩ := h
    exact of_rows (feeds_single rfl rfl (Rows.missedSchedules_answers now hlen hrows))
  · obtain ⟨rows, rfl, -, hrows⟩ := h
    refine of_rows ((Rows.longRunners_answers hrows).bind fun rs hrs => .ok ?_)
    exact (Shape.points_longRunners hrs).mono fun ps hps => .of_fits (by decide) (by simp) hps

end FleetHealth
