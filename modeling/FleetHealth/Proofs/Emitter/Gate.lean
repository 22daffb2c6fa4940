import FleetHealth.Proofs.Emitter.Accounting
import FleetHealth.Proofs.Emitter.Sound
import FleetHealth.Proofs.Metric.Schema

/-!
# Proofs — Emitter — Gate

What the gate of an emitter refuses, and what passes it.  A `Refusal` is a reason not to admit a sample: another type, dimensions that do not fit the schema, a value that is no number, and a number that is not finite or is negative, each only where none before it applies.  It is a matter of the sample alone.

* `accept_error_iff`: the gate refuses a sample exactly where there is a refusal, and with its fault.
* `clean_invariant`: whatever is handed to a sink has passed the gate, reports of tallies included.
* `sample_raises_iff` is the account of the gate over every emitter and every history.

A sample that is lost is followed by the report of its tally, which passes the gate too.  That the report cannot be refused is where the tally has to be a number of the format.
-/

namespace FleetHealth.Emitter

variable {m : Metric} {t : MetricType} {v d : Datum}

/-! ### Refusals -/

/-- Why a sample of a metric, called as one of a type, is not admitted: the first of four reasons. -/
inductive Refusal (m : Metric) (t : MetricType) (v d : Datum) : Fault → Prop where
  | type : m.type ≠ t → Refusal m t v d (.sample (.wrongType m.name m.type.label t.label))
  | dimensions {f : Fault} : m.type = t → ¬ m.Fits d → m.tagsFor d = .error f → Refusal m t v d f
  | noNumber {s : ShapeFault} : m.type = t → m.Fits d → v.toFloat = .error s →
      Refusal m t v d (.shape s)
  | badNumber {x : Binary64} : m.type = t → m.Fits d → v.toFloat = .ok x →
      x.isFinite = false ∨ x.lt .zero = true → Refusal m t v d (.sample (.badValue m.name x))

/-- A sample is admitted with its value and its tags. -/
theorem accept_ok_iff {x : Binary64} {tags : Tags} : accept m t v d = .ok (x, tags) ↔
    m.type = t ∧ m.tagsFor d = .ok tags ∧ v.toFloat = .ok x
      ∧ x.isFinite = true ∧ x.lt .zero = false := by
  refine ⟨fun h => ?_, ?_⟩
  · unfold accept at h
    split at h
    case isTrue => cases h
    case isFalse ht =>
      split at h
      case h_1 => cases h
      case h_2 tags' hd =>
        split at h
        case h_1 => cases h
        case h_2 x' hv =>
          split at h
          case isTrue => cases h
          case isFalse hx =>
            cases h
            simp only [Bool.or_eq_true, Bool.not_eq_true', not_or, Bool.not_eq_false,
              Bool.not_eq_true] at hx
            exact ⟨Decidable.not_not.mp ht, hd, hv, hx⟩
  · rintro ⟨ht, hd, hv, hf, hn⟩
    rw [accept, if_neg (fun h => h ht), hd]
    dsimp only
    rw [hv]
    dsimp only
    rw [hf, hn]
    rfl

/-- **The gate refuses a sample exactly where there is a refusal**, with its fault. -/
theorem accept_error_iff {f : Fault} : accept m t v d = .error f ↔ Refusal m t v d f := by
  refine ⟨fun h => ?_, ?_⟩
  · unfold accept at h
    split at h
    case isTrue ht =>
      obtain rfl := Except.error.inj h
      exact .type ht
    case isFalse ht =>
      have ht : m.type = t := Decidable.not_not.mp ht
      split at h
      case h_1 f' hd =>
        obtain rfl := Except.error.inj h
        refine .dimensions ht (fun hfits => ?_) hd
        obtain ⟨tags, hok⟩ := Metric.tagsFor_ok_iff.mpr hfits
        cases hd.symm.trans hok
      case h_2 tags hd =>
        have hfits : m.Fits d := Metric.tagsFor_ok_iff.mp ⟨tags, hd⟩
        split at h
        case h_1 s hv =>
          obtain rfl := Except.error.inj h
          exact .noNumber ht hfits hv
        case h_2 x hv =>
          split at h
          case isFalse => cases h
          case isTrue hx =>
            obtain rfl := Except.error.inj h
            rw [Bool.or_eq_true, Bool.not_eq_true'] at hx
            exact .badNumber ht hfits hv hx
  · intro h
    cases h with
    | type ht => rw [accept, if_pos ht]
    | dimensions ht _ hd => rw [accept, if_neg (fun h => h ht), hd]
    | noNumber ht hfits hv =>
        obtain ⟨tags, hd⟩ := Metric.tagsFor_ok_iff.mpr hfits
        rw [accept, if_neg (fun h => h ht), hd]
        dsimp only
        rw [hv]
    | badNumber ht hfits hv hx =>
        obtain ⟨tags, hd⟩ := Metric.tagsFor_ok_iff.mpr hfits
        rw [accept, if_neg (fun h => h ht), hd]
        dsimp only
        rw [hv]
        dsimp only
        rw [if_pos (by rwa [Bool.or_eq_true, Bool.not_eq_true'])]

/-! ### What is handed over -/

/-- The key of the application tag, where a tag is configured. -/
def applicationKeys (application : Option String) : List String :=
  if application.any fun a => !a.isEmpty then [applicationKey] else []

/-- What may be handed to a sink: a finite value that is not negative and, unless the metric takes the
key of the application tag for itself, the tags of its schema and that tag. -/
structure Clean (application : Option String) (δ : Delivery) : Prop where
  finite : δ.value.isFinite = true
  notNegative : δ.value.lt .zero = false
  keys : applicationKey ∉ δ.metric.dimensions →
    δ.tags.map Prod.fst = δ.metric.dimensions.eraseDups ++ applicationKeys application

/-- The application tag comes last, where no tag of the sample has its key. -/
theorem keys_tagged (e : Emitter) {tags : Tags} (h : Entries.has applicationKey tags = false) :
    (e.tagged tags).map Prod.fst = tags.map Prod.fst ++ applicationKeys e.application := by
  unfold tagged applicationKeys
  split
  case h_1 a ha =>
    rw [ha, Option.any_some]
    cases a.isEmpty with
    | true => exact (List.append_nil _).symm
    | false =>
        rw [if_neg Bool.false_ne_true, Entries.keys_put, h]
        rfl
  case h_2 ha =>
    rw [ha]
    exact (List.append_nil _).symm

theorem clean_of_accept (e : Emitter) {x : Binary64} {tags : Tags} (o : Option Fault)
    (h : accept m t v d = .ok (x, tags)) : Clean e.application ⟨m, x, e.tagged tags, o⟩ := by
  obtain ⟨-, hd, -, hf, hn⟩ := accept_ok_iff.mp h
  have hkeys := Metric.keys_of_tagsFor hd
  refine ⟨hf, hn, fun hm => ?_⟩
  have hno : Entries.has applicationKey tags = false := by
    rw [Entries.has_eq_any, hkeys, List.any_eq_false]
    intro k hk
    rw [beq_iff_eq]
    rintro rfl
    exact hm (List.mem_eraseDups.mp hk)
  rw [keys_tagged e hno, hkeys]

/-- **Whatever is handed to a sink has passed the gate.** -/
theorem clean_invariant (a : Option String) :
    Invariant fun e => e.application = a ∧ ∀ δ ∈ e.deliveries, Clean a δ where
  attempt := by
    rintro e m t v d x tags e' b hacc _ hb ⟨rfl, h⟩
    have hk := attempt_handed e m x (e.tagged tags)
    rw [hb] at hk
    refine ⟨hk.application, ?_⟩
    rw [hk.deliveries, List.forall_mem_cons]
    exact ⟨clean_of_accept e _ hacc, h⟩
  counted := fun _ h => h
  flush := fun {e} h => by
    rw [(flush_framed e).deliveries]
    exact ⟨(flush_framed e).application.trans h.1, h.2⟩
  shutdown := fun {e} h => by
    rw [(shutdown_framed e).deliveries]
    exact ⟨(shutdown_framed e).application.trans h.1, h.2⟩

/-! ### Every sample -/

/-- A sample is at most one step of any tally. -/
theorem submit_tally_le (e : Emitter) (m : Metric) (t : MetricType) (v d : Datum) (i : String) :
    (e.submit m t v d).1.health.tally (.text i) ≤ e.health.tally (.text i) + 1 := by
  have ho := offer_offered e m t v d
  refine submit_cases (P := fun r => r.1.health.tally (.text i) ≤ e.health.tally (.text i) + 1)
    e m t v d ?_ ?_ ?_
  · intro e' f hf
    rw [hf] at ho
    rw [ho.tally]
    exact Nat.le_succ _
  · intro e' a ha _
    rw [ha] at ho
    rw [ho.tally]
    exact Nat.le_succ _
  · intro e₁ e' r hl _ hr
    rw [hl] at ho
    have hb := (recordError_balance e₁ (.text m.name) i).1
    rw [hr, ho.tally] at hb
    rw [hb]
    exact Nat.add_le_add_left (Bool.toNat_le _) _

/-- **What a sample raises.**  A refusal is raised by an emitter in any state, which stays as it was
and hands nothing to its sink.  Nothing else is raised, where the sink raises only what an emitter
absorbs and the tally of the metric, if the sample steps it, is still a number of the format.  So
whatever an emitter hands to its sink, after any history, has a finite value that is not negative,
and its tags are those of its schema, in schema order, and last the application tag where one is
configured. -/
theorem sample_raises_iff :
    (∀ (e : Emitter) m t v d f, Refusal m t v d f → e.submit m t v d = (e, .error f))
    ∧ (∀ (e : Emitter) m t v d, (e.clear.submit m t v d).1.Absorbed →
        e.health.tally (.text m.name) < Binary64.largestWhole →
        ∀ f, (e.submit m t v d).2 = .error f ↔ Refusal m t v d f)
    ∧ (∀ o s calls, ∀ δ ∈ ((ofSink o s).run calls).deliveries, Clean o.application δ) := by
  refine ⟨fun e m t v d f h => submit_refused (accept_error_iff.mpr h) e, ?_, ?_⟩
  · intro e m t v d hs hn f
    refine ⟨fun h => ?_, fun h => by rw [submit_refused (accept_error_iff.mpr h) e]⟩
    cases hacc : accept m t v d with
    | error f' =>
        rw [submit_refused hacc e] at h
        obtain rfl := Except.error.inj h
        exact accept_error_iff.mp hacc
    | ok admitted =>
        -- an admitted sample is answered, whether it is lost or not: its tally is one more at most
        have hle := submit_tally_le e.clear m t v d m.name
        have ho := atop_submit e.clear e.journal m t v d
        rw [clear_atop] at ho
        cases hc : e.clear.submit m t v d with
        | mk e' r =>
            rw [hc] at hs hle ho
            have hn' : e'.health.tally (.text m.name) ≤ Binary64.largestWhole :=
              Nat.le_trans hle hn
            rw [ho, submit_answered hacc hc hs hn'] at h
            cases h
  · intro o s calls
    have hnew : ∀ δ ∈ (ofSink o s).deliveries, Clean o.application δ :=
      fun δ hδ => (List.not_mem_nil hδ).elim
    exact ((clean_invariant o.application).run ⟨rfl, hnew⟩ calls).2

/-- A sample of a metric with three dimensions, given in the reverse of schema order. -/
def reversedSample : Call :=
  .sample .counter .jobUnusuallyLongRunning (.int 1)
    (.record [("destination_image", .text "d"), ("source_image", .text "s"),
      ("connection_id", .text "c")])

/-- A sample that is lost raises nothing, a negative one is refused, and the one that was delivered had
its tags in order. -/
theorem sample_raises_of_three :
    let e := (ofSink ⟨some "reporter", 2⟩ failingLater).run [reversedSample]
    (∀ f, (e.submit .jobOrphanRunning .gauge (.int 1) .null).2 ≠ .error f)
    ∧ e.submit .jobOrphanRunning .gauge (.float (.ofInt (-1))) .null =
        (e, .error (.sample (.badValue "job_orphan_running" (.ofInt (-1)))))
    ∧ e.deliveries.length = 1
    ∧ (∀ δ ∈ e.deliveries, δ.tags.map Prod.fst =
        ["connection_id", "source_image", "destination_image", "application"]) := by
  intro e
  obtain ⟨hrefused, hraised, hclean⟩ := sample_raises_iff
  refine ⟨fun f hf => ?_, hrefused e .jobOrphanRunning .gauge _ .null _ ?_,
    by decide +kernel, fun δ hδ => ?_⟩
  · have hs : (e.clear.submit .jobOrphanRunning .gauge (.int 1) .null).1.Absorbed := by
      have hall : (e.clear.submit .jobOrphanRunning .gauge (.int 1) .null).1.deliveries.all
          Delivery.isAbsorbed = true := by decide +kernel
      exact List.all_eq_true.mp hall
    have hn : e.health.tally (.text Metric.jobOrphanRunning.name) < Binary64.largestWhole := by
      have htally : e.health.tally (.text Metric.jobOrphanRunning.name) = 0 := by decide +kernel
      rw [htally]
      exact Nat.lt_of_lt_of_le (twoPow_pos 1023) Binary64.largestWhole_bounds.1
    have hok : (accept .jobOrphanRunning .gauge (.int 1) .null).toOption.isSome = true := by
      decide +kernel
    have hr := (hraised e .jobOrphanRunning .gauge (.int 1) .null hs hn f).mp hf
    rw [accept_error_iff.mpr hr] at hok
    cases hok
  · exact .badNumber rfl ⟨rfl, rfl⟩ rfl (.inr (by decide +kernel))
  · have hm : ∀ δ ∈ e.deliveries, δ.metric = .jobUnusuallyLongRunning := by decide +kernel
    have hkeys := (hclean ⟨some "reporter", 2⟩ failingLater [reversedSample] δ hδ).keys
    rw [hm δ hδ] at hkeys
    exact (hkeys (by decide)).trans (by decide +kernel)

end FleetHealth.Emitter
