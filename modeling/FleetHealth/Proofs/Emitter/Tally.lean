import FleetHealth.Emitter.Open
import FleetHealth.Proofs.Binary64.Whole
import FleetHealth.Proofs.Emitter.Call
import FleetHealth.Proofs.Metric.Schema

/-!
# Proofs — Emitter — Tally

Errors are conserved.  The tally of an indicator is what callers recorded for it and what the sink lost of its samples, and every step of it is reported once, as a sample of its own.

* `balance_run`: no error is lost and none is counted twice, whatever the sink does.
* `Reported` is the invariant of the reports: those of an indicator are the totals from one on, and as long as the emitter is on they are all of them, up to the largest total that is a number of the format.
* `errors_conserved` is the account after every history in which no caller passes the metric of the tallies.

A lost sample is recorded as an error of its indicator, and the report of that error is a sample again; the recursion ends because the loss of a report is not recorded.  Tallies and reports are therefore followed through the three parts of a call (`Offered`, `recordError`, `submit`), the smallest first.
-/

namespace FleetHealth

theorem Key.beq_text_iff {a : Key} {s : String} : (a == .text s) = true ↔ a = .text s := by
  cases a with
  | text t =>
      show (t == s) = true ↔ _
      rw [beq_iff_eq, Key.text.injEq]
  | number n => cases n <;> exact ⟨fun h => (Bool.false_ne_true h).elim, nofun⟩
  | _ => exact ⟨fun h => (Bool.false_ne_true h).elim, nofun⟩

namespace Health

/-- One more error of an indicator is one more in the tally of that text and in no other. -/
theorem tally_countError (h : Health) (k : Key) (i : String) :
    (h.countError k).tally (.text i) = h.tally (.text i) + (k == .text i).toNat := by
  have hself : (Key.text i == .text i) = true := Key.beq_text_iff.mpr rfl
  cases hk : k == .text i with
  | true =>
      obtain rfl := Key.beq_text_iff.mp hk
      rw [tally, countError, Entries.get?_put_self hself]
      rfl
  | false =>
      have hne : ∀ a : Key, (a == k) = true → (a == .text i) = false := by
        intro a ha
        rw [Bool.eq_false_iff]
        intro hi
        obtain rfl := Key.beq_text_iff.mp hi
        cases k with
        | text t =>
            have ht : (i == t) = true := ha
            rw [beq_iff_eq.mp ht, Key.beq_text_iff.mpr rfl] at hk
            cases hk
        | number n => cases n <;> cases ha
        | _ => cases ha
      rw [tally, countError, Entries.get?_put_of_ne hk hne]
      rfl

end Health

namespace Delivery

/-- Whether the sample was lost: the sink raised one of the two faults that an emitter absorbs. -/
def isLost (d : Delivery) : Bool :=
  match d.outcome with
  | some f => decide (f.kind = .sinkTransient ∨ f.kind = .sinkFatal)
  | none   => false

/-- Whether a sample of an indicator was lost; a lost report of a tally is none. -/
def isLossOf (i : String) (d : Delivery) : Bool :=
  d.isLost && decide (d.metric ≠ .sinkErrors ∧ d.metric.name = i)

/-- Whether the sample reports the tally of an indicator. -/
def isReportOf (i : String) (d : Delivery) : Bool :=
  decide (d.metric = .sinkErrors ∧ Entries.get? "indicator" d.tags = some i)

end Delivery

namespace Emitter

/-- Whether a call records an error of an indicator. -/
def Call.isErrorOf (i : String) : Call → Bool
  | .recordError (.text j) => j == i
  | _                      => false

/-- The most samples that a call hands to the sink. -/
def Call.mostDeliveries : Call → Nat
  | .sample ..      => 2
  | .recordError _  => 1
  | .flush          => 0
  | .shutdown       => 0

/-- How many samples of an indicator were lost. -/
def losses (e : Emitter) (i : String) : Nat := e.deliveries.countP (Delivery.isLossOf i)

/-- The totals of an indicator that were reported, the first of them first. -/
def reports (e : Emitter) (i : String) : List Binary64 :=
  ((e.deliveries.filter (Delivery.isReportOf i)).map Delivery.value).reverse

/-! ### One sample -/

/-- A sample is lost exactly when its delivery is. -/
theorem attempt_lost_iff (e : Emitter) (m : Metric) (x : Binary64) (tags : Tags) :
    (e.attempt m x tags).2 = .lost ↔
      (Delivery.mk m x tags (e.record m x tags).2).isLost = true := by
  refine attempt_cases
    (P := fun r => r.2 = .lost ↔ (Delivery.mk m x tags (e.record m x tags).2).isLost = true)
    e m x tags ?_ ?_ ?_ ?_
  · intro ho
    rw [ho]
    exact ⟨nofun, nofun⟩
  · intro f ho ht
    rw [ho]
    exact ⟨fun _ => decide_eq_true (.inl ht), fun _ => rfl⟩
  · intro f ho hf
    rw [ho]
    exact ⟨fun _ => decide_eq_true (.inr hf), fun _ => rfl⟩
  · intro f ho ht hf
    rw [ho]
    refine ⟨nofun, fun h => ?_⟩
    rcases of_decide_eq_true h with h | h
    · exact absurd h ht
    · exact absurd h hf

/-- `e'` came of `e` by a sample of a metric, with an answer: no indicator was counted, and at most
the one sample was handed over, which was lost exactly when the answer says so. -/
structure Offered (m : Metric) (r : Except Fault Attempt) (e e' : Emitter) : Prop where
  errors : e'.health.errors = e.health.errors
  off : e.health.isOff = true → e'.health.isOff = true
  came : (e'.deliveries = e.deliveries ∧ r ≠ .ok .lost) ∨
    ∃ d, d.metric = m ∧ e'.deliveries = d :: e.deliveries ∧ (r = .ok .lost ↔ d.isLost = true)

theorem Attempt.answer_lost_iff (a : Attempt) : a.answer = .ok .lost ↔ a = .lost := by
  cases a with
  | settled => exact ⟨nofun, nofun⟩
  | lost => exact ⟨fun _ => rfl, fun _ => rfl⟩
  | crashed f => exact ⟨nofun, nofun⟩

theorem offer_offered (e : Emitter) (m : Metric) (t : MetricType) (v d : Datum) :
    Offered m (e.offer m t v d).2 e (e.offer m t v d).1 := by
  refine offer_cases (P := fun r => Offered m r.2 e r.1) e m t v d ?_ ?_ ?_
  · intro f _
    exact ⟨rfl, id, .inl ⟨rfl, nofun⟩⟩
  · intro x tags _ _
    exact ⟨rfl, id, .inl ⟨rfl, nofun⟩⟩
  · intro x tags e' a _ hon ha
    have hk := attempt_handed e m x (e.tagged tags)
    have hl := attempt_lost_iff e m x (e.tagged tags)
    rw [ha] at hk hl
    refine ⟨hk.errors, fun hoff => ?_, .inr ⟨_, rfl, hk.deliveries, ?_⟩⟩
    · rw [hon] at hoff
      cases hoff
    · rw [Attempt.answer_lost_iff]
      exact hl

namespace Offered

variable {m : Metric} {r : Except Fault Attempt} {e e' : Emitter} (h : Offered m r e e')
include h

theorem tally (k : Key) : e'.health.tally k = e.health.tally k := by
  rw [Health.tally, Health.tally, h.errors]

/-- A sample that was not lost, or that reports a tally, is no loss of any indicator. -/
theorem losses_kept (i : String) (hr : r = .ok .lost → m = .sinkErrors) :
    e'.losses i = e.losses i := by
  unfold losses
  rcases h.came with ⟨hd, -⟩ | ⟨d, hm, hd, hl⟩
  · rw [hd]
  · rw [hd, List.countP_cons_of_neg]
    rw [Delivery.isLossOf, Bool.and_eq_true, decide_eq_true_eq]
    rintro ⟨hlost, hne, -⟩
    exact hne (hm.trans (hr (hl.mpr hlost)))

/-- A lost sample is a loss of its own indicator and of no other. -/
theorem losses_lost (i : String) (hr : r = .ok .lost) (hm : m ≠ .sinkErrors) :
    e'.losses i = e.losses i + (m.name == i).toNat := by
  unfold losses
  rcases h.came with ⟨-, hne⟩ | ⟨d, rfl, hd, hl⟩
  · exact absurd hr hne
  · have hd' : d.isLossOf i = (d.metric.name == i) := by
      rw [Delivery.isLossOf, hl.mp hr, Bool.true_and, Bool.eq_iff_iff, decide_eq_true_eq, beq_iff_eq]
      exact ⟨fun h => h.2, fun h => ⟨hm, h⟩⟩
    rw [hd, List.countP_cons, hd']
    cases d.metric.name == i <;> rfl

/-- A sample of another metric reports no tally. -/
theorem reports (i : String) (hm : m ≠ .sinkErrors) : e'.reports i = e.reports i := by
  unfold Emitter.reports
  rcases h.came with ⟨hd, -⟩ | ⟨d, rfl, hd, -⟩
  · rw [hd]
  · have hd' : ¬ d.isReportOf i = true := by
      rw [Delivery.isReportOf, decide_eq_true_eq]
      exact fun hr => hm hr.1
    rw [hd, List.filter_cons_of_neg hd']

theorem deliveries_length : e'.deliveries.length ≤ e.deliveries.length + 1 := by
  rcases h.came with ⟨hd, -⟩ | ⟨d, -, hd, -⟩
  · rw [hd]
    exact Nat.le_succ _
  · exact Nat.le_of_eq (congrArg List.length hd)

end Offered

/-! ### The report of a tally -/

theorem tagsFor_text (i : String) :
    Metric.sinkErrors.tagsFor (.record [("indicator", .text i)]) = .ok [("indicator", i)] := by
  have h : Metric.sinkErrors.validate (some [("indicator", .text i)]) = .ok [("indicator", i)] := by
    simp [Metric.validate, Metric.missing, Metric.extra, Metric.tagsOf, Metric.sinkErrors,
      Entries.has, Entries.get?, Entries.put, sortTexts]
  exact Metric.mapError_ok_iff.mpr h

theorem tagsFor_other {d : Datum} (h : ∀ i, d ≠ .text i) :
    ∃ f, Metric.sinkErrors.tagsFor (.record [("indicator", d)]) = .error f := by
  cases ht : Metric.sinkErrors.tagsFor (.record [("indicator", d)]) with
  | error f => exact ⟨f, rfl⟩
  | ok tags =>
      have hfits : Metric.sinkErrors.FitsRecord [("indicator", d)] :=
        Metric.tagsFor_ok_iff.mp ⟨tags, ht⟩
      obtain ⟨s, hs⟩ := hfits.texts "indicator" List.mem_cons_self
      exact absurd (Option.some.inj hs) (h s)

theorem toFloat_natCast {n : Nat} (h : n ≤ Binary64.largestWhole) :
    Datum.toFloat (.int n) = .ok (Binary64.ofNat n) := by
  have hf : (Binary64.ofInt n).isFinite = true := (Binary64.isFinite_ofNat n).mpr h
  rw [Datum.toFloat, Datum.floatOfInt?, if_pos hf]
  rfl

theorem toFloat_natCast_large {n : Nat} (h : Binary64.largestWhole < n) :
    Datum.toFloat (.int n) = .error .integerTooLarge := by
  have hf : ¬ (Binary64.ofInt n).isFinite = true :=
    fun hf => Nat.not_le.mpr h ((Binary64.isFinite_ofNat n).mp hf)
  rw [Datum.toFloat, Datum.floatOfInt?, if_neg hf]
  rfl

/-- The gate lets the total of a text through as long as it is a number of the format. -/
theorem accept_report {n : Nat} (h : n ≤ Binary64.largestWhole) (i : String) :
    accept .sinkErrors .gauge (.int n) (.record [("indicator", .text i)]) =
      .ok (Binary64.ofNat n, [("indicator", i)]) := by
  unfold accept
  rw [if_neg (show ¬ Metric.sinkErrors.type ≠ .gauge from fun h => h rfl), tagsFor_text,
    toFloat_natCast h]
  dsimp only
  rw [(Binary64.isFinite_ofNat n).mpr h, Binary64.ofNat_lt_zero]
  rfl

theorem accept_report_large {n : Nat} (h : Binary64.largestWhole < n) (i : String) :
    accept .sinkErrors .gauge (.int n) (.record [("indicator", .text i)]) =
      .error (.shape .integerTooLarge) := by
  unfold accept
  rw [if_neg (show ¬ Metric.sinkErrors.type ≠ .gauge from fun h => h rfl), tagsFor_text,
    toFloat_natCast_large h]

theorem accept_report_other {d : Datum} (h : ∀ i, d ≠ .text i) (n : Nat) :
    ∃ f, accept .sinkErrors .gauge (.int n) (.record [("indicator", d)]) = .error f := by
  obtain ⟨f, hf⟩ := tagsFor_other h
  refine ⟨f, ?_⟩
  unfold accept
  rw [if_neg (show ¬ Metric.sinkErrors.type ≠ .gauge from fun h => h rfl), hf]

/-- The application tag hides no other. -/
theorem get?_tagged (e : Emitter) (tags : Tags) {key : String} (h : key ≠ applicationKey) :
    Entries.get? key (e.tagged tags) = Entries.get? key tags := by
  unfold tagged
  split
  · split
    · rfl
    · refine Entries.get?_put_of_ne ?_ ?_ _ tags
      · exact beq_eq_false_iff_ne.mpr (Ne.symm h)
      · intro a ha
        rw [beq_iff_eq.mp ha]
        exact beq_eq_false_iff_ne.mpr (Ne.symm h)
  · rfl

/-! ### The balance of errors -/

theorem counted_tally (e : Emitter) (k : Key) (i : String) :
    (e.counted k).health.tally (.text i) = e.health.tally (.text i) + (k == .text i).toNat :=
  e.health.tally_countError k i

theorem counted_tally_self (e : Emitter) (i : String) :
    (e.counted (.text i)).health.tally (.text i) = e.health.tally (.text i) + 1 := by
  rw [counted_tally, Key.beq_text_iff.mpr rfl, Bool.toNat_true]

theorem reportTally_offered (e : Emitter) (k : Key) (d : Datum) :
    Offered .sinkErrors (e.reportTally k d).2 (e.counted k) (e.reportTally k d).1 :=
  offer_offered _ _ _ _ _

/-- The key of a value is a text exactly when the value is that text. -/
theorem key_beq_text {d : Datum} {k : Key} (h : Key.ofDatum d = .ok k) (i : String) :
    (k == .text i) = (Call.recordError d).isErrorOf i := by
  cases d with
  | list _ => cases h
  | record _ => cases h
  | text j =>
      obtain rfl := Except.ok.inj h
      rfl
  | _ =>
      obtain rfl := Except.ok.inj h
      rfl

/-- Recording an error of an indicator is one step of its tally, and loses no sample of any. -/
theorem recordError_balance (e : Emitter) (d : Datum) (i : String) :
    (e.recordError d).1.health.tally (.text i) =
        e.health.tally (.text i) + ((Call.recordError d).isErrorOf i).toNat
      ∧ (e.recordError d).1.losses i = e.losses i := by
  have hreport : ∀ k, Key.ofDatum d = .ok k →
      (e.reportTally k d).1.health.tally (.text i) =
          e.health.tally (.text i) + ((Call.recordError d).isErrorOf i).toNat
        ∧ (e.reportTally k d).1.losses i = e.losses i := by
    intro k hk
    have ho := reportTally_offered e k d
    rw [ho.tally, counted_tally, key_beq_text hk i, ho.losses_kept i fun _ => rfl]
    exact ⟨rfl, rfl⟩
  refine recordError_cases (P := fun r => r.1.health.tally (.text i) =
        e.health.tally (.text i) + ((Call.recordError d).isErrorOf i).toNat
      ∧ r.1.losses i = e.losses i) e d ?_ ?_ ?_
  · intro s hs
    have hn : (Call.recordError d).isErrorOf i = false := by
      cases d with
      | text j => cases hs
      | _ => rfl
    rw [hn]
    exact ⟨rfl, rfl⟩
  · intro k e' f hk hr
    have hb := hreport k hk
    rwa [hr] at hb
  · intro k e' a hk hr
    have hb := hreport k hk
    rwa [hr] at hb

/-- A sample steps a tally exactly when it is a loss of that indicator. -/
theorem submit_balance (e : Emitter) (m : Metric) (t : MetricType) (v d : Datum) (i : String) :
    (e.submit m t v d).1.health.tally (.text i) + e.losses i =
      e.health.tally (.text i) + (e.submit m t v d).1.losses i := by
  have ho := offer_offered e m t v d
  refine submit_cases (P := fun r => r.1.health.tally (.text i) + e.losses i =
    e.health.tally (.text i) + r.1.losses i) e m t v d ?_ ?_ ?_
  · intro e' f hf
    rw [hf] at ho
    rw [ho.tally, ho.losses_kept i nofun]
  · intro e' a ha hl
    rw [ha] at ho
    rw [ho.tally, ho.losses_kept i fun h => hl (Except.ok.inj h)]
  · intro e₁ e' r hl hm hr
    rw [hl] at ho
    obtain ⟨ht, hs⟩ := recordError_balance e₁ (.text m.name) i
    rw [hr] at ht hs
    have hname : (Call.recordError (.text m.name)).isErrorOf i = (m.name == i) := rfl
    rw [ht, hs, ho.tally, ho.losses_lost i rfl hm, hname]
    omega

/-- **One call**: the tally and the losses of an indicator move together, but for what the call itself
records. -/
theorem perform_balance (e : Emitter) (c : Call) (i : String) :
    (e.perform c).1.health.tally (.text i) + e.losses i =
      e.health.tally (.text i) + (c.isErrorOf i).toNat + (e.perform c).1.losses i := by
  have hframed : ∀ e', Framed e e' → e'.health.tally (.text i) + e.losses i =
      e.health.tally (.text i) + 0 + e'.losses i := by
    intro e' hf
    rw [Health.tally, Health.tally, losses, losses, hf.errors, hf.deliveries, Nat.add_zero]
  cases c with
  | sample t m v d => exact submit_balance e m t v d i
  | recordError d =>
      obtain ⟨ht, hs⟩ := recordError_balance e d i
      show (e.recordError d).1.health.tally (.text i) + e.losses i =
        _ + _ + (e.recordError d).1.losses i
      rw [ht, hs]
  | flush => exact hframed e.flush.1 (flush_framed e)
  | shutdown => exact hframed e.shutdown.1 (shutdown_framed e)

/-- **Every history**: the tally of an indicator grows by what was recorded for it and by what was lost
of it. -/
theorem balance_run (e : Emitter) (calls : List Call) (i : String) :
    (e.run calls).health.tally (.text i) + e.losses i =
      e.health.tally (.text i) + calls.countP (Call.isErrorOf i) + (e.run calls).losses i := by
  induction calls generalizing e with
  | nil => rfl
  | cons c cs ih =>
      have hc := perform_balance e c i
      have hs := ih (e.perform c).1
      have hrun : e.run (c :: cs) = (e.perform c).1.run cs := rfl
      rw [hrun, List.countP_cons]
      cases hb : c.isErrorOf i with
      | true =>
          rw [hb, Bool.toNat_true] at hc
          rw [if_pos rfl]
          omega
      | false =>
          rw [hb, Bool.toNat_false] at hc
          rw [if_neg Bool.false_ne_true]
          omega

/-! ### The reports -/

/-- The reports of every indicator are its totals from one on.  As long as the emitter is on, they are
all of its totals that are numbers of the format. -/
def Reported (e : Emitter) : Prop :=
  ∀ i, ∃ k, k ≤ e.health.tally (.text i)
    ∧ e.reports i = (List.range' 1 k).map Binary64.ofNat
    ∧ (e.health.isOff = false → k = min (e.health.tally (.text i)) Binary64.largestWhole)

theorem reported_ofSink (o : EmitterOptions) (s : Sink) : Reported (ofSink o s) := by
  intro i
  refine ⟨0, Nat.zero_le _, rfl, fun _ => ?_⟩
  show 0 = min 0 Binary64.largestWhole
  rw [Nat.zero_min]

/-- What reports nothing and counts nothing keeps the reports. -/
theorem Reported.kept {e e' : Emitter} (h : Reported e) (hr : ∀ i, e'.reports i = e.reports i)
    (he : e'.health.errors = e.health.errors)
    (hoff : e.health.isOff = true → e'.health.isOff = true) : Reported e' := by
  intro i
  obtain ⟨k, hk, hs, hon⟩ := h i
  have ht : e'.health.tally (.text i) = e.health.tally (.text i) := by
    rw [Health.tally, Health.tally, he]
  refine ⟨k, by rw [ht]; exact hk, (hr i).trans hs, fun h' => ?_⟩
  rw [ht]
  refine hon (Bool.eq_false_iff.mpr fun ho => ?_)
  rw [hoff ho] at h'
  cases h'

theorem Reported.framed {e e' : Emitter} (h : Reported e) (hf : Framed e e') : Reported e' :=
  h.kept (fun i => by rw [reports, reports, hf.deliveries]) hf.errors hf.isOff

theorem Reported.offer {e : Emitter} (h : Reported e) {m : Metric} (hm : m ≠ .sinkErrors)
    (t : MetricType) (v d : Datum) : Reported (e.offer m t v d).1 := by
  have ho := offer_offered e m t v d
  exact h.kept (fun i => ho.reports i hm) ho.errors ho.off

/-- An error that is counted and not reported: none of a text, or one of an emitter that is off, or one
beyond the totals that are numbers. -/
theorem Reported.counted {e : Emitter} (h : Reported e) (k : Key)
    (hs : ∀ i, k = .text i → e.health.isOff = false →
      Binary64.largestWhole ≤ e.health.tally (.text i)) : Reported (e.counted k) := by
  intro i
  obtain ⟨n, hn, hr, hon⟩ := h i
  have ht := counted_tally e k i
  refine ⟨n, by omega, hr, fun hoff => ?_⟩
  have hoff : e.health.isOff = false := hoff
  have hmin := hon hoff
  cases hk : k == .text i with
  | true =>
      have hlarge := hs i (Key.beq_text_iff.mp hk) hoff
      omega
  | false =>
      rw [hk, Bool.toNat_false] at ht
      omega

/-- A total that is handed to the sink is the next report of its indicator. -/
theorem Reported.next {e e' : Emitter} (h : Reported e) {i : String} {o : Option Fault}
    (hn : e.health.tally (.text i) + 1 ≤ Binary64.largestWhole) (hon : e.health.isOff = false)
    (hh : Handed ⟨.sinkErrors, .ofNat (e.health.tally (.text i) + 1),
      (e.counted (.text i)).tagged [("indicator", i)], o⟩ (e.counted (.text i)) e') :
    Reported e' := by
  intro j
  obtain ⟨k, hk, hr, hmin⟩ := h j
  have hmin := hmin hon
  have ht : e'.health.tally (.text j) =
      e.health.tally (.text j) + (Key.text i == .text j).toNat := by
    rw [Health.tally, hh.errors]
    exact counted_tally e (.text i) j
  have hget : Entries.get? "indicator" ((e.counted (.text i)).tagged [("indicator", i)]) =
      some i := by
    rw [get?_tagged _ _ (by decide)]
    rfl
  by_cases hij : i = j
  · subst hij
    rw [Key.beq_text_iff.mpr rfl, Bool.toNat_true] at ht
    have hk : k = e.health.tally (.text i) := by omega
    refine ⟨k + 1, by omega, ?_, fun _ => by omega⟩
    have hd : Delivery.isReportOf i ⟨.sinkErrors, .ofNat (e.health.tally (.text i) + 1),
        (e.counted (.text i)).tagged [("indicator", i)], o⟩ = true := decide_eq_true ⟨rfl, hget⟩
    rw [reports, hh.deliveries, List.filter_cons_of_pos hd, List.map_cons, List.reverse_cons,
      List.range'_1_concat, List.map_append, Nat.add_comm 1 k, hk]
    exact congrArg (· ++ _) (hr.trans (by rw [hk]))
  · have hne : (Key.text i == .text j) = false :=
      Bool.eq_false_iff.mpr fun hb => hij (Key.text.inj (Key.beq_text_iff.mp hb))
    rw [hne, Bool.toNat_false, Nat.add_zero] at ht
    have hd : ¬ Delivery.isReportOf j ⟨.sinkErrors, .ofNat (e.health.tally (.text i) + 1),
        (e.counted (.text i)).tagged [("indicator", i)], o⟩ = true := by
      rw [Delivery.isReportOf, decide_eq_true_eq, hget]
      exact fun hb => hij (Option.some.inj hb.2)
    refine ⟨k, by omega, ?_, fun _ => by rw [ht]; exact hmin⟩
    rw [reports, hh.deliveries, List.filter_cons_of_neg hd]
    exact hr

/-- The step of an indicator with a name keeps the reports, where the total of its errors is a number. -/
theorem Reported.offered {e : Emitter} (h : Reported e) {i : String}
    (hn : e.health.tally (.text i) + 1 ≤ Binary64.largestWhole) :
    Reported ((e.counted (.text i)).offer .sinkErrors .gauge
      (.int ((e.health.tally (.text i) + 1 : Nat) : Int)) (.record [("indicator", .text i)])).1 := by
  have ha := accept_report hn i
  refine offer_cases (P := fun r => Reported r.1) (e.counted (.text i)) _ _ _ _ ?refused ?left ?done
  case refused =>
    intro f hf
    rw [ha] at hf
    cases hf
  case left =>
    intro x tags _ hoff
    refine h.counted _ fun j _ hon => ?_
    have hoff : e.health.isOff = true := hoff
    rw [hoff] at hon
    cases hon
  case done =>
    intro x tags e' a hx hon hat
    rw [ha] at hx
    obtain ⟨rfl, rfl⟩ := Prod.mk.inj (Except.ok.inj hx)
    have hh := attempt_handed (e.counted (.text i)) .sinkErrors
      (Binary64.ofNat (e.health.tally (.text i) + 1))
      ((e.counted (.text i)).tagged [("indicator", i)])
    rw [hat] at hh
    exact h.next hn hon hh

/-- **One step of a tally keeps the reports**: while the emitter is on and the total is a number, the
step is reported. -/
theorem Reported.reportTally {e : Emitter} (h : Reported e) {d : Datum} {k : Key}
    (hk : Key.ofDatum d = .ok k) : Reported (e.reportTally k d).1 := by
  by_cases hd : ∃ i, d = .text i
  case neg =>
    -- the gate refuses what is no text, and no text was counted
    obtain ⟨f, hf⟩ := accept_report_other (fun i hi => hd ⟨i, hi⟩) ((e.counted k).health.tally k)
    rw [Emitter.reportTally, offer_of_error hf]
    refine h.counted k fun i hi => ?_
    have hb := key_beq_text hk i
    rw [Key.beq_text_iff.mpr hi] at hb
    cases d with
    | text j => exact absurd ⟨j, rfl⟩ hd
    | _ => cases hb
  case pos =>
    obtain ⟨i, rfl⟩ := hd
    obtain rfl := Except.ok.inj hk
    rw [Emitter.reportTally, counted_tally_self]
    by_cases hn : e.health.tally (.text i) + 1 ≤ Binary64.largestWhole
    case neg =>
      rw [offer_of_error (accept_report_large (by omega) i)]
      refine h.counted _ fun j hj _ => ?_
      obtain rfl := Key.text.inj hj
      omega
    case pos => exact h.offered hn

theorem Reported.recordError {e : Emitter} (h : Reported e) (d : Datum) :
    Reported (e.recordError d).1 := by
  refine recordError_cases (P := fun r => Reported r.1) e d (fun _ _ => h) ?_ ?_
  · intro k e' f hk hr
    have hs := h.reportTally hk
    rwa [hr] at hs
  · intro k e' a hk hr
    have hs := h.reportTally hk
    rwa [hr] at hs

theorem Reported.submit {e : Emitter} (h : Reported e) {m : Metric} (hm : m ≠ .sinkErrors)
    (t : MetricType) (v d : Datum) : Reported (e.submit m t v d).1 := by
  have ho := h.offer hm t v d
  refine submit_cases (P := fun r => Reported r.1) e m t v d ?_ ?_ ?_
  · intro e' f hf
    rwa [hf] at ho
  · intro e' a ha _
    rwa [ha] at ho
  · intro e₁ e' r hl _ hr
    rw [hl] at ho
    have hs := ho.recordError (.text m.name)
    rwa [hr] at hs

/-- Whether a call passes the metric of the tallies itself. -/
def Call.passesTally : Call → Bool
  | .sample _ m _ _ => decide (m = .sinkErrors)
  | _               => false

theorem Reported.perform {e : Emitter} (h : Reported e) (c : Call) (hc : c.passesTally = false) :
    Reported (e.perform c).1 := by
  cases c with
  | sample t m v d => exact h.submit (of_decide_eq_false hc) t v d
  | recordError d => exact h.recordError d
  | flush => exact h.framed (flush_framed e)
  | shutdown => exact h.framed (shutdown_framed e)

theorem Reported.run {e : Emitter} (h : Reported e) (calls : List Call)
    (hc : ∀ c ∈ calls, c.passesTally = false) : Reported (e.run calls) := by
  induction calls generalizing e with
  | nil => exact h
  | cons c cs ih =>
      rw [List.forall_mem_cons] at hc
      exact ih (h.perform c hc.1) hc.2

/-- Up to 2⁵³ the reports are the totals themselves. -/
theorem truncate_totals {k : Nat} (h : k ≤ 2 ^ 53) :
    ((List.range' 1 k).map Binary64.ofNat).map Binary64.truncate =
      (List.range' 1 k).map Int.ofNat := by
  rw [List.map_map]
  refine List.map_congr_left fun n hn => ?_
  rw [List.mem_range'_1] at hn
  rw [Function.comp_apply, Binary64.truncate_ofNat (by omega), Int.ofNat_eq_natCast]

/-! ### How many samples a call hands over -/

theorem recordError_deliveries_length (e : Emitter) (d : Datum) :
    (e.recordError d).1.deliveries.length ≤ e.deliveries.length + 1 := by
  refine recordError_cases (P := fun r => r.1.deliveries.length ≤ e.deliveries.length + 1) e d
    (fun _ _ => Nat.le_succ _) ?_ ?_
  · intro k e' f _ hr
    have hl := (reportTally_offered e k d).deliveries_length
    rwa [hr] at hl
  · intro k e' a _ hr
    have hl := (reportTally_offered e k d).deliveries_length
    rwa [hr] at hl

theorem submit_deliveries_length (e : Emitter) (m : Metric) (t : MetricType) (v d : Datum) :
    (e.submit m t v d).1.deliveries.length ≤ e.deliveries.length + 2 := by
  have ho := (offer_offered e m t v d).deliveries_length
  refine submit_cases (P := fun r => r.1.deliveries.length ≤ e.deliveries.length + 2)
    e m t v d ?_ ?_ ?_
  · intro e' f hf
    rw [hf] at ho
    exact Nat.le_succ_of_le ho
  · intro e' a ha _
    rw [ha] at ho
    exact Nat.le_succ_of_le ho
  · intro e₁ e' r hl _ hr
    rw [hl] at ho
    have hs := recordError_deliveries_length e₁ (.text m.name)
    rw [hr] at hs
    exact Nat.le_trans hs (Nat.succ_le_succ ho)

theorem perform_deliveries_length (e : Emitter) (c : Call) :
    (e.perform c).1.deliveries.length ≤ e.deliveries.length + c.mostDeliveries := by
  cases c with
  | sample t m v d => exact submit_deliveries_length e m t v d
  | recordError d => exact recordError_deliveries_length e d
  | flush => exact Nat.le_of_eq (congrArg List.length (flush_framed e).deliveries)
  | shutdown => exact Nat.le_of_eq (congrArg List.length (shutdown_framed e).deliveries)

/-! ### Every history -/

/-- **Errors are conserved.**  After every history in which no caller passes the metric of the tallies:
the tally of an indicator is the number of errors recorded for it and of samples of it that were lost,
reports of tallies apart; its reports are its totals from one on, in order, without a gap or a
repetition, each the number nearest to the total and up to 2⁵³ the total itself; while the emitter is
on they are all of them, up to the largest total that is a number of the format; and one more call
hands at most two samples over, or one where it records an error, or none. -/
theorem errors_conserved (o : EmitterOptions) (s : Sink) (calls : List Call)
    (hc : ∀ c ∈ calls, c.passesTally = false) :
    let e := (ofSink o s).run calls
    (∀ i, e.health.tally (.text i) =
        calls.countP (Call.isErrorOf i) + e.deliveries.countP (Delivery.isLossOf i))
    ∧ (∀ i, ∃ k, k ≤ e.health.tally (.text i)
        ∧ e.reports i = (List.range' 1 k).map Binary64.ofNat
        ∧ (k ≤ 2 ^ 53 → (e.reports i).map Binary64.truncate = (List.range' 1 k).map Int.ofNat)
        ∧ (e.health.isOff = false →
            k = min (e.health.tally (.text i)) Binary64.largestWhole))
    ∧ (∀ c, (e.perform c).1.deliveries.length ≤ e.deliveries.length + c.mostDeliveries) := by
  intro e
  have hr : Reported e := (reported_ofSink o s).run calls hc
  refine ⟨fun i => ?_, fun i => ?_, perform_deliveries_length e⟩
  · have hb := balance_run (ofSink o s) calls i
    have h₀ : (ofSink o s).losses i = 0 := rfl
    have ht : (ofSink o s).health.tally (.text i) = 0 := rfl
    rw [h₀, ht, Nat.add_zero, Nat.zero_add] at hb
    exact hb
  · obtain ⟨k, hk, hs, hon⟩ := hr i
    refine ⟨k, hk, hs, fun hexact => ?_, hon⟩
    rw [hs]
    exact truncate_totals hexact

/-- A sink that loses its second sample. -/
def losingSecond : Sink :=
  .rehearsal { deliveries := ⟨[none, some (.outside .sinkTransient none)], none⟩ }

/-- Two samples of a metric and an error recorded for it. -/
def samplesAndError : List Call :=
  [.sample .gauge .jobOrphanRunning (.int 1) .null, .sample .gauge .jobOrphanRunning (.int 2) .null,
   .recordError (.text "job_orphan_running")]

/-- One loss and one recorded error are reported as one and two. -/
theorem errors_of_three_calls :
    let e := (ofSink {} losingSecond).run samplesAndError
    (∀ c ∈ samplesAndError, c.passesTally = false)
    ∧ e.health.tally (.text "job_orphan_running") = 1 + 1
    ∧ (e.reports "job_orphan_running").map Binary64.truncate = [1, 2] := by
  intro e
  have hc : ∀ c ∈ samplesAndError, c.passesTally = false := by decide +kernel
  have hoff : e.health.isOff = false := by decide +kernel
  have hrec : samplesAndError.countP (Call.isErrorOf "job_orphan_running") = 1 := by decide +kernel
  have hlost : e.deliveries.countP (Delivery.isLossOf "job_orphan_running") = 1 := by
    decide +kernel
  obtain ⟨ht, hr, -⟩ := errors_conserved {} losingSecond samplesAndError hc
  have ht : e.health.tally (.text "job_orphan_running") = _ + _ := ht "job_orphan_running"
  obtain ⟨k, -, -, hs, hon⟩ := hr "job_orphan_running"
  have hk : k = min (e.health.tally (.text "job_orphan_running")) Binary64.largestWhole := hon hoff
  have hs : k ≤ 2 ^ 53 → (e.reports "job_orphan_running").map Binary64.truncate = _ := hs
  rw [hrec, hlost] at ht
  have hlarge : twoPow 1 ≤ Binary64.largestWhole :=
    Nat.le_trans (twoPow_le (by decide)) Binary64.largestWhole_bounds.1
  have hk : k = 2 := by
    rw [hk, ht]
    exact Nat.min_eq_left hlarge
  subst hk
  exact ⟨hc, ht, hs (by decide)⟩

end Emitter
end FleetHealth
