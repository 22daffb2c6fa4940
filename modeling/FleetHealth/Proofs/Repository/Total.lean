import FleetHealth.Proofs.Repository.Typed
import Mathlib.Data.List.Forall2
import Mathlib.Data.List.Nodup

/-!
# Proofs — Repository — Total

How many running jobs are counted.  The statement groups the jobs by queue, and jobs without a queue are a group of their own; the aggregate keeps them under a name (`nullQueue`) that a queue may have as well.  Of two groups of one name the later one replaces the earlier.

* `total_ofPairs`: the values of a map and those that were replaced in it are all that were put.
* `keyed_total`: so the values of a keyed aggregate and the replaced ones are those of all rows, whatever keys are known.
* `running_jobs_counted`: every running job is counted, unless both the group without a queue and the queue of its name have a row; then the jobs of the earlier row are not.
-/

namespace FleetHealth

namespace Entries

variable {κ : Type}

/-- The sum of the values of a map. -/
def total : List (κ × Int) → Int
  | []      => 0
  | e :: es => e.2 + total es

/-- The sum of the values that a later pair of the same key replaces. -/
def replaced [BEq κ] : List (κ × Int) → Int
  | []      => 0
  | e :: es => (if has e.1 es then e.2 else 0) + replaced es

theorem total_append (es fs : List (κ × Int)) : total (es ++ fs) = total es + total fs := by
  induction es with
  | nil => exact (Int.zero_add _).symm
  | cons e es ih => rw [List.cons_append, total, total, ih, Int.add_assoc]

theorem total_map {κ₀ : Type} (f : κ₀ → κ) (es : List (κ₀ × Int)) :
    total (es.map (Prod.map f id)) = total es := by
  induction es with
  | nil => rfl
  | cons e es ih => exact congrArg (e.2 + ·) ih

theorem total_zeros (ks : List κ) : total (ks.map fun k => (k, (0 : Int))) = 0 := by
  induction ks with
  | nil => rfl
  | cons k ks ih => rw [List.map_cons, total, ih]; rfl

/-! ### Sums of maps -/

variable [BEq κ]

/-- A value that is put takes the place of the one its key had. -/
theorem total_put (k : κ) (v : Int) (es : List (κ × Int)) :
    total (put k v es) + (get? k es).getD 0 = total es + v := by
  induction es with
  | nil => simp [put, get?, total]
  | cons e es ih =>
      cases he : e.1 == k with
      | true =>
          rw [put, if_pos he, get?_cons_pos _ he, total, total, Option.getD_some]
          omega
      | false =>
          rw [put, if_neg (by rw [he]; exact Bool.false_ne_true), get?_cons_neg _ he, total, total]
          omega

/-- Zeros are replaced at no loss. -/
theorem replaced_zeros (ks : List κ) (fs : List (κ × Int)) :
    replaced (ks.map (fun k => (k, 0)) ++ fs) = replaced fs := by
  induction ks with
  | nil => rfl
  | cons k ks ih =>
      rw [List.map_cons, List.cons_append, replaced, ih]
      split <;> exact Int.zero_add _

variable [LawfulBEq κ]

/-- One more pair replaces the last value that came with its key. -/
theorem replaced_append_singleton (es : List (κ × Int)) (e : κ × Int) :
    replaced (es ++ [e]) = replaced es + (get? e.1 es.reverse).getD 0 := by
  induction es with
  | nil => simp [replaced, has, get?]
  | cons x es ih =>
      have hlast : has e.1 es = (get? e.1 es.reverse).isSome := by
        rw [← has_eq_isSome, has, has, List.any_reverse]
      rw [List.cons_append, replaced, replaced, ih, List.reverse_cons, get?_append, has,
        List.any_append, ← has]
      cases hx : x.1 == e.1 with
      | true =>
          rw [eq_of_beq hx, hlast]
          cases get? e.1 es.reverse with
          | some v => simp [Int.add_assoc]
          | none => simp [get?, hx, Int.add_comm]
      | false =>
          have hne : (e.1 == x.1) = false := by
            rw [beq_eq_false_iff_ne] at hx ⊢
            exact hx.symm
          cases get? e.1 es.reverse with
          | some v => simp [hne, Int.add_assoc]
          | none => simp [get?, hx, hne]

/-- **The values of a map and those that were replaced in it are all that were put.** -/
theorem total_ofPairs (es : List (κ × Int)) : total (ofPairs es) + replaced es = total es := by
  suffices h : ∀ fresh done : List (κ × Int), total (ofPairs done) + replaced done = total done →
      total (ofPairs (done ++ fresh)) + replaced (done ++ fresh) = total (done ++ fresh) by
    exact h es [] rfl
  intro fresh
  induction fresh with
  | nil =>
      intro done h
      rwa [List.append_nil]
  | cons e fresh ih =>
      intro done h
      rw [List.append_cons]
      refine ih (done ++ [e]) ?_
      have hput := total_put e.1 e.2 (ofPairs done)
      have hlast : get? e.1 (ofPairs done) = get? e.1 done.reverse := by
        rw [ofPairs, get?_putAll]
        exact Option.or_none
      rw [hlast] at hput
      have hsnoc : ofPairs (done ++ [e]) = put e.1 e.2 (ofPairs done) := List.foldl_append
      rw [hsnoc, replaced_append_singleton, total_append, total, total]
      omega

/-! ### What is replaced -/

theorem has_eq_false {k : κ} {es : List (κ × Int)} (h : k ∉ es.map Prod.fst) : has k es = false := by
  rw [has_eq_any, List.any_eq_false]
  intro j hj hk
  exact h (eq_of_beq hk ▸ hj)

/-- Pairs whose keys do not come again are not replaced. -/
theorem replaced_append (es fs : List (κ × Int)) (hes : (es.map Prod.fst).Nodup)
    (hfs : ∀ e ∈ es, e.1 ∉ fs.map Prod.fst) : replaced (es ++ fs) = replaced fs := by
  induction es with
  | nil => rfl
  | cons e es ih =>
      rw [List.map_cons, List.nodup_cons] at hes
      obtain ⟨he, hrest⟩ := List.forall_mem_cons.mp hfs
      have hnone : has e.1 (es ++ fs) = false := by
        refine has_eq_false ?_
        rw [List.map_append, List.mem_append]
        exact not_or.mpr ⟨hes.1, he⟩
      rw [List.cons_append, replaced, hnone, ih hes.2 hrest, if_neg Bool.false_ne_true, Int.zero_add]

/-- Where no key comes twice, nothing is replaced. -/
theorem replaced_of_nodup {es : List (κ × Int)} (h : (es.map Prod.fst).Nodup) : replaced es = 0 := by
  have hall := replaced_append es [] h fun _ _ hm => (List.not_mem_nil hm).elim
  rwa [List.append_nil] at hall

end Entries

open Entries

namespace Rows

/-- Pairs of names are put over the zeros of the known names as names are. -/
theorem zeroFilled_names {α : Type} (known : List String) (pairs : List (String × α)) (zero : α) :
    zeroFilled (known.map Key.text) (pairs.map (Prod.map Key.text id)) zero =
      (ofPairs (known.map (fun k => (k, zero)) ++ pairs)).map (Prod.map Key.text id) := by
  have htext : ∀ a b : String, (Key.text a == Key.text b) = (a == b) := fun _ _ => rfl
  have hzeros : (known.map Key.text).map (fun k => (k, zero)) =
      (known.map fun k => (k, zero)).map (Prod.map Key.text id) := by
    rw [List.map_map, List.map_map]
    rfl
  have hnone : ([] : List (Key × α)) = ([] : List (String × α)).map (Prod.map Key.text id) := rfl
  rw [zeroFilled, hzeros, ofPairs, hnone, putAll_map htext, putAll_map htext, ofPairs]
  exact congrArg _ List.foldl_append.symm

/-- **The values of a keyed aggregate** and those that a later row replaced are those of all rows. -/
theorem keyed_total (known : List String) {keyOf : Datum → Except ShapeFault Datum}
    {valueOf : Datum → Except ShapeFault Int} {rows : List Datum} {pairs : List (String × Int)}
    (h : rows.mapM (pairOf keyOf valueOf) = .ok (pairs.map (Prod.map Key.text id))) :
    ∃ counts, keyed known keyOf valueOf 0 rows = .ok counts
      ∧ total counts + replaced pairs = total pairs := by
  refine ⟨zeroFilled (known.map Key.text) (pairs.map (Prod.map Key.text id)) 0, ?_, ?_⟩
  · unfold keyed
    rw [h]
    rfl
  · have hall := total_ofPairs (known.map (fun k => (k, (0 : Int))) ++ pairs)
    rw [replaced_zeros, total_append, total_zeros, Int.zero_add] at hall
    rw [zeroFilled_names, total_map]
    exact hall

end Rows

/-! ### Groups of running jobs -/

/-- The running jobs of a queue, or those without one. -/
structure QueueGroup where
  queue : Option String
  jobs : Int

namespace QueueGroup

/-- The name that a group is counted under. -/
def name (g : QueueGroup) : String := g.queue.getD Rows.nullQueue

/-- The name and the jobs of a group. -/
def pair (g : QueueGroup) : String × Int := (g.name, g.jobs)

/-- A row says what a group is. -/
def IsRow (g : QueueGroup) (row : Datum) : Prop :=
  row.column "queue" = .ok (.optText g.queue) ∧ row.column "jobs" = .ok (.int g.jobs)

/-- The jobs of all groups. -/
def jobsOfAll : List QueueGroup → Int
  | []      => 0
  | g :: gs => g.jobs + jobsOfAll gs

/-- Two groups of which one has no queue, and the other the queue of the name for none. -/
def Clash (g g' : QueueGroup) : Prop :=
  g.queue = none ∧ g'.queue = some Rows.nullQueue ∨ g.queue = some Rows.nullQueue ∧ g'.queue = none

/-- Different queues have different names, but for a clash. -/
theorem clash_of_name_eq {g g' : QueueGroup} (hn : g.name = g'.name) (hq : g.queue ≠ g'.queue) :
    Clash g g' := by
  obtain ⟨q, n⟩ := g
  obtain ⟨q', n'⟩ := g'
  cases q with
  | none =>
      cases q' with
      | none => exact absurd rfl hq
      | some s' => exact .inl ⟨rfl, congrArg some hn.symm⟩
  | some s =>
      cases q' with
      | none => exact .inr ⟨congrArg some hn, rfl⟩
      | some s' => exact absurd (congrArg some hn) hq

theorem Clash.name_eq {g g' : QueueGroup} (h : Clash g g') : g.name = g'.name := by
  unfold name
  rcases h with ⟨hg, hg'⟩ | ⟨hg, hg'⟩ <;> rw [hg, hg'] <;> rfl

theorem total_pairs (groups : List QueueGroup) : total (groups.map pair) = jobsOfAll groups := by
  induction groups with
  | nil => rfl
  | cons g gs ih => exact congrArg (g.jobs + ·) ih

theorem fst_pairs (groups : List QueueGroup) : (groups.map pair).map Prod.fst = groups.map name :=
  List.map_map

theorem pairOf_row {g : QueueGroup} {row : Datum} (h : g.IsRow row) :
    Rows.pairOf Rows.queueOf Rows.jobsOf row = .ok (Prod.map Key.text id g.pair) := by
  unfold Rows.pairOf Rows.queueOf Rows.jobsOf
  rw [h.1, h.2]
  obtain ⟨_ | s, n⟩ := g <;> rfl

theorem mapM_pairOf {groups : List QueueGroup} {rows : List Datum}
    (h : List.Forall₂ IsRow groups rows) :
    rows.mapM (Rows.pairOf Rows.queueOf Rows.jobsOf) =
      .ok ((groups.map pair).map (Prod.map Key.text id)) := by
  induction h with
  | nil => rfl
  | cons hrow _ ih =>
      rw [List.mapM_cons, pairOf_row hrow, ih]
      rfl

/-- Groups of different queues have different names, unless two of them clash. -/
theorem nodup_name {groups : List QueueGroup} (h : (groups.map queue).Nodup)
    (hno : ∀ g ∈ groups, ∀ g' ∈ groups, ¬ Clash g g') : (groups.map name).Nodup := by
  rw [List.Nodup, List.pairwise_map] at h ⊢
  exact h.imp_of_mem fun hg hg' hq hn => hno _ hg _ hg' (clash_of_name_eq hn hq)

/-- Of two groups that clash, the jobs of the earlier one are replaced, and no others. -/
theorem replaced_of_clash {before between after : List QueueGroup} {g g' : QueueGroup}
    (h : ((before ++ g :: between ++ g' :: after).map queue).Nodup) (hc : Clash g g') :
    replaced ((before ++ g :: between ++ g' :: after).map pair) = g.jobs := by
  -- without the earlier group no two names are one: a third group would have one of the two queues
  have hrest : ((before ++ (between ++ g' :: after)).map queue).Nodup
      ∧ g.queue ∉ (before ++ (between ++ g' :: after)).map queue := by
    rw [List.append_assoc, List.cons_append, List.map_append, List.map_cons,
      List.nodup_middle, List.nodup_cons, ← List.map_append] at h
    exact ⟨h.2, h.1⟩
  have hnames : ((before ++ (between ++ g' :: after)).map name).Nodup := by
    refine nodup_name hrest.1 fun x hx y hy hxy => ?_
    have hno : ∀ z ∈ before ++ (between ++ g' :: after), z.queue ≠ g.queue := fun z hz heq =>
      hrest.2 (heq ▸ List.mem_map_of_mem hz)
    rcases hc with ⟨hg, -⟩ | ⟨hg, -⟩ <;> rcases hxy with ⟨hx', hy'⟩ | ⟨hx', hy'⟩
    · exact hno x hx (hx'.trans hg.symm)
    · exact hno y hy (hy'.trans hg.symm)
    · exact hno y hy (hy'.trans hg.symm)
    · exact hno x hx (hx'.trans hg.symm)
  rw [List.map_append, List.nodup_append'] at hnames
  obtain ⟨hbefore, hlater, hdisjoint⟩ := hnames
  have hagain : g.name ∈ (between ++ g' :: after).map name := by
    rw [hc.name_eq]
    exact List.mem_map_of_mem (List.mem_append_right _ List.mem_cons_self)
  rw [List.append_assoc, List.cons_append, List.map_append, replaced_append, List.map_cons, replaced]
  · have hhas : has g.pair.1 ((between ++ g' :: after).map pair) = true := by
      rw [has_eq_any, fst_pairs, List.any_eq_true]
      exact ⟨g.name, hagain, beq_self_eq_true _⟩
    rw [hhas, if_pos rfl, replaced_of_nodup (by rw [fst_pairs]; exact hlater)]
    exact Int.add_zero _
  · rw [fst_pairs]
    exact hbefore
  · intro e he hmem
    obtain ⟨x, hx, rfl⟩ := List.mem_map.mp he
    have hx : x.name ∈ before.map name := List.mem_map_of_mem hx
    rw [fst_pairs, List.map_cons, List.mem_cons] at hmem
    rcases hmem with hmem | hmem
    · have hname : x.name = g.name := hmem
      exact hdisjoint hx (hname ▸ hagain)
    · exact hdisjoint hx hmem

end QueueGroup

open QueueGroup

namespace Rows

/-- **The running jobs that are counted**, of rows no two of which are of one queue.  All of them are,
when no row is of the queue whose name stands for no queue, or none is without a queue.  When there are
both, the jobs of the earlier of these two rows are not counted, and all others are. -/
theorem running_jobs_counted (known : List String) {groups : List QueueGroup} {rows : List Datum}
    (hrows : List.Forall₂ IsRow groups rows) (hdistinct : (groups.map queue).Nodup) :
    ∃ counts, runningJobsByQueue known rows = .ok counts
      ∧ (none ∉ groups.map queue ∨ some nullQueue ∉ groups.map queue →
        total counts = jobsOfAll groups)
      ∧ ∀ before between after g g', groups = before ++ g :: between ++ g' :: after → Clash g g' →
        total counts + g.jobs = jobsOfAll groups := by
  obtain ⟨counts, hcounts, htotal⟩ := keyed_total (known ++ [nullQueue]) (mapM_pairOf hrows)
  rw [total_pairs] at htotal
  refine ⟨counts, hcounts, fun hno => ?_, ?_⟩
  · have hclash : ∀ g ∈ groups, ∀ g' ∈ groups, ¬ Clash g g' := by
      rintro g hg g' hg' (⟨hq, hq'⟩ | ⟨hq, hq'⟩)
      · exact hno.elim (· (hq ▸ List.mem_map_of_mem hg)) (· (hq' ▸ List.mem_map_of_mem hg'))
      · exact hno.elim (· (hq' ▸ List.mem_map_of_mem hg')) (· (hq ▸ List.mem_map_of_mem hg))
    have hnames := nodup_name hdistinct hclash
    rw [replaced_of_nodup (by rw [fst_pairs]; exact hnames), Int.add_zero] at htotal
    exact htotal
  · rintro before between after g g' rfl hc
    rw [replaced_of_clash hdistinct hc] at htotal
    exact htotal

/-- A row of the statement that groups the running jobs. -/
def queueRow (g : QueueGroup) : Datum :=
  .record [("queue", .optText g.queue), ("jobs", .int g.jobs)]

/-- Two jobs in the queue of the name for no queue, one in a known queue, and three without a queue. -/
def clashingGroups : List QueueGroup := [⟨some "null", 2⟩, ⟨some "SYNC", 1⟩, ⟨none, 3⟩]

/-- Of six running jobs the two of the earlier clashing row are not counted. -/
theorem running_jobs_of_clashing_rows :
    List.Forall₂ IsRow clashingGroups (clashingGroups.map queueRow)
      ∧ (clashingGroups.map queue).Nodup
      ∧ ∃ counts, runningJobsByQueue ["SYNC"] (clashingGroups.map queueRow) = .ok counts
        ∧ total counts = 4 := by
  have hrows : List.Forall₂ IsRow clashingGroups (clashingGroups.map queueRow) :=
    .cons ⟨rfl, rfl⟩ (.cons ⟨rfl, rfl⟩ (.cons ⟨rfl, rfl⟩ .nil))
  have hdistinct : (clashingGroups.map queue).Nodup := by decide
  obtain ⟨counts, hcounts, -, hlost⟩ := running_jobs_counted ["SYNC"] hrows hdistinct
  refine ⟨hrows, hdistinct, counts, hcounts, ?_⟩
  have hjobs : total counts + 2 = 6 :=
    hlost [] [⟨some "SYNC", 1⟩] [] ⟨some "null", 2⟩ ⟨none, 3⟩ rfl (.inr ⟨rfl, rfl⟩)
  omega

/-- Of two rows of different queues, with five running jobs, three jobs are counted. -/
theorem running_jobs_lost :
    ∃ counts, runningJobsByQueue ["SYNC"] [queueRow ⟨some "null", 2⟩, queueRow ⟨none, 3⟩] = .ok counts
      ∧ total counts = 3 ∧ jobsOfAll [⟨some "null", 2⟩, ⟨none, 3⟩] = 5 :=
  ⟨_, rfl, rfl, rfl⟩

end Rows
end FleetHealth
