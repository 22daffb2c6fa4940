import FleetHealth.Repository.Aggregate
import Mathlib.Data.List.Perm.Basic

/-!
# Proofs — Repository — Behind

How many connections fell behind their cadence.  `Connection` is what a row says, once its schedule is read; `isBehind` is the verdict on one of them, and the count is that of the connections for which it holds (`missedSchedules_eq`).

The verdict on a connection looks at nothing but the connection and the present moment, and it is kept as time passes and lost as the cadence gets longer (`isBehind_later`, `isBehind_shorter`).  What these say of the count is `missed_schedules_counted`.
-/

namespace FleetHealth

/-- What is known of a connection: its cadence, which a missing or malformed schedule does not have; the
status of its last sync and the moment at which that sync was last heard of; and when the connection was
created. -/
structure Connection where
  cadence : Option Duration
  lastStatus : Option String
  lastHeard : Option Instant
  created : Instant

namespace Connection

/-- A row says what is known of a connection; a schedule that is a text has room for so many containers
one inside the other. -/
structure IsRow (nesting : Nat) (c : Connection) (row : Datum) : Prop where
  schedule : ∃ d, row.column "schedule" = .ok d ∧ Schedule.interval nesting d = .ok c.cadence
  status : row.column "last_status" = .ok (.optText c.lastStatus)
  heard : row.column "last_updated_at" = .ok (c.lastHeard.elim .null .instant)
  created : row.column "created_at" = .ok (.instant c.created)

/-- The moment since which a connection is waited for: its creation when it never ran, and the end of
its last sync when that has ended.  A sync of any other status is waited for from no moment. -/
def waitedSince (c : Connection) : Option Instant :=
  match c.lastStatus with
  | none   => some c.created
  | some s => if s ∈ ["succeeded", "failed", "cancelled"] then c.lastHeard else none

/-- Whether a connection fell behind: its cadence is at most a day, and it has been waited for longer
than that. -/
def isBehind (now : Instant) (c : Connection) : Bool :=
  c.cadence.any fun d => d.micros ≤ (Duration.ofDays 1).micros
    && c.waitedSince.any fun t => d.micros < (now.since t).micros

/-- A connection that cannot fall behind. -/
inductive IsIdle (c : Connection) : Prop
  | uncharted (h : c.cadence = none)
  | rare {d : Duration} (h : c.cadence = some d) (hd : (Duration.ofDays 1).micros < d.micros)
  | inFlight {s : String} (h : c.lastStatus = some s) (hs : s ∉ ["succeeded", "failed", "cancelled"])
  | unended {s : String} (h : c.lastStatus = some s) (hnone : c.lastHeard = none)

/-! ### One connection -/

variable {nesting : Nat} {c : Connection} {row : Datum}

theorem isBehind_eq_false (now : Instant) (h : c.IsIdle) : c.isBehind now = false := by
  unfold isBehind
  cases h with
  | uncharted h => rw [h]; rfl
  | rare h hd => rw [h, Option.any_some, decide_eq_false (by omega), Bool.false_and]
  | inFlight h hs =>
      have hnone : c.waitedSince = none := by rw [waitedSince, h]; exact if_neg hs
      cases c.cadence <;> simp [hnone]
  | unended h hnone =>
      have hnone : c.waitedSince = none := by rw [waitedSince, h, hnone]; exact ite_self none
      cases c.cadence <;> simp [hnone]

/-- As time passes, who fell behind stays behind. -/
theorem isBehind_later {now later : Instant} (h : now.micros ≤ later.micros)
    (hb : c.isBehind now = true) : c.isBehind later = true := by
  unfold isBehind Instant.since at hb ⊢
  cases hc : c.cadence <;> cases hw : c.waitedSince <;> simp [hc, hw] at hb ⊢
  omega

/-- Who falls behind a cadence falls behind a shorter one. -/
theorem isBehind_shorter {now : Instant} {d longer : Duration} (hc : c.cadence = some d)
    (h : d.micros ≤ longer.micros)
    (hb : isBehind now { c with cadence := some longer } = true) : c.isBehind now = true := by
  have hsame : waitedSince { c with cadence := some longer } = c.waitedSince := rfl
  unfold isBehind at hb ⊢
  rw [hsame] at hb
  cases hw : c.waitedSince <;> simp [hc, hw] at hb ⊢
  omega

/-- **The verdict on a row** is the one on its connection. -/
theorem fellBehind_eq (now : Instant) (h : c.IsRow nesting row) :
    Rows.fellBehind nesting now row = .ok (c.isBehind now) := by
  obtain ⟨⟨d, hd, hcadence⟩, hstatus, hheard, hcreated⟩ := h
  have hread : Rows.fellBehind nesting now row =
      Schedule.missed c.cadence (.optText c.lastStatus) (c.lastHeard.elim .null .instant)
        (.instant c.created) (.instant now) := by
    unfold Rows.fellBehind
    rw [hd, hstatus, hheard, hcreated]
    show (Schedule.interval nesting d >>= _) = _
    rw [hcadence]
    rfl
  rw [hread]
  unfold Schedule.missed isBehind waitedSince
  cases c.cadence with
  | none => rfl
  | some cadence =>
      have hwords : ∀ s, JobStatus.terminalWords.contains s = true
          ↔ s ∈ ["succeeded", "failed", "cancelled"] := by
        intro s
        simp only [JobStatus.terminalWords, List.contains_iff_mem, List.mem_cons, List.not_mem_nil]
        tauto
      by_cases hlong : (Duration.ofDays 1).micros < cadence.micros
      · have hle : ¬ cadence.micros ≤ (Duration.ofDays 1).micros := by omega
        simp [Duration.longerThan, Schedule.horizon, hlong, hle]
      · have hle : cadence.micros ≤ (Duration.ofDays 1).micros := by omega
        simp only [Duration.longerThan, Schedule.horizon, hlong, decide_false, Bool.false_eq_true,
          if_false, Option.any_some, hle, decide_true, Bool.true_and]
        cases c.lastStatus with
        | none => rfl
        | some s =>
            simp only [Schedule.lastStatusOf, Datum.optText, hwords]
            split
            · cases c.lastHeard <;> rfl
            · rfl

end Connection

open Connection

namespace Rows

variable {nesting : Nat} {connections : List Connection} {rows : List Datum}

/-- **The count of the rows** is the number of the connections that fell behind. -/
theorem missedSchedules_eq (now : Instant) (h : List.Forall₂ (IsRow nesting) connections rows) :
    missedSchedules nesting now rows = .ok (connections.countP (isBehind now)) := by
  suffices hfrom : ∀ n : Nat, rows.foldlM (fun (n : Int) row => do
      .ok (if ← fellBehind nesting now row then n + 1 else n)) (n : Int) =
      (.ok ((n + connections.countP (isBehind now) : Nat) : Int) : Except ShapeFault Int) by
    have hall := hfrom 0
    rwa [Nat.zero_add] at hall
  induction h with
  | nil => exact fun n => rfl
  | @cons c row connections rows hrow _ ih =>
      intro n
      rw [List.foldlM_cons, fellBehind_eq now hrow, List.countP_cons]
      cases c.isBehind now with
      | true =>
          have hnext := ih (n + 1)
          rw [Nat.add_right_comm] at hnext
          exact hnext
      | false => exact ih n

end Rows

/-! ### The fleet -/

namespace Repository

variable {r : Repository} {nesting : Nat} {connections : List Connection} {rows : List Datum}

/-- A repository answers with a number of connections that fell behind when it is sent rows. -/
def Counts (r : Repository) (now : Instant) (rows : List Datum) (n : Nat) : Prop :=
  r.answer now .jobsNotRunningOnScheduleLastDay (.ok (.list rows)) = .ok (.plain (.int n))

theorem counts_of_rows (now : Instant) (h : List.Forall₂ (IsRow r.nesting) connections rows) :
    r.Counts now rows (connections.countP (isBehind now)) := by
  unfold Counts answer aggregate
  show (Rows.missedSchedules r.nesting now rows >>= _).mapError Fault.shape = _
  rw [Rows.missedSchedules_eq now h]
  rfl

/-- The connections of the rows before and after one of them. -/
theorem exists_split {before after : List Datum} {row : Datum}
    (h : List.Forall₂ (IsRow nesting) connections (before ++ row :: after)) :
    ∃ earlier later, List.Forall₂ (IsRow nesting) earlier before ∧
      List.Forall₂ (IsRow nesting) later after := by
  have hrest := List.forall₂_drop_append connections before (row :: after) h
  obtain ⟨_, later, -, hlater, -⟩ := List.forall₂_cons_right_iff.mp hrest
  exact ⟨_, later, List.forall₂_take_append connections before (row :: after) h, hlater⟩

theorem forall₂_insert {earlier later : List Connection} {c : Connection} {before after : List Datum}
    {row : Datum} (hbefore : List.Forall₂ (IsRow nesting) earlier before) (hrow : c.IsRow nesting row)
    (hafter : List.Forall₂ (IsRow nesting) later after) :
    List.Forall₂ (IsRow nesting) (earlier ++ c :: later) (before ++ row :: after) :=
  List.rel_append hbefore (.cons hrow hafter)

/-- **How many connections fell behind**, of rows whose schedules can be read.  The number is that of the
rows with a cadence of at most a day for which more time has passed: since the connection was created,
if it never ran, or since its last sync ended.  So it adds up over two lists of rows and does not depend
on their order; it never falls as time passes and never rises as one cadence gets longer; and the rows
without a cadence or with one of more than a day, those whose last sync has not ended and those that do
not say when it did contribute nothing at any moment. -/
theorem missed_schedules_counted (r : Repository) {connections : List Connection} {rows : List Datum}
    (h : List.Forall₂ (IsRow r.nesting) connections rows) :
    (∀ now, r.Counts now rows (connections.countP (isBehind now)))
      ∧ (∀ now before after, rows = before ++ after →
        ∃ m n, r.Counts now before m ∧ r.Counts now after n ∧ r.Counts now rows (m + n))
      ∧ (∀ now shuffled, rows.Perm shuffled →
        ∃ n, r.Counts now rows n ∧ r.Counts now shuffled n)
      ∧ (∀ now later, now.micros ≤ later.micros →
        ∃ m n, r.Counts now rows m ∧ r.Counts later rows n ∧ m ≤ n)
      ∧ (∀ now before row row' after (c : Connection) (d longer : Duration),
        rows = before ++ row :: after → c.IsRow r.nesting row → c.cadence = some d →
        d.micros ≤ longer.micros → IsRow r.nesting { c with cadence := some longer } row' →
        ∃ m n, r.Counts now rows m ∧ r.Counts now (before ++ row' :: after) n ∧ n ≤ m)
      ∧ ∀ before row after (c : Connection), rows = before ++ row :: after →
        c.IsRow r.nesting row → c.IsIdle →
        ∀ now, ∃ n, r.Counts now rows n ∧ r.Counts now (before ++ after) n := by
  refine ⟨fun now => counts_of_rows now h, ?_, ?_, ?_, ?_, ?_⟩
  · rintro now before after rfl
    have hbefore := List.forall₂_take_append connections before after h
    have hafter := List.forall₂_drop_append connections before after h
    have hall := counts_of_rows (r := r) now (List.rel_append hbefore hafter)
    rw [List.countP_append] at hall
    exact ⟨_, _, counts_of_rows now hbefore, counts_of_rows now hafter, hall⟩
  · intro now shuffled hperm
    obtain ⟨shuffled', hsame, hrows⟩ :
        Relation.Comp List.Perm (List.Forall₂ (IsRow r.nesting)) connections shuffled :=
      List.forall₂_comp_perm_eq_perm_comp_forall₂ ▸ ⟨rows, h, hperm⟩
    have hcount := counts_of_rows (r := r) now hrows
    rw [← hsame.countP_eq] at hcount
    exact ⟨_, counts_of_rows now h, hcount⟩
  · intro now later hle
    exact ⟨_, _, counts_of_rows now h, counts_of_rows later h,
      List.countP_mono_left fun _ _ => isBehind_later hle⟩
  · rintro now before row row' after c d longer rfl hrow hc hle hrow'
    obtain ⟨earlier, later, hbefore, hafter⟩ := exists_split h
    refine ⟨_, _, counts_of_rows now (forall₂_insert hbefore hrow hafter),
      counts_of_rows now (forall₂_insert hbefore hrow' hafter), ?_⟩
    rw [List.countP_append, List.countP_append, List.countP_cons, List.countP_cons]
    have hverdict : isBehind now { c with cadence := some longer } = true → c.isBehind now = true :=
      isBehind_shorter hc hle
    refine Nat.add_le_add_left (Nat.add_le_add_left ?_ _) _
    split
    · next hb => exact Nat.le_of_eq (if_pos (hverdict hb)).symm
    · exact Nat.zero_le _
  · rintro before row after c rfl hrow hidle now
    obtain ⟨earlier, later, hbefore, hafter⟩ := exists_split h
    have hall := counts_of_rows (r := r) now (forall₂_insert hbefore hrow hafter)
    rw [List.countP_append, List.countP_cons_of_neg (by rw [isBehind_eq_false now hidle]; decide),
      ← List.countP_append] at hall
    exact ⟨_, hall, counts_of_rows now (List.rel_append hbefore hafter)⟩

/-- A connection of a cadence of six hours whose last sync failed at the start of a day, one that is to
run every hour and is running, and one that never ran. -/
def sampleConnections : List Connection :=
  [⟨some (.ofSeconds 21600), some "failed", some ⟨0⟩, ⟨0⟩⟩,
   ⟨some (.ofSeconds 3600), some "running", some ⟨0⟩, ⟨0⟩⟩,
   ⟨some (.ofSeconds 86400), none, none, ⟨0⟩⟩]

/-- A row for a schedule of so many hours. -/
def connectionRow (hours : Int) (status : Option String) (heard : Datum) : Datum :=
  .record [("schedule", .record [("units", .int hours), ("timeUnit", .text "hours")]),
    ("last_status", .optText status), ("last_updated_at", heard), ("created_at", .instant ⟨0⟩)]

/-- The rows of the three connections. -/
def sampleRows : List Datum :=
  [connectionRow 6 (some "failed") (.instant ⟨0⟩), connectionRow 1 (some "running") (.instant ⟨0⟩),
   connectionRow 24 none .null]

/-- Six hours later none of the three fell behind, and a day and a microsecond later two did. -/
theorem missed_schedules_of_three :
    List.Forall₂ (IsRow 985) sampleConnections sampleRows
      ∧ Counts { nesting := 985 } ⟨21600000000⟩ sampleRows 0
      ∧ Counts { nesting := 985 } ⟨86400000001⟩ sampleRows 2 := by
  have hrows : List.Forall₂ (IsRow 985) sampleConnections sampleRows :=
    .cons ⟨⟨_, rfl, rfl⟩, rfl, rfl, rfl⟩ (.cons ⟨⟨_, rfl, rfl⟩, rfl, rfl, rfl⟩
      (.cons ⟨⟨_, rfl, rfl⟩, rfl, rfl, rfl⟩ .nil))
  have hcount := (missed_schedules_counted { nesting := 985 } hrows).1
  exact ⟨hrows, hcount ⟨21600000000⟩, hcount ⟨86400000001⟩⟩

end Repository
end FleetHealth
