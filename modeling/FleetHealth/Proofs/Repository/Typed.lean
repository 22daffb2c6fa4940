import FleetHealth.Proofs.Job.Runtime
import FleetHealth.Proofs.Emitter.Tally
import FleetHealth.Repository.Aggregate

/-!
# Proofs — Repository — Typed

Rows that the statements may bring, and that every one of them is read.  `Operation.columns` is the table of the columns that an operation reads and of what each may hold; an answer is *typed* for the operation when its rows keep to the table.

* `Answers`: a computation that may fail does not, and what it answers is so; the rules follow how the readers are written.
* `keyed_answers`, `terminalRuntimes_answers`: rows with a key are aggregated under the known keys and then the observed ones, each once.
* `missedSchedules_answers`, `longRunners_answers` and the others: what is read off typed rows is there, and every number in it is a *size*, one that a sample may have.

Whatever the rows hold, nothing here depends on how they are ordered or how many share a key.
-/

namespace FleetHealth

/-- A computation answers, and what it answers is so. -/
def Answers {ε α : Type} (x : Except ε α) (P : α → Prop) : Prop := ∃ a, x = .ok a ∧ P a

namespace Answers

variable {ε α β γ : Type} {x : Except ε α} {P : α → Prop}

theorem ok {a : α} (h : P a) : Answers (.ok a : Except ε α) P := ⟨a, rfl, h⟩

theorem bind {f : α → Except ε β} {Q : β → Prop} (hx : Answers x P)
    (hf : ∀ a, P a → Answers (f a) Q) : Answers (x >>= f) Q := by
  obtain ⟨a, rfl, ha⟩ := hx
  exact hf a ha

theorem map {f : α → β} {Q : β → Prop} (hx : Answers x P) (hf : ∀ a, P a → Q (f a)) :
    Answers (x.map f) Q := by
  obtain ⟨a, rfl, ha⟩ := hx
  exact ⟨f a, rfl, hf a ha⟩

theorem mapError {δ : Type} (hx : Answers x P) (f : ε → δ) : Answers (x.mapError f) P := by
  obtain ⟨a, rfl, ha⟩ := hx
  exact ⟨a, rfl, ha⟩

theorem mono {Q : α → Prop} (hx : Answers x P) (h : ∀ a, P a → Q a) : Answers x Q := by
  obtain ⟨a, hx, ha⟩ := hx
  exact ⟨a, hx, h a ha⟩

/-- A list whose members are read one by one is read. -/
theorem mapM {f : α → Except ε β} {k : β → γ} {g : α → γ} {Q : β → Prop} (as : List α)
    (h : ∀ a ∈ as, Answers (f a) fun b => k b = g a ∧ Q b) :
    Answers (as.mapM f) fun bs => bs.map k = as.map g ∧ ∀ b ∈ bs, Q b := by
  induction as with
  | nil => exact ok ⟨rfl, fun _ hb => (List.not_mem_nil hb).elim⟩
  | cons a as ih =>
      rw [List.mapM_cons]
      refine (h a List.mem_cons_self).bind fun b hb => ?_
      refine (ih fun a ha => h a (List.mem_cons_of_mem _ ha)).bind fun bs hbs => ?_
      refine ok ⟨?_, List.forall_mem_cons.mpr ⟨hb.2, hbs.2⟩⟩
      rw [List.map_cons, List.map_cons, hb.1, hbs.1]

theorem mapM_all {f : α → Except ε β} {Q : β → Prop} (as : List α)
    (h : ∀ a ∈ as, Answers (f a) Q) : Answers (as.mapM f) fun bs => ∀ b ∈ bs, Q b :=
  (mapM (k := fun _ => ()) (g := fun _ => ()) as fun a ha =>
    (h a ha).mono fun _ hb => ⟨rfl, hb⟩).mono fun _ hbs => hbs.2

/-- A list that is gone through with a state is gone through to its end, when every step answers.  What
is known of the state may depend on the members that are left. -/
theorem foldlM {f : β → α → Except ε β} {Q : List α → β → Prop} (as : List α)
    (h : ∀ a left b, a ∈ as → Q (a :: left) b → Answers (f b a) (Q left)) {b : β} (hb : Q as b) :
    Answers (as.foldlM f b) (Q []) := by
  induction as generalizing b with
  | nil => exact ok hb
  | cons a as ih =>
      rw [List.foldlM_cons]
      exact (h a as b List.mem_cons_self hb).bind fun b hb =>
        ih (fun a left b ha => h a left b (List.mem_cons_of_mem _ ha)) hb

end Answers

/-! ### What a column may hold -/

namespace Datum

/-- A value that a sample may have: it is or writes a number that is finite and not negative. -/
def IsSize (d : Datum) : Prop := ∃ x, d.toFloat = .ok x ∧ x.isFinite = true ∧ x.lt .zero = false

/-- A count: a whole number that is not negative, of sixty-four bits. -/
def IsCount (d : Datum) : Prop := ∃ n : Nat, d = .int n ∧ n < 2 ^ 63

/-- A time in seconds, of either sign: a finite float of a size below 10³⁰⁰. -/
def IsSpan (d : Datum) : Prop :=
  ∃ x, d = .float x ∧ x.isFinite = true ∧ x.signedUnits.natAbs < 10 ^ 300 * unitsPerOne

def IsText (d : Datum) : Prop := ∃ s, d = .text s

def IsInstant (d : Datum) : Prop := ∃ t, d = .instant t

/-- The word for a terminal status. -/
def IsTerminalWord (d : Datum) : Prop := ∃ s : JobStatus, d = .text s.word ∧ s.isTerminal = true

/-- A schedule whose cadence can be read, with room for so many containers one inside the other. -/
def IsSchedule (nesting : Nat) (d : Datum) : Prop := ∃ c, Schedule.interval nesting d = .ok c

/-- A value of a kind, or nothing. -/
def OrNull (P : Datum → Prop) (d : Datum) : Prop := d = .null ∨ P d

/-- A list of times, some of which may be missing. -/
def IsSpans (d : Datum) : Prop := ∃ ds, d = .list ds ∧ ∀ e ∈ ds, OrNull IsSpan e

/-- Counts are far from the end of the range. -/
theorem le_largestWhole_of_count {n : Nat} (h : n < 2 ^ 63) : n ≤ Binary64.largestWhole := by
  have hp : twoPow 63 ≤ twoPow 1023 := twoPow_le (by decide)
  exact Nat.le_trans (Nat.le_of_lt h) (Nat.le_trans hp Binary64.largestWhole_bounds.1)

theorem IsCount.isSize {d : Datum} (h : d.IsCount) : d.IsSize := by
  obtain ⟨n, rfl, hn⟩ := h
  have hle := le_largestWhole_of_count hn
  exact ⟨_, Emitter.toFloat_natCast hle, (Binary64.isFinite_ofNat n).mpr hle, Binary64.ofNat_lt_zero n⟩

/-- What is not below zero after clamping is a size, if it was finite. -/
theorem isSize_clamp {x : Binary64} (h : x.isFinite = true) : IsSize (.float (Rows.clamp x)) := by
  refine ⟨_, rfl, ?_, ?_⟩
  · unfold Rows.clamp Binary64.max
    split
    · rfl
    · exact h
  · unfold Rows.clamp Binary64.max
    split
    · rfl
    · next hlt => exact Bool.eq_false_iff.mpr hlt

theorem isSize_zero : IsSize (.float .zero) := ⟨_, rfl, rfl, rfl⟩

theorem IsSpan.within {x : Binary64} (h : IsSpan (.float x)) :
    x.isFinite = true ∧ Binary64.Within 2072 x.signedUnits := by
  obtain ⟨y, hy, hf, hlt⟩ := h
  cases hy
  have hpow : 10 ^ 300 ≤ twoPow 998 := by decide +kernel
  have hunits : 10 ^ 300 * unitsPerOne ≤ twoPow 2072 := by
    rw [← Binary64.twoPow_mul_units 998 rfl]
    exact Nat.mul_le_mul_right _ hpow
  exact ⟨hf, Nat.le_trans (Nat.le_of_lt hlt) hunits⟩

end Datum

open Datum

/-- The columns that an operation reads off a row, each with what it may hold. -/
def Operation.columns (nesting : Nat) : Operation → List (String × (Datum → Prop))
  | .runningJobsByQueue               => [("queue", OrNull IsText), ("jobs", IsCount)]
  | .oldestRunningJobAgeByQueue       => [("queue", OrNull IsText), ("age_seconds", IsSpan)]
  | .pendingJobsByGeography           => [("geography", IsText), ("jobs", IsCount)]
  | .oldestPendingJobAgeByGeography   => [("geography", IsText), ("age_seconds", IsSpan)]
  | .activeConnectionsPerWorkspace    => [("connections", IsCount)]
  | .terminalJobRuntimeLastHour       =>
    [("status", IsTerminalWord), ("runtime_seconds", OrNull IsSpan)]
  | .jobsNotRunningOnScheduleLastDay  =>
    [("schedule", IsSchedule nesting), ("last_status", OrNull IsText), ("last_updated_at", OrNull IsInstant),
     ("created_at", IsInstant)]
  | .unusuallyLongRunningJobs         =>
    [("runtimes", OrNull IsSpans), ("elapsed_seconds", IsSpan), ("connection_id", IsText),
     ("source_image", OrNull IsText), ("destination_image", OrNull IsText)]
  | .orphanRunningJobs | .scheduledActiveConnectionsLastDay => []

/-- A row has columns, each with what it may hold. -/
def HasColumns (columns : List (String × (Datum → Prop))) (row : Datum) : Prop :=
  ∀ c ∈ columns, Answers (row.column c.1) c.2

theorem hasColumns_cons {c : String × (Datum → Prop)} {columns : List (String × (Datum → Prop))}
    {row : Datum} :
    HasColumns (c :: columns) row ↔ Answers (row.column c.1) c.2 ∧ HasColumns columns row :=
  List.forall_mem_cons

/-- Rows with columns, no more than a list can hold. -/
def IsTable (columns : List (String × (Datum → Prop))) (sent : Datum) : Prop :=
  ∃ rows, sent = .list rows ∧ rows.length < 2 ^ 63 ∧ ∀ row ∈ rows, HasColumns columns row

/-- A well-typed answer to an operation: a count or nothing for the two that ask for one, and rows for
the others. -/
def Operation.Typed (nesting : Nat) : Operation → Datum → Prop
  | .orphanRunningJobs, sent | .scheduledActiveConnectionsLastDay, sent => OrNull IsCount sent
  | o, sent => IsTable (o.columns nesting) sent

namespace Rows

variable {nesting : Nat} {row : Datum} {rows : List Datum}

/-! ### Rows with a key -/

/-- The name that a row has in a column; what has none goes by the name for no queue. -/
def nameIn (column : String) (row : Datum) : String :=
  match row.column column with
  | .ok (.text s) => s
  | _             => nullQueue

theorem queueOf_answers (h : Answers (row.column "queue") (OrNull IsText)) :
    Answers (queueOf row) fun d => d = .text (nameIn "queue" row) := by
  obtain ⟨d, hd, rfl | ⟨s, rfl⟩⟩ := h
  · unfold queueOf nameIn
    rw [hd]
    exact .ok rfl
  · unfold queueOf nameIn
    rw [hd]
    exact .ok rfl

theorem geographyOf_answers (h : Answers (row.column "geography") IsText) :
    Answers (geographyOf row) fun d => d = .text (nameIn "geography" row) := by
  obtain ⟨d, hd, s, rfl⟩ := h
  unfold geographyOf nameIn
  rw [hd]
  exact .ok rfl

theorem jobsOf_answers (h : Answers (row.column "jobs") IsCount) :
    Answers (jobsOf row) fun n => IsSize (.int n) := by
  refine h.bind fun d hd => ?_
  obtain ⟨n, rfl, hn⟩ := hd
  exact .ok (IsCount.isSize ⟨n, rfl, hn⟩)

theorem ageOf_answers (h : Answers (row.column "age_seconds") IsSpan) :
    Answers (ageOf row) fun x => IsSize (.float x) := by
  refine h.bind fun d hd => ?_
  obtain ⟨x, rfl, hx, -⟩ := hd
  exact .ok (isSize_clamp hx)

/-- **Rows with a key** are aggregated under the known keys and then the observed ones, each once. -/
theorem keyed_answers {α : Type} {known : List String} {keyOf : Datum → Except ShapeFault Datum}
    {valueOf : Datum → Except ShapeFault α} {zero : α} {nameOf : Datum → String} {P : α → Prop}
    (hk : ∀ row ∈ rows, Answers (keyOf row) fun d => d = .text (nameOf row))
    (hv : ∀ row ∈ rows, Answers (valueOf row) P) (hz : P zero) :
    Answers (keyed known keyOf valueOf zero rows) fun es =>
      es.map Prod.fst = (known ++ rows.map nameOf).eraseDups.map Key.text ∧ ∀ e ∈ es, P e.2 := by
  have hrows : Answers (rows.mapM (pairOf keyOf valueOf)) fun es =>
      es.map Prod.fst = rows.map (fun row => Key.text (nameOf row)) ∧ ∀ e ∈ es, P e.2 := by
    refine .mapM rows fun row hrow => ?_
    refine (hk row hrow).bind fun d hd => ?_
    subst hd
    exact (hv row hrow).bind fun v hv => .ok ⟨rfl, hv⟩
  refine hrows.bind fun es hes => .ok ⟨?_, ?_⟩
  · have htext : ∀ a b : String, (Key.text a == Key.text b) = (a == b) := fun _ _ => rfl
    have hknown : ((known.map Key.text).map fun k => (k, zero)).map Prod.fst = known.map Key.text := by
      rw [List.map_map, List.map_map]
      rfl
    -- the zeros come first, and an observed name that is known keeps the place of its zero
    refine Entries.keys_putAll htext (Entries.keys_ofPairs htext hknown) ?_
    rw [hes.1, List.map_map]
    rfl
  · refine Entries.forall_putAll (Entries.forall_putAll (fun _ he => (List.not_mem_nil he).elim) ?_) hes.2
    intro e he
    obtain ⟨k, -, rfl⟩ := List.mem_map.mp he
    exact hz

/-! ### Counts and lists -/

theorem count_answers {d : Datum} (h : OrNull IsCount d) : Answers (count d) fun n => IsSize (.int n) := by
  have hzero : Answers (.ok 0 : Except ShapeFault Int) fun n => IsSize (.int n) :=
    .ok (IsCount.isSize ⟨0, rfl, by decide⟩)
  unfold count
  split
  case isFalse => exact hzero
  case isTrue hp =>
    obtain rfl | ⟨n, rfl, hn⟩ := h
    · cases hp
    · exact .ok (IsCount.isSize ⟨n, rfl, hn⟩)

theorem connectionsPerWorkspace_answers
    (h : ∀ row ∈ rows, HasColumns (Operation.activeConnectionsPerWorkspace.columns nesting) row) :
    Answers (connectionsPerWorkspace rows) fun counts => ∀ n ∈ counts, IsSize (.int n) := by
  refine .foldlM (Q := fun _ counts => ∀ n ∈ counts, IsSize (.int n)) rows ?_
    (fun _ hn => (List.not_mem_nil hn).elim)
  intro row _ counts hrow hcounts
  refine (hasColumns_cons.mp (h row hrow)).1.bind fun d hd => ?_
  split
  case isFalse => exact .ok hcounts
  case isTrue =>
    obtain ⟨n, rfl, hn⟩ := hd
    refine .ok (List.forall_mem_append.mpr ⟨hcounts, fun m hm => ?_⟩)
    rw [List.mem_singleton.mp hm]
    exact IsCount.isSize ⟨n, rfl, hn⟩

theorem ofDatum_word (s : JobStatus) : JobStatus.ofDatum (.text s.word) = .ok s := by
  cases s <;> rfl

theorem word_beq (s t : JobStatus) : (s.word == t.word) = (s == t) := by
  cases s <;> cases t <;> rfl

/-- Whether a row has a runtime. -/
def hasRuntime (row : Datum) : Bool :=
  match row.column "runtime_seconds" with
  | .ok .null => false
  | _         => true

/-- The words for the statuses of the rows that have a runtime. -/
def endedIn (rows : List Datum) : List String := (rows.filter hasRuntime).map (nameIn "status")

theorem endedIn_cons_of_null (left : List Datum) (h : row.column "runtime_seconds" = .ok .null) :
    endedIn (row :: left) = endedIn left := by
  have hnone : hasRuntime row = false := by rw [hasRuntime, h]
  rw [endedIn, List.filter_cons_of_neg (by rw [hnone]; exact Bool.false_ne_true), endedIn]

theorem endedIn_cons_of_float (left : List Datum) {x : Binary64} {s : String}
    (h : row.column "runtime_seconds" = .ok (.float x)) (hs : row.column "status" = .ok (.text s)) :
    endedIn (row :: left) = s :: endedIn left := by
  have hsome : hasRuntime row = true := by rw [hasRuntime, h]
  have hname : nameIn "status" row = s := by rw [nameIn, hs]
  rw [endedIn, List.filter_cons_of_pos hsome, List.map_cons, hname, endedIn]

/-- **Rows with a status** are aggregated under the statuses that have a runtime, each once. -/
theorem terminalRuntimes_answers
    (h : ∀ row ∈ rows, HasColumns (Operation.terminalJobRuntimeLastHour.columns nesting) row) :
    Answers (terminalRuntimes rows) fun means =>
      means.map (fun e => e.1.word) = (endedIn rows).eraseDups ∧ ∀ e ∈ means, IsSize (.float e.2) := by
  -- the statuses seen so far, and the words that are left, make up all of them
  let Q (left : List Datum) (means : List (JobStatus × Binary64)) : Prop :=
    ∃ seen : List JobStatus, seen.map JobStatus.word ++ endedIn left = endedIn rows
      ∧ means.map Prod.fst = seen.eraseDups.map id ∧ ∀ e ∈ means, IsSize (.float e.2)
  have hall : Answers (terminalRuntimes rows) (Q []) := by
    refine .foldlM rows ?_ ⟨[], rfl, rfl, fun _ he => (List.not_mem_nil he).elim⟩
    rintro row left means hrow ⟨seen, hseen, hkeys, hmeans⟩
    obtain ⟨hstatus, hruntime⟩ := hasColumns_cons.mp (h row hrow)
    obtain ⟨d, hd, hspan⟩ := (hasColumns_cons.mp hruntime).1
    refine Answers.bind (P := fun d' => d' = d) ⟨d, hd, rfl⟩ fun _ heq => ?_
    subst heq
    obtain rfl | ⟨x, rfl, hx, -⟩ := hspan
    · rw [endedIn_cons_of_null left hd] at hseen
      exact .ok ⟨seen, hseen, hkeys, hmeans⟩
    · obtain ⟨d, hd', s, rfl, -⟩ := hstatus
      rw [endedIn_cons_of_float left hd hd'] at hseen
      refine Answers.bind (P := fun d' => d' = .text s.word) ⟨_, hd', rfl⟩ fun _ heq => ?_
      subst heq
      refine Answers.bind (P := fun s' => s' = s) ⟨s, ofDatum_word s, rfl⟩ fun status heq => ?_
      subst heq
      refine .ok ⟨seen ++ [status], ?_, Entries.keys_put_eraseDups (fun _ _ => rfl) hkeys status _, ?_⟩
      · rw [List.map_append, List.append_assoc]
        exact hseen
      · exact Entries.forall_put (P := fun y => IsSize (.float y)) (isSize_clamp hx) hmeans
  refine hall.mono fun means hmeans => ?_
  obtain ⟨seen, hseen, hkeys, hsizes⟩ := hmeans
  have hseen' : seen.map JobStatus.word = endedIn rows := by
    rw [← hseen]
    exact (List.append_nil _).symm
  have hwords : means.map (fun e => e.1.word) = (means.map Prod.fst).map JobStatus.word := by
    rw [List.map_map]
    rfl
  rw [hwords, hkeys, List.map_id, ← hseen', Entries.eraseDups_map word_beq]
  exact ⟨rfl, hsizes⟩

/-! ### Schedules -/

/-- Whether a connection fell behind is settled, whatever the status of its last sync. -/
theorem fellBehind_answers (now : Instant)
    (h : HasColumns (Operation.jobsNotRunningOnScheduleLastDay.columns nesting) row) :
    Answers (fellBehind nesting now row) fun _ => True := by
  simp only [Operation.columns, hasColumns_cons] at h
  obtain ⟨hs, hl, hu, hc, -⟩ := h
  refine hs.bind fun schedule hs => ?_
  obtain ⟨cadence, hs⟩ := hs
  rw [hs]
  refine hl.bind fun status hl => hu.bind fun ended hu => hc.bind fun created hc => ?_
  obtain ⟨t, rfl⟩ := hc
  cases cadence with
  | none => exact .ok trivial
  | some c =>
      dsimp only [Schedule.missed]
      split
      case isTrue => exact .ok trivial
      case isFalse =>
        obtain rfl | ⟨s, rfl⟩ := hl
        · exact .ok trivial
        · dsimp only [Schedule.lastStatusOf]
          split
          case isFalse => exact .ok trivial
          case isTrue =>
            obtain rfl | ⟨u, rfl⟩ := hu
            · exact .ok trivial
            · exact .ok trivial

theorem missedSchedules_answers (now : Instant) (hlen : rows.length < 2 ^ 63)
    (h : ∀ row ∈ rows, HasColumns (Operation.jobsNotRunningOnScheduleLastDay.columns nesting) row) :
    Answers (missedSchedules nesting now rows) fun n => IsSize (.int n) := by
  have hcount : Answers (missedSchedules nesting now rows) fun n => ∃ k : Nat, n = k ∧ k + 0 ≤ rows.length := by
    refine .foldlM (Q := fun left (n : Int) => ∃ k : Nat, n = k ∧ k + left.length ≤ rows.length) rows ?_
      ⟨0, rfl, by omega⟩
    intro row left n hrow hn
    obtain ⟨k, rfl, hk⟩ := hn
    rw [List.length_cons] at hk
    refine (fellBehind_answers now (h row hrow)).bind fun behind _ => ?_
    cases behind with
    | true => exact .ok ⟨k + 1, rfl, by omega⟩
    | false => exact .ok ⟨k, rfl, by omega⟩
  refine hcount.mono fun n hn => ?_
  obtain ⟨k, rfl, hk⟩ := hn
  exact IsCount.isSize ⟨k, rfl, by omega⟩

/-! ### Long runners -/

theorem runtimesOf_answers (h : Answers (row.column "runtimes") (OrNull IsSpans)) :
    Answers (runtimesOf row) fun xs =>
      ∀ x ∈ xs, x.isFinite = true ∧ Binary64.Within 2072 x.signedUnits := by
  have hread : ∀ present : Datum → Bool, present .null = false →
      ∀ ds : List Datum, (∀ m ∈ ds, OrNull IsSpan m) →
      Answers ((ds.filter present).mapM Datum.toFloat) fun xs =>
        ∀ x ∈ xs, x.isFinite = true ∧ Binary64.Within 2072 x.signedUnits := by
    intro present hnull ds hds
    refine .mapM_all _ fun m hm => ?_
    obtain ⟨hm, hpresent⟩ := List.mem_filter.mp hm
    obtain rfl | hspan := hds m hm
    · rw [hnull] at hpresent
      cases hpresent
    · obtain ⟨x, rfl, hx⟩ := hspan
      exact .ok (IsSpan.within ⟨x, rfl, hx⟩)
  have hnone : Answers (([] : List Datum).mapM Datum.toFloat) fun xs =>
      ∀ x ∈ xs, x.isFinite = true ∧ Binary64.Within 2072 x.signedUnits :=
    .mapM_all [] (List.forall_mem_nil _)
  refine h.bind fun d hd => ?_
  obtain rfl | ⟨ds, rfl, hds⟩ := hd
  · exact hnone
  · dsimp only
    split
    · exact hread _ rfl ds hds
    · exact hnone

theorem imageOf_answers {name : String} (h : Answers (row.column name) (OrNull IsText)) :
    Answers (imageOf name row) IsText := by
  refine h.map fun d hd => ?_
  obtain rfl | ⟨s, rfl⟩ := hd
  · exact ⟨"", rfl⟩
  · split
    · exact ⟨s, rfl⟩
    · exact ⟨"", rfl⟩

end Rows

/-- The three parts of a long runner are texts. -/
structure LongRunner.IsNamed (l : LongRunner) : Prop where
  connection : l.connectionId.IsText
  source : l.sourceImage.IsText
  destination : l.destinationImage.IsText

namespace Rows

variable {nesting : Nat} {row : Datum} {rows : List Datum}

theorem longRunnerOf_answers (h : HasColumns (Operation.unusuallyLongRunningJobs.columns nesting) row) :
    Answers (longRunnerOf row) fun found => ∀ l, found = some l → l.IsNamed := by
  simp only [Operation.columns, hasColumns_cons] at h
  obtain ⟨hruntimes, helapsed, hconnection, hsource, hdestination, -⟩ := h
  refine (runtimesOf_answers hruntimes).bind fun xs hxs => ?_
  refine helapsed.bind fun d hd => ?_
  obtain ⟨x, rfl, -⟩ := hd
  have hread : Answers (Datum.toFloat (.float x)) fun _ => True := .ok trivial
  refine hread.bind fun elapsed _ => ?_
  have hsettled : Answers (Runtime.isUnusuallyLong (.float elapsed) xs) fun _ => True := by
    obtain ⟨long, hlong⟩ := Runtime.isUnusuallyLong_of_within hxs (.float elapsed)
    exact ⟨long, hlong, trivial⟩
  refine hsettled.bind fun long _ => ?_
  cases long with
  | false => exact .ok nofun
  | true =>
      refine hconnection.bind fun c hc => ?_
      refine (imageOf_answers hsource).bind fun s hs => ?_
      refine (imageOf_answers hdestination).bind fun d hd => .ok fun l hl => ?_
      rw [← Option.some.inj hl]
      exact ⟨hc, hs, hd⟩

theorem longRunners_answers
    (h : ∀ row ∈ rows, HasColumns (Operation.unusuallyLongRunningJobs.columns nesting) row) :
    Answers (longRunners rows) fun rs => ∀ l ∈ rs, l.IsNamed := by
  have hrows : Answers (rows.mapM longRunnerOf) fun found =>
      ∀ o ∈ found, ∀ l, o = some l → l.IsNamed :=
    .mapM_all rows fun row hrow => longRunnerOf_answers (h row hrow)
  refine hrows.bind fun found hfound => .ok fun l hl => ?_
  obtain ⟨o, ho, hl⟩ := List.mem_filterMap.mp hl
  exact hfound o ho l hl

end Rows
end FleetHealth
