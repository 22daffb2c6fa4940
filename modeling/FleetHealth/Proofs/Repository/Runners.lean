import FleetHealth.Proofs.Repository.Typed
import Mathlib.Data.List.Forall2
import Mathlib.Data.List.ReduceOption

/-!
# Proofs — Repository — Runners

Which running syncs take unusually long.  `RunningSync` is what a row says of one; its `window` is that of its latest runtimes, and `isLong` the verdict, which compares the elapsed time with a quarter of an hour and with twice the mean of a full window.

* `total_window`: runtimes that are far from the end of the range have a sum, and it is their exact total rounded once.
* `longRunnerOf_row`: so the verdict on a row is the one on its sync.
* `long_runners_selected`: the records are those of the selected rows in their order, and what the selection depends on.
-/

namespace FleetHealth

/-- A running sync: its connection, its images, for how long it has been running and the runtimes of the
syncs before it, latest first, some of which may be missing. -/
structure RunningSync where
  connection : Datum
  sourceImage : Option String
  destinationImage : Option String
  elapsed : Binary64
  runtimes : List (Option Binary64)

namespace RunningSync

/-- A value is a runtime, or says that there is none. -/
def Reads : Option Binary64 → Datum → Prop
  | none,   d => d = .null
  | some x, d => d.toFloat = .ok x

/-- A row says what is known of a running sync. -/
structure IsRow (s : RunningSync) (row : Datum) : Prop where
  connection : row.column "connection_id" = .ok s.connection
  source : row.column "source_image" = .ok (.optText s.sourceImage)
  destination : row.column "destination_image" = .ok (.optText s.destinationImage)
  elapsed : ∃ d, row.column "elapsed_seconds" = .ok d ∧ d.toFloat = .ok s.elapsed
  runtimes : ∃ d, row.column "runtimes" = .ok d
    ∧ (d = .null ∧ s.runtimes = [] ∨ ∃ ds, d = .list ds ∧ List.Forall₂ Reads s.runtimes ds)

/-- The runtimes are finite and of a size below 10³⁰⁰. -/
def IsModerate (s : RunningSync) : Prop :=
  ∀ x ∈ s.runtimes.reduceOption, x.isFinite = true ∧ x.signedUnits.natAbs < 10 ^ 300 * unitsPerOne

/-- The latest runtimes that are there. -/
def window (s : RunningSync) : List Binary64 := s.runtimes.reduceOption.take 5

/-- The fifth part of the exact total of five runtimes. -/
def mean (xs : List Binary64) : Binary64 :=
  (Binary64.ofSignedRatio (Binary64.exactTotal xs) 1).divNat 5

/-- Whether a sync takes unusually long: it has five runtimes, and has been running for more than a
quarter of an hour and more than twice their mean. -/
def isLong (s : RunningSync) : Bool :=
  s.window.length == 5 && ((Binary64.ofNat 2).mul (mean s.window)).lt s.elapsed
    && (Binary64.ofNat 900).lt s.elapsed

/-- The record of a sync, where an image that is left out is the empty text. -/
def record (s : RunningSync) : LongRunner :=
  ⟨s.connection, .text (s.sourceImage.getD ""), .text (s.destinationImage.getD "")⟩

/-! ### The mean of a window -/

variable {s : RunningSync} {row : Datum}

/-- A window is full unless there are too few runtimes. -/
theorem window_isFull (s : RunningSync) :
    (s.window.length == 5) = !decide (s.runtimes.reduceOption.length < 5) := by
  rw [window, List.length_take, Bool.eq_iff_iff, beq_iff_eq, Bool.not_eq_true',
    decide_eq_false_iff_not]
  omega

/-- **The sum of a window** is its exact total, rounded once. -/
theorem total_window (h : s.IsModerate) :
    Runtime.total s.window = .ok (.ofSignedRatio (Binary64.exactTotal s.window) 1) := by
  have hspan : ∀ x ∈ s.window, x.isFinite = true ∧ Binary64.Within 2072 x.signedUnits := by
    intro x hx
    obtain ⟨hf, hlt⟩ := h x (List.mem_of_mem_take hx)
    exact Datum.IsSpan.within ⟨x, rfl, hf, hlt⟩
  have hlen : s.window.length ≤ 5 := List.length_take_le _ _
  have hsquare := Nat.mul_le_mul hlen hlen
  obtain ⟨y, hy⟩ := Binary64.sum_of_within hspan (by omega)
  have htotal := Binary64.sum_eq (fun x hx => (hspan x hx).1) hy
  rw [Runtime.total, hy, htotal]
  rfl

/-- **The verdict on the runtimes that are there** is the one on the sync. -/
theorem isUnusuallyLong_eq (h : s.IsModerate) :
    Runtime.isUnusuallyLong (.float s.elapsed) s.runtimes.reduceOption = .ok s.isLong := by
  have hwindow : s.runtimes.reduceOption.take Runtime.windowSize = s.window := rfl
  unfold Runtime.isUnusuallyLong isLong
  rw [hwindow, Runtime.threshold, total_window h]
  rw [window_isFull]
  by_cases hfew : s.runtimes.reduceOption.length < 5
  · rw [decide_eq_true hfew]
    exact if_pos hfew
  · rw [decide_eq_false hfew, Bool.not_false, Bool.true_and, mean,
      ← Runtime.limitFrom_lt (Binary64.isNaN_ofSignedRatio _ _)]
    exact if_neg hfew

/-! ### The rows -/

/-- The runtimes that are there are read off their values. -/
theorem mapM_toFloat (present : Datum → Bool) (hnull : present .null = false)
    (hother : ∀ d, d ≠ .null → present d = true) {runtimes : List (Option Binary64)}
    {ds : List Datum} (h : List.Forall₂ Reads runtimes ds) :
    (ds.filter present).mapM Datum.toFloat = .ok runtimes.reduceOption := by
  induction h with
  | nil => rfl
  | @cons x d runtimes ds hread _ ih =>
      cases x with
      | none =>
          obtain rfl : d = .null := hread
          rw [List.filter_cons_of_neg (by rw [hnull]; exact Bool.false_ne_true), ih,
            List.reduceOption_cons_of_none]
      | some x =>
          have hfloat : d.toFloat = .ok x := hread
          have hsome : d ≠ .null := by
            rintro rfl
            cases hfloat
          rw [List.filter_cons_of_pos (hother d hsome), List.mapM_cons, hfloat, ih,
            List.reduceOption_cons_of_some]
          rfl

theorem runtimesOf_row (h : s.IsRow row) : Rows.runtimesOf row = .ok s.runtimes.reduceOption := by
  obtain ⟨d, hd, ⟨rfl, hnone⟩ | ⟨ds, rfl, hds⟩⟩ := h.runtimes
  · unfold Rows.runtimesOf
    rw [hd, hnone]
    rfl
  · unfold Rows.runtimesOf
    rw [hd]
    generalize s.runtimes = runtimes at hds
    cases hds with
    | nil => rfl
    | cons hread hrest =>
        refine mapM_toFloat _ ?_ (fun d hd => ?_) (.cons hread hrest)
        · rfl
        · cases d with
          | null => exact absurd rfl hd
          | _ => rfl

theorem imageOf_row {name : String} {image : Option String}
    (h : row.column name = .ok (.optText image)) :
    Rows.imageOf name row = .ok (.text (image.getD "")) := by
  unfold Rows.imageOf
  rw [h]
  cases image with
  | none => rfl
  | some s =>
      show Except.ok (if (!s.isEmpty) = true then Datum.text s else .text "") = _
      cases hs : s.isEmpty with
      | true =>
          rw [String.isEmpty_iff] at hs
          rw [hs]
          rfl
      | false => rfl

/-- **The verdict on a row** is the one on its sync. -/
theorem longRunnerOf_row (h : s.IsRow row) (hs : s.IsModerate) :
    Rows.longRunnerOf row = .ok (if s.isLong then some s.record else none) := by
  obtain ⟨d, hd, helapsed⟩ := h.elapsed
  unfold Rows.longRunnerOf
  rw [runtimesOf_row h, hd, h.connection, imageOf_row h.source, imageOf_row h.destination]
  show (d.toFloat >>= _) = _
  rw [helapsed]
  show (Runtime.isUnusuallyLong (.float s.elapsed) s.runtimes.reduceOption >>= _) = _
  rw [isUnusuallyLong_eq hs]
  cases s.isLong <;> rfl

theorem longRunners_rows {syncs : List RunningSync} {rows : List Datum}
    (h : List.Forall₂ IsRow syncs rows) (hs : ∀ s ∈ syncs, s.IsModerate) :
    Rows.longRunners rows = .ok ((syncs.filter isLong).map record) := by
  have hrows : rows.mapM Rows.longRunnerOf =
      .ok (syncs.map fun s => if s.isLong then some s.record else none) := by
    induction h with
    | nil => rfl
    | cons hrow _ ih =>
        obtain ⟨hs, hrest⟩ := List.forall_mem_cons.mp hs
        rw [List.mapM_cons, longRunnerOf_row hrow hs, ih hrest]
        rfl
  unfold Rows.longRunners
  rw [hrows]
  show Except.ok ((syncs.map _).filterMap id) = _
  rw [List.filterMap_map, ← List.filterMap_eq_map, List.filterMap_filter]
  rfl

/-! ### What the verdict depends on -/

theorem isLong_congr {s s' : RunningSync} (he : s.elapsed = s'.elapsed)
    (hw : s.window.Perm s'.window) : s.isLong = s'.isLong := by
  have hmean : mean s.window = mean s'.window := by
    unfold mean
    rw [Binary64.exactTotal_perm hw]
  unfold isLong
  rw [hw.length_eq, hmean, he]

theorem not_isLong_of_few (h : s.runtimes.reduceOption.length < 5) : s.isLong = false := by
  rw [isLong, window_isFull, decide_eq_true h]
  rfl

theorem not_isLong_of_short (h : s.elapsed.le (.ofNat 900) = true) : s.isLong = false := by
  have hfloor : (Binary64.ofNat 900).lt s.elapsed = false := by
    rw [Binary64.le, Bool.and_eq_true, Bool.not_eq_true'] at h
    exact h.2
  rw [isLong, hfloor, Bool.and_false]

theorem isLong_later {elapsed : Binary64} (h : s.elapsed.le elapsed = true) (hs : s.isLong = true) :
    isLong { s with elapsed } = true := by
  have hwindow : window { s with elapsed } = s.window := rfl
  simp only [isLong, Bool.and_eq_true] at hs ⊢
  rw [hwindow]
  exact ⟨⟨hs.1.1, Binary64.lt_of_lt_of_le hs.1.2 h⟩, Binary64.lt_of_lt_of_le hs.2 h⟩

end RunningSync

open RunningSync

namespace Repository

/-- **The syncs that take unusually long**, of rows whose runtimes are far from the end of the range:
the records of the selected rows, in their order.  Whether a row is selected depends on its elapsed time
and on which the first five runtimes that are there are, in any order; a row with fewer of them and one
of at most a quarter of an hour are not selected; and a selected row stays so as its elapsed time
grows. -/
theorem long_runners_selected (r : Repository) (now : Instant) {syncs : List RunningSync}
    {rows : List Datum} (hrows : List.Forall₂ IsRow syncs rows) (hs : ∀ s ∈ syncs, s.IsModerate) :
    r.answer now .unusuallyLongRunningJobs (.ok (.list rows)) =
        .ok (.runners ((syncs.filter isLong).map record))
      ∧ (∀ s s' : RunningSync, s.elapsed = s'.elapsed → s.window.Perm s'.window →
        s.isLong = s'.isLong)
      ∧ (∀ s : RunningSync, s.runtimes.reduceOption.length < 5 → s.isLong = false)
      ∧ (∀ s : RunningSync, s.elapsed.le (.ofNat 900) = true → s.isLong = false)
      ∧ ∀ (s : RunningSync) (elapsed : Binary64), s.elapsed.le elapsed = true → s.isLong = true →
        isLong { s with elapsed } = true := by
  refine ⟨?_, fun _ _ => isLong_congr, fun _ => not_isLong_of_few, fun _ => not_isLong_of_short,
    fun _ _ => isLong_later⟩
  unfold answer aggregate
  show (Rows.longRunners rows >>= _).mapError Fault.shape = _
  rw [longRunners_rows hrows hs]
  rfl

/-- A sync of five runtimes of ten minutes, one of which stands behind a missing one, and one of an hour
that are not looked at; and a sync of four. -/
def sampleSyncs : List RunningSync :=
  [⟨.text "c1", some "source", none, .ofNat 1201,
      [some (.ofNat 600), none, some (.ofNat 600), some (.ofNat 600), some (.ofNat 600),
       some (.ofNat 600), some (.ofNat 3600)]⟩,
   ⟨.text "c2", none, none, .ofNat 5000,
      [some (.ofNat 600), some (.ofNat 600), some (.ofNat 600), some (.ofNat 600)]⟩]

/-- The row of a running sync. -/
def syncRow (s : RunningSync) : Datum :=
  .record [("connection_id", s.connection), ("source_image", .optText s.sourceImage),
    ("destination_image", .optText s.destinationImage), ("elapsed_seconds", .float s.elapsed),
    ("runtimes", .list (s.runtimes.map fun x => x.elim .null .float))]

theorem isRow_syncRow (s : RunningSync) : s.IsRow (syncRow s) := by
  refine ⟨rfl, rfl, rfl, ⟨_, rfl, rfl⟩, _, rfl, .inr ⟨_, rfl, ?_⟩⟩
  rw [List.forall₂_map_right_iff, List.forall₂_same]
  intro x _
  cases x <;> rfl

/-- One second more than twice the mean selects the first of two syncs. -/
theorem long_runners_of_two_syncs :
    List.Forall₂ IsRow sampleSyncs (sampleSyncs.map syncRow)
      ∧ (∀ s ∈ sampleSyncs, s.IsModerate)
      ∧ Repository.answer { nesting := 985 } ⟨0⟩ .unusuallyLongRunningJobs
          (.ok (.list (sampleSyncs.map syncRow))) =
        .ok (.runners [⟨.text "c1", .text "source", .text ""⟩]) := by
  have hrows : List.Forall₂ IsRow sampleSyncs (sampleSyncs.map syncRow) := by
    rw [List.forall₂_map_right_iff, List.forall₂_same]
    exact fun s _ => isRow_syncRow s
  have hs : ∀ s ∈ sampleSyncs, s.IsModerate :=
    List.forall_mem_cons.mpr ⟨by unfold IsModerate; decide +kernel,
      List.forall_mem_cons.mpr ⟨by unfold IsModerate; decide +kernel, List.forall_mem_nil _⟩⟩
  have hfound : (sampleSyncs.filter isLong).map record = [⟨.text "c1", .text "source", .text ""⟩] := by
    unfold sampleSyncs
    rw [List.filter_cons_of_pos (by decide +kernel), List.filter_cons_of_neg (by decide +kernel)]
    rfl
  refine ⟨hrows, hs, ?_⟩
  rw [(long_runners_selected { nesting := 985 } ⟨0⟩ hrows hs).1, hfound]

end Repository
end FleetHealth
