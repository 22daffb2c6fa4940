import FleetHealth.Proofs.Binary64.Order
import FleetHealth.Proofs.Repository.Typed

/-!
# Proofs — Job — Schedule

Which cadence a schedule payload stands for, and when it is a fault.  A payload *asks for* the product of its units and the length of their unit, and of that product alone depends what becomes of it: a duration takes less than 10⁹ days, and a product of at most half a microsecond comes to none at all.

* `microsOf_mono`: a larger float of seconds has no fewer microseconds, so three floats tell what becomes of all of them.
* `durationOfSeconds_demand`: the duration of any number of seconds that passes for positive.
* `schedules_settled`: what `interval` gives for every payload, and what one payload means for the whole fleet.
-/

namespace FleetHealth.Schedule

/-! ### Microseconds -/

/-- The microseconds in a float of seconds that is not below zero, by its count of units. -/
def microsOf (units : Nat) : Nat :=
  units / unitsPerOne * 1000000
    + divNearest (roundUnits (roundUnits (units % unitsPerOne) 1 * 1000000) 1) unitsPerOne

/-- The part of a second beyond the whole ones stays within a second when it is rounded. -/
theorem part_le (units : Nat) : roundUnits (units % unitsPerOne) 1 ≤ unitsPerOne := by
  have hlt := Nat.mod_lt units Binary64.unitsPerOne_pos
  unfold unitsPerOne at hlt ⊢
  exact roundUnits_le_of_le (Nat.le_of_lt hlt)

/-- A part of a second, scaled to microseconds, stays within the microseconds of a second. -/
theorem scaled_le {part : Nat} (h : part ≤ unitsPerOne) :
    roundUnits (part * 1000000) 1 ≤ 1000000 * unitsPerOne :=
  roundUnits_le_of_dvd (by omega) (Binary64.spacing_dvd_whole (by decide))

/-- **A larger float has no fewer microseconds.** -/
theorem microsOf_mono {m n : Nat} (h : m ≤ n) : microsOf m ≤ microsOf n := by
  unfold microsOf
  rcases Nat.lt_or_eq_of_le (Nat.div_le_div_right (c := unitsPerOne) h) with hlt | heq
  · -- a part of a second is at most a second
    have hpart := divNearest_mono unitsPerOne (scaled_le (part_le m))
    have hsecond : divNearest (1000000 * unitsPerOne) unitsPerOne = 1000000 := by
      rw [divNearest_of_dvd Binary64.unitsPerOne_pos (Nat.dvd_mul_left _ _),
        Nat.mul_div_cancel _ Binary64.unitsPerOne_pos]
    rw [hsecond] at hpart
    omega
  · have hm := Nat.div_add_mod m unitsPerOne
    have hn := Nat.div_add_mod n unitsPerOne
    have hrest : m % unitsPerOne ≤ n % unitsPerOne := by
      rw [heq] at hm
      omega
    have hpart := roundUnits_mono (Nat.mul_le_mul_right 1000000 (roundUnits_mono hrest))
    rw [heq]
    exact Nat.add_le_add_left (divNearest_mono _ hpart) _

theorem million_lt_limit : 1000000 * unitsPerOne < unitLimit := by decide +kernel

theorem fractionOf_finite (units : Nat) (held : Representable units) :
    ∃ h, fractionOf (.finite false units held) =
      .finite false (roundUnits (units % unitsPerOne) 1) h := by
  have hpart := part_le units
  have hlimit := million_lt_limit
  exact ⟨_, dif_pos (representable_roundUnits (by omega))⟩

/-- A part of a second times the microseconds of a second, in floats: one rounding of the product. -/
theorem mul_million {part : Nat} (h : part ≤ unitsPerOne) (held : Representable part) :
    ∃ h', (Binary64.finite false part held).mul (.ofInt 1000000) =
      .finite false (roundUnits (part * 1000000) 1) h' := by
  obtain ⟨_, hmillion⟩ := Binary64.ofNat_of_le (n := 1000000) (by decide)
  have hint : Binary64.ofInt 1000000 = .finite false (1000000 * unitsPerOne) _ := hmillion
  have hratio := roundUnits_mul_right (part * 1000000) 1 Binary64.unitsPerOne_pos
  rw [Nat.mul_assoc, Nat.one_mul] at hratio
  have hheld : Representable (roundUnits (part * 1000000) 1) :=
    representable_roundUnits (Nat.lt_of_le_of_lt (scaled_le h) million_lt_limit)
  refine ⟨hheld, ?_⟩
  rw [hint]
  show Binary64.ofUnits false (roundUnits _ _) = _
  rw [hratio]
  exact dif_pos hheld

/-- **The microseconds in a finite float** that is not below zero. -/
theorem microsOfSeconds_finite (units : Nat) (held : Representable units) :
    microsOfSeconds (.float (.finite false units held)) = .ok (microsOf units) := by
  obtain ⟨hf, hfraction⟩ := fractionOf_finite units held
  obtain ⟨_, hscaled⟩ := mul_million (part_le units) hf
  show Except.ok (_ * 1000000 + nearestInt _) = _
  rw [hfraction, hscaled]
  rfl

/-! ### The floats that decide -/

/-- The seconds in 10⁹ days, which no duration reaches. -/
def secondsLimit : Nat := 86400000000000

/-- The float nearest to half a microsecond. -/
def halfMicrosecond : Binary64 := .ofDecimal false 5 (-7)

/-- The count of units of the float nearest to half a microsecond. -/
def halfUnits : Nat := roundUnits (5 * unitsPerOne) 10000000

/-- The count of units of the last float of seconds below the limit of durations. -/
def lastUnits : Nat := secondsLimit * unitsPerOne - twoPow 1068

theorem halfMicrosecond_eq : ∃ held, halfMicrosecond = .finite false halfUnits held :=
  ⟨by decide +kernel, by decide +kernel⟩

/-- **Half a microsecond goes to none, and every larger float to one at least.** -/
theorem microsOf_pos_iff {units : Nat} (h : Representable units) :
    0 < microsOf units ↔ halfUnits < units := by
  -- half a microsecond is a tie, which goes to the even number; one spacing above it is past the tie
  have hhalf : microsOf halfUnits = 0 := by decide +kernel
  have hnext : microsOf (halfUnits + spacing halfUnits) = 1 := by decide +kernel
  have hdvd : spacing halfUnits ∣ halfUnits := spacing_dvd_roundUnits _ _
  constructor
  · intro hpos
    refine Nat.lt_of_not_le fun hle => ?_
    have hmono := microsOf_mono hle
    omega
  · intro hlt
    have hmono := microsOf_mono (add_spacing_le hdvd (Nat.dvd_of_mod_eq_zero h.1) hlt)
    omega

/-- **A float of seconds below the limit of durations does not round up to it.** -/
theorem microsOf_lt_iff {units : Nat} (h : Representable units) :
    microsOf units < secondsLimit * 1000000 ↔ units < secondsLimit * unitsPerOne := by
  -- the spacing around the limit is a sixty-fourth of a second, a whole number of microseconds
  have hlimit : microsOf (secondsLimit * unitsPerOne) = secondsLimit * 1000000 := by decide +kernel
  have hlast : microsOf lastUnits < secondsLimit * 1000000 := by decide +kernel
  have hnext : lastUnits + spacing lastUnits = secondsLimit * unitsPerOne := by decide +kernel
  have hdvd : spacing lastUnits ∣ lastUnits := Nat.dvd_of_mod_eq_zero (by decide +kernel)
  constructor
  · intro hmicros
    refine Nat.lt_of_not_le fun hle => ?_
    have hmono := microsOf_mono hle
    omega
  · intro hlt
    have hle : units ≤ lastUnits := by
      refine Nat.le_of_not_lt fun hgt => ?_
      have hadd := add_spacing_le hdvd (Nat.dvd_of_mod_eq_zero h.1) hgt
      omega
    have hmono := microsOf_mono hle
    omega

/-! ### Durations -/

theorem isInRange_iff (micros : Nat) :
    (Duration.mk micros).isInRange = true ↔ micros < secondsLimit * 1000000 := by
  have hdays : (Duration.mk micros).days = (micros : Int) / 86400000000 :=
    Int.fdiv_eq_ediv_of_nonneg _ (by decide)
  unfold Duration.isInRange secondsLimit
  rw [hdays, Bool.and_eq_true, decide_eq_true_eq, decide_eq_true_eq]
  omega

/-- What is given for a number of seconds: a duration that takes less than 10⁹ days, and lasts at all
unless the number is at most half a microsecond; or a fault. -/
inductive Outcome (n : Number) : Except ShapeFault Duration → Prop
  | lasts {d : Duration} (h : n.lt (.int secondsLimit) = true) (hnonneg : 0 ≤ d.micros)
      (hpos : 0 < d.micros ↔ (Number.float halfMicrosecond).lt n = true) : Outcome n (.ok d)
  | fault {e : ShapeFault} (h : n.lt (.int secondsLimit) = false)
      (he : e.kind = if n.isNaN then .value else .overflow) : Outcome n (.error e)

theorem bounded_outcome {n : Number} {micros : Nat} (hnan : n.isNaN = false)
    (hlt : n.lt (.int secondsLimit) = true ↔ micros < secondsLimit * 1000000)
    (hpos : 0 < micros ↔ (Number.float halfMicrosecond).lt n = true) :
    Outcome n (bounded ⟨micros⟩) := by
  unfold bounded
  split
  case isTrue h =>
    exact .lasts (hlt.mpr ((isInRange_iff micros).mp h)) (Int.natCast_nonneg _)
      (Int.natCast_pos.trans hpos)
  case isFalse h =>
    refine .fault (Bool.eq_false_iff.mpr fun hn => ?_) ?_
    · exact h ((isInRange_iff micros).mpr (hlt.mp hn))
    · rw [hnan]
      rfl

/-- A number of seconds that passes for positive: it is, or it is not a number. -/
inductive Demand : Number → Prop
  | whole {n : Nat} (h : 0 < n) : Demand (.int n)
  | nan : Demand (.float .nan)
  | infinity : Demand (.float (.infinity false))
  | finite (units : Nat) (held : Representable units) : Demand (.float (.finite false units held))

/-- **The duration of any number of seconds that passes for positive.** -/
theorem durationOfSeconds_demand {n : Number} (h : Demand n) : Outcome n (durationOfSeconds n) := by
  obtain ⟨hhalf, hhalf'⟩ := halfMicrosecond_eq
  cases h with
  | nan => exact .fault rfl rfl
  | infinity => exact .fault rfl rfl
  | @whole k h =>
      have hmicros : durationOfSeconds (.int k) = bounded ⟨((k * 1000000 : Nat) : Int)⟩ := by
        rw [Int.natCast_mul]
        rfl
      rw [hmicros]
      refine bounded_outcome rfl ?_ ?_
      · show decide ((k : Int) < (secondsLimit : Int)) = true ↔ _
        rw [decide_eq_true_eq]
        omega
      · rw [hhalf']
        show _ ↔ decide ((halfUnits : Int) < (k : Int) * (unitsPerOne : Int)) = true
        have hsmall : halfUnits < unitsPerOne := by decide +kernel
        have hone : unitsPerOne ≤ k * unitsPerOne := Nat.le_mul_of_pos_left _ h
        rw [decide_eq_true_eq, ← Int.natCast_mul]
        omega
  | finite units held =>
      have hmicros : durationOfSeconds (.float (.finite false units held)) =
          bounded ⟨(microsOf units : Int)⟩ := by
        unfold durationOfSeconds
        rw [microsOfSeconds_finite]
      rw [hmicros]
      refine bounded_outcome rfl ?_ ?_
      · rw [microsOf_lt_iff held]
        show decide ((units : Int) < (secondsLimit : Int) * (unitsPerOne : Int)) = true ↔ _
        rw [decide_eq_true_eq, ← Int.natCast_mul]
        omega
      · rw [microsOf_pos_iff held, hhalf']
        show _ ↔ decide ((halfUnits : Int) < (units : Int)) = true
        rw [decide_eq_true_eq]
        omega

/-! ### Payloads -/

theorem demand_int_mul {m : Int} (h : (Number.int m).le (.int 0) = false) (u : TimeUnit) :
    Demand ((Number.int m).mul (.int u.seconds)) := by
  have hle : (!decide ((0 : Int) < m)) = false := h
  have hpos : 0 < m := by simpa using hle
  obtain ⟨k, rfl⟩ := Int.eq_ofNat_of_zero_le (Int.le_of_lt hpos)
  have hseconds : 0 < u.seconds := by cases u <;> decide
  show Demand (.int ((k : Int) * (u.seconds : Int)))
  rw [← Int.natCast_mul]
  exact .whole (Nat.mul_pos (Int.natCast_pos.mp hpos) hseconds)

theorem demand_float_mul {x : Binary64} (h : (Number.float x).le (.int 0) = false) (u : TimeUnit) :
    Demand ((Number.float x).mul (.int u.seconds)) := by
  have hsmall : u.seconds ≤ 2 ^ 53 := by cases u <;> decide
  -- the length of a unit is held exactly, so only the product is rounded
  obtain ⟨held, hseconds⟩ := Binary64.ofNat_of_le hsmall
  show Demand (.float (x.mul (.ofNat u.seconds)))
  rw [hseconds]
  cases x with
  | nan => exact .nan
  | infinity s =>
      have hs : s = false := by
        cases s with
        | true => cases h
        | false => rfl
      have hne : u.seconds * unitsPerOne ≠ 0 :=
        Nat.mul_ne_zero (by cases u <;> decide) (Nat.ne_of_gt Binary64.unitsPerOne_pos)
      rw [hs]
      show Demand (.float (if u.seconds * unitsPerOne = 0 then .nan else .infinity false))
      rw [if_neg hne]
      exact .infinity
  | finite s units hunits =>
      have hs : s = false := by
        cases s with
        | false => rfl
        | true =>
            have hle : (Number.float (.finite true units hunits)).le (.int 0) = true := by
              show (!decide ((0 : Int) * unitsPerOne < -(units : Int))) = true
              rw [decide_eq_false (by omega)]
              rfl
            cases hle.symm.trans h
      rw [hs]
      show Demand (.float (Binary64.ofUnits false _))
      unfold Binary64.ofUnits
      split
      · exact .finite _ _
      · exact .infinity

/-- **What a payload asks for passes for positive.** -/
theorem demand_of_units {fs : List (String × Datum)} {n : Number} (h : units? fs = some n)
    (u : TimeUnit) : Demand (n.mul (.int u.seconds)) := by
  have hpositive : ∀ m : Number, (if m.le (.int 0) then none else some m) = some n →
      m = n ∧ m.le (.int 0) = false := by
    intro m hm
    split at hm
    · cases hm
    · next hle => exact ⟨Option.some.inj hm, Bool.eq_false_iff.mpr hle⟩
  unfold units? at h
  dsimp only at h
  split at h
  · obtain ⟨rfl, hle⟩ := hpositive _ h
    exact demand_int_mul hle u
  · obtain ⟨rfl, hle⟩ := hpositive _ h
    exact demand_float_mul hle u
  · cases h

/-- The seconds that a payload asks for: its units, when there are any, in the length of their unit. -/
def asked? (nesting : Nat) (schedule : Datum) : Option Number :=
  match payload nesting schedule with
  | .ok (some fs) =>
    match units? fs, timeUnit? fs with
    | some n, some u => some (n.mul (.int u.seconds))
    | _,      _      => none
  | _ => none

/-- What becomes of a payload.  The text of one may have a number of too many digits or nest too deep;
a payload that asks for nothing has no cadence; and of what it asks for becomes a duration, or a
fault. -/
inductive Settled (nesting : Nat) (schedule : Datum) : Except ShapeFault (Option Duration) → Prop
  | tooManyDigits {s : String} {digits : Nat} (h : schedule = .text s)
      (hs : Json.read nesting s = .error (.tooManyDigits digits)) :
      Settled nesting schedule (.error (.tooManyDigits digits))
  | tooDeep {s : String} {c : Json.Container} (h : schedule = .text s)
      (hs : Json.read nesting s = .error (.tooDeep c)) : Settled nesting schedule
        (.error (.nestedTooDeep c.word))
  | nothing {fields : Option (List (String × Datum))} (h : payload nesting schedule = .ok fields)
      (hask : asked? nesting schedule = none) : Settled nesting schedule (.ok none)
  | cadence {n : Number} {d : Duration} (hask : asked? nesting schedule = some n)
      (h : Outcome n (.ok d)) :
      Settled nesting schedule (.ok (some d))
  | fault {n : Number} {e : ShapeFault} (hask : asked? nesting schedule = some n)
      (h : Outcome n (.error e)) :
      Settled nesting schedule (.error e)

variable {nesting : Nat}

/-- Why a payload cannot be read. -/
theorem settled_of_payload {schedule : Datum} {e : ShapeFault}
    (h : payload nesting schedule = .error e) :
    Settled nesting schedule (.error e) := by
  cases schedule with
  | text s =>
      unfold payload at h
      dsimp only at h
      split at h
      · cases h
      · cases h
      · cases h
      · next hread =>
          cases h
          exact .tooManyDigits rfl hread
      · next hread =>
          cases h
          exact .tooDeep rfl hread
  | _ => cases h

theorem demand_of_asked {schedule : Datum} {n : Number} (h : asked? nesting schedule = some n) :
    Demand n := by
  unfold asked? at h
  split at h
  · split at h
    · next hn _ =>
        obtain rfl := Option.some.inj h
        exact demand_of_units hn _
    · cases h
  · cases h

/-- The cadence of a payload that can be read depends on what it asks for alone. -/
theorem interval_of_payload {schedule : Datum} {fields : Option (List (String × Datum))}
    (h : payload nesting schedule = .ok fields) :
    interval nesting schedule =
      match asked? nesting schedule with
      | none   => .ok none
      | some n => (durationOfSeconds n).map some := by
  unfold interval asked?
  rw [h]
  cases fields with
  | none => rfl
  | some fs =>
      dsimp only
      cases units? fs <;> cases timeUnit? fs <;> rfl

/-- **What becomes of every payload.** -/
theorem interval_settled (nesting : Nat) (schedule : Datum) :
    Settled nesting schedule (interval nesting schedule) := by
  cases hp : payload nesting schedule with
  | error e =>
      have hfault : interval nesting schedule = .error e := by rw [interval, hp]
      rw [hfault]
      exact settled_of_payload hp
  | ok fields =>
      rw [interval_of_payload hp]
      cases hask : asked? nesting schedule with
      | none => exact .nothing hp hask
      | some n =>
          have hout := durationOfSeconds_demand (demand_of_asked hask)
          dsimp only
          cases hd : durationOfSeconds n with
          | ok d => exact .cadence hask (hd ▸ hout)
          | error e => exact .fault hask (hd ▸ hout)

/-! ### The fleet -/

/-- A list that is gone through with a state is not gone through to its end, when a member faults in
every state. -/
theorem foldlM_fault {ε α β : Type} {f : β → α → Except ε β} {a : α} {as : List α} (ha : a ∈ as)
    (h : ∀ b, ∃ e, f b a = .error e) (b : β) : ∃ e, as.foldlM f b = .error e := by
  induction as generalizing b with
  | nil => exact (List.not_mem_nil ha).elim
  | cons x as ih =>
      rw [List.foldlM_cons]
      rcases List.mem_cons.mp ha with rfl | ha
      · obtain ⟨e, he⟩ := h b
        rw [he]
        exact ⟨e, rfl⟩
      · cases hx : f b x with
        | error e => exact ⟨e, rfl⟩
        | ok b' => exact ih ha b'

/-- The schedule of a row is a fault. -/
def IsFaulty (nesting : Nat) (row : Datum) : Prop :=
  ∃ d e, row.column "schedule" = .ok d ∧ interval nesting d = .error e

/-- The columns that a connection's row has whatever its schedule holds. -/
def columnsBesides : List (String × (Datum → Prop)) :=
  ("schedule", fun _ => True) :: (Operation.jobsNotRunningOnScheduleLastDay.columns 0).tail

theorem hasColumns_of_sound {row : Datum} (h : HasColumns columnsBesides row)
    (hs : ¬ IsFaulty nesting row) :
    HasColumns (Operation.jobsNotRunningOnScheduleLastDay.columns nesting) row := by
  obtain ⟨⟨d, hd, -⟩, hrest⟩ := hasColumns_cons.mp h
  refine hasColumns_cons.mpr ⟨⟨d, hd, ?_⟩, hrest⟩
  cases hi : interval nesting d with
  | ok c => exact ⟨c, hi⟩
  | error e => exact absurd ⟨d, e, hd, hi⟩ hs

/-- **The count of the fleet fails exactly when a schedule does.** -/
theorem missedSchedules_fault_iff (now : Instant) {rows : List Datum}
    (h : ∀ row ∈ rows, HasColumns columnsBesides row) :
    (∃ e, Rows.missedSchedules nesting now rows = .error e) ↔ ∃ row ∈ rows, IsFaulty nesting row := by
  constructor
  · rintro ⟨e, he⟩
    refine Classical.byContradiction fun hno => ?_
    have hsound : ∀ row ∈ rows, ¬ IsFaulty nesting row := fun row hrow hf => hno ⟨row, hrow, hf⟩
    have hanswers : Answers (Rows.missedSchedules nesting now rows) fun _ => True := by
      refine .foldlM (Q := fun _ _ => True) rows (fun row _ n hrow _ => ?_) trivial
      exact (Rows.fellBehind_answers now (hasColumns_of_sound (h row hrow) (hsound row hrow))).bind
        fun _ _ => .ok trivial
    obtain ⟨n, hn, -⟩ := hanswers
    rw [hn] at he
    cases he
  · rintro ⟨row, hrow, d, e, hd, hi⟩
    -- the schedule is the first column that is read, so nothing else hides its fault
    refine foldlM_fault hrow (fun n => ⟨e, ?_⟩) 0
    have hrow : Rows.fellBehind nesting now row = .error e := by
      unfold Rows.fellBehind
      rw [hd]
      show (interval nesting d >>= _) = _
      rw [hi]
      rfl
    rw [hrow]
    rfl

/-- What the repository answers fails when the count does. -/
theorem answer_fault_iff (r : Repository) (now : Instant) (rows : List Datum) :
    (∃ f, r.answer now .jobsNotRunningOnScheduleLastDay (.ok (.list rows)) = .error f)
      ↔ ∃ e, Rows.missedSchedules r.nesting now rows = .error e := by
  have hanswer : r.answer now .jobsNotRunningOnScheduleLastDay (.ok (.list rows)) =
      ((Rows.missedSchedules r.nesting now rows).map fun n =>
        Aggregate.plain (.int n)).mapError Fault.shape := by
    unfold Repository.answer Repository.aggregate
    show (Rows.missedSchedules r.nesting now rows >>= _).mapError Fault.shape = _
    cases Rows.missedSchedules r.nesting now rows <;> rfl
  rw [hanswer]
  cases Rows.missedSchedules r.nesting now rows with
  | ok n => exact ⟨nofun, nofun⟩
  | error e => exact ⟨fun _ => ⟨e, rfl⟩, fun _ => ⟨.shape e, rfl⟩⟩

/-- **What becomes of every payload, and of the fleet.**  The text of a payload may be unreadable, and
what is asked for may be no duration, or one of no length; and the number of the connections that fell
behind is not to be had exactly when the schedule of one of them is a fault. -/
theorem schedules_settled (r : Repository) (now : Instant) (rows : List Datum)
    (h : ∀ row ∈ rows, HasColumns columnsBesides row) :
    (∀ schedule, Settled r.nesting schedule (interval r.nesting schedule))
      ∧ ((∃ f, r.answer now .jobsNotRunningOnScheduleLastDay (.ok (.list rows)) = .error f)
        ↔ ∃ row ∈ rows, IsFaulty r.nesting row) :=
  ⟨interval_settled r.nesting, (answer_fault_iff r now rows).trans (missedSchedules_fault_iff now h)⟩

/-- A row of a connection whose last sync has not ended, with a schedule. -/
def rowOf (units : Datum) (unit : String) : Datum :=
  .record [("schedule", .record [("units", units), ("timeUnit", .text unit)]),
    ("last_status", .text "running"), ("last_updated_at", .null), ("created_at", .instant ⟨0⟩)]

theorem hasColumns_rowOf (units : Datum) (unit : String) :
    HasColumns columnsBesides (rowOf units unit) :=
  hasColumns_cons.mpr ⟨⟨_, rfl, trivial⟩, hasColumns_cons.mpr ⟨⟨_, rfl, .inr ⟨_, rfl⟩⟩,
    hasColumns_cons.mpr ⟨⟨_, rfl, .inl rfl⟩, hasColumns_cons.mpr ⟨⟨_, rfl, ⟨_, rfl⟩⟩,
      fun _ hc => (List.not_mem_nil hc).elim⟩⟩⟩⟩

/-- One schedule of ten to the twelfth weeks takes the count from the whole fleet. -/
theorem schedules_settled_of_vast_row :
    (∀ row ∈ [rowOf (.int 6) "hours", rowOf (.int 1000000000000) "weeks"],
        HasColumns columnsBesides row)
      ∧ ∃ f, Repository.answer { nesting := 985 } ⟨0⟩ .jobsNotRunningOnScheduleLastDay
        (.ok (.list [rowOf (.int 6) "hours", rowOf (.int 1000000000000) "weeks"])) = .error f := by
  have hrows : ∀ row ∈ [rowOf (.int 6) "hours", rowOf (.int 1000000000000) "weeks"],
      HasColumns columnsBesides row :=
    List.forall_mem_cons.mpr ⟨hasColumns_rowOf _ _, List.forall_mem_cons.mpr ⟨hasColumns_rowOf _ _,
      List.forall_mem_nil _⟩⟩
  refine ⟨hrows, (schedules_settled { nesting := 985 } ⟨0⟩ _ hrows).2.mpr
    ⟨_, List.mem_cons_of_mem _ List.mem_cons_self, ?_⟩⟩
  exact ⟨_, .durationTooLong 7000000000000, rfl, rfl⟩

/-- A cadence that is too long and one that is not a number are faults, and one of sixty nanoseconds has
no length. -/
theorem interval_of_unsound_units :
    interval 985 (.record [("units", .int 1000000000000), ("timeUnit", .text "weeks")]) =
        .error (.durationTooLong 7000000000000)
      ∧ interval 985 (.record [("units", .float .nan), ("timeUnit", .text "days")]) =
        .error .integerFromNaN
      ∧ interval 985 (.record [("units", .float (.ofDecimal false 1 (-9))),
        ("timeUnit", .text "minutes")]) = .ok (some ⟨0⟩) := by
  refine ⟨rfl, rfl, ?_⟩
  generalize hx : interval 985 _ = x
  have hread : x.toOption = some (some ⟨0⟩) := by
    rw [← hx]
    decide +kernel
  cases x with
  | ok c =>
      obtain rfl := Option.some.inj hread
      rfl
  | error e => cases hread

end FleetHealth.Schedule
