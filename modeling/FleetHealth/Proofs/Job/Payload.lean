import FleetHealth.Proofs.Job.Schedule
import FleetHealth.Proofs.Json.RoundTrip
import FleetHealth.Proofs.Text.Casing

/-!
# Proofs — Job — Payload

The two forms of a schedule payload.  A record that *carries* whole units and the word for a unit has the cadence of these alone, whatever else it holds (`interval_record`), and the JSON text of the two fields has the same one, in either order and whichever of its two names the unit goes by (`forms_agree`).  A word with a lone half in it, which JSON can write and a text cannot hold, is that of no unit (`TimeUnit.ofText?_spell`).
-/

namespace FleetHealth

/-! ### Words for units -/

namespace TimeUnit

/-- **A word with a lone half in it is that of no unit.** -/
theorem ofText?_spell {n : Nat} {ns : List Nat} (hn : n ∈ ns) (h : ¬ n.isValidChar) :
    ofText? (Json.spell ns) = none := by
  have hlower : '\\' ∈ (Text.lower (Json.spell ns)).toList :=
    Text.lowerChar_mem_lower (Json.backslash_mem_spell hn h) (by decide) (by decide)
  refine List.find?_eq_none.mpr fun u _ hword => ?_
  have hplain : '\\' ∉ u.word.toList := by cases u <;> decide
  exact hplain (eq_of_beq hword ▸ hlower)

end TimeUnit

namespace Schedule

/-- The words for the units of a schedule, with the seconds in each. -/
def unitSeconds : List (String × Int) :=
  [("minutes", 60), ("hours", 3600), ("days", 86400), ("weeks", 604800)]

theorem ofText?_of_mem {p : String × Int} {t : String} (hp : p ∈ unitSeconds)
    (h : Text.lower t = p.1) : ∃ u, TimeUnit.ofText? t = some u ∧ (u.seconds : Int) = p.2 := by
  have hall : ∀ p ∈ unitSeconds, ∃ u,
      TimeUnit.all.find? (fun u => u.word == p.1) = some u ∧ (u.seconds : Int) = p.2 := by
    simp only [unitSeconds, List.forall_mem_cons]
    exact ⟨⟨.minutes, rfl, rfl⟩, ⟨.hours, rfl, rfl⟩, ⟨.days, rfl, rfl⟩, ⟨.weeks, rfl, rfl⟩, nofun⟩
  unfold TimeUnit.ofText?
  rw [h]
  exact hall p hp

theorem ofText?_eq_none {t : String} (h : ∀ p ∈ unitSeconds, Text.lower t ≠ p.1) :
    TimeUnit.ofText? t = none := by
  refine List.find?_eq_none.mpr fun u _ hword => ?_
  have hmem : (u.word, (u.seconds : Int)) ∈ unitSeconds := by cases u <;> decide
  exact h _ hmem (eq_of_beq hword).symm

/-! ### Records -/

/-- A record carries whole units and the word for their unit, which goes by the newer of two names
where that one is there, and else by the older. -/
structure Carries (u : Int) (t : String) (fs : List (String × Datum)) : Prop where
  units : Entries.get? "units" fs = some (.int u)
  unit : Entries.get? "timeUnit" fs = some (.text t)
    ∨ Entries.get? "timeUnit" fs = none ∧ Entries.get? "time_unit" fs = some (.text t)

/-- The cadence of so many whole units of what a word stands for. -/
def wholeCadence (u : Int) (t : String) : Except ShapeFault (Option Duration) :=
  match TimeUnit.ofText? t with
  | none      => .ok none
  | some unit =>
    if u ≤ 0 then .ok none else (durationOfSeconds (.int (u * unit.seconds))).map some

variable {u : Int} {t : String} {fs : List (String × Datum)}

theorem Carries.units_eq (h : Carries u t fs) :
    units? fs = if u ≤ 0 then none else some (.int u) := by
  have hle : (Number.int u).le (.int 0) = decide (u ≤ 0) := by
    show (!decide ((0 : Int) < u)) = decide (u ≤ 0)
    rw [← decide_not]
    exact decide_eq_decide.mpr Int.not_lt
  unfold units?
  rw [h.units]
  dsimp only
  rw [hle]
  simp only [decide_eq_true_eq]

theorem Carries.unit_eq (h : Carries u t fs) : timeUnit? fs = TimeUnit.ofText? t := by
  unfold timeUnit?
  rcases h.unit with hnew | ⟨hnew, hold⟩
  · rw [hnew]
    rfl
  · rw [hnew, hold]
    rfl

/-- **A record has the cadence of the units that it carries**, whatever else it holds. -/
theorem interval_record (h : Carries u t fs) (nesting : Nat) :
    interval nesting (.record fs) = wholeCadence u t := by
  unfold interval payload wholeCadence
  dsimp only
  rw [h.units_eq, h.unit_eq]
  by_cases hu : u ≤ 0
  · rw [if_pos hu]
    cases TimeUnit.ofText? t with
    | none => rfl
    | some unit => exact (if_pos hu).symm
  · rw [if_neg hu]
    cases TimeUnit.ofText? t with
    | none => rfl
    | some unit => exact (if_neg hu).symm

/-- **The duration of whole seconds is exact.** -/
theorem durationOfSeconds_int {n : Int} (hnonneg : 0 ≤ n) (h : n < secondsLimit) :
    durationOfSeconds (.int n) = .ok (.ofSeconds n) := by
  obtain ⟨k, rfl⟩ := Int.eq_ofNat_of_zero_le hnonneg
  have hmicros : Duration.ofSeconds k = ⟨((k * 1000000 : Nat) : Int)⟩ := by
    rw [Int.natCast_mul]
    rfl
  show bounded (.ofSeconds k) = _
  rw [bounded, if_pos]
  rw [hmicros, isInRange_iff]
  omega

/-! ### Texts -/

/-- The records of a number of units and the word for their unit, by either name of the unit and in
either order. -/
def pairsOf (u : Int) (t : String) : List (List (String × Datum)) :=
  [[("units", .int u), ("timeUnit", .text t)], [("timeUnit", .text t), ("units", .int u)],
    [("units", .int u), ("time_unit", .text t)], [("time_unit", .text t), ("units", .int u)]]

theorem carries_pairsOf : ∀ fs ∈ pairsOf u t, Carries u t (Entries.ofPairs fs) := by
  simp only [pairsOf, List.forall_mem_cons]
  exact ⟨⟨rfl, .inl rfl⟩, ⟨rfl, .inl rfl⟩, ⟨rfl, .inr ⟨rfl, rfl⟩⟩, ⟨rfl, .inr ⟨rfl, rfl⟩⟩, nofun⟩

/-- **The text of units and their word reads back as a record that carries them.** -/
theorem payload_rendered {other : Datum → String} {s : String} (hfs : fs ∈ pairsOf u t)
    (hs : Json.rendered? other fs = some s) {nesting : Nat} (h : 0 < nesting) :
    ∃ gs, payload nesting (.text s) = .ok (some gs) ∧ Carries u t gs := by
  refine ⟨_, ?_, carries_pairsOf _ hfs⟩
  obtain ⟨room, rfl⟩ := Nat.exists_eq_add_of_le' h
  obtain ⟨gs, hread, hfields⟩ := Json.read_rendered hs room
  unfold payload
  dsimp only
  rw [hread, ← hfields]

theorem interval_congr {nesting : Nat} {d e : Datum} (h : payload nesting d = payload nesting e) :
    interval nesting d = interval nesting e := by
  unfold interval
  rw [h]

/-- **Both forms of a payload agree, and whole units are exact.**  The cadence of a record that carries
units and a word is that of every text there is for the two, wherever there is room for one container:
so many times the seconds in the unit that the word names in any letter case, when the units are
positive and the product takes less than 10⁹ days, and none when they are not positive or the word
names no unit. -/
theorem forms_agree (u : Int) (t : String) :
    ∃ r, (∀ nesting fs, Carries u t fs → interval nesting (.record fs) = r)
      ∧ (∀ nesting, 0 < nesting → ∀ fs ∈ pairsOf u t, ∀ other s, Json.rendered? other fs = some s →
          interval nesting (.text s) = r)
      ∧ (∀ p ∈ unitSeconds, Text.lower t = p.1 → 0 < u → u * p.2 < 86400 * 1000000000 →
          r = .ok (some (.ofSeconds (u * p.2))))
      ∧ (u ≤ 0 ∨ (∀ p ∈ unitSeconds, Text.lower t ≠ p.1) → r = .ok none) := by
  refine ⟨wholeCadence u t, fun nesting fs h => interval_record h nesting, ?_, ?_, ?_⟩
  · intro nesting hnesting fs hfs other s hs
    obtain ⟨gs, hpayload, hgs⟩ := payload_rendered hfs hs hnesting
    have hform : payload nesting (.text s) = payload nesting (.record gs) := hpayload
    rw [interval_congr hform, interval_record hgs]
  · intro p hp hword hpos hlt
    obtain ⟨unit, hunit, hseconds⟩ := ofText?_of_mem hp hword
    rw [wholeCadence, hunit]
    dsimp only
    rw [hseconds, if_neg (by omega), durationOfSeconds_int (Int.mul_nonneg (by omega) (by omega)) hlt]
    rfl
  · intro h
    rcases h with hu | hword
    · unfold wholeCadence
      split
      · rfl
      · exact if_pos hu
    · rw [wholeCadence, ofText?_eq_none hword]

/-- Two weeks, spelled with the Kelvin sign: in a record with a field besides, and as a text. -/
theorem forms_agree_of_two_weeks :
    interval 985 (.record [("note", .null), ("time_unit", .text "WEE\u212AS"), ("units", .int 2)]) =
        .ok (some (.ofSeconds 1209600))
      ∧ interval 985 (.text "\x7b\"timeUnit\": \"WEE\\u212aS\", \"units\": 2\x7d") =
        .ok (some (.ofSeconds 1209600)) := by
  obtain ⟨r, hrecord, htext, hcadence, -⟩ := forms_agree 2 "WEE\u212AS"
  obtain rfl := hcadence ("weeks", 604800) (by decide) (by decide +kernel) (by decide) (by decide)
  have hrendered : Json.rendered? (fun _ => "")
      [("timeUnit", .text "WEE\u212AS"), ("units", .int 2)] =
        some "\x7b\"timeUnit\": \"WEE\\u212aS\", \"units\": 2\x7d" := by
    decide +kernel
  exact ⟨hrecord _ _ ⟨rfl, .inr ⟨rfl, rfl⟩⟩,
    htext _ (by decide) _ (List.mem_cons_of_mem _ List.mem_cons_self) _ _ hrendered⟩

end Schedule
end FleetHealth
