import FleetHealth.Config.Basic
import FleetHealth.Proofs.Binary64.Order

/-!
# Proofs — Config — Gate

Which settings a process can start with.  `validate` refuses some settings because a bound is passed and others because a bound is not kept; on a value that is not a number these two differ.  `Startable` says what is kept by all settings that are let through.

* `deadline_fits`: with a positive cadence, the deadline that is not given fits the cadence: the rounding of the difference neither reaches zero nor passes the cadence.
* `validate_ok_iff_startable`: settings are let through exactly when they are startable, and the cadence and the deadline are then numbers; the export interval alone may not be one.
-/

namespace FleetHealth

namespace Binary64

theorem lt_self (x : Binary64) : x.lt x = false := by
  cases x with
  | nan => rfl
  | infinity s => cases s <;> rfl
  | finite s u held => exact decide_eq_false (Int.lt_irrefl _)

theorem add_finite {s t : Bool} {a b : Nat} (ha : Representable a) (hb : Representable b) :
    (finite s a ha).add (.finite t b hb) =
      if signedUnits (.finite s a ha) + signedUnits (.finite t b hb) = 0 then
        .finite (s && t) 0 representable_zero
      else ofSignedRatio (signedUnits (.finite s a ha) + signedUnits (.finite t b hb)) 1 := rfl

/-- One less than a number above one is a positive number, and not above it. -/
theorem sub_one_bounds {u : Nat} (held : Representable u) (h : unitsPerOne < u) :
    ∃ d kept, (finite false u held).sub (.ofInt 1) = .finite false d kept ∧ 0 < d ∧ d ≤ u := by
  obtain ⟨one, hone⟩ := ofNat_of_le (n := 1) (by decide)
  have hone : ofInt 1 = .finite false (1 * unitsPerOne) one := hone
  have htotal : signedUnits (.finite false u held) + signedUnits (.finite true (1 * unitsPerOne) one) =
      ((u - unitsPerOne : Nat) : Int) := by
    show (u : Int) + -((1 * unitsPerOne : Nat) : Int) = _
    omega
  have hpos : twoPow 0 ≤ u - unitsPerOne := by
    show 1 ≤ _
    omega
  have hne : ((u - unitsPerOne : Nat) : Int) ≠ 0 := by omega
  have hle : roundUnits (u - unitsPerOne) 1 ≤ u :=
    roundUnits_le_of_dvd (Nat.sub_le _ _) (Nat.dvd_of_mod_eq_zero held.1)
  have hkept : Representable (roundUnits (u - unitsPerOne) 1) :=
    representable_roundUnits (Nat.lt_of_le_of_lt hle held.2)
  refine ⟨_, hkept, ?_, twoPow_le_roundUnits hpos, hle⟩
  have hsign : ¬ ((u - unitsPerOne : Nat) : Int) < 0 := Int.not_lt.mpr (Int.natCast_nonneg _)
  rw [hone, sub, neg, Bool.not_false, add_finite, htotal, if_neg hne, ofSignedRatio,
    decide_eq_false hsign, Int.natAbs_natCast, ofRatio, ofUnits, dif_pos hkept]

end Binary64

namespace Number

theorem lt_self (a : Number) : a.lt a = false := by
  cases a with
  | int n => exact decide_eq_false (Int.lt_irrefl n)
  | float x => exact x.lt_self

theorem le_self {a : Number} (h : a.isNaN = false) : a.le a = true := by
  rw [le, h, lt_self]
  rfl

/-- A number is not below zero or is positive; what is not a number is neither. -/
theorem le_zero_eq_false_iff (a : Number) :
    a.le (.int 0) = false ↔ (Number.int 0).lt a = true ∨ a.isNaN = true := by
  have hzero : (Number.int 0).isNaN = false := rfl
  rw [le, hzero]
  cases a.isNaN <;> cases (Number.int 0).lt a <;> decide

theorem isNaN_of_le {a b : Number} (h : a.le b = true) : b.isNaN = false := by
  rw [le, Bool.and_eq_true, Bool.and_eq_true] at h
  exact Bool.not_eq_true' _ ▸ h.1.2

theorem isNaN_of_lt {a b : Number} (h : a.lt b = true) : b.isNaN = false := by
  cases b with
  | int n => rfl
  | float y =>
      cases y with
      | nan =>
          cases a with
          | int n => cases h
          | float x => cases x <;> cases h
      | infinity s => rfl
      | finite s u held => rfl

theorem zero_lt_finite {d : Nat} (held : Representable d) (h : 0 < d) :
    (Number.int 0).lt (.float (.finite false d held)) = true := by
  have hlt : (Number.int 0).lt (.float (.finite false d held)) =
      decide (0 * (unitsPerOne : Int) < (Binary64.finite false d held).signedUnits) := rfl
  rw [hlt, Int.zero_mul]
  exact decide_eq_true (Int.natCast_pos.mpr h)

/-- A float above a natural number is infinite or a positive number of units. -/
theorem float_above {n : Nat} {x : Binary64} (h : (Number.int n).lt (.float x) = true) :
    x = .infinity false ∨ ∃ u held, x = .finite false u held ∧ n * unitsPerOne < u := by
  cases x with
  | nan => cases h
  | infinity s =>
      cases s with
      | true => cases h
      | false => exact .inl rfl
  | finite s u held =>
      have hlt : (n : Int) * (unitsPerOne : Int) < (Binary64.finite s u held).signedUnits :=
        of_decide_eq_true h
      rw [← Int.natCast_mul] at hlt
      cases s with
      | true =>
          have hlt : ((n * unitsPerOne : Nat) : Int) < -(u : Int) := hlt
          omega
      | false => exact .inr ⟨u, held, rfl, Int.ofNat_lt.mp hlt⟩

/-- One less than infinity. -/
theorem infinity_sub_one :
    Number.float (.infinity false) - .int 1 = .float (.infinity false) := by
  obtain ⟨one, hone⟩ := Binary64.ofNat_of_le (n := 1) (by decide)
  have hone : Binary64.ofInt 1 = .finite false (1 * unitsPerOne) one := hone
  show Number.float ((Binary64.infinity false).sub (.ofInt 1)) = _
  rw [hone]
  rfl

/-- One less than a number above one is positive, and not above it. -/
theorem sub_one_fits {a : Number} (h : (Number.int 1).lt a = true) :
    (Number.int 0).lt (a - .int 1) = true ∧ (a - .int 1).le a = true := by
  cases a with
  | int n =>
      have hn : 1 < n := of_decide_eq_true h
      refine ⟨decide_eq_true (show 0 < n - 1 by omega), ?_⟩
      show (!decide (n < n - 1)) = true
      rw [decide_eq_false (by omega)]
      rfl
  | float x =>
      rcases float_above (n := 1) h with rfl | ⟨u, held, rfl, hu⟩
      · rw [infinity_sub_one]
        exact ⟨rfl, rfl⟩
      · obtain ⟨d, kept, hd, hpos, hle⟩ := Binary64.sub_one_bounds held (by omega)
        have hsub : Number.float (.finite false u held) - .int 1 = .float (.finite false d kept) :=
          congrArg Number.float hd
        rw [hsub]
        refine ⟨zero_lt_finite kept hpos, ?_⟩
        show (!decide ((u : Int) < (d : Int))) = true
        rw [decide_eq_false (by omega)]
        rfl

end Number

namespace Config

/-- The deadline is positive, and not above the cadence. -/
def DeadlineFits (c : Config) : Prop :=
  (Number.int 0).lt c.deadline = true ∧ c.deadline.le c.cadence = true

/-- **A positive cadence has a deadline that fits it**, where none is given. -/
theorem deadline_fits {c : Config} (hnone : c.tickDeadline = none)
    (hpos : (Number.int 0).lt c.cadence = true) : c.DeadlineFits := by
  unfold DeadlineFits deadline
  rw [hnone]
  dsimp only
  split
  case isTrue hone => exact Number.sub_one_fits hone
  case isFalse => exact ⟨hpos, Number.le_self (Number.isNaN_of_lt hpos)⟩

/-! ### What is kept by settings that are let through -/

/-- The address of the statsd sink is complete. -/
structure StatsdReady (c : Config) : Prop where
  host : ∃ h, c.statsdHost = some h ∧ h ≠ ""
  port : ∃ p, c.statsdPort = some p ∧ 1 ≤ p ∧ p ≤ 65535

/-- The export sink has an endpoint and a protocol, and an interval that is positive or not a
number. -/
structure ExportReady (c : Config) : Prop where
  endpoint : ∃ u, c.otelEndpoint = some u ∧ u ≠ ""
  protocol : c.otelProtocol = "grpc" ∨ c.otelProtocol = "http/protobuf"
  interval : (Number.int 0).lt c.otelExportInterval = true ∨ c.otelExportInterval.isNaN = true

/-- The settings that a process can start with. -/
structure Startable (c : Config) : Prop where
  sink : c.sink = "statsd" ∨ c.sink = "otel" ∨ c.sink = "none"
  statsd : c.sink = "statsd" → c.StatsdReady
  otel : c.sink = "otel" → c.ExportReady
  cadence : (Number.int 0).lt c.cadence = true
  deadline : c.DeadlineFits
  failures : 0 < c.maxSinkFailures
  pool : 0 < c.poolMaxSize
  geographies : c.knownGeographies ≠ []

theorem isEmpty_eq_false_iff {s : String} : s.isEmpty = false ↔ s ≠ "" := by
  rw [Bool.eq_false_iff, ne_eq, String.isEmpty_iff]

theorem statsdFault?_eq_none_iff (c : Config) : c.statsdFault? = none ↔ c.StatsdReady := by
  unfold statsdFault?
  split
  case h_1 h p hh hp =>
    constructor
    · intro hnone
      split at hnone
      case isTrue => cases hnone
      case isFalse he =>
        split at hnone
        case isFalse => cases hnone
        case isTrue hport =>
          rw [Bool.and_eq_true, decide_eq_true_eq, decide_eq_true_eq] at hport
          exact ⟨⟨h, hh, isEmpty_eq_false_iff.mp (Bool.eq_false_iff.mpr he)⟩, p, hp, by omega, by omega⟩
    · rintro ⟨⟨h', hh', hne⟩, p', hp', hlow, hhigh⟩
      obtain rfl := Option.some.inj (hh.symm.trans hh')
      obtain rfl := Option.some.inj (hp.symm.trans hp')
      rw [isEmpty_eq_false_iff.mpr hne, if_neg Bool.false_ne_true, if_pos]
      rw [Bool.and_eq_true, decide_eq_true_eq, decide_eq_true_eq]
      exact ⟨by omega, by omega⟩
  case h_2 hno =>
    refine ⟨nofun, ?_⟩
    rintro ⟨⟨h, hh, -⟩, p, hp, -, -⟩
    exact (hno h p hh hp).elim

/-- A check refuses nothing exactly when it does not apply and the checks after it refuse nothing. -/
theorem check_eq_none_iff {p : Prop} [Decidable p] {f : SettingFault} {later : Option SettingFault} :
    (if p then some f else later) = none ↔ ¬ p ∧ later = none := by
  split
  case isTrue h => exact ⟨nofun, fun hn => absurd h hn.1⟩
  case isFalse h => exact ⟨fun hn => ⟨h, hn⟩, fun hn => hn.2⟩

theorem otelFault?_eq_none_iff (c : Config) : c.otelFault? = none ↔ c.ExportReady := by
  have hendpoint : ¬ (c.otelEndpoint.getD "").isEmpty = true ↔
      ∃ u, c.otelEndpoint = some u ∧ u ≠ "" := by
    rw [Bool.not_eq_true, isEmpty_eq_false_iff]
    cases c.otelEndpoint with
    | none => simp
    | some u => simp
  have hprotocol : ¬ (!SettingFault.protocols.contains c.otelProtocol) = true ↔
      c.otelProtocol = "grpc" ∨ c.otelProtocol = "http/protobuf" := by
    rw [Bool.not_eq_true', Bool.not_eq_false]
    simp [SettingFault.protocols]
  unfold otelFault?
  rw [check_eq_none_iff, check_eq_none_iff, check_eq_none_iff, hendpoint, hprotocol,
    Bool.not_eq_true, Number.le_zero_eq_false_iff]
  exact ⟨fun h => ⟨h.1, h.2.1, h.2.2.1⟩, fun h => ⟨h.endpoint, h.protocol, h.interval, rfl⟩⟩

/-- What the settings that every sink shares keep when they are let through. -/
structure LoopReady (c : Config) : Prop where
  cadence : (Number.int 0).lt c.cadence = true
  deadline : c.DeadlineFits
  failures : 0 < c.maxSinkFailures
  pool : 0 < c.poolMaxSize
  geographies : c.knownGeographies ≠ []

theorem loopFault?_eq_none_iff (c : Config) : c.loopFault? = none ↔ c.LoopReady := by
  have hfits : ¬ (!((Number.int 0).lt c.deadline && c.deadline.le c.cadence)) = true ↔
      c.DeadlineFits := by
    rw [Bool.not_eq_true', Bool.not_eq_false, Bool.and_eq_true, DeadlineFits]
  unfold loopFault?
  rw [check_eq_none_iff, check_eq_none_iff, check_eq_none_iff, check_eq_none_iff, check_eq_none_iff,
    hfits, Bool.not_eq_true, Number.le_zero_eq_false_iff, Int.not_le, Int.not_le, List.isEmpty_iff]
  constructor
  · rintro ⟨hcadence, hdeadline, hfailures, hpool, hgeographies, -⟩
    -- the deadline is compared with the cadence, so that is a number
    rw [Number.isNaN_of_le hdeadline.2] at hcadence
    exact ⟨hcadence.resolve_right Bool.false_ne_true, hdeadline, hfailures, hpool, hgeographies⟩
  · rintro ⟨hcadence, hdeadline, hfailures, hpool, hgeographies⟩
    exact ⟨.inl hcadence, hdeadline, hfailures, hpool, hgeographies, rfl⟩

theorem sinkFault?_eq_none_iff (c : Config) : c.sinkFault? = none ↔
    (c.sink = "statsd" ∨ c.sink = "otel" ∨ c.sink = "none")
      ∧ (c.sink = "statsd" → c.StatsdReady) ∧ (c.sink = "otel" → c.ExportReady) := by
  have hsinks : SettingFault.sinks.contains c.sink = true ↔
      c.sink = "statsd" ∨ c.sink = "otel" ∨ c.sink = "none" := by
    simp [SettingFault.sinks]
  have hapart : c.sink = "statsd" → c.sink ≠ "otel" := by
    intro h
    rw [h]
    decide
  unfold sinkFault?
  by_cases hknown : c.sink = "statsd" ∨ c.sink = "otel" ∨ c.sink = "none"
  · rw [hsinks.mpr hknown, Bool.not_true, if_neg Bool.false_ne_true]
    by_cases hs : c.sink = "statsd"
    · rw [if_pos hs, statsdFault?_eq_none_iff]
      exact ⟨fun h => ⟨hknown, fun _ => h, fun ho => absurd ho (hapart hs)⟩, fun h => h.2.1 hs⟩
    · rw [if_neg hs]
      by_cases ho : c.sink = "otel"
      · rw [if_pos ho, otelFault?_eq_none_iff]
        exact ⟨fun h => ⟨hknown, fun h' => absurd h' hs, fun _ => h⟩, fun h => h.2.2 ho⟩
      · rw [if_neg ho]
        exact ⟨fun _ => ⟨hknown, fun h => absurd h hs, fun h => absurd h ho⟩, fun _ => rfl⟩
  · have hunknown := mt hsinks.mp hknown
    rw [Bool.not_eq_true] at hunknown
    rw [hunknown, Bool.not_false, if_pos rfl]
    exact ⟨nofun, fun h => absurd h.1 hknown⟩

theorem startable_iff (c : Config) :
    c.Startable ↔ c.sinkFault? = none ∧ c.loopFault? = none := by
  rw [sinkFault?_eq_none_iff, loopFault?_eq_none_iff]
  constructor
  · rintro ⟨hsink, hstatsd, hotel, hcadence, hdeadline, hfailures, hpool, hgeographies⟩
    exact ⟨⟨hsink, hstatsd, hotel⟩, hcadence, hdeadline, hfailures, hpool, hgeographies⟩
  · rintro ⟨⟨hsink, hstatsd, hotel⟩, hcadence, hdeadline, hfailures, hpool, hgeographies⟩
    exact ⟨hsink, hstatsd, hotel, hcadence, hdeadline, hfailures, hpool, hgeographies⟩

/-- **The gate at startup.**  Settings are let through exactly when they are startable, and refused
otherwise, with a fault of configuration.  A positive cadence without a deadline of its own never fails
for its deadline. -/
theorem validate_ok_iff_startable (c : Config) :
    (c.validate = .ok () ↔ c.Startable)
      ∧ (¬ c.Startable → ∃ f, c.validate = .error f ∧ (Fault.setting f).kind = .config)
      ∧ (c.tickDeadline = none → (Number.int 0).lt c.cadence = true → c.DeadlineFits) := by
  rw [startable_iff]
  unfold validate
  cases hs : c.sinkFault? with
  | some f =>
      exact ⟨⟨nofun, fun h => absurd h.1 nofun⟩, fun _ => ⟨f, rfl, rfl⟩, deadline_fits⟩
  | none =>
      rw [Option.orElse_none]
      cases hl : c.loopFault? with
      | some f =>
          exact ⟨⟨nofun, fun h => absurd h.2 nofun⟩, fun _ => ⟨f, rfl, rfl⟩, deadline_fits⟩
      | none =>
          exact ⟨⟨fun _ => ⟨rfl, rfl⟩, fun _ => rfl⟩, fun h => absurd ⟨rfl, rfl⟩ h, deadline_fits⟩

/-- An environment that is read, and whose settings are let through and have a property. -/
theorem read_validated {env : Environment} {p : Config → Bool}
    (h : (read env).toOption.any (fun c => c.validate.isOk && p c) = true) :
    ∃ c, read env = .ok c ∧ c.validate = .ok () ∧ p c = true := by
  cases hc : read env with
  | error e =>
      rw [hc] at h
      cases h
  | ok c =>
      rw [hc] at h
      obtain ⟨hv, hp⟩ := Bool.and_eq_true_iff.mp h
      refine ⟨c, rfl, ?_, hp⟩
      cases hvalid : c.validate with
      | error e =>
          rw [hvalid] at hv
          cases hv
      | ok _ => rfl

/-- An environment in which the export interval is written as no number. -/
def unorderedInterval : Environment :=
  [("SYNCWATCH_SINK", "otel"), ("SYNCWATCH_OTEL_ENDPOINT", "collector"),
   ("SYNCWATCH_OTEL_EXPORT_INTERVAL_SECONDS", "nan")]

/-- An export interval that is not positive is let through. -/
theorem interval_not_positive_accepted :
    ∃ c, read unorderedInterval = .ok c ∧ c.validate = .ok () ∧ c.sink = "otel"
      ∧ (Number.int 0).lt c.otelExportInterval = false := by
  have hread : (read unorderedInterval).toOption.any (fun c =>
      c.validate.isOk && (c.sink == "otel" && !(Number.int 0).lt c.otelExportInterval)) = true := by
    decide +kernel
  obtain ⟨c, hc, hv, hp⟩ := read_validated hread
  rw [Bool.and_eq_true, beq_iff_eq, Bool.not_eq_true'] at hp
  exact ⟨c, hc, hv, hp⟩

end Config
end FleetHealth
