import FleetHealth.Proofs.Config.Environment
import FleetHealth.Proofs.Decimal.Numeral

/-!
# Proofs — Config — Refusal

Settings that are numbers, and what is said of one that is not.  `Source` is the variable that counts among those of a setting, and a setting is readable if the text of that variable, if there is one, is a number as `IsWhole` or `IsNumber` have it.  Six settings are numbers, and they are read in the order of `numberSettings`, so the first that is not readable stops all settings from being read (`read_error_iff`).

* `refusal_attributed`: there are settings just where all six are readable, and else the fault is over the first that is not, with its text, which stands in a variable that is set.  The fault names that variable unless the port was taken from its second one.
* `unset_variable_blamed`: a fault may name a variable that is not set.
-/

namespace FleetHealth

namespace Environment

/-- Of several variables the first that holds something but white space, and its value. -/
inductive Source (env : Environment) : List String → String → String → Prop where
  | here {n raw : String} {ns : List String} (hget : Entries.get? n env = some raw)
      (hraw : Text.isBlankText raw = false) : Source env (n :: ns) n raw
  | there {m n raw : String} {ns : List String}
      (hm : ∀ v, Entries.get? m env = some v → Text.isBlankText v = true)
      (h : Source env ns n raw) : Source env (m :: ns) n raw

variable {env : Environment} {names : List String}

theorem Source.get?_eq {n raw : String} (h : Source env names n raw) :
    Entries.get? n env = some raw := by
  induction h with
  | here hget _ => exact hget
  | there _ _ ih => exact ih

theorem Source.mem {n raw : String} (h : Source env names n raw) : n ∈ names := by
  induction h with
  | here _ _ => exact List.mem_cons_self
  | there _ _ ih => exact List.mem_cons_of_mem _ ih

/-- The source is the first variable, or that one holds nothing and the source is another. -/
theorem Source.first_or {m n raw : String} (h : Source env (m :: names) n raw) :
    m = n ∨ n ∈ names ∧ ∀ v, Entries.get? m env = some v → Text.isBlankText v = true := by
  cases h with
  | here _ _ => exact .inl rfl
  | there hm h => exact .inr ⟨h.mem, hm⟩

/-- A variable that is blank or not set is no source. -/
theorem source_of_blank {m n raw : String}
    (hm : ∀ v, Entries.get? m env = some v → Text.isBlankText v = true) :
    Source env (m :: names) n raw ↔ Source env names n raw := by
  refine ⟨fun h => ?_, .there hm⟩
  cases h with
  | here hget hraw => cases hraw.symm.trans (hm raw hget)
  | there _ h => exact h

/-- The first variable is the source where it is neither. -/
theorem source_of_filled {m n raw v : String} (hget : Entries.get? m env = some v)
    (hv : Text.isBlankText v = false) : Source env (m :: names) n raw ↔ n = m ∧ raw = v := by
  constructor
  · intro h
    cases h with
    | here hraw _ => exact ⟨rfl, Option.some.inj (hraw.symm.trans hget)⟩
    | there hblank _ => cases hv.symm.trans (hblank v hget)
  · rintro ⟨rfl, rfl⟩
    exact .here hget hv

/-- **A text is the value of its source**, without the white space around it. -/
theorem text?_eq_some_iff {v : String} :
    env.text? names = some v ↔ ∃ n raw, Source env names n raw ∧ Text.trim raw = v := by
  induction names with
  | nil =>
      refine ⟨nofun, ?_⟩
      rintro ⟨_, _, ⟨⟩, -⟩
  | cons m ns ih =>
      cases hget : Entries.get? m env with
      | none =>
          have hunset : ∀ v, Entries.get? m env = some v → Text.isBlankText v = true := by
            intro v hv
            cases hget.symm.trans hv
          simp only [text?, hget, ih, source_of_blank hunset]
      | some w =>
          cases hw : Text.isBlankText w with
          | true =>
              have hblank : ∀ v, Entries.get? m env = some v → Text.isBlankText v = true := by
                intro v hv
                rw [hget] at hv
                exact Option.some.inj hv ▸ hw
              simp only [text?, hget, hw, if_true, ih, source_of_blank hblank]
          | false =>
              simp only [text?, hget, hw, source_of_filled hget hw, Bool.false_eq_true, if_false,
                Option.some.injEq]
              constructor
              · intro h
                exact ⟨m, w, ⟨rfl, rfl⟩, h⟩
              · rintro ⟨_, _, ⟨-, rfl⟩, h⟩
                exact h

theorem isTrimmed_of_text? {v : String} (h : env.text? names = some v) : Text.IsTrimmed v := by
  obtain ⟨_, raw, -, rfl⟩ := text?_eq_some_iff.mp h
  exact Text.isTrimmed_trim raw

end Environment

namespace Config

open Environment

/-! ### Settings that are numbers -/

/-- A setting that is a number: whether it is a whole one, and the variables it is read from. -/
structure NumberSetting where
  whole : Bool
  first : String
  others : List String

/-- The settings that are numbers, in the order in which they are read. -/
def numberSettings : List NumberSetting :=
  [⟨true, "SYNCWATCH_STATSD_PORT", ["DD_DOGSTATSD_PORT"]⟩,
   ⟨false, "SYNCWATCH_OTEL_EXPORT_INTERVAL_SECONDS", []⟩,
   ⟨false, "SYNCWATCH_CADENCE_SECONDS", []⟩,
   ⟨false, "SYNCWATCH_TICK_DEADLINE_SECONDS", []⟩,
   ⟨true, "SYNCWATCH_MAX_CONSECUTIVE_SINK_FAILURES", []⟩,
   ⟨true, "SYNCWATCH_DB_POOL_MAX_SIZE", []⟩]

namespace NumberSetting

variable {s : NumberSetting} {env : Environment} {f : SettingFault}

def names (s : NumberSetting) : List String := s.first :: s.others

/-- The texts that are numbers as the setting is one. -/
def Admits (s : NumberSetting) (v : String) : Prop :=
  if s.whole then Decimal.IsWhole v.toList else Decimal.IsNumber v.toList

/-- The fault over a text that is none. -/
def refusal (s : NumberSetting) (v : String) : SettingFault :=
  if s.whole then .notAnInteger s.first v else .notANumber s.first v

/-- What the source of a setting holds is a number, if it has a source. -/
def IsReadable (s : NumberSetting) (env : Environment) : Prop :=
  ∀ source raw, Source env s.names source raw → s.Admits (Text.trim raw)

/-- What the source of a setting holds is no number, and this is the fault over it. -/
def Refuses (s : NumberSetting) (env : Environment) (f : SettingFault) : Prop :=
  ∃ source raw, Source env s.names source raw ∧ ¬ s.Admits (Text.trim raw)
    ∧ f = s.refusal (Text.trim raw)

theorem isReadable_iff : s.IsReadable env ↔ ∀ f, ¬ s.Refuses env f := by
  constructor
  · rintro h f ⟨source, raw, hsource, hnot, -⟩
    exact hnot (h source raw hsource)
  · intro h source raw hsource
    exact Classical.byContradiction fun hnot => h _ ⟨source, raw, hsource, hnot, rfl⟩

theorem refuses_iff :
    s.Refuses env f ↔ ∃ v, env.text? s.names = some v ∧ ¬ s.Admits v ∧ f = s.refusal v := by
  constructor
  · rintro ⟨source, raw, hsource, hnot, hf⟩
    exact ⟨_, text?_eq_some_iff.mpr ⟨source, raw, hsource, rfl⟩, hnot, hf⟩
  · rintro ⟨v, hv, hnot, hf⟩
    obtain ⟨source, raw, hsource, rfl⟩ := text?_eq_some_iff.mp hv
    exact ⟨source, raw, hsource, hnot, hf⟩

/-- A text that is read as the setting asks, or else refused. -/
theorem text?_error_iff {α : Type} {result : String → Except SettingFault (Option α)}
    (hresult : ∀ v, Text.IsTrimmed v → (s.Admits v ∧ ∃ a, result v = .ok a)
      ∨ (¬ s.Admits v ∧ result v = .error (s.refusal v))) :
    (match env.text? s.names with
      | none => .ok none
      | some v => result v : Except SettingFault (Option α)) = .error f ↔ s.Refuses env f := by
  rw [refuses_iff]
  cases hv : env.text? s.names with
  | none => exact ⟨nofun, fun ⟨_, h, _⟩ => nomatch h⟩
  | some v =>
      rcases hresult v (isTrimmed_of_text? hv) with ⟨hadmits, a, ha⟩ | ⟨hnot, he⟩
      · refine ⟨fun h => (nomatch ha.symm.trans h), ?_⟩
        rintro ⟨_, ⟨⟩, hnot, -⟩
        exact absurd hadmits hnot
      · refine ⟨fun h => ⟨v, rfl, hnot, (Except.error.inj (he.symm.trans h)).symm⟩, ?_⟩
        rintro ⟨_, ⟨⟩, -, rfl⟩
        exact he

/-- **A whole number is refused where its source holds none.** -/
theorem int?_error_iff {n : String} {ns : List String} :
    env.int? (n :: ns) = .error f ↔ Refuses ⟨true, n, ns⟩ env f := by
  refine text?_error_iff (s := ⟨true, n, ns⟩) fun v hv => ?_
  have hread := Decimal.readInt_isOk_iff hv
  cases hr : Decimal.readInt v with
  | ok k => exact .inl ⟨hread.mp (hr ▸ rfl), some k, rfl⟩
  | error e => exact .inr ⟨fun hadmits => (nomatch hr ▸ hread.mpr hadmits), rfl⟩

/-- **A number is refused where its source holds none.** -/
theorem float?_error_iff {n : String} {ns : List String} :
    env.float? (n :: ns) = .error f ↔ Refuses ⟨false, n, ns⟩ env f := by
  refine text?_error_iff (s := ⟨false, n, ns⟩) fun v hv => ?_
  have hread := Decimal.readFloat_isSome_iff hv
  cases hr : Decimal.readFloat v with
  | some x => exact .inl ⟨hread.mp (hr ▸ rfl), some x, rfl⟩
  | none => exact .inr ⟨fun hadmits => (nomatch hr ▸ hread.mpr hadmits), rfl⟩

end NumberSetting

/-! ### The first that is refused -/

/-- The fault over the first setting that is not readable. -/
inductive FirstRefusal (env : Environment) : List NumberSetting → SettingFault → Prop where
  | here {s : NumberSetting} {ss : List NumberSetting} {f : SettingFault} (h : s.Refuses env f) :
      FirstRefusal env (s :: ss) f
  | there {s : NumberSetting} {ss : List NumberSetting} {f : SettingFault} (hs : s.IsReadable env)
      (h : FirstRefusal env ss f) : FirstRefusal env (s :: ss) f

variable {env : Environment} {f : SettingFault}

/-- Where nothing is left to read, nothing is refused. -/
theorem ok_eq_error_iff {β : Type} {b : β} :
    (Except.ok b : Except SettingFault β) = .error f ↔ FirstRefusal env [] f :=
  ⟨nofun, nofun⟩

/-- Reading one setting before others. -/
theorem bind_error_iff {α β : Type} {x : Except SettingFault α} {g : α → Except SettingFault β}
    {s : NumberSetting} {ss : List NumberSetting} (hx : ∀ f, x = .error f ↔ s.Refuses env f)
    (hg : ∀ a f, g a = .error f ↔ FirstRefusal env ss f) (f : SettingFault) :
    x >>= g = .error f ↔ FirstRefusal env (s :: ss) f := by
  cases x with
  | error e =>
      have he := (hx e).mp rfl
      constructor
      · rintro ⟨⟩
        exact .here he
      · rintro (h | ⟨hs, -⟩)
        · obtain rfl := Except.error.inj ((hx f).mpr h)
          rfl
        · exact absurd he (NumberSetting.isReadable_iff.mp hs e)
  | ok a =>
      have hs : s.IsReadable env := NumberSetting.isReadable_iff.mpr fun f h => nomatch (hx f).mpr h
      refine (hg a f).trans ⟨.there hs, ?_⟩
      rintro (h | ⟨-, h⟩)
      · exact absurd h (NumberSetting.isReadable_iff.mp hs f)
      · exact h

/-- **Settings are refused over the first that is not readable.** -/
theorem read_error_iff : read env = .error f ↔ FirstRefusal env numberSettings f :=
  bind_error_iff (fun _ => NumberSetting.int?_error_iff) (fun _ =>
    bind_error_iff (fun _ => NumberSetting.float?_error_iff) fun _ =>
    bind_error_iff (fun _ => NumberSetting.float?_error_iff) fun _ =>
    bind_error_iff (fun _ => NumberSetting.float?_error_iff) fun _ =>
    bind_error_iff (fun _ => NumberSetting.int?_error_iff) fun _ =>
    bind_error_iff (fun _ => NumberSetting.int?_error_iff) fun _ _ =>
      ok_eq_error_iff) f

theorem exists_of_firstRefusal {ss : List NumberSetting} (h : FirstRefusal env ss f) :
    ∃ before s after, ss = before ++ s :: after ∧ (∀ t ∈ before, t.IsReadable env)
      ∧ s.Refuses env f := by
  induction h with
  | @here s ss f h => exact ⟨[], s, ss, rfl, nofun, h⟩
  | @there s ss f hs _ ih =>
      obtain ⟨before, t, after, rfl, hbefore, ht⟩ := ih
      exact ⟨s :: before, t, after, rfl, List.forall_mem_cons.mpr ⟨hs, hbefore⟩, ht⟩

theorem exists_firstRefusal {ss : List NumberSetting} (h : ∃ s ∈ ss, ¬ s.IsReadable env) :
    ∃ f, FirstRefusal env ss f := by
  induction ss with
  | nil => exact absurd h.choose_spec.1 List.not_mem_nil
  | cons s ss ih =>
      by_cases hs : s.IsReadable env
      · obtain ⟨t, ht, hnot⟩ := h
        rcases List.mem_cons.mp ht with rfl | ht
        · exact absurd hs hnot
        · obtain ⟨f, hf⟩ := ih ⟨t, ht, hnot⟩
          exact ⟨f, .there hs hf⟩
      · rw [NumberSetting.isReadable_iff] at hs
        obtain ⟨f, hf⟩ := Classical.not_forall.mp hs
        exact ⟨f, .here (Classical.not_not.mp hf)⟩

/-- Only the port has a second variable. -/
theorem others_of_mem : ∀ s ∈ numberSettings, ∀ n ∈ s.others,
    s.first = "SYNCWATCH_STATSD_PORT" ∧ n = "DD_DOGSTATSD_PORT" := by
  decide

/-- **A fault over a number is over the text that counts.**  There are settings just where each of
the numbers among them is readable, and else the fault is over the first that is not.  Its text is
what the source of that setting holds, which is a variable that is set.  It names the first variable
of the setting, which is the source unless that is the second variable of the port; then the one
that is named is blank or not set. -/
theorem refusal_attributed (env : Environment) :
    ((∃ c, read env = .ok c) ↔ ∀ s ∈ numberSettings, s.IsReadable env)
    ∧ ∀ f, read env = .error f → ∃ before s after source raw,
        numberSettings = before ++ s :: after ∧ (∀ t ∈ before, t.IsReadable env)
        ∧ Source env s.names source raw ∧ Entries.get? source env = some raw
        ∧ ¬ s.Admits (Text.trim raw)
        ∧ f = s.refusal (Text.trim raw)
        ∧ f.message = s.first ++ "=" ++ Text.quoted (Text.trim raw)
            ++ (if s.whole then " is not a valid integer" else " is not a valid number")
        ∧ (s.first = source ∨ s.first = "SYNCWATCH_STATSD_PORT" ∧ source = "DD_DOGSTATSD_PORT"
            ∧ ∀ v, Entries.get? "SYNCWATCH_STATSD_PORT" env = some v → Text.isBlankText v = true) := by
  refine ⟨⟨fun ⟨c, hc⟩ => ?_, fun hall => ?_⟩, fun f hf => ?_⟩
  · refine Classical.byContradiction fun hnot => ?_
    obtain ⟨s, hs⟩ := Classical.not_forall.mp hnot
    obtain ⟨hmem, hs⟩ := Classical.not_imp.mp hs
    obtain ⟨f, hf⟩ := exists_firstRefusal ⟨s, hmem, hs⟩
    cases hc.symm.trans (read_error_iff.mpr hf)
  · cases hread : read env with
    | ok c => exact ⟨c, rfl⟩
    | error f =>
        obtain ⟨before, s, after, hsettings, -, hs⟩ :=
          exists_of_firstRefusal (read_error_iff.mp hread)
        have hmem : s ∈ numberSettings := hsettings ▸ List.mem_append_right _ List.mem_cons_self
        exact absurd hs (NumberSetting.isReadable_iff.mp (hall s hmem) f)
  · obtain ⟨before, s, after, hsettings, hbefore, source, raw, hsource, hnot, rfl⟩ :=
      exists_of_firstRefusal (read_error_iff.mp hf)
    have hmem : s ∈ numberSettings := hsettings ▸ List.mem_append_right _ List.mem_cons_self
    refine ⟨before, s, after, source, raw, hsettings, hbefore, hsource, hsource.get?_eq, hnot, rfl,
      ?_, ?_⟩
    · rw [NumberSetting.refusal]
      cases s.whole <;> rfl
    · rcases hsource.first_or with hfirst | ⟨hother, hblank⟩
      · exact .inl hfirst
      · obtain ⟨hport, rfl⟩ := others_of_mem s hmem source hother
        exact .inr ⟨hport, rfl, hport ▸ hblank⟩

/-- An environment with two settings that are no numbers, and a port from its second variable. -/
def vagueCadence : Environment :=
  [("SYNCWATCH_STATSD_PORT", "  "), ("DD_DOGSTATSD_PORT", "8125"),
   ("SYNCWATCH_DB_POOL_MAX_SIZE", "few"), ("SYNCWATCH_CADENCE_SECONDS", " soon\t")]

/-- The cadence is refused, under the variable that it stands in. -/
theorem refusal_of_vague_cadence : ∃ f s raw,
    read vagueCadence = .error f
    ∧ f.message = "SYNCWATCH_CADENCE_SECONDS='soon' is not a valid number"
    ∧ s ∈ numberSettings ∧ Source vagueCadence s.names "SYNCWATCH_CADENCE_SECONDS" raw
    ∧ ¬ s.Admits (Text.trim raw) := by
  have hread : read vagueCadence = .error (.notANumber "SYNCWATCH_CADENCE_SECONDS" "soon") := by
    rfl
  obtain ⟨before, s, after, source, raw, hsettings, -, hsource, -, hnot, hf, -, hfirst⟩ :=
    (refusal_attributed vagueCadence).2 _ hread
  have hnamed : s.first = "SYNCWATCH_CADENCE_SECONDS" := by
    rw [NumberSetting.refusal] at hf
    split at hf
    · cases hf
    · exact (SettingFault.notANumber.inj hf).1.symm
  rcases hfirst with hfirst | ⟨hport, -⟩
  · obtain rfl := hfirst.symm.trans hnamed
    have hmem : s ∈ numberSettings := hsettings ▸ List.mem_append_right _ List.mem_cons_self
    exact ⟨_, s, raw, hread, rfl, hmem, hsource, hnot⟩
  · rw [hnamed] at hport
    exact absurd hport (by decide)

/-- An environment with a port in its second variable only, which is no number. -/
def strayPort : Environment := [("DD_DOGSTATSD_PORT", "abc")]

/-- **A variable that is not set can be blamed.**  What is no number is in the second variable of the
port, and the fault shows it as the value of the first. -/
theorem unset_variable_blamed :
    read strayPort = .error (.notAnInteger "SYNCWATCH_STATSD_PORT" "abc")
    ∧ (SettingFault.notAnInteger "SYNCWATCH_STATSD_PORT" "abc").message
        = "SYNCWATCH_STATSD_PORT='abc' is not a valid integer"
    ∧ Entries.get? "SYNCWATCH_STATSD_PORT" strayPort = none
    ∧ Source strayPort ["SYNCWATCH_STATSD_PORT", "DD_DOGSTATSD_PORT"] "DD_DOGSTATSD_PORT" "abc" :=
  ⟨rfl, rfl, rfl, .there nofun (.here rfl rfl)⟩

end Config
end FleetHealth
