import FleetHealth.Log.Setup
import FleetHealth.Proofs.Entries

/-!
# Proofs — Config — Settings

Settings by name and the configuration that they are.  `config?` finds a configuration exactly where every setting has the value that the configuration has for it (`config?_eq_some_iff`); then the values of any form are judged, displayed and handed on as those of the configuration are.

* `validate_eq`, `redacted_eq`: the gate at startup and the settings on display.
* `poolRequest_eq`, `choice_eq`: what is asked of a pool, and what is chosen of the loggers.

Each step on values of any form is the step on the form that its setting asks for, so the two run side by side and no step is left that cannot be taken.
-/

namespace FleetHealth.Settings

/-! ### Values of the right forms -/

theorem text?_eq_some {d : Datum} {t : String} : text? d = some t ↔ d = .text t := by
  cases d <;> simp [text?]

theorem int?_eq_some {d : Datum} {n : Int} : int? d = some n ↔ d = .int n := by
  cases d <;> simp [int?]

theorem number?_eq_some {d : Datum} {n : Number} : number? d = some n ↔ d = .number n := by
  cases d <;> cases n <;> simp [number?, Datum.number]

theorem mapM_text?_eq_some {ds : List Datum} {ts : List String} :
    ds.mapM text? = some ts ↔ ds = ts.map .text := by
  induction ds generalizing ts with
  | nil => cases ts <;> simp
  | cons d ds ih =>
      cases ts with
      | nil => simp [Option.bind_eq_some_iff]
      | cons t ts => simp [Option.bind_eq_some_iff, ih, text?_eq_some]

theorem texts?_eq_some {d : Datum} {ts : List String} :
    texts? d = some ts ↔ d = .list (ts.map .text) := by
  cases d with
  | list ds => simp [texts?, mapM_text?_eq_some]
  | _ => simp [texts?]

/-- What may be nothing is read as what it is, where that is never nothing. -/
theorem orNull_eq_some {α : Type} {read : Datum → Option α} {made : α → Datum}
    (hread : ∀ {d a}, read d = some a ↔ d = made a) (hnull : ∀ a, made a ≠ .null) {d : Datum}
    {o : Option α} : orNull read d = some o ↔ d = (o.map made).getD .null := by
  cases o with
  | none => cases d <;> simp [orNull]
  | some a =>
      cases d with
      | null => simpa [orNull] using (hnull a).symm
      | _ => simp [orNull, hread]

theorem optText?_eq_some {d : Datum} {o : Option String} :
    orNull text? d = some o ↔ d = .optText o := by
  rw [orNull_eq_some text?_eq_some nofun]
  cases o <;> rfl

theorem optInt?_eq_some {d : Datum} {o : Option Int} :
    orNull int? d = some o ↔ d = (o.map Datum.int).getD .null :=
  orNull_eq_some int?_eq_some nofun

theorem optNumber?_eq_some {d : Datum} {o : Option Number} :
    orNull number? d = some o ↔ d = (o.map Datum.number).getD .null :=
  orNull_eq_some number?_eq_some fun n => by cases n <;> nofun

/-- **Settings are a configuration** exactly where each has the value that the configuration has for
it. -/
theorem config?_eq_some_iff {s : Settings} {c : Config} :
    s.config? = some c ↔ ∀ e ∈ c.toSettings, s.value e.1 = e.2 := by
  simp only [Config.toSettings, List.forall_mem_cons]
  constructor
  · intro h
    -- one setting is read after another, so one bind is opened for each
    obtain ⟨_, hsink, h⟩ := Option.bind_eq_some_iff.mp h
    obtain ⟨_, hhost, h⟩ := Option.bind_eq_some_iff.mp h
    obtain ⟨_, hport, h⟩ := Option.bind_eq_some_iff.mp h
    obtain ⟨_, hendpoint, h⟩ := Option.bind_eq_some_iff.mp h
    obtain ⟨_, hprotocol, h⟩ := Option.bind_eq_some_iff.mp h
    obtain ⟨_, hinterval, h⟩ := Option.bind_eq_some_iff.mp h
    obtain ⟨_, hcadence, h⟩ := Option.bind_eq_some_iff.mp h
    obtain ⟨_, hdeadline, h⟩ := Option.bind_eq_some_iff.mp h
    obtain ⟨_, htag, h⟩ := Option.bind_eq_some_iff.mp h
    obtain ⟨_, hfailures, h⟩ := Option.bind_eq_some_iff.mp h
    obtain ⟨_, hurl, h⟩ := Option.bind_eq_some_iff.mp h
    obtain ⟨_, hpool, h⟩ := Option.bind_eq_some_iff.mp h
    obtain ⟨_, hqueues, h⟩ := Option.bind_eq_some_iff.mp h
    obtain ⟨_, hgeographies, h⟩ := Option.bind_eq_some_iff.mp h
    obtain ⟨_, hformatter, h⟩ := Option.bind_eq_some_iff.mp h
    obtain ⟨_, hdestination, h⟩ := Option.bind_eq_some_iff.mp h
    obtain ⟨_, hlevel, h⟩ := Option.bind_eq_some_iff.mp h
    obtain ⟨_, hformat, h⟩ := Option.bind_eq_some_iff.mp h
    obtain ⟨_, hpath, h⟩ := Option.bind_eq_some_iff.mp h
    cases h
    exact ⟨text?_eq_some.mp hsink, optText?_eq_some.mp hhost, optInt?_eq_some.mp hport,
      optText?_eq_some.mp hendpoint, text?_eq_some.mp hprotocol, number?_eq_some.mp hinterval,
      number?_eq_some.mp hcadence, optNumber?_eq_some.mp hdeadline, optText?_eq_some.mp htag,
      int?_eq_some.mp hfailures, text?_eq_some.mp hurl, int?_eq_some.mp hpool,
      texts?_eq_some.mp hqueues, texts?_eq_some.mp hgeographies, text?_eq_some.mp hformatter,
      text?_eq_some.mp hdestination, text?_eq_some.mp hlevel, text?_eq_some.mp hformat,
      optText?_eq_some.mp hpath, nofun⟩
  · rintro ⟨hsink, hhost, hport, hendpoint, hprotocol, hinterval, hcadence, hdeadline, htag,
      hfailures, hurl, hpool, hqueues, hgeographies, hformatter, hdestination, hlevel, hformat,
      hpath, -⟩
    rw [config?, text?_eq_some.mpr hsink, optText?_eq_some.mpr hhost, optInt?_eq_some.mpr hport,
      optText?_eq_some.mpr hendpoint, text?_eq_some.mpr hprotocol, number?_eq_some.mpr hinterval,
      number?_eq_some.mpr hcadence, optNumber?_eq_some.mpr hdeadline, optText?_eq_some.mpr htag,
      int?_eq_some.mpr hfailures, text?_eq_some.mpr hurl, int?_eq_some.mpr hpool,
      texts?_eq_some.mpr hqueues, texts?_eq_some.mpr hgeographies, text?_eq_some.mpr hformatter,
      text?_eq_some.mpr hdestination, text?_eq_some.mpr hlevel, text?_eq_some.mpr hformat,
      optText?_eq_some.mpr hpath]
    rfl

/-- The value of a setting, by its place among the settings of a configuration. -/
theorem value_eq {s : Settings} {c : Config} (h : s.config? = some c) {name : String} {d : Datum}
    (hmem : (name, d) ∈ c.toSettings) : s.value name = d :=
  config?_eq_some_iff.mp h (name, d) hmem

theorem config?_toSettings (c : Config) : c.toSettings.config? = some c := by
  have hnodup : (c.toSettings.map Prod.fst).Nodup := by
    show (Config.sources.map Prod.fst).Nodup
    decide
  refine config?_eq_some_iff.mpr fun e he => ?_
  rw [value, (Entries.get?_eq_some_iff hnodup).mpr he]
  rfl

/-- Where nothing is given, settings are the configuration that the environment gives. -/
theorem read_nil (env : Environment) :
    read env [] = ((Config.read env).mapError Fault.setting).map Config.toSettings := by
  have hall : (env.filter fun v => !([] : List String).contains v.1) = env :=
    List.filter_eq_self.mpr fun _ _ => rfl
  unfold read
  simp only [List.find?_nil, List.flatMap_nil, hall]
  cases Config.read env with
  | error f => rfl
  | ok c => rfl

/-! ### Values of any form, side by side -/

theorem less_number (m n : Number) : Datum.less (.number m) (.number n) = .ok (m.lt n) := by
  cases m <;> cases n <;> rfl

theorem atMost_number (m n : Number) : atMost (.number m) (.number n) = .ok (m.le n) := by
  cases m <;> cases n <;> rfl

theorem atMost_zero (n : Number) : atMost (.number n) (.int 0) = .ok (n.le (.int 0)) :=
  atMost_number n (.int 0)

theorem exceedsOne_number (n : Number) : exceedsOne (.number n) = .ok ((Number.int 1).lt n) := by
  cases n <;> rfl

theorem message_number (n : Number) : (Datum.number n).message = n.text := by
  cases n <;> rfl

theorem number?_number (n : Number) : (Datum.number n).number? = some n := by
  cases n <;> rfl

variable {s : Settings} {c : Config}

theorem deadline_eq (h : s.config? = some c) : s.deadline = .ok (.number c.deadline) := by
  have hcadence : s.value "cadence_seconds" = .number c.cadence :=
    value_eq h (by simp [Config.toSettings])
  have hdeadline : s.value "tick_deadline_seconds" = (c.tickDeadline.map Datum.number).getD .null :=
    value_eq h (by simp [Config.toSettings])
  unfold deadline Config.deadline
  rw [hcadence, hdeadline]
  cases c.tickDeadline with
  | some d => cases d <;> rfl
  | none =>
      dsimp only [Option.map_none, Option.getD_none]
      rw [exceedsOne_number, number?_number]
      cases (Number.int 1).lt c.cadence <;> rfl

theorem statsdFault?_eq (h : s.config? = some c) : s.statsdFault? = .ok c.statsdFault? := by
  have hhost : s.value "statsd_host" = .optText c.statsdHost :=
    value_eq h (by simp [Config.toSettings])
  have hport : s.value "statsd_port" = (c.statsdPort.map Datum.int).getD .null :=
    value_eq h (by simp [Config.toSettings])
  unfold statsdFault? Config.statsdFault?
  rw [hhost, hport]
  cases c.statsdHost with
  | none => rfl
  | some host =>
      cases c.statsdPort with
      | none => simp [Datum.optText]
      | some port =>
          have hlow : Datum.less (.int 0) (.int port) = .ok (decide (0 < port)) := rfl
          have hhigh : Datum.less (.int port) (.int 65536) = .ok (decide (port < 65536)) := rfl
          have hpresent : (Datum.optText (some host)).isPresent = !host.isEmpty := rfl
          dsimp only [Option.map_some, Option.getD_some]
          rw [hlow, hhigh, hpresent, Bool.not_not, Bool.or_false]
          cases host.isEmpty with
          | true => rfl
          | false => cases decide (0 < port) <;> cases decide (port < 65536) <;> rfl

theorem otelFault?_eq (h : s.config? = some c) : s.otelFault? = .ok c.otelFault? := by
  have hendpoint : s.value "otel_endpoint" = .optText c.otelEndpoint :=
    value_eq h (by simp [Config.toSettings])
  have hprotocol : s.value "otel_protocol" = .text c.otelProtocol :=
    value_eq h (by simp [Config.toSettings])
  have hinterval : s.value "otel_export_interval_seconds" = .number c.otelExportInterval :=
    value_eq h (by simp [Config.toSettings])
  have hpresent : (Datum.optText c.otelEndpoint).isPresent = !(c.otelEndpoint.getD "").isEmpty := by
    cases c.otelEndpoint <;> rfl
  have hknown : (SettingFault.protocols.any fun p => Datum.same (.text p) (.text c.otelProtocol)) =
      SettingFault.protocols.contains c.otelProtocol := by
    rw [List.contains_eq_any_beq]
    exact congrArg SettingFault.protocols.any (funext fun p => BEq.comm)
  unfold otelFault? Config.otelFault?
  dsimp only
  rw [hendpoint, hprotocol, hinterval, hpresent, hknown, Bool.not_not]
  cases (c.otelEndpoint.getD "").isEmpty with
  | true => rfl
  | false =>
      cases SettingFault.protocols.contains c.otelProtocol with
      | false => rfl
      | true =>
          rw [atMost_zero]
          cases c.otelExportInterval.le (.int 0) <;> rfl

theorem sinkFault?_eq (h : s.config? = some c) : s.sinkFault? = .ok c.sinkFault? := by
  have hsink : s.value "sink" = .text c.sink := value_eq h (by simp [Config.toSettings])
  unfold sinkFault? Config.sinkFault?
  rw [hsink]
  split
  case h_1 he =>
    rw [Datum.text.inj he]
    exact statsdFault?_eq h
  case h_2 he =>
    rw [Datum.text.inj he]
    exact otelFault?_eq h
  case h_3 he =>
    rw [Datum.text.inj he]
    rfl
  case h_4 hstatsd hotel hnone =>
    -- the names that are matched one by one are those of the list
    have hunknown : SettingFault.sinks.contains c.sink = false := by
      rw [Bool.eq_false_iff, ne_eq, List.contains_iff_mem]
      intro hm
      simp only [SettingFault.sinks, List.mem_cons, List.not_mem_nil, or_false] at hm
      rcases hm with hs | hs | hs
      · exact hstatsd (congrArg Datum.text hs)
      · exact hotel (congrArg Datum.text hs)
      · exact hnone (congrArg Datum.text hs)
    rw [hunknown]
    rfl

theorem admits_number (m n : Number) :
    admits (.number m) (.number n) = .ok ((Number.int 0).lt n && n.le m) := by
  have hlow : Datum.less (.int 0) (.number n) = .ok ((Number.int 0).lt n) := less_number (.int 0) n
  unfold admits
  rw [hlow]
  cases (Number.int 0).lt n with
  | true => exact atMost_number n m
  | false => rfl

theorem le_int (m n : Int) : (Number.int m).le (.int n) = decide (m ≤ n) := by
  rw [Bool.eq_iff_iff]
  simp [Number.le, Number.lt, Number.isNaN]

theorem loopFault?_eq (h : s.config? = some c) : s.loopFault? = .ok c.loopFault? := by
  have hcadence : s.value "cadence_seconds" = .number c.cadence :=
    value_eq h (by simp [Config.toSettings])
  have hfailures : s.value "max_consecutive_sink_failures" = .number (.int c.maxSinkFailures) :=
    value_eq h (by simp [Config.toSettings, Datum.number])
  have hpool : s.value "db_pool_max_size" = .number (.int c.poolMaxSize) :=
    value_eq h (by simp [Config.toSettings, Datum.number])
  have hgeographies : s.value "known_geographies" = .list (c.knownGeographies.map .text) :=
    value_eq h (by simp [Config.toSettings])
  have hpresent : (Datum.list (c.knownGeographies.map .text)).isPresent =
      !c.knownGeographies.isEmpty := by
    cases c.knownGeographies <;> rfl
  unfold loopFault? Config.loopFault?
  dsimp only
  rw [hcadence, hfailures, hpool, hgeographies, hpresent, deadline_eq h, message_number, atMost_zero]
  cases c.cadence.le (.int 0) with
  | true => rfl
  | false =>
      dsimp only [bind, Except.bind]
      rw [admits_number, message_number]
      cases (Number.int 0).lt c.deadline && c.deadline.le c.cadence with
      | false => rfl
      | true =>
          dsimp only
          rw [atMost_zero, atMost_zero, le_int, le_int]
          by_cases hf : c.maxSinkFailures ≤ 0
          · simp [hf]
          · by_cases hp : c.poolMaxSize ≤ 0
            · simp [hf, hp]
            · cases hg : c.knownGeographies.isEmpty <;> simp [hf, hp]

/-- **The gate at startup** judges settings as it judges the configuration that they are. -/
theorem validate_eq (h : s.config? = some c) : s.validate = c.validate.mapError .setting := by
  unfold validate Config.validate
  rw [sinkFault?_eq h, loopFault?_eq h]
  cases c.sinkFault? with
  | some f => rfl
  | none => cases c.loopFault? <;> rfl

/-- **The settings on display** are those of the configuration that they are. -/
theorem redacted_eq (h : s.config? = some c) : s.redacted = c.redacted.mapError .url := by
  have hvalue := config?_eq_some_iff.mp h
  simp only [Config.toSettings, List.forall_mem_cons] at hvalue
  obtain ⟨hsink, hhost, hport, hendpoint, hprotocol, hinterval, hcadence, -, htag, hfailures,
    hurl, hpool, hqueues, hgeographies, -, -, hlevel, -⟩ := hvalue
  unfold redacted Config.redacted
  rw [hurl, hqueues, hgeographies, deadline_eq h, shownUrl]
  cases Url.redact c.databaseUrl with
  | error f => rfl
  | ok url =>
      -- what is displayed as it is stands in the settings under its own name
      rw [← hsink, ← hhost, ← hport, ← hendpoint, ← hprotocol, ← hinterval, ← hcadence, ← htag,
        ← hfailures, ← hpool, ← hlevel]
      rfl

/-- **What is asked of a pool** is what the configuration asks for. -/
theorem poolRequest_eq (h : s.config? = some c) : s.poolRequest = .ok (.ofConfig c) := by
  have hurl : s.value "database_url" = .text c.databaseUrl :=
    value_eq h (by simp [Config.toSettings])
  have hpool : s.value "db_pool_max_size" = .int c.poolMaxSize :=
    value_eq h (by simp [Config.toSettings])
  have htag : s.value "application_tag" = .optText c.applicationTag :=
    value_eq h (by simp [Config.toSettings])
  unfold poolRequest PoolRequest.ofConfig
  rw [hurl, hpool, htag, deadline_eq h]
  rfl

/-- **What is chosen of the loggers** is what the configuration chooses. -/
theorem choice_eq (h : s.config? = some c) : Log.Choice.ofSettings s = .ofConfig c := by
  have hvalue := config?_eq_some_iff.mp h
  simp only [Config.toSettings, List.forall_mem_cons] at hvalue
  obtain ⟨-, -, -, -, -, -, -, -, -, -, -, -, -, -, hformatter, hdestination, hlevel, hformat,
    hpath, -⟩ := hvalue
  unfold Log.Choice.ofSettings Log.Choice.ofConfig
  rw [hformatter, hdestination, hlevel, hformat, hpath]

end FleetHealth.Settings
