import FleetHealth.Config.Basic
import FleetHealth.Proofs.Entries
import FleetHealth.Proofs.Text.Blank
import Mathlib.Logic.Relation

/-!
# Proofs — Config — Environment

What settings take from an environment.  A variable is read without the white space around its value, and a blank one is not read at all (`value?`); every reader stands on that (`text?_eq`), so settings cannot tell two environments apart in which all variables read alike (`read_congr`).

* `Respaced` is one change of white space: more of it around a value, or a blank variable that comes or goes.
* `Selects` says which of two variables a text is taken from: the second stands in for the first where that is blank or unset.
* `read_respaced`: changes of white space do not show, in the settings or in the fault over them, and each setting that has a second variable takes the text that is selected.
-/

namespace FleetHealth

namespace Environment

/-- What is read of a value: the value without the white space around it, and nothing of a blank
one. -/
def reading? (raw : String) : Option String :=
  if Text.isBlankText raw then none else some (Text.trim raw)

/-- What is read of a variable. -/
def value? (env : Environment) (name : String) : Option String :=
  (Entries.get? name env).bind reading?

theorem reading?_blank {s : String} (h : Text.isBlankText s = true) : reading? s = none :=
  if_pos h

theorem reading?_pad {before after : String} (hb : Text.isBlankText before = true)
    (ha : Text.isBlankText after = true) (s : String) :
    reading? (before ++ s ++ after) = reading? s := by
  rw [reading?, reading?, Text.isBlankText_pad hb ha, Text.trim_pad hb ha]

theorem reading?_eq_some {s x : String} :
    reading? s = some x ↔ Text.isBlankText s = false ∧ Text.trim s = x := by
  rw [reading?]
  cases Text.isBlankText s with
  | true => exact ⟨nofun, fun h => nomatch h.1⟩
  | false => exact ⟨fun h => ⟨rfl, Option.some.inj h⟩, fun h => congrArg some h.2⟩

/-- **Of several variables the first counts of which anything is read.** -/
theorem text?_eq (env : Environment) (names : List String) :
    env.text? names = names.findSome? env.value? := by
  induction names with
  | nil => rfl
  | cons n ns ih =>
      rw [text?, List.findSome?_cons, value?, ← ih]
      cases Entries.get? n env with
      | none => rfl
      | some raw =>
          rw [Option.bind_some, reading?]
          dsimp only
          split <;> rfl

/-! ### Changes of white space -/

/-- One change of white space: around the value of a variable, or in a blank variable that is set or
unset. -/
inductive Respaced (env : Environment) : Environment → Prop where
  | pad {name value before after : String} (hv : Entries.get? name env = some value)
      (hb : Text.isBlankText before = true) (ha : Text.isBlankText after = true) :
      Respaced env (Entries.put name (before ++ value ++ after) env)
  | set {name value : String} (hv : Entries.get? name env = none)
      (hb : Text.isBlankText value = true) : Respaced env (Entries.put name value env)
  | unset {name value : String} (hv : Entries.get? name env = some value)
      (hb : Text.isBlankText value = true) : Respaced env (Entries.remove name env)

/-- A variable that is set reads as its value, and any other as before. -/
theorem value?_put (env : Environment) (name value j : String) :
    value? (Entries.put name value env) j = if name == j then reading? value else env.value? j := by
  rw [value?, Entries.get?_put j (name, value)]
  cases hj : name == j with
  | true => rw [Entries.get?_cons_pos [] hj]; rfl
  | false => rw [Entries.get?_cons_neg [] hj]; rfl

/-- **A change of white space is not read.** -/
theorem Respaced.value?_eq {env env' : Environment} (h : Respaced env env') (j : String) :
    env'.value? j = env.value? j := by
  cases h with
  | @pad name value before after hv hb ha =>
      rw [value?_put, reading?_pad hb ha]
      split
      · next hj => rw [← eq_of_beq hj, value?, hv]; rfl
      · rfl
  | @set name value hv hb =>
      rw [value?_put, reading?_blank hb]
      split
      · next hj => rw [← eq_of_beq hj, value?, hv]; rfl
      · rfl
  | @unset name value hv hb =>
      rw [value?, Entries.get?_remove]
      split
      · next hj => rw [← eq_of_beq hj, value?, hv, Option.bind_some, reading?_blank hb]; rfl
      · rfl

/-- Any number of changes of white space is not read. -/
theorem value?_of_respaced {env env' : Environment} (h : Relation.ReflTransGen Respaced env env') :
    env'.value? = env.value? := by
  induction h with
  | refl => rfl
  | tail _ hstep ih => rw [← ih]; exact funext hstep.value?_eq

/-! ### Two names -/

/-- A text is taken from the first of two variables unless that is blank or unset, and then from the
second, if that is neither. -/
structure Selects (env : Environment) (m n : String) (text : Option String) : Prop where
  first : ∀ v, Entries.get? m env = some v → Text.isBlankText v = false → text = some (Text.trim v)
  second : (∀ v, Entries.get? m env = some v → Text.isBlankText v = true) →
    ∀ w, Entries.get? n env = some w → Text.isBlankText w = false → text = some (Text.trim w)
  neither : (∀ v, Entries.get? m env = some v → Text.isBlankText v = true) →
    (∀ w, Entries.get? n env = some w → Text.isBlankText w = true) → text = none

theorem value?_of_blank {env : Environment} {name : String}
    (h : ∀ v, Entries.get? name env = some v → Text.isBlankText v = true) :
    env.value? name = none := by
  rw [value?]
  cases hv : Entries.get? name env with
  | none => rfl
  | some v => exact reading?_blank (h v hv)

theorem value?_of_some {env : Environment} {name v : String} (h : Entries.get? name env = some v)
    (hv : Text.isBlankText v = false) : env.value? name = some (Text.trim v) := by
  rw [value?, h, Option.bind_some, reading?, hv]
  rfl

/-- **The second variable stands in for the first.** -/
theorem selects_text? (env : Environment) (m n : String) :
    Selects env m n (env.text? [m, n]) := by
  have htext : env.text? [m, n] = (env.value? m).or (env.value? n) := by
    rw [text?_eq, List.findSome?_cons, List.findSome?_cons, List.findSome?_nil]
    cases env.value? m with
    | some v => rfl
    | none => cases env.value? n <;> rfl
  rw [htext]
  refine ⟨fun v hv hne => ?_, fun hblank w hw hne => ?_, fun hblank hblank' => ?_⟩
  · rw [value?_of_some hv hne]
    rfl
  · rw [value?_of_blank hblank, value?_of_some hw hne]
    rfl
  · rw [value?_of_blank hblank, value?_of_blank hblank']
    rfl

end Environment

namespace Config

open Environment

/-! ### Settings -/

/-- **Settings depend on what is read of the variables, and on nothing else.** -/
theorem read_congr {env env' : Environment} (h : env'.value? = env.value?) : read env' = read env := by
  have htext : env'.text? = env.text? := by
    funext names
    rw [text?_eq, text?_eq, h]
  have hint : env'.int? = env.int? := by
    funext names
    rw [int?, int?, htext]
  have hfloat : env'.float? = env.float? := by
    funext names
    rw [float?, float?, htext]
  have hor : env'.textOr = env.textOr := by
    funext names d
    rw [textOr, textOr, htext]
  have hlist : env'.list = env.list := by
    funext name d
    rw [Environment.list, Environment.list, hor]
  unfold read
  rw [hint, hfloat, htext, hor, hlist]

/-- A chain of two stages that answers has an answer of the first. -/
theorem exists_of_bind {ε α β : Type} {x : Except ε α} {f : α → Except ε β} {b : β}
    (h : x >>= f = .ok b) : ∃ a, x = .ok a ∧ f a = .ok b := by
  cases x with
  | error e => cases h
  | ok a => exact ⟨a, rfl, h⟩

/-- The settings that have a second variable, of an environment that is read. -/
theorem read_selected {env : Environment} {c : Config} (h : read env = .ok c) :
    c.statsdHost = env.text? ["SYNCWATCH_STATSD_HOST", "DD_AGENT_HOST"]
      ∧ env.int? ["SYNCWATCH_STATSD_PORT", "DD_DOGSTATSD_PORT"] = .ok c.statsdPort
      ∧ c.otelEndpoint = env.text? ["SYNCWATCH_OTEL_ENDPOINT", "OTEL_EXPORTER_OTLP_ENDPOINT"] := by
  obtain ⟨port, hport, h⟩ := exists_of_bind h
  obtain ⟨interval, -, h⟩ := exists_of_bind h
  obtain ⟨cadence, -, h⟩ := exists_of_bind h
  obtain ⟨deadline, -, h⟩ := exists_of_bind h
  obtain ⟨failures, -, h⟩ := exists_of_bind h
  obtain ⟨pool, -, h⟩ := exists_of_bind h
  obtain rfl := Except.ok.inj h
  exact ⟨rfl, hport, rfl⟩

/-- A whole number is that of the text that is read, where there is one. -/
theorem int?_ok {env : Environment} {names : List String} {n : Option Int}
    (h : env.int? names = .ok n) : (env.text? names).map Decimal.readInt = n.map .ok := by
  rw [int?] at h
  cases ht : env.text? names with
  | none =>
      rw [ht] at h
      obtain rfl := Except.ok.inj h
      rfl
  | some raw =>
      rw [ht] at h
      dsimp only at h
      cases hr : Decimal.readInt raw with
      | error e =>
          rw [hr] at h
          cases h
      | ok k =>
          rw [hr] at h
          obtain rfl := Except.ok.inj h
          exact congrArg some hr

/-- **White space around a value and blank variables do not show.**  Environments that differ by any
number of changes of white space give the same settings, or the same fault.  Of the settings that have
a second variable, the host and the endpoint are the text that is selected, and the port is the number
that the selected text is, which stops all settings from being read where it is none. -/
theorem read_respaced (env : Environment) :
    (∀ env', Relation.ReflTransGen Respaced env env' → read env' = read env)
    ∧ ∃ port, Selects env "SYNCWATCH_STATSD_PORT" "DD_DOGSTATSD_PORT" port
      ∧ (∀ raw e, port = some raw → Decimal.readInt raw = .error e →
          read env = .error (.notAnInteger "SYNCWATCH_STATSD_PORT" raw))
      ∧ ∀ c, read env = .ok c →
          port.map Decimal.readInt = c.statsdPort.map .ok
          ∧ Selects env "SYNCWATCH_STATSD_HOST" "DD_AGENT_HOST" c.statsdHost
          ∧ Selects env "SYNCWATCH_OTEL_ENDPOINT" "OTEL_EXPORTER_OTLP_ENDPOINT" c.otelEndpoint := by
  refine ⟨fun env' h => read_congr (value?_of_respaced h), _, selects_text? env _ _, ?_, ?_⟩
  · intro raw e hraw he
    have hport : env.int? ["SYNCWATCH_STATSD_PORT", "DD_DOGSTATSD_PORT"] =
        .error (.notAnInteger "SYNCWATCH_STATSD_PORT" raw) := by
      rw [int?, hraw]
      dsimp only
      rw [he]
      rfl
    -- the port is the first number that is read
    unfold read
    rw [hport]
    rfl
  · intro c hc
    obtain ⟨hhost, hport, hendpoint⟩ := read_selected hc
    rw [hhost, hendpoint]
    exact ⟨int?_ok hport, selects_text? env _ _, selects_text? env _ _⟩

/-- An environment with a blank port, for which a second variable stands in. -/
def sparsePort : Environment :=
  [("SYNCWATCH_SINK", "StatsD"), ("SYNCWATCH_STATSD_PORT", " \t"), ("DD_DOGSTATSD_PORT", "81_25"),
   ("DD_AGENT_HOST", "agent")]

/-- Its host may be padded, the blank port unset and a blank endpoint set. -/
theorem read_of_sparse_port : ∃ env' c,
    env' = [("SYNCWATCH_SINK", "StatsD"), ("DD_DOGSTATSD_PORT", "81_25"),
        ("DD_AGENT_HOST", "\u2003agent\n"), ("SYNCWATCH_OTEL_ENDPOINT", "\x1c")]
    ∧ Relation.ReflTransGen Respaced sparsePort env'
    ∧ read env' = .ok c ∧ read sparsePort = .ok c
    ∧ c.statsdHost = some "agent" ∧ c.statsdPort = some 8125 ∧ c.otelEndpoint = none := by
  have hpad : ∀ env, Entries.get? "DD_AGENT_HOST" env = some "agent" →
      Respaced env (Entries.put "DD_AGENT_HOST" ("\u2003" ++ "agent" ++ "\n") env) :=
    fun _ h => .pad h rfl rfl
  have hunset : ∀ env, Entries.get? "SYNCWATCH_STATSD_PORT" env = some " \t" →
      Respaced env (Entries.remove "SYNCWATCH_STATSD_PORT" env) :=
    fun _ h => .unset h rfl
  have hset : ∀ env, Entries.get? "SYNCWATCH_OTEL_ENDPOINT" env = none →
      Respaced env (Entries.put "SYNCWATCH_OTEL_ENDPOINT" "\x1c" env) :=
    fun _ h => .set h rfl
  have hchanges :=
    ((Relation.ReflTransGen.single (hpad sparsePort rfl)).tail (hunset _ rfl)).tail (hset _ rfl)
  obtain ⟨hsame, port, hport, -, hread⟩ := read_respaced sparsePort
  have hok : (read sparsePort).isOk = true := by decide +kernel
  cases hc : read sparsePort with
  | error f =>
      rw [hc] at hok
      cases hok
  | ok c =>
      obtain ⟨hnumber, hhost, hendpoint⟩ := hread c hc
      have hnone : ∀ v, (none : Option String) = some v → Text.isBlankText v = true := nofun
      have hblank : ∀ v, Entries.get? "SYNCWATCH_STATSD_PORT" sparsePort = some v →
          Text.isBlankText v = true := fun v hv => Option.some.inj hv ▸ rfl
      refine ⟨_, c, rfl, hchanges, (hsame _ hchanges).trans hc, rfl,
        hhost.second hnone "agent" rfl rfl, ?_, hendpoint.neither hnone hnone⟩
      rw [hport.second hblank "81_25" rfl rfl] at hnumber
      obtain ⟨n, hn, hk⟩ := Option.map_eq_some_iff.mp hnumber.symm
      have hvalue : Decimal.readInt (Text.trim "81_25") = .ok 8125 := by rfl
      rw [hn, Except.ok.inj (hk.trans hvalue)]

end Config
end FleetHealth
