import FleetHealth.Log.Setup

/-!
# Proofs — Log — Setup

The loggers of a process over every history of set-ups and shutdowns, among which others attach handlers of their own.  A set-up is refused before its handler is attached, or attaches it and then cannot take its level, or is carried out (`setup_cases`); all else follows from these three.

* `Upheld` is the invariant: what the calls so far say about our own handler and about structured records, and what the acts of others say about theirs.
* `loggers_of_history` is the account of every history.
* `handler_of_refused_level`: that a level cannot be taken is found out after the handler was attached, so a set-up that raises may leave one.
-/

namespace FleetHealth.Log

/-! ### Choices -/

theorem same_text (s t : String) : Datum.same (.text s) (.text t) = (s == t) := by
  rw [Datum.same]

/-- The handler that a configuration chooses, where its formatter and its destination are known. -/
def ownHandler (defaultPath : String) (c : Config) : Handler where
  layout := ⟨c.logFormatter == "structlog", c.logFormat == "console"⟩
  destination :=
    if c.logDestination = "stderr" then .stderr
    else .file ((c.logPath.filter (!·.isEmpty)).getD defaultPath)

/-- Whether the formatter and the destination of a configuration are known. -/
def isKnown (c : Config) : Bool :=
  formatters.contains c.logFormatter && destinations.contains c.logDestination

/-- Whether the level of a configuration can be taken. -/
def hasLevel (c : Config) : Bool :=
  !(["BASIC_FORMAT", "_STYLES"].contains (Text.upperAscii c.logLevel))

theorem layout_ofConfig (c : Config) :
    (formatters.contains c.logFormatter = true →
      (Choice.ofConfig c).layout = .ok ⟨c.logFormatter == "structlog", c.logFormat == "console"⟩)
    ∧ (formatters.contains c.logFormatter = false → ∃ f, (Choice.ofConfig c).layout = .error f) := by
  have hany : (formatters.any fun f => Datum.same (.text f) (.text c.logFormatter)) =
      formatters.contains c.logFormatter := by
    simp only [same_text, List.contains_eq_any_beq, Bool.beq_comm]
  unfold Choice.layout Choice.ofConfig
  dsimp only
  rw [hany]
  refine ⟨fun h => ?_, fun h => ?_⟩
  · rw [if_pos h, same_text, same_text, Bool.beq_comm, Bool.beq_comm (a := "console")]
  · rw [if_neg (by rw [h]; exact Bool.false_ne_true)]
    exact ⟨_, rfl⟩

theorem destination_ofConfig (defaultPath : String) (c : Config) :
    (destinations.contains c.logDestination = true →
      (Choice.ofConfig c).handlerDestination defaultPath = .ok (ownHandler defaultPath c).destination)
    ∧ (destinations.contains c.logDestination = false →
      ∃ f, (Choice.ofConfig c).handlerDestination defaultPath = .error f) := by
  have hpath : (Choice.ofConfig c).pathOr defaultPath =
      .ok ((c.logPath.filter (!·.isEmpty)).getD defaultPath) := by
    unfold Choice.pathOr Choice.ofConfig
    cases c.logPath with
    | none => rfl
    | some p => cases hp : p.isEmpty <;> simp [Datum.optText, Option.filter, hp]
  unfold Choice.handlerDestination
  rw [hpath]
  unfold Choice.ofConfig ownHandler
  dsimp only
  rw [same_text, same_text]
  by_cases hs : c.logDestination = "stderr"
  · rw [hs]
    exact ⟨fun _ => rfl, nofun⟩
  · by_cases hj : c.logDestination = "jsonl"
    · rw [hj]
      exact ⟨fun _ => rfl, nofun⟩
    · have hs' : ("stderr" == c.logDestination) = false := beq_eq_false_iff_ne.mpr (Ne.symm hs)
      have hj' : ("jsonl" == c.logDestination) = false := beq_eq_false_iff_ne.mpr (Ne.symm hj)
      rw [hs', hj']
      refine ⟨fun h => ?_, fun _ => ⟨_, rfl⟩⟩
      simp [destinations, hs, hj] at h

theorem ofChoice_ofConfig (defaultPath : String) (c : Config) :
    (isKnown c = true → Handler.ofChoice defaultPath (.ofConfig c) = .ok (ownHandler defaultPath c))
    ∧ (isKnown c = false → ∃ f, Handler.ofChoice defaultPath (.ofConfig c) = .error f) := by
  obtain ⟨hlayout, hnone⟩ := layout_ofConfig c
  obtain ⟨hdestination, hnowhere⟩ := destination_ofConfig defaultPath c
  unfold Handler.ofChoice isKnown
  refine ⟨fun h => ?_, fun h => ?_⟩
  · obtain ⟨hf, hd⟩ := Bool.and_eq_true_iff.mp h
    rw [hlayout hf, hdestination hd]
    rfl
  · cases hf : formatters.contains c.logFormatter with
    | false =>
        obtain ⟨f, hf⟩ := hnone hf
        rw [hf]
        exact ⟨f, rfl⟩
    | true =>
        rw [hf, Bool.true_and] at h
        obtain ⟨f, hd⟩ := hnowhere h
        rw [hlayout hf, hd]
        exact ⟨f, rfl⟩

theorem levelOf_text (c : Config) :
    (hasLevel c = true → ∃ n, levelOf (.text c.logLevel) = .ok n)
    ∧ (hasLevel c = false → ∃ f, levelOf (.text c.logLevel) = .error f) := by
  unfold levelOf hasLevel
  dsimp only
  by_cases hb : Text.upperAscii c.logLevel = "BASIC_FORMAT"
  · rw [if_pos hb, hb]
    exact ⟨nofun, fun _ => ⟨_, rfl⟩⟩
  · by_cases hs : Text.upperAscii c.logLevel = "_STYLES"
    · rw [if_neg hb, if_pos hs, hs]
      exact ⟨nofun, fun _ => ⟨_, rfl⟩⟩
    · rw [if_neg hb, if_neg hs]
      refine ⟨fun _ => ⟨_, rfl⟩, fun h => ?_⟩
      simp [hb, hs] at h

/-! ### Calls -/

/-- What a program does to its loggers; opening the destination of a set-up may fail. -/
inductive Call where
  | setup (c : Config) (opening : Destination → Except Fault Unit)
  | shutdown

namespace Call

/-- Whether a call is a set-up. -/
def isSetup : Call → Bool
  | setup ..  => true
  | shutdown  => false

/-- Whether a call asks for structured records. -/
def isStructured : Call → Bool
  | setup c _ => c.logFormatter == "structlog"
  | shutdown  => false

/-- Whether a call opens a handler. -/
def opens (defaultPath : String) : Call → Bool
  | setup c opening => isKnown c && (opening (ownHandler defaultPath c).destination).isOk
  | shutdown        => false

theorem opens_setup (defaultPath : String) (c : Config)
    (opening : Destination → Except Fault Unit) :
    (setup c opening).opens defaultPath =
      (isKnown c && (opening (ownHandler defaultPath c).destination).isOk) := rfl

/-- Whether a call opens a handler at a level that cannot be taken. -/
def isUnlevelled (defaultPath : String) : Call → Bool
  | setup c opening => (setup c opening).opens defaultPath && !hasLevel c
  | shutdown        => false

end Call

namespace Logging

/-- One call: the loggers after it and its answer. -/
def perform (g : Logging) (defaultPath : String) : Call → Logging × Except Fault Unit
  | .setup c opening => g.setup defaultPath (.ofConfig c) opening
  | .shutdown        => (g.shutdown, .ok ())

variable (g : Logging) (defaultPath : String)

/-- **A set-up**: refused before its handler is attached, or attached without its level, or carried
out. -/
theorem setup_cases {P : Logging × Except Fault Unit → Prop} (c : Config)
    (opening : Destination → Except Fault Unit)
    (refused : ∀ f, (Call.setup c opening).opens defaultPath = false → P (g, .error f))
    (unlevelled : ∀ f, (Call.setup c opening).opens defaultPath = true → hasLevel c = false →
      P (g.attach (ownHandler defaultPath c), .error f))
    (installed : ∀ n, (Call.setup c opening).opens defaultPath = true → hasLevel c = true →
      P ({ g.attach (ownHandler defaultPath c) with
            level := n
            structured := c.logFormatter == "structlog" }, .ok ())) :
    P (g.perform defaultPath (.setup c opening)) := by
  show P (g.setup defaultPath (.ofConfig c) opening)
  unfold setup
  rw [Call.opens_setup] at refused unlevelled installed
  cases hk : isKnown c with
  | false =>
      obtain ⟨f, hf⟩ := (ofChoice_ofConfig defaultPath c).2 hk
      rw [hf]
      exact refused f (by rw [hk, Bool.false_and])
  | true =>
      rw [(ofChoice_ofConfig defaultPath c).1 hk]
      dsimp only
      cases ho : opening (ownHandler defaultPath c).destination with
      | error f => exact refused f (by rw [hk, ho]; rfl)
      | ok a =>
          have hopens : (isKnown c && (opening (ownHandler defaultPath c).destination).isOk) = true := by
            rw [hk, ho]
            rfl
          show P (g.install (ownHandler defaultPath c) (.text c.logLevel))
          unfold install
          cases hl : hasLevel c with
          | false =>
              obtain ⟨f, hf⟩ := (levelOf_text c).2 hl
              rw [hf]
              exact unlevelled f hopens hl
          | true =>
              obtain ⟨n, hn⟩ := (levelOf_text c).1 hl
              rw [hn]
              exact installed n hopens hl

/-- Loggers that were shut down have no handler of our own. -/
theorem ownCount_shutdown : g.shutdown.ownCount = 0 := by
  show (g.handlers.filter fun a => !a.isOwn).countP Attached.isOwn = 0
  rw [List.countP_eq_zero]
  intro a ha
  have hno := (List.mem_filter.mp ha).2
  simpa using hno

theorem others_shutdown : g.shutdown.others = g.others := by
  rw [others, shutdown, others, List.filter_filter]
  simp

variable (h : Handler)

/-- A handler of our own takes the place of the one before. -/
theorem ownCount_attach : (g.attach h).ownCount = 1 := by
  have hothers : g.others.countP Attached.isOwn = 0 := g.ownCount_shutdown
  rw [ownCount, attach, List.countP_append, hothers]
  rfl

theorem others_attach : (g.attach h).others = g.others := by
  have hothers : g.others.filter (fun a => !a.isOwn) = g.others := g.others_shutdown
  rw [others, attach, List.filter_append, hothers]
  exact List.append_nil _

/-- **A call leaves the handlers of others as they are.** -/
theorem perform_others (call : Call) : (g.perform defaultPath call).1.others = g.others := by
  cases call with
  | shutdown => exact g.others_shutdown
  | setup c opening =>
      exact setup_cases (P := fun r => r.1.others = g.others) g defaultPath c opening
        (fun _ _ => rfl) (fun _ _ _ => g.others_attach _) (fun _ _ _ => g.others_attach _)

/-- A handler that somebody else attaches comes last, unless it is attached already. -/
def attachOther (id : Nat) : Logging :=
  if g.handlers.contains (.other id) then g else { g with handlers := g.handlers ++ [.other id] }

theorem ownCount_attachOther (id : Nat) : (g.attachOther id).ownCount = g.ownCount := by
  unfold attachOther
  split
  · rfl
  · rw [ownCount, List.countP_append]
    rfl

theorem others_attachOther (id : Nat) :
    (g.attachOther id).others =
      if g.others.contains (.other id) then g.others else g.others ++ [.other id] := by
  have hmem : g.others.contains (.other id) = g.handlers.contains (.other id) := by
    rw [Bool.eq_iff_iff, List.contains_iff_mem, List.contains_iff_mem, others, List.mem_filter]
    exact ⟨And.left, fun h => ⟨h, rfl⟩⟩
  rw [hmem]
  unfold attachOther
  split
  · rfl
  · rw [others, List.filter_append]
    rfl

theorem structured_attachOther (id : Nat) : (g.attachOther id).structured = g.structured := by
  unfold attachOther
  split <;> rfl

end Logging

/-! ### Histories -/

/-- What is done to the loggers of a process: a call of its own, or a handler that somebody else
attaches. -/
inductive Act where
  | call (c : Call)
  | attach (id : Nat)

/-- The handler that an act attaches for somebody else. -/
def Act.attached? : Act → Option Attached
  | call _    => none
  | attach id => some (.other id)

/-- The loggers of a process, and its calls so far with their answers, newest first. -/
structure Process where
  logging : Logging
  calls : List (Call × Except Fault Unit) := []

namespace Process

/-- One act. -/
def step (defaultPath : String) (p : Process) : Act → Process
  | .call c    =>
    let (g, r) := p.logging.perform defaultPath c
    { logging := g, calls := (c, r) :: p.calls }
  | .attach id => { p with logging := p.logging.attachOther id }

/-- The process after a history of acts. -/
def run (defaultPath : String) (p : Process) (acts : List Act) : Process :=
  acts.foldl (step defaultPath) p

/-- The last call that answered. -/
def lastAnswered? (p : Process) : Option Call := (p.calls.find? fun d => d.2.isOk).map Prod.fst

/-- The last call that answered, or attached a handler and then raised over its level. -/
def lastHeeded? (defaultPath : String) (p : Process) : Option Call :=
  (p.calls.find? fun d => d.2.isOk || d.1.isUnlevelled defaultPath).map Prod.fst

/-- Where no set-up has raised over its level, only the calls that answered are heeded. -/
theorem lastHeeded?_eq {defaultPath : String} {p : Process}
    (h : ∀ d ∈ p.calls, d.1.isUnlevelled defaultPath = false) :
    p.lastHeeded? defaultPath = p.lastAnswered? := by
  obtain ⟨g, calls⟩ := p
  refine congrArg (Option.map Prod.fst) ?_
  induction calls with
  | nil => rfl
  | cons d ds ih =>
      obtain ⟨hd, hds⟩ := List.forall_mem_cons.mp h
      dsimp only at ih ⊢
      rw [List.find?_cons, List.find?_cons, hd, Bool.or_false, ih hds]

/-- The handlers that others had attached before, and those that they have attached since, each once
and in order. -/
def joined (before since : List Attached) : List Attached :=
  before ++ (since.removeAll before).eraseDups

theorem joined_concat (before since : List Attached) (a : Attached) :
    joined before (since ++ [a]) =
      if (joined before since).contains a then joined before since
      else joined before since ++ [a] := by
  have hremove : (since ++ [a]).removeAll before =
      since.removeAll before ++ [a].removeAll before := List.filter_append ..
  have hmem : (joined before since).contains a = true ↔
      a ∈ before ∨ a ∈ since.removeAll before := by
    rw [List.contains_iff_mem, joined, List.mem_append, List.mem_eraseDups]
  rw [joined, hremove, List.eraseDups_append, ← List.append_assoc, ← joined]
  split
  · next h =>
      have hnone : ([a].removeAll before).removeAll (since.removeAll before) = [] := by
        rcases hmem.mp h with hb | hs
        · simp [List.removeAll, hb]
        · rw [List.removeAll, List.filter_eq_nil_iff]
          intro x hx
          obtain rfl := List.mem_singleton.mp (List.mem_filter.mp hx).1
          simpa using hs
      rw [hnone]
      exact List.append_nil _
  · next h =>
      obtain ⟨hb, hs⟩ := not_or.mp (mt hmem.mpr h)
      have hone : ∀ {ys : List Attached}, a ∉ ys → [a].removeAll ys = [a] := fun hno => by
        simp [List.removeAll, hno]
      rw [hone hb, hone hs]
      rfl

/-- The loggers are as the calls and the acts of others so far say. -/
structure Upheld (defaultPath : String) (before since : List Attached) (p : Process) : Prop where
  ownCount : p.logging.ownCount = ((p.lastHeeded? defaultPath).any Call.isSetup).toNat
  structured : p.logging.structured = p.lastAnswered?.any Call.isStructured
  others : p.logging.others = joined before since

variable {defaultPath : String} {before since : List Attached} {p : Process}

theorem Upheld.attach (h : Upheld defaultPath before since p) (id : Nat) :
    Upheld defaultPath before (since ++ [.other id]) (p.step defaultPath (.attach id)) where
  ownCount := (p.logging.ownCount_attachOther id).trans h.ownCount
  structured := (p.logging.structured_attachOther id).trans h.structured
  others := by
    rw [joined_concat, ← h.others]
    exact p.logging.others_attachOther id

theorem Upheld.call (h : Upheld defaultPath before since p) (call : Call) :
    Upheld defaultPath before since (p.step defaultPath (.call call)) := by
  have hothers : (p.step defaultPath (.call call)).logging.others = joined before since :=
    (p.logging.perform_others defaultPath call).trans h.others
  cases call with
  | shutdown => exact ⟨p.logging.ownCount_shutdown, rfl, hothers⟩
  | setup c opening =>
      refine ⟨?_, ?_, hothers⟩
      · refine Logging.setup_cases (P := fun r => r.1.ownCount =
          ((lastHeeded? defaultPath ⟨r.1, (.setup c opening, r.2) :: p.calls⟩).any
            Call.isSetup).toNat) p.logging defaultPath c opening ?_ ?_ ?_
        · intro f hf
          have hno : (Call.setup c opening).isUnlevelled defaultPath = false := by
            rw [Call.isUnlevelled, hf, Bool.false_and]
          rw [lastHeeded?, List.find?_cons_of_neg (by rw [hno]; exact Bool.false_ne_true)]
          exact h.ownCount
        · intro f hopens hl
          have hyes : (Call.setup c opening).isUnlevelled defaultPath = true := by
            rw [Call.isUnlevelled, hopens, hl]
            rfl
          rw [lastHeeded?, List.find?_cons_of_pos (by rw [hyes]; rfl)]
          exact p.logging.ownCount_attach _
        · intro n _ _
          exact p.logging.ownCount_attach _
      · refine Logging.setup_cases (P := fun r => r.1.structured =
          (lastAnswered? ⟨r.1, (.setup c opening, r.2) :: p.calls⟩).any Call.isStructured)
          p.logging defaultPath c opening ?_ ?_ ?_
        · exact fun _ _ => h.structured
        · exact fun _ _ _ => h.structured
        · exact fun _ _ _ => rfl

theorem Upheld.run (h : Upheld defaultPath before since p) (acts : List Act) :
    Upheld defaultPath before (since ++ acts.filterMap Act.attached?) (p.run defaultPath acts) := by
  induction acts generalizing p since with
  | nil =>
      rw [List.filterMap_nil, List.append_nil]
      exact h
  | cons a acts ih =>
      cases a with
      | call c => exact ih (h.call c)
      | attach id =>
          have hrest := ih (h.attach id)
          rwa [List.append_assoc] at hrest

end Process

/-- How a set-up ends, by what it asks for: it answers exactly when its formatter and its destination
are known, the destination opens and the level can be taken.  When it raises, the level and the kind of
records are as they were, and so are the handlers, unless it raised over its level. -/
structure Ends (defaultPath : String) (g : Logging) (c : Config)
    (opening : Destination → Except Fault Unit) (r : Logging × Except Fault Unit) : Prop where
  answered : r.2 = .ok () ↔ isKnown c = true
    ∧ (opening (ownHandler defaultPath c).destination).isOk = true ∧ hasLevel c = true
  level : ∀ f, r.2 = .error f → r.1.level = g.level
  structured : ∀ f, r.2 = .error f → r.1.structured = g.structured
  handlers : ∀ f, r.2 = .error f →
    r.1.handlers = if (Call.setup c opening).isUnlevelled defaultPath then
        g.others ++ [.own (ownHandler defaultPath c)]
      else g.handlers

theorem setup_ends (defaultPath : String) (g : Logging) (c : Config)
    (opening : Destination → Except Fault Unit) :
    Ends defaultPath g c opening (g.perform defaultPath (.setup c opening)) := by
  refine Logging.setup_cases (P := Ends defaultPath g c opening) g defaultPath c opening ?_ ?_ ?_
  · intro f hf
    refine ⟨⟨nofun, fun h => ?_⟩, fun _ _ => rfl, fun _ _ => rfl, fun _ _ => ?_⟩
    · rw [Call.opens_setup, h.1, h.2.1] at hf
      cases hf
    · rw [Call.isUnlevelled, hf, Bool.false_and, if_neg Bool.false_ne_true]
  · intro f hopens hl
    refine ⟨⟨nofun, fun h => ?_⟩, fun _ _ => rfl, fun _ _ => rfl, fun _ _ => ?_⟩
    · cases hl.symm.trans h.2.2
    · rw [Call.isUnlevelled, hopens, hl, Bool.not_false, Bool.and_true, if_pos rfl]
      rfl
  · intro n hopens hl
    obtain ⟨hk, ho⟩ := Bool.and_eq_true_iff.mp hopens
    exact ⟨⟨fun _ => ⟨hk, ho, hl⟩, fun _ => rfl⟩, nofun, nofun, nofun⟩

/-- **The loggers over every history.**  Where a process begins without a handler of our own and
without structured records, there is at most one handler of our own at every point.  There is one
exactly when the last call that answered is a set-up, as long as no set-up has raised over its level,
and in general exactly when the last call that answered or raised so is a set-up.  Records are
structured exactly when the last call that answered is a set-up that asks for it.  The handlers of
others stay, in order, and after them come those that they have attached since.  A set-up that raises
changes nothing, unless it raised over its level: then it has attached its handler. -/
theorem loggers_of_history (defaultPath : String) (g : Logging) (hnone : g.ownCount = 0)
    (hplain : g.structured = false) (acts : List Act) :
    let p := Process.run defaultPath ⟨g, []⟩ acts
    p.logging.ownCount ≤ 1
    ∧ ((∀ d ∈ p.calls, d.1.isUnlevelled defaultPath = false) →
        (p.logging.ownCount = 1 ↔ p.lastAnswered?.any Call.isSetup = true))
    ∧ (p.logging.ownCount = 1 ↔ (p.lastHeeded? defaultPath).any Call.isSetup = true)
    ∧ p.logging.structured = p.lastAnswered?.any Call.isStructured
    ∧ p.logging.others = Process.joined g.others (acts.filterMap Act.attached?)
    ∧ ∀ c opening, Ends defaultPath p.logging c opening
        (p.logging.perform defaultPath (.setup c opening)) := by
  intro p
  have hnew : Process.Upheld defaultPath g.others [] ⟨g, []⟩ :=
    ⟨hnone, hplain, (List.append_nil _).symm⟩
  have h : Process.Upheld defaultPath g.others (acts.filterMap Act.attached?) p := hnew.run acts
  have hone : p.logging.ownCount = 1 ↔ (p.lastHeeded? defaultPath).any Call.isSetup = true := by
    rw [h.ownCount]
    cases (p.lastHeeded? defaultPath).any Call.isSetup <;> decide
  refine ⟨?_, fun hlevels => ?_, hone, h.structured, h.others, fun c opening =>
    setup_ends defaultPath p.logging c opening⟩
  · rw [h.ownCount]
    exact Bool.toNat_le _
  · rw [hone, Process.lastHeeded?_eq hlevels]

/-- A process with a handler of somebody else, in which a set-up is carried out, another handler is
attached, and the file of a second set-up cannot be opened. -/
theorem loggers_of_failed_opening : ∃ c c', Config.read [] = .ok c
    ∧ Config.read [("SYNCWATCH_LOG_DESTINATION", "jsonl")] = .ok c'
    ∧ ({ handlers := [.other 7] } : Logging).ownCount = 0
    ∧ ({ handlers := [.other 7] } : Logging).structured = false
    ∧ ∃ p, p = Process.run "/var/log/fleet.jsonl" ⟨{ handlers := [.other 7] }, []⟩
        [.call (.setup c fun _ => .ok ()), .attach 8,
         .call (.setup c' fun _ => .error (.outside .os none))]
      ∧ p.logging.ownCount = 1 ∧ p.logging.structured = true
      ∧ p.logging.others = [.other 7, .other 8] := by
  refine ⟨_, _, rfl, rfl, rfl, rfl, _, rfl, ?_⟩
  obtain ⟨-, -, hown, hstructured, hothers, -⟩ := loggers_of_history "/var/log/fleet.jsonl"
    { handlers := [.other 7] } rfl rfl _
  exact ⟨hown.mpr rfl, hstructured, hothers⟩

/-- A level that cannot be taken is found out after the handler was attached. -/
theorem handler_of_refused_level : ∃ c g f,
    Config.read [("SYNCWATCH_LOG_LEVEL", "basic_format")] = .ok c
      ∧ ({} : Logging).perform "/var/log/fleet.jsonl" (.setup c fun _ => .ok ()) = (g, .error f)
      ∧ ({} : Logging).handlers = [] ∧ g.handlers = [.own (ownHandler "/var/log/fleet.jsonl" c)]
      ∧ g.ownCount = 1 := by
  refine ⟨_, _, _, rfl, rfl, rfl, rfl, rfl⟩

end FleetHealth.Log
