import FleetHealth.Proofs.Emitter.Contact
import FleetHealth.Proofs.Reporter.Act
import FleetHealth.Proofs.Reporter.Stop

/-!
# Proofs — Reporter — History

What a reporter does to its emitter is a history of public calls, and its journal holds what they reached.  `Uses cs r r'` says so of one way from a reporter to another; ways compose (`Uses.trans`), and `act_uses` gives the calls of one act.

* `tick_used`, `loop_used`, `run_used`: a tick, the loop and a run, however they end.
-/

namespace FleetHealth

/-- What reached the sink, as an event of the reporter's journal. -/
def ReporterEvent.contact? {τ : Type} : ReporterEvent τ → Option SinkEvent
  | .sink ev => if ev.reachesSink then some ev else none
  | _        => none

namespace Reporter

open Emitter (Call)

variable {τ : Type}

/-- What has reached the sink, the first of it first. -/
def contacts (r : Reporter τ) : List SinkEvent :=
  (r.journal.filterMap ReporterEvent.contact?).reverse

theorem contacts_of_journal {r r' : Reporter τ} (evs : List (ReporterEvent τ))
    (h : r'.journal = evs ++ r.journal) :
    r'.contacts = r.contacts ++ (evs.filterMap ReporterEvent.contact?).reverse := by
  rw [contacts, h, List.filterMap_append, List.reverse_append, contacts]

/-- `r'` came of `r` by calls of the emitter, and its journal holds what they reached. -/
structure Uses (cs : List Call) (r r' : Reporter τ) : Prop where
  emitter : r'.emitter.clear = (r.emitter.run cs).clear
  contacts : r'.contacts = r.contacts ++ (r.emitter.clear.run cs).contacts

/-- `r'` came of `r` by some calls of the emitter. -/
def Used (r r' : Reporter τ) : Prop := ∃ cs, Uses cs r r'

namespace Uses

variable {cs ds : List Call} {r r₁ r₂ : Reporter τ}

theorem trans (h : Uses cs r r₁) (k : Uses ds r₁ r₂) : Uses (cs ++ ds) r r₂ where
  emitter := by
    rw [k.emitter, ← Emitter.run_clear_clear, h.emitter, Emitter.run_clear_clear,
      Emitter.run_append]
  contacts := by
    have hlater : (r₁.emitter.clear.run ds).contacts =
        ((r.emitter.run cs).clear.run ds).contacts := by rw [h.emitter]
    rw [k.contacts, h.contacts, hlater, Emitter.contacts_run_append, List.append_assoc]

/-- Nothing was called, and what was written down is not the emitter's. -/
theorem quiet (he : r₁.emitter = r.emitter) (hc : r₁.contacts = r.contacts) : Uses [] r r₁ where
  emitter := by rw [he]; rfl
  contacts := by rw [hc]; exact (List.append_nil _).symm

theorem note {ev : ReporterEvent τ} (h : ev.contact? = none) (r : Reporter τ) :
    Uses [] r (r.note ev) := by
  refine quiet rfl ?_
  rw [contacts_of_journal (r := r) [ev] rfl, List.filterMap_cons_none h]
  exact List.append_nil _

end Uses

namespace Used

variable {r r₁ r₂ : Reporter τ}

theorem refl (r : Reporter τ) : Used r r := ⟨[], .quiet rfl rfl⟩

theorem trans (h : Used r r₁) (k : Used r₁ r₂) : Used r r₂ := by
  obtain ⟨cs, h⟩ := h
  obtain ⟨ds, k⟩ := k
  exact ⟨cs ++ ds, h.trans k⟩

theorem note {ev : ReporterEvent τ} (h : ev.contact? = none) (r : Reporter τ) : Used r (r.note ev) :=
  ⟨[], .note h r⟩

end Used

/-- One call, whatever it answers. -/
theorem called_uses (r : Reporter τ) (c : Call) : Uses [c] r (r.called c) where
  emitter := by
    rw [called_emitter]
    rfl
  contacts := by
    have hsink : ∀ evs : List SinkEvent,
        (evs.map (ReporterEvent.sink (τ := τ))).filterMap ReporterEvent.contact? =
          evs.filter SinkEvent.reachesSink := by
      intro evs
      rw [List.filterMap_map, ← List.filterMap_eq_filter]
      rfl
    rw [contacts_of_journal _ (called_journal r c), hsink]
    rfl

theorem act_used {r r' : Reporter τ} (h : Act r r') : Used r r' := by
  cases h with
  | enter | waited | turned => exact ⟨[], .quiet rfl rfl⟩
  | asked | submitted | failed | crashed => exact .note rfl r
  | called c => exact ⟨[c], called_uses r c⟩
  | told stop =>
      have hstopped : Used r { r with stopRequested := true } := ⟨[], .quiet rfl rfl⟩
      exact tell_cases (P := Used r) r stop (fun _ => .refl r)
        (fun _ => hstopped.trans (.note rfl _))

/-! ### Ticks -/

theorem flushing_used (r : Reporter τ) : Used r r.flushing :=
  (Used.note rfl r).trans ⟨_, called_uses _ .flush⟩

theorem counted_used (r : Reporter τ) : Used r r.counted.ending :=
  (show Used r r.counted from ⟨[], .quiet rfl rfl⟩).trans (.note rfl _)

variable [TimeScale τ]

theorem sayCompleted_used (r : Reporter τ) (report : TickReport τ) :
    Used r (r.sayCompleted report) :=
  sayCompleted_cases (P := Used r) r report (fun _ => .note rfl r)
    (fun _ _ => (Used.note rfl r).trans (.note rfl _))

/-- **A tick**, however it ends. -/
theorem tick_used (heeds : Bool) (r : Reporter τ) : Used r (r.tick heeds).1 := by
  have hwalk : Used r (walk heeds r.bindings (r.note (.began r.clock)) .empty).1 :=
    (Used.note rfl r).trans ((walk_acts heeds _ _ _).lift .refl .trans act_used)
  refine tick_cases (P := fun p => Used r p.1) heeds r ?_ ?_ ?_
  · intro r₁ report escaped f hw _
    rw [hw] at hwalk
    exact (hwalk.trans (flushing_used r₁)).trans (.note rfl _)
  · intro r₁ report f hw _
    rw [hw] at hwalk
    exact (hwalk.trans (flushing_used r₁)).trans (counted_used _)
  · intro r₁ report report' hw _ _
    rw [hw] at hwalk
    have hcounted : Used r₁.flushing r₁.flushing.counted := ⟨[], .quiet rfl rfl⟩
    have hsaid := (hwalk.trans (flushing_used r₁)).trans
      (hcounted.trans (sayCompleted_used _ report'))
    exact (hsaid.trans (.note rfl _)).trans (.note rfl _)

theorem cycle_used (r : Reporter τ) : Used r r.cycle := by
  have htick := tick_used true r
  refine cycle_cases (P := Used r) r (fun r₁ f h => ?_) (fun r₁ _ h => ?_)
  · rw [h] at htick
    exact htick.trans (.note rfl r₁)
  · rw [h] at htick
    exact htick

theorem asleep_used (r : Reporter τ) : Used r r.asleep :=
  (cycle_used r).trans ((act_used (.enter r.cycle .sleep)).trans (.note rfl _))

/-- **The loop.** -/
theorem loop_used (sleeps : Nat) (r : Reporter τ) : Used r (r.loop sleeps) := by
  induction sleeps, r using loop_induction with
  | stopped n r h =>
      rw [loop_stopped h]
      exact .refl r
  | cut n r hgo h =>
      rw [loop_cut hgo h]
      exact cycle_used r
  | last r hgo h =>
      rw [loop_zero hgo h]
      exact (asleep_used r).trans (act_used (.told _ true))
  | next n r hgo h ih =>
      have hwake : Used r.asleep r.awake := ⟨[], .quiet rfl rfl⟩
      rw [loop_succ hgo h]
      exact ((asleep_used r).trans hwake).trans ih

/-- **A run**, however it ends. -/
theorem run_used (r : Reporter τ) (sleeps : Nat) : Used r (r.run sleeps).1 := by
  have hloop : Used r (r.sayStarted.loop sleeps) := (Used.note rfl r).trans (loop_used sleeps _)
  have hfinish : ∀ r : Reporter τ, Used r r.finish.1 := by
    intro r
    have hshut : Used r r.closing :=
      ((act_used (.enter r .stopped)).trans (.note rfl _)).trans ⟨_, called_uses _ .shutdown⟩
    exact finish_cases (P := fun p => Used r p.1) r (fun _ _ => hshut)
      (fun _ => hshut.trans (.note rfl _))
  exact hloop.trans (hfinish _)

end Reporter
end FleetHealth
