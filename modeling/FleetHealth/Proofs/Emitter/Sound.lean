import FleetHealth.Proofs.Emitter.Locality
import FleetHealth.Proofs.Emitter.Tally

/-!
# Proofs — Emitter — Sound

When a call of an emitter answers and does not raise.  An emitter is *sound* when its sink has raised nothing but the two faults that an emitter absorbs, and every tally is a number of the format.  A history that ends sound was sound all along (`Sound.of_run`), and a call that ends sound raises nothing of its own; of the tallies, only that of its own indicator has to be a number:

* `submit_answered`: a sample that the gate admits is answered.
* `recordError_answered`: so is an error of a text.

So a sample raises exactly when the gate refuses it (`submit_refused`), which depends on the sample alone and not on the emitter.
-/

namespace FleetHealth

/-- Whether the sink raised nothing over a sample, or a fault that an emitter absorbs. -/
def Delivery.isAbsorbed (d : Delivery) : Bool :=
  match d.outcome with
  | some f => decide (f.kind = .sinkTransient ∨ f.kind = .sinkFatal)
  | none   => true

namespace Emitter

/-- The sink has raised only faults that an emitter absorbs. -/
def Absorbed (e : Emitter) : Prop := ∀ d ∈ e.deliveries, d.isAbsorbed = true

/-- The sink has raised only faults that an emitter absorbs, and every tally is a number. -/
structure Sound (e : Emitter) : Prop where
  absorbed : e.Absorbed
  tallies : ∀ i, e.health.tally (.text i) ≤ Binary64.largestWhole

/-- `e'` has all the deliveries of `e`, and no smaller tally. -/
structure Grown (e e' : Emitter) : Prop where
  deliveries : ∀ d ∈ e.deliveries, d ∈ e'.deliveries
  tallies : ∀ i, e.health.tally (.text i) ≤ e'.health.tally (.text i)

theorem Grown.refl (e : Emitter) : Grown e e := ⟨fun _ h => h, fun _ => Nat.le_refl _⟩

theorem Grown.framed {e e₁ e₂ : Emitter} (h : Grown e e₁) (hf : Framed e₁ e₂) : Grown e e₂ where
  deliveries := by rw [hf.deliveries]; exact h.deliveries
  tallies := fun i => by
    have ht := h.tallies i
    rwa [Health.tally, Health.tally, ← hf.errors] at ht

/-- Deliveries and tallies only grow. -/
theorem grown_invariant (e : Emitter) : Invariant (Grown e) where
  attempt := by
    intro e₁ m t v d x tags e₂ a _ _ ha h
    have hk := attempt_handed e₁ m x (e₁.tagged tags)
    rw [ha] at hk
    refine ⟨fun d hd => ?_, fun i => ?_⟩
    · rw [hk.deliveries]
      exact List.mem_cons_of_mem _ (h.deliveries d hd)
    · have ht := h.tallies i
      rwa [Health.tally, Health.tally, ← hk.errors] at ht
  counted := by
    intro e₁ k h
    refine ⟨h.deliveries, fun i => ?_⟩
    rw [counted_tally]
    exact Nat.le_trans (h.tallies i) (Nat.le_add_right _ _)
  flush := fun {e₁} h => h.framed (flush_framed e₁)
  shutdown := fun {e₁} h => h.framed (shutdown_framed e₁)

namespace Sound

variable {e e' : Emitter}

theorem of_grown (h : e'.Sound) (g : Grown e e') : e.Sound where
  absorbed := fun d hd => h.absorbed d (g.deliveries d hd)
  tallies := fun i => Nat.le_trans (g.tallies i) (h.tallies i)

/-- A history that ends sound was sound all along. -/
theorem of_run {calls : List Call} (h : (e.run calls).Sound) : e.Sound :=
  h.of_grown ((grown_invariant e).run (.refl e) calls)

/-- A history that ends sound began with a call that did. -/
theorem of_run_cons {c : Call} {cs : List Call} (h : (e.run (c :: cs)).Sound) :
    (e.run [c]).Sound :=
  Sound.of_run h

theorem of_atop {j : List SinkEvent} (h : (e.atop j).Sound) : e.Sound where
  absorbed := fun d hd => by
    refine h.absorbed d ?_
    rw [deliveries, atop_journal, List.filterMap_append]
    exact List.mem_append_left _ hd
  tallies := h.tallies

/-- A history that ends sound may be cut, and continued with an empty journal. -/
theorem of_run_append {cs ds : List Call} (h : (e.run (cs ++ ds)).Sound) :
    (e.run cs).Sound ∧ ((e.run cs).clear.run ds).Sound := by
  refine ⟨?_, ?_⟩
  · rw [run_append] at h
    exact h.of_run
  · rw [run_append_clear] at h
    exact h.of_atop

end Sound

/-- A history of a new emitter ends sound when the sink raised only faults that are absorbed and no
tally can have outgrown the format. -/
theorem sound_of_absorbed (o : EmitterOptions) (s : Sink) (calls : List Call)
    (h : ((ofSink o s).run calls).Absorbed)
    (hn : calls.length + ((ofSink o s).run calls).deliveries.length ≤ Binary64.largestWhole) :
    ((ofSink o s).run calls).Sound where
  absorbed := h
  tallies := fun i => by
    have hb := balance_run (ofSink o s) calls i
    have h₀ : (ofSink o s).losses i = 0 := rfl
    have ht : (ofSink o s).health.tally (.text i) = 0 := rfl
    rw [h₀, ht, Nat.add_zero, Nat.zero_add, losses] at hb
    rw [hb]
    refine Nat.le_trans (Nat.add_le_add ?_ ?_) hn
    · exact List.countP_le_length
    · exact List.countP_le_length

/-! ### One sample -/

/-- A crash is a fault that is not absorbed. -/
theorem attempt_answered {e e' : Emitter} {m : Metric} {x : Binary64} {tags : Tags} {a : Attempt}
    (h : e.attempt m x tags = (e', a)) (hs : e'.Absorbed) : ∃ b, a.answer = .ok b := by
  have hk := attempt_handed e m x tags
  rw [h] at hk
  have hd : Delivery.isAbsorbed ⟨m, x, tags, (e.record m x tags).2⟩ = true := by
    refine hs _ ?_
    rw [hk.deliveries]
    exact List.mem_cons_self
  have hp : ∃ b, (e.attempt m x tags).2.answer = .ok b := by
    refine attempt_cases (P := fun r => ∃ b, r.2.answer = .ok b) e m x tags ?_ ?_ ?_ ?_
    · intro _
      exact ⟨.settled, rfl⟩
    · intro f _ _
      exact ⟨.lost, rfl⟩
    · intro f _ _
      exact ⟨.lost, rfl⟩
    · intro f ho ht hf
      rw [ho] at hd
      rcases of_decide_eq_true hd with hd | hd
      · exact absurd hd ht
      · exact absurd hd hf
  rwa [h] at hp

/-- A sample that the gate admits is answered, when the sink raised only what is absorbed. -/
theorem offer_answered {e e' : Emitter} {m : Metric} {t : MetricType} {v d : Datum}
    {r : Except Fault Attempt} {admitted : Binary64 × Tags} (ha : accept m t v d = .ok admitted)
    (h : e.offer m t v d = (e', r)) (hs : e'.Absorbed) : ∃ a, r = .ok a := by
  have hp : (e.offer m t v d).1.Absorbed → ∃ a, (e.offer m t v d).2 = .ok a := by
    refine offer_cases (P := fun p => p.1.Absorbed → ∃ a, p.2 = .ok a) e m t v d ?_ ?_ ?_
    · intro f hf
      rw [ha] at hf
      cases hf
    · intro x tags _ _ _
      exact ⟨.settled, rfl⟩
    · intro x tags e₁ a _ _ hat hs₁
      exact attempt_answered hat hs₁
  rw [h] at hp
  exact hp hs

/-- An error of a text is one more in its tally. -/
theorem recordError_tally (e : Emitter) (i : String) :
    (e.recordError (.text i)).1.health.tally (.text i) = e.health.tally (.text i) + 1 := by
  have hone : ((Call.recordError (.text i)).isErrorOf i).toNat = 1 := by
    rw [Call.isErrorOf, beq_self_eq_true, Bool.toNat_true]
  rw [(recordError_balance e (.text i) i).1, hone]

/-- **An error of a text is answered**, when the sink raised only what is absorbed and the new total is
a number. -/
theorem recordError_answered {e e' : Emitter} {i : String} {r : Except Fault Nat}
    (h : e.recordError (.text i) = (e', r)) (hs : e'.Absorbed)
    (hn : e'.health.tally (.text i) ≤ Binary64.largestWhole) : ∃ total, r = .ok total := by
  have hk : Key.ofDatum (.text i) = .ok (.text i) := rfl
  have hb := recordError_tally e i
  rw [h] at hb
  have hn : (e.counted (.text i)).health.tally (.text i) ≤ Binary64.largestWhole := by
    rw [counted_tally_self, ← hb]
    exact hn
  have hacc := accept_report hn i
  have hcases : ∀ p : Emitter × Except Fault Attempt, e.reportTally (.text i) (.text i) = p →
      p.1.Absorbed → ∃ a, p.2 = .ok a := by
    rintro ⟨e₁, r₁⟩ hp hs₁
    rw [reportTally] at hp
    exact offer_answered hacc hp hs₁
  have hp : (e.recordError (.text i)).1.Absorbed →
      ∃ total, (e.recordError (.text i)).2 = .ok total := by
    refine recordError_cases (P := fun p => p.1.Absorbed → ∃ total, p.2 = .ok total) e (.text i)
      ?_ ?_ ?_
    · intro s hs'
      cases hs'
    · intro k e₁ f hk' hr hs₁
      obtain rfl := Except.ok.inj (hk.symm.trans hk')
      obtain ⟨a, ha⟩ := hcases _ hr hs₁
      cases ha
    · intro k e₁ a _ _ _
      exact ⟨_, rfl⟩
  rw [h] at hp
  exact hp hs

/-- **A sample that the gate admits is answered**, when the sink raised only what is absorbed and the
tally of its indicator is a number. -/
theorem submit_answered {e e' : Emitter} {m : Metric} {t : MetricType} {v d : Datum}
    {r : Except Fault Unit} {admitted : Binary64 × Tags} (ha : accept m t v d = .ok admitted)
    (h : e.submit m t v d = (e', r)) (hs : e'.Absorbed)
    (hn : e'.health.tally (.text m.name) ≤ Binary64.largestWhole) : r = .ok () := by
  have hp : (e.submit m t v d).1.Absorbed →
      (e.submit m t v d).1.health.tally (.text m.name) ≤ Binary64.largestWhole →
      (e.submit m t v d).2 = .ok () := by
    refine submit_cases (P := fun p => p.1.Absorbed →
      p.1.health.tally (.text m.name) ≤ Binary64.largestWhole → p.2 = .ok ()) e m t v d ?_ ?_ ?_
    · intro e₁ f hf hs₁ _
      obtain ⟨a, hr⟩ := offer_answered ha hf hs₁
      cases hr
    · intro e₁ a _ _ _ _
      rfl
    · intro e₁ e₂ n _ _ hr hs₂ hn₂
      obtain ⟨total, rfl⟩ := recordError_answered hr hs₂ hn₂
      rfl
  rw [h] at hp
  exact hp hs hn

/-- A sample that the gate refuses is refused, and leaves the emitter as it was. -/
theorem submit_refused {m : Metric} {t : MetricType} {v d : Datum} {f : Fault}
    (h : accept m t v d = .error f) (e : Emitter) : e.submit m t v d = (e, .error f) :=
  submit_of_error (offer_of_error h)

end Emitter
end FleetHealth
