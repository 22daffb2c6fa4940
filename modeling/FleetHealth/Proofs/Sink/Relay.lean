import FleetHealth.Proofs.Script
import FleetHealth.Sink.Relay
import Mathlib.Data.List.Forall2

/-!
# Proofs — Sink — Relay

What a relay does is settled by its history and by how the collector's exports end, in turn.  Two readings of a history need no relay: whether it is open after it (`openAfter`), and which shipments were asked for while it was (`madeOpen`).

* `Course` is what holds of a relay and of its contacts after a history; `Course.cons` adds one occasion in front, and `course` is every history.
* `exports_told_once`: every shipment of an open relay reaches the collector once and is told once, in order, and none of a closed one; flushes and shutdowns pass through and are not told; and what a relay answers after any history.

The listener may raise.  What it raises comes out of the export it was told of, and nothing else does: it is told once all the same, for it is never told of its own fault.
-/

namespace FleetHealth

namespace Exporter

variable {x : Exporter}

theorem deliver_closed (h : x.isOpen = false) : x.deliver = (x, ⟨none, true⟩) := by
  simp [deliver, h]

theorem deliver_open (h : x.isOpen = true) :
    x.deliver =
      ({ x with outcomes := x.outcomes.next.2 },
        ⟨some x.outcomes.next.1, x.outcomes.next.1.report.isNone⟩) := by
  simp [deliver, h]

end Exporter

namespace Relay

/-! ### What is told -/

/-- A report tells how an export ended: nothing is told exactly of a success, a fault that was raised is
told itself, and a refusal is told as a fatal fault of the sink. -/
structure TellsOf (report : Option Fault) (o : ExportOutcome) : Prop where
  success : report = none ↔ o = .success
  failure : o = .failure → ∃ f, report = some f ∧ f.kind = .sinkFatal
  raised : ∀ f, o = .raised f → report = some f

theorem tellsOf_report (o : ExportOutcome) : TellsOf o.report o := by
  cases o with
  | success => exact ⟨by simp [ExportOutcome.report], nofun, nofun⟩
  | failure => exact ⟨by simp [ExportOutcome.report], fun _ => ⟨_, rfl, rfl⟩, nofun⟩
  | raised f =>
      refine ⟨by simp [ExportOutcome.report], nofun, fun g hg => ?_⟩
      cases hg
      rfl

/-! ### What a history says -/

namespace Occasion

/-- How an occasion turns a relay, where it does. -/
def turn? : Occasion → Option Bool
  | turn isOpen => some isOpen
  | _           => none

/-- The flush or the shutdown that is asked for. -/
def passing? : Occasion → Option Call
  | call (.ship _) => none
  | call c         => some c
  | turn _         => none

end Occasion

/-- Whether a relay is open after a history: as it was turned last. -/
def openAfter (isOpen : Bool) (history : List Occasion) : Bool :=
  (history.filterMap Occasion.turn?).getLastD isOpen

/-- The shipments that are asked for while a relay is open, in order. -/
def madeOpen : Bool → List Occasion → List Shipment
  | _,      []                    => []
  | _,      .turn isOpen :: os    => madeOpen isOpen os
  | true,   .call (.ship s) :: os => s :: madeOpen true os
  | isOpen, _ :: os               => madeOpen isOpen os

theorem openAfter_turn (b isOpen : Bool) (os : List Occasion) :
    openAfter b (.turn isOpen :: os) = openAfter isOpen os :=
  List.getLastD_cons ..

/-! ### What the collector and the listener see -/

namespace Contact

/-- The shipment that reached the collector, and how its export ended. -/
def shipment? : Contact → Option (Shipment × ExportOutcome)
  | shipped s o => some (s, o)
  | _           => none

/-- What the listener was told. -/
def report? : Contact → Option (Option Fault)
  | told report => some report
  | _           => none

/-- The flush or the shutdown that reached the collector. -/
def passed? : Contact → Option Call
  | flushed t _      => some (.flush t)
  | shut t options _ => some (.shutdown t options)
  | _                => none

end Contact

/-! ### One export -/

theorem answer_error_iff {α : Type} {a : α} {raised : Option Fault} {f : Fault} :
    answer a raised = .error f ↔ raised = some f := by
  cases raised <;> simp [answer]

theorem answer_ok_iff {α : Type} {a b : α} {raised : Option Fault} :
    answer a raised = .ok b ↔ a = b ∧ raised = none := by
  cases raised <;> simp [answer]

variable {r : Relay}

theorem ship_closed (h : r.isOpen = false) (s : Shipment) : r.ship s = (r, [], .ok true) := by
  unfold ship
  rw [Exporter.deliver_closed h]

theorem ship_open (h : r.isOpen = true) (s : Shipment) :
    r.ship s =
      ({ r with outcomes := r.outcomes.next.2, hearings := r.hearings.next.2 },
        [.shipped s r.outcomes.next.1, .told r.outcomes.next.1.report],
        answer r.outcomes.next.1.report.isNone r.hearings.next.1) := by
  unfold ship
  rw [Exporter.deliver_open h]

/-- **One export** of an open relay is told right after it ended, and one of a closed relay is none. -/
theorem ship_contacts (r : Relay) (s : Shipment) :
    ∃ report, TellsOf report r.outcomes.next.1 ∧
      (r.ship s).2.1 = if r.isOpen then [.shipped s r.outcomes.next.1, .told report] else [] := by
  refine ⟨_, tellsOf_report _, ?_⟩
  cases h : r.isOpen with
  | false => rw [ship_closed h]; rfl
  | true => rw [ship_open h]; rfl

/-- Nothing comes out of an export but what the listener raises. -/
theorem ship_error_iff (r : Relay) (s : Shipment) (f : Fault) :
    (r.ship s).2.2 = .error f ↔ r.isOpen = true ∧ r.hearings.next.1 = some f := by
  cases h : r.isOpen with
  | false => simp [ship_closed h]
  | true => simp [ship_open h, answer_error_iff]

theorem ship_ok_iff (r : Relay) (s : Shipment) :
    (r.ship s).2.2 = .ok true ↔
      r.isOpen = false ∨ r.outcomes.next.1 = .success ∧ r.hearings.next.1 = none := by
  cases h : r.isOpen with
  | false => simp [ship_closed h]
  | true => simp [ship_open h, answer_ok_iff, (tellsOf_report _).success]

/-! ### Every history -/

/-- `r'` came of `r` over a history, and the contacts are what it did on the way. -/
structure Course (r : Relay) (history : List Occasion) (r' : Relay) (contacts : List Contact) :
    Prop where
  isOpen : r'.isOpen = openAfter r.isOpen history
  outcomes : r'.outcomes = r.outcomes.after (madeOpen r.isOpen history).length
  hearings : r'.hearings = r.hearings.after (madeOpen r.isOpen history).length
  shipments : contacts.filterMap Contact.shipment? =
    (madeOpen r.isOpen history).zip (r.outcomes.first (madeOpen r.isOpen history).length)
  reports : contacts.filterMap Contact.report? =
    (r.outcomes.first (madeOpen r.isOpen history).length).map ExportOutcome.report
  passed : contacts.filterMap Contact.passed? = history.filterMap Occasion.passing?

/-- **One occasion** before a history.  Only an export of an open relay uses up an outcome, and the
listener hears of no other occasion. -/
theorem Course.cons {r r' : Relay} {o : Occasion} {os : List Occasion} {contacts : List Contact}
    (k : Course (r.occur o).1 os r' contacts) :
    Course r (o :: os) r' ((r.occur o).2.1 ++ contacts) := by
  cases o with
  | turn isOpen =>
      exact ⟨k.isOpen.trans (openAfter_turn ..).symm, k.outcomes, k.hearings, k.shipments, k.reports,
        k.passed⟩
  | call c =>
      -- `madeOpen` asks whether the relay is open before it asks what is called
      obtain ⟨⟨outcomes, isOpen⟩, flushes, shutdowns, hearings⟩ := r
      cases c with
      | ship s =>
          cases isOpen with
          | false => exact ⟨k.isOpen, k.outcomes, k.hearings, k.shipments, k.reports, k.passed⟩
          | true =>
              exact ⟨k.isOpen, k.outcomes, k.hearings, congrArg ((s, _) :: ·) k.shipments,
                congrArg (_ :: ·) k.reports, k.passed⟩
      | flush t =>
          cases isOpen <;>
            exact ⟨k.isOpen, k.outcomes, k.hearings, k.shipments, k.reports,
              congrArg (_ :: ·) k.passed⟩
      | shutdown t options =>
          cases isOpen <;>
            exact ⟨k.isOpen, k.outcomes, k.hearings, k.shipments, k.reports,
              congrArg (_ :: ·) k.passed⟩

theorem course (r : Relay) (history : List Occasion) :
    Course r history (r.after history) (r.trace history) := by
  induction history generalizing r with
  | nil => exact ⟨rfl, rfl, rfl, rfl, rfl, rfl⟩
  | cons o os ih => exact (ih (r.occur o).1).cons

/-- **Every export is told once.**  Over every history of exports, flushes, shutdowns, openings and
closings, with any outcomes and any listener: the shipments asked for while the relay is open reach the
collector once each, in order, and no other does; the listener is told once of each, in order, and of
nothing else, none exactly for a success, the fault itself where one was raised, and a fatal fault of
the sink for a refusal; flushes and shutdowns reach the collector once each, in order, open or closed.

After every history, an export of an open relay is told right after it ended; it counts as a success
exactly if the relay is closed or the collector's export succeeded, and what comes out of it is only
what the listener raised over it, never what the collector did.  A flush and a shutdown are handed on
and answered as the collector answers them, and nobody is told. -/
theorem exports_told_once (r : Relay) (history : List Occasion) :
    let made := madeOpen r.isOpen history
    let outcomes := r.outcomes.first made.length
    let contacts := r.trace history
    let isOpen := openAfter r.isOpen history
    let next := (r.outcomes.after made.length).next.1
    let heard := (r.hearings.after made.length).next.1
    let r' := r.after history
    (outcomes.length = made.length
      ∧ contacts.filterMap Contact.shipment? = made.zip outcomes
      ∧ List.Forall₂ TellsOf (contacts.filterMap Contact.report?) outcomes
      ∧ contacts.filterMap Contact.passed? = history.filterMap Occasion.passing?)
    ∧ (∀ s,
        (∃ report, TellsOf report next ∧
          (r'.ship s).2.1 = if isOpen then [.shipped s next, .told report] else [])
        ∧ ((r'.ship s).2.2 = .ok true ↔ isOpen = false ∨ next = .success ∧ heard = none)
        ∧ (∀ f, (r'.ship s).2.2 = .error f ↔ isOpen = true ∧ heard = some f))
    ∧ (∀ t, ∃ a, (r'.flush t).2 = ([.flushed t a], a))
    ∧ (∀ t options, ∃ raised,
        (r'.shutdown t options).2 = ([.shut t options raised], answer () raised)) := by
  intro made outcomes contacts isOpen next heard r'
  have k : Course r history r' contacts := course r history
  have hopen : r'.isOpen = isOpen := k.isOpen
  have hnext : r'.outcomes.next.1 = next := by rw [k.outcomes]
  have hheard : r'.hearings.next.1 = heard := by rw [k.hearings]
  have hreports : List.Forall₂ TellsOf (contacts.filterMap Contact.report?) outcomes := by
    rw [k.reports, List.forall₂_map_left_iff, List.forall₂_same]
    intro o _
    exact tellsOf_report o
  refine ⟨⟨Script.length_first .., k.shipments, hreports, k.passed⟩, fun s => ?_, ?_, ?_⟩
  · rw [← hopen, ← hnext, ← hheard]
    exact ⟨ship_contacts r' s, ship_ok_iff r' s, ship_error_iff r' s⟩
  · intro t
    exact ⟨r'.flushes.next.1, rfl⟩
  · intro t options
    exact ⟨r'.shutdowns.next.1, rfl⟩

/-- Of three batches two leave, for the relay is closed between them. -/
example (s : Shipment) (f : Fault) :
    (trace { outcomes := ⟨[.failure, .raised f], .success⟩ }
      [.call (.ship s), .turn false, .call (.ship s), .call .flush, .turn true,
       .call (.ship s)]).filterMap Contact.report? = [some .batchDropped, some f] := rfl

end Relay

end FleetHealth
