import FleetHealth.Metric.Basic
import FleetHealth.Proofs.Entries

/-!
# Proofs — Metric — Schema

What a schema admits.  Dimensions fit a schema when they are those of the schema and no others, each with a text for a value; what is not present fits the empty schema.

* `tagsFor_ok_iff`: dimensions become tags exactly when they fit.
* `keys_of_tagsFor`: the tags then stand in schema order, whatever the order in which they were given.
* `mem_of_validate`: each is a key of the schema with the text that it was given.

The tags are put into a map one key at a time, so the induction is on the keys that are left, over any tags that are there already.
-/

namespace FleetHealth.Metric

variable {m : Metric} {dims : Dimensions} {d : Datum}

/-- Given dimensions are those of the schema and no others, each with a text for a value. -/
structure FitsRecord (m : Metric) (dims : Dimensions) : Prop where
  texts : ∀ k ∈ m.dimensions, ∃ s, Entries.get? k dims = some (.text s)
  known : ∀ e ∈ dims, e.1 ∈ m.dimensions

/-- Dimensions of any form are those of the schema: a record holds them, and what is not present holds
none. -/
def Fits (m : Metric) : Datum → Prop
  | .record fs => m.FitsRecord fs
  | d          => d.isPresent = false ∧ m.dimensions = []

/-! ### Tags in schema order -/

theorem tagsOf_ok_iff {ks : List String} {tags : Tags} :
    (∃ out, m.tagsOf dims ks tags = .ok out) ↔
      ∀ k ∈ ks, ∃ s, Entries.get? k dims = some (.text s) := by
  induction ks generalizing tags with
  | nil => exact ⟨fun _ _ hk => (List.not_mem_nil hk).elim, fun _ => ⟨tags, rfl⟩⟩
  | cons k ks ih =>
      rw [List.forall_mem_cons, tagsOf]
      split
      · next v hv => exact ih.trans ⟨fun h => ⟨⟨v, hv⟩, h⟩, fun h => h.2⟩
      · next v hne hv =>
          refine ⟨nofun, fun h => ?_⟩
          obtain ⟨s, hs⟩ := h.1
          obtain rfl := Option.some.inj (hv.symm.trans hs)
          exact (hne s rfl).elim
      · next hv =>
          refine ⟨nofun, fun h => ?_⟩
          obtain ⟨s, hs⟩ := h.1
          cases hv.symm.trans hs

/-- Every key that is left adds itself, once, after those that are there. -/
theorem keys_tagsOf {ks : List String} {tags out : Tags} (h : m.tagsOf dims ks tags = .ok out) :
    out.map Prod.fst = tags.map Prod.fst ++ (ks.filter fun k => !Entries.has k tags).eraseDups := by
  induction ks generalizing tags with
  | nil =>
      obtain rfl := Except.ok.inj h
      exact (List.append_nil _).symm
  | cons k ks ih =>
      rw [tagsOf] at h
      split at h
      case h_2 => cases h
      case h_3 => cases h
      case h_1 v hv =>
        rw [ih h, Entries.keys_put, List.filter_cons]
        cases hk : Entries.has k tags with
        | true =>
            -- a key that is there keeps its place, and so does any other
            have hsame : ∀ j, (!Entries.has j (Entries.put k v tags)) = !Entries.has j tags := by
              intro j
              rw [Entries.has_put]
              cases hj : k == j with
              | true => rw [← eq_of_beq hj, hk]; rfl
              | false => rw [Bool.or_false]
            simp only [hsame, Bool.not_true, Bool.false_eq_true, if_true, if_false]
        | false =>
            have hnew : ∀ j, (!Entries.has j (Entries.put k v tags)) =
                ((!j == k) && !Entries.has j tags) := by
              intro j
              rw [Entries.has_put, Bool.not_or, Bool.and_comm, BEq.comm]
            simp only [hnew, Bool.not_false, Bool.false_eq_true, if_true, if_false,
              List.eraseDups_cons, List.filter_filter, List.append_assoc, List.singleton_append]

/-! ### The gate of a schema -/

theorem sortTexts_eq_nil_iff {ts : List String} : sortTexts ts = [] ↔ ts = [] := by
  rw [← List.length_eq_zero_iff, sortTexts, List.length_mergeSort, List.length_eq_zero_iff]

theorem missing_eq_nil_iff : m.missing dims = [] ↔
    ∀ k ∈ m.dimensions, (Entries.get? k dims).isSome = true := by
  simp only [missing, List.filter_eq_nil_iff, Entries.has_eq_isSome, Bool.not_eq_true',
    Bool.not_eq_false]

theorem extra_eq_nil_iff : m.extra dims = [] ↔ ∀ e ∈ dims, e.1 ∈ m.dimensions := by
  simp [extra, sortTexts_eq_nil_iff, List.filter_eq_nil_iff]

/-- **A record is admitted exactly when it fits the schema**, and nothing given is an empty record. -/
theorem validate_ok_iff {given : Option Dimensions} :
    (∃ tags, m.validate given = .ok tags) ↔ m.FitsRecord (given.getD []) := by
  unfold validate
  dsimp only
  split
  case isTrue h =>
    rw [Bool.and_eq_true, List.isEmpty_iff, List.isEmpty_iff, extra_eq_nil_iff] at h
    rw [tagsOf_ok_iff]
    exact ⟨fun ht => ⟨ht, h.2⟩, fun hf => hf.texts⟩
  case isFalse h =>
    rw [Bool.and_eq_true, List.isEmpty_iff, List.isEmpty_iff, missing_eq_nil_iff,
      extra_eq_nil_iff] at h
    refine ⟨nofun, fun hf => (h ⟨fun k hk => ?_, hf.known⟩).elim⟩
    obtain ⟨s, hs⟩ := hf.texts k hk
    rw [hs]
    rfl

/-- Dimensions that are admitted are those of the schema, put into place one after another. -/
theorem tagsOf_of_validate {given : Option Dimensions} {tags : Tags}
    (h : m.validate given = .ok tags) : m.tagsOf (given.getD []) m.dimensions [] = .ok tags := by
  unfold validate at h
  dsimp only at h
  split at h
  case isTrue => exact h
  case isFalse => cases h

theorem keys_of_validate {given : Option Dimensions} {tags : Tags}
    (h : m.validate given = .ok tags) : tags.map Prod.fst = m.dimensions.eraseDups := by
  have hall : (m.dimensions.filter fun k => !Entries.has k ([] : Tags)) = m.dimensions :=
    List.filter_eq_self.mpr fun _ _ => rfl
  rw [keys_tagsOf (tagsOf_of_validate h), hall]
  rfl

theorem mapError_ok_iff {α ε δ : Type} {f : ε → δ} {r : Except ε α} {a : α} :
    r.mapError f = .ok a ↔ r = .ok a := by
  cases r with
  | error e => exact ⟨nofun, nofun⟩
  | ok b => exact ⟨fun h => congrArg _ (Except.ok.inj h), fun h => congrArg _ (Except.ok.inj h)⟩

/-- Nothing given fits the empty schema alone. -/
theorem fitsRecord_nil_iff : m.FitsRecord [] ↔ m.dimensions = [] := by
  refine ⟨fun h => List.eq_nil_iff_forall_not_mem.mpr fun k hk => ?_, fun h => ⟨?_, ?_⟩⟩
  · obtain ⟨s, hs⟩ := h.texts k hk
    cases hs
  · rw [h]
    exact fun k hk => (List.not_mem_nil hk).elim
  · exact fun e he => (List.not_mem_nil he).elim

/-- The dimensions that a value brings: those of a record, and none when it is not present.  Any other
value brings no dimensions that a schema could admit. -/
def brought (d : Datum) : Option (Option Dimensions) :=
  match d with
  | .record fs => some (some fs)
  | d          => if d.isPresent then none else some none

theorem tagsFor_eq (m : Metric) (d : Datum) : m.tagsFor d =
    (brought d).elim (.error (m.noRecord d)) fun given => (m.validate given).mapError .sample := by
  have habsent : ∀ (present : Bool) (f : Fault),
      (if present then .error f else (m.validate none).mapError .sample) =
        (if present then none else some none).elim (.error f)
          fun given => (m.validate given).mapError .sample := by
    intro present f
    cases present <;> rfl
  cases d with
  | record fs => rfl
  | null | instant _ | fault _ => rfl
  | _ => exact habsent _ _

theorem fits_iff_brought :
    m.Fits d ↔ ∃ given, brought d = some given ∧ m.FitsRecord (given.getD []) := by
  have habsent : ∀ present : Bool, present = false ∧ m.dimensions = [] ↔
      ∃ given, (if present then none else some none) = some given
        ∧ m.FitsRecord (given.getD []) := by
    intro present
    cases present with
    | true => exact ⟨nofun, nofun⟩
    | false =>
        refine ⟨fun h => ⟨none, rfl, fitsRecord_nil_iff.mpr h.2⟩, ?_⟩
        rintro ⟨given, hg, h⟩
        obtain rfl := Option.some.inj hg
        exact ⟨rfl, fitsRecord_nil_iff.mp h⟩
  cases d with
  | record fs =>
      refine ⟨fun h => ⟨some fs, rfl, h⟩, ?_⟩
      rintro ⟨given, hg, h⟩
      obtain rfl := Option.some.inj hg
      exact h
  | _ => exact habsent _

/-- **Dimensions become tags exactly when they fit the schema.** -/
theorem tagsFor_ok_iff : (∃ tags, m.tagsFor d = .ok tags) ↔ m.Fits d := by
  rw [tagsFor_eq, fits_iff_brought]
  cases brought d with
  | none => exact ⟨nofun, nofun⟩
  | some given =>
      simp only [Option.elim_some, mapError_ok_iff, validate_ok_iff, Option.some.injEq,
        exists_eq_left']

/-- **Tags stand in schema order.** -/
theorem keys_of_tagsFor {tags : Tags} (h : m.tagsFor d = .ok tags) :
    tags.map Prod.fst = m.dimensions.eraseDups := by
  rw [tagsFor_eq] at h
  cases hb : brought d with
  | none =>
      rw [hb] at h
      cases h
  | some given =>
      rw [hb] at h
      exact keys_of_validate (mapError_ok_iff.mp h)

/-! ### The texts of tags -/

/-- A tag that was not there before has the text that its key was given. -/
theorem mem_tagsOf {ks : List String} {tags out : Tags} (h : m.tagsOf dims ks tags = .ok out)
    {t : String × String} (ht : t ∈ out) :
    t ∈ tags ∨ t.1 ∈ ks ∧ Entries.get? t.1 dims = some (.text t.2) := by
  induction ks generalizing tags with
  | nil =>
      obtain rfl := Except.ok.inj h
      exact .inl ht
  | cons k ks ih =>
      rw [tagsOf] at h
      split at h
      case h_2 => cases h
      case h_3 => cases h
      case h_1 v hv =>
        rcases ih h with hput | ⟨hk, hs⟩
        · rcases Entries.mem_put hput with rfl | hold
          · exact .inr ⟨List.mem_cons_self, hv⟩
          · exact .inl hold
        · exact .inr ⟨List.mem_cons_of_mem k hk, hs⟩

/-- **A tag is a key of the schema and a text that was given.** -/
theorem mem_of_validate {given : Option Dimensions} {tags : Tags} (h : m.validate given = .ok tags)
    {t : String × String} (ht : t ∈ tags) :
    t.1 ∈ m.dimensions ∧ Entries.get? t.1 (given.getD []) = some (.text t.2) :=
  (mem_tagsOf (tagsOf_of_validate h) ht).resolve_left List.not_mem_nil

end FleetHealth.Metric
