import FleetHealth.Proofs.Metric.Schema

/-!
# Proofs — Metric — Verdict

What the gate of a metric says of the dimensions that it is given, when they are a mapping: no key comes twice.

* `Text.eq_of_codes`, `sortTexts_perm`: texts are told apart by their code points, so their order is total, and sorting forgets the order in which they came.
* `fitsRecord_iff`: what fits a schema has its keys, and texts for values.
* `validate_perm`: what the gate says does not depend on the order of the mapping.
* `validate_again`: tags that were admitted are admitted again, as they are.
* `dimensions_settled` puts these together with the fault over keys, which names the keys of the schema that are not given, in schema order, and the given ones that are not in the schema, sorted.
-/

namespace FleetHealth

/-! ### The order of texts -/

namespace Text

/-- **Texts are told apart by their code points.** -/
theorem eq_of_codes {s t : String} (h : codes s = codes t) : s = t :=
  String.ext ((List.map_inj_right fun _ _ => Char.toNat_inj.mp).mp h)

theorem not_precedes_iff {s t : String} : (!precedes t s) = true ↔ ¬ codes t < codes s := by
  rw [precedes, Bool.not_eq_true', decide_eq_false_iff_not]

end Text

theorem sortTexts_sorted (ts : List String) :
    (sortTexts ts).Pairwise fun s t => ¬ Text.codes t < Text.codes s := by
  refine (List.pairwise_mergeSort (fun s t u hst htu => ?_) (fun s t => ?_) ts).imp
    Text.not_precedes_iff.mp
  · have hst := List.not_lt.mp (Text.not_precedes_iff.mp hst)
    have htu := List.not_lt.mp (Text.not_precedes_iff.mp htu)
    exact Text.not_precedes_iff.mpr (List.not_lt.mpr (List.le_trans hst htu))
  · rw [Bool.or_eq_true, Text.not_precedes_iff, Text.not_precedes_iff, List.not_lt, List.not_lt]
    exact List.le_total _ _

/-- Texts that are all different are each before the next when they are sorted. -/
theorem sortTexts_strict {ts : List String} (h : ts.Nodup) :
    (sortTexts ts).Pairwise fun s t => Text.precedes s t = true := by
  have hdistinct : (sortTexts ts).Nodup := (List.mergeSort_perm ts _).nodup_iff.mpr h
  refine ((sortTexts_sorted ts).and hdistinct).imp fun ⟨hnot, hne⟩ => ?_
  have hle := List.le_iff_lt_or_eq.mp (List.not_lt.mp hnot)
  exact decide_eq_true (hle.resolve_right fun heq => hne (Text.eq_of_codes heq))

/-- **Sorting forgets the order in which texts came.** -/
theorem sortTexts_perm {ts us : List String} (h : ts.Perm us) : sortTexts ts = sortTexts us := by
  have hperm : (sortTexts ts).Perm (sortTexts us) :=
    ((List.mergeSort_perm ts _).trans h).trans (List.mergeSort_perm us _).symm
  refine hperm.eq_of_pairwise (fun s t _ _ hst hts => ?_) (sortTexts_sorted ts) (sortTexts_sorted us)
  exact Text.eq_of_codes (List.le_antisymm (List.not_lt.mp hst) (List.not_lt.mp hts))

namespace Metric

variable {m : Metric} {dims : Dimensions} {given : Option Dimensions} {tags : Tags}

/-! ### Keys -/

/-- Given dimensions have the keys of the schema and no others. -/
def SameKeys (m : Metric) (dims : Dimensions) : Prop :=
  ∀ k, k ∈ dims.map Prod.fst ↔ k ∈ m.dimensions

theorem has_iff_mem {k : String} : Entries.has k dims = true ↔ k ∈ dims.map Prod.fst := by
  rw [Entries.has_eq_any, List.any_beq', List.contains_iff_mem]

theorem sameKeys_iff : m.missing dims = [] ∧ m.extra dims = [] ↔ m.SameKeys dims := by
  have hmissing : m.missing dims = [] ↔ ∀ k ∈ m.dimensions, k ∈ dims.map Prod.fst := by
    simp only [missing, List.filter_eq_nil_iff, Bool.not_eq_true', Bool.not_eq_false, has_iff_mem]
  rw [hmissing, extra_eq_nil_iff]
  constructor
  · rintro ⟨hschema, hgiven⟩ k
    refine ⟨fun hk => ?_, hschema k⟩
    obtain ⟨e, he, rfl⟩ := List.mem_map.mp hk
    exact hgiven e he
  · exact fun h => ⟨fun k => (h k).mpr, fun e he => (h e.1).mp (List.mem_map_of_mem he)⟩

/-- **What fits a schema has its keys, and texts for values.** -/
theorem fitsRecord_iff (hmap : (dims.map Prod.fst).Nodup) :
    m.FitsRecord dims ↔ m.SameKeys dims ∧ ∀ e ∈ dims, ∃ s, e.2 = .text s := by
  constructor
  · intro h
    refine ⟨fun k => ⟨fun hk => ?_, fun hk => ?_⟩, fun e he => ?_⟩
    · obtain ⟨e, he, rfl⟩ := List.mem_map.mp hk
      exact h.known e he
    · obtain ⟨s, hs⟩ := h.texts k hk
      exact List.mem_map_of_mem (Entries.mem_of_get? hs)
    · obtain ⟨s, hs⟩ := h.texts e.1 (h.known e he)
      have hown := (Entries.get?_eq_some_iff hmap).mpr he
      exact ⟨s, Option.some.inj (hown.symm.trans hs)⟩
  · rintro ⟨hkeys, htexts⟩
    refine ⟨fun k hk => ?_, fun e he => (hkeys e.1).mp (List.mem_map_of_mem he)⟩
    obtain ⟨e, he, rfl⟩ := List.mem_map.mp ((hkeys k).mpr hk)
    obtain ⟨s, hs⟩ := htexts e he
    exact ⟨s, hs ▸ (Entries.get?_eq_some_iff hmap).mpr he⟩

/-! ### Another order -/

theorem tagsOf_congr {dims' : Dimensions} (h : ∀ k, Entries.get? k dims' = Entries.get? k dims)
    (ks : List String) (tags : Tags) : m.tagsOf dims' ks tags = m.tagsOf dims ks tags := by
  induction ks generalizing tags with
  | nil => rfl
  | cons k ks ih =>
      rw [tagsOf, tagsOf, h k]
      simp only [ih]

/-- **What the gate says does not depend on the order of a mapping.** -/
theorem validate_perm {dims' : Dimensions} (hmap : (dims.map Prod.fst).Nodup)
    (h : dims.Perm dims') : m.validate (some dims') = m.validate (some dims) := by
  have hget : ∀ k, Entries.get? k dims' = Entries.get? k dims := fun k =>
    (Entries.get?_perm h hmap k).symm
  have hmissing : m.missing dims' = m.missing dims := by
    simp only [missing, Entries.has_eq_isSome, hget]
  have hextra : m.extra dims' = m.extra dims :=
    sortTexts_perm ((h.symm.map Prod.fst).filter _)
  unfold validate
  dsimp only [Option.getD_some]
  rw [hmissing, hextra, tagsOf_congr hget]

/-! ### Another time -/

/-- Tags given as dimensions. -/
def givenAgain (tags : Tags) : Dimensions := tags.map fun t => (t.1, .text t.2)

theorem keys_givenAgain (tags : Tags) : (givenAgain tags).map Prod.fst = tags.map Prod.fst := by
  rw [givenAgain, List.map_map]
  rfl

/-- **Tags that were admitted are admitted again, as they are.** -/
theorem validate_again (h : m.validate given = .ok tags) :
    m.validate (some (givenAgain tags)) = .ok tags := by
  have hkeys := keys_of_validate h
  have hnodup : (tags.map Prod.fst).Nodup := hkeys ▸ Entries.nodup_eraseDups _
  have hmap : ((givenAgain tags).map Prod.fst).Nodup := by rwa [keys_givenAgain]
  have hfits : m.FitsRecord (givenAgain tags) := by
    refine (fitsRecord_iff hmap).mpr ⟨fun k => ?_, fun e he => ?_⟩
    · rw [keys_givenAgain, hkeys, List.mem_eraseDups]
    · obtain ⟨t, -, rfl⟩ := List.mem_map.mp he
      exact ⟨t.2, rfl⟩
  have hok : ∃ tags', m.validate (some (givenAgain tags)) = .ok tags' := validate_ok_iff.mpr hfits
  obtain ⟨tags', h'⟩ := hok
  have hsame : tags' = tags := by
    have hk : tags'.map Prod.fst = tags.map Prod.fst := (keys_of_validate h').trans hkeys.symm
    refine Entries.eq_of_keys hk (hk ▸ hnodup) fun t ht => ?_
    obtain ⟨-, ht⟩ := mem_of_validate h' ht
    obtain ⟨u, hu, heq⟩ := List.mem_map.mp (Entries.mem_of_get? ht)
    obtain ⟨hfst, hsnd⟩ := Prod.mk.inj heq
    have htu : t = u := Prod.ext hfst.symm (Datum.text.inj hsnd).symm
    exact htu ▸ hu
  rw [h', hsame]

/-! ### The verdict -/

/-- The fault over keys. -/
theorem validate_of_keys (h : ¬ m.SameKeys (given.getD [])) :
    m.validate given = .error (.dimensions m.name ((m.missing (given.getD [])).map .text)
      ((m.extra (given.getD [])).map .text) none) := by
  unfold validate
  refine if_neg fun hempty => h (sameKeys_iff.mp ?_)
  rwa [Bool.and_eq_true, List.isEmpty_iff, List.isEmpty_iff] at hempty

/-- What is missing are the names of the schema that are not given. -/
theorem missing_eq : m.missing dims = m.dimensions.filter (· ∉ dims.map Prod.fst) := by
  refine List.filter_congr fun k _ => ?_
  rw [Bool.eq_iff_iff, decide_eq_true_eq, Bool.not_eq_true', ← has_iff_mem, Bool.not_eq_true]

/-- What is unexpected are the given names that are not in the schema, in some order. -/
theorem extra_perm : (m.extra dims).Perm ((dims.map Prod.fst).filter (· ∉ m.dimensions)) := by
  have hfilter : ((dims.map Prod.fst).filter fun k => !m.dimensions.contains k) =
      (dims.map Prod.fst).filter (· ∉ m.dimensions) := by
    refine List.filter_congr fun k _ => ?_
    rw [List.contains_eq_mem, Bool.eq_iff_iff, Bool.not_eq_true', decide_eq_false_iff_not,
      decide_eq_true_eq]
  rw [← hfilter]
  exact List.mergeSort_perm _ _

/-- **What the gate says of a mapping**, or of nothing, which counts as the empty one.  It is admitted
exactly when its keys are those of the schema and its values are texts.  The tags are then the names of
the schema, each once and in schema order, with the texts that were given; they are admitted again as
they are.  The verdict is the same in every order of the mapping.  Where the keys are not those of the
schema, the fault holds the names of the schema that are not given, in schema order, and the given ones
that are not in the schema, in ascending order: no name is among both, and there is one. -/
theorem dimensions_settled (m : Metric) (given : Option Dimensions)
    (hmap : ((given.getD []).map Prod.fst).Nodup) :
    let dims := given.getD []
    ((∃ tags, m.validate given = .ok tags) ↔ m.SameKeys dims ∧ ∀ e ∈ dims, ∃ s, e.2 = .text s)
    ∧ (∀ tags, m.validate given = .ok tags →
        tags.map Prod.fst = m.dimensions.eraseDups
        ∧ (∀ t ∈ tags, (t.1, .text t.2) ∈ dims)
        ∧ m.validate (some (givenAgain tags)) = .ok tags)
    ∧ (∀ dims', dims.Perm dims' → m.validate (some dims') = m.validate given)
    ∧ (¬ m.SameKeys dims → ∃ missing extra,
        m.validate given = .error (.dimensions m.name (missing.map .text) (extra.map .text) none)
        ∧ missing = m.dimensions.filter (· ∉ dims.map Prod.fst)
        ∧ extra.Perm ((dims.map Prod.fst).filter (· ∉ m.dimensions))
        ∧ extra.Pairwise (fun s t => Text.precedes s t = true)
        ∧ (∀ k ∈ missing, k ∉ extra)
        ∧ (missing ≠ [] ∨ extra ≠ [])) := by
  intro dims
  have hgiven : m.validate (some dims) = m.validate given := by
    cases given with
    | none => rfl
    | some _ => rfl
  refine ⟨validate_ok_iff.trans (fitsRecord_iff hmap), fun tags h => ⟨keys_of_validate h, ?_,
    validate_again h⟩, fun dims' hp => (validate_perm hmap hp).trans hgiven, fun hkeys => ?_⟩
  · exact fun t ht => Entries.mem_of_get? (mem_of_validate h ht).2
  · refine ⟨m.missing dims, m.extra dims, validate_of_keys hkeys, missing_eq, extra_perm,
      sortTexts_strict (hmap.filter _), fun k hk hx => ?_, ?_⟩
    · rw [missing_eq, List.mem_filter] at hk
      rw [extra_perm.mem_iff, List.mem_filter] at hx
      exact of_decide_eq_true hx.2 hk.1
    · refine Classical.byContradiction fun hnone => hkeys (sameKeys_iff.mp ?_)
      simpa only [ne_eq, not_or, Classical.not_not] using hnone

/-- A metric whose schema names one dimension twice. -/
def twiceNamed : Metric where
  name := "queue_depth"
  type := .gauge
  description := ""
  dimensions := ["region", "queue", "region"]

/-- Its dimensions, given in another order. -/
def givenDepth : Dimensions := [("queue", .text "SYNC"), ("region", .text "EU")]

/-- Dimensions of which it has one. -/
def strayDepth : Dimensions := [("queue", .int 3), ("zone", .null), ("Zone", .text "a")]

/-- It takes its dimensions in either order, and of the others it says what is missing and what is
unexpected. -/
theorem dimensions_of_twice_named :
    (givenDepth.map Prod.fst).Nodup ∧ (strayDepth.map Prod.fst).Nodup
      ∧ twiceNamed.validate (some givenDepth) = .ok [("region", "EU"), ("queue", "SYNC")]
      ∧ twiceNamed.validate (some givenDepth.reverse) = .ok [("region", "EU"), ("queue", "SYNC")]
      ∧ twiceNamed.validate (some strayDepth) = .error (.dimensions "queue_depth"
          [.text "region", .text "region"] [.text "Zone", .text "zone"] none) := by
  have hmap : (givenDepth.map Prod.fst).Nodup := by decide
  have hmap' : (strayDepth.map Prod.fst).Nodup := by decide
  obtain ⟨hok, htags, hperm, -⟩ := dimensions_settled twiceNamed (some givenDepth) hmap
  obtain ⟨-, -, -, hfault⟩ := dimensions_settled twiceNamed (some strayDepth) hmap'
  have hkeys : twiceNamed.SameKeys givenDepth := by
    intro k
    simp only [twiceNamed, givenDepth, List.map_cons, List.map_nil, List.mem_cons, List.not_mem_nil]
    grind
  obtain ⟨tags, h⟩ := hok.mpr ⟨hkeys, by simp [givenDepth]⟩
  obtain ⟨hnames, htexts, -⟩ := htags tags h
  have hvalue : tags = [("region", "EU"), ("queue", "SYNC")] := by
    refine Entries.eq_of_keys (hnames.trans (by decide)) (hnames ▸ by decide) fun t ht => ?_
    have hgiven := htexts t ht
    simp only [Option.getD_some, givenDepth, List.mem_cons, Prod.mk.injEq, Datum.text.injEq,
      List.not_mem_nil] at hgiven ⊢
    grind
  rw [hvalue] at h
  have hstray : ¬ twiceNamed.SameKeys strayDepth :=
    fun h => absurd ((h "zone").mp (by decide)) (by decide)
  obtain ⟨missing, extra, herror, hmissing, hextra, hsorted, -⟩ := hfault hstray
  have hmissing' : missing = ["region", "region"] := hmissing.trans (by decide)
  have hextra' : extra = ["Zone", "zone"] := by
    have hnames : (((some strayDepth).getD []).map Prod.fst).filter (· ∉ twiceNamed.dimensions) =
        ["Zone", "zone"].reverse := by decide
    rw [hnames] at hextra
    refine (hextra.trans (List.reverse_perm _)).eq_of_pairwise (fun s t _ _ hst hts => ?_) hsorted
      (by decide)
    exact (List.lt_asymm (of_decide_eq_true hst) (of_decide_eq_true hts)).elim
  rw [hmissing', hextra'] at herror
  exact ⟨hmap, hmap', h, (hperm _ (List.reverse_perm _).symm).trans h, herror⟩

end Metric
end FleetHealth
