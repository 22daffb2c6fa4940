import FleetHealth.Proofs.Config.Environment
import FleetHealth.Proofs.Text.Split

/-!
# Proofs — Config — Items

Comma lists.  The items of a text are what is read of the pieces between its commas (`items_eq`), so a comma cuts the items of a text in two (`items_comma`) and white space around the whole text goes to the pieces at its ends, where it is not read (`items_trim`).

* `IsItem` is what can stand in a list: something, without a comma and without white space at either end.
* `Spells` is how a list may be written: each item with white space around it, and blank pieces anywhere.
* `list_spelled`: a variable that spells a list reads as that list, whatever any variable holds reads as a list of items, and a list that was read can be joined and read again.
-/

namespace FleetHealth.Environment

/-- What can be an item of a comma list. -/
structure IsItem (x : String) : Prop where
  nonempty : x ≠ ""
  noComma : ',' ∉ x.toList
  trimmed : Text.IsTrimmed x

/-- The pieces between the commas spell a list: each item is a piece of its own, with white space
around it, and the other pieces are blank. -/
inductive Spells : List String → List String → Prop where
  | nil : Spells [] []
  | blank {piece : String} {pieces xs : List String} (hp : Text.isBlankText piece = true)
      (h : Spells pieces xs) : Spells (piece :: pieces) xs
  | item (before x after : String) {pieces xs : List String}
      (hb : Text.isBlankText before = true) (ha : Text.isBlankText after = true)
      (h : Spells pieces xs) : Spells ((before ++ x ++ after) :: pieces) (x :: xs)

/-! ### What is read of a piece -/

/-- What trimming leaves is empty just where nothing is read. -/
theorem isEmpty_trim (s : String) : (Text.trim s).isEmpty = Text.isBlankText s := by
  cases hs : Text.isBlankText s with
  | true =>
      have hempty : Text.trim s = "" := by
        have htrim := Text.trim_pad hs Text.isBlankText_empty ""
        rwa [String.append_empty, String.append_empty] at htrim
      rw [hempty]
      rfl
  | false =>
      rw [← Text.isBlankText_trim] at hs
      refine Bool.eq_false_iff.mpr fun hempty => ?_
      rw [String.isEmpty_iff.mp hempty] at hs
      cases hs

/-- **The items of a text are what is read of the pieces between its commas.** -/
theorem items_eq (s : String) : items s = (Text.split ',' s).filterMap reading? := by
  rw [items]
  induction Text.split ',' s with
  | nil => rfl
  | cons p ps ih =>
      rw [List.map_cons, List.filter_cons, isEmpty_trim, List.filterMap_cons, reading?, ih]
      cases Text.isBlankText p <;> rfl

/-- A piece without a comma gives one item at most. -/
theorem items_of_notMem {s : String} (h : ',' ∉ s.toList) : items s = (reading? s).toList := by
  rw [items_eq, Text.split, Text.splitChars_eq, List.splitOn_eq_singleton h, List.map_singleton,
    String.ofList_toList, List.filterMap_cons]
  cases reading? s <;> rfl

/-- **A comma cuts the items in two.** -/
theorem items_comma (s t : String) : items (s ++ "," ++ t) = items s ++ items t := by
  have hchars : (s ++ "," ++ t).toList = s.toList ++ ',' :: t.toList := by
    rw [String.toList_append, String.toList_append, List.append_assoc]
    rfl
  rw [items_eq, items_eq, items_eq, Text.split, hchars, Text.splitChars_append, List.map_append,
    List.filterMap_append]
  rfl

/-! ### White space around the whole text -/

/-- White space holds no comma. -/
theorem noComma_of_blank {s : String} (h : Text.isBlankText s = true) : ',' ∉ s.toList :=
  fun hmem => nomatch List.all_eq_true.mp h ',' hmem

/-- White space around a piece does not show in its items. -/
theorem items_pad_of_notMem {before after x : String} (hb : Text.isBlankText before = true)
    (ha : Text.isBlankText after = true) (hx : ',' ∉ x.toList) :
    items (before ++ x ++ after) = items x := by
  have hpad : ',' ∉ (before ++ x ++ after).toList := by
    rw [String.toList_append, String.toList_append, List.mem_append, List.mem_append]
    rintro ((h | h) | h)
    · exact noComma_of_blank hb h
    · exact hx h
    · exact noComma_of_blank ha h
  rw [items_of_notMem hpad, items_of_notMem hx, reading?_pad hb ha]

theorem eq_comma {s : String} {cs ds : List Char} (h : s.toList = cs ++ ',' :: ds) :
    s = String.ofList cs ++ "," ++ String.ofList ds := by
  have hcomma : (",").toList = [','] := rfl
  rw [← String.toList_inj, h, String.toList_append, String.toList_append, hcomma,
    String.toList_ofList, String.toList_ofList, List.append_assoc, List.singleton_append]

/-- White space before a text goes to its first piece. -/
theorem items_before {before : String} (hb : Text.isBlankText before = true) (s : String) :
    items (before ++ s) = items s := by
  have hpiece : ∀ x : String, ',' ∉ x.toList → items (before ++ x) = items x := by
    intro x hx
    have hpad := items_pad_of_notMem hb Text.isBlankText_empty hx
    rwa [String.append_empty] at hpad
  by_cases h : ',' ∈ s.toList
  · obtain ⟨cs, ds, hs, hcs⟩ := List.eq_append_cons_of_mem h
    rw [eq_comma hs, ← String.append_assoc, ← String.append_assoc, items_comma, items_comma, hpiece]
    rwa [String.toList_ofList]
  · exact hpiece s h

/-- White space after a text goes to its last piece. -/
theorem items_after {after : String} (ha : Text.isBlankText after = true) (s : String) :
    items (s ++ after) = items s := by
  have hpiece : ∀ x : String, ',' ∉ x.toList → items (x ++ after) = items x := by
    intro x hx
    have hpad := items_pad_of_notMem Text.isBlankText_empty ha hx
    rwa [String.empty_append] at hpad
  by_cases h : ',' ∈ s.toList
  · -- the first comma of the reversed text is the last one
    obtain ⟨cs, ds, hs, hcs⟩ := List.eq_append_cons_of_mem (List.mem_reverse.mpr h)
    rw [List.reverse_eq_iff, List.reverse_append, List.reverse_cons, List.append_assoc,
      List.singleton_append] at hs
    rw [eq_comma hs, String.append_assoc, items_comma, items_comma, hpiece]
    rwa [String.toList_ofList, List.mem_reverse]
  · exact hpiece s h

/-- **White space around a text does not show in its items.** -/
theorem items_trim (s : String) : items (Text.trim s) = items s := by
  obtain ⟨before, after, hb, ha, hs⟩ := Text.exists_pad s
  calc items (Text.trim s) = items (before ++ Text.trim s ++ after) := by
        rw [items_after ha, items_before hb]
    _ = items s := congrArg items hs.symm

/-- A blank text has no items. -/
theorem items_blank {s : String} (h : Text.isBlankText s = true) : items s = [] := by
  rw [items_of_notMem (noComma_of_blank h), reading?_blank h]
  rfl

/-! ### Spelling a list -/

/-- **The items of a text that spells a list are the list.** -/
theorem Spells.items_eq {pieces xs : List String} (h : Spells pieces xs)
    (hxs : ∀ x ∈ xs, IsItem x) : items (String.intercalate "," pieces) = xs := by
  -- the first piece is cut off at its comma, unless it is the only one
  have hcons : ∀ piece ps, items (String.intercalate "," (piece :: ps)) =
      items piece ++ items (String.intercalate "," ps) := by
    intro piece ps
    cases ps with
    | nil => exact (List.append_nil _).symm
    | cons q qs => rw [String.intercalate_cons_cons, items_comma]
  induction h with
  | nil => rfl
  | blank hp _ ih => rw [hcons, items_blank hp, ih hxs, List.nil_append]
  | item _ x _ hb ha _ ih =>
      obtain ⟨hne, hcomma, htrim⟩ := hxs x List.mem_cons_self
      have hx : reading? x = some x := by
        refine reading?_eq_some.mpr ⟨?_, htrim.trim_eq⟩
        rw [← isEmpty_trim, htrim.trim_eq]
        exact Bool.eq_false_iff.mpr fun hempty => hne (String.isEmpty_iff.mp hempty)
      rw [hcons, items_after ha, items_before hb, items_of_notMem hcomma, hx,
        ih fun y hy => hxs y (List.mem_cons_of_mem x hy)]
      rfl

/-- A list spells itself. -/
theorem Spells.refl (xs : List String) : Spells xs xs := by
  induction xs with
  | nil => exact .nil
  | cons x xs ih =>
      have hx := Spells.item "" x "" Text.isBlankText_empty Text.isBlankText_empty ih
      rwa [String.empty_append, String.append_empty] at hx

/-- **Whatever a text holds, its items can stand in a list.** -/
theorem isItem_of_mem_items {s x : String} (h : x ∈ items s) : IsItem x := by
  rw [Environment.items_eq] at h
  obtain ⟨piece, hpiece, hread⟩ := List.mem_filterMap.mp h
  obtain ⟨cs, hcs, rfl⟩ := List.mem_map.mp hpiece
  obtain ⟨hblank, rfl⟩ := reading?_eq_some.mp hread
  refine ⟨fun hempty => ?_, fun hcomma => ?_, Text.isTrimmed_trim _⟩
  · rw [← isEmpty_trim, hempty] at hblank
    cases hblank
  · -- what is trimmed is part of the piece, which ends at the commas
    obtain ⟨before, after, -, -, hpad⟩ := Text.exists_pad (String.ofList cs)
    refine Text.notMem_of_mem_splitChars hcs ?_
    rw [← String.toList_ofList (l := cs), hpad, String.toList_append, String.toList_append]
    exact List.mem_append_left _ (List.mem_append_right _ hcomma)

/-! ### Lists that are read -/

/-- A variable whose value has items is read as them. -/
theorem list_of_items {env : Environment} {name raw : String} (h : Entries.get? name env = some raw)
    (hne : items raw ≠ []) (default : String) : env.list name default = items raw := by
  have hblank : Text.isBlankText raw = false := by
    refine Bool.eq_false_iff.mpr fun hb => hne (items_blank hb)
  rw [Environment.list, textOr, text?_eq, List.findSome?_cons, value?_of_some h hblank,
    Option.getD_some, items_trim]

/-- **Comma lists are read as they are spelled.**  A variable whose value spells a list of items,
which are one at least, is read as that list.  Of any other value, and of a default, what is read are
items; and if there are any, then a variable that holds them, with commas between them, is read as
the same list again. -/
theorem list_spelled (env : Environment) (name default : String) :
    (∀ pieces xs, xs ≠ [] → (∀ x ∈ xs, IsItem x) → Spells pieces xs →
        Entries.get? name env = some (String.intercalate "," pieces) → env.list name default = xs)
    ∧ (∀ x ∈ env.list name default, IsItem x)
    ∧ (env.list name default ≠ [] → ∀ (env' : Environment) name' default',
        Entries.get? name' env' = some (String.intercalate "," (env.list name default)) →
          env'.list name' default' = env.list name default) := by
  have hspelled : ∀ (env : Environment) name default pieces xs, xs ≠ [] → (∀ x ∈ xs, IsItem x) →
      Spells pieces xs → Entries.get? name env = some (String.intercalate "," pieces) →
      env.list name default = xs := by
    intro env name default pieces xs hne hxs hspells hget
    have hitems := hspells.items_eq hxs
    rw [list_of_items hget (by rwa [hitems]) default, hitems]
  have hmem : ∀ x ∈ env.list name default, IsItem x := fun x hx => isItem_of_mem_items hx
  exact ⟨hspelled env name default, hmem, fun hne env' name' default' hget =>
    hspelled env' name' default' _ _ hne hmem (.refl _) hget⟩

/-- Queues with white space around them, one of them twice, and blank pieces between them. -/
def spacedQueues : List String := ["\u2003SYNC\t", "", " \x1c", "AWS PARIS ", "SYNC", " "]

/-- They are read as the three queues, and so are the queues themselves. -/
theorem list_of_spaced_queues : ∃ env : Environment,
    Entries.get? "SYNCWATCH_KNOWN_QUEUES" env = some (String.intercalate "," spacedQueues)
    ∧ env.list "SYNCWATCH_KNOWN_QUEUES" "A" = ["SYNC", "AWS PARIS", "SYNC"]
    ∧ (∀ x ∈ env.list "SYNCWATCH_KNOWN_QUEUES" "A", IsItem x)
    ∧ Environment.list [("SYNCWATCH_GEOGRAPHIES", "SYNC,AWS PARIS,SYNC")] "SYNCWATCH_GEOGRAPHIES" ""
        = ["SYNC", "AWS PARIS", "SYNC"] := by
  obtain ⟨hlist, hitems, hagain⟩ := list_spelled
    [("SYNCWATCH_KNOWN_QUEUES", String.intercalate "," spacedQueues)] "SYNCWATCH_KNOWN_QUEUES" "A"
  have hspells : Spells spacedQueues ["SYNC", "AWS PARIS", "SYNC"] :=
    .item "\u2003" "SYNC" "\t" rfl rfl <| .blank rfl <| .blank rfl <|
      .item "" "AWS PARIS" " " rfl rfl <| .item "" "SYNC" "" rfl rfl <| .blank rfl .nil
  have hsync : IsItem "SYNC" :=
    ⟨by decide, by decide, fun _ hc => Option.some.inj hc ▸ rfl,
      fun _ hc => Option.some.inj hc ▸ rfl⟩
  have hparis : IsItem "AWS PARIS" :=
    ⟨by decide, by decide, fun _ hc => Option.some.inj hc ▸ rfl,
      fun _ hc => Option.some.inj hc ▸ rfl⟩
  have hall : ∀ x ∈ ["SYNC", "AWS PARIS", "SYNC"], IsItem x := by
    simp only [List.forall_mem_cons]
    exact ⟨hsync, hparis, hsync, nofun⟩
  have hread := hlist _ _ (List.cons_ne_nil _ _) hall hspells rfl
  rw [hread] at hagain
  exact ⟨_, rfl, hread, hitems, hagain (List.cons_ne_nil _ _) _ _ _ (by decide +kernel)⟩

end FleetHealth.Environment
