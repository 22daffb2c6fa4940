import FleetHealth.Entries

/-!
# Proofs — Entries

Reading a map after one `put`.  The key that was put has its new value, and any key that no entry takes for it has the value it had.  The keys stay in place, and a new one comes last; so after any number of pairs the keys are those that came, each once, in order of first appearance, and the value of a key is the last that came with it (`get?_putAll`, `ofPairs_eq`).
-/

namespace FleetHealth.Entries

variable {κ ν : Type} [BEq κ] {j k : κ}

theorem get?_cons_pos {e : κ × ν} (es : List (κ × ν)) (h : (e.1 == k) = true) :
    get? k (e :: es) = some e.2 := by
  rw [get?, if_pos h]

theorem get?_cons_neg {e : κ × ν} (es : List (κ × ν)) (h : (e.1 == k) = false) :
    get? k (e :: es) = get? k es := by
  rw [get?, if_neg (by rw [h]; exact Bool.false_ne_true)]

theorem get?_put_self (hk : (k == k) = true) (v : ν) (es : List (κ × ν)) :
    get? k (put k v es) = some v := by
  induction es with
  | nil => exact get?_cons_pos [] hk
  | cons e es ih =>
      rw [put]
      split
      · next h => exact get?_cons_pos es h
      · next h => rw [get?_cons_neg _ (Bool.eq_false_iff.mpr h), ih]

theorem get?_put_of_ne (hk : (k == j) = false)
    (h : ∀ a : κ, (a == k) = true → (a == j) = false) (v : ν) (es : List (κ × ν)) :
    get? j (put k v es) = get? j es := by
  induction es with
  | nil => exact get?_cons_neg [] hk
  | cons e es ih =>
      rw [put]
      split
      · next he =>
          have hj := h e.1 he
          rw [get?_cons_neg (e := (e.1, v)) es hj, get?_cons_neg es hj]
      · rw [get?, get?, ih]

theorem get?_append (k : κ) (es fs : List (κ × ν)) :
    get? k (es ++ fs) = (get? k es).or (get? k fs) := by
  induction es with
  | nil => rfl
  | cons e es ih =>
      rw [List.cons_append, get?, get?]
      split
      · rfl
      · exact ih

/-- The value of a key is that of the first entry of its own. -/
theorem get?_eq_find? (k : κ) (es : List (κ × ν)) :
    get? k es = (es.find? fun e => e.1 == k).map Prod.snd := by
  induction es with
  | nil => rfl
  | cons e es ih =>
      rw [get?, List.find?_cons]
      cases e.1 == k with
      | true => rfl
      | false => exact ih

/-- A key that has a value among others of one kind, or none, has that one by default. -/
theorem get?_zeros (k : κ) (ks : List κ) (d : ν) : (get? k (ks.map fun k => (k, d))).getD d = d := by
  induction ks with
  | nil => rfl
  | cons j ks ih =>
      rw [List.map_cons, get?]
      split
      · rfl
      · exact ih

theorem has_eq_any (k : κ) (es : List (κ × ν)) :
    has k es = (es.map Prod.fst).any fun j => j == k := by
  rw [List.any_map]
  rfl

/-- A key has a value exactly when an entry is its own. -/
theorem has_eq_isSome (k : κ) (es : List (κ × ν)) : has k es = (get? k es).isSome := by
  induction es with
  | nil => rfl
  | cons e es ih =>
      cases he : e.1 == k with
      | true => rw [get?_cons_pos es he, has, List.any_cons, he, Bool.true_or, Option.isSome_some]
      | false => rw [get?_cons_neg es he, has, List.any_cons, he, Bool.false_or, ← ih, has]

/-- A key that has a value keeps its place, and any other comes last. -/
theorem keys_put (k : κ) (v : ν) (es : List (κ × ν)) :
    (put k v es).map Prod.fst =
      if has k es then es.map Prod.fst else es.map Prod.fst ++ [k] := by
  induction es with
  | nil => rfl
  | cons e es ih =>
      cases he : e.1 == k with
      | true => rw [put, if_pos he, has, List.any_cons, he, Bool.true_or, if_pos rfl]; rfl
      | false =>
          rw [put, if_neg (by rw [he]; exact Bool.false_ne_true), List.map_cons, ih, has, has,
            List.any_cons, he, Bool.false_or]
          split <;> rfl

theorem has_put [LawfulBEq κ] (k : κ) (v : ν) (es : List (κ × ν)) :
    has j (put k v es) = (has j es || k == j) := by
  rw [has_eq_any, keys_put]
  cases hk : has k es with
  | true =>
      rw [if_pos rfl, ← has_eq_any]
      cases hj : k == j with
      | true => rw [← eq_of_beq hj, hk, Bool.true_or]
      | false => rw [Bool.or_false]
  | false =>
      rw [if_neg Bool.false_ne_true, List.any_append, ← has_eq_any, List.any_cons, List.any_nil,
        Bool.or_false]

/-- A key that was put has its new value, and any other the one it had. -/
theorem get?_put [LawfulBEq κ] (j : κ) (e : κ × ν) (es : List (κ × ν)) :
    get? j (put e.1 e.2 es) = (get? j [e]).or (get? j es) := by
  cases he : e.1 == j with
  | true =>
      rw [get?_cons_pos [] he]
      obtain rfl := eq_of_beq he
      exact get?_put_self he _ _
  | false =>
      rw [get?_cons_neg [] he]
      refine get?_put_of_ne he (fun a ha => ?_) _ _
      rw [eq_of_beq ha, he]

/-- A key that was removed has no value, and any other the one it had. -/
theorem get?_remove [LawfulBEq κ] (j k : κ) (es : List (κ × ν)) :
    get? j (remove k es) = if k == j then none else get? j es := by
  rw [get?_eq_find?, remove, List.find?_filter]
  cases hk : k == j with
  | true =>
      obtain rfl := eq_of_beq hk
      rw [List.find?_eq_none.mpr fun e _ => by simp, if_pos rfl]
      rfl
  | false =>
      -- an entry of the one key is no entry of the other
      have hother : ∀ e : κ × ν, (e.1 == j) = true → (!(e.1 == k)) = true := fun e he => by
        rw [eq_of_beq he, Bool.beq_comm, hk]
        rfl
      have hsame : (fun e : κ × ν => decide ((!(e.1 == k)) = true ∧ (e.1 == j) = true)) =
          fun e => e.1 == j := by
        funext e
        rw [Bool.eq_iff_iff, decide_eq_true_eq]
        exact ⟨And.right, fun he => ⟨hother e he, he⟩⟩
      rw [hsame, if_neg Bool.false_ne_true, get?_eq_find?]

/-- **The last value of a key counts.** -/
theorem get?_putAll [LawfulBEq κ] (j : κ) (es fresh : List (κ × ν)) :
    get? j (putAll es fresh) = (get? j fresh.reverse).or (get? j es) := by
  induction fresh generalizing es with
  | nil => rfl
  | cons e fresh ih =>
      have hput : putAll es (e :: fresh) = putAll (put e.1 e.2 es) fresh := rfl
      rw [hput, ih, get?_put, List.reverse_cons, get?_append, Option.or_assoc]

/-! ### Pairs -/

/-- A key has no value but one that stands beside it. -/
theorem mem_of_get? [LawfulBEq κ] {v : ν} {es : List (κ × ν)} (h : get? k es = some v) :
    (k, v) ∈ es := by
  induction es with
  | nil => cases h
  | cons e es ih =>
      cases he : e.1 == k with
      | true =>
          rw [get?_cons_pos es he] at h
          obtain rfl := eq_of_beq he
          obtain rfl := Option.some.inj h
          exact List.mem_cons_self
      | false =>
          rw [get?_cons_neg es he] at h
          exact List.mem_cons_of_mem e (ih h)

/-- A map holds the pair that was put, and no other that it did not hold. -/
theorem mem_put [LawfulBEq κ] {v : ν} {es : List (κ × ν)} {e : κ × ν} (h : e ∈ put k v es) :
    e = (k, v) ∨ e ∈ es := by
  induction es with
  | nil => exact .inl (List.mem_singleton.mp h)
  | cons f es ih =>
      cases hf : f.1 == k with
      | true =>
          obtain rfl := eq_of_beq hf
          rw [put, if_pos hf] at h
          exact (List.mem_cons.mp h).imp id (List.mem_cons_of_mem f)
      | false =>
          rw [put, if_neg (by rw [hf]; exact Bool.false_ne_true)] at h
          rcases List.mem_cons.mp h with rfl | h
          · exact .inr List.mem_cons_self
          · exact (ih h).imp id (List.mem_cons_of_mem f)

/-! ### Keys in order of first appearance -/

section Keys

variable {κ₀ : Type} [BEq κ₀] [LawfulBEq κ₀] {f : κ₀ → κ}

/-- One more key, in a map whose keys stand for others that are told apart as they are. -/
theorem keys_put_eraseDups (hf : ∀ a b, (f a == f b) = (a == b)) {es : List (κ × ν)} {ks : List κ₀}
    (hes : es.map Prod.fst = ks.eraseDups.map f) (n : κ₀) (v : ν) :
    (put (f n) v es).map Prod.fst = (ks ++ [n]).eraseDups.map f := by
  have hhas : has (f n) es = ks.contains n := by
    rw [has_eq_any, hes, List.any_map, Bool.eq_iff_iff]
    simp [hf]
  rw [keys_put, hhas, List.eraseDups_append, List.removeAll]
  by_cases hn : n ∈ ks
  · simp [hn, hes]
  · simp [hn, hes, List.eraseDups_cons]

/-- **The keys of a map that pairs were put into** are those it had and then the new ones. -/
theorem keys_putAll (hf : ∀ a b, (f a == f b) = (a == b)) {es fresh : List (κ × ν)}
    {ks names : List κ₀} (hes : es.map Prod.fst = ks.eraseDups.map f)
    (hfresh : fresh.map Prod.fst = names.map f) :
    (putAll es fresh).map Prod.fst = (ks ++ names).eraseDups.map f := by
  induction fresh generalizing es ks names with
  | nil =>
      obtain rfl := List.map_eq_nil_iff.mp hfresh.symm
      rw [List.append_nil]
      exact hes
  | cons e fresh ih =>
      cases names with
      | nil => cases hfresh
      | cons n names =>
          rw [List.map_cons, List.map_cons, List.cons.injEq] at hfresh
          have hput := keys_put_eraseDups hf hes n e.2
          rw [← hfresh.1] at hput
          have hrest := ih hput hfresh.2
          rw [List.append_assoc] at hrest
          exact hrest

/-- The keys of a map that a list of pairs builds. -/
theorem keys_ofPairs (hf : ∀ a b, (f a == f b) = (a == b)) {es : List (κ × ν)} {names : List κ₀}
    (h : es.map Prod.fst = names.map f) : (ofPairs es).map Prod.fst = names.eraseDups.map f := by
  have hnone : ([] : List (κ × ν)).map Prod.fst = ([] : List κ₀).eraseDups.map f := rfl
  have hall := keys_putAll hf hnone h
  rwa [List.nil_append] at hall

/-- Duplicates may be dropped before or after a renaming that keeps apart what was apart. -/
theorem eraseDups_map [LawfulBEq κ] (hf : ∀ a b, (f a == f b) = (a == b)) (ks : List κ₀) :
    (ks.map f).eraseDups = ks.eraseDups.map f := by
  -- both are the keys of one map
  have hpairs : ((ks.map f).map fun k => (k, ())).map Prod.fst = ks.map f := by
    rw [List.map_map]
    exact List.map_id _
  have hsame : (ks.map f).map (fun k => k) = ks.map f := List.map_id' _
  have hnames := keys_ofPairs (fun _ _ => rfl) (hpairs.trans hsame.symm)
  rw [List.map_id'] at hnames
  exact hnames.symm.trans (keys_ofPairs hf hpairs)

end Keys

/-! ### A map as a list -/

section Listed

variable [LawfulBEq κ]

theorem nodup_eraseDups (ks : List κ) : ks.eraseDups.Nodup := by
  match ks with
  | [] => exact List.nodup_nil
  | k :: ks =>
      rw [List.eraseDups_cons, List.nodup_cons]
      refine ⟨fun hk => ?_, nodup_eraseDups _⟩
      rw [List.mem_eraseDups, List.mem_filter, beq_self_eq_true] at hk
      exact Bool.false_ne_true hk.2
termination_by ks.length
decreasing_by exact Nat.lt_succ_of_le (List.length_filter_le _ _)

/-- A map without duplicate keys is its keys, each with its value. -/
theorem eq_map_get? {es : List (κ × ν)} (h : (es.map Prod.fst).Nodup) (d : ν) :
    es = (es.map Prod.fst).map fun k => (k, (get? k es).getD d) := by
  induction es with
  | nil => rfl
  | cons e es ih =>
      rw [List.map_cons, List.nodup_cons] at h
      have hrest : (es.map Prod.fst).map (fun k => (k, (get? k (e :: es)).getD d)) =
          (es.map Prod.fst).map fun k => (k, (get? k es).getD d) := by
        refine List.map_congr_left fun k hk => ?_
        have hne : (e.1 == k) = false := beq_eq_false_iff_ne.mpr fun heq => h.1 (heq ▸ hk)
        rw [get?_cons_neg es hne]
      rw [List.map_cons, List.map_cons, hrest, ← ih h.2, get?_cons_pos es (beq_self_eq_true e.1)]
      rfl

/-- A pair of a map without duplicate keys is found by its key. -/
theorem get?_eq_some_iff {es : List (κ × ν)} (h : (es.map Prod.fst).Nodup) {v : ν} :
    get? k es = some v ↔ (k, v) ∈ es := by
  refine ⟨mem_of_get?, fun hmem => ?_⟩
  induction es with
  | nil => cases hmem
  | cons e es ih =>
      rw [List.map_cons, List.nodup_cons] at h
      rcases List.mem_cons.mp hmem with rfl | hmem
      · exact get?_cons_pos es (beq_self_eq_true k)
      · have hne : (e.1 == k) = false :=
          beq_eq_false_iff_ne.mpr fun heq => h.1 (heq ▸ List.mem_map_of_mem hmem)
        rw [get?_cons_neg es hne]
        exact ih h.2 hmem

/-- The pairs of a map without duplicate keys may stand in any order. -/
theorem get?_perm {es fs : List (κ × ν)} (hp : es.Perm fs) (h : (es.map Prod.fst).Nodup) (k : κ) :
    get? k es = get? k fs := by
  have h' : (fs.map Prod.fst).Nodup := (hp.map Prod.fst).nodup_iff.mp h
  refine Option.ext fun v => ?_
  rw [get?_eq_some_iff h, get?_eq_some_iff h', hp.mem_iff]

omit [BEq κ] [LawfulBEq κ] in
/-- Two maps with the same keys in the same order are the same where one holds the pairs of the
other. -/
theorem eq_of_keys {es fs : List (κ × ν)} (hk : es.map Prod.fst = fs.map Prod.fst)
    (h : (es.map Prod.fst).Nodup) (hv : ∀ e ∈ es, e ∈ fs) : es = fs := by
  induction es generalizing fs with
  | nil => exact (List.map_eq_nil_iff.mp hk.symm).symm
  | cons e es ih =>
      cases fs with
      | nil => cases hk
      | cons f fs =>
          rw [List.map_cons, List.map_cons, List.cons.injEq] at hk
          rw [List.map_cons, List.nodup_cons] at h
          -- no later pair of the second map has the first key
          have hfresh : ∀ g ∈ fs, g.1 ≠ e.1 := fun g hg heq =>
            h.1 (by rw [hk.2, ← heq]; exact List.mem_map_of_mem hg)
          have he : e = f := (List.mem_cons.mp (hv e List.mem_cons_self)).resolve_right
            fun hmem => hfresh e hmem rfl
          refine List.cons_eq_cons.mpr ⟨he, ih hk.2 h.2 fun g hg => ?_⟩
          refine (List.mem_cons.mp (hv g (List.mem_cons_of_mem e hg))).resolve_left fun heq => h.1 ?_
          rw [he, ← heq]
          exact List.mem_map_of_mem hg

/-- **A map that a list of pairs builds**: the keys in order of first appearance, each with the last value
that came with it. -/
theorem ofPairs_eq (es : List (κ × ν)) (d : ν) :
    ofPairs es = (es.map Prod.fst).eraseDups.map fun k => (k, (get? k es.reverse).getD d) := by
  have hkeys : (ofPairs es).map Prod.fst = (es.map Prod.fst).eraseDups := by
    have hall := keys_ofPairs (fun _ _ => rfl) (List.map_id' (es.map Prod.fst)).symm
    rwa [List.map_id'] at hall
  have hvalues : ∀ k, get? k (ofPairs es) = get? k es.reverse := fun k => by
    rw [ofPairs, get?_putAll]
    exact Option.or_none
  have hnodup : ((ofPairs es).map Prod.fst).Nodup := by
    rw [hkeys]
    exact nodup_eraseDups _
  rw [eq_map_get? hnodup d, hkeys]
  simp only [hvalues]

end Listed

/-! ### Renaming -/

section Renaming

variable {κ₀ ν₀ : Type} [BEq κ₀] {f : κ₀ → κ} {g : ν₀ → ν}

/-- A map whose keys are renamed, and told apart as before, takes a pair as it did. -/
theorem put_map (hf : ∀ a b, (f a == f b) = (a == b)) (n : κ₀) (v : ν₀) (es : List (κ₀ × ν₀)) :
    put (f n) (g v) (es.map (Prod.map f g)) = (put n v es).map (Prod.map f g) := by
  induction es with
  | nil => rfl
  | cons e es ih =>
      rw [List.map_cons, put, put, Prod.map_fst, hf]
      split
      · rfl
      · rw [ih, List.map_cons]

theorem putAll_map (hf : ∀ a b, (f a == f b) = (a == b)) (es fresh : List (κ₀ × ν₀)) :
    putAll (es.map (Prod.map f g)) (fresh.map (Prod.map f g)) =
      (putAll es fresh).map (Prod.map f g) := by
  induction fresh generalizing es with
  | nil => rfl
  | cons e fresh ih =>
      have hput := put_map (g := g) hf e.1 e.2 es
      show putAll (put (f e.1) (g e.2) (es.map (Prod.map f g))) (fresh.map (Prod.map f g)) = _
      rw [hput, ih]
      rfl

end Renaming

/-! ### Values -/

/-- What holds of the values of a map and of one more holds of the values after that one is put. -/
theorem forall_put {P : ν → Prop} {k : κ} {v : ν} (hv : P v) {es : List (κ × ν)}
    (h : ∀ e ∈ es, P e.2) : ∀ e ∈ put k v es, P e.2 := by
  induction es with
  | nil => exact List.forall_mem_cons.mpr ⟨hv, h⟩
  | cons e es ih =>
      obtain ⟨he, hes⟩ := List.forall_mem_cons.mp h
      rw [put]
      split
      · exact List.forall_mem_cons.mpr ⟨hv, hes⟩
      · exact List.forall_mem_cons.mpr ⟨he, ih hes⟩

theorem forall_putAll {P : ν → Prop} {es fresh : List (κ × ν)} (h : ∀ e ∈ es, P e.2)
    (hf : ∀ e ∈ fresh, P e.2) : ∀ e ∈ putAll es fresh, P e.2 := by
  induction fresh generalizing es with
  | nil => exact h
  | cons e fresh ih =>
      obtain ⟨he, hfresh⟩ := List.forall_mem_cons.mp hf
      exact ih (forall_put he h) hfresh

end FleetHealth.Entries
