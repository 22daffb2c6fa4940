import FleetHealth.Text.Blank

/-!
# Proofs — Text — Split

Splitting undoes joining.  No piece of a text holds the separator (`notMem_of_mem_splitChars`), and pieces that do not hold the separator are found again, each in its place, in what they were joined to (`split_intercalate`), and the joined text holds the separator only between them (`count_intercalate`).  Where a text is cut at the first separator only, the part before must be without it and the part after may hold anything (`cut_append`).
-/

namespace FleetHealth.Text

theorem splitChars_eq (sep : Char) (cs : List Char) : splitChars sep cs = cs.splitOn sep := by
  induction cs with
  | nil => rfl
  | cons c cs ih =>
      rw [splitChars, ih, List.splitOn_cons_eq_if_modifyHead]
      cases h : cs.splitOn sep with
      | nil => exact absurd h (List.splitOn_ne_nil sep cs)
      | cons p ps =>
          by_cases hc : c = sep
          · simp only [hc, beq_self_eq_true, if_true]
          · simp only [hc, beq_eq_false_iff_ne.mpr hc, if_false, Bool.false_eq_true,
              List.modifyHead_cons]

/-- **Splitting at a separator**, whatever is on either side of it. -/
theorem splitChars_append (sep : Char) (cs ds : List Char) :
    splitChars sep (cs ++ sep :: ds) = splitChars sep cs ++ splitChars sep ds := by
  rw [splitChars_eq, splitChars_eq, splitChars_eq]
  exact List.splitOnP_append_cons cs ds (beq_self_eq_true sep)

/-- A piece between two separators, or at an end, is found. -/
theorem mem_splitChars {sep : Char} {before piece after : List Char}
    (hbefore : before = [] ∨ ∃ cs, before = cs ++ [sep])
    (hafter : after = [] ∨ ∃ cs, after = sep :: cs) (h : sep ∉ piece) :
    piece ∈ splitChars sep (before ++ piece ++ after) := by
  have hone : splitChars sep piece = [piece] := by rw [splitChars_eq, List.splitOn_eq_singleton h]
  have hend : piece ∈ splitChars sep (piece ++ after) := by
    rcases hafter with rfl | ⟨cs, rfl⟩
    · rw [List.append_nil, hone]
      exact List.mem_singleton_self piece
    · rw [splitChars_append, hone]
      exact List.mem_append_left _ (List.mem_singleton_self piece)
  rw [List.append_assoc]
  rcases hbefore with rfl | ⟨cs, rfl⟩
  · exact hend
  · rw [List.append_assoc, List.singleton_append, splitChars_append]
    exact List.mem_append_right _ hend

/-- A piece is without the separator. -/
theorem notMem_of_mem_splitChars {sep : Char} {piece : List Char} :
    ∀ {cs : List Char}, piece ∈ splitChars sep cs → sep ∉ piece
  | [], h => List.mem_singleton.mp h ▸ List.not_mem_nil
  | c :: cs, h => by
      have hrest : ∀ q ∈ splitChars sep cs, sep ∉ q := fun q => notMem_of_mem_splitChars
      rw [splitChars] at h
      split at h
      · next hnil =>
          rw [splitChars_eq] at hnil
          exact absurd hnil (List.splitOn_ne_nil sep cs)
      · next p ps hps =>
          rw [hps] at hrest
          split at h
          · rcases List.mem_cons.mp h with rfl | h
            · exact List.not_mem_nil
            · exact hrest piece h
          · next hc =>
              rcases List.mem_cons.mp h with rfl | h
              · refine fun hmem => (List.mem_cons.mp hmem).elim (fun heq => hc heq.symm) ?_
                exact hrest p List.mem_cons_self
              · exact hrest piece (List.mem_cons_of_mem p h)

variable {sep c : Char} {ps : List String}

theorem toList_join (sep : Char) (ps : List String) :
    (String.intercalate (String.singleton sep) ps).toList =
      [sep].intercalate (ps.map String.toList) := by
  rw [String.toList_intercalate, String.toList_singleton]

/-- **Splitting undoes joining**, of pieces without the separator. -/
theorem split_intercalate (h : ∀ p ∈ ps, sep ∉ p.toList) (hne : ps ≠ []) :
    split sep (String.intercalate (String.singleton sep) ps) = ps := by
  have hmem : ∀ l ∈ ps.map String.toList, sep ∉ l := by
    intro l hl
    obtain ⟨p, hp, rfl⟩ := List.mem_map.mp hl
    exact h p hp
  have hnil : ps.map String.toList ≠ [] := fun hl => hne (List.map_eq_nil_iff.mp hl)
  rw [split, splitChars_eq, toList_join, List.splitOn_intercalate sep hmem hnil, List.map_map]
  calc ps.map (String.ofList ∘ String.toList) = ps.map id :=
        List.map_congr_left fun p _ => String.ofList_toList
    _ = ps := List.map_id ps

/-- Joined pieces without the separator hold it once between each two of them. -/
theorem count_intercalate (h : ∀ p ∈ ps, sep ∉ p.toList) :
    (String.intercalate (String.singleton sep) ps).toList.count sep = ps.length - 1 := by
  induction ps with
  | nil => rfl
  | cons p ps ih =>
      have hp : p.toList.count sep = 0 := List.count_eq_zero.mpr (h p List.mem_cons_self)
      cases ps with
      | nil => rw [String.intercalate_singleton, hp]; rfl
      | cons q qs =>
          have hrest := ih fun r hr => h r (List.mem_cons_of_mem p hr)
          rw [String.intercalate_cons_cons, String.toList_append, String.toList_append,
            List.count_append, List.count_append, hp, hrest, String.toList_singleton,
            List.count_singleton_self]
          simp only [List.length_cons]
          omega

/-- What joined pieces hold is the separator or in one of them. -/
theorem mem_intercalate (h : c ∈ (String.intercalate (String.singleton sep) ps).toList) :
    c = sep ∨ ∃ p ∈ ps, c ∈ p.toList := by
  induction ps with
  | nil => cases h
  | cons p ps ih =>
      cases ps with
      | nil =>
          rw [String.intercalate_singleton] at h
          exact .inr ⟨p, List.mem_cons_self, h⟩
      | cons q qs =>
          rw [String.intercalate_cons_cons, String.toList_append, String.toList_append,
            List.mem_append, List.mem_append, String.toList_singleton, List.mem_singleton] at h
          rcases h with (h | h) | h
          · exact .inr ⟨p, List.mem_cons_self, h⟩
          · exact .inl h
          · rcases ih h with h | ⟨r, hr, hc⟩
            · exact .inl h
            · exact .inr ⟨r, List.mem_cons_of_mem p hr, hc⟩

/-! ### The first separator -/

/-- The parts of a text before and after the first occurrence of a character, if there is one. -/
def cut (sep : Char) (s : String) : Option (String × String) :=
  match s.toList.dropWhile (· != sep) with
  | []        => none
  | _ :: rest => some (String.ofList (s.toList.takeWhile (· != sep)), String.ofList rest)

/-- A text without the separator is cut off at the first one after it. -/
theorem cut_append {k : String} (h : sep ∉ k.toList) (v : String) :
    cut sep (k ++ String.singleton sep ++ v) = some (k, v) := by
  have hchars : (k ++ String.singleton sep ++ v).toList = k.toList ++ sep :: v.toList := by
    rw [String.toList_append, String.toList_append, String.toList_singleton, List.append_assoc]
    rfl
  have hall : ∀ c ∈ k.toList, (c != sep) = true := by
    intro c hc
    refine bne_iff_ne.mpr ?_
    rintro rfl
    exact h hc
  have hstop : ¬ (sep != sep) = true := by
    rw [bne_self_eq_false]
    exact Bool.false_ne_true
  rw [cut, hchars, List.dropWhile_append_of_pos hall, List.takeWhile_append_of_pos hall,
    List.dropWhile_cons_of_neg (p := (· != sep)) hstop,
    List.takeWhile_cons_of_neg (p := (· != sep)) hstop, List.append_nil]
  simp only [String.ofList_toList]

end FleetHealth.Text
