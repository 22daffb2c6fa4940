import FleetHealth.Text.Blank

/-!
# Proofs — Text — Blank

White space at the ends of a text.  Trimming takes away what was put around a text (`trim_pad`), and a text that holds nothing but white space still does when more of it is put around (`isBlankText_pad`).  What is left has none at either end (`isTrimmed_trim`), and with the white space that was taken away it is the text again (`exists_pad`).
-/

namespace FleetHealth.Text

variable {p : Char → Bool}

/-- Of a list without its members of a class at either end, the first and the last are not of the
class. -/
theorem ends_trimChars (p : Char → Bool) (cs : List Char) :
    (∀ c ∈ (trimChars p cs).head?, p c = false) ∧ ∀ c ∈ (trimChars p cs).getLast?, p c = false := by
  have hstart : ∀ ds : List Char, ∀ c ∈ (ds.dropWhile p).head?, p c = false := by
    intro ds c hc
    have hhead := List.head?_dropWhile_not p ds
    rw [Option.mem_def.mp hc] at hhead
    exact hhead
  refine ⟨fun c hc => hstart cs c ?_, fun c hc => ?_⟩
  · -- what is dropped at the end leaves the first as it is, if it leaves any
    have hsuffix := List.dropWhile_suffix (l := (cs.dropWhile p).reverse) p
    have hprefix := List.reverse_prefix.mpr hsuffix
    rw [List.reverse_reverse] at hprefix
    obtain ⟨rest, hrest⟩ := hprefix
    rw [← hrest, List.head?_append]
    rw [trimChars] at hc
    rw [Option.mem_def.mp hc]
    rfl
  · rw [trimChars, List.getLast?_reverse] at hc
    exact hstart _ c hc

/-- What is put around a text is trimmed away with what stood there. -/
theorem trimChars_pad {before after : List Char} (hb : ∀ c ∈ before, p c = true)
    (ha : ∀ c ∈ after, p c = true) (cs : List Char) :
    trimChars p (before ++ cs ++ after) = trimChars p cs := by
  have ha' : ∀ c ∈ after.reverse, p c = true := fun c hc => ha c (List.mem_reverse.mp hc)
  rw [trimChars, trimChars, List.append_assoc, List.dropWhile_append_of_pos hb,
    List.dropWhile_append]
  split
  · next hnil =>
      -- the text was all of the class, so nothing is left of it either way
      have hnone : (after ++ []).dropWhile p = [] := List.dropWhile_append_of_pos ha
      rw [List.append_nil] at hnone
      rw [hnone, List.isEmpty_iff.mp hnil]
  · rw [List.reverse_append, List.dropWhile_append_of_pos ha']

/-- A list is what is left of it, with what was of the class around it. -/
theorem eq_pad_trimChars (p : Char → Bool) (cs : List Char) :
    cs = cs.takeWhile p ++ trimChars p cs ++ ((cs.dropWhile p).reverse.takeWhile p).reverse := by
  have hend : trimChars p cs ++ ((cs.dropWhile p).reverse.takeWhile p).reverse = cs.dropWhile p := by
    rw [trimChars, ← List.reverse_append, List.takeWhile_append_dropWhile, List.reverse_reverse]
  rw [List.append_assoc, hend, List.takeWhile_append_dropWhile]

/-- Nothing is taken from a list that has nothing of the class at either end. -/
theorem trimChars_eq_self {cs : List Char} (hfront : ∀ c ∈ cs.head?, p c = false)
    (hback : ∀ c ∈ cs.getLast?, p c = false) : trimChars p cs = cs := by
  have hstart : ∀ ds : List Char, (∀ c ∈ ds.head?, p c = false) → ds.dropWhile p = ds
    | [], _ => rfl
    | c :: ds, hc => List.dropWhile_cons_of_neg (by rw [hc c rfl]; exact Bool.false_ne_true)
  rw [← List.head?_reverse] at hback
  rw [trimChars, hstart cs hfront, hstart cs.reverse hback, List.reverse_reverse]

variable {before after : String}

/-- **White space around a text is trimmed away.** -/
theorem trim_pad (hb : isBlankText before = true) (ha : isBlankText after = true) (s : String) :
    trim (before ++ s ++ after) = trim s := by
  rw [trim, trim, String.toList_append, String.toList_append,
    trimChars_pad (List.all_eq_true.mp hb) (List.all_eq_true.mp ha)]

theorem isBlankText_empty : isBlankText "" = true := rfl

theorem isBlankText_pad (hb : isBlankText before = true) (ha : isBlankText after = true)
    (s : String) : isBlankText (before ++ s ++ after) = isBlankText s := by
  unfold isBlankText at *
  rw [String.toList_append, String.toList_append, List.all_append, List.all_append, hb, ha,
    Bool.true_and, Bool.and_true]

/-! ### What is left -/

/-- A text without white space at either end. -/
structure IsTrimmed (s : String) : Prop where
  front : ∀ c ∈ s.toList.head?, isBlank c = false
  back : ∀ c ∈ s.toList.getLast?, isBlank c = false

theorem isTrimmed_trim (s : String) : IsTrimmed (trim s) := by
  obtain ⟨hfront, hback⟩ := ends_trimChars isBlank s.toList
  exact ⟨by rwa [trim, String.toList_ofList], by rwa [trim, String.toList_ofList]⟩

/-- **A text is what trimming leaves of it, with white space around.** -/
theorem exists_pad (s : String) : ∃ before after, isBlankText before = true
    ∧ isBlankText after = true ∧ s = before ++ trim s ++ after := by
  refine ⟨String.ofList (s.toList.takeWhile isBlank),
    String.ofList ((s.toList.dropWhile isBlank).reverse.takeWhile isBlank).reverse, ?_, ?_, ?_⟩
  · rw [isBlankText, String.toList_ofList]
    exact List.all_takeWhile
  · rw [isBlankText, String.toList_ofList, List.all_reverse]
    exact List.all_takeWhile
  · rw [trim, ← String.ofList_append, ← String.ofList_append, ← eq_pad_trimChars,
      String.ofList_toList]

/-- Nothing is trimmed from a text without white space at either end. -/
theorem IsTrimmed.trim_eq {s : String} (h : IsTrimmed s) : trim s = s := by
  rw [trim, trimChars_eq_self h.front h.back, String.ofList_toList]

/-- What is left holds something but white space if the text does. -/
theorem isBlankText_trim (s : String) : isBlankText (trim s) = isBlankText s := by
  obtain ⟨before, after, hb, ha, hs⟩ := exists_pad s
  calc isBlankText (trim s) = isBlankText (before ++ trim s ++ after) :=
        (isBlankText_pad hb ha (trim s)).symm
    _ = isBlankText s := congrArg isBlankText hs.symm

end FleetHealth.Text
