import FleetHealth.Binary64.Shortest

/-!
# Proofs — Binary64 — Text

Which characters the text of a number is made of.  Whatever the digits and the exponent, a layout writes nothing but digits, a point, the mark of the exponent and signs (`isNumeral_of_mem_write`), so the text of every finite number is made of these (`isNumeral_of_mem_text`).
-/

namespace FleetHealth.Binary64

/-- A character of a written number: a digit, the point, the mark of the exponent, or a sign. -/
def isNumeral (c : Char) : Bool := c.isDigit || c = '.' || c = 'e' || c = '+' || c = '-'

theorem isNumeral_of_isDigit {c : Char} (h : c.isDigit = true) : isNumeral c = true := by
  simp only [isNumeral, h, Bool.true_or]

theorem isNumeral_of_mem_toDigits {n : Nat} {c : Char} (h : c ∈ Nat.toDigits 10 n) :
    isNumeral c = true :=
  isNumeral_of_isDigit (Nat.isDigit_of_mem_toDigits (by decide) (by decide) h)

theorem isNumeral_of_mem_zeros {n : Nat} {c : Char} (h : c ∈ zeros n) : isNumeral c = true := by
  rw [List.eq_of_mem_replicate h]
  rfl

/-- The text of a natural number is made of digits. -/
theorem isNumeral_of_mem_toString {n : Nat} {c : Char} (h : c ∈ (toString n).toList) :
    isNumeral c = true := by
  rw [Nat.toString_eq_ofList_toDigits, String.toList_ofList] at h
  exact isNumeral_of_mem_toDigits h

/-- **What a layout writes** is made of digits, a point, the mark of the exponent and signs. -/
theorem isNumeral_of_mem_write {l : Layout} {m : Nat} {e : Int} {c : Char}
    (h : c ∈ (l.write m e).toList) : isNumeral c = true := by
  have hd : ∀ {c}, c ∈ Nat.toDigits 10 m → isNumeral c = true := isNumeral_of_mem_toDigits
  unfold Layout.write at h
  dsimp only at h
  rw [String.toList_ofList] at h
  split at h
  · split at h
    · simp only [List.mem_append, List.mem_cons, List.not_mem_nil, or_false] at h
      rcases h with (h | h) | rfl | rfl
      · exact hd h
      · exact isNumeral_of_mem_zeros h
      · rfl
      · rfl
    · split at h
      · simp only [List.mem_append, List.mem_cons] at h
        rcases h with h | rfl | h
        · exact hd (List.mem_of_mem_take h)
        · rfl
        · exact hd (List.mem_of_mem_drop h)
      · simp only [List.mem_append, List.mem_cons] at h
        rcases h with (rfl | rfl | h) | h
        · rfl
        · rfl
        · exact isNumeral_of_mem_zeros h
        · exact hd h
  · simp only [List.mem_append, List.mem_cons] at h
    rcases h with ((h | h) | rfl | h | h) | h
    · exact hd (List.mem_of_mem_take h)
    · split at h
      · cases h
      · rcases List.mem_cons.mp h with rfl | h
        · rfl
        · exact hd (List.mem_of_mem_drop h)
    · rfl
    · split at h
      · rw [h]
        rfl
      · rw [h]
        rfl
    · exact isNumeral_of_mem_zeros h
    · exact isNumeral_of_mem_toDigits h

/-- The text of a finite number is its digits in the common layout, after a sign. -/
theorem text_finite (s : Bool) (a : Nat) (held : Representable a) :
    (finite s a held).text =
      (if s then "-" else "") ++
        (if a = 0 then "0.0" else plain.write (shortest a).1 (shortest a).2) := by
  rw [text]
  -- the digits are taken apart by name, for the search for them must not be run
  cases shortest a with
  | mk m e =>
      cases s with
      | false => simp
      | true => simp

/-- **The text of a finite number** is made of digits, a point, the mark of the exponent and signs. -/
theorem isNumeral_of_mem_text {x : Binary64} {c : Char} (hx : x.isFinite = true)
    (h : c ∈ x.text.toList) : isNumeral c = true := by
  cases x with
  | nan => cases hx
  | infinity s => cases hx
  | finite s a held =>
      have hzero : ∀ c ∈ "0.0".toList, isNumeral c = true := List.all_eq_true.mp (by decide)
      have hsign : ∀ c ∈ (if s then "-" else "").toList, isNumeral c = true :=
        List.all_eq_true.mp (by cases s <;> decide)
      rw [text_finite, String.toList_append, List.mem_append] at h
      rcases h with h | h
      · exact hsign c h
      · split at h
        · exact hzero c h
        · exact isNumeral_of_mem_write h

end FleetHealth.Binary64
