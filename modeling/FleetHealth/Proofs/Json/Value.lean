import FleetHealth.Json.Value
import FleetHealth.Proofs.Entries
import FleetHealth.Text.Order

/-!
# Proofs — Json — Value

What a string of JSON comes to as a text.  The code points of a text spell that text (`spell_codes`), so a string without lone halves comes to its own characters.  A lone half brings a backslash with it, and a text without one is spelled by its own code points alone (`spell_eq_iff`), so a field that is asked for by such a name is the one that JSON text gives that name (`get?_toFields`).
-/

namespace FleetHealth.Json

variable {n : Nat} {ns : List Nat} {s : String}

/-- The code points of characters: those below the surrogates, and those above them. -/
theorem toNat_scalar (c : Char) : c.toNat < 0xD800 ∨ 0xDFFF < c.toNat ∧ c.toNat < 0x110000 :=
  c.valid

theorem toNat_ofNat (h : n.isValidChar) : (Char.ofNat n).toNat = n := by
  unfold Char.ofNat
  rw [dif_pos h]
  rfl

theorem spellCode_of_valid (h : n.isValidChar) : spellCode n = [Char.ofNat n] := if_pos h

theorem spellCode_toNat (c : Char) : spellCode c.toNat = [c] := by
  have hvalid : c.toNat.isValidChar := c.valid
  rw [spellCode_of_valid hvalid, c.ofNat_toNat]

/-- **The code points of a text spell the text.** -/
theorem spell_codes (s : String) : spell (Text.codes s) = s := by
  have hchars : ∀ cs : List Char, (cs.map Char.toNat).flatMap spellCode = cs := by
    intro cs
    induction cs with
    | nil => rfl
    | cons c cs ih => rw [List.map_cons, List.flatMap_cons, spellCode_toNat, ih, List.singleton_append]
  rw [spell, Text.codes, hchars, String.ofList_toList]

/-- A lone half stands in a text behind a backslash. -/
theorem backslash_mem_spell (hn : n ∈ ns) (h : ¬ n.isValidChar) : '\\' ∈ (spell ns).toList := by
  rw [spell, String.toList_ofList]
  refine List.mem_flatMap.mpr ⟨n, hn, ?_⟩
  rw [spellCode, if_neg h]
  exact List.mem_cons_self

theorem codes_spell (h : ∀ n ∈ ns, n.isValidChar) : Text.codes (spell ns) = ns := by
  rw [spell, Text.codes, String.toList_ofList]
  induction ns with
  | nil => rfl
  | cons n ns ih =>
      obtain ⟨hn, hns⟩ := List.forall_mem_cons.mp h
      rw [List.flatMap_cons, spellCode_of_valid hn, List.map_append, ih hns]
      exact congrArg (· :: ns) (toNat_ofNat hn)

/-- **A text without a backslash is spelled by its own code points alone.** -/
theorem spell_eq_iff (h : '\\' ∉ s.toList) : spell ns = s ↔ ns = Text.codes s := by
  constructor
  · rintro rfl
    refine (codes_spell fun n hn => ?_).symm
    exact Classical.byContradiction fun hlone => h (backslash_mem_spell hn hlone)
  · rintro rfl
    exact spell_codes s

theorem codes_beq (s t : String) : (Text.codes s == Text.codes t) = (s == t) := by
  rw [Bool.eq_iff_iff, beq_iff_eq, beq_iff_eq]
  refine ⟨fun h => ?_, congrArg Text.codes⟩
  rw [← spell_codes s, h, spell_codes]

theorem Value.toFields_eq_map (fs : List (List Nat × Value)) :
    Value.toFields fs = fs.map fun f => (spell f.1, f.2.toDatum) := by
  induction fs with
  | nil => rfl
  | cons f fs ih => rw [Value.toFields, ih, List.map_cons]

/-- **A field is found under its name**, before its record comes to one of the library as after. -/
theorem get?_toFields {name : String} (h : '\\' ∉ name.toList) (fs : List (List Nat × Value)) :
    Entries.get? name (Value.toFields fs) =
      (Entries.get? (Text.codes name) fs).map Value.toDatum := by
  induction fs with
  | nil => rfl
  | cons f fs ih =>
      have hkey : (spell f.1 == name) = (f.1 == Text.codes name) := by
        rw [Bool.eq_iff_iff, beq_iff_eq, beq_iff_eq]
        exact spell_eq_iff h
      rw [Value.toFields, Entries.get?, Entries.get?, ih, hkey]
      split <;> rfl

end FleetHealth.Json
