import FleetHealth.Text.Casing

/-!
# Proofs — Text — Casing

What lower case leaves in a text: the lower case of each of its characters, but for the two whose lower case is more than another character (`lowerChar_mem_lower`).  So a text with a backslash has one in lower case, and becomes no word of letters by it.
-/

namespace FleetHealth.Text

variable {c : Char} {s : String}

theorem lowerChar_mem_lowerFrom {cs : List Char} (hc : c ∈ cs) (hdot : c ≠ '\u0130')
    (hsigma : c ≠ '\u03A3') (before : List Char) : lowerChar c ∈ lowerFrom before cs := by
  induction cs generalizing before with
  | nil => cases hc
  | cons x cs ih =>
      unfold lowerFrom
      rcases List.mem_cons.mp hc with rfl | hc
      · dsimp only
        rw [if_neg hdot, if_neg hsigma]
        exact List.mem_cons_self
      · exact List.mem_append_right _ (ih hc (x :: before))

/-- **The lower case of a character is in that of every text that holds the character.** -/
theorem lowerChar_mem_lower (hc : c ∈ s.toList) (hdot : c ≠ '\u0130') (hsigma : c ≠ '\u03A3') :
    lowerChar c ∈ (lower s).toList := by
  rw [lower, String.toList_ofList]
  exact lowerChar_mem_lowerFrom hc hdot hsigma []

end FleetHealth.Text
