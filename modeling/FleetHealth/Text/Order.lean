/-!
# Text — Order

Which of two texts comes first.  Texts are compared code point by code point, and one that opens another comes before it.
-/

namespace FleetHealth.Text

/-- The code points of a text. -/
def codes (s : String) : List Nat := s.toList.map Char.toNat

/-- Whether a text comes before another. -/
def precedes (s t : String) : Bool := decide (codes s < codes t)

end FleetHealth.Text
