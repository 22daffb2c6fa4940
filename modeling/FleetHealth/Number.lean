import FleetHealth.Binary64.Arithmetic
import FleetHealth.Binary64.Shortest

/-!
# Number

Settings, times and counts are whole numbers or numbers of the binary64 format, and keep the form they were given in.  Two numbers are compared by their exact values whatever their form; a sum, difference or product of two whole numbers is exact, and one that involves a float is a float.
-/

namespace FleetHealth

/-- A whole number or a float. -/
inductive Number where
  | int (n : Int)
  | float (x : Binary64)
deriving DecidableEq

namespace Number

/-- Whether a number is a float. -/
def isFloat : Number → Bool
  | .int _   => false
  | .float _ => true

/-- The float nearest to a number. -/
def toBinary64 : Number → Binary64
  | .int n   => .ofInt n
  | .float x => x

/-- An operation done on whole numbers where both are, and on floats elsewhere. -/
def lift (onInt : Int → Int → Int) (onFloat : Binary64 → Binary64 → Binary64) :
    Number → Number → Number
  | .int m, .int n => .int (onInt m n)
  | a,      b      => .float (onFloat a.toBinary64 b.toBinary64)

/-- Sum. -/
def add : Number → Number → Number := lift (· + ·) .add

/-- Difference. -/
def sub : Number → Number → Number := lift (· - ·) .sub

/-- Product. -/
def mul : Number → Number → Number := lift (· * ·) .mul

/-- Strictly less, by exact value. -/
def lt : Number → Number → Bool
  | .int m,   .int n   => m < n
  | .float x, .float y => x.lt y
  | .int m,   .float y =>
    match y with
    | .nan        => false
    | .infinity s => !s
    | y           => m * unitsPerOne < y.signedUnits
  | .float x, .int n   =>
    match x with
    | .nan        => false
    | .infinity s => s
    | x           => x.signedUnits < n * unitsPerOne

/-- Whether the value is not a number. -/
def isNaN : Number → Bool
  | .int _   => false
  | .float x => x.isNaN

/-- Less or equal, by exact value. -/
def le (a b : Number) : Bool :=
  !a.isNaN && !b.isNaN && !lt b a

/-- Equal by value. -/
def eqv (a b : Number) : Bool :=
  le a b && le b a

/-- The value rounded to a number of decimal places; whole numbers stay. -/
def roundPlaces (a : Number) (places : Nat) : Number :=
  match a with
  | .int n   => .int n
  | .float x => .float (x.roundPlaces places)

/-- The text of a number. -/
def text : Number → String
  | .int n   => toString n
  | .float x => x.text

instance : Add Number := ⟨add⟩
instance : Sub Number := ⟨sub⟩
instance : Mul Number := ⟨mul⟩

end Number
end FleetHealth
