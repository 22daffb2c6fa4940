import FleetHealth.Binary64.Basic

/-!
# Binary64 — Shortest

The text of a number: the fewest decimal digits that read back as the same number, and of those the nearest to it.  `shortest` tries one digit, two digits and so on up to seventeen; on each decimal grid only the two neighbours of the number can read back.  `Layout` says how the digits are laid out, and `plain` is the layout of every message and log line: positional from 10⁻⁴ up to 10¹⁶, with a point always, and otherwise an exponent of at least two digits.
-/

namespace FleetHealth.Binary64

/-- The decimal digits and exponent m · 10ᵉ, as a ratio of units. -/
def decimalRatio (m : Nat) (e : Int) : Nat × Nat :=
  if 0 ≤ e then (m * Nat.pow 10 e.toNat * unitsPerOne, 1)
  else (m * unitsPerOne, Nat.pow 10 (-e).toNat)

/-- Whether m · 10ᵉ reads back as a count of units. -/
def readsBack (units m : Nat) (e : Int) : Bool :=
  let r := decimalRatio m e
  roundUnits r.1 r.2 == units

/-- The decimal magnitude k of a positive count of units: the number lies in [10ᵏ⁻¹, 10ᵏ). -/
def magnitude (units : Nat) : Int :=
  (Nat.toDigits 10 (units * Nat.pow 10 330 / unitsPerOne)).length - 330

/-- The neighbour below a count of units on the grid of 10ᵉ, with twice the distance to it and the
width of the grid, both over one denominator. -/
def below (units : Nat) (e : Int) : Nat × Nat × Nat :=
  let num := if 0 ≤ e then units else units * Nat.pow 10 (-e).toNat
  let den := if 0 ≤ e then unitsPerOne * Nat.pow 10 e.toNat else unitsPerOne
  (num / den, 2 * (num % den), den)

/-- The nearer of the two neighbours on the grid of 10ᵉ that reads back, an even digit at a tie. -/
def neighbour? (units : Nat) (e : Int) : Option Nat :=
  let (lo, twice, width) := below units e
  let loOk := readsBack units lo e
  let hiOk := readsBack units (lo + 1) e
  if loOk && hiOk then
    some (if twice < width then lo else if width < twice then lo + 1 else lo + lo % 2)
  else if loOk then some lo
  else if hiOk then some (lo + 1)
  else none

/-- The first grid with a hit, from `count` digits on, trying at most `tries` grids. -/
def shortestFrom (units : Nat) (k : Int) : Nat → Nat → Nat × Int
  | 0,         count => ((below units (k - count)).1, k - count)
  | tries + 1, count =>
    match neighbour? units (k - count) with
    | some m => (m, k - count)
    | none   => shortestFrom units k tries (count + 1)

/-- A decimal without zeros at its end, trying at most `fuel` of them. -/
def stripZeros : Nat → Nat → Int → Nat × Int
  | 0,        m, e => (m, e)
  | fuel + 1, m, e => if m % 10 = 0 && m ≠ 0 then stripZeros fuel (m / 10) (e + 1) else (m, e)

/-- The shortest decimal m · 10ᵉ that reads back as a positive count of units. -/
def shortest (units : Nat) : Nat × Int :=
  let (m, e) := shortestFrom units (magnitude units) 17 1
  stripZeros 20 m e

/-- How digits are laid out. -/
structure Layout where
  /-- The least exponent of ten that is written positionally. -/
  least : Int
  /-- The first exponent of ten that is not. -/
  first : Int
  /-- The fewest digits of a written exponent. -/
  exponentWidth : Nat

/-- The layout of messages, log lines and documents. -/
def plain : Layout := ⟨-4, 16, 2⟩

/-- Zeros as text. -/
def zeros (n : Nat) : List Char := List.replicate n '0'

/-- A positive decimal m · 10ᵉ in a layout. -/
def Layout.write (l : Layout) (m : Nat) (e : Int) : String :=
  let ds := Nat.toDigits 10 m
  let lead : Int := e + ds.length - 1
  String.ofList <|
    if l.least ≤ lead && lead < l.first then
      if 0 ≤ e then ds ++ zeros e.toNat ++ ['.', '0']
      else if 0 ≤ lead then ds.take (lead.toNat + 1) ++ '.' :: ds.drop (lead.toNat + 1)
      else '0' :: '.' :: zeros ((-lead).toNat - 1) ++ ds
    else
      let x := Nat.toDigits 10 lead.natAbs
      let sign := if lead < 0 then '-' else '+'
      let tail := if ds.length ≤ 1 then [] else '.' :: ds.drop 1
      ds.take 1 ++ tail ++ 'e' :: sign :: zeros (l.exponentWidth - x.length) ++ x

/-- The text of a number. -/
def text : Binary64 → String
  | .nan            => "nan"
  | .infinity true  => "-inf"
  | .infinity false => "inf"
  | .finite s a _   =>
    let body :=
      if a = 0 then "0.0"
      else
        let (m, e) := shortest a
        plain.write m e
    if s then "-" ++ body else body

end FleetHealth.Binary64
