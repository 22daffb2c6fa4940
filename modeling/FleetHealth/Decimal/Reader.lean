import FleetHealth.Binary64.Basic
import FleetHealth.Text.Blank
import FleetHealth.Text.Casing
import FleetHealth.Text.Digit

/-!
# Decimal — Reader

Numbers written as text.  White space may surround them, a sign may open them, the digits may be those of any script, and a single underscore may stand between two digits.  `readInt` takes whole numbers of at most `digitLimit` digits; `readFloat` takes a whole part, a fraction, an exponent, and the words for infinity and for what is not a number.
-/

namespace FleetHealth.Decimal

/-- The most digits a whole number may be written with. -/
def digitLimit : Nat := 4300

/-- Why a text is not read as a whole number. -/
inductive IntError where
  | malformed
  | tooLong (digits : Nat)
deriving DecidableEq

/-- A run of digits with single underscores between them: their values and the rest.  `none` when
an underscore does not stand between two digits. -/
def digitRun : List Char → Option (List Nat × List Char)
  | []             => some ([], [])
  | c :: '_' :: cs =>
    match Text.digit? c with
    | none   => some ([], c :: '_' :: cs)
    | some d =>
      match digitRun cs with
      | some (e :: es, tail) => some (d :: e :: es, tail)
      | _                    => none
  | c :: cs        =>
    match Text.digit? c with
    | none   => some ([], c :: cs)
    | some d => (digitRun cs).map fun (es, tail) => (d :: es, tail)

/-- The number that a list of digits writes. -/
def ofDigits (ds : List Nat) : Nat :=
  ds.foldl (fun n d => n * 10 + d) 0

/-- A sign and the rest; no sign is a plus. -/
def sign : List Char → Bool × List Char
  | '-' :: cs => (true, cs)
  | '+' :: cs => (false, cs)
  | cs        => (false, cs)

/-- The characters of a written number, without the white space around it. -/
def body (s : String) : List Char :=
  Text.trimChars Text.isNumberBlank s.toList

/-- The whole number that a text writes. -/
def readInt (s : String) : Except IntError Int :=
  let (negative, cs) := sign (body s)
  match digitRun cs with
  | none            => .error .malformed
  | some (ds, tail) =>
    if digitLimit < ds.length then .error (.tooLong ds.length)
    else if ds.isEmpty || !tail.isEmpty then .error .malformed
    else if negative then .ok (-(ofDigits ds : Int))
    else .ok (ofDigits ds)

/-- The exponent at the end of a number; `none` when something else stands there. -/
def exponentTail : List Char → Option Int
  | []      => some 0
  | c :: cs =>
    if c = 'e' || c = 'E' then
      let (negative, rest) := sign cs
      match digitRun rest with
      | some (d :: ds, []) =>
        let n : Int := ofDigits (d :: ds)
        some (if negative then -n else n)
      | _ => none
    else none

/-- The words for infinity and for what is not a number, in any ASCII case. -/
def word? (negative : Bool) (cs : List Char) : Option Binary64 :=
  let w := String.ofList (cs.map fun c => if c.toNat < 0x80 then Text.lowerChar c else c)
  if w = "nan" then some .nan
  else if w = "inf" || w = "infinity" then some (.infinity negative)
  else none

/-- The number that a text writes, rounded to the format. -/
def readFloat (s : String) : Option Binary64 :=
  let (negative, cs) := sign (body s)
  match word? negative cs with
  | some x => some x
  | none   => do
    let (whole, afterWhole) ← digitRun cs
    let (fraction, afterFraction) ←
      match afterWhole with
      | '.' :: rest => digitRun rest
      | rest        => some ([], rest)
    if whole.isEmpty && fraction.isEmpty then none
    else
      let e ← exponentTail afterFraction
      some (.ofDecimal negative (ofDigits (whole ++ fraction)) (e - fraction.length))

end FleetHealth.Decimal
