import FleetHealth.Datum.Basic

/-!
# Log — Template

The messages of other programs are templates: text in which directives stand for arguments.  A directive is a percent sign, perhaps a name between parentheses, flags, a width, a precision and a letter that says how the argument is written: as text, as a whole number, as a float, or as one character.  Two percent signs stand for one.  `pieces?` takes a template apart, `Piece` by piece, and `fill?` puts the arguments in; there is no message where a directive is not well formed or does not fit its argument, and where arguments are missing or left over.
-/

namespace FleetHealth.Log.Template

/-- A width or a precision: written out, or the next argument. -/
inductive Amount where
  | written (n : Nat)
  | argument

/-- The largest width and precision. -/
def amountLimit : Nat := 2147483647

/-- What stands for an argument. -/
structure Directive where
  key : Option String := none
  flags : List Char := []
  width : Option Amount := none
  precision : Option Amount := none
  letter : Char

/-- A part of a template. -/
inductive Piece where
  | literal (c : Char)
  | directive (d : Directive)

/-- The arguments of a template: those still to come and, when there is one record of them, its
fields. -/
structure Arguments where
  rest : List Datum
  named : Option (List (String × Datum)) := none

/-! ### Taking a template apart -/

/-- A name up to the parenthesis that closes it, where parentheses within it are paired. -/
def key? : Nat → List Char → Option (List Char × List Char)
  | _,     []        => none
  | depth, '(' :: cs => (key? (depth + 1) cs).map fun r => ('(' :: r.1, r.2)
  | 0,     ')' :: cs => some ([], cs)
  | d + 1, ')' :: cs => (key? d cs).map fun r => (')' :: r.1, r.2)
  | depth, c :: cs   => (key? depth cs).map fun r => (c :: r.1, r.2)

/-- ASCII digits. -/
def isDigit (c : Char) : Bool := '0' ≤ c && c ≤ '9'

/-- The value of ASCII digits. -/
def value (cs : List Char) : Nat := cs.foldl (fun n c => n * 10 + (c.toNat - 0x30)) 0

/-- A width at the start of a text, when there is one. -/
def width : List Char → Option Amount × List Char
  | '*' :: cs => (some .argument, cs)
  | cs        =>
    let ds := cs.takeWhile isDigit
    (if ds.isEmpty then none else some (.written (value ds)), cs.dropWhile isDigit)

/-- A precision at the start of a text, when there is one; a bare point is precision zero. -/
def precision : List Char → Option Amount × List Char
  | '.' :: cs => ((width cs).1.orElse fun _ => some (.written 0), (width cs).2)
  | cs        => (none, cs)

/-- A directive after its percent sign, and the rest. -/
def directive? (cs : List Char) : Option (Directive × List Char) := do
  let (key, cs) ← match cs with
    | '(' :: rest => (key? 0 rest).map fun r => (some (String.ofList r.1), r.2)
    | cs          => some (none, cs)
  let isFlag := fun c : Char => "-+ #0".toList.contains c
  let (w, afterWidth) := width (cs.dropWhile isFlag)
  let (p, afterPrecision) := precision afterWidth
  let afterSize := match afterPrecision with
    | c :: rest => if c = 'h' || c = 'l' || c = 'L' then rest else c :: rest
    | []        => []
  match afterSize with
  | []        => none
  | c :: rest => some (⟨key, cs.takeWhile isFlag, w, p, c⟩, rest)

/-- The pieces of a template, within so many steps. -/
def piecesIn : Nat → List Char → Option (List Piece)
  | 0,        cs        => if cs.isEmpty then some [] else none
  | _ + 1,    []        => some []
  | fuel + 1, c :: cs   =>
    if c ≠ '%' then (piecesIn fuel cs).map (.literal c :: ·)
    else if cs.head? = some '%' then (piecesIn fuel (cs.drop 1)).map (.literal '%' :: ·)
    else do
      let (d, rest) ← directive? cs
      (piecesIn fuel rest).map (.directive d :: ·)

/-- The pieces of a template. -/
def pieces? (template : String) : Option (List Piece) :=
  piecesIn template.length template.toList

/-! ### Writing one argument -/

/-- What is written for an argument before it is brought to its width: a sign, what stands before
the digits, and the rest; only numbers are filled with zeros. -/
structure Written where
  isNumber : Bool := true
  sign : List Char := []
  lead : List Char := []
  body : List Char

/-- Spaces. -/
def blanks (n : Nat) : List Char := List.replicate n ' '

/-- A text brought to a width. -/
def Written.fit (w : Written) (flags : List Char) (width : Nat) : List Char :=
  let size := w.sign.length + w.lead.length + w.body.length
  let all := w.sign ++ w.lead ++ w.body
  if flags.contains '-' then all ++ blanks (width - size)
  else if w.isNumber && flags.contains '0' then
    w.sign ++ w.lead ++ Binary64.zeros (width - size) ++ w.body
  else blanks (width - size) ++ all

/-- The sign of a number under flags. -/
def signOf (flags : List Char) (negative : Bool) : List Char :=
  if negative then ['-']
  else if flags.contains '+' then ['+']
  else if flags.contains ' ' then [' ']
  else []

/-- A text whose characters outside ASCII are escaped by their code points. -/
def asciiOnly (s : String) : List Char :=
  s.toList.flatMap fun c =>
    if c.toNat < 0x80 then [c]
    else if c.toNat < 0x100 then '\\' :: 'x' :: Text.hexChars 2 c.toNat
    else if c.toNat < 0x10000 then '\\' :: 'u' :: Text.hexChars 4 c.toNat
    else '\\' :: 'U' :: Text.hexChars 8 c.toNat

/-- An argument as text, cut off at a precision. -/
def asText (precision : Option Nat) (cs : List Char) : Written :=
  { isNumber := false, body := (precision.map cs.take).getD cs }

/-- Capital letters for small ones in ASCII. -/
def capitals (cs : List Char) : List Char := cs.map Char.toUpper

/-- A whole number in a base, with at least as many digits as a precision asks for. -/
def asWhole (flags : List Char) (precision : Option Nat) (letter : Char) (n : Int) : Written :=
  let base := if letter = 'o' then 8 else if letter = 'x' || letter = 'X' then 16 else 10
  let ds := Nat.toDigits base n.natAbs
  let full := Binary64.zeros (precision.getD 0 - ds.length) ++ ds
  { sign := signOf flags (n < 0)
    lead := if flags.contains '#' && base != 10 then ['0', letter] else []
    body := if letter = 'X' then capitals full else full }

/-- The digits of a whole number with a point before the last of them. -/
def placed (digits places : Nat) (keepPoint : Bool) : List Char :=
  let ds := Nat.toDigits 10 digits
  let ds := Binary64.zeros (places + 1 - ds.length) ++ ds
  ds.take (ds.length - places) ++ (if 0 < places || keepPoint then ['.'] else [])
    ++ ds.drop (ds.length - places)

/-- A count of units in positional form with that many decimal places. -/
def positional (units places : Nat) (keepPoint : Bool) : List Char :=
  placed (divNearest (units * Nat.pow 10 places) unitsPerOne) places keepPoint

/-- A count of units rounded to that many significant digits: the digits as a whole number, and the
exponent of ten of the first of them. -/
def significant (units digits : Nat) : Nat × Int :=
  if units = 0 then (0, 0)
  else
    let lead := Binary64.magnitude units - 1
    let e : Int := lead + 1 - digits
    let m :=
      if 0 ≤ e then divNearest units (unitsPerOne * Nat.pow 10 e.toNat)
      else divNearest (units * Nat.pow 10 (-e).toNat) unitsPerOne
    if m = Nat.pow 10 digits then (m / 10, lead + 1) else (m, lead)

/-- An exponent of ten of at least two digits. -/
def exponent (e : Int) : List Char :=
  'e' :: (if e < 0 then '-' else '+') :: (Text.padNat 2 e.natAbs).toList

/-- Digits without the zeros after the point, nor the point when nothing is left after it. -/
def trimmed (cs : List Char) : List Char :=
  if cs.contains '.' then
    let tail := cs.reverse.dropWhile (· = '0')
    (if tail.head? = some '.' then tail.drop 1 else tail).reverse
  else cs

/-- A count of units in scientific form with that many places. -/
def scientific (units places : Nat) (keepPoint : Bool) : List Char :=
  let (m, e) := significant units (places + 1)
  placed m places keepPoint ++ exponent e

/-- A count of units with that many significant digits: positional when its exponent is at least -4
and below their number, scientific elsewhere, without zeros at the end unless they are kept. -/
def general (units digits : Nat) (keep : Bool) : List Char :=
  let (m, e) := significant units digits
  let trim := fun cs : List Char => if keep then cs else trimmed cs
  if -4 ≤ e && e < digits then trim (positional units (digits - 1 - e).toNat keep)
  else trim (placed m (digits - 1) keep) ++ exponent e

/-- A float under a letter. -/
def asFloat (flags : List Char) (precision : Option Nat) (letter : Char) (x : Binary64) :
    Written :=
  let places := precision.getD 6
  let keep := flags.contains '#'
  let shaped := fun cs : List Char => if letter.isUpper then capitals cs else cs
  match x with
  | .nan               => { sign := signOf flags false, body := shaped "nan".toList }
  | .infinity negative => { sign := signOf flags negative, body := shaped "inf".toList }
  | .finite negative units _ =>
    let body :=
      if letter = 'f' || letter = 'F' then positional units places keep
      else if letter = 'e' || letter = 'E' then scientific units places keep
      else general units (if places = 0 then 1 else places) keep
    { sign := signOf flags negative, body := shaped body }

/-- The character that an argument is or counts to. -/
def asCharacter : Datum → Option Written
  | .text s => if s.length = 1 then some { isNumber := false, body := s.toList } else none
  | .bool b => some { isNumber := false, body := [Char.ofNat (if b then 1 else 0)] }
  | .int n  =>
    if 0 ≤ n && n.toNat.isValidChar then
      some { isNumber := false, body := [Char.ofNat n.toNat] }
    else none
  | _       => none

/-- The whole number that an argument is; only where it may be rounded is it taken from a float. -/
def wholeOf (fromFloats : Bool) : Datum → Option Int
  | .bool b  => some (if b then 1 else 0)
  | .int n   => some n
  | .float x => if fromFloats then (Datum.float x).toInt.toOption else none
  | _        => none

/-- An argument under a letter. -/
def written? (flags : List Char) (precision : Option Nat) (letter : Char) (d : Datum) :
    Option Written :=
  match letter with
  | 's' => some (asText precision d.message.toList)
  | 'r' => some (asText precision d.shown.toList)
  | 'a' => some (asText precision (asciiOnly d.shown))
  | 'c' => asCharacter d
  | 'd' | 'i' | 'u' => (wholeOf true d).map (asWhole flags precision letter)
  | 'o' | 'x' | 'X' => (wholeOf false d).map (asWhole flags precision letter)
  | 'e' | 'E' | 'f' | 'F' | 'g' | 'G' =>
    d.toReal.toOption.map (asFloat flags precision letter)
  | _ => none

/-! ### Putting arguments in -/

namespace Arguments

/-- The arguments of a list; a single record that is not empty brings names. -/
def ofList (ds : List Datum) : Arguments :=
  match ds with
  | [.record (f :: fs)] => ⟨ds, some (f :: fs)⟩
  | _                   => ⟨ds, none⟩

/-- The next argument. -/
def next? (a : Arguments) : Option (Datum × Arguments) :=
  match a.rest with
  | []      => none
  | d :: ds => some (d, { a with rest := ds })

/-- The arguments where the one of a name comes next. -/
def named? (a : Arguments) : Option String → Option Arguments
  | none   => some a
  | some k => do
    let d ← Entries.get? k (← a.named)
    some { a with rest := [d] }

/-- The value of a width or a precision, unless it is too large. -/
def amount? (a : Arguments) : Option Amount → Option (Option Int × Arguments)
  | none              => some (none, a)
  | some (.written n) => if n ≤ amountLimit then some (some n, a) else none
  | some .argument    => do
    let (d, a) ← a.next?
    let n ← wholeOf false d
    if n.natAbs ≤ amountLimit then some (some n, a) else none

end Arguments

/-- What a directive writes and the arguments after it.  A negative width from an argument asks for
the left side, and a negative precision is zero. -/
def Directive.fill? (d : Directive) (a : Arguments) : Option (List Char × Arguments) := do
  let a ← a.named? d.key
  let (width, a) ← a.amount? d.width
  let (precision, a) ← a.amount? d.precision
  let flags := if (width.getD 0) < 0 then '-' :: d.flags else d.flags
  let (x, a) ← a.next?
  let w ← written? flags (precision.map Int.toNat) d.letter x
  some (w.fit flags (width.getD 0).natAbs, a)

/-- Pieces with arguments in the places of their directives; without names none may be left over. -/
def fillAll : List Piece → Arguments → Option (List Char)
  | [],                 a => if a.rest.isEmpty || a.named.isSome then some [] else none
  | .literal c :: ps,   a => (fillAll ps a).map (c :: ·)
  | .directive d :: ps, a => do
    let (cs, a) ← d.fill? a
    (fillAll ps a).map (cs ++ ·)

/-- A template with its directives filled from arguments; without arguments it stands for itself. -/
def fill? (template : String) (arguments : List Datum) : Option String :=
  if arguments.isEmpty then some template
  else do
    let ps ← pieces? template
    (fillAll ps (.ofList arguments)).map String.ofList

end FleetHealth.Log.Template
