/-!
# Text — Blank

The whitespace of the whole library: the twenty-nine code points Unicode calls white space or line and paragraph separators, together with the four ASCII information separators.  `isBlank` is the class, `trim` removes it on both sides, and `isNumberBlank` is the slightly smaller class that may surround a written number.
-/

namespace FleetHealth.Text

/-- White space: tab to carriage return, the information separators, and the Unicode spaces. -/
def isBlank (c : Char) : Bool :=
  let n := c.toNat
  (0x09 ≤ n && n ≤ 0x0D) || (0x1C ≤ n && n ≤ 0x20) || n == 0x85 || n == 0xA0 || n == 0x1680
    || (0x2000 ≤ n && n ≤ 0x200A) || n == 0x2028 || n == 0x2029 || n == 0x202F || n == 0x205F
    || n == 0x3000

/-- White space that may surround a written number: the information separators may not. -/
def isNumberBlank (c : Char) : Bool :=
  isBlank c && !(0x1C ≤ c.toNat && c.toNat ≤ 0x1F)

/-- The characters without those of a class at either end. -/
def trimChars (p : Char → Bool) (cs : List Char) : List Char :=
  ((cs.dropWhile p).reverse.dropWhile p).reverse

/-- The text without white space at either end. -/
def trim (s : String) : String :=
  String.ofList (trimChars isBlank s.toList)

/-- Whether the text holds nothing but white space. -/
def isBlankText (s : String) : Bool :=
  s.toList.all isBlank

/-- The pieces between the occurrences of one character, always at least one. -/
def splitChars (sep : Char) : List Char → List (List Char)
  | []      => [[]]
  | c :: cs =>
    match splitChars sep cs with
    | []      => [[c]]
    | p :: ps => if c = sep then [] :: p :: ps else (c :: p) :: ps

/-- The pieces of a text between the occurrences of one character. -/
def split (sep : Char) (s : String) : List String :=
  (splitChars sep s.toList).map String.ofList

end FleetHealth.Text
