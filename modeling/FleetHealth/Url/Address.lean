import FleetHealth.Text.Blank
import FleetHealth.Text.Digit

/-!
# URL — Address

The network addresses that may stand between the brackets of an authority.  `isIPv4` takes four decimal octets without leading zeros; `isIPv6` takes eight groups of up to four hexadecimal digits, the last two perhaps written as an IPv4 address, with one run of zero groups left out at most, and perhaps a zone after a percent sign; `isFuture` takes the form reserved for versions to come.
-/

namespace FleetHealth.Url

/-- Whether a text is a decimal octet without leading zeros. -/
def isOctet (cs : List Char) : Bool :=
  !cs.isEmpty && cs.length ≤ 3 && cs.all (fun c => '0' ≤ c && c ≤ '9')
    && (cs.length == 1 || cs.head? != some '0')
    && cs.foldl (fun n c => n * 10 + (c.toNat - 0x30)) 0 ≤ 255

/-- Whether a text is an IPv4 address. -/
def isIPv4 (cs : List Char) : Bool :=
  let parts := Text.splitChars '.' cs
  parts.length == 4 && parts.all isOctet

/-- Whether a text is a group of an IPv6 address. -/
def isGroup (cs : List Char) : Bool :=
  1 ≤ cs.length && cs.length ≤ 4 && cs.all fun c => (Text.hexDigit? c).isSome

/-- The groups of an address that ends in an IPv4 address, with two groups in its place. -/
def expandTail (parts : List (List Char)) : Option (List (List Char)) :=
  match parts.getLast? with
  | some tail =>
    if tail.contains '.' then
      if isIPv4 tail then some (parts.dropLast ++ [['0'], ['0']]) else none
    else some parts
  | none => none

/-- Whether the groups around one omitted run are well formed.  An empty group at either end is
admitted only where the omitted run touches that end. -/
def aroundGap (before after : List (List Char)) : Bool :=
  let front := if before.head? = some [] then before.drop 1 else before
  let back := if after.getLast? = some [] then after.dropLast else after
  (before.head? != some [] || front.isEmpty) && (after.getLast? != some [] || back.isEmpty)
    && front.length + back.length < 8 && front.all isGroup && back.all isGroup

/-- The groups before and after the first empty group that is not at an end. -/
def innerGap? (parts : List (List Char)) : Option (List (List Char) × List (List Char)) :=
  let inner := (parts.drop 1).dropLast
  let upTo := inner.takeWhile fun p => !p.isEmpty
  if upTo.length = inner.length then none
  else some (parts.take (1 + upTo.length), parts.drop (2 + upTo.length))

/-- Whether a text without a zone is an IPv6 address. -/
def isPlainIPv6 (cs : List Char) : Bool :=
  let parts := Text.splitChars ':' cs
  if parts.length < 3 then false
  else
    match expandTail parts with
    | none        => false
    | some groups =>
      if 9 < groups.length then false
      else
        match innerGap? groups with
        | some (before, after) => !(after.dropLast.any List.isEmpty) && aroundGap before after
        | none                 => groups.length == 8 && groups.all isGroup

/-- Whether a text is an IPv6 address, perhaps with a zone. -/
def isIPv6 (cs : List Char) : Bool :=
  match Text.splitChars '%' cs with
  | [plain]       => isPlainIPv6 plain
  | [plain, zone] => !zone.isEmpty && isPlainIPv6 plain
  | _             => false

/-- Whether a text is an address of a version to come: a version in hexadecimal, a point, and at
least one character. -/
def isFuture : List Char → Bool
  | 'v' :: cs =>
    let isHex := fun c => (Text.hexDigit? c).isSome
    let rest := cs.dropWhile isHex
    !(cs.takeWhile isHex).isEmpty && rest.head? == some '.' && 2 ≤ rest.length
  | _ => false

end FleetHealth.Url
