import FleetHealth.Fault.Basic
import FleetHealth.Text.Blank
import FleetHealth.Text.Casing
import FleetHealth.Url.Address

/-!
# URL — Basic

A URL in five parts: scheme, authority, path, query and fragment.  `split` takes a text apart, after dropping controls and spaces before it and tabs and line ends within it; `join` puts the parts together, without the marks of an empty query or fragment.  The user information ends at the last at sign of the authority and the password begins after its first colon.  `redact` puts three stars in the place of a password.
-/

namespace FleetHealth

/-- The five parts of a URL. -/
structure Url where
  scheme : String
  authority : String
  path : String
  query : String
  fragment : String
deriving DecidableEq, Repr

namespace Url

/-- The characters of a scheme. -/
def isSchemeChar (c : Char) : Bool :=
  ('a' ≤ c && c ≤ 'z') || ('A' ≤ c && c ≤ 'Z') || ('0' ≤ c && c ≤ '9') || c = '+' || c = '-'
    || c = '.'

/-- ASCII letters. -/
def isLetter (c : Char) : Bool := ('a' ≤ c && c ≤ 'z') || ('A' ≤ c && c ≤ 'Z')

/-- The text before and after the first character of a kind; `none` when there is none. -/
def breakAt (p : Char → Bool) (cs : List Char) : Option (List Char × List Char) :=
  match cs.dropWhile (!p ·) with
  | []        => none
  | _ :: rest => some (cs.takeWhile (!p ·), rest)

/-- A scheme in lower case and what follows its colon. -/
def splitScheme (cs : List Char) : List Char × List Char :=
  match breakAt (· = ':') cs with
  | some (s :: ss, rest) =>
    if isLetter s && (s :: ss).all isSchemeChar then ((s :: ss).map Text.lowerChar, rest)
    else ([], cs)
  | _ => ([], cs)

/-- The characters that end an authority. -/
def endsAuthority (c : Char) : Bool := c = '/' || c = '?' || c = '#'

/-- An authority after two slashes, and the rest. -/
def splitAuthority : List Char → List Char × List Char
  | '/' :: '/' :: cs => (cs.takeWhile (!endsAuthority ·), cs.dropWhile (!endsAuthority ·))
  | cs               => ([], cs)

/-- What stands after the last occurrence of a character, or everything when there is none. -/
def afterLast (c : Char) (cs : List Char) : List Char :=
  (cs.reverse.takeWhile (· ≠ c)).reverse

/-- The host of an authority with brackets in it.  Where the part after the user information opens a
bracket, the host stands within it, nothing before it, and at most a port after it; elsewhere the
host ends at the first colon.  This is the stricter and later of two readings: the earlier one takes
what the first pair of brackets in the whole authority holds, and lets anything stand around it. -/
def bracketedHost (authority : List Char) : Except UrlFault (List Char) :=
  let hostAndPort := afterLast '@' authority
  match breakAt (· = '[') hostAndPort with
  | none                => .ok (hostAndPort.takeWhile (· ≠ ':'))
  | some (before, rest) =>
    let after := ((breakAt (· = ']') rest).map Prod.snd).getD []
    if before.isEmpty && (after.isEmpty || after.head? = some ':') then
      .ok (rest.takeWhile (· ≠ ']'))
    else .error .unbalancedBrackets

/-- Why a host within brackets is refused, if it is. -/
def hostFault? (host : List Char) : Option UrlFault :=
  if host.head? = some 'v' then (if isFuture host then none else some .badFutureAddress)
  else if isIPv4 host then some .bracketedIPv4
  else if isIPv6 host then none
  else some (.noAddress (String.ofList host))

/-- The characters outside ASCII whose compatibility forms hold a separator of URLs. -/
def foldedSeparators : List Nat :=
  [0x2047, 0x2048, 0x2049, 0x2100, 0x2101, 0x2105, 0x2106, 0x2A74, 0xFE13, 0xFE16, 0xFE55, 0xFE56,
   0xFE5F, 0xFE6B, 0xFF03, 0xFF0F, 0xFF1A, 0xFF1F, 0xFF20]

/-- Why an authority is refused, if it is. -/
def authorityFault? (cs : List Char) : Option UrlFault :=
  if cs.contains '[' != cs.contains ']' then some .unbalancedBrackets
  else if cs.contains '[' then
    match bracketedHost cs with
    | .error e => some e
    | .ok host => hostFault? host
  else none

/-- Why an authority is refused after the other parts are known, if it is. -/
def foldingFault? (cs : List Char) : Option UrlFault :=
  if cs.any fun c => foldedSeparators.contains c.toNat then
    some (.foldedSeparator (String.ofList cs))
  else none

/-- The parts of a text. -/
def split (s : String) : Except UrlFault Url :=
  let cs := (s.toList.dropWhile fun c => c.toNat ≤ 0x20).filter
    fun c => !(c = '\t' || c = '\r' || c = '\n')
  let (scheme, afterScheme) := splitScheme cs
  let (authority, rest) := splitAuthority afterScheme
  match authorityFault? authority with
  | some e => .error e
  | none   =>
    let (beforeFragment, fragment) := (breakAt (· = '#') rest).getD (rest, [])
    let (path, query) := (breakAt (· = '?') beforeFragment).getD (beforeFragment, [])
    match foldingFault? authority with
    | some e => .error e
    | none   =>
      .ok ⟨String.ofList scheme, String.ofList authority, String.ofList path,
           String.ofList query, String.ofList fragment⟩

/-- The schemes that are followed by two slashes even where there is no authority. -/
def slashedSchemes : List String :=
  ["ftp", "http", "gopher", "nntp", "telnet", "imap", "wais", "file", "mms", "https", "shttp",
   "snews", "prospero", "rtsp", "rtsps", "rtspu", "rsync", "svn", "svn+ssh", "sftp", "nfs", "git",
   "git+ssh", "ws", "wss", "itms-services"]

/-- Whether two slashes come before the authority, empty or not. -/
def isSlashed (u : Url) : Bool :=
  !u.authority.isEmpty || u.path.startsWith "//"
    || (slashedSchemes.contains u.scheme && (u.path.isEmpty || u.path.startsWith "/"))

/-- The text of a URL. -/
def join (u : Url) : String :=
  let path :=
    if u.isSlashed then
      "//" ++ u.authority
        ++ (if u.path.isEmpty || u.path.startsWith "/" then u.path else "/" ++ u.path)
    else u.path
  (if u.scheme.isEmpty then path else u.scheme ++ ":" ++ path)
    ++ (if u.query.isEmpty then "" else "?" ++ u.query)
    ++ (if u.fragment.isEmpty then "" else "#" ++ u.fragment)

/-- What stands before the last occurrence of a character. -/
def beforeLast? (c : Char) (cs : List Char) : Option (List Char) :=
  match cs.reverse.dropWhile (· ≠ c) with
  | []        => none
  | _ :: rest => some rest.reverse

/-- The password in the user information of an authority. -/
def password? (authority : List Char) : Option (List Char) :=
  match beforeLast? '@' authority with
  | none          => none
  | some userInfo => (breakAt (· = ':') userInfo).map Prod.snd

/-- The text with every occurrence of a pattern replaced, from left to right; `skip` characters of
an occurrence are still to be passed over. -/
def replaceAll (pattern by_ : List Char) : Nat → List Char → List Char
  | _,        []      => []
  | skip + 1, _ :: cs => replaceAll pattern by_ skip cs
  | 0,        c :: cs =>
    if pattern.isPrefixOf (c :: cs) then by_ ++ replaceAll pattern by_ (pattern.length - 1) cs
    else c :: replaceAll pattern by_ 0 cs

/-- The authority with three stars in the place of a password. -/
def maskAuthority (password authority : List Char) : List Char :=
  replaceAll (':' :: (password ++ ['@'])) [':', '*', '*', '*', '@'] 0 authority

/-- The text of a URL with its password masked; a URL without a password stays as it is. -/
def redact (s : String) : Except UrlFault String :=
  match split s with
  | .error e => .error e
  | .ok u    =>
    match password? u.authority.toList with
    | some (p :: ps) =>
      .ok { u with authority := String.ofList (maskAuthority (p :: ps) u.authority.toList) }.join
    | _ => .ok s

end Url
end FleetHealth
