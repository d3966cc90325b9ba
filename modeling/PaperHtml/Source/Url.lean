import PaperHtml.Source.IpAddress
import PaperHtml.Text.Quoted

/-!
# Addresses

A source is an address on the web if it has the scheme `http` or `https`, and a
path otherwise.  Telling them apart can fail: an address may have a host that no
address can have.
-/

namespace PaperHtml.Source

open Text

/-- Which rules addresses are taken apart by. -/
inductive AddressRules where
  /-- Blanks count wherever they stand, and brackets may hold anything. -/
  | lenient
  /-- Blanks and control characters in front of an address do not count, and brackets hold the
  number of a host. -/
  | strict
  deriving DecidableEq

/-- Why a source is neither an address nor a path. -/
inductive UrlError where
  /-- A host with only one of the two square brackets. -/
  | unbalancedBrackets
  /-- A version in brackets, with nothing behind it that could be an address. -/
  | badVersion
  /-- An address of four octets in brackets. -/
  | bracketedOctets
  /-- Brackets that hold no address. -/
  | notNumeric (inside : Text)
  /-- A host with a character whose compatibility form would end the host. -/
  | disguisedDelimiter (host : Text)
  deriving DecidableEq

/-- The error in words. -/
def UrlError.message : UrlError → Text
  | .unbalancedBrackets => "Invalid IPv6 URL".toList
  | .badVersion => "IPvFuture address is invalid".toList
  | .bracketedOctets => "An IPv4 address cannot be in brackets".toList
  | .notNumeric inside =>
    quoted inside ++ " does not appear to be an IPv4 or IPv6 address".toList
  | .disguisedDelimiter host =>
    "netloc '".toList ++ host ++
      "' contains invalid characters under NFKC normalization".toList

/-! ## The parts of an address -/

/-- A character of a scheme behind its first letter. -/
def isSchemeChar (c : Char) : Bool := c.isAlphanum || c ∈ ['+', '-', '.']

/-- The scheme of an address in lower case, and what follows its colon. -/
def scheme? (t : Text) : Option (Text × Text) :=
  match cutChar? ':' t with
  | some (c :: more, rest) =>
    if c.isAlpha && (c :: more).all isSchemeChar then some ((c :: more).map Char.toLower, rest)
    else none
  | _ => none

/-- The host of an address, which two slashes announce. -/
def host? (t : Text) : Option Text :=
  (dropPrefix? ['/', '/'] t).map fun rest =>
    rest.takeWhile fun c => c ≠ '/' ∧ c ≠ '?' ∧ c ≠ '#'

/-! ## Hosts that no address can have -/

/-- A version of addresses to come: its number, a dot, and an address. -/
def isVersioned (t : Text) : Bool :=
  let (number, rest) := t.span isHexDigit
  match rest with
  | '.' :: address => number ≠ [] && address ≠ []
  | _ => false

/-- What is wrong with the inside of brackets. -/
def bracketError? (inside : Text) : Option UrlError :=
  match inside with
  | 'v' :: version => if isVersioned version then none else some .badVersion
  | inside =>
    if isIpv4 inside then some .bracketedOctets
    else if isIpv6 inside then none
    else some (.notNumeric inside)

/-- What stands between the first opening bracket of a host and the next closing one. -/
def bracketed (host : Text) : Text :=
  ((host.dropWhile (· ≠ '[')).drop 1).takeWhile (· ≠ ']')

/-- The characters above ASCII whose compatibility form holds a delimiter of addresses. -/
def disguised : List Nat :=
  [8263, 8264, 8265, 8448, 8449, 8453, 8454, 10868, 65043, 65046, 65109, 65110, 65119, 65131,
    65283, 65295, 65306, 65311, 65312]

/-- What is wrong with a host. -/
def hostError? (rules : AddressRules) (host : Text) : Option UrlError :=
  let isBracketed := host.contains '[' && host.contains ']'
  if host.contains '[' ≠ host.contains ']' then some .unbalancedBrackets
  else
    let inBrackets :=
      if rules = .strict ∧ isBracketed then bracketError? (bracketed host) else none
    inBrackets.or <|
      if host.any fun c => disguised.contains c.toNat then some (.disguisedDelimiter host)
      else none

/-! ## Addresses and paths -/

/-- The characters of a source that count.  Line ends and tabs do not. -/
def significant (rules : AddressRules) (source : Text) : Text :=
  let source := match rules with
    | .lenient => source
    | .strict => source.dropWhile fun c => c.toNat ≤ 32
  source.filter fun c => !(c ∈ ['\t', '\r', '\n'])

/-- Whether a source is an address on the web. -/
def isUrl (rules : AddressRules) (source : Text) : Except UrlError Bool :=
  let t := significant rules source
  let (scheme, rest) := (scheme? t).getD ([], t)
  match (host? rest).bind (hostError? rules) with
  | some error => .error error
  | none => .ok (scheme == "http".toList || scheme == "https".toList)

end PaperHtml.Source
