import MapScout.Number.Decimal
import MapScout.Number.Power
import MapScout.Text.Percent
/-!
# Addresses on the web

The address of a plain web resource: where to connect and what to ask for there.  Reading is lenient
in the ways browsers are: blanks around the address and line breaks within it do not count, a
backslash is a slash, and characters that may not stand in a path or a query are escaped.
-/

namespace MapScout.Web

structure Url where
  host : String
  port : UInt16
  /-- Path and query, as they are asked for. -/
  target : String
  deriving DecidableEq, Repr, Inhabited

namespace Url

/-- What may be written around an address. -/
def isMargin (c : Char) : Bool := c ≤ ' '

/-- What does not count within an address. -/
def isBreak (c : Char) : Bool := c = '\t' || c = '\n' || c = '\r'

/-- The characters of an address that count. -/
def significant (s : String) : List Char :=
  let cs := s.toList.dropWhile isMargin
  ((cs.reverse.dropWhile isMargin).reverse).filter fun c => !isBreak c

def isSlash (c : Char) : Bool := c = '/' || c = '\\'

/-- The scheme in lower case and what follows its colon. -/
def splitScheme? (cs : List Char) : Option (String × List Char) :=
  let (scheme, rest) := cs.span (· != ':')
  match scheme, rest with
  | c :: _, _ :: rest =>
    if c.isAlpha && scheme.all fun c => c.isAlphanum || c = '+' || c = '-' || c = '.' then
      some (String.ofList (scheme.map Char.toLower), rest)
    else none
  | _, _ => none

/-- The part after the last `@`. -/
def dropUserInfo (cs : List Char) : List Char := (cs.reverse.takeWhile (· != '@')).reverse

/-! ## Hosts -/

/-- The host and what is written after its colon, if there is a colon. -/
def splitPort (cs : List Char) : List Char × Option (List Char) :=
  let (bracketed, rest) :=
    if cs.head? = some '[' then (cs.takeWhile (· != ']'), cs.dropWhile (· != ']')) else ([], cs)
  let (host, rest) := rest.span (· != ':')
  (bracketed ++ host, match rest with | [] => none | _ :: port => some port)

/-- The port that is written, eighty if none is. -/
def portOf? : Option (List Char) → Option UInt16
  | none | some [] => some 80
  | some ds =>
    let ds := ds.map fun c => UInt8.ofNat (if c.toNat < 128 then c.toNat else 0)
    (Decimal.digits? ds).bind fun n => if n < twoTo 16 then some (UInt16.ofNat n) else none

/-- What no host may hold. -/
def isForbiddenInHost (c : Char) : Bool := c ≤ ' ' || "\x7f#%/:<>?@\\^|".toList.contains c

/-- The host in lower case, escapes resolved. -/
def hostOf? (cs : List Char) : Option String :=
  let decoded := Utf8.decodeLossy (Percent.decode (bytesOf (String.ofList cs)))
  let host := decoded.toList.map Char.toLower
  let inner := if host.head? = some '[' && host.getLast? = some ']' then
      host.filter fun c => c != ':' && c != '[' && c != ']'
    else host
  if host.isEmpty || inner.any fun c => isForbiddenInHost c || c = '[' || c = ']' then none
  else some (String.ofList host)

/-! ## Paths and queries -/

/-- Bytes that are escaped in both paths and queries. -/
def isUnsafe (b : UInt8) : Bool :=
  b ≤ 0x20 || 0x7f ≤ b || b = 0x22 || b = 0x23 || b = 0x3c || b = 0x3e

def isUnsafeInPath (b : UInt8) : Bool :=
  isUnsafe b || b = 0x3f || b = 0x60 || b = 0x7b || b = 0x7d

def isUnsafeInQuery (b : UInt8) : Bool := isUnsafe b || b = 0x27

/-- Escapes some bytes of a text. -/
def escape (isUnsafe : UInt8 → Bool) (cs : List Char) : String :=
  Percent.encode isUnsafe (bytesOf (String.ofList cs))

/-- The pieces between slashes. -/
def segments : List Char → List (List Char)
  | [] => [[]]
  | c :: rest =>
    if isSlash c then [] :: segments rest
    else match segments rest with
      | [] => [[c]]
      | piece :: pieces => (c :: piece) :: pieces

/-- A segment with escaped dots written out. -/
def plainDots : List Char → List Char
  | '%' :: '2' :: c :: rest =>
    if c = 'e' || c = 'E' then '.' :: plainDots rest else '%' :: '2' :: plainDots (c :: rest)
  | c :: rest => c :: plainDots rest
  | [] => []
termination_by cs => cs.length

/-- Goes through segments.  One dot stays where it is and two go back; at the end both leave an empty
segment. -/
def walk (done : List (List Char)) : List (List Char) → List (List Char)
  | [] => done
  | s :: rest =>
    let end_ : List (List Char) := if rest.isEmpty then [[]] else []
    if plainDots s = ['.'] then walk (done ++ end_) rest
    else if plainDots s = ['.', '.'] then walk (done.dropLast ++ end_) rest
    else walk (done ++ [s]) rest

/-- What is asked for, given all that follows the host. -/
def targetOf (cs : List Char) : String :=
  let cs := cs.takeWhile (· != '#')
  let (path, query) := cs.span (· != '?')
  let walked := walk [] (segments (path.drop 1))
  "/" ++ "/".intercalate (walked.map (escape isUnsafeInPath)) ++
    (if query.isEmpty then "" else "?" ++ escape isUnsafeInQuery (query.drop 1))

/-- Where to connect. -/
def authority (u : Url) : String := u.host ++ ":" ++ toString u.port.toNat

/-- The whole address. -/
def toText (u : Url) : String := "http://" ++ u.authority ++ u.target

/-- Longer addresses are refused. -/
def lengthLimit : Nat := 65534

/-- The address that a text spells, if it is one of a plain web resource. -/
def ofText? (s : String) : Option Url := do
  let (scheme, rest) ← splitScheme? (significant s)
  if scheme ≠ "http" then none
  let rest := rest.dropWhile isSlash
  let isEnd (c : Char) : Bool := isSlash c || c = '?' || c = '#'
  let (host, port) := splitPort (dropUserInfo (rest.takeWhile fun c => !isEnd c))
  let host ← hostOf? host
  let port ← portOf? port
  let url : Url := { host, port, target := targetOf (rest.dropWhile fun c => !isEnd c) }
  if lengthLimit < url.toText.utf8ByteSize then none else pure url

end Url

end MapScout.Web
