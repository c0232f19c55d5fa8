import MapScout.Text.Utf8
/-!
# Web messages

Requests and replies as far as the services look at them.
-/

namespace MapScout.Web

structure Header where
  name : String
  value : Bytes
  deriving DecidableEq, Repr

structure Request where
  method : String
  path : String
  /-- What follows the question mark, if there is one. -/
  query : Option String := none
  headers : List Header := []
  body : Bytes := []
  deriving Repr

/-- The byte of a header value is a tab or visible ASCII. -/
def isVisible (b : UInt8) : Bool := b = 9 || (0x20 ≤ b && b < 0x7f)

/-- The value of a header as text; none if it holds anything but tabs and visible ASCII. -/
def visibleText? (value : Bytes) : Option String :=
  if value.all isVisible then Utf8.decode? value else none

/-- The byte may stand in the value of a header. -/
def isValueByte (b : UInt8) : Bool := b = 9 || (0x20 ≤ b && b ≠ 0x7f)

/-- The byte may stand in the name of a header. -/
def isNameChar (c : Char) : Bool := c.isAlphanum || "!#$%&'*+-.^_\x60|~".toList.contains c

def isMarginByte (b : UInt8) : Bool := b = 9 || b = 0x20

/-- The value of a header as it is received: without tabs and spaces around it. -/
def trimValue (value : Bytes) : Bytes :=
  ((value.dropWhile isMarginByte).reverse.dropWhile isMarginByte).reverse

namespace Header

/-- The header as it is received. -/
def received (h : Header) : Header := { h with value := trimValue h.value }

def isWellFormed (h : Header) : Bool :=
  !h.name.isEmpty && h.name.all isNameChar && h.value.all isValueByte

end Header

/-- The value of the first header of a name, which is given in lower case. -/
def header? (name : String) (headers : List Header) : Option Bytes :=
  (headers.find? fun h => h.name.map Char.toLower == name).map (·.value)

namespace Request

/-- The parts of a request target.  A fragment does not count. -/
def splitTarget (target : String) : String × Option String :=
  let cs := target.toList.takeWhile (· != '#')
  let path := String.ofList (cs.takeWhile (· != '?'))
  match cs.dropWhile (· != '?') with
  | [] => (path, none)
  | _ :: query => (path, some (String.ofList query))

/-- A request to a target. -/
def make (method target : String) (headers : List Header) (body : Bytes) : Request :=
  let (path, query) := splitTarget target
  { method, path, query, headers, body }

/-- Path and query as they are asked for. -/
def target (r : Request) : String := r.path ++ r.query.elim "" fun q => "?" ++ q

/-- The text of the first header of a name; empty if there is none or it is not visible. -/
def headerText (r : Request) (name : String) : String :=
  ((header? name r.headers).bind visibleText?).getD ""

end Request

/-- A request as it is received. -/
def Request.received (r : Request) : Request := { r with headers := r.headers.map Header.received }

/-- An answer from anywhere on the web. -/
structure Response where
  status : Nat
  headers : List Header := []
  body : Bytes := []
  deriving DecidableEq, Repr, Inhabited

namespace Response

/-- Answers with this status have no body. -/
def isBodiless (status : Nat) : Bool := status = 101 || status = 204 || status = 304

/-- The answer as it is received; none if it is none that can be understood. -/
def received (r : Response) : Option Response :=
  if (r.status = 101 ∨ 200 ≤ r.status) ∧ r.status ≤ 999 ∧ r.headers.all Header.isWellFormed then
    some { r with headers := r.headers.map Header.received,
                  body := if isBodiless r.status then [] else r.body }
  else none

end Response

/-- What the body of a reply is. -/
inductive Content where
  | json
  | plain
  deriving DecidableEq, Repr

structure Reply where
  status : Nat
  /-- The methods that are allowed, where another was used. -/
  allow : List String := []
  content : Content := .plain
  body : Bytes := []
  deriving DecidableEq, Repr

namespace Reply

/-- The reply as it is sent to a request: without a body where only the head was asked for. -/
def sentFor (method : String) (r : Reply) : Reply :=
  if method = "HEAD" then { r with body := [] } else r

/-- The reply as an answer. -/
def toResponse (r : Reply) : Response := { status := r.status, body := r.body }

/-- A plain text. -/
def text (status : Nat) (s : String) : Reply := { status, body := bytesOf s }

end Reply

/-- Bodies longer than this are refused. -/
def bodyLimit : Nat := 2 * 1024 * 1024

end MapScout.Web
