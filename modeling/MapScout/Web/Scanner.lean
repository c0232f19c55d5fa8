import MapScout.Dispatch.Board
import MapScout.Dispatch.Error
import MapScout.Map.Object
import MapScout.Map.Place
import MapScout.Web.Coordinate
import MapScout.Web.Form
import MapScout.Web.Message
/-!
# The scanner's web service

Three paths: `/scan` takes the place to scan as a form, `/status` shows the sessions to whoever knows
the secret, and `/cache` shows the objects of some kinds.  A request is first turned into what it
asks for; everything wrong with it is found there.
-/

namespace MapScout.Scanner

open Web

def wrongMethod : String := "Wrong method"

def wrongFormat : String := "Wrong format"

def cacheUnavailable : String := "Failed to get MapObjects from DB"

/-- What a request asks for. -/
inductive Wish where
  | scan (place : Place)
  | status
  | cache (kinds : List ObjectKind)
  /-- Nothing: the reply is known. -/
  | settled (reply : Reply)
  deriving DecidableEq

def jsonReply (status : Nat) (j : Json) : Reply := { status, content := .json, body := j.render }

def scanReply (status : Nat) (r : ScanReply) : Reply := jsonReply status r.toJson

/-- The reply to a caller who does not know the secret. -/
def forbidden : Reply := jsonReply 403 (.fields [("error", .text "nope")])

/-- The reply to a query in which a field is given twice. -/
def repeatedField (name : String) : Reply :=
  .text 400 ("Failed to deserialize query string: duplicate field `" ++ name ++ "`")

def formType : String := "application/x-www-form-urlencoded"

/-- A form is what its first content type says is one. -/
def isForm (headers : List Header) : Bool :=
  ((header? "content-type" headers).bind visibleText?).any (·.startsWith formType)

/-- The place that a form asks to scan. -/
def placeOf? (fs : List (String × String)) : Option Place := do
  if (Form.repeated? ["lat", "lng"] fs).isSome then none
  let lat ← (Form.lookup "lat" fs).bind Coordinate.ofText?
  let lng ← (Form.lookup "lng" fs).bind Coordinate.ofText?
  pure { lat, lng }

/-- The kinds that a list of codes names. -/
def kindsOf? (codes : String) : Option (List ObjectKind) :=
  ((Form.split 0x2c (bytesOf codes)).map Utf8.decodeLossy).mapM fun code =>
    ((Decimal.below? 256 (Blank.trim code)).map UInt8.ofNat).bind ObjectKind.ofCode?

def scanWish (r : Request) : Wish :=
  if r.method = "POST" then
    let place := if isForm r.headers && r.body.length ≤ bodyLimit then placeOf? (Form.fields r.body)
      else none
    match place with
    | some place => .scan place
    | none => .settled (scanReply 400 (.failure wrongFormat))
  else .settled { scanReply 405 (.failure wrongMethod) with allow := ["POST"] }

/-- A query, unless one of the fields that count is given twice. -/
def withQuery (r : Request) (names : List String) (wish : List (String × String) → Wish) : Wish :=
  let fs := Form.fields (bytesOf (r.query.getD ""))
  match Form.repeated? names fs with
  | some name => .settled (repeatedField name)
  | none => wish fs

def isRead (method : String) : Bool := method = "GET" || method = "HEAD"

/-- The reply to a method other than reading. -/
def readOnly : Reply := { status := 405, allow := ["GET", "HEAD"] }

/-- An empty secret opens to nobody. -/
def statusWish (secret : String) (r : Request) : Wish :=
  if isRead r.method then
    withQuery r ["secret"] fun fs =>
      if secret = "" ∨ (Form.lookup "secret" fs).getD "" ≠ secret then .settled forbidden else .status
  else .settled readOnly

def cacheWish (r : Request) : Wish :=
  if isRead r.method then
    withQuery r ["types"] fun fs =>
      match Form.lookup "types" fs with
      | none | some "" => .cache ObjectKind.all
      | some codes =>
        match kindsOf? codes with
        | some kinds => .cache kinds
        | none => .settled (scanReply 400 (.failure wrongFormat))
  else .settled readOnly

/-- What a request asks for. -/
def wishOf (secret : String) (r : Request) : Wish :=
  if r.path = "/scan" then scanWish r
  else if r.path = "/status" then statusWish secret r
  else if r.path = "/cache" then cacheWish r
  else .settled { status := 404 }

/-- The reply to a scan. -/
def scanned : Except ScanError (List MapObject) → Reply
  | .ok objects => scanReply 200 (.success objects)
  | .error e => scanReply 200 (.failure e.publicMessage)

/-- The reply to a query for objects; none stands for a store that fails. -/
def cached : Option (List MapObject) → Reply
  | some objects => scanReply 200 (.success objects)
  | none => scanReply 200 (.failure cacheUnavailable)

/-- The reply to a status query. -/
def reported (report : StatusReport) : Reply := jsonReply 200 report.toJson

end MapScout.Scanner
