import MapScout.Base64
import MapScout.Json.Record
/-!
# Tunnel frames

A broker sends its agent one request frame for each forwarded call and gets one reply frame back.
Bodies travel as base64 text.
-/

namespace MapScout

/-- A call that an agent is to make. -/
structure TunnelRequest where
  method : String
  /-- The URL to call. -/
  target : String
  /-- Empty when the caller gave none. -/
  contentType : String
  /-- Empty when the caller gave none. -/
  userAgent : String
  /-- The body in base64. -/
  data : String
  deriving DecidableEq, Repr, Inhabited

namespace TunnelRequest

def make (method target contentType userAgent : String) (body : Bytes) : TunnelRequest :=
  ⟨method, target, contentType, userAgent, Base64.encodeText body⟩

def body (r : TunnelRequest) : Except Base64.DecodeError Bytes := Base64.decode (bytesOf r.data)

def fieldNames : List String := ["meth", "host", "cont", "user", "data"]

def toJson (r : TunnelRequest) : Json :=
  .fields [("meth", .text r.method), ("host", .text r.target), ("cont", .text r.contentType),
    ("user", .text r.userAgent), ("data", .text r.data)]

def ofJson? (j : Json) : Option TunnelRequest := do
  let r ← j.record? fieldNames
  let method ← r.required "meth" Json.text?
  let target ← r.required "host" Json.text?
  let contentType ← r.required "cont" Json.text?
  let userAgent ← r.required "user" Json.text?
  let data ← r.required "data" Json.text?
  pure { method, target, contentType, userAgent, data }

/-- The frame of a request. -/
def frame (r : TunnelRequest) : Bytes := r.toJson.render

/-- The request in a frame. -/
def ofFrame? (bs : Bytes) : Option TunnelRequest := (Json.ofBytes? bs).bind ofJson?

instance : Json.Form TunnelRequest := ⟨toJson, ofJson?⟩

end TunnelRequest

/-- The answer to a call. -/
structure AgentReply where
  status : UInt16
  /-- The body in base64. -/
  response : String
  /-- Where a redirect points, empty otherwise. -/
  location : String := ""
  deriving DecidableEq, Repr, Inhabited

namespace AgentReply

def make (status : UInt16) (body : Bytes) (location : String) : AgentReply :=
  ⟨status, Base64.encodeText body, location⟩

def body (r : AgentReply) : Except Base64.DecodeError Bytes := Base64.decode (bytesOf r.response)

def fieldNames : List String := ["status", "response", "location"]

def toJson (r : AgentReply) : Json :=
  .fields [("status", .nat r.status.toNat), ("response", .text r.response),
    ("location", .text r.location)]

def ofJson? (j : Json) : Option AgentReply := do
  let r ← j.record? fieldNames
  let status ← r.required "status" Json.uint16?
  let response ← r.required "response" Json.text?
  let location ← r.optional "location" Json.text? ""
  pure { status, response, location }

/-- The frame of a reply. -/
def frame (r : AgentReply) : Bytes := r.toJson.render

/-- The reply in a frame. -/
def ofFrame? (bs : Bytes) : Option AgentReply := (Json.ofBytes? bs).bind ofJson?

instance : Json.Form AgentReply := ⟨toJson, ofJson?⟩

end AgentReply

/-- What to say of a body that is not base64. -/
def Base64.DecodeError.frameMessage (e : Base64.DecodeError) : String :=
  "Invalid base64 body: " ++ e.message

end MapScout
