import MapScout.Tunnel.Frame
import MapScout.Web.Message
import MapScout.Web.Url
/-!
# Calls that an agent makes

An agent gets a request frame, makes the call it asks for and sends back a reply frame.  A frame that
cannot be read, a request that cannot be made and a call without an answer all give the same reply.
Redirects are reported and not followed.
-/

namespace MapScout

/-- A call as it goes out. -/
structure OutboundCall where
  url : Web.Url
  method : String
  userAgent : Option String
  contentType : Option String
  body : Bytes
  deriving DecidableEq, Repr, Inhabited

/-- The status of the reply to a failed call. -/
def failedStatus : UInt16 := 502

namespace TunnelRequest

/-- Only `GET`, in any case, stays what it is. -/
def callMethod (r : TunnelRequest) : String :=
  if r.method.map Char.toUpper = "GET" then "GET" else "POST"

/-- The value of a header that the frame gives, if it gives one; none if it cannot be sent. -/
def headerValue? (s : String) : Option (Option String) :=
  if s.isEmpty then some none
  else if (bytesOf s).all Web.isValueByte then some (some s) else none

/-- The call that a frame asks for, if it can be made. -/
def call? (r : TunnelRequest) : Option OutboundCall := do
  let body ← r.body.toOption
  let url ← Web.Url.ofText? r.target
  let userAgent ← headerValue? r.userAgent
  let contentType ← headerValue? r.contentType
  pure { url, method := r.callMethod, userAgent, contentType, body }

end TunnelRequest

namespace OutboundCall

/-- The call as the one who is called receives it. -/
def toRequest (c : OutboundCall) : Web.Request :=
  let header (name : String) (value : Option String) : List Web.Header :=
    value.toList.map fun v => Web.Header.received ⟨name, bytesOf v⟩
  .make c.method c.url.target
    (header "user-agent" c.userAgent ++ header "content-type" c.contentType) c.body

end OutboundCall

namespace AgentReply

/-- The reply to a call that failed. -/
def failed : AgentReply := .make failedStatus [] ""

/-- The reply that reports an answer. -/
def ofResponse (answer : Option Web.Response) : AgentReply :=
  match answer with
  | none => failed
  | some r =>
    .make (UInt16.ofNat r.status) r.body
      (((Web.header? "location" r.headers).bind Web.visibleText?).getD "")

end AgentReply

namespace Agent

/-- Makes the call that a request asks for. -/
def perform {σ : Type} (network : OutboundCall → σ → Option Web.Response × σ) (r : TunnelRequest)
    (s : σ) : AgentReply × σ :=
  match r.call? with
  | none => (.failed, s)
  | some c =>
    let (answer, s) := network c s
    (.ofResponse answer, s)

/-- Answers a frame. -/
def handle {σ : Type} (network : OutboundCall → σ → Option Web.Response × σ) (frame : Bytes)
    (s : σ) : AgentReply × σ :=
  match TunnelRequest.ofFrame? frame with
  | none => (.failed, s)
  | some r => perform network r s

end Agent

end MapScout
