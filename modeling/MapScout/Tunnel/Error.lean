import MapScout.Report
import MapScout.Span
import MapScout.Stock.Proxy
import MapScout.Text.Quoted
import MapScout.Tunnel.Frame
import MapScout.Web.Message
/-!
# Failures of the tunnel

Why a call could not be forwarded, and what its caller is told.
-/

namespace MapScout

inductive TunnelError where
  /-- The call does not say through which tunnel it is to go. -/
  | invalidProxyId (given : String)
  | tunnelNotFound (id : ProxyId)
  | timeout (id : ProxyId) (after : Span)
  | disconnected (id : ProxyId)
  | frame (cause : Base64.DecodeError)
  deriving DecidableEq, Repr

namespace TunnelError

/-- The name of the failure in reports. -/
def name : TunnelError → String
  | .invalidProxyId _ => "InvalidProxyId"
  | .tunnelNotFound _ => "TunnelNotFound"
  | .timeout .. => "Timeout"
  | .disconnected _ => "Disconnected"
  | .frame _ => "Frame"

def message : TunnelError → String
  | .invalidProxyId given => "Missing or malformed Proxy-Id header: " ++ Quoted.quote given
  | .tunnelNotFound id => "Tunnel not found: " ++ toString id.toNat
  | .timeout id after => "Tunnel " ++ toString id.toNat ++ " did not answer within " ++ after.toText
  | .disconnected id => "Tunnel " ++ toString id.toNat ++ " disconnected"
  | .frame cause => "Frame error: " ++ cause.frameMessage

/-- The reply to a caller whose call failed. -/
def reply : TunnelError → Web.Reply
  | .invalidProxyId _ => .text 400 "Internal error"
  | .tunnelNotFound _ => .text 400 "Internal Error"
  | .timeout .. => .text 504 "Gateway timeout"
  | .disconnected _ => .text 502 "Bad gateway"
  | .frame _ => .text 500 "Internal error"

instance : Reported TunnelError := ⟨name, message⟩

end TunnelError

end MapScout
