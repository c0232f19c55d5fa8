import MapScout.Dispatch.Client
import MapScout.Stock.Account
import MapScout.Map.Place
/-!
# Sessions

An account on a proxy, with its client.  A session that has to log in afresh ignores that
its client is logged in.
-/

namespace MapScout

structure Session where
  account : Account
  proxy : Proxy
  /-- The next login has to throw away the ticket that the client holds. -/
  mustLogin : Bool := false
  client : Client
  deriving Repr, Inhabited

namespace Session

def username (s : Session) : String := s.account.username

def isLoggedIn (s : Session) : Bool := !s.mustLogin && s.client.isLoggedIn

/-- No longer of use: the account is unusable or the proxy dead. -/
def isSpent (s : Session) : Bool := s.account.isUnusable || s.proxy.dead

/-- Binds the session to another proxy. -/
def bind (s : Session) (p : Proxy) : Session := { s with proxy := p }

/-- Asks for a fresh login. -/
def requireLogin (s : Session) : Session := { s with mustLogin := true }

/-- The account turns out to be banned. -/
def ban (s : Session) : Session := { s with account := { s.account with banned := true } }

/-- The account turns out to have a challenge to be solved. -/
def flag (s : Session) : Session := { s with account := { s.account with flagged := true } }

/-- The proxy turns out to be dead. -/
def loseProxy (s : Session) : Session := { s with proxy := { s.proxy with dead := true } }

/-- Takes all marks off that make a session useless. -/
def clear (s : Session) : Session :=
  { s with account := { s.account with banned := false, flagged := false },
           proxy := { s.proxy with dead := false } }

/-- A session in diagnostics. -/
def describe (s : Session) : String :=
  "Session \x7b account: " ++ Quoted.quote s.username ++ ", proxy_id: " ++
    toString s.proxy.id.toNat ++ ", force_login: " ++ toString s.mustLogin ++ " \x7d"

end Session

/-- An operation of a client, with the moment at which it began. -/
inductive Operation where
  | created (account : String) (at_ : Nat)
  | moved (account : String) (place : Place) (at_ : Nat)
  | loggedIn (account : String) (proxy : ProxyId) (forced : Bool) (at_ : Nat)
  | mapped (account : String) (proxy : ProxyId) (at_ : Nat)
  deriving DecidableEq, Repr

end MapScout
