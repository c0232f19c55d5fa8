import MapScout.Json.Record
/-!
# Game accounts

An account serves one session at a time.  A banned account is unusable for good, a flagged one until
somebody solves its challenge by hand.
-/

namespace MapScout

structure Account where
  username : String
  password : String
  /-- The service that authenticates the account. -/
  provider : String
  /-- Claimed by a session. -/
  used : Bool := false
  banned : Bool := false
  /-- Waiting for a challenge to be solved. -/
  flagged : Bool := false
  deriving DecidableEq, Repr, Inhabited

namespace Account

/-- An account that must never be handed out again. -/
def isUnusable (a : Account) : Bool := a.banned || a.flagged

/-- An account that can be claimed. -/
def isFree (a : Account) : Bool := !a.used && !a.isUnusable

def fieldNames : List String :=
  ["username", "password", "provider", "used", "banned", "captcha_flagged"]

def toJson (a : Account) : Json :=
  .fields [("username", .text a.username), ("password", .text a.password),
    ("provider", .text a.provider), ("used", .bool a.used), ("banned", .bool a.banned),
    ("captcha_flagged", .bool a.flagged)]

/-- Reads an account; the three marks may be left out. -/
def ofJson? (j : Json) : Option Account := do
  let r ← j.record? fieldNames
  let username ← r.required "username" Json.text?
  let password ← r.required "password" Json.text?
  let provider ← r.required "provider" Json.text?
  let used ← r.optional "used" Json.bool? false
  let banned ← r.optional "banned" Json.bool? false
  let flagged ← r.optional "captcha_flagged" Json.bool? false
  pure { username, password, provider, used, banned, flagged }

instance : Json.Form Account := ⟨toJson, ofJson?⟩

end Account

end MapScout
