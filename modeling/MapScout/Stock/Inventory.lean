import MapScout.Stock.Account
import MapScout.Stock.Proxy
/-!
# Inventory

The accounts and proxies there are.  A claim marks a record as taken and hands out a copy, a release
takes the mark off, and saving a copy overwrites the mark but can only add bans, flags and deaths.
Accounts are claimed in the order in which they were stored, proxies by ascending number.
-/

namespace MapScout

structure Inventory where
  accounts : List Account := []
  /-- By ascending number, one for each number. -/
  proxies : List Proxy := []
  /-- The greatest number a proxy was ever stored under; zero if there was none. -/
  maxProxyId : ProxyId := 0
  deriving DecidableEq, Repr, Inhabited

/-- What a maintenance sweep found. -/
structure SweepReport where
  removedProxies : Nat
  bannedAccounts : Nat
  flaggedAccounts : Nat
  deriving DecidableEq, Repr

namespace Inventory

/-- Changes the first item that satisfies a condition, if there is one. -/
def modifyFirst {α : Type} (p : α → Bool) (f : α → α) : List α → List α
  | [] => []
  | a :: rest => if p a then f a :: rest else a :: modifyFirst p f rest

/-! ## Accounts -/

/-- The first account stored under a name. -/
def account? (i : Inventory) (username : String) : Option Account :=
  i.accounts.find? (·.username == username)

/-- Claims the first free account. -/
def claimAccount? (i : Inventory) : Option (Account × Inventory) :=
  (i.accounts.find? Account.isFree).map fun a =>
    ({ a with used := true },
     { i with accounts := modifyFirst Account.isFree (fun a => { a with used := true }) i.accounts })

/-- Changes the first account stored under a name; none if there is no such account. -/
def modifyAccount? (i : Inventory) (username : String) (f : Account → Account) : Option Inventory :=
  (i.account? username).map fun _ =>
    { i with accounts := modifyFirst (·.username == username) f i.accounts }

/-- Takes the claim off an account. -/
def releaseAccount? (i : Inventory) (username : String) : Option Inventory :=
  i.modifyAccount? username fun a => { a with used := false }

/-- Stores the marks of a copy.  Bans and flags are only ever added. -/
def saveAccount? (i : Inventory) (copy : Account) : Option Inventory :=
  i.modifyAccount? copy.username fun a =>
    { a with used := copy.used, banned := a.banned || copy.banned,
             flagged := a.flagged || copy.flagged }

/-- Stores new accounts, leaving out names that are known, and counts those stored. -/
def addAccounts (i : Inventory) : List Account → Nat × Inventory
  | [] => (0, i)
  | a :: rest =>
    if i.accounts.any (·.username == a.username) then i.addAccounts rest
    else
      let (n, i') := { i with accounts := i.accounts ++ [a] }.addAccounts rest
      (n + 1, i')

/-- The accounts that a file lists. -/
def accountsOfFile? (contents : Bytes) : Option (List Account) :=
  (Json.ofFile? contents).bind (Json.list? Account.ofJson?)

/-! ## Proxies -/

def proxy? (i : Inventory) (id : ProxyId) : Option Proxy := i.proxies.find? (·.id == id)

/-- Claims the free proxy with the least number. -/
def claimProxy? (i : Inventory) : Option (Proxy × Inventory) :=
  (i.proxies.find? Proxy.isFree).map fun p =>
    ({ p with inUse := true },
     { i with proxies := modifyFirst Proxy.isFree (fun p => { p with inUse := true }) i.proxies })

/-- Changes the proxy with a number; none if there is no such proxy. -/
def modifyProxy? (i : Inventory) (id : ProxyId) (f : Proxy → Proxy) : Option Inventory :=
  (i.proxy? id).map fun _ => { i with proxies := modifyFirst (·.id == id) f i.proxies }

/-- Takes the claim off a proxy. -/
def releaseProxy? (i : Inventory) (id : ProxyId) : Option Inventory :=
  i.modifyProxy? id fun p => { p with inUse := false }

/-- Stores the marks of a copy.  A dead proxy stays dead. -/
def saveProxy? (i : Inventory) (copy : Proxy) : Option Inventory :=
  i.modifyProxy? copy.id fun p => { p with inUse := copy.inUse, dead := p.dead || copy.dead }

/-- Whether a proxy is dead.  One whose record is gone counts as dead. -/
def isProxyDead (i : Inventory) (id : ProxyId) : Bool := (i.proxy? id).all (·.dead)

/-- Puts a proxy in its place by number, replacing the one that has the number. -/
def insertProxy (p : Proxy) : List Proxy → List Proxy
  | [] => [p]
  | q :: rest =>
    if p.id < q.id then p :: q :: rest
    else if p.id = q.id then p :: rest
    else q :: insertProxy p rest

/-- Stores a proxy, replacing the one that has its number. -/
def addProxy (i : Inventory) (p : Proxy) : Inventory :=
  { i with proxies := insertProxy p i.proxies, maxProxyId := max i.maxProxyId p.id }

/-- Forgets all proxies, but not which numbers they had. -/
def dropProxies (i : Inventory) : Inventory := { i with proxies := [] }

/-! ## Maintenance -/

/-- Removes dead proxies and counts the unusable accounts. -/
def sweep (i : Inventory) : SweepReport × Inventory :=
  let live := i.proxies.filter fun p => !p.dead
  ({ removedProxies := i.proxies.length - live.length,
     bannedAccounts := i.accounts.countP (·.banned),
     flaggedAccounts := i.accounts.countP (·.flagged) },
   { i with proxies := live })

end Inventory

end MapScout
