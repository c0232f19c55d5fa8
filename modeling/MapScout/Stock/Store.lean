import MapScout.Stock.Error
import MapScout.Stock.Inventory
import MapScout.Stock.ObjectCache
/-!
# Store

The inventory and the object cache behind calls that may fail.  A store on disk can refuse any call;
here the refusals that lie ahead are part of the state, so that a run with a faulty store is as
definite as one without.
-/

namespace MapScout

/-- The calls that a store may refuse. -/
inductive StoreCall where
  | claimAccount
  | releaseAccount
  | saveAccount
  | claimProxy
  | releaseProxy
  | saveProxy
  | readProxy
  | addProxy
  | maxProxyId
  | dropProxies
  | addObjects
  | getObjects
  deriving DecidableEq, Repr

namespace StoreCall

/-- The name of a call in fault reports. -/
def name : StoreCall → String
  | .claimAccount => "get_account"
  | .releaseAccount => "return_account"
  | .saveAccount => "update_account"
  | .claimProxy => "get_proxy"
  | .releaseProxy => "return_proxy"
  | .saveProxy => "update_proxy"
  | .readProxy => "is_proxy_dead"
  | .addProxy => "add_proxy"
  | .maxProxyId => "max_proxy_id"
  | .dropProxies => "drop_proxies"
  | .addObjects => "add_map_objects"
  | .getObjects => "get_map_objects"

def all : List StoreCall :=
  [.claimAccount, .releaseAccount, .saveAccount, .claimProxy, .releaseProxy, .saveProxy, .readProxy,
    .addProxy, .maxProxyId, .dropProxies, .addObjects, .getObjects]

def ofName? (s : String) : Option StoreCall := all.find? (·.name == s)

end StoreCall

structure Store where
  inventory : Inventory := {}
  objects : ObjectCache := []
  /-- How many calls of each kind will be refused. -/
  faults : StoreCall → Nat := fun _ => 0
  deriving Inhabited

namespace Store

/-- Announces that the next `times` calls will be refused. -/
def failNext (s : Store) (c : StoreCall) (times : Nat) : Store :=
  { s with faults := fun d => if d = c then s.faults d + times else s.faults d }

/-- Makes a call, unless it is to be refused. -/
def guarded {α : Type} (s : Store) (c : StoreCall) (act : Store → Except InventoryError α × Store) :
    Except InventoryError α × Store :=
  if s.faults c = 0 then act s
  else
    (.error (.storage ("injected " ++ c.name)),
      { s with faults := fun d => if d = c then s.faults d - 1 else s.faults d })

/-- A call that changes the inventory or finds no record to change. -/
def change (s : Store) (c : StoreCall) (missing : InventoryError) (f : Inventory → Option Inventory) :
    Except InventoryError Unit × Store :=
  s.guarded c fun s =>
    match f s.inventory with
    | none => (.error missing, s)
    | some i => (.ok (), { s with inventory := i })

/-- A call that claims a record. -/
def claim {α : Type} (s : Store) (c : StoreCall) (missing : InventoryError)
    (f : Inventory → Option (α × Inventory)) : Except InventoryError α × Store :=
  s.guarded c fun s =>
    match f s.inventory with
    | none => (.error missing, s)
    | some (a, i) => (.ok a, { s with inventory := i })

def claimAccount (s : Store) : Except InventoryError Account × Store :=
  s.claim .claimAccount .noAccountAvailable Inventory.claimAccount?

def releaseAccount (s : Store) (username : String) : Except InventoryError Unit × Store :=
  s.change .releaseAccount (.unknownAccount username) (·.releaseAccount? username)

def saveAccount (s : Store) (a : Account) : Except InventoryError Unit × Store :=
  s.change .saveAccount (.unknownAccount a.username) (·.saveAccount? a)

def claimProxy (s : Store) : Except InventoryError Proxy × Store :=
  s.claim .claimProxy .noProxyAvailable Inventory.claimProxy?

def releaseProxy (s : Store) (id : ProxyId) : Except InventoryError Unit × Store :=
  s.change .releaseProxy (.unknownProxy id) (·.releaseProxy? id)

def saveProxy (s : Store) (p : Proxy) : Except InventoryError Unit × Store :=
  s.change .saveProxy (.unknownProxy p.id) (·.saveProxy? p)

def isProxyDead (s : Store) (id : ProxyId) : Except InventoryError Bool × Store :=
  s.guarded .readProxy fun s => (.ok (s.inventory.isProxyDead id), s)

def addProxy (s : Store) (p : Proxy) : Except InventoryError Unit × Store :=
  s.guarded .addProxy fun s => (.ok (), { s with inventory := s.inventory.addProxy p })

def maxProxyId (s : Store) : Except InventoryError ProxyId × Store :=
  s.guarded .maxProxyId fun s => (.ok s.inventory.maxProxyId, s)

def dropProxies (s : Store) : Except InventoryError Unit × Store :=
  s.guarded .dropProxies fun s => (.ok (), { s with inventory := s.inventory.dropProxies })

def sweep (s : Store) : SweepReport × Store :=
  let (report, i) := s.inventory.sweep
  (report, { s with inventory := i })

def addAccounts (s : Store) (accounts : List Account) : Nat × Store :=
  let (n, i) := s.inventory.addAccounts accounts
  (n, { s with inventory := i })

def addObjects (s : Store) (objects : List MapObject) : Except InventoryError Unit × Store :=
  s.guarded .addObjects fun s =>
    (.ok (), { s with objects := ObjectCache.insertAll objects s.objects })

/-- The objects of the given kinds that are there at unix second `now`. -/
def getObjects (s : Store) (kinds : List ObjectKind) (now : Int) :
    Except InventoryError (List MapObject) × Store :=
  s.guarded .getObjects fun s => (.ok (s.objects.visible kinds now), s)

end Store

end MapScout
