import MapScout.Dispatch.Error
import MapScout.Dispatch.Session
import MapScout.Map.Sighting
import MapScout.Pool
/-!
# Tasks of the dispatcher

What goes on at the same time: scans, preloads and plain checkouts.  A task is data; where it waits
is its stage, and everything it needs to go on is in it.
-/

namespace MapScout

/-- Which of the at most two logins of a login procedure is under way. -/
inductive LoginTry where
  | first
  /-- The login that throws the rejected ticket away. -/
  | forced
  deriving DecidableEq, Repr

/-- What a login procedure waits for. -/
inductive LoginWait where
  /-- A token of the login gate. -/
  | token (try_ : LoginTry)
  /-- The answer that comes at `due`. -/
  | answer (try_ : LoginTry) (a : Answer) (due : Nat)
  deriving Repr

/-- What a scan waits for while it holds a session. -/
inductive ScanWait where
  | login (wait : LoginWait)
  /-- A token of the call gate. -/
  | callToken
  /-- The answer to the map call, which comes at `due`. -/
  | call (a : Answer) (due : Nat)
  deriving Repr

/-- Which of its attempts a scan is at. -/
inductive Attempt where
  | first
  /-- The attempt on another proxy, after the first one was found dead. -/
  | swapped
  /-- The map call made once more after an invalid platform request. -/
  | repeated
  deriving DecidableEq, Repr

/-- Why an attempt gave no payload. -/
inductive Failure where
  | deadline
  | client (cause : ClientError)
  deriving DecidableEq, Repr

inductive ScanStage where
  /-- Not begun; it begins at `start`. -/
  | planned (start : Nat)
  /-- Waiting for a pooled session, until `until_`. -/
  | checkout (until_ : Nat)
  /-- About to give up the wait for a pooled session. -/
  | leaving
  | working (session : Session) (attempt : Attempt) (wait : ScanWait)
  | finished (result : Except ScanError (List MapObject)) (at_ : Nat)

structure Scan where
  place : Place
  /-- When the whole scan has to end; set when it begins. -/
  deadline : Nat := 0
  stage : ScanStage

inductive PreloadStage where
  /-- About to build the next session. -/
  | next
  /-- Logging a session in, on its second proxy if `swapped`. -/
  | login (session : Session) (swapped : Bool) (deadline : Nat) (wait : LoginWait)
  | finished (at_ : Nat)

structure Preload where
  /-- How many sessions are still wanted. -/
  remaining : Nat
  /-- How many sessions were put into the pool. -/
  queued : Nat := 0
  stage : PreloadStage := .next

inductive CheckoutStage where
  | planned
  /-- Waiting for a pooled session, until `until_`. -/
  | waiting (until_ : Nat)
  /-- About to give up the wait. -/
  | leaving
  | finished (result : Except PoolError Session) (at_ : Nat)

structure Checkout where
  timeout : Nat
  stage : CheckoutStage := .planned

inductive Task where
  | scan (s : Scan)
  | preload (p : Preload)
  | checkout (c : Checkout)

/-- Whether a task has come to its end. -/
def Task.isFinished : Task → Bool
  | .scan { stage := .finished .., .. } => true
  | .preload { stage := .finished .., .. } => true
  | .checkout { stage := .finished .., .. } => true
  | _ => false

/-- A session at rest, for `span` milliseconds from its first turn on. -/
structure Cooling where
  session : Session
  span : Nat
  until_ : Option Nat := none

end MapScout
