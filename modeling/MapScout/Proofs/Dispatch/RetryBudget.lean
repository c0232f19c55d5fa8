import Mathlib.Data.List.Chain
import MapScout.Proofs.Dispatch.Run
import MapScout.Proofs.Dispatch.ScanFlow

/-!
# The retries of one scan

A scan swaps its proxy at most once and repeats its map call at most once, so that it makes at
most three map calls.  A login whose ticket was rejected is repeated once in each attempt that
logs in.  The login that follows a swap has a retry of its own, and so a scan can come to two
forced logins.
-/

namespace MapScout

/-- What a scan does, and what it is told, in the course of its attempts. -/
inductive Deed where
  /-- It starts a login, with a fresh ticket if `forced`. -/
  | login (attempt : Attempt) (try_ : LoginTry) (forced : Bool)
  /-- It makes a map call. -/
  | call (attempt : Attempt)
  /-- A login or a map call has been answered. -/
  | told (failure : Option ClientError)
  /-- It takes another proxy. -/
  | swap
  /-- It lines up for the map call once more. -/
  | again
  deriving DecidableEq, Repr

namespace Deed

def isCall : Deed → Bool
  | call _ => true
  | _ => false

def isRelogin : Deed → Bool
  | login _ .forced _ => true
  | _ => false

/-- A login made in an attempt because a ticket was rejected. -/
def isReloginOf (attempt : Attempt) : Deed → Bool
  | login a .forced _ => a = attempt
  | _ => false

/-- What comes right before a deed.  A login made because a ticket was rejected throws the ticket
away. -/
def Follows (d : Deed) : Deed → Prop
  | login _ .forced forced => forced = true ∧ d = told (some .invalidAuthToken)
  | swap => d = told (some .proxyDead)
  | again => d = told (some .invalidPlatformRequest)
  | _ => True

end Deed

namespace ScanStage

/-- What a scan is told at the beginning of a turn. -/
def news (now : Nat) : ScanStage → List Deed
  | .working _ _ wait =>
      match wait.answer? with
      | some (a, due) => if due ≤ now then [.told a.failure] else []
      | none => []
  | _ => []

/-- What a scan does by going from one stage to another. -/
def doings : ScanStage → ScanStage → List Deed
  | .working s attempt (.login (.token t)), .working _ _ (.login (.answer ..)) =>
      [.login attempt t s.mustLogin]
  | .working _ attempt .callToken, .working _ _ (.call ..) => [.call attempt]
  | .working _ .first _, .working _ .swapped _ => [.swap]
  | .working _ .first _, .working _ .repeated _ => [.again]
  | .working _ .swapped _, .working _ .repeated _ => [.again]
  | _, _ => []

def deeds (now : Nat) (before after : ScanStage) : List Deed :=
  before.news now ++ before.doings after

end ScanStage

namespace World

def deedsIn (id : Nat) (w : World) (e : Event) : List Deed :=
  match e, w.task? id, (w.happen e).task? id with
  | .turn (.task i), some (.scan before), some (.scan after) =>
      if i = id then before.stage.deeds w.now after.stage else []
  | _, _, _ => []

def deeds (id : Nat) : World → List Event → List Deed
  | _, [] => []
  | w, e :: events => w.deedsIn id e ++ (w.happen e).deeds id events

variable {w : World} {id : Nat} {scan : Scan}

/-- In one event a scan goes on as one turn makes it, and nothing but its own turn makes it. -/
theorem happen_scan (hscan : w.task? id = some (.scan scan)) (e : Event) :
    ∃ scan', (w.happen e).task? id = some (.scan scan') ∧
      (w.deedsIn id e = [] ∧ scan'.stage = scan.stage ∨
        scan.stage.Next w.now scan'.stage ∧
          w.deedsIn id e = scan.stage.deeds w.now scan'.stage) := by
  have hspawned (t : Task) : (w.spawn t).2.task? id = some (.scan scan) := by
    have h : (w.tasks ++ [(w.nextId, t)]).lookup id = some (.scan scan) := by
      rw [List.lookup_append, show w.tasks.lookup id = _ from hscan]
      rfl
    exact h
  cases e with
  | turn o =>
      by_cases ho : o = .task id
      · subst ho
        let w' := w.beginTurn (.task id)
        obtain ⟨scan', hscan', hnext⟩ := (scanTurn_reaches (w := w') hscan).next
        have hhappen : (w.happen (.turn (.task id))).task? id = some (.scan scan') := by
          rw [happen, turn_scan (w := w') hscan, hscan']
        refine ⟨scan', hhappen, Or.inr ⟨hnext, ?_⟩⟩
        unfold deedsIn
        rw [hscan, hhappen]
        exact if_pos rfl
      · have hscan' : (w.happen (.turn o)).task? id = some (.scan scan) :=
          (task?_turn ho).trans hscan
        refine ⟨scan, hscan', Or.inl ⟨?_, rfl⟩⟩
        unfold deedsIn
        rw [hscan, hscan']
        cases o with
        | task i => exact if_neg fun hi => ho (by rw [hi])
        | cooling i => rfl
        | pool => rfl
        | gate g => rfl
  | pass now => exact ⟨scan, hscan, Or.inl ⟨rfl, rfl⟩⟩
  | readWall => exact ⟨scan, hscan, Or.inl ⟨rfl, rfl⟩⟩
  | scan place start => exact ⟨scan, hspawned _, Or.inl ⟨rfl, rfl⟩⟩
  | preload count => exact ⟨scan, hspawned _, Or.inl ⟨rfl, rfl⟩⟩
  | addProxy i => exact ⟨scan, hscan, Or.inl ⟨rfl, rfl⟩⟩
  | loseProxy i => exact ⟨scan, hscan, Or.inl ⟨rfl, rfl⟩⟩
  | sweep => exact ⟨scan, hscan, Or.inl ⟨rfl, rfl⟩⟩

end World

/-! ## What is left -/

/-- What a scan can do only so often. -/
inductive Retry where
  | swap
  | again
  | call
  | relogin (attempt : Attempt)
  deriving DecidableEq

/-- A deed is one of those that can be done only so often. -/
def Retry.covers : Retry → Deed → Bool
  | swap, d => d == .swap
  | again, d => d == .again
  | call, d => d.isCall
  | relogin attempt, d => d.isReloginOf attempt

def ScanWait.mayRelogin : ScanWait → Bool
  | .login (.answer .forced ..) => false
  | .login _ => true
  | _ => false

def ScanWait.mayCall : ScanWait → Bool
  | .call .. => false
  | _ => true

/-- How often something can still be done in an attempt that waits, and after it. -/
def Retry.leftIn (attempt : Attempt) (wait : ScanWait) : Retry → Nat
  | swap => if attempt = .first then 1 else 0
  | again => if attempt = .repeated then 0 else 1
  | call =>
      (match attempt with
        | .first => 2
        | .swapped => 1
        | .repeated => 0) + if wait.mayCall then 1 else 0
  | relogin a =>
      if attempt = a then if wait.mayRelogin then 1 else 0
      else if attempt = .first ∧ a = .swapped then 1
      else 0

namespace ScanStage

def left (k : Retry) : ScanStage → Nat
  | .finished .. => 0
  | .working _ attempt wait => k.leftIn attempt wait
  | _ => k.leftIn .first (.login (.token .first))

/-- A scan that is about to repeat its login has just been told to. -/
def Heeds (last : Deed) : ScanStage → Prop
  | .working s _ (.login (.token .forced)) =>
      s.mustLogin = true ∧ last = .told (some .invalidAuthToken)
  | _ => True

variable {now : Nat} {stage stage' : ScanStage}

/-- Nothing is heard before the answer has come. -/
theorem news_of_isDue (h : stage.isDue now = false) : stage.news now = [] := by
  unfold news
  split
  · rename_i s attempt wait
    split
    · rename_i a due hanswer
      have hdue : ¬ due ≤ now := by simpa [isDue, hanswer] using h
      exact if_neg hdue
    · rfl
  · rfl

theorem news_of_isAnswered {s : Session} {attempt : Attempt} {wait : ScanWait} {a : Answer}
    (h : wait.IsAnswered now a) : (working s attempt wait).news now = [.told a.failure] := by
  obtain ⟨due, hdue, hanswer⟩ := h
  unfold news
  dsimp only
  rw [hanswer]
  exact if_pos hdue

theorem countP_news {p : Deed → Bool} (hp : ∀ failure, p (.told failure) = false) :
    (stage.news now).countP p = 0 := by
  unfold news
  split
  · split
    · split
      · simp [hp]
      · rfl
    · rfl
  · rfl

/-- A scan that waits on does nothing. -/
theorem doings_self (stage : ScanStage) : stage.doings stage = [] := by
  unfold doings
  split
  all_goals simp_all

theorem doings_finished (result : Except ScanError (List MapObject)) (at_ : Nat) :
    stage.doings (.finished result at_) = [] := by
  unfold doings
  split
  all_goals simp_all

/-- A second attempt is one on another proxy. -/
theorem doings_swap {s s' : Session} {wait wait' : ScanWait} {a : Answer}
    (h : wait.IsAnswered now a) :
    (working s .first wait).doings (.working s' .swapped wait') = [.swap] := by
  obtain ⟨due, -, hanswer⟩ := h
  cases wait with
  | login wait => cases wait with
    | token t => cases hanswer
    | answer t a due => rfl
  | callToken => cases hanswer
  | call a due => rfl

/-- A repeated attempt is one more map call. -/
theorem doings_again {s s' : Session} {attempt : Attempt} {wait : ScanWait} {a : Answer}
    (h : wait.IsAnswered now a) (hattempt : attempt ≠ .repeated) :
    (working s attempt wait).doings (.working s' .repeated .callToken) = [.again] := by
  obtain ⟨due, -, hanswer⟩ := h
  cases attempt with
  | first => cases wait with
    | login wait => cases wait <;> rfl
    | callToken => cases hanswer
    | call a due => rfl
  | swapped => cases wait with
    | login wait => cases wait <;> rfl
    | callToken => cases hanswer
    | call a due => rfl
  | repeated => exact absurd rfl hattempt

/-- An answer within an attempt makes a scan go on to its map call, or nowhere. -/
theorem doings_answered {s s' : Session} {attempt : Attempt} {wait wait' : ScanWait} {a : Answer}
    (h : wait.IsAnswered now a) :
    (working s attempt wait).doings (.working s' attempt wait') = [] := by
  obtain ⟨due, -, hanswer⟩ := h
  cases wait with
  | login wait => cases wait with
    | token t => cases hanswer
    | answer t a due => cases attempt <;> rfl
  | callToken => cases hanswer
  | call a due => cases attempt <;> rfl

theorem doings_of_isAsking (h : stage.isAsking) : stage.doings stage' = [] := by
  cases stage with
  | checkout until_ => rfl
  | leaving => rfl
  | _ => cases h

/-- A session that is logged in leaves no more to be done in an attempt than one that is not. -/
theorem leftIn_firstWait (k : Retry) (s : Session) (attempt : Attempt) :
    k.leftIn attempt s.firstWait ≤ k.leftIn attempt (.login (.token .first)) := by
  rw [Session.firstWait]
  split
  · cases k with
    | relogin a =>
        unfold Retry.leftIn
        by_cases h : attempt = a <;> simp [h, ScanWait.mayRelogin]
    | _ => exact Nat.le_refl _
  · exact Nat.le_refl _

/-- No step does more of anything than it gives up. -/
theorem Next.pays (h : stage.Next now stage') (k : Retry) :
    (stage.deeds now stage').countP k.covers + stage'.left k ≤ stage.left k := by
  have hnews : (stage.news now).countP k.covers = 0 := by
    apply countP_news
    intro failure
    cases k <;> rfl
  rw [deeds, List.countP_append, hnews, Nat.zero_add]
  cases h with
  | stay h =>
      rw [doings_self]
      simp
  | finish result at_ =>
      rw [doings_finished]
      simp [left]
  | ask start until_ => simp [doings, left]
  | leave until_ => simp [doings, left]
  | begin h s =>
      rw [doings_of_isAsking h]
      cases stage with
      | checkout until_ => simpa [left] using leftIn_firstWait k s .first
      | leaving => simpa [left] using leftIn_firstWait k s .first
      | _ => cases h
  | login s attempt t =>
      cases k with
      | relogin a =>
        by_cases h : attempt = a <;> cases t <;>
          simp [doings, left, Retry.covers, Deed.isReloginOf, Retry.leftIn, ScanWait.mayRelogin, h]
      | _ => simp [doings, left, Retry.covers, Deed.isCall, Retry.leftIn, ScanWait.mayCall]
  | reject s attempt hdue h =>
      cases k <;> simp [doings, left, Retry.leftIn, ScanWait.mayRelogin, ScanWait.mayCall]
  | enter s attempt t hdue h =>
      cases k with
      | relogin a =>
        by_cases h : attempt = a <;>
          simp [doings, left, Retry.leftIn, ScanWait.mayRelogin, h]
      | _ => simp [doings, left, Retry.leftIn, ScanWait.mayCall]
  | call s attempt =>
      cases k <;> simp [doings, left, Retry.covers, Retry.leftIn, ScanWait.mayCall, Deed.isCall,
        Deed.isReloginOf, ScanWait.mayRelogin]
      omega
  | swap s s' ha h =>
      rw [doings_swap ha]
      have := leftIn_firstWait k s' .swapped
      apply Nat.le_trans (Nat.add_le_add_left this _)
      cases k with
      | relogin a =>
         cases a <;> simp [left, Retry.covers, Retry.leftIn, ScanWait.mayRelogin, Deed.isReloginOf]
      | _ => simp [left, Retry.covers, Retry.leftIn, ScanWait.mayCall, Deed.isCall]
  | @again s s' attempt wait a ha h hattempt =>
      rw [doings_again ha hattempt]
      cases attempt with
      | repeated => exact absurd rfl hattempt
      | _ =>
        cases k with
        | relogin a =>
          cases a <;>
            simp [left, Retry.covers, Retry.leftIn, ScanWait.mayRelogin, Deed.isReloginOf]
        | _ =>
          simp [left, Retry.covers, Retry.leftIn, Deed.isCall,
            show ScanWait.callToken.mayCall from rfl]
          try omega

/-- An attempt does not begin with a repeated login. -/
theorem heeds_firstWait (s : Session) (attempt : Attempt) (last : Deed) :
    (working s attempt s.firstWait).Heeds last := by
  rw [Session.firstWait]
  split <;> trivial

/-- What a scan is told allows any deed to be its first thereafter that has the right cause. -/
theorem Next.follows {last : Deed} {rest : List Deed} (h : stage.Next now stage')
    (hlast : stage.Heeds last)
    (hrest : ∀ last', stage'.Heeds last' → (last' :: rest).IsChain Deed.Follows) :
    (last :: (stage.deeds now stage' ++ rest)).IsChain Deed.Follows := by
  have htold {s : Session} {attempt : Attempt} {wait : ScanWait} {a : Answer}
      (ha : wait.IsAnswered now a) {doings : List Deed}
      (h : (Deed.told a.failure :: (doings ++ rest)).IsChain Deed.Follows) :
      (last :: ((working s attempt wait).news now ++ doings ++ rest)).IsChain Deed.Follows := by
    rw [news_of_isAnswered ha]
    exact .cons_cons trivial h
  rw [deeds]
  cases h with
  | stay h =>
      rw [news_of_isDue h, doings_self]
      exact hrest last hlast
  | finish result at_ =>
      rw [doings_finished, List.append_nil]
      unfold news
      split
      · split
        · split
          · exact .cons_cons trivial (hrest _ trivial)
          · exact hrest last trivial
        · exact hrest last trivial
      · exact hrest last trivial
  | ask start until_ => exact hrest last trivial
  | leave until_ => exact hrest last trivial
  | begin h s =>
      rw [news_of_isDue (by cases stage <;> first | rfl | cases h), doings_of_isAsking h]
      exact hrest last (heeds_firstWait s _ _)
  | login s attempt t =>
      refine .cons_cons ?_ (hrest _ trivial)
      cases t with
      | first => trivial
      | forced => exact hlast
  | @reject s attempt a due hdue h =>
      have ha : (ScanWait.login (.answer .first a due)).IsAnswered now a := ⟨due, hdue, rfl⟩
      rw [doings_answered ha]
      exact htold ha (hrest _ ⟨rfl, by rw [h]⟩)
  | @enter s attempt t a due hdue h =>
      have ha : (ScanWait.login (.answer t a due)).IsAnswered now a := ⟨due, hdue, rfl⟩
      rw [doings_answered ha]
      exact htold ha (hrest _ trivial)
  | call s attempt => exact .cons_cons trivial (hrest _ trivial)
  | swap s s' ha h =>
      rw [doings_swap ha]
      exact htold ha (.cons_cons (by rw [h]; rfl) (hrest _ (heeds_firstWait s' _ _)))
  | again s s' ha h hattempt =>
      rw [doings_again ha hattempt]
      exact htold ha (.cons_cons (by rw [h]; rfl) (hrest _ trivial))

end ScanStage

namespace World

variable {w : World} {id : Nat} {scan : Scan}

/-- A run does no more of anything than was left at its start. -/
theorem countP_deeds_le (hscan : w.task? id = some (.scan scan)) (k : Retry)
    (events : List Event) : (w.deeds id events).countP k.covers ≤ scan.stage.left k := by
  induction events generalizing w scan with
  | nil => exact Nat.zero_le _
  | cons e events ih =>
      obtain ⟨scan', hscan', hcase⟩ := happen_scan hscan e
      have hrest := ih hscan'
      rw [deeds, List.countP_append]
      obtain ⟨hnone, hstage⟩ | ⟨hnext, hdeeds⟩ := hcase
      · rw [hnone, ← hstage]
        simpa using hrest
      · rw [hdeeds]
        exact Nat.le_trans (Nat.add_le_add_left hrest _) (hnext.pays k)

/-- In a run every deed has its cause right before it. -/
theorem isChain_deeds {last : Deed} (hscan : w.task? id = some (.scan scan))
    (hlast : scan.stage.Heeds last) (events : List Event) :
    (last :: w.deeds id events).IsChain Deed.Follows := by
  induction events generalizing w scan last with
  | nil => exact .singleton _
  | cons e events ih =>
      obtain ⟨scan', hscan', hcase⟩ := happen_scan hscan e
      rw [deeds]
      obtain ⟨hnone, hstage⟩ | ⟨hnext, hdeeds⟩ := hcase
      · rw [hnone]
        exact ih hscan' (by rwa [hstage])
      · rw [hdeeds]
        exact hnext.follows hlast fun last' hlast' => ih hscan' hlast'

end World

namespace Deed

/-- Logins are repeated in the attempts. -/
theorem countP_isRelogin (deeds : List Deed) :
    deeds.countP isRelogin = deeds.countP (isReloginOf .first) +
      deeds.countP (isReloginOf .swapped) + deeds.countP (isReloginOf .repeated) := by
  induction deeds with
  | nil => rfl
  | cons d deeds ih =>
      simp only [List.countP_cons, ih]
      cases d with
      | login attempt t forced =>
          cases t <;> cases attempt <;> simp [isRelogin, isReloginOf] <;> omega
      | _ => simp [isRelogin, isReloginOf]

/-- A repeated login throws the ticket away. -/
theorem forced_of_isChain {last : Deed} {deeds : List Deed} (h : (last :: deeds).IsChain Follows)
    {attempt : Attempt} {forced : Bool} (hmem : login attempt .forced forced ∈ deeds) :
    forced = true := by
  induction deeds generalizing last with
  | nil => cases hmem
  | cons d deeds ih =>
      obtain ⟨hd, hdeeds⟩ := List.isChain_cons_cons.mp h
      rcases List.mem_cons.mp hmem with rfl | hmem
      · exact hd.1
      · exact ih hdeeds hmem

/-- A login is repeated in an attempt if one is made that throws a ticket away. -/
theorem countP_isReloginOf_pos {last : Deed} {deeds : List Deed}
    (h : (last :: deeds).IsChain Follows) (attempt : Attempt) :
    0 < deeds.countP (isReloginOf attempt) ↔ login attempt .forced true ∈ deeds := by
  rw [List.countP_pos_iff]
  constructor
  · rintro ⟨d, hmem, hd⟩
    cases d with
    | login a t forced =>
        cases t with
        | first => cases hd
        | forced =>
            obtain rfl : a = attempt := of_decide_eq_true hd
            obtain rfl := forced_of_isChain h hmem
            exact hmem
    | _ => cases hd
  · exact fun hmem => ⟨_, hmem, decide_eq_true rfl⟩

/-- What a scan allows itself. -/
structure WithinBudget (deeds : List Deed) : Prop where
  /-- Every retry comes right after the failure that it is for. -/
  caused : ∀ last, (last :: deeds).IsChain Follows
  swaps : deeds.count swap ≤ 1
  repeats : deeds.count again ≤ 1
  calls : deeds.countP isCall ≤ 3
  /-- An attempt repeats its login at most once, and the repeated map call has no login. -/
  relogins : ∀ attempt, deeds.countP (isReloginOf attempt) ≤ if attempt = .repeated then 0 else 1
  /-- More than one login is repeated just when both the attempt before a swap and the one after it
  had their logins rejected. -/
  relogins_le_one_iff : deeds.countP isRelogin ≤ 1 ↔
    ¬ (login .first .forced true ∈ deeds ∧ login .swapped .forced true ∈ deeds)

end Deed

namespace World

/-- The retries of one scan, from its beginning on, whatever state it begins in and whatever its
clients answer. -/
theorem withinBudget_deeds {w : World} {id start : Nat} {scan : Scan}
    (hscan : w.task? id = some (.scan scan)) (hplanned : scan.stage = .planned start)
    (events : List Event) : Deed.WithinBudget (w.deeds id events) := by
  have hcount (k : Retry) :
      (w.deeds id events).countP k.covers ≤ k.leftIn .first (.login (.token .first)) := by
    have h := countP_deeds_le hscan k events
    rwa [hplanned] at h
  have hcaused (last : Deed) : (last :: w.deeds id events).IsChain Deed.Follows :=
    isChain_deeds hscan (by rw [hplanned]; trivial) events
  refine ⟨hcaused, hcount .swap, hcount .again, hcount .call, ?_, ?_⟩
  · intro attempt
    cases attempt with
    | first => exact hcount (.relogin .first)
    | swapped => exact hcount (.relogin .swapped)
    | repeated => exact hcount (.relogin .repeated)
  · have hfirst : (w.deeds id events).countP (Deed.isReloginOf .first) ≤ 1 :=
      hcount (.relogin .first)
    have hswapped : (w.deeds id events).countP (Deed.isReloginOf .swapped) ≤ 1 :=
      hcount (.relogin .swapped)
    have hrepeated : (w.deeds id events).countP (Deed.isReloginOf .repeated) ≤ 0 :=
      hcount (.relogin .repeated)
    rw [Deed.countP_isRelogin, ← Deed.countP_isReloginOf_pos (hcaused .swap) .first,
      ← Deed.countP_isReloginOf_pos (hcaused .swap) .swapped]
    omega

/-- A scan on a session whose login is rejected, then finds its proxy dead, and is rejected again
on the other proxy. -/
def rejectedTwice : World where
  config := { cooldown := 0, loginInterval := 0, callInterval := 0 }
  store := { inventory := { proxies := [{ id := 1, inUse := true }, { id := 2 }] } }
  pool := { buffer := [{
    account := { username := "ann", password := "pw", provider := "ptc", used := true }
    proxy := { id := 1, inUse := true }
    client := .scripted false
      [{ failure := some .invalidAuthToken }, { failure := some .proxyDead },
        { failure := some .invalidAuthToken }, {}] [{}] }] }
  tasks := [(0, .scan { place := default, stage := .planned 0 })]
  nextId := 1

/-- The scan asks, the pool serves it, and the scan goes on to its end. -/
def turnsOfRejectedTwice : List Event :=
  .turn (.task 0) :: List.replicate 3 (.turn .pool) ++ List.replicate 11 (.turn (.task 0))

theorem withinBudget_deeds_rejectedTwice :
    rejectedTwice.task? 0 = some (.scan { place := default, stage := .planned 0 }) ∧
      Deed.WithinBudget (rejectedTwice.deeds 0 turnsOfRejectedTwice) :=
  ⟨rfl, withinBudget_deeds (w := rejectedTwice) rfl rfl turnsOfRejectedTwice⟩

/-- One scan can repeat its login twice. -/
theorem two_relogins_rejectedTwice :
    rejectedTwice.task? 0 = some (.scan { place := default, stage := .planned 0 }) ∧
      ¬ (rejectedTwice.deeds 0 turnsOfRejectedTwice).countP Deed.isRelogin ≤ 1 :=
  ⟨rfl, by decide +kernel⟩

end World

end MapScout
