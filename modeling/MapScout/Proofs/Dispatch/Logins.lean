import MapScout.Proofs.Dispatch.Passage
import MapScout.Proofs.Dispatch.RetryBudget

/-!
# Logins before map calls

A client whose login has failed is logged out, so that a map call has to wait for the next login.
There is one way around: a login that fails for an invalid platform request is followed by the map
call that is meant to repeat another.  What a session heeds of what it has heard is followed from
turn to turn, and from it what comes before a map call of one scan.
-/

namespace MapScout

namespace Entry

def isLoginAnswer : Entry → Bool
  | answered r _ _ => r.kind.isLogin
  | _ => false

/-- A login has come to its end, or a map call has been refused for its ticket. -/
def isLoginNews : Entry → Bool
  | answered r f _ => r.kind.isLogin || f == some .invalidAuthToken
  | cutOff r => r.kind.isLogin
  | sent _ => false

def loginFailure? : Entry → Option ClientError
  | answered r f _ => if r.kind.isLogin then f else none
  | _ => none

/-- A map call has been refused for its ticket, in time. -/
def isRefusal : Entry → Bool
  | answered r f at_ => !r.kind.isLogin && f == some .invalidAuthToken && decide (at_ < r.deadline)
  | _ => false

/-- A login has been answered so that the map call `r` may come next: it has succeeded, or the call
is made once more for its failure. -/
def Admits (r : ClientRequest) : Entry → Prop
  | answered r' f _ =>
      r'.kind.isLogin = true ∧
        (f = none ∨ f = some .invalidPlatformRequest ∧ r.errand = .scan .repeated)
  | _ => False

/-- The latest news about some requests. -/
def latest (news : Entry → Bool) (p : ClientRequest → Bool) (entries : List Entry) : Option Entry :=
  (entries.filter fun x => p x.request && news x).getLast?

variable {news : Entry → Bool} {p : ClientRequest → Bool} {x : Entry}

theorem isLoginAnswer_of_isLoginNews (h : x.isLoginNews = false) : x.isLoginAnswer = false := by
  cases x with
  | answered r f at_ => exact (Bool.or_eq_false_iff.mp h).1
  | sent | cutOff => rfl

theorem admits_of_loginFailure? {r : ClientRequest} (hanswer : x.isLoginAnswer = true)
    (h : ∀ f, x.loginFailure? = some f →
      f = .invalidPlatformRequest ∧ r.errand = .scan .repeated) : x.Admits r := by
  cases x with
  | sent | cutOff => cases hanswer
  | answered r' f at_ =>
      have hkind : r'.kind.isLogin = true := hanswer
      refine ⟨hkind, ?_⟩
      cases f with
      | none => exact Or.inl rfl
      | some f =>
          obtain ⟨rfl, herrand⟩ := h f (if_pos hkind)
          exact Or.inr ⟨rfl, herrand⟩

/-- The latest news is that of the later entries, if they have any. -/
theorem latest_append (xs ys : List Entry) :
    latest news p (xs ++ ys) = (latest news p ys).or (latest news p xs) := by
  rw [latest, List.filter_append, List.getLast?_append]
  rfl

theorem latest_eq_none {entries : List Entry} : latest news p entries = none ↔
    ∀ x ∈ entries, p x.request = true → news x = false := by
  simp [latest]

theorem mem_of_latest {entries : List Entry} (h : latest news p entries = some x) :
    x ∈ entries ∧ news x = true := by
  have hmem := List.mem_filter.mp (List.mem_of_getLast? h)
  exact ⟨hmem.1, (Bool.and_eq_true_iff.mp hmem.2).2⟩

end Entry

namespace Client

theorem isLoggedIn_startLogin (c : Client) : c.startLogin.2.isLoggedIn = c.isLoggedIn := by
  cases c <;> rfl

theorem isLoggedIn_startMap (c : Client) : c.startMap.2.isLoggedIn = c.isLoggedIn := by
  cases c <;> rfl

/-- A map call does not log a client in. -/
theorem isLoggedIn_finishMap {c : Client} (a : Answer) (h : c.isLoggedIn = false) :
    (c.finishMap a).isLoggedIn = false := by
  cases c with
  | scripted loggedIn logins maps => exact Bool.and_eq_false_iff.mpr (Or.inl h)
  | canned payload => exact h

/-- A client that fails to log in is logged out. -/
theorem isLoggedIn_finishLogin {c : Client} (h : c.startLogin.1.failure.isSome = true) :
    (c.startLogin.2.finishLogin c.startLogin.1).isLoggedIn = false := by
  cases c with
  | scripted loggedIn logins maps => simpa [finishLogin, isLoggedIn, startLogin] using h
  | canned payload => cases h

end Client

namespace Session

variable {s s' : Session} {now : Nat}

/-- A client that is logged out has to log in first. -/
theorem firstWait_of_isLoggedIn (h : s.isLoggedIn = false) :
    s.firstWait = .login (.token .first) := by
  rw [firstWait, if_neg]
  simp [h]

theorem firstWait_of_client (h : s.client.isLoggedIn = false) :
    s.firstWait = .login (.token .first) :=
  firstWait_of_isLoggedIn (by rw [isLoggedIn, h, Bool.and_false])

theorem firstWait_of_mustLogin (h : s.mustLogin = true) :
    s.firstWait = .login (.token .first) := by
  apply firstWait_of_isLoggedIn
  rw [isLoggedIn, h]
  rfl

/-- A session at work begins with the wait for a token. -/
theorem answer?_firstWait (s : Session) : s.firstWait.answer? = none := by
  rw [firstWait]
  split <;> rfl

theorem Kin.client_of_or (h : s.Kin s' ∨ s.requireLogin.Kin s') : s'.client = s.client :=
  h.elim (·.client) (·.client)

/-- A map call logs nobody in. -/
theorem isLoggedIn_hear {wait : ScanWait} {a : Answer} (ha : wait.IsAnswered now a)
    (hwait : ∀ w, wait ≠ .login w) (h : s.client.isLoggedIn = false) :
    (s.hear wait a).client.isLoggedIn = false := by
  obtain ⟨due, -, hanswer⟩ := ha
  cases wait with
  | login wait => exact absurd rfl (hwait wait)
  | callToken => cases hanswer
  | call a' due' => exact Client.isLoggedIn_finishMap a h

end Session

/-- A failure of the login under way leaves the client logged out. -/
def Seat.Honest (σ : Seat) : Prop :=
  ∀ t a due, σ.wait = .login (.answer t a due) → a.failure.isSome = true →
    (σ.session.client.finishLogin a).isLoggedIn = false

theorem Seat.honest_of_answer? {σ : Seat} (h : σ.wait.answer? = none) : σ.Honest := by
  intro t a due hwait
  rw [hwait] at h
  cases h

/-- That something is asked is no news. -/
theorem Seat.latest_sends (σ : Seat) {news : Entry → Bool} {p : ClientRequest → Bool} {id : Nat}
    (hnews : ∀ r, news (.sent r) = false) (seats : List Seat) :
    Entry.latest news p (seats.flatMap (σ.sends id)) = none := by
  apply Entry.latest_eq_none.mpr
  intro x hx _
  obtain ⟨σ', -, hsent⟩ := List.mem_flatMap.mp hx
  obtain ⟨r, -, rfl⟩ := σ.mem_sends hsent
  exact hnews r

namespace Berth

def Honest : Berth → Prop
  | resting _ => True
  | seated σ => σ.Honest

/-- The client is logged out, and will be asked to log in before any map call, unless it is a call
that is made once more. -/
def IsOut (repeats : Prop) (π : Berth) : Prop :=
  π.session.client.isLoggedIn = false ∧
    ∀ σ ∈ π.seat?, (∃ wait, σ.wait = .login wait) ∨ repeats ∧ σ.errand = .scan .repeated

theorem isOut_resting {s : Session} {repeats : Prop} (h : s.client.isLoggedIn = false) :
    (resting s).IsOut repeats := by
  refine ⟨h, ?_⟩
  rintro σ ⟨⟩

theorem isOut_of_login {σ : Seat} {repeats : Prop} {wait : LoginWait}
    (h : σ.session.client.isLoggedIn = false) (hwait : σ.wait = .login wait) :
    (seated σ).IsOut repeats := by
  refine ⟨h, ?_⟩
  rintro _ ⟨⟩
  exact Or.inl ⟨wait, hwait⟩

theorem isOut_of_repeated {σ : Seat} {repeats : Prop} (h : σ.session.client.isLoggedIn = false)
    (hrepeated : repeats ∧ σ.errand = .scan .repeated) : (seated σ).IsOut repeats := by
  refine ⟨h, ?_⟩
  rintro _ ⟨⟩
  exact Or.inr hrepeated

/-- A login has failed, and `π` has come of it. -/
def HeedsFailure (x : Entry) (π : Berth) : Prop :=
  ∀ f, x.loginFailure? = some f → π.IsOut (f = .invalidPlatformRequest)

/-- What `heeds` says of a session and of what it has heard is so from when it is heard until there
is other news. -/
structure Lesson (news : Entry → Bool) (heeds : Entry → Berth → Prop) : Prop where
  sent : ∀ r, news (.sent r) = false
  begins : ∀ {x : Entry} {s : Session} {σ : Seat}, s.Kin σ.session →
    σ.wait = σ.session.firstWait → heeds x (.resting s) → heeds x (.seated σ)
  quiet : ∀ {now id : Nat} {x : Entry} {σ : Seat} {π : Berth}, Course now σ π →
    (∀ y ∈ σ.hears id now, news y = false) → heeds x (.seated σ) → heeds x π
  learnt : ∀ {now id : Nat} {x : Entry} {σ : Seat} {π : Berth}, Course now σ π → σ.Honest →
    x ∈ σ.hears id now → news x = true → heeds x π

end Berth

namespace Course

variable {now id : Nat} {σ σ' : Seat} {π : Berth} {x : Entry} {last : Option Entry}
variable {news : Entry → Bool} {p : ClientRequest → Bool} {r : ClientRequest}

theorem username (h : Course now σ π) : π.username = σ.session.username := by
  cases h with
  | swap _ _ _ hkin | again _ _ _ hkin | quit _ _ hkin => exact hkin.username
  | back _ hkin => exact hkin.elim (·.username) (·.username)
  | _ => rfl

/-- A turn leaves every session honest: a login that failed has logged the client out. -/
theorem honest (h : Course now σ π) (hσ : σ.Honest) : π.Honest := by
  cases h with
  | stay => exact hσ
  | login errand s t deadline =>
      intro t' a due hwait hfailure
      cases hwait
      exact Client.isLoggedIn_finishLogin hfailure
  | swap _ _ _ _ hwait =>
      apply Seat.honest_of_answer?
      rcases hwait with hwait | hwait
      · rw [hwait, Session.answer?_firstWait]
      · rw [hwait]
        rfl
  | again _ _ _ _ _ hwait => exact Seat.honest_of_answer? (by rw [hwait]; rfl)
  | quit | back => exact trivial
  | reject | enter | call =>
      intro t a due hwait
      cases hwait

/-! ## What is heard of a login -/

/-- A login whose answer has come is heard of in this turn. -/
theorem hears_answer (id : Nat) {t : LoginTry} {a : Answer} {due : Nat}
    (hwait : σ.wait = .login (.answer t a due)) (hdue : due ≤ now) :
    ∃ x ∈ σ.hears id now, x.isLoginAnswer = true := by
  obtain ⟨r, hr, hkind⟩ : ∃ r, σ.request? id = some r ∧ r.kind = .login t := by
    rw [Seat.request?, hwait]
    exact ⟨_, rfl, rfl⟩
  have ha : σ.wait.IsAnswered now a := ⟨due, hdue, by rw [hwait]; rfl⟩
  rw [Seat.hears_of_isAnswered hr ha]
  exact ⟨_, List.mem_cons_self, by rw [Entry.isLoginAnswer, hkind]; rfl⟩

/-- As long as no login is answered, a client that is logged out stays so. -/
theorem isOut (h : Course now σ π) {repeats : Prop}
    (hquiet : ∀ x ∈ σ.hears id now, x.isLoginAnswer = false)
    (hout : (Berth.seated σ).IsOut repeats) : π.IsOut repeats := by
  have hlogin (a : Answer) (ha : σ.wait.IsAnswered now a) (wait : LoginWait) :
      σ.wait ≠ .login wait := by
    intro hwait
    obtain ⟨due, hdue, hanswer⟩ := ha
    rw [hwait] at hanswer
    cases wait with
    | token t => cases hanswer
    | answer t a' due' =>
        cases hanswer
        obtain ⟨x, hx, hanswered⟩ := hears_answer id hwait hdue
        rw [hquiet x hx] at hanswered
        cases hanswered
  obtain ⟨hclient, hseat⟩ := hout
  have hwait := hseat σ rfl
  cases h with
  | stay => exact ⟨hclient, hseat⟩
  | login errand s t deadline =>
      exact Berth.isOut_of_login ((Client.isLoggedIn_startLogin _).trans hclient) rfl
  | reject _ _ _ hdue | enter _ _ _ _ hdue => exact absurd rfl (hlogin _ ⟨_, hdue, rfl⟩ _)
  | call errand s deadline =>
      rcases hwait with ⟨wait, hwait⟩ | hrepeated
      · cases hwait
      · exact Berth.isOut_of_repeated ((Client.isLoggedIn_startMap _).trans hclient) hrepeated
  | swap ha _ herrand | again ha _ herrand =>
      rcases hwait with ⟨wait, hwait⟩ | ⟨-, hrepeated⟩
      · exact absurd hwait (hlogin _ ha wait)
      · exact absurd hrepeated herrand
  | @quit _ s _ _ hkin =>
      exact Berth.isOut_resting ((congrArg Client.isLoggedIn hkin.client).trans hclient)
  | @back _ s a ha hkin =>
      apply Berth.isOut_resting
      rw [Session.Kin.client_of_or hkin]
      exact Session.isLoggedIn_hear ha (hlogin a ha) hclient

/-- After a login that has failed the next one lies ahead, unless the failure is one that map calls
are made once more for. -/
theorem isOut_of_failure {errand : Errand} {s : Session} {t : LoginTry} {a : Answer}
    {due deadline : Nat} {f : ClientError}
    (h : Course now ⟨errand, s, .login (.answer t a due), deadline⟩ π) (hdue : due ≤ now)
    (hfailure : a.failure = some f) (hlogged : (s.client.finishLogin a).isLoggedIn = false) :
    π.IsOut (f = .invalidPlatformRequest) := by
  have ha : (ScanWait.login (.answer t a due)).IsAnswered now a := ⟨due, hdue, rfl⟩
  have hsame {a' : Answer} (ha' : (ScanWait.login (.answer t a due)).IsAnswered now a') :
      a' = a := by
    obtain ⟨_, _, hanswer⟩ := ha'
    cases hanswer
    rfl
  cases h with
  | stay _ hnot | quit _ hnot => exact absurd ha (hnot a)
  | reject => exact Berth.isOut_of_login hlogged rfl
  | enter _ _ _ _ _ hnone =>
      rw [hnone] at hfailure
      cases hfailure
  | @swap _ σ' a' ha' _ _ hkin hwait =>
      obtain rfl := hsame ha'
      have hclient : σ'.session.client.isLoggedIn = false := by
        rw [hkin.client]
        exact hlogged
      rw [Session.firstWait_of_client hclient, or_self] at hwait
      exact Berth.isOut_of_login hclient hwait
  | @again _ σ' a' ha' hinvalid _ hkin herrand' hwait =>
      obtain rfl := hsame ha'
      rw [hinvalid] at hfailure
      cases hfailure
      apply Berth.isOut_of_repeated _ ⟨rfl, herrand'⟩
      rw [hkin.client]
      exact hlogged
  | @back _ s' a' ha' hkin =>
      obtain rfl := hsame ha'
      apply Berth.isOut_resting
      rw [Session.Kin.client_of_or hkin]
      exact hlogged

/-- A session whose login has failed is logged in before its next map call, but for a call that is
made once more. -/
theorem heedsFailure (h : Course now σ π) (hσ : σ.Honest) (hx : x ∈ σ.hears id now) :
    π.HeedsFailure x := by
  intro f hf
  rcases σ.mem_hears hx with ⟨r, a, hr, ⟨due, hdue, hanswer⟩, rfl⟩ | ⟨r, -, rfl⟩
  swap
  · cases hf
  obtain ⟨kind, hkind, rfl⟩ := World.eq_of_request? hr
  obtain ⟨errand, s, wait, deadline⟩ := σ
  cases wait with
  | callToken => cases hanswer
  | call a' due' =>
      cases hkind
      cases hf
  | login wait =>
      cases wait with
      | token t => cases hanswer
      | answer t a' due' =>
          cases hanswer
          cases hkind
          have hfailure : a.failure = some f := hf
          exact h.isOut_of_failure hdue hfailure (hσ t a due rfl (by rw [hfailure]; rfl))

/-- What a session makes of the failure of a login is so until a login is answered. -/
theorem lesson_heedsFailure (hsent : ∀ r, news (.sent r) = false)
    (hnews : ∀ x : Entry, news x = false → x.isLoginAnswer = false) :
    Berth.Lesson news fun x π => π.HeedsFailure x where
  sent := hsent
  begins hkin hwait h f hf := by
    obtain ⟨hclient, -⟩ := h f hf
    have hclient' := (congrArg Client.isLoggedIn hkin.client).trans hclient
    rw [Session.firstWait_of_client hclient'] at hwait
    exact Berth.isOut_of_login hclient' hwait
  quiet hcourse hquiet h f hf :=
    hcourse.isOut (fun x hx => hnews x (hquiet x hx)) (h f hf)
  learnt hcourse hσ hx _ := hcourse.heedsFailure hσ hx

/-- The same, of all news about logins. -/
theorem lesson_loginNews : Berth.Lesson Entry.isLoginNews fun x π => π.HeedsFailure x :=
  lesson_heedsFailure (fun _ => rfl) fun _ => Entry.isLoginAnswer_of_isLoginNews

/-- What a turn makes of a session agrees with the latest news. -/
theorem heeds {heeds : Entry → Berth → Prop} (hlesson : Berth.Lesson news heeds)
    (h : Course now σ π) (hσ : σ.Honest) (hp : ∀ r, σ.request? id = some r → p r = true)
    (hlast : ∀ x ∈ last, heeds x (.seated σ)) :
    ∀ x ∈ (Entry.latest news p (σ.hears id now)).or last, heeds x π := by
  intro x hx
  cases hheard : Entry.latest news p (σ.hears id now) with
  | some y =>
      rw [hheard] at hx
      cases hx
      obtain ⟨hx, hnews⟩ := Entry.mem_of_latest hheard
      exact hlesson.learnt h hσ hx hnews
  | none =>
      rw [hheard] at hx
      have hquiet : ∀ y ∈ σ.hears id now, news y = false := by
        intro y hy
        apply Entry.latest_eq_none.mp hheard y hy
        rcases σ.mem_hears hy with ⟨r, a, hr, -, rfl⟩ | ⟨r, hr, rfl⟩ <;> exact hp r hr
      exact hlesson.quiet h hquiet (hlast x hx)

/-- A map call is made when its token has come. -/
theorem wait_of_sent (h : Course now σ (.seated σ')) (hsent : .sent r ∈ σ.sends id σ')
    (hmap : r.kind = .map) : σ.wait = .callToken ∧ r.errand = σ.errand := by
  have hnone := Seat.request?_of_mem_sends hsent
  obtain ⟨r', hr', hentry⟩ := σ.mem_sends hsent
  cases hentry
  obtain ⟨kind, hkind, rfl⟩ := World.eq_of_request? hr'
  obtain rfl : kind = .map := hmap
  cases h with
  | stay =>
      rw [hnone] at hr'
      cases hr'
  | login | reject | enter => cases hkind
  | call => exact ⟨rfl, rfl⟩
  | swap _ _ _ _ hwait =>
      rw [Session.firstWait] at hwait
      split at hwait <;> rcases hwait with hwait | hwait <;> simp [hwait, ScanWait.kind?] at hkind
  | again _ _ _ _ _ hwait => simp [hwait, ScanWait.kind?] at hkind

/-- A map call after a login that has failed is made once more for that failure. -/
theorem errand_of_sent (h : Course now σ (.seated σ')) (hsent : .sent r ∈ σ.sends id σ')
    (hmap : r.kind = .map) (hheeds : (Berth.seated σ).HeedsFailure x) :
    ∀ f, x.loginFailure? = some f → f = .invalidPlatformRequest ∧ r.errand = .scan .repeated := by
  intro f hf
  obtain ⟨hwait, herrand⟩ := h.wait_of_sent hsent hmap
  rcases (hheeds f hf).2 σ rfl with ⟨wait, hlogin⟩ | ⟨hinvalid, hrepeated⟩
  · rw [hwait] at hlogin
    cases hlogin
  · exact ⟨hinvalid, herrand.trans hrepeated⟩

/-- When a map call has been refused, the task is done with the session, which has to log in if that
was in time. -/
theorem resting_of_refused {errand : Errand} {s : Session} {a : Answer} {due deadline : Nat}
    (h : Course now ⟨errand, s, .call a due, deadline⟩ π) (hdue : due ≤ now)
    (hrefused : a.failure = some .invalidAuthToken) :
    ∃ s', π = .resting s' ∧ (now < deadline → s'.mustLogin = true) := by
  have ha : (ScanWait.call a due).IsAnswered now a := ⟨due, hdue, rfl⟩
  cases h with
  | stay _ hnot | quit _ hnot => exact absurd ha (hnot a)
  | swap ha' hfailure | again ha' hfailure =>
      obtain ⟨_, _, hanswer⟩ := ha'
      cases hanswer
      rw [hrefused] at hfailure
      cases hfailure
  | back ha' _ hmust =>
      obtain ⟨_, _, hanswer⟩ := ha'
      cases hanswer
      exact ⟨_, rfl, hmust rfl hrefused⟩

/-- When a login has been cut off, or a map call has been refused, the task is done with the
session. -/
theorem seat?_eq_none (h : Course now σ π) (hx : x ∈ σ.hears id now)
    (hnews : x.isLoginNews = true) (hlogin : x.isLoginAnswer = false) : π.seat? = none := by
  rcases σ.mem_hears hx with ⟨r, a, hr, ⟨due, hdue, hanswer⟩, rfl⟩ | ⟨r, hr, rfl⟩
  · obtain ⟨kind, hkind, rfl⟩ := World.eq_of_request? hr
    obtain ⟨errand, s, wait, deadline⟩ := σ
    cases wait with
    | callToken => cases hanswer
    | login wait =>
        cases wait with
        | token t => cases hanswer
        | answer t a' due' =>
            cases hkind
            cases hlogin
    | call a' due' =>
        cases hanswer
        cases hkind
        have hrefused : a.failure = some .invalidAuthToken := by
          simpa [Entry.isLoginNews, RequestKind.isLogin] using hnews
        obtain ⟨s', rfl, -⟩ := h.resting_of_refused hdue hrefused
        rfl
  · have hnot (a : Answer) : ¬ σ.wait.IsAnswered now a := by
      intro ha
      rw [Seat.hears_of_isAnswered hr ha] at hx
      cases List.mem_singleton.mp hx
    cases h with
    | stay htime =>
        rw [Seat.hears_eq_nil htime hnot] at hx
        cases hx
    | login | call => cases hr
    | quit => rfl
    | reject _ _ _ hdue | enter _ _ _ _ hdue => exact absurd ⟨_, hdue, rfl⟩ (hnot _)
    | swap ha | again ha | back ha => exact absurd ha (hnot _)

end Course

namespace World

open Entry (latest isLoginNews)

variable {w : World} {id : Nat} {e : Event} {σ σ' : Seat} {scan : Scan} {last : Option Entry}

/-- A task that has a session and keeps it goes on in the course of it. -/
theorem course_of_seat? (hseat : w.seat? id = some σ)
    (hafter : (w.happen (.turn (.task id))).seat? id = some σ') : Course w.now σ (.seated σ') := by
  obtain ⟨left, hleft, hends⟩ := turned_seat hseat []
  rw [hends.seat] at hafter
  cases left with
  | none => cases hafter
  | some π =>
      cases π with
      | resting s => cases hafter
      | seated σ'' =>
          cases hafter
          exact hleft _ rfl

/-- A task that sends a request has a session before and after its turn. -/
theorem course_of_sent {r : ClientRequest} (h : .sent r ∈ w.entriesIn e) :
    ∃ σ σ', e = .turn (.task r.task) ∧ w.seat? r.task = some σ ∧ .sent r ∈ σ.sends r.task σ' ∧
      Course w.now σ (.seated σ') := by
  obtain ⟨id, σ, rfl, hseat, hheard | ⟨σ', hσ', hsent⟩⟩ := mem_entriesIn h
  · rcases σ.mem_hears hheard with ⟨r', a, -, -, hentry⟩ | ⟨r', -, hentry⟩ <;> cases hentry
  · have hcourse := course_of_seat? hseat hσ'
    obtain ⟨r', hr', hentry⟩ := σ.mem_sends hsent
    cases hentry
    obtain ⟨kind, -, rfl⟩ := eq_of_request? hr'
    exact ⟨σ, σ', rfl, hseat, hsent, hcourse⟩

/-- That something is asked is no news. -/
theorem latest_turn {news : Entry → Bool} {p : ClientRequest → Bool}
    (hnews : ∀ r, news (.sent r) = false) (hseat : w.seat? id = some σ) :
    latest news p (w.entriesIn (.turn (.task id))) = latest news p (σ.hears id w.now) := by
  rw [entriesIn, hseat]
  dsimp only
  rw [Entry.latest_append, σ.latest_sends hnews, Option.none_or]

/-- What is heard in the turn of a task is about the task. -/
theorem task_of_mem_entriesIn {x : Entry} (h : x ∈ w.entriesIn e) :
    e = .turn (.task x.request.task) := by
  obtain ⟨id, σ, rfl, -, hheard | ⟨σ', -, hsent⟩⟩ := mem_entriesIn h
  · rcases σ.mem_hears hheard with ⟨r, a, hr, -, rfl⟩ | ⟨r, hr, rfl⟩
    all_goals
      obtain ⟨kind, -, rfl⟩ := eq_of_request? hr
      rfl
  · obtain ⟨r, hr, rfl⟩ := σ.mem_sends hsent
    obtain ⟨kind, -, rfl⟩ := eq_of_request? hr
    rfl

/-! ## One scan -/

/-- No event but its own turn changes a task. -/
theorem task?_happen_of_ne {t : Task} (he : e ≠ .turn (.task id)) (ht : w.task? id = some t) :
    (w.happen e).task? id = some t := by
  have hspawned (t' : Task) : (w.spawn t').2.task? id = some t := by
    have h : (w.tasks ++ [(w.nextId, t')]).lookup id = some t := by
      rw [List.lookup_append, show w.tasks.lookup id = _ from ht]
      rfl
    exact h
  cases e with
  | turn o => exact (task?_turn fun ho => he (by rw [ho])).trans ht
  | scan | preload => exact hspawned _
  | _ => exact ht

/-- How a scan stands with what has last been heard of its logins. -/
structure Minds (w : World) (id : Nat) (scan : Scan) (last : Option Entry) : Prop where
  task : w.task? id = some (.scan scan)
  honest : ∀ σ ∈ w.seat? id, σ.Honest
  heeds : ∀ σ ∈ w.seat? id, ∀ x ∈ last, (Berth.seated σ).HeedsFailure x
  answer : ∀ σ ∈ w.seat? id, ∀ x ∈ last, x.isLoginAnswer = true
  begins : w.seat? id = none → (Task.scan scan).isFinished = false → last = none

/-- Nothing is heard of a scan in what others do. -/
theorem Minds.idle (h : w.Minds id scan last) (he : e ≠ .turn (.task id)) :
    (w.happen e).Minds id scan last := by
  have htask := task?_happen_of_ne he h.task
  have hseat : (w.happen e).seat? id = w.seat? id := seat?_congr (htask.trans h.task.symm)
  refine ⟨htask, ?_, ?_, ?_, ?_⟩ <;> rw [hseat]
  · exact h.honest
  · exact h.heeds
  · exact h.answer
  · exact h.begins

theorem seat?_of_scan (htask : w.task? id = some (.scan scan)) :
    w.seat? id = Task.seat? (.scan scan) := by
  rw [seat?, htask]
  rfl

/-- A scan that has no session has none to mind. -/
theorem Minds.of_none (htask : w.task? id = some (.scan scan))
    (hseat : Task.seat? (.scan scan) = none)
    (hbegins : (Task.scan scan).isFinished = false → last = none) : w.Minds id scan last := by
  refine ⟨htask, ?_, ?_, ?_, fun _ => hbegins⟩ <;> simp [seat?_of_scan htask, hseat]

/-- A scan that has just got a session has heard nothing of logins. -/
theorem Minds.of_begin {s : Session} (htask : w.task? id = some (.scan scan))
    (hstage : scan.stage = .working s .first s.firstWait) : w.Minds id scan none := by
  obtain ⟨place, deadline, stage⟩ := scan
  dsimp only at hstage
  subst hstage
  refine ⟨htask, ?_, by simp, by simp, fun _ _ => rfl⟩
  intro σ hσ
  rw [seat?_of_scan htask] at hσ
  cases hσ
  exact Seat.honest_of_answer? s.answer?_firstWait

/-- A scan that has no session and stays at its stage has none to mind. -/
theorem Minds.of_stage {scan' : Scan} (htask : w.task? id = some (.scan scan'))
    (hstage : scan'.stage = scan.stage) (hseat : Task.seat? (.scan scan) = none)
    (hbegins : (Task.scan scan).isFinished = false → last = none) : w.Minds id scan' last := by
  obtain ⟨place, deadline, stage⟩ := scan
  obtain ⟨place', deadline', stage'⟩ := scan'
  dsimp only at hstage
  subst hstage
  apply Minds.of_none htask
  · cases stage' with
    | working => cases hseat
    | _ => rfl
  · cases stage' <;> exact hbegins

/-- A scan without a session goes on. -/
theorem Minds.await (h : w.Minds id scan last) (hseat : w.seat? id = none) :
    ∃ scan', (w.happen (.turn (.task id))).Minds id scan' last := by
  obtain ⟨scan', hscan', hcase⟩ := happen_scan h.task (.turn (.task id))
  refine ⟨scan', ?_⟩
  have hbegins := h.begins hseat
  rw [seat?_of_scan h.task] at hseat
  have hstay (hstage : scan'.stage = scan.stage) :
      (w.happen (.turn (.task id))).Minds id scan' last :=
    .of_stage hscan' hstage hseat hbegins
  obtain ⟨-, hstage⟩ | ⟨hnext, -⟩ := hcase
  · exact hstay hstage
  · obtain ⟨place, deadline, stage⟩ := scan
    obtain ⟨place', deadline', stage'⟩ := scan'
    dsimp only at hnext
    cases hnext with
    | stay => exact hstay rfl
    | finish => exact .of_none hscan' rfl fun hnot => nomatch hnot
    | ask | leave => exact .of_none hscan' rfl hbegins
    | begin hasking s =>
        obtain rfl : last = none := by
          apply hbegins
          cases stage with
          | planned | checkout | leaving => rfl
          | working | finished => cases hasking
        exact .of_begin hscan' rfl
    | login | reject | enter | call | swap | again => cases hseat

/-- A scan that has a session keeps it until it has come to its end. -/
theorem isFinished_of_next {now : Nat} {scan' : Scan} (hσ : Task.seat? (.scan scan) = some σ)
    (hstep : scan'.stage = scan.stage ∨ scan.stage.Next now scan'.stage)
    (hnone : Task.seat? (.scan scan') = none) : (Task.scan scan').isFinished = true := by
  obtain ⟨place, deadline, stage⟩ := scan
  obtain ⟨place', deadline', stage'⟩ := scan'
  cases stage with
  | working s attempt wait =>
      rcases hstep with hsame | hnext
      · dsimp only at hsame
        subst hsame
        cases hnone
      · cases hnext with
        | finish => rfl
        | _ => cases hnone
  | _ => cases hσ

/-- A scan with a session goes on. -/
theorem Minds.goOn (h : w.Minds id scan last) (hseat : w.seat? id = some σ) :
    ∃ scan', (w.happen (.turn (.task id))).Minds id scan'
      ((latest isLoginNews (fun r => r.task = id) (w.entriesIn (.turn (.task id)))).or last) := by
  obtain ⟨scan', hscan', hcase⟩ := happen_scan h.task (.turn (.task id))
  have htask (r : ClientRequest) (hr : σ.request? id = some r) : decide (r.task = id) = true := by
    obtain ⟨kind, -, rfl⟩ := eq_of_request? hr
    exact decide_eq_true rfl
  rw [latest_turn (fun _ => rfl) hseat]
  refine ⟨scan', hscan', ?_, ?_, ?_, ?_⟩
  · intro σ' hσ'
    exact (course_of_seat? hseat hσ').honest (h.honest σ hseat)
  · intro σ' hσ'
    exact (course_of_seat? hseat hσ').heeds Course.lesson_loginNews (h.honest σ hseat) htask
      (h.heeds σ hseat)
  · intro σ' hσ' x hx
    cases hheard : latest isLoginNews (fun r => r.task = id) (σ.hears id w.now) with
    | none =>
        rw [hheard] at hx
        exact h.answer σ hseat x hx
    | some x' =>
        rw [hheard] at hx
        cases hx
        obtain ⟨hx, hnews⟩ := Entry.mem_of_latest hheard
        apply Bool.of_not_eq_false
        intro hanswer
        have hgone := (course_of_seat? hseat hσ').seat?_eq_none hx hnews hanswer
        cases hgone
  · intro hnone hnot
    rw [seat?_of_scan hscan'] at hnone
    rw [seat?_of_scan h.task] at hseat
    rw [isFinished_of_next hseat (hcase.imp And.right And.left) hnone] at hnot
    cases hnot

/-- What has last been heard of its logins is what a scan goes by, event after event. -/
theorem Minds.happen (h : w.Minds id scan last) (e : Event) :
    ∃ scan', (w.happen e).Minds id scan'
      ((latest isLoginNews (fun r => r.task = id) (w.entriesIn e)).or last) := by
  by_cases he : e = .turn (.task id)
  · subst he
    cases hseat : w.seat? id with
    | none =>
        rw [(silent_of_seat? hseat).entries]
        exact h.await hseat
    | some σ => exact h.goOn hseat
  · have hsilent : latest isLoginNews (fun r => r.task = id) (w.entriesIn e) = none := by
      apply Entry.latest_eq_none.mpr
      intro x hx htask
      have hown := task_of_mem_entriesIn hx
      rw [of_decide_eq_true htask] at hown
      exact absurd hown he
    rw [hsilent]
    exact ⟨scan, h.idle he⟩

/-- What has last been heard of the logins of a scan is what was heard since it began. -/
theorem Minds.run (h : w.Minds id scan last) (events : List Event) :
    ∃ scan', (w.run events).Minds id scan'
      ((latest isLoginNews (fun r => r.task = id) (w.transcript events)).or last) := by
  induction events generalizing w scan last with
  | nil => exact ⟨scan, h⟩
  | cons e events ih =>
      obtain ⟨scan₁, hminds⟩ := h.happen e
      obtain ⟨scan₂, hminds'⟩ := ih hminds
      rw [transcript, Entry.latest_append, Option.or_assoc]
      exact ⟨scan₂, hminds'⟩

/-- Before a scan makes a map call, its latest login has been answered and has succeeded, if there
was one, or it has failed for an invalid platform request, and the call is the one that is made once
more for such a failure. -/
theorem login_before_call {start : Nat} (hscan : w.task? id = some (.scan scan))
    (hplanned : scan.stage = .planned start) (events : List Event) {r : ClientRequest}
    (hr : .sent r ∈ (w.run events).entriesIn e) (htask : r.task = id) (hmap : r.kind = .map) :
    ∀ x ∈ latest isLoginNews (fun r => r.task = id) (w.transcript events), x.Admits r := by
  subst htask
  have hminds : w.Minds r.task scan none := by
    obtain ⟨place, deadline, stage⟩ := scan
    dsimp only at hplanned
    subst hplanned
    exact .of_none hscan rfl fun _ => rfl
  obtain ⟨scan', hminds⟩ := hminds.run events
  rw [Option.or_none] at hminds
  obtain ⟨σ, σ', -, hseat, hsent, hcourse⟩ := course_of_sent hr
  intro x hx
  apply Entry.admits_of_loginFailure? (hminds.answer σ hseat x hx)
  exact hcourse.errand_of_sent hsent hmap (hminds.heeds σ hseat x hx)

def oneSession (client : Client) : World :=
  let account : Account := { username := "ann", password := "pw", provider := "ptc", used := true }
  let proxy : Proxy := { id := 1, inUse := true }
  { config := { cooldown := 0, requestTimeout := 1000, loginInterval := 0, callInterval := 0 }
    store := { inventory := { accounts := [account], proxies := [proxy] } }
    pool := { buffer := [{ account, proxy, client }] } }

/-- A scan is asked for, gets the session and makes its first request. -/
def askFor (id : Nat) : List Event :=
  [.scan default 0, .turn (.task id)] ++ List.replicate 6 (.turn .pool) ++
    List.replicate 2 (.turn (.task id))

def asked (task : Nat) (attempt : Attempt) (kind : RequestKind) (deadline : Nat) : ClientRequest :=
  { task, errand := .scan attempt, account := "ann", proxy := 1, kind, deadline }

def loginFails : World :=
  oneSession (.scripted false [{ failure := some .invalidPlatformRequest }] [])

theorem login_before_call_loginFails :
    ∃ scan, (loginFails.run [.scan default 0]).task? 0 = some (.scan scan) ∧
      scan.stage = .planned 0 ∧
      .sent (asked 0 .repeated .map 1000) ∈
        ((loginFails.run [.scan default 0]).run
          ((askFor 0).tail ++ [.turn (.task 0)])).entriesIn (.turn (.task 0)) ∧
      ∀ x ∈ latest isLoginNews (fun r => r.task = 0)
          ((loginFails.run [.scan default 0]).transcript ((askFor 0).tail ++ [.turn (.task 0)])),
        x.Admits (asked 0 .repeated .map 1000) := by
  have hr : .sent (asked 0 .repeated .map 1000) ∈
      ((loginFails.run [.scan default 0]).run
        ((askFor 0).tail ++ [.turn (.task 0)])).entriesIn (.turn (.task 0)) := by
    decide +kernel
  exact ⟨_, rfl, rfl, hr, login_before_call rfl rfl _ hr rfl rfl⟩

/-- A scan makes a map call after its only login has failed. -/
theorem call_without_login_loginFails :
    loginFails.transcript (askFor 0 ++ List.replicate 2 (.turn (.task 0))) =
      [.sent (asked 0 .first (.login .first) 1000),
        .answered (asked 0 .first (.login .first) 1000) (some .invalidPlatformRequest) 0,
        .sent (asked 0 .repeated .map 1000)] := by
  decide +kernel

end World

end MapScout
