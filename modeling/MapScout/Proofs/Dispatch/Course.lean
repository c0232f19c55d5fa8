import MapScout.Proofs.Dispatch.Handling

/-!
# The course of a session

All that one event can do to the sessions of a dispatcher, and to its books, said once.  A session
rests in the pool, is taken to work by a scan or a preload, and comes back into the pool unless it
is dropped.  While it is at work its client is told what it has been asked, and between two requests
the session changes at most its proxy.
-/

namespace MapScout

/-- The session when the answer that it waits for has come. -/
def Session.hear (s : Session) (wait : ScanWait) (a : Answer) : Session :=
  { s with client := match wait with
      | .call .. => s.client.finishMap a
      | _ => s.client.finishLogin a }

/-- What one turn at `now` can make of a session at work. -/
inductive Course (now : Nat) : Seat → Berth → Prop where
  | stay {σ : Seat} (htime : now < σ.deadline) (hdue : ∀ a, ¬ σ.wait.IsAnswered now a) :
      Course now σ (.seated σ)
  | login (errand : Errand) (s : Session) (t : LoginTry) (deadline : Nat) :
      Course now ⟨errand, s, .login (.token t), deadline⟩
        (.seated ⟨errand, { s with mustLogin := false, client := s.client.startLogin.2 },
          .login (.answer t s.client.startLogin.1 (now + s.client.startLogin.1.delay)), deadline⟩)
  | reject (errand : Errand) (s : Session) (deadline : Nat) {a : Answer} {due : Nat}
      (hdue : due ≤ now) (h : a.failure = some .invalidAuthToken) :
      Course now ⟨errand, s, .login (.answer .first a due), deadline⟩
        (.seated ⟨errand, { s with mustLogin := true, client := s.client.finishLogin a },
          .login (.token .forced), deadline⟩)
  | enter (errand : Errand) (s : Session) (t : LoginTry) (deadline : Nat) {a : Answer} {due : Nat}
      (hdue : due ≤ now) (h : a.failure = none) :
      Course now ⟨errand, s, .login (.answer t a due), deadline⟩
        (.seated ⟨errand, { s with client := s.client.finishLogin a }, .callToken, deadline⟩)
  | call (errand : Errand) (s : Session) (deadline : Nat) :
      Course now ⟨errand, s, .callToken, deadline⟩
        (.seated ⟨errand, { s with client := s.client.startMap.2 },
          .call s.client.startMap.1 (now + s.client.startMap.1.delay), deadline⟩)
  | swap {σ σ' : Seat} {a : Answer} (ha : σ.wait.IsAnswered now a)
      (h : a.failure = some .proxyDead) (herrand : σ.errand ≠ .scan .repeated)
      (hkin : (σ.session.hear σ.wait a).Kin σ'.session)
      (hwait : σ'.wait = σ'.session.firstWait ∨ σ'.wait = .login (.token .first)) :
      Course now σ (.seated σ')
  | again {σ σ' : Seat} {a : Answer} (ha : σ.wait.IsAnswered now a)
      (h : a.failure = some .invalidPlatformRequest) (herrand : σ.errand ≠ .scan .repeated)
      (hkin : (σ.session.hear σ.wait a).Kin σ'.session) (herrand' : σ'.errand = .scan .repeated)
      (hwait : σ'.wait = .callToken) : Course now σ (.seated σ')
  /-- The deadline has passed. -/
  | quit {σ : Seat} {s : Session} (hdeadline : σ.deadline ≤ now)
      (hdue : ∀ a, ¬ σ.wait.IsAnswered now a) (hkin : σ.session.Kin s) : Course now σ (.resting s)
  /-- The work is done.  A ticket that a map call was refused for is thrown away, unless the
  deadline has passed. -/
  | back {σ : Seat} {s : Session} {a : Answer} (ha : σ.wait.IsAnswered now a)
      (hkin : (σ.session.hear σ.wait a).Kin s ∨ (σ.session.hear σ.wait a).requireLogin.Kin s)
      (hmust : σ.wait.kind? = some .map → a.failure = some .invalidAuthToken → now < σ.deadline →
        s.mustLogin = true) : Course now σ (.resting s)

/-- What conclusions are drawn from.  Nothing is concluded about the second proxy of a preloaded
session. -/
def Errand.heeds (errand : Errand) (failure : Option ClientError) : Option ClientError :=
  if errand = .preload true then failure.bind ClientError.unburied else failure

@[simp]
theorem Errand.heeds_none (errand : Errand) : errand.heeds none = none := by
  simp [heeds]

/-- A scan draws all its conclusions. -/
@[simp]
theorem Errand.heeds_scan (attempt : Attempt) (failure : Option ClientError) :
    (Errand.scan attempt).heeds failure = failure := by
  simp [heeds]

/-- What the client of a session at work tells a task that has its turn at `now`. -/
def Seat.news (now : Nat) (σ : Seat) : Option ClientError :=
  match σ.wait.answer? with
  | some (a, due) => if due ≤ now then σ.errand.heeds a.failure else none
  | none => none

theorem Seat.news_of_isAnswered {now : Nat} {σ : Seat} {a : Answer}
    (ha : σ.wait.IsAnswered now a) : σ.news now = σ.errand.heeds a.failure := by
  obtain ⟨due, hdue, hanswer⟩ := ha
  rw [news, hanswer]
  exact if_pos hdue

theorem Seat.news_eq_none {now : Nat} {σ : Seat} (hdue : ∀ a, ¬ σ.wait.IsAnswered now a) :
    σ.news now = none := by
  unfold news
  split
  · rename_i a due hanswer
    exact if_neg fun hle => hdue a ⟨due, hle, hanswer⟩
  · rfl

@[simp]
def Failure.news : Failure → Option ClientError
  | .client e => some e
  | .deadline => none

namespace World

@[simp]
def newsOf : Except Failure MapPayload → Option ClientError
  | .error f => f.news
  | .ok _ => none

/-- Wherever an attempt that brings some news can leave its session satisfies `G`. -/
structure Admits (G : Berth → Prop) (now deadline : Nat) (attempt : Attempt) (s : Session)
    (news : Option ClientError) : Prop where
  back : ∀ s',
    (if news = some .invalidAuthToken ∧ now < deadline then s.requireLogin else s).Kin s' →
    G (.resting s')
  swap : news = some .proxyDead → attempt = .first → ∀ s', s.Kin s' →
    G (.seated ⟨.scan .swapped, s', s'.firstWait, deadline⟩)
  again : news = some .invalidPlatformRequest → attempt ≠ .repeated → ∀ s', s.Kin s' →
    G (.seated ⟨.scan .repeated, s', .callToken, deadline⟩)

theorem newsOf_eq_none {outcome : Except Failure MapPayload}
    (h : ∀ e, outcome = .error (.client e) → False) : newsOf outcome = none := by
  cases outcome with
  | ok payload => rfl
  | error f =>
      cases f with
      | deadline => rfl
      | client e => exact (h e rfl).elim

theorem newsOf_ne {outcome : Except Failure MapPayload} {e : ClientError}
    (h : ¬ outcome = .error (.client e)) : newsOf outcome ≠ some e := by
  cases outcome with
  | ok payload => simp
  | error f => cases f <;> simp_all

variable {start w w' : World} {begun : Books} {s s' : Session} {f : Option ClientError}
variable {id now deadline : Nat} {G : Berth → Prop} {attempt : Attempt} {scan : Scan} {p : Preload}
variable {outcome : Except Failure MapPayload}

/-- What a session may come to does not depend on its proxy. -/
theorem Admits.kin (h : Admits G now deadline attempt s f) (hkin : s.Kin s') :
    Admits G now deadline attempt s' f where
  back s'' hs'' := by
    apply h.back
    have hrequired : s.requireLogin.Kin s'.requireLogin := ⟨hkin.username, rfl, hkin.client⟩
    split at hs''
    · rename_i hrejected
      rw [if_pos hrejected]
      exact hrequired.trans hs''
    · rename_i hrejected
      rw [if_neg hrejected]
      exact hkin.trans hs''
  swap hf hattempt s'' hs'' := h.swap hf hattempt s'' (hkin.trans hs'')
  again hf hattempt s'' hs'' := h.again hf hattempt s'' (hkin.trans hs'')

/-- A session of which there is no such news comes back as it is. -/
theorem Admits.back_kin (h : Admits G now deadline attempt s f)
    (hf : ¬ (f = some .invalidAuthToken ∧ now < deadline)) (hkin : s.Kin s') : G (.resting s') := by
  apply h.back
  rwa [if_neg hf]

/-- As long as it is not about the proxy, news stays news. -/
theorem Midway.unburied (h : Midway start begun (some s) f w) (hne : f ≠ some .proxyDead) :
    Midway start begun (some s) (f.bind ClientError.unburied) w := by
  cases f with
  | none => exact h
  | some e =>
      have hunburied : ClientError.unburied e = some e := if_neg (by simpa using hne)
      simpa [hunburied] using h

/-! ## Scans -/

section Endings

variable (hid : (start.task? id).isSome)

include hid

theorem turned_finishScan {left : Option Session} (h : Parted start begun left w)
    (hG : ∀ s ∈ left, G (.resting s)) (result : Except ScanError (List MapObject)) :
    Turned start begun id G (w.finishScan id scan result) := by
  unfold finishScan finish
  apply (h.quiet (Quiet.count ?_)).settle hid rfl hG
  split <;> rfl

/-- A scan that ends leaves its session in the pool or nowhere. -/
theorem turned_conclude (h : Midway start begun (some s) none w)
    (hG : ∀ s', s.Kin s' → G (.resting s')) (result : Except ScanError MapPayload) :
    Turned start begun id G (w.conclude id scan s result) := by
  rw [conclude]
  split
  · obtain ⟨left, hleft, hparted⟩ := (h.quiet (Quiet.addObjects _)).disposeOf
    exact turned_finishScan hid hparted (fun s' hs' => hG s' (hleft s' hs')) _
  · obtain ⟨left, hleft, hparted⟩ := h.disposeOf
    exact turned_finishScan hid hparted (fun s' hs' => hG s' (hleft s' hs')) _

omit hid in
/-- A scan that reports a rejected ticket sees to it that the next login throws it away. -/
theorem scanError_session (s : Session) (e : ClientError) :
    (scanError s e).2 = if e = .invalidAuthToken then s.requireLogin else s := by
  cases e <;> rfl

/-- An attempt that is the last one leaves the session in the pool, for which it must be admitted.
-/
theorem turned_concludeAttempt (h : Midway start begun (some s) none w)
    (hadmits : Admits G start.now scan.deadline attempt s (newsOf outcome)) :
    Turned start begun id G (w.concludeAttempt id scan s outcome) := by
  have hnow : w.now = start.now := h.frame.now
  unfold concludeAttempt
  split
  · exact turned_conclude hid h (fun s' hs' => hadmits.back_kin (by simp) hs') _
  · split
    · exact turned_conclude hid h (fun s' hs' => hadmits.back_kin (by simp) hs') _
    · rename_i e
      split
      · rename_i hlate
        have hlate : ¬ start.now < scan.deadline := by omega
        exact turned_conclude hid h (fun s' hs' => hadmits.back_kin (by simp [hlate]) hs') _
      · rename_i htime
        have htime : start.now < scan.deadline := by omega
        have hback := hadmits.back
        obtain ⟨haccount, hproxy⟩ := scanError_keeps s e
        apply turned_conclude hid (h.touch haccount hproxy)
        intro s' hs'
        apply hback
        simpa [htime, scanError_session] using hs'

theorem turned_work {wait : ScanWait} (h : Midway start begun (some s) none w)
    (hfit : Fit start begun s) (hG : G (.seated ⟨.scan attempt, s, wait, scan.deadline⟩)) :
    Turned start begun id G (w.work id scan s attempt wait) := by
  rw [work, proceed]
  exact Midway.sit (σ := ⟨.scan attempt, s, wait, scan.deadline⟩) h hid rfl hfit hG _

theorem turned_lineUpForCall (h : Midway start begun (some s) none w) (hfit : Fit start begun s)
    (hG : G (.seated ⟨.scan attempt, s, .callToken, scan.deadline⟩)) :
    Turned start begun id G (w.lineUpForCall id scan s attempt) :=
  turned_work hid (h.quiet (.stirs (.enterGate ..))) hfit hG

/-- An attempt begins with the first wait of the session. -/
theorem turned_beginAttempt (h : Midway start begun (some s) none w) (hfit : Fit start begun s)
    (hG : G (.seated ⟨.scan attempt, s, s.firstWait, scan.deadline⟩)) :
    Turned start begun id G (w.beginAttempt id scan s attempt) := by
  rw [Session.firstWait] at hG
  rw [beginAttempt]
  split
  · rename_i hlogged
    rw [if_pos hlogged] at hG
    exact turned_lineUpForCall hid h hfit hG
  · rename_i hlogged
    rw [if_neg hlogged] at hG
    exact turned_work hid (h.quiet (.stirs (.enterGate ..))) hfit hG

/-- After its last attempt a scan ends, or makes its call once more. -/
theorem turned_afterAttempts (hattempt : attempt ≠ .repeated)
    (h : Midway start begun (some s) ((newsOf outcome).bind ClientError.unburied) w)
    (hfit : newsOf outcome = some .invalidPlatformRequest → Fit start begun s)
    (hadmits : Admits G start.now scan.deadline attempt s (newsOf outcome)) :
    Turned start begun id G (w.afterAttempts id scan s outcome) := by
  unfold afterAttempts
  split
  · rename_i e
    have hclassified : Midway start begun (some (w.classify s e).1) none (w.classify s e).2 :=
      Midway.classify h
    have hkin := kin_classify (w := w) s e
    dsimp only
    split
    · rename_i hagain
      obtain ⟨rfl, -⟩ := hagain
      exact turned_lineUpForCall hid hclassified (hfit rfl) (hadmits.again rfl hattempt s (.refl s))
    · exact turned_concludeAttempt hid hclassified (hadmits.kin hkin)
  · rename_i houtcome
    rw [newsOf_eq_none houtcome] at h
    exact turned_concludeAttempt hid h hadmits

/-- The first attempt has met a dead proxy. -/
theorem turned_afterProxyDead (h : Midway start begun (some s) (some .proxyDead) w)
    (hfit : Fit start begun s)
    (hadmits : Admits G start.now scan.deadline .first s (some .proxyDead)) :
    Turned start begun id G (w.afterAttempt id scan s .first (.error (.client .proxyDead))) := by
  have hdead : ∀ e ∈ some ClientError.proxyDead, e = .proxyDead := by simp
  unfold afterAttempt
  dsimp only
  rw [if_pos rfl]
  split
  · apply turned_conclude hid (h.markProxyDead hdead)
    intro s' hs'
    have hmarkedKin : s.Kin (w.markProxyDead s).1 := (Session.Kin.refl s).bind _
    exact hadmits.back_kin (by simp) (hmarkedKin.trans hs')
  · have hswapped := h.swapProxy hdead
    have hkin := kin_swapProxy (w := w) s
    have haccount := account_swapProxy (w := w) s
    split
    · rename_i s' w' hswap
      rw [hswap] at hswapped hkin haccount
      have halive := alive_of_swapProxy hswap
      exact turned_beginAttempt hid hswapped (hfit.bind haccount halive)
        (hadmits.swap rfl rfl s' hkin)
    · rename_i s' w' hswap
      rw [hswap] at hswapped hkin
      apply turned_conclude hid hswapped
      intro s'' hs''
      exact hadmits.back_kin (by simp) (hkin.trans hs'')

/-- Wherever the course of an attempt admits the session, there it is after the turn. -/
theorem turned_afterAttempt (outcome : Except Failure MapPayload)
    (h : Midway start begun (some s) (newsOf outcome) w)
    (hfit : Fit start begun s)
    (hadmits : Admits G start.now scan.deadline attempt s (newsOf outcome)) :
    Turned start begun id G (w.afterAttempt id scan s attempt outcome) := by
  have hmarkedKin : s.Kin (w.markProxyDead s).1 := (Session.Kin.refl s).bind _
  cases attempt with
  | first =>
      unfold afterAttempt
      dsimp only
      split
      · exact turned_afterProxyDead hid h hfit hadmits
      · rename_i houtcome
        rw [if_neg Bool.false_ne_true]
        exact turned_afterAttempts hid (by simp) (h.unburied (newsOf_ne houtcome)) (fun _ => hfit)
          hadmits
  | swapped =>
      unfold afterAttempt
      dsimp only
      split
      · have hmarked := h.markProxyDead (by simp)
        exact turned_afterAttempts hid (by simp) hmarked (by simp) (hadmits.kin hmarkedKin)
      · rename_i houtcome
        exact turned_afterAttempts hid (by simp) (h.unburied (newsOf_ne houtcome)) (fun _ => hfit)
          hadmits
  | repeated =>
      unfold afterAttempt
      dsimp only
      split
      · rename_i e
        split
        · rename_i hdead
          subst hdead
          have hmarked := h.markProxyDead (by simp)
          have hkin := hmarkedKin.trans (kin_classify (w := (w.markProxyDead s).2) _ .proxyDead)
          exact turned_concludeAttempt hid (Midway.classify hmarked) (hadmits.kin hkin)
        · rename_i halive
          have hclassified : Midway start begun (some (w.classify s e).1) none (w.classify s e).2 :=
            Midway.classify (h.unburied (by simpa using halive))
          exact turned_concludeAttempt hid hclassified (hadmits.kin (kin_classify ..))
      · rename_i houtcome
        rw [newsOf_eq_none houtcome] at h
        exact turned_concludeAttempt hid h hadmits

theorem turned_beginWork (h : Midway start begun (some s) none w) (hfit : Fit start begun s)
    (hG : G (.seated ⟨.scan .first, s, s.firstWait, scan.deadline⟩)) :
    Turned start begun id G (w.beginWork id scan s) :=
  turned_beginAttempt hid (h.quiet (.stirs (.record ..))) hfit hG

/-- A session from the pool begins a first attempt, on another proxy if its own is dead. -/
theorem turned_acquire (h : Midway start begun (some s) none w) (hfit : Fit start begun s)
    (hG : ∀ s', s.Kin s' → G (.seated ⟨.scan .first, s', s'.firstWait, scan.deadline⟩)) :
    Turned start begun id G (w.acquire id scan s) := by
  have hrefreshed := h.refreshProxy
  have hkin := kin_refreshProxy (w := w) s
  have haccount := account_refreshProxy (w := w) s
  rw [acquire]
  generalize w.refreshProxy s = refreshed at hrefreshed hkin haccount ⊢
  obtain ⟨s₁, w₁⟩ := refreshed
  dsimp only at hrefreshed hkin haccount ⊢
  split
  · have hswapped := hrefreshed.swapProxy (by simp)
    have hkin' := hkin.trans (kin_swapProxy (w := w₁) s₁)
    have haccount' := (account_swapProxy (w := w₁) s₁).trans haccount
    split
    · rename_i s₂ w₂ hswap
      rw [hswap] at hswapped hkin' haccount'
      have halive := alive_of_swapProxy hswap
      exact turned_beginWork hid hswapped (hfit.bind haccount' halive) (hG s₂ hkin')
    · rename_i s₂ w₂ hswap
      rw [hswap] at hswapped
      exact turned_finishScan hid hswapped.evict.part (by simp) _
  · rename_i halive
    exact turned_beginWork hid hrefreshed (hfit.bind haccount (by simpa using halive)) (hG s₁ hkin)

/-- So does a session that has just been built. -/
theorem turned_acquireNew (h : Midway start begun none none w)
    (hG : ∀ s, G (.seated ⟨.scan .first, s, s.firstWait, scan.deadline⟩)) :
    Turned start begun id G (w.acquireNew id scan) := by
  have hprovisioned := h.provision
  rw [acquireNew]
  split
  · rename_i s w' hprovision
    rw [hprovision] at hprovisioned
    have hshown : Midway start begun (some s) none (w'.show_ s) := Midway.show_ hprovisioned
    exact turned_beginWork hid hshown (fun _ _ => useful_of_provision hprovision) (hG s)
  · rename_i e w' hprovision
    rw [hprovision] at hprovisioned
    exact turned_finishScan hid (Midway.part hprovisioned) (by simp) _

/-! ## Preloads -/

theorem turned_beginPreloadLogin {swapped : Bool} (h : Midway start begun (some s) none w)
    (hfit : Fit start begun s)
    (hG : ∀ deadline, G (.seated ⟨.preload swapped, s, .login (.token .first), deadline⟩)) :
    Turned start begun id G (w.beginPreloadLogin id p s swapped) := by
  rw [beginPreloadLogin, proceed]
  exact Midway.sit (h.quiet (.stirs (.enterGate ..))) hid rfl hfit (hG _) _

/-- A preloaded session is in the pool after its login, or nowhere. -/
theorem turned_afterPreloadLogin {f : Option Failure}
    (h : Midway start begun (some s) ((f.bind Failure.news).bind ClientError.unburied) w)
    (hG : ∀ s', s.Kin s' → G (.resting s')) :
    Turned start begun id G (w.afterPreloadLogin id p s f) := by
  have hends {s₁ : Session} {w₁ : World} (h : Midway start begun (some s₁) none w₁)
      (hG : G (.resting s₁)) : Turned start begun id G (if s₁.isSpent = true then
        (w₁.evict s₁).proceed id (.preload { p with stage := .next })
        else (w₁.sendToPool s₁).proceed id
          (.preload { p with queued := p.queued + 1, stage := .next })) := by
    split
    · exact h.evict.part.settle hid rfl (by simp) _
    · rename_i hspent
      obtain ⟨left, hleft, hparted⟩ := h.sendToPool fun _ _ => by simpa using hspent
      exact hparted.settle hid rfl (fun s hs => hleft s hs ▸ hG) _
  unfold afterPreloadLogin
  split
  rename_i s₁ w₁ hjudged
  split at hjudged
  · rename_i e
    have hclassified : Midway start begun (some (w.classify s e).1) none (w.classify s e).2 :=
      Midway.classify h
    have hkin := kin_classify (w := w) s e
    rw [hjudged] at hclassified hkin
    exact hends hclassified (hG s₁ hkin)
  · rename_i hother
    obtain ⟨rfl, rfl⟩ := Prod.mk.inj hjudged
    apply hends _ (hG s (.refl s))
    cases f with
    | none => exact h
    | some f =>
        cases f with
        | deadline => exact h
        | client e => exact (hother e rfl).elim

end Endings

/-! ## Turns with a session -/

theorem isSome_of_seat? {σ : Seat} (h : w.seat? id = some σ) : (w.task? id).isSome := by
  obtain ⟨t, ht, -⟩ := Option.bind_eq_some_iff.mp h
  rw [ht]
  rfl

/-- The client has answered. -/
theorem admits_heard {σ : Seat} {a : Answer} (herrand : σ.errand = .scan attempt)
    (ha : σ.wait.IsAnswered now a) (hf : ∀ e, f = some e → a.failure = some e)
    (hmust : σ.wait.kind? = some .map → a.failure = some .invalidAuthToken →
      f = some .invalidAuthToken) :
    Admits (Course now σ) now σ.deadline attempt (σ.session.hear σ.wait a) f where
  back s' hs' := by
    apply Course.back ha
    · split at hs'
      · exact Or.inr hs'
      · exact Or.inl hs'
    · intro hmap hrejected htime
      rw [if_pos ⟨hmust hmap hrejected, htime⟩] at hs'
      exact hs'.mustLogin
  swap hdead hattempt s' hs' := by
    apply Course.swap ha (hf _ hdead) _ hs' (Or.inl rfl)
    simp [herrand, hattempt]
  again hinvalid hattempt s' hs' := by
    apply Course.again ha (hf _ hinvalid) _ hs' rfl rfl
    simpa [herrand] using hattempt

/-- The deadline has passed. -/
theorem admits_late {σ : Seat} (hdeadline : σ.deadline ≤ now)
    (hdue : ∀ a, ¬ σ.wait.IsAnswered now a) :
    Admits (Course now σ) now σ.deadline attempt σ.session none where
  back s' hs' := .quit hdeadline hdue (by simpa using hs')
  swap hdead := by simp at hdead
  again hinvalid := by simp at hinvalid

/-- What a turn of the login of a session comes to. -/
inductive Logs (now : Nat) (σ : Seat) : LoginStep → Prop where
  | blocked (hcourse : Course now σ (.seated σ)) (hnews : σ.news now = none) : Logs now σ .blocked
  | moved {s : Session} {wait : LoginWait}
      (hcourse : Course now σ (.seated ⟨σ.errand, s, .login wait, σ.deadline⟩))
      (hnews : ∀ e ∈ σ.news now, e = .invalidAuthToken) : Logs now σ (.moved s wait)
  | succeeded {a : Answer} (ha : σ.wait.IsAnswered now a) (h : a.failure = none)
      (hcourse : Course now σ
        (.seated ⟨σ.errand, σ.session.hear σ.wait a, .callToken, σ.deadline⟩)) :
      Logs now σ (.succeeded (σ.session.hear σ.wait a))
  | late (hdeadline : σ.deadline ≤ now) (hdue : ∀ a, ¬ σ.wait.IsAnswered now a) :
      Logs now σ (.failed σ.session .deadline)
  | failed {a : Answer} {e : ClientError} (ha : σ.wait.IsAnswered now a)
      (h : a.failure = some e) : Logs now σ (.failed (σ.session.hear σ.wait a) (.client e))

/-- What a turn of a login comes to is settled by the answer that it has waited for. -/
theorem loginTurn_logs (id : Nat) {σ : Seat} {wait : LoginWait} (hwait : σ.wait = .login wait) :
    Logs w.now σ (w.loginTurn id σ.deadline σ.session wait).1 := by
  obtain ⟨errand, s, wait', deadline⟩ := σ
  dsimp only at hwait ⊢
  subst hwait
  unfold loginTurn
  cases wait with
  | token t =>
      have hdue (a : Answer) : ¬ (ScanWait.login (.token t)).IsAnswered w.now a := by
        simp [ScanWait.IsAnswered, ScanWait.answer?]
      dsimp only
      split
      · have hnow : ((w.takeToken .login).startLogin s).2.2.now = w.now :=
          (Still.stirs ((Stirs.takeToken .login).trans (.startLogin s))).now
        rw [hnow]
        exact .moved (.login ..) (by simp [Seat.news, ScanWait.answer?])
      · split
        · rename_i hdeadline
          exact .late hdeadline hdue
        · rename_i hdeadline
          exact .blocked (.stay (Nat.lt_of_not_le hdeadline) hdue) (Seat.news_eq_none hdue)
  | answer t a due =>
      dsimp only
      split
      · rename_i hdue
        have ha : (ScanWait.login (.answer t a due)).IsAnswered w.now a := ⟨due, hdue, rfl⟩
        split
        · rename_i hfailure
          exact .succeeded ha hfailure (.enter _ _ _ _ hdue hfailure)
        · rename_i hfailure
          apply Logs.moved (.reject _ _ _ hdue hfailure)
          rw [Seat.news_of_isAnswered ha, hfailure]
          simp [Errand.heeds, ClientError.unburied]
        · rename_i hfailure _
          exact .failed ha hfailure
      · rename_i hdue
        have hdue (a' : Answer) : ¬ (ScanWait.login (.answer t a due)).IsAnswered w.now a' := by
          rintro ⟨due', hdue', hanswer⟩
          cases hanswer
          exact hdue hdue'
        split
        · rename_i hdeadline
          exact .late hdeadline hdue
        · rename_i hdeadline
          exact .blocked (.stay (Nat.lt_of_not_le hdeadline) hdue) (Seat.news_eq_none hdue)

/-- What is still news after a turn of a login. -/
@[simp]
def LoginStep.news : LoginStep → Option ClientError
  | .failed _ f => f.news
  | _ => none

/-- A turn of a login changes nothing but the client of the session. -/
theorem Midway.loginTurn (id : Nat) {σ : Seat} {wait : LoginWait} (hwait : σ.wait = .login wait)
    (h : Midway start begun (some σ.session) (σ.news start.now) start) :
    Midway start begun (some ((start.loginTurn id σ.deadline σ.session wait).1.session σ.session))
      (σ.errand.heeds (start.loginTurn id σ.deadline σ.session wait).1.news)
      (start.loginTurn id σ.deadline σ.session wait).2 := by
  have hlogs := loginTurn_logs (w := start) id hwait
  obtain ⟨haccount, hproxy⟩ :=
    (loginTurn_follows (w := start) id σ.deadline σ.session wait).keeps
  have hlogged := (h.quiet (.stirs (.loginTurn id σ.deadline σ.session wait))).touch haccount hproxy
  generalize start.loginTurn id σ.deadline σ.session wait = turned at hlogs hlogged ⊢
  obtain ⟨step, w⟩ := turned
  cases hlogs with
  | blocked _ hnews =>
      rw [hnews] at hlogged
      simpa using hlogged
  | moved _ hnews =>
      cases hheard : σ.news start.now with
      | none =>
          rw [hheard] at hlogged
          simpa using hlogged
      | some e =>
          obtain rfl := hnews e hheard
          rw [hheard] at hlogged
          simpa using hlogged.shrug rfl (by simp)
  | succeeded ha hfailure =>
      rw [Seat.news_of_isAnswered ha, hfailure] at hlogged
      simpa using hlogged
  | late _ hdue =>
      rw [Seat.news_eq_none hdue] at hlogged
      simpa using hlogged
  | failed ha hfailure =>
      rw [Seat.news_of_isAnswered ha, hfailure] at hlogged
      exact hlogged

/-- A scan that logs its session in has its turn. -/
theorem turned_workTurn_login {σ : Seat} {wait : LoginWait}
    (hσ : σ = ⟨.scan attempt, s, .login wait, scan.deadline⟩)
    (hseat : start.seat? id = some σ)
    (h : Midway start begun (some s) (σ.news start.now) start) (hfit : Fit start begun s) :
    Turned start begun id (Course start.now σ)
      (start.workTurn id scan s attempt (.login wait)) := by
  subst hσ
  have hid := isSome_of_seat? hseat
  have hlogs := loginTurn_logs (w := start) id
    (σ := ⟨.scan attempt, s, .login wait, scan.deadline⟩) rfl
  have hlogged := Midway.loginTurn id
    (σ := ⟨.scan attempt, s, .login wait, scan.deadline⟩) rfl h
  obtain ⟨haccount, hproxy⟩ :=
    (loginTurn_follows (w := start) id scan.deadline s wait).keeps
  unfold workTurn
  dsimp only at hlogs hlogged ⊢
  generalize start.loginTurn id scan.deadline s wait = turned at hlogs hlogged haccount hproxy ⊢
  obtain ⟨step, w⟩ := turned
  have hfit := hfit.of_eq haccount hproxy
  cases hlogs with
  | blocked hcourse => exact Midway.stay hlogged hseat hfit hcourse
  | moved hcourse => exact turned_work hid hlogged hfit hcourse
  | succeeded _ _ hcourse => exact turned_lineUpForCall hid hlogged hfit hcourse
  | late hdeadline hdue =>
      exact turned_afterAttempt hid _ hlogged hfit (admits_late hdeadline hdue)
  | failed ha hfailure =>
      apply turned_afterAttempt hid _ hlogged hfit
      apply admits_heard rfl ha
      · exact fun e he => hfailure.trans he
      · exact fun _ hrejected => hfailure.symm.trans hrejected

/-- A scan that waits for a token of the call gate has its turn. -/
theorem turned_workTurn_callToken {σ : Seat}
    (hσ : σ = ⟨.scan attempt, s, .callToken, scan.deadline⟩) (hseat : start.seat? id = some σ)
    (h : Midway start begun (some s) (σ.news start.now) start) (hfit : Fit start begun s) :
    Turned start begun id (Course start.now σ) (start.workTurn id scan s attempt .callToken) := by
  subst hσ
  have hid := isSome_of_seat? hseat
  have hdue (a : Answer) : ¬ ScanWait.callToken.IsAnswered start.now a := by
    simp [ScanWait.IsAnswered, ScanWait.answer?]
  rw [Seat.news_eq_none hdue] at h
  rw [workTurn]
  dsimp only
  split
  · have hquiet : start.Quiet ((start.takeToken .call).startMap s).2.2 :=
      Quiet.stirs ((Stirs.takeToken .call).trans (.record ..))
    have hcalled : Midway start begun (some ((start.takeToken .call).startMap s).2.1) none
        ((start.takeToken .call).startMap s).2.2 := (h.quiet hquiet).touch rfl rfl
    apply turned_work hid hcalled (hfit.of_eq rfl rfl)
    rw [hquiet.now]
    exact .call ..
  · split
    · rename_i hdeadline
      exact turned_afterAttempt hid (.error .deadline) (h.quiet (.stirs (.leaveGate ..))) hfit
        (admits_late hdeadline hdue)
    · rename_i hdeadline
      exact Midway.stay (h.quiet (.stirs (.awaitToken ..))) hseat hfit
        (.stay (Nat.lt_of_not_le hdeadline) hdue)

/-- A scan that waits for the answer to its map call has its turn. -/
theorem turned_workTurn_call {σ : Seat} {a : Answer} {due : Nat}
    (hσ : σ = ⟨.scan attempt, s, .call a due, scan.deadline⟩) (hseat : start.seat? id = some σ)
    (h : Midway start begun (some s) (σ.news start.now) start) (hfit : Fit start begun s) :
    Turned start begun id (Course start.now σ)
      (start.workTurn id scan s attempt (.call a due)) := by
  subst hσ
  have hid := isSome_of_seat? hseat
  rw [workTurn]
  dsimp only
  by_cases hdue : due ≤ start.now
  · have ha : (ScanWait.call a due).IsAnswered start.now a := ⟨due, hdue, rfl⟩
    rw [Seat.news_of_isAnswered ha, Errand.heeds_scan] at h
    rw [if_pos hdue]
    have hheard : Midway start begun (some (start.finishMap a s).1) a.failure
        (start.finishMap a s).2 := (h.quiet (.stirs (.finishMap a s))).touch rfl rfl
    have hadmits {f : Option ClientError} (hf : ∀ e, f = some e → a.failure = some e)
        (hmust : a.failure = some .invalidAuthToken → f = some .invalidAuthToken) :
        Admits (Course start.now ⟨.scan attempt, s, .call a due, scan.deadline⟩) start.now
          scan.deadline attempt (start.finishMap a s).1 f :=
      admits_heard rfl ha hf fun _ => hmust
    split
    · rename_i hfailure
      rw [hfailure] at hheard
      apply turned_afterAttempt hid (.ok a.payload) hheard (hfit.of_eq rfl rfl)
      apply hadmits <;> simp [hfailure]
    · rename_i hfailure
      rw [hfailure] at hheard
      apply turned_afterAttempt hid (.ok {}) (hheard.shrug rfl (by simp))
        (hfit.of_eq rfl rfl)
      apply hadmits <;> simp [hfailure]
    · rename_i e _ hfailure
      rw [hfailure] at hheard
      apply turned_afterAttempt hid (.error (.client e)) hheard (hfit.of_eq rfl rfl)
      apply hadmits <;> simp [hfailure]
  · have hnot (a' : Answer) : ¬ (ScanWait.call a due).IsAnswered start.now a' := by
      rintro ⟨due', hdue', hanswer⟩
      cases hanswer
      exact hdue hdue'
    rw [Seat.news_eq_none hnot] at h
    rw [if_neg hdue]
    split
    · rename_i hdeadline
      exact turned_afterAttempt hid (.error .deadline) h hfit
        (admits_late hdeadline hnot)
    · rename_i hdeadline
      exact Midway.stay (h.quiet (.stirs ((Stirs.alarm ..).trans (.alarm ..)))) hseat hfit
        (.stay (Nat.lt_of_not_le hdeadline) hnot)

/-- A scan that has a session has its turn. -/
theorem turned_workTurn {σ : Seat} {wait : ScanWait}
    (hσ : σ = ⟨.scan attempt, s, wait, scan.deadline⟩) (hseat : start.seat? id = some σ)
    (h : Midway start begun (some s) (σ.news start.now) start) (hfit : Fit start begun s) :
    Turned start begun id (Course start.now σ) (start.workTurn id scan s attempt wait) := by
  cases wait with
  | login wait => exact turned_workTurn_login hσ hseat h hfit
  | callToken => exact turned_workTurn_callToken hσ hseat h hfit
  | call a due => exact turned_workTurn_call hσ hseat h hfit

/-- A preload that logs a session in has its turn. -/
theorem turned_preloadTurn {σ : Seat} {wait : LoginWait} {swapped : Bool} {deadline : Nat}
    (hσ : σ = ⟨.preload swapped, s, .login wait, deadline⟩)
    (hstage : p.stage = .login s swapped deadline wait) (hseat : start.seat? id = some σ)
    (h : Midway start begun (some s) (σ.news start.now) start) (hfit : Fit start begun s) :
    Turned start begun id (Course start.now σ) (start.preloadTurn id p) := by
  subst hσ
  have hid := isSome_of_seat? hseat
  have hlogs := loginTurn_logs (w := start) id
    (σ := ⟨.preload swapped, s, .login wait, deadline⟩) rfl
  have hlogged := Midway.loginTurn id
    (σ := ⟨.preload swapped, s, .login wait, deadline⟩) rfl h
  obtain ⟨haccount, hproxy⟩ := (loginTurn_follows (w := start) id deadline s wait).keeps
  rw [preloadTurn, hstage]
  dsimp only at hlogs hlogged ⊢
  generalize start.loginTurn id deadline s wait = turned at hlogs hlogged haccount hproxy ⊢
  obtain ⟨step, w⟩ := turned
  have hfit := hfit.of_eq haccount hproxy
  have hnot (s : Session) (a : Answer) : (ScanWait.login wait).kind? = some .map →
      a.failure = some .invalidAuthToken → start.now < deadline → s.mustLogin = true := by
    cases wait <;> simp [ScanWait.kind?]
  cases hlogs with
  | blocked hcourse =>
      have hblocked : Midway start begun (some s) none w := by
        simpa [LoginStep.session] using hlogged
      exact hblocked.stay hseat hfit hcourse
  | @moved s' wait' hcourse =>
      have hmoved : Midway start begun (some s') none w := by
        simpa [LoginStep.session] using hlogged
      dsimp only
      rw [proceed]
      exact Midway.sit (σ := ⟨.preload swapped, s', .login wait', deadline⟩) hmoved hid rfl hfit
        hcourse _
  | succeeded ha =>
      apply turned_afterPreloadLogin hid
      · simpa [LoginStep.session] using hlogged
      · exact fun s' hs' => .back ha (Or.inl hs') (hnot _ _)
  | late hdeadline hdue =>
      dsimp only
      rw [if_neg (by simp)]
      apply turned_afterPreloadLogin hid
      · simpa [LoginStep.session] using hlogged
      · exact fun s' hs' => .quit hdeadline hdue hs'
  | @failed a e ha hfailure =>
      have hfailed : Midway start begun (some (s.hear (.login wait) a))
          ((Errand.preload swapped).heeds (some e)) w := hlogged
      dsimp only
      split
      · rename_i hswap
        obtain ⟨he, rfl⟩ := hswap
        obtain rfl := Failure.client.inj he
        have hdead : ∀ e ∈ (Errand.preload false).heeds (some .proxyDead), e = .proxyDead := by
          simp [Errand.heeds]
        have hswapped := hfailed.swapProxy hdead
        have hkin := kin_swapProxy (w := w) (s.hear (.login wait) a)
        have haccount' := account_swapProxy (w := w) (s.hear (.login wait) a)
        split
        · rename_i s' w' hswap
          rw [hswap] at hswapped hkin haccount'
          have halive := alive_of_swapProxy hswap
          apply turned_beginPreloadLogin hid hswapped (hfit.bind haccount' halive)
          exact fun _ => .swap ha hfailure (by simp) hkin (Or.inr rfl)
        · rename_i s' w' hswap
          rw [hswap] at hswapped hkin
          apply turned_afterPreloadLogin hid hswapped
          exact fun s'' hs'' => .back ha (Or.inl (hkin.trans hs'')) (hnot _ _)
      · rename_i hstay
        have hunburied : (Errand.preload swapped).heeds (some e) = e.unburied := by
          cases swapped with
          | true => simp [Errand.heeds]
          | false =>
              have halive : e ≠ .proxyDead := by simpa using hstay
              simp [Errand.heeds, ClientError.unburied, halive]
        rw [hunburied] at hfailed
        apply turned_afterPreloadLogin hid (f := some (.client e)) hfailed
        exact fun s' hs' => .back ha (Or.inl hs') (hnot _ _)

end World

end MapScout
