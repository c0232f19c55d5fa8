import MapScout.Proofs.Dispatch.Verdicts

/-!
# How scans part with their sessions

What one turn of a scan can do to the session that it has, said exactly.  A scan that goes on keeps
its session.  A scan that ends has written down what it has learnt of the session, looks the proxy
up once more, and then drops the session or lays it down to rest.  There is no third way, whatever
the scan has come to and whoever else has written to the inventory meanwhile.
-/

namespace MapScout

/-! ## What is known of a session -/

theorem Board.remove_remove (account : String) (b : Board) :
    (b.remove account).remove account = b.remove account := by
  simp [remove, List.filter_filter]

theorem Account.judged_of_healthy {a : Account} {e : ClientError}
    (h : e.accountHealth = .healthy) : a.judged e = a := by
  rw [judged, h]

theorem Account.isUnusable_judged {a : Account} {e : ClientError}
    (h : e.accountHealth ≠ .healthy) : (a.judged e).isUnusable = true := by
  apply isUnusable_of_bears h
  rw [bears_judged, decide_eq_true rfl, Bool.or_true]

def Session.told (s : Session) (news : Option ClientError) : Session :=
  { s with
    account := news.elim s.account s.account.judged
    proxy := if news = some .proxyDead then s.proxy.die else s.proxy }

/-- The inventory after the news of a session has been written down. -/
def Inventory.told (i : Inventory) (s : Session) (news : Option ClientError) : Inventory :=
  match news with
  | none => i
  | some e =>
    if e = .proxyDead then (i.saveProxy? s.proxy.die).getD i
    else if e.accountHealth = .healthy then i
    else (i.saveAccount? (s.account.judged e)).getD i

/-- A session after its proxy has been looked up. -/
def Inventory.refresh (i : Inventory) (s : Session) : Session :=
  if !s.proxy.dead && i.isProxyDead s.proxy.id then s.bind s.proxy.die else s

section News

variable {i : Inventory} {s s' : Session} {e : ClientError} {news : Option ClientError}

theorem Session.told_none (s : Session) : s.told none = s := by simp [told]

/-- The news that its proxy is dead kills the proxy of a session. -/
theorem Session.told_proxyDead (s : Session) : s.told (some .proxyDead) = s.bind s.proxy.die := by
  have hjudged : s.account.judged .proxyDead = s.account := Account.judged_of_healthy rfl
  simp [told, Session.bind, hjudged]

theorem Session.told_of_ne (s : Session) (he : e ≠ .proxyDead) :
    s.told (some e) = { s with account := s.account.judged e } := by
  simp [told, he]

/-- Some failures say nothing of the session. -/
theorem Session.told_of_healthy (hhealth : e.accountHealth = .healthy) (he : e ≠ .proxyDead) :
    s.told (some e) = s := by
  rw [told_of_ne s he, Account.judged_of_healthy hhealth]

theorem Session.username_told (s : Session) (news : Option ClientError) :
    (s.told news).username = s.username := by
  cases news with
  | none => rfl
  | some e => exact s.account.username_judged e

theorem Inventory.told_proxyDead (i : Inventory) (s : Session) :
    i.told s (some .proxyDead) = (i.saveProxy? s.proxy.die).getD i := by
  rw [told, if_pos rfl]

theorem Inventory.told_of_healthy (hhealth : e.accountHealth = .healthy) (he : e ≠ .proxyDead) :
    i.told s (some e) = i := by
  rw [told, if_neg he, if_pos hhealth]

/-- The news of a verdict is written down with the account. -/
theorem Inventory.told_of_verdict (hhealth : e.accountHealth ≠ .healthy) :
    i.told s (some e) = (i.saveAccount? (s.account.judged e)).getD i := by
  have he : e ≠ .proxyDead := fun he => hhealth (he ▸ rfl)
  rw [told, if_neg he, if_neg hhealth]

/-- News that leaves a session of use says nothing of it. -/
theorem told_of_not_spent (h : (s.told news).isSpent = false) :
    s.told news = s ∧ i.told s news = i := by
  cases news with
  | none => exact ⟨s.told_none, rfl⟩
  | some e =>
      rw [Session.isSpent, Bool.or_eq_false_iff] at h
      have he : e ≠ .proxyDead := by
        rintro rfl
        rw [Session.told_proxyDead] at h
        cases h.2
      have hhealth : e.accountHealth = .healthy := by
        by_contra hhealth
        exact Bool.noConfusion ((Account.isUnusable_judged hhealth).symm.trans h.1)
      exact ⟨Session.told_of_healthy hhealth he, Inventory.told_of_healthy hhealth he⟩

theorem Inventory.username_refresh (i : Inventory) (s : Session) :
    (i.refresh s).username = s.username := by
  rw [refresh]
  split <;> rfl

/-- A session is spent if it was so before, or if its proxy is dead or gone. -/
theorem Inventory.isSpent_refresh (i : Inventory) (s : Session) :
    (i.refresh s).isSpent = (s.isSpent || i.isProxyDead s.proxy.id) := by
  rw [refresh, Session.isSpent]
  cases hdead : s.proxy.dead <;> cases hgone : i.isProxyDead s.proxy.id <;>
    simp [Session.isSpent, Session.bind, Proxy.die, hdead]

/-- A session that is still of use after a look at the inventory was so before. -/
theorem Inventory.refresh_of_not_spent (h : (i.refresh s).isSpent = false) : i.refresh s = s := by
  rw [isSpent_refresh, Bool.or_eq_false_iff] at h
  rw [refresh, h.2, Bool.and_false, if_neg Bool.false_ne_true]

/-- What a look at the inventory shows depends on the account and on the proxy. -/
theorem Inventory.giveBack_refresh_congr (j : Inventory) (haccount : s'.account = s.account)
    (hproxy : s'.proxy = s.proxy) : j.giveBack (i.refresh s') = j.giveBack (i.refresh s) := by
  have hsame : (i.refresh s').account = (i.refresh s).account ∧
      (i.refresh s').proxy = (i.refresh s).proxy := by
    rw [refresh, refresh, hproxy]
    split <;> exact ⟨haccount, by first | rfl | exact hproxy⟩
  rw [giveBack, giveBack, Session.username, Session.username, hsame.1, hsame.2]

end News

namespace World

variable {start w w' : World} {id : Nat} {scan : Scan} {s s' s'' : Session} {attempt : Attempt}
variable {e : ClientError} {news : Option ClientError} {outcome : Except Failure MapPayload}

/-! ## In the middle of a turn -/

/-- No session has been dropped, and nothing has happened to the tasks and the pool. -/
structure Retains (w w' : World) : Prop extends Frame w w' where
  evictions : w'.counters.evictions = w.counters.evictions

namespace Retains

theorem trans {w₁ w₂ w₃ : World} (h₁ : w₁.Retains w₂) (h₂ : w₂.Retains w₃) : w₁.Retains w₃ :=
  ⟨h₁.toFrame.trans h₂.toFrame, h₂.evictions.trans h₁.evictions⟩

theorem quiet (h : w.Quiet w') : w.Retains w' := ⟨h.toFrame, h.evictions⟩

theorem refl (w : World) : w.Retains w := quiet (.refl w)

theorem deals (h : w.Deals w') : w.Retains w' :=
  have huncounted := Uncounted.deals h
  ⟨huncounted.toFrame, congrArg Counters.evictions huncounted.counters⟩

end Retains

/-- The news of the session `s` has been written down, which is `s'` now.  Nothing else has happened
to the inventory and to the board. -/
structure Heeds (start : World) (s : Session) (news : Option ClientError) (w : World)
    (s' : Session) : Prop extends Retains start w where
  account : s'.account = (s.told news).account
  proxy : s'.proxy = (s.told news).proxy
  inventory : start.store.Faultless → w.store.inventory = start.store.inventory.told s news
  board : w.board = start.board ∨
    (s.told news).account.isUnusable = true ∧ w.board = start.board.remove s.username

namespace Heeds

/-- What shows on no board and in no inventory is no news. -/
theorem quiet (h : start.Heeds s news w s') (hquiet : w.Quiet w') : start.Heeds s news w' s' :=
  ⟨h.toRetains.trans (.quiet hquiet), h.account, h.proxy,
    fun hfaultless => hquiet.inventory.trans (h.inventory hfaultless), hquiet.board ▸ h.board⟩

theorem touch (h : start.Heeds s news w s') (haccount : s''.account = s'.account)
    (hproxy : s''.proxy = s'.proxy) : start.Heeds s news w s'' :=
  ⟨h.toRetains, haccount.trans h.account, hproxy.trans h.proxy, h.inventory, h.board⟩

theorem username (h : start.Heeds s news w s') : s'.username = s.username :=
  (congrArg Account.username h.account).trans (s.username_told news)

/-- In the beginning there is no news. -/
theorem begin (hquiet : start.Quiet w) (haccount : s'.account = s.account)
    (hproxy : s'.proxy = s.proxy) : start.Heeds s none w s' := by
  refine ⟨.quiet hquiet, ?_, ?_, fun _ => hquiet.inventory, .inl hquiet.board⟩
  · rwa [Session.told_none]
  · rwa [Session.told_none]

/-- The first news is written down as soon as it is there. -/
theorem markProxyDead (h : start.Heeds s none w s') :
    start.Heeds s (some .proxyDead) (w.markProxyDead s').2 (w.markProxyDead s').1 := by
  have haccount := h.account
  have hproxy := h.proxy
  rw [Session.told_none] at haccount hproxy
  refine ⟨h.toRetains.trans (.deals (.markProxyDead s')), ?_, ?_, fun hfaultless => ?_, ?_⟩
  · rw [Session.told_proxyDead]
    exact haccount
  · rw [Session.told_proxyDead]
    exact congrArg Proxy.die hproxy
  · have hsaved : (w.markProxyDead s').2.store.inventory =
        (w.store.inventory.saveProxy? s'.proxy.die).getD w.store.inventory :=
      Store.inventory_saveProxy (h.faultless hfaultless) s'.proxy.die
    rw [hsaved, h.inventory hfaultless, hproxy, Inventory.told_proxyDead]
    rfl
  · refine h.board.imp_right fun hboard => ?_
    rwa [Session.told_none] at hboard

/-- There is no other proxy. -/
theorem swapProxy (h : start.Heeds s none w s') (hswap : w.swapProxy s' = (false, s'', w')) :
    start.Heeds s (some .proxyDead) w' s'' := by
  have hmarked := h.markProxyDead
  have hretains := h.toRetains.trans (.deals (.swapProxy s'))
  rw [World.swapProxy] at hswap
  rw [World.swapProxy] at hretains
  dsimp only at hswap hretains
  split at hswap
  · rename_i e store hclaim
    rw [hclaim] at hretains
    obtain ⟨-, hswap⟩ := Prod.mk.inj hswap
    obtain ⟨rfl, rfl⟩ := Prod.mk.inj hswap
    refine ⟨hretains, hmarked.account, hmarked.proxy, fun hfaultless => ?_, hmarked.board⟩
    rw [Store.claimProxy, Store.claim_eq (hmarked.faultless hfaultless)] at hclaim
    split at hclaim
    · obtain ⟨-, rfl⟩ := Prod.mk.inj hclaim
      exact hmarked.inventory hfaultless
    · cases hclaim
  · cases hswap

/-- A verdict about the account. -/
theorem condemn (h : start.Heeds s none w s') (hhealth : e.accountHealth ≠ .healthy) {a : Account}
    (ha : s'.account.judged e = a) (hretains : start.Retains
      { w.tellStore (·.saveAccount a) with board := w.board.remove a.username }) :
    start.Heeds s (some e)
      { w.tellStore (·.saveAccount a) with board := w.board.remove a.username }
      { s' with account := a } := by
  have he : e ≠ .proxyDead := fun he => hhealth (he ▸ rfl)
  have haccount := h.account
  have hproxy := h.proxy
  rw [Session.told_none] at haccount hproxy
  rw [haccount] at ha
  subst ha
  refine ⟨hretains, ?_, ?_, fun hfaultless => ?_, ?_⟩
  · rw [Session.told_of_ne s he]
  · rw [Session.told_of_ne s he]
    exact hproxy
  · rw [Inventory.told_of_verdict hhealth]
    have hsaved := Store.inventory_saveAccount (h.faultless hfaultless) (s.account.judged e)
    rw [h.inventory hfaultless] at hsaved
    exact hsaved
  · rw [Session.told_of_ne s he]
    refine .inr ⟨Account.isUnusable_judged hhealth, ?_⟩
    change w.board.remove (s.account.judged e).username = _
    rw [s.account.username_judged e]
    rcases h.board with hboard | ⟨-, hboard⟩
    · rw [hboard]
      rfl
    · rw [hboard]
      exact Board.remove_remove ..

/-- The failure says nothing of the session. -/
theorem of_healthy (h : start.Heeds s none w s') (hhealth : e.accountHealth = .healthy)
    (he : e ≠ .proxyDead) : start.Heeds s (some e) w s' := by
  have hsame : s.told (some e) = s.told none :=
    (Session.told_of_healthy hhealth he).trans s.told_none.symm
  refine ⟨h.toRetains, ?_, ?_, fun hfaultless => ?_, ?_⟩
  · rw [hsame]
    exact h.account
  · rw [hsame]
    exact h.proxy
  · rw [h.inventory hfaultless, Inventory.told_of_healthy hhealth he]
    rfl
  · rw [hsame]
    exact h.board

/-- The conclusions that are drawn for the account, after those for the proxy. -/
theorem classify (h : start.Heeds s (if e = .proxyDead then some e else none) w s') :
    start.Heeds s (some e) (w.classify s' e).2 (w.classify s' e).1 := by
  by_cases he : e = .proxyDead
  · subst he
    exact h
  rw [if_neg he] at h
  have hretains := h.toRetains.trans (.deals (.classify s' e))
  rw [World.classify] at hretains ⊢
  split
  · rename_i hhealth
    exact h.of_healthy hhealth he
  · rename_i hhealth
    rw [hhealth] at hretains
    exact h.condemn (by simp [hhealth]) (by rw [Account.judged, hhealth]) hretains
  · rename_i hhealth
    rw [hhealth] at hretains
    exact h.condemn (by simp [hhealth]) (by rw [Account.judged, hhealth]) hretains

end Heeds

/-! ## The end of a turn -/

/-- What the turn of a scan comes to for its session, of which there is some news, unless the scan
waits on. -/
inductive Fares (start : World) (id : Nat) (s : Session) (news : Option ClientError) :
    World → Prop where
  /-- The scan goes on with the session. -/
  | works {w : World} {s' : Session} {scan : Scan} {attempt : Attempt} {wait : ScanWait}
      (h : start.Retains w) (hname : s'.username = s.username) :
      Fares start id s news (w.work id scan s' attempt wait)
  /-- It ends and parts with the session. -/
  | parts {w : World} {s' : Session} {scan : Scan} {result : Except ScanError (List MapObject)}
      (h : start.Heeds s news w s') :
      Fares start id s news ((w.disposeOf s').finishScan id scan result)

/-- A failure that says nothing of the session is no news. -/
theorem Fares.of_healthy (h : Fares start id s none w) (hhealth : e.accountHealth = .healthy)
    (he : e ≠ .proxyDead) : Fares start id s (some e) w := by
  cases h with
  | works h hname => exact .works h hname
  | parts h => exact .parts (h.of_healthy hhealth he)

/-- A scan that ends parts with the session that it has heeded all news of. -/
theorem fares_conclude (h : start.Heeds s news w s') (result : Except ScanError MapPayload) :
    Fares start id s news (w.conclude id scan s' result) := by
  rw [conclude]
  split
  · exact .parts (h.quiet (Quiet.addObjects _))
  · exact .parts h

/-- Whether its client will have to log in again is no news of the session. -/
theorem fares_concludeAttempt (h : start.Heeds s news w s')
    (outcome : Except Failure MapPayload) :
    Fares start id s news (w.concludeAttempt id scan s' outcome) := by
  unfold concludeAttempt
  split
  · exact fares_conclude h _
  · split
    · exact fares_conclude h _
    · rename_i e
      split
      · exact fares_conclude h _
      · obtain ⟨haccount, hproxy⟩ := scanError_keeps s' e
        exact fares_conclude (h.touch haccount hproxy) _

theorem fares_lineUpForCall (h : start.Retains w) (hname : s'.username = s.username) :
    Fares start id s news (w.lineUpForCall id scan s' attempt) :=
  .works (h.trans (.quiet (Quiet.stirs (.enterGate ..)))) hname

/-- An attempt begins with a wait at a gate. -/
theorem beginAttempt_works (id : Nat) (scan : Scan) (s : Session) (attempt : Attempt) (w : World) :
    ∃ v wait, w.Quiet v ∧ w.beginAttempt id scan s attempt = v.work id scan s attempt wait := by
  rw [beginAttempt]
  split
  · exact ⟨_, _, Quiet.stirs (.enterGate .call id), rfl⟩
  · exact ⟨_, _, Quiet.stirs (.enterGate .login id), rfl⟩

theorem beginWork_works (id : Nat) (scan : Scan) (s : Session) (w : World) :
    ∃ v wait, w.Quiet v ∧ w.beginWork id scan s = v.work id scan s .first wait := by
  obtain ⟨v, wait, hquiet, heq⟩ := beginAttempt_works id scan s .first
    (w.record s.client (.moved s.username scan.place w.now))
  exact ⟨v, wait, (Quiet.stirs (.record ..)).trans hquiet, heq⟩

theorem fares_beginAttempt (h : start.Retains w) (hname : s'.username = s.username) :
    Fares start id s news (w.beginAttempt id scan s' attempt) := by
  obtain ⟨v, wait, hquiet, heq⟩ := beginAttempt_works id scan s' attempt w
  rw [heq]
  exact .works (h.trans (.quiet hquiet)) hname

theorem fares_beginWork (h : start.Retains w) (hname : s'.username = s.username) :
    Fares start id s news (w.beginWork id scan s') := by
  obtain ⟨v, wait, hquiet, heq⟩ := beginWork_works id scan s' w
  rw [heq]
  exact .works (h.trans (.quiet hquiet)) hname

/-- After the first attempts only what they say of the account is to be written down. -/
theorem fares_afterAttempts
    (h : start.Heeds s (if newsOf outcome = some .proxyDead then newsOf outcome else none) w s') :
    Fares start id s (newsOf outcome) (w.afterAttempts id scan s' outcome) := by
  unfold afterAttempts
  split
  · rename_i e
    have hclassified : start.Heeds s (some e) (w.classify s' e).2 (w.classify s' e).1 := by
      apply Heeds.classify
      simpa using h
    dsimp only
    split
    · exact fares_lineUpForCall hclassified.toRetains hclassified.username
    · exact fares_concludeAttempt hclassified _
  · rename_i houtcome
    rw [newsOf_eq_none houtcome] at h ⊢
    exact fares_concludeAttempt h _

/-- The first attempt has met a dead proxy. -/
theorem fares_afterProxyDead (h : start.Heeds s none w s') :
    Fares start id s (some .proxyDead)
      (w.afterAttempt id scan s' .first (.error (.client .proxyDead))) := by
  unfold afterAttempt
  dsimp only
  rw [if_pos rfl]
  split
  · exact fares_conclude h.markProxyDead _
  · split
    · rename_i s₁ w₁ hswap
      have hretains := h.toRetains.trans (.deals (.swapProxy s'))
      have hkin := kin_swapProxy (w := w) s'
      rw [hswap] at hretains hkin
      exact fares_beginAttempt hretains (hkin.username.trans h.username)
    · rename_i hswap
      exact fares_conclude (h.swapProxy hswap) _

/-- A failure is news, whatever the attempt, and it is heeded before anything else is done. -/
theorem fares_afterAttempt (outcome : Except Failure MapPayload) (h : start.Heeds s none w s') :
    Fares start id s (newsOf outcome) (w.afterAttempt id scan s' attempt outcome) := by
  have halive (houtcome : ¬ outcome = .error (.client .proxyDead)) :
      start.Heeds s (if newsOf outcome = some .proxyDead then newsOf outcome else none) w s' := by
    rwa [if_neg (newsOf_ne houtcome)]
  cases attempt with
  | first =>
      unfold afterAttempt
      dsimp only
      split
      · exact fares_afterProxyDead h
      · rename_i houtcome
        rw [if_neg Bool.false_ne_true]
        exact fares_afterAttempts (halive houtcome)
  | swapped =>
      unfold afterAttempt
      dsimp only
      split
      · exact fares_afterAttempts (by simpa using h.markProxyDead)
      · rename_i houtcome
        exact fares_afterAttempts (halive houtcome)
  | repeated =>
      unfold afterAttempt
      dsimp only
      split
      · rename_i e
        split
        · rename_i hdead
          subst hdead
          exact fares_concludeAttempt (Heeds.classify (by simpa using h.markProxyDead)) _
        · rename_i hne
          exact fares_concludeAttempt (Heeds.classify (by rwa [if_neg hne])) _
      · rename_i houtcome
        rw [newsOf_eq_none houtcome]
        exact fares_concludeAttempt h _

/-! ### Looking the proxy up -/

/-- To look a proxy up is to read the inventory, in a store that does not fail. -/
theorem refreshProxy_eq (hfaultless : w.store.Faultless) (s : Session) :
    w.refreshProxy s = (w.store.inventory.refresh s, w) := by
  rw [refreshProxy, Inventory.refresh, Store.isProxyDead_eq hfaultless]
  cases s.proxy.dead <;> cases w.store.inventory.isProxyDead s.proxy.id <;> rfl

/-- A spent session is dropped, any other is put back with the cooldown of the settings. -/
theorem disposeOf_eq (hfaultless : w.store.Faultless) (s : Session) :
    w.disposeOf s = if (w.store.inventory.refresh s).isSpent then
        w.evict (w.store.inventory.refresh s)
      else (w.checkIn (w.store.inventory.refresh s) w.config.cooldown).2 := by
  rw [disposeOf, refreshProxy_eq hfaultless]

/-- What a scan learns of a session when it takes it over from the pool. -/
def foundOut (w : World) (s : Session) : Option ClientError :=
  if s.proxy.dead || w.store.inventory.isProxyDead s.proxy.id then some .proxyDead else none

/-- A scan that takes a session over from the pool parts with it if it has no proxy for it. -/
theorem fares_acquire (hfaultless : start.store.Faultless) (s : Session) :
    Fares start id s (start.foundOut s) (start.acquire id scan s) := by
  have hdead : (start.store.inventory.refresh s).proxy.dead =
      (s.proxy.dead || start.store.inventory.isProxyDead s.proxy.id) := by
    rw [Inventory.refresh]
    cases hdead : s.proxy.dead <;>
      cases start.store.inventory.isProxyDead s.proxy.id <;> simp [hdead, Session.bind, Proxy.die]
  have hname := start.store.inventory.username_refresh s
  rw [acquire, refreshProxy_eq hfaultless, foundOut]
  dsimp only
  rw [hdead]
  cases hlost : s.proxy.dead || start.store.inventory.isProxyDead s.proxy.id with
  | false => exact fares_beginWork (.refl start) hname
  | true =>
      -- It makes no difference whether the session knows it already.
      have hswap : start.swapProxy (start.store.inventory.refresh s) = start.swapProxy s := by
        rw [Inventory.refresh]
        split <;> rfl
      have hretains := Retains.deals (.swapProxy (w := start) s)
      have hkin := kin_swapProxy (w := start) s
      rw [if_pos rfl, if_pos rfl, hswap]
      split
      · rename_i s' w' hswap
        rw [hswap] at hretains hkin
        exact fares_beginWork hretains hkin.username
      · rename_i s' w' hswap
        have hheeds := (Heeds.begin (.refl start) rfl rfl).swapProxy hswap
        have hspent : (w'.store.inventory.refresh s').isSpent = true := by
          have hdead := hheeds.proxy
          rw [Session.told_proxyDead] at hdead
          rw [Inventory.isSpent_refresh, Session.isSpent, hdead]
          simp [Session.bind, Proxy.die]
        have hsame : w'.store.inventory.refresh s' = s' := by
          have hdead := hheeds.proxy
          rw [Session.told_proxyDead] at hdead
          rw [Inventory.refresh, hdead]
          rfl
        have hdropped : w'.evict s' = w'.disposeOf s' := by
          rw [disposeOf_eq (hheeds.faultless hfaultless), if_pos hspent, hsame]
        rw [hdropped]
        exact .parts hheeds

/-! ### Scans at work -/

/-- A turn of the login of a session. -/
theorem fares_workTurn_login (id : Nat) (scan : Scan) (s : Session) (attempt : Attempt)
    (wait : LoginWait) :
    w.Retains (w.workTurn id scan s attempt (.login wait)) ∨
      Fares w id s (Seat.news w.now ⟨.scan attempt, s, .login wait, scan.deadline⟩)
        (w.workTurn id scan s attempt (.login wait)) := by
  have hlogs := loginTurn_logs (w := w) id
    (σ := ⟨.scan attempt, s, .login wait, scan.deadline⟩) rfl
  have hquiet := Quiet.stirs (.loginTurn (w := w) id scan.deadline s wait)
  obtain ⟨haccount, hproxy⟩ := (loginTurn_follows (w := w) id scan.deadline s wait).keeps
  unfold workTurn
  dsimp only at hlogs ⊢
  generalize w.loginTurn id scan.deadline s wait = turned at hlogs hquiet haccount hproxy ⊢
  obtain ⟨step, v⟩ := turned
  have hname := congrArg Account.username haccount
  cases hlogs with
  | blocked => exact .inl (.quiet hquiet)
  | moved => exact .inr (.works (.quiet hquiet) hname)
  | succeeded => exact .inr (fares_lineUpForCall (.quiet hquiet) hname)
  | late _ hdue =>
      rw [Seat.news_eq_none hdue]
      exact .inr (fares_afterAttempt (.error .deadline) (.begin hquiet haccount hproxy))
  | @failed a e ha hfailure =>
      rw [Seat.news_of_isAnswered ha, hfailure, Errand.heeds_scan]
      exact .inr (fares_afterAttempt (.error (.client e)) (.begin hquiet haccount hproxy))

/-- A turn in which a scan waits for the token of its map call. -/
theorem fares_workTurn_callToken (id : Nat) (scan : Scan) (s : Session) (attempt : Attempt) :
    w.Retains (w.workTurn id scan s attempt .callToken) ∨
      Fares w id s (Seat.news w.now ⟨.scan attempt, s, .callToken, scan.deadline⟩)
        (w.workTurn id scan s attempt .callToken) := by
  rw [workTurn]
  dsimp only
  split
  · have hquiet : w.Quiet ((w.takeToken .call).startMap s).2.2 :=
      (Quiet.stirs (.takeToken .call)).trans (Quiet.stirs (.record ..))
    exact .inr (.works (.quiet hquiet) rfl)
  · split
    · have hleft := Quiet.stirs (.leaveGate (w := w) .call id)
      exact .inr (fares_afterAttempt (.error .deadline) (.begin hleft rfl rfl))
    · exact .inl (.quiet (Quiet.stirs (.awaitToken ..)))

/-- A turn in which a scan waits for its map. -/
theorem fares_workTurn_call (id : Nat) (scan : Scan) (s : Session) (attempt : Attempt) (a : Answer)
    (due : Nat) :
    w.Retains (w.workTurn id scan s attempt (.call a due)) ∨
      Fares w id s (Seat.news w.now ⟨.scan attempt, s, .call a due, scan.deadline⟩)
        (w.workTurn id scan s attempt (.call a due)) := by
  rw [workTurn]
  dsimp only
  by_cases hdue : due ≤ w.now
  · have hbegun : w.Heeds s none (w.finishMap a s).2 (w.finishMap a s).1 :=
      .begin (Quiet.stirs (.finishMap a s)) rfl rfl
    rw [if_pos hdue, Seat.news_of_isAnswered ⟨due, hdue, rfl⟩, Errand.heeds_scan]
    right
    split
    · rename_i hfailure
      rw [hfailure]
      exact fares_afterAttempt (.ok a.payload) hbegun
    · rename_i hfailure
      rw [hfailure]
      exact (fares_afterAttempt (.ok {}) hbegun).of_healthy rfl (by simp)
    · rename_i e _ hfailure
      rw [hfailure]
      exact fares_afterAttempt (.error (.client e)) hbegun
  · have hnot (a' : Answer) : ¬ (ScanWait.call a due).IsAnswered w.now a' := by
      rintro ⟨due', hdue', hanswer⟩
      cases hanswer
      exact hdue hdue'
    rw [if_neg hdue, Seat.news_eq_none hnot]
    split
    · exact .inr (fares_afterAttempt (.error .deadline) (.begin (.refl w) rfl rfl))
    · exact .inl (.quiet ((Quiet.stirs (.alarm ..)).trans (Quiet.stirs (.alarm ..))))

/-- Whatever a scan at work waits for, the news of its turn is what its answer says. -/
theorem fares_workTurn (id : Nat) (scan : Scan) (s : Session) (attempt : Attempt)
    (wait : ScanWait) :
    w.Retains (w.workTurn id scan s attempt wait) ∨
      Fares w id s (Seat.news w.now ⟨.scan attempt, s, wait, scan.deadline⟩)
        (w.workTurn id scan s attempt wait) := by
  cases wait with
  | login wait => exact fares_workTurn_login id scan s attempt wait
  | callToken => exact fares_workTurn_callToken id scan s attempt
  | call a due => exact fares_workTurn_call id scan s attempt a due

/-! ## Where the session goes -/

/-- What a scan sees of its session at last. -/
def lastLook (w : World) (s : Session) (news : Option ClientError) : Session :=
  (w.store.inventory.told s news).refresh (s.told news)

/-- A session is spent at last if its account is unusable, or its proxy dead in it, or dead or gone
in the inventory. -/
theorem isSpent_lastLook (w : World) (s : Session) (news : Option ClientError) :
    (w.lastLook s news).isSpent = ((s.told news).isSpent ||
      (w.store.inventory.told s news).isProxyDead (s.told news).proxy.id) :=
  Inventory.isSpent_refresh ..

/-- The session has been dropped.  It is counted, the board does not show its account, what is still
of use has been given back, and nothing has been put into the pool. -/
structure Drops (w : World) (s : Session) (news : Option ClientError) (w' : World) : Prop where
  evictions : w'.counters.evictions = w.counters.evictions + 1
  board : w'.board = w.board.remove s.username
  inventory : w'.store.inventory =
    (w.store.inventory.told s news).giveBack (w.lastLook s news)
  arrivals : w'.pool.arrivals = w.pool.arrivals
  buffer : w'.pool.buffer = w.pool.buffer
  cooling : w'.cooling = w.cooling

/-- The session has been put where it rests, or straight into the mail of the pool if there is no
rest. -/
structure PutsDown (w : World) (s : Session) (w' : World) : Prop where
  buffer : w'.pool.buffer = w.pool.buffer
  mailed : w.config.cooldown = 0 →
    w'.pool.arrivals = w.pool.arrivals ++ [s] ∧ w'.cooling = w.cooling
  laid : w.config.cooldown ≠ 0 → w'.pool.arrivals = w.pool.arrivals ∧
    w'.cooling = w.cooling ++ [(w.nextId, { session := s, span := w.config.cooldown })] ∧
    .cooling w.nextId ∈ w'.time.ready

/-- The session has been kept, on a proxy that is alive.  Nothing is counted, and nothing has
happened to the inventory and to the board. -/
structure Saves (w : World) (s : Session) (w' : World) : Prop where
  evictions : w'.counters.evictions = w.counters.evictions
  board : w'.board = w.board
  inventory : w'.store.inventory = w.store.inventory
  alive : s.proxy.dead = false ∧ w'.store.inventory.isProxyDead s.proxy.id = false
  put : ∃ s', s'.account = s.account ∧ s'.proxy = s.proxy ∧ w.PutsDown s' w'

theorem evictions_evict (s : Session) (w : World) :
    (w.evict s).counters.evictions = w.counters.evictions + 1 := by
  rw [counters_evict]
  rfl

/-- After that the board does not show the account, whatever the news has been. -/
theorem board_disposed (h : start.Heeds s news w s') :
    w.board.remove s.username = start.board.remove s.username := by
  rcases h.board with hboard | ⟨-, hboard⟩
  · rw [hboard]
  · rw [hboard, Board.remove_remove]

/-- A session that is spent is dropped. -/
theorem drops_of_spent (hfaultless : start.store.Faultless) (h : start.Heeds s news w s')
    (hspent : (start.lastLook s news).isSpent = true)
    (result : Except ScanError (List MapObject)) :
    start.Drops s news ((w.disposeOf s').finishScan id scan result) := by
  have hfaultless' := h.faultless hfaultless
  have hinventory := h.inventory hfaultless
  have hspent' : (w.store.inventory.refresh s').isSpent = true := by
    rw [isSpent_lastLook] at hspent
    rwa [Inventory.isSpent_refresh, Session.isSpent, h.account, h.proxy, hinventory]
  have hname := (w.store.inventory.username_refresh s').trans h.username
  have hframe := h.toFrame.trans (Frame.evict (w.store.inventory.refresh s'))
  rw [disposeOf_eq hfaultless', if_pos hspent']
  refine ⟨?_, ?_, ?_, ?_, ?_, hframe.cooling⟩
  · rw [evictions_finishScan, evictions_evict, h.evictions]
  · change (w.evict _).board = _
    rw [board_evict, hname, board_disposed h]
  · change (w.evict _).store.inventory = _
    rw [inventory_evict hfaultless', hinventory]
    exact Inventory.giveBack_refresh_congr _ h.account h.proxy
  · exact congrArg Pool.arrivals hframe.pool
  · exact congrArg Pool.buffer hframe.pool

/-- The session is put down. -/
theorem putsDown_checkIn (hopen : w.pool.isOpen = true) (hfit : s.isSpent = false)
    (result : Except ScanError (List MapObject)) :
    w.PutsDown s ((w.checkIn s w.config.cooldown).2.finishScan id scan result) := by
  rw [checkIn, if_neg (by simp [hfit])]
  by_cases hzero : w.config.cooldown = 0
  · rw [if_pos hzero, sendToPool, if_pos hopen, Pool.send, if_pos hopen]
    exact ⟨rfl, fun _ => ⟨rfl, rfl⟩, fun hne => absurd hzero hne⟩
  · rw [if_neg hzero]
    refine ⟨rfl, fun he => absurd he hzero, fun _ => ⟨rfl, rfl, ?_⟩⟩
    exact Timeline.mem_ready_forget.mpr
      ⟨Timeline.mem_ready_wake.mpr (.inr rfl), Owner.noConfusion⟩

theorem PutsDown.of_frame (h : w.PutsDown s w') (hframe : start.Frame w) :
    start.PutsDown s w' := by
  obtain ⟨hbuffer, hmailed, hlaid⟩ := h
  rw [hframe.pool] at hbuffer hmailed hlaid
  rw [hframe.config] at hmailed hlaid
  rw [hframe.cooling] at hmailed hlaid
  rw [hframe.nextId] at hlaid
  exact ⟨hbuffer, hmailed, hlaid⟩

/-- A session that is of use is kept. -/
theorem saves_of_fit (hfaultless : start.store.Faultless) (hopen : start.pool.isOpen = true)
    (h : start.Heeds s news w s') (hfit : (start.lastLook s news).isSpent = false)
    (result : Except ScanError (List MapObject)) :
    start.Saves s ((w.disposeOf s').finishScan id scan result) := by
  have hfaultless' := h.faultless hfaultless
  have hfit₀ := hfit
  rw [isSpent_lastLook, Bool.or_eq_false_iff] at hfit₀
  obtain ⟨hsame, htold⟩ := told_of_not_spent (i := start.store.inventory) hfit₀.1
  have hinventory := h.inventory hfaultless
  have haccount := h.account
  have hproxy := h.proxy
  have hboard := h.board
  rw [hsame] at hfit₀ haccount hproxy hboard
  rw [htold] at hfit₀ hinventory
  have hfit' : (w.store.inventory.refresh s').isSpent = false := by
    rw [Inventory.isSpent_refresh, Session.isSpent, haccount, hproxy, hinventory]
    exact Bool.or_eq_false_iff.mpr hfit₀
  have huseful := Bool.or_eq_false_iff.mp hfit₀.1
  have hrefreshed := Inventory.refresh_of_not_spent hfit'
  rw [hrefreshed] at hfit'
  obtain ⟨hstore, hshown, hcount⟩ := checkIn_keeps (w := w) s' w.config.cooldown
  rw [disposeOf_eq hfaultless', hrefreshed, if_neg (by simp [hfit'])]
  have hkept : ((w.checkIn s' w.config.cooldown).2.finishScan id scan result).store.inventory =
      start.store.inventory := (congrArg Store.inventory hstore).trans hinventory
  refine ⟨?_, ?_, hkept, ⟨huseful.2, ?_⟩, s', haccount, hproxy, ?_⟩
  · rw [evictions_finishScan, hcount, h.evictions]
  · refine hshown.trans (hboard.resolve_right fun hunusable => ?_)
    rw [huseful.1] at hunusable
    exact Bool.noConfusion hunusable.1
  · rw [hkept]
    exact hfit₀.2
  · exact (putsDown_checkIn (h.pool ▸ hopen) hfit' result).of_frame h.toFrame

end World

end MapScout
