import MapScout.Proofs.Dispatch.Passage
import MapScout.Proofs.Stock.Exclusive

/-!
# Dead proxies

A proxy that a client has found dead is out of use for good: its record is dead, or swept away, no
session is bound to it any more, and so no request goes through it.  There is one exception.  The
second login of a preloaded session, on the proxy that it got in place of a dead one, may find that
proxy dead as well; then nothing is concluded, and the session goes into the pool as it is.
-/

namespace MapScout

open Inventory (proxyLedger)

/-! ## The ledger of the proxies -/

theorem Inventory.proxies_giveBack (i : Inventory) (s : Session) :
    (i.giveBack s).proxies = if s.proxy.dead then i.proxies
      else ((i.releaseProxy? s.proxy.id).getD i).proxies := by
  have haccount : (if s.account.isUnusable then i
      else (i.releaseAccount? s.username).getD i).proxies = i.proxies := by
    split
    · rfl
    · exact proxies_modifyAccount? ..
  rw [giveBack]
  generalize (if s.account.isUnusable then i
    else (i.releaseAccount? s.username).getD i) = i' at haccount ⊢
  split
  · exact haccount
  · rw [releaseProxy?, releaseProxy?, modifyProxy?, modifyProxy?, proxy?, proxy?, haccount]
    cases i.proxies.find? (·.id == s.proxy.id) with
    | none => exact haccount
    | some p => rfl

namespace Books

variable {b b' : Books} {k : ProxyId}

def proxies (b : Books) : List Proxy × List Proxy :=
  (b.inventory.proxies, b.sessions.map (·.proxy))

/-- What a move does to the ledger of the proxies. -/
theorem Move.proxySteps (hmove : b.Move b') (hnodup : (b.inventory.proxies.map (·.id)).Nodup) :
    proxyLedger.Steps b.proxies b'.proxies := by
  obtain ⟨i, board, n, hand, news, others⟩ := b
  cases hmove with
  | @touch s s' hhand _ hproxy =>
      subst hhand
      change proxyLedger.Steps (i.proxies, s.proxy :: _) (i.proxies, s'.proxy :: _)
      rw [hproxy]
  | show_ => exact .refl
  | bury hhand =>
      subst hhand
      exact (Relation.ReflTransGen.single (Inventory.steps_saveProxy _ hnodup rfl)).tail
        (.pass (List.Subperm.refl _))
  | learn hhand =>
      subst hhand
      exact .single (.pass (List.Subperm.refl _))
  | rebind hhand _ _ hclaim =>
      subst hhand
      exact (Relation.ReflTransGen.single (.pass (List.sublist_cons_self ..).subperm)).tail
        (Inventory.steps_claimProxy _ hnodup hclaim)
  | @condemn s e hhand =>
      subst hhand
      change proxyLedger.Steps _ (((i.saveAccount? (s.account.judged e)).getD i).proxies, _)
      rw [Inventory.saveAccount?, Inventory.proxies_modifyAccount?]
      exact .refl
  | shrug => exact .refl
  | @evict s hhand =>
      subst hhand
      change proxyLedger.Steps (i.proxies, s.proxy :: _) ((i.giveBack s).proxies, _)
      rw [Inventory.proxies_giveBack]
      split
      · exact .single (.pass (List.sublist_cons_self ..).subperm)
      · exact .single (Inventory.steps_releaseProxy hnodup s.proxy)
  | put hhand =>
      subst hhand
      exact .refl
  | take hhand _ hothers =>
      dsimp only at hhand hothers
      subst hhand hothers
      exact .refl
  | shift h =>
      have hsessions := (List.subperm_append_left hand.toList).mpr h
      exact .single (.pass (map_subperm _ (map_subperm _ hsessions)))
  | provision hhand _ haccount hproxy =>
      subst hhand
      have hsame := Inventory.proxies_claimAccount? haccount
      have hnodup : (i.proxies.map (·.id)).Nodup := hnodup
      rw [← hsame] at hnodup
      have hclaim := Inventory.steps_claimProxy (others.map (·.proxy)) hnodup hproxy
      rw [hsame] at hclaim
      exact .single hclaim
  | @noProxy a i' hhand haccount hproxy =>
      subst hhand
      have hsame := Inventory.proxies_claimAccount? haccount
      change proxyLedger.Steps _ (((i'.releaseAccount? a.username).getD i').proxies, _)
      rw [Inventory.releaseAccount?, Inventory.proxies_modifyAccount?, hsame]
      exact .refl

/-! ## A proxy that is found dead -/

/-- How far it has come with a proxy that has been found dead. -/
inductive Dying (k : ProxyId) (b : Books) : Prop where
  /-- The client has just said so. -/
  | found {s : Session} (hhand : b.hand = some s) (hid : s.proxy.id = k)
      (hnews : b.news = some .proxyDead)
  /-- The record is dead or gone, and so will be the session, unless it gets another proxy. -/
  | buried {s : Session} (hhand : b.hand = some s) (hid : s.proxy.id = k)
      (hnews : b.news = none) (hdead : s.proxy.dead = true)
      (hvoid : ∀ p ∈ b.inventory.proxies, p.id = k → p.dead = true)
  | retired (h : proxyLedger.Retired k b.proxies.1 b.proxies.2)

/-- A proxy that is saved dead is dead in the inventory, or not there at all. -/
theorem dead_of_saveProxy {i : Inventory} {p q : Proxy} (hnodup : (i.proxies.map (·.id)).Nodup)
    (hdead : p.dead = true) (hq : q ∈ ((i.saveProxy? p).getD i).proxies) (hid : q.id = p.id) :
    q.dead = true := by
  rw [Inventory.saveProxy?, Inventory.Balanced.modifyProxy?_eq hnodup] at hq
  rcases proxyLedger.mem_modify.mp hq with ⟨-, hne⟩ | ⟨r, -, -, rfl⟩
  · exact absurd hid hne
  · simp [hdead]

/-- Every move brings it further, and none brings the proxy back. -/
theorem Dying.move (h : b.Dying k) (hexclusive : proxyLedger.Exclusive b.proxies.1 b.proxies.2)
    (hmove : b.Move b') : b'.Dying k := by
  have hsteps := hmove.proxySteps hexclusive.records_nodup
  obtain ⟨i, board, n, hand, news, others⟩ := b
  cases h with
  | retired h => exact .retired (h.steps hsteps)
  | @found s hhand hid hnews =>
      dsimp only at hhand hnews
      subst hhand hnews
      cases hmove with
      | touch hhand _ hproxy =>
          cases hhand
          exact .found rfl (by rw [hproxy, hid]) rfl
      | show_ => exact .found rfl hid rfl
      | bury hhand =>
          cases hhand
          apply Dying.buried (s := s.bind s.proxy.die) rfl hid rfl rfl
          intro p hp hk
          exact dead_of_saveProxy hexclusive.records_nodup rfl hp (hk.trans hid.symm)
      | condemn _ hnews hhealth =>
          cases hnews
          exact absurd rfl hhealth
      | shrug hnews _ halive =>
          cases hnews
          exact absurd rfl halive
      | shift => exact .found rfl hid rfl
      | learn _ hnews | rebind _ hnews | evict _ hnews | put _ hnews => cases hnews
      | take hhand | provision hhand | noProxy hhand => cases hhand
  | @buried s hhand hid hnews hdead hvoid =>
      dsimp only at hhand hnews
      subst hhand hnews
      have hothers : proxyLedger.Retired k i.proxies (others.map (·.proxy)) := by
        refine ⟨hvoid, fun hheld => ?_⟩
        have hnodup : (s.proxy.id :: (others.map (·.proxy)).map (·.id)).Nodup :=
          hexclusive.copies_nodup
        rw [hid] at hnodup
        exact (List.nodup_cons.mp hnodup).1 hheld
      cases hmove with
      | touch hhand _ hproxy =>
          cases hhand
          exact .buried rfl (by rw [hproxy, hid]) rfl (by rw [hproxy, hdead]) hvoid
      | show_ => exact .buried rfl hid rfl hdead hvoid
      | bury hhand =>
          cases hhand
          apply Dying.buried (s := s.bind s.proxy.die) rfl hid rfl rfl
          intro p hp hk
          exact dead_of_saveProxy hexclusive.records_nodup rfl hp (hk.trans hid.symm)
      | learn hhand =>
          cases hhand
          exact .buried (s := s.bind s.proxy.die) rfl hid rfl rfl hvoid
      | rebind hhand _ _ hclaim =>
          cases hhand
          exact .retired (hothers.step
            (Inventory.steps_claimProxy _ hexclusive.records_nodup hclaim))
      | evict hhand =>
          cases hhand
          apply Dying.retired
          change proxyLedger.Retired k (i.giveBack s).proxies _
          rw [Inventory.proxies_giveBack, if_pos hdead]
          exact hothers
      | put hhand _ huseful =>
          cases hhand
          simp [Session.isSpent, hdead] at huseful
      | shift => exact .buried rfl hid rfl hdead hvoid
      | condemn _ hnews | shrug hnews => cases hnews
      | take hhand | provision hhand | noProxy hhand => cases hhand

/-- What a path does to the ledger of the proxies. -/
theorem Path.proxySteps (hpath : b.Path b')
    (hexclusive : proxyLedger.Exclusive b.proxies.1 b.proxies.2) :
    proxyLedger.Steps b.proxies b'.proxies := by
  induction hpath with
  | refl => exact .refl
  | tail _ hlast ih =>
      exact ih.trans (hlast.proxySteps (hexclusive.steps ih).records_nodup)

/-- Whatever is done, a proxy that has been found dead stays on its way out of use. -/
theorem Path.dying (hpath : b.Path b') (hexclusive : proxyLedger.Exclusive b.proxies.1 b.proxies.2)
    (h : b.Dying k) : b'.Dying k := by
  induction hpath with
  | refl => exact h
  | tail hpath hlast ih => exact ih.move (hexclusive.steps (Path.proxySteps hpath hexclusive)) hlast

/-- In the end the proxy is out of use. -/
theorem Dying.retired_of_hand (h : b.Dying k) (hhand : b.hand = none) :
    proxyLedger.Retired k b.proxies.1 b.proxies.2 := by
  cases h with
  | retired h => exact h
  | found hhand' | buried hhand' =>
      rw [hhand] at hhand'
      cases hhand'

end Books

namespace World

variable {w : World} {known : List ProxyId} {k : ProxyId} {e : Event}

def proxies (w : World) : List Proxy × List Proxy :=
  (w.store.inventory.proxies, w.sessions.map (·.proxy))

/-- No proxy serves two sessions, and only `known` numbers of proxies are about. -/
structure ProxiesApart (w : World) (known : List ProxyId) : Prop where
  numbered : w.Numbered
  sound : w.Sound
  exclusive : proxyLedger.Exclusive w.proxies.1 w.proxies.2
  within : proxyLedger.Within known w.proxies.1 w.proxies.2

/-- The proxy is out of use: its record is dead or gone, no session is bound to it, and no request
will go through it next. -/
structure OutOfUse (w : World) (k : ProxyId) : Prop where
  dead : ∀ p ∈ w.store.inventory.proxies, p.id = k → p.dead = true
  unbound : ∀ s ∈ w.sessions, s.proxy.id ≠ k
  unasked : ∀ e r, .sent r ∈ w.entriesIn e → r.proxy ≠ k

namespace ProxiesApart

/-- Sessions in the hand of a task are sessions. -/
theorem proxySteps_begin {hand : Option Session} {others : List Session}
    (hperm : w.sessions.Perm (hand.toList ++ others)) (news : Option ClientError) :
    proxyLedger.Steps w.proxies (w.books hand news others).proxies :=
  .single (.pass ((hperm.symm.map _).map _).subperm)

/-- What an event does to the ledger of the proxies, unless records come or go. -/
theorem steps_happen (h : w.ProxiesApart known) (hadd : ∀ id, e ≠ .addProxy id)
    (hsweep : e ≠ .sweep) : proxyLedger.Steps w.proxies (w.happen e).proxies := by
  cases hown : e.isOwn with
  | true =>
      obtain ⟨others, hperm, hpath⟩ := h.sound.path_happen h.numbered hown
      have hbegun := proxySteps_begin hperm (w.newsIn e)
      exact hbegun.trans (hpath.proxySteps (h.exclusive.steps hbegun))
  | false =>
      cases e with
      | addProxy id => exact absurd rfl (hadd id)
      | sweep => exact absurd rfl hsweep
      | loseProxy id =>
          have hsaved := Store.inventory_saveProxy h.sound.faultless { id, dead := true }
          have hstep := Inventory.steps_saveProxy (p := { id, dead := true })
            (w.sessions.map (·.proxy)) h.exclusive.records_nodup rfl
          rw [← hsaved] at hstep
          exact .single hstep
      | _ => cases hown

/-- A number that no proxy has had so far. -/
theorem not_mem_known {id : ProxyId} (hids : (known ++ addedProxies [.addProxy id]).Nodup) :
    id ∉ known := by
  intro hmem
  exact (List.nodup_append.mp hids).2.2 id hmem id (List.mem_singleton.mpr rfl) rfl

/-- A proxy with a new number is stored. -/
theorem perm_addProxy (h : w.ProxiesApart known) {id : ProxyId} (hid : id ∉ known) :
    ((w.happen (.addProxy id)).store.inventory.proxies).Perm
      ({ id } :: w.store.inventory.proxies) := by
  change ((w.store.addProxy { id }).2.inventory.proxies).Perm _
  rw [Store.inventory_addProxy h.sound.faultless]
  apply Inventory.Balanced.insertProxy_perm
  intro hmem
  obtain ⟨p, hp, rfl⟩ := List.mem_map.mp hmem
  exact hid (h.within.stored p hp)

/-- No event makes two sessions share a proxy. -/
theorem happen (h : w.ProxiesApart known) (e : Event) (hids : (known ++ addedProxies [e]).Nodup) :
    (w.happen e).ProxiesApart (known ++ addedProxies [e]) := by
  have hnumbered := h.numbered.happen e
  have hsound := h.sound.happen h.numbered e
  have hsteps (hnone : addedProxies [e] = [])
      (hsteps : proxyLedger.Steps w.proxies (w.happen e).proxies) :
      (w.happen e).ProxiesApart (known ++ addedProxies [e]) := by
    rw [hnone, List.append_nil]
    exact ⟨hnumbered, hsound, h.exclusive.steps hsteps, h.within.steps hsteps⟩
  cases e with
  | addProxy id =>
      have hid := not_mem_known hids
      have hperm := h.perm_addProxy hid
      refine ⟨hnumbered, hsound, h.exclusive.insert ?_ ?_, ?_, ?_⟩
      · apply (hperm.map proxyLedger.key).nodup_iff.mpr
        apply List.nodup_cons.mpr ⟨_, h.exclusive.records_nodup⟩
        intro hmem
        obtain ⟨p, hp, hk⟩ := List.mem_map.mp hmem
        have hk : p.id = id := hk
        exact hid (hk ▸ h.within.stored p hp)
      · intro p hp
        rcases List.mem_cons.mp (hperm.mem_iff.mp hp) with rfl | hp
        · refine Or.inr fun hmem => ?_
          obtain ⟨p, hp, hk⟩ := List.mem_map.mp hmem
          have hk : p.id = id := hk
          exact hid (hk ▸ h.within.held p hp)
        · exact Or.inl hp
      · intro p hp
        rcases List.mem_cons.mp (hperm.mem_iff.mp hp) with rfl | hp
        · exact List.mem_append_right _ (List.mem_singleton.mpr rfl)
        · exact List.mem_append_left _ (h.within.stored p hp)
      · exact fun p hp => List.mem_append_left _ (h.within.held p hp)
  | sweep =>
      have hwithin : proxyLedger.Within known (w.happen .sweep).proxies.1
          (w.happen .sweep).proxies.2 :=
        ⟨fun p hp => h.within.stored p (List.mem_filter.mp hp).1, h.within.held⟩
      rw [show addedProxies [.sweep] = [] from rfl, List.append_nil]
      exact ⟨hnumbered, hsound, h.exclusive.filter _, hwithin⟩
  | _ => exact hsteps rfl (h.steps_happen (by simp) (by simp))

theorem run (h : w.ProxiesApart known) (events : List Event)
    (hids : (known ++ addedProxies events).Nodup) :
    (w.run events).ProxiesApart (known ++ addedProxies events) :=
  run_induction_known (P := ProxiesApart) (fun _ _ e h => h.happen e) h events hids

/-- Whatever every event preserves of a known proxy, a run preserves. -/
theorem run_induction {P : World → Prop}
    (hstep : ∀ {w known} e, w.ProxiesApart known → (known ++ addedProxies [e]).Nodup → k ∈ known →
      P w → P (w.happen e))
    (h : w.ProxiesApart known) (events : List Event) (hids : (known ++ addedProxies events).Nodup)
    (hk : k ∈ known) (hw : P w) : P (w.run events) := by
  have hrun := run_induction_known
    (P := fun w known => w.ProxiesApart known ∧ k ∈ known ∧ P w)
    (fun w known e ⟨h, hk, hw⟩ hids =>
      ⟨h.happen e hids, List.mem_append_left _ hk, hstep e h hids hk hw⟩) ⟨h, hk, hw⟩ events hids
  exact hrun.2.2

/-- What cannot be claimed stays so. -/
theorem void_happen (h : w.ProxiesApart known) (e : Event)
    (hids : (known ++ addedProxies [e]).Nodup) (hk : k ∈ known)
    (hvoid : ∀ p ∈ w.store.inventory.proxies, p.id = k → p.dead = true) :
    ∀ p ∈ (w.happen e).store.inventory.proxies, p.id = k → p.dead = true := by
  cases e with
  | addProxy id =>
      have hid := not_mem_known hids
      intro p hp hpk
      rcases List.mem_cons.mp ((h.perm_addProxy hid).mem_iff.mp hp) with rfl | hp
      · have hpk : id = k := hpk
        exact absurd (hpk ▸ hk) hid
      · exact hvoid p hp hpk
  | sweep => exact fun p hp => hvoid p (List.mem_filter.mp hp).1
  | _ => exact (h.steps_happen (by simp) (by simp)).void hvoid

/-- What is out of use stays so. -/
theorem retired_happen (h : w.ProxiesApart known) (e : Event)
    (hids : (known ++ addedProxies [e]).Nodup) (hk : k ∈ known)
    (hretired : proxyLedger.Retired k w.proxies.1 w.proxies.2) :
    proxyLedger.Retired k (w.happen e).proxies.1 (w.happen e).proxies.2 := by
  have hvoid := h.void_happen e hids hk hretired.void
  cases e with
  | addProxy id => exact ⟨hvoid, hretired.not_held⟩
  | sweep => exact ⟨hvoid, hretired.not_held⟩
  | _ => exact hretired.steps (h.steps_happen (by simp) (by simp))

/-- A proxy that is out of use stays so, whatever happens. -/
theorem retired_run (h : w.ProxiesApart known) (events : List Event)
    (hids : (known ++ addedProxies events).Nodup) (hk : k ∈ known)
    (hretired : proxyLedger.Retired k w.proxies.1 w.proxies.2) :
    proxyLedger.Retired k (w.run events).proxies.1 (w.run events).proxies.2 :=
  run_induction (P := fun w => proxyLedger.Retired k w.proxies.1 w.proxies.2)
    (fun e h => h.retired_happen e) h events hids hk hretired

theorem outOfUse (h : w.ProxiesApart known)
    (hretired : proxyLedger.Retired k w.proxies.1 w.proxies.2) : w.OutOfUse k where
  dead := hretired.void
  unbound s hs hk := hretired.not_held (List.mem_map.mpr ⟨s.proxy, List.mem_map_of_mem hs, hk⟩)
  unasked e r hr hk := by
    obtain ⟨id, σ, rfl, hseat, hrequest⟩ := seat_of_sent hr
    obtain ⟨kind, -, rfl⟩ := eq_of_request? hrequest
    have hlater := hretired.steps (h.steps_happen (e := .turn (.task id)) (by simp) (by simp))
    have hmem : σ.session ∈ (w.happen (.turn (.task id))).sessions :=
      mem_sessions.mpr ⟨_, mem_berths_of_seat? hseat, rfl⟩
    exact hlater.not_held (List.mem_map.mpr ⟨σ.session.proxy, List.mem_map_of_mem hmem, hk⟩)

/-- A client finds its proxy dead, and the proxy is out of use. -/
theorem retired_of_answered (h : w.ProxiesApart known) {r : ClientRequest} {at_ : Nat}
    (hr : .answered r (some .proxyDead) at_ ∈ w.entriesIn e) (herrand : r.errand ≠ .preload true) :
    r.proxy ∈ known ∧
      proxyLedger.Retired r.proxy (w.happen e).proxies.1 (w.happen e).proxies.2 := by
  obtain ⟨id, σ, a, rfl, hseat, hrequest, ha, hfailure, -⟩ := seat_of_answered hr
  obtain ⟨kind, -, rfl⟩ := eq_of_request? hrequest
  obtain ⟨others, hperm, hpath⟩ := h.sound.path_happen h.numbered (e := .turn (.task id)) rfl
  have hnews : w.newsIn (.turn (.task id)) = some .proxyDead := by
    simp [newsIn, hseat, Seat.news_of_isAnswered ha, hfailure, Errand.heeds, herrand]
  have hhand : w.handIn (.turn (.task id)) = some σ.session := by simp [handIn, hseat]
  have hdying := hpath.dying (h.exclusive.steps (proxySteps_begin hperm _)) (.found hhand rfl hnews)
  refine ⟨?_, hdying.retired_of_hand rfl⟩
  apply h.within.held
  exact List.mem_map_of_mem (mem_sessions.mpr ⟨_, mem_berths_of_seat? hseat, rfl⟩)

end ProxiesApart

/-- The second login of a preloaded session finds its proxy dead, and nothing is concluded. -/
theorem preloadTurn_proxyDead (id : Nat) {due deadline : Nat} {p : Preload} {s : Session}
    {t : LoginTry}
    {a : Answer} (hstage : p.stage = .login s true deadline (.answer t a due)) (hdue : due ≤ w.now)
    (hfailure : a.failure = some .proxyDead) (huseful : s.isSpent = false) :
    w.preloadTurn id p = (w.sendToPool { s with client := s.client.finishLogin a }).proceed id
      (.preload { p with queued := p.queued + 1, stage := .next }) := by
  have hspent : Session.isSpent { s with client := s.client.finishLogin a } = false := huseful
  rw [preloadTurn, hstage]
  simp [loginTurn, hdue, hfailure, afterPreloadLogin, classify, ClientError.accountHealth, hspent]

theorem preload_of_seat? {id : Nat} {σ : Seat} {swapped : Bool} (hseat : w.seat? id = some σ)
    (herrand : σ.errand = .preload swapped) :
    ∃ p wait, w.task? id = some (.preload p) ∧ σ.wait = .login wait ∧
      p.stage = .login σ.session swapped σ.deadline wait := by
  obtain ⟨t, ht, hσ⟩ := Option.bind_eq_some_iff.mp hseat
  cases t with
  | scan scan =>
      obtain ⟨place, deadline, stage⟩ := scan
      cases stage with
      | working =>
          cases hσ
          cases herrand
      | _ => cases hσ
  | preload p =>
      obtain ⟨remaining, queued, stage⟩ := p
      cases stage with
      | login s swapped' deadline wait =>
          cases hσ
          cases herrand
          exact ⟨_, wait, ht, rfl, rfl⟩
      | _ => cases hσ
  | checkout c => cases hσ

/-- Then the session goes into the pool as it is. -/
theorem pooled_of_answered (h : w.Sound) (hopen : w.pool.isOpen = true) {r : ClientRequest}
    {at_ : Nat} (hr : .answered r (some .proxyDead) at_ ∈ w.entriesIn e)
    (herrand : r.errand = .preload true) :
    (w.happen e).store = w.store ∧
      ∃ s ∈ (w.happen e).pooled, s.proxy.id = r.proxy ∧ s.proxy.dead = false := by
  obtain ⟨id, σ, a, rfl, hseat, hrequest, ⟨due, hdue, hanswer⟩, hfailure, -⟩ := seat_of_answered hr
  obtain ⟨kind, -, rfl⟩ := eq_of_request? hrequest
  obtain ⟨p, wait, ht, hwait, hstage⟩ := preload_of_seat? hseat herrand
  have huseful : σ.session.isSpent = false :=
    h.useful _ (mem_sessions.mpr ⟨_, mem_berths_of_seat? hseat, rfl⟩)
  have ht' : (w.beginTurn (.task id)).task? id = some (.preload p) := ht
  rw [hwait] at hanswer
  cases wait with
  | token t => cases hanswer
  | answer t a' due' =>
      obtain ⟨rfl, rfl⟩ := Prod.mk.inj (Option.some.inj hanswer)
      have hturn := preloadTurn_proxyDead (w := w.beginTurn (.task id)) id hstage hdue hfailure
        huseful
      rw [happen_turn, turn, ht']
      dsimp only
      rw [hturn]
      generalize hs : { σ.session with client := σ.session.client.finishLogin a' } = s
      have hproxy : s.proxy = σ.session.proxy := by rw [← hs]
      have hstore := (alike_sendToPool (w := w.beginTurn (.task id)) s).store
      have hpooled := Holds.pooled_sendToPool (w := w.beginTurn (.task id)) hopen s
      refine ⟨hstore, s, hpooled.symm.subset List.mem_cons_self, by rw [hproxy], ?_⟩
      rw [hproxy]
      exact (Bool.or_eq_false_iff.mp huseful).2

/-- At the beginning no proxy serves anybody. -/
theorem Idle.proxiesApart (h : w.Idle) (hids : (w.store.inventory.proxies.map (·.id)).Nodup) :
    w.ProxiesApart (w.store.inventory.proxies.map (·.id)) := by
  refine ⟨h.numbered, h.sound, ⟨hids, ?_, ?_⟩, ⟨fun p hp => List.mem_map_of_mem hp, ?_⟩⟩
  all_goals simp [proxies, h.sessions_eq_nil]

/-- As long as no proxy gets a number that was used before, a proxy that a client has found dead is
out of use from then on, unless the client is that of a preloaded session that has got another proxy
already.  Then the store learns nothing, and the pool gets a session that is bound to the proxy. -/
theorem outOfUse_run (hw : w.ProxiesApart known) {before after : List Event} {r : ClientRequest}
    {at_ : Nat} (hids : (known ++ addedProxies (before ++ e :: after)).Nodup)
    (hr : .answered r (some .proxyDead) at_ ∈ (w.run before).entriesIn e) :
    (r.errand ≠ .preload true → (w.run (before ++ e :: after)).OutOfUse r.proxy) ∧
      (r.errand = .preload true → (w.run before).pool.isOpen = true →
        (w.run (before ++ [e])).store = (w.run before).store ∧
          ∃ s ∈ (w.run (before ++ [e])).pooled, s.proxy.id = r.proxy ∧ s.proxy.dead = false) := by
  have hsplit : known ++ addedProxies (before ++ e :: after) =
      known ++ addedProxies before ++ addedProxies [e] ++ addedProxies after := by
    rw [List.append_cons, addedProxies, List.filterMap_append, List.filterMap_append]
    simp only [List.append_assoc]
  rw [hsplit] at hids
  have hhappened := (List.nodup_append.mp hids).1
  have hbefore := hw.run before (List.nodup_append.mp hhappened).1
  have hafter := hbefore.happen e hhappened
  constructor
  · intro herrand
    obtain ⟨hknown, hretired⟩ := hbefore.retired_of_answered hr herrand
    rw [run_append]
    apply (hafter.run after hids).outOfUse
    exact hafter.retired_run after hids (List.mem_append_left _ hknown) hretired
  · intro herrand hopen
    rw [run_append]
    exact pooled_of_answered hbefore.sound hopen hr herrand

/-- A dispatcher with one account, whose client finds its first two proxies dead. -/
def secondProxyDead : World where
  config := { cooldown := 0, loginInterval := 0, callInterval := 0 }
  store := { inventory := {
    accounts := [{ username := "ann", password := "pw", provider := "ptc" }]
    proxies := [{ id := 1 }, { id := 2 }] } }
  supply := .scripts [.scripted false
    [{ failure := some .proxyDead }, { failure := some .proxyDead }, {}] [{}]]

/-- A preload builds a session and asks its client to log in. -/
def firstLogin : List Event := [.preload 1, .turn (.task 0), .turn (.task 0)]

def secondLogin : List Event := firstLogin ++ List.replicate 2 (.turn (.task 0))

/-- A scan is asked for, gets the session from the pool and logs it in. -/
def thirdLogin : List Event :=
  [.scan default 0, .turn (.task 1)] ++ List.replicate 5 (.turn .pool) ++
    List.replicate 2 (.turn (.task 1))

def loginThrough (task : Nat) (errand : Errand) (proxy : ProxyId) (deadline : Nat) :
    ClientRequest :=
  { task, errand, account := "ann", proxy, kind := .login .first, deadline }

theorem idle_secondProxyDead : secondProxyDead.Idle := ⟨fun _ => rfl, rfl, rfl⟩

theorem outOfUse_run_firstProxyDead :
    secondProxyDead.ProxiesApart [1, 2] ∧
      ([1, 2] ++ addedProxies (firstLogin ++ Event.turn (.task 0) :: thirdLogin)).Nodup ∧
      Entry.answered (loginThrough 0 (.preload false) 1 10000) (some .proxyDead) 0 ∈
        (secondProxyDead.run firstLogin).entriesIn (.turn (.task 0)) ∧
      (secondProxyDead.run (firstLogin ++ Event.turn (.task 0) :: thirdLogin)).OutOfUse 1 := by
  have hapart : secondProxyDead.ProxiesApart [1, 2] := idle_secondProxyDead.proxiesApart (by decide)
  have hids :
      ([1, 2] ++ addedProxies (firstLogin ++ Event.turn (.task 0) :: thirdLogin)).Nodup := by
    decide
  have hr : Entry.answered (loginThrough 0 (.preload false) 1 10000) (some .proxyDead) 0 ∈
      (secondProxyDead.run firstLogin).entriesIn (.turn (.task 0)) := by
    decide +kernel
  exact ⟨hapart, hids, hr, (outOfUse_run hapart hids hr).1 (by decide)⟩

/-- A proxy that a preload has been told is dead is used by a scan. -/
theorem used_again_secondProxyDead :
    secondProxyDead.Idle ∧ addedProxies (secondLogin ++ Event.turn (.task 0) :: thirdLogin) = [] ∧
      Entry.answered (loginThrough 0 (.preload true) 2 10000) (some .proxyDead) 0 ∈
        (secondProxyDead.run secondLogin).entriesIn (.turn (.task 0)) ∧
      Entry.sent (loginThrough 1 (.scan .first) 2 15000) ∈
        (secondProxyDead.run (secondLogin ++ [.turn (.task 0)])).transcript thirdLogin :=
  ⟨idle_secondProxyDead, rfl, by decide +kernel, by decide +kernel⟩

end World

end MapScout
