import Mathlib.Data.List.Nodup
import MapScout.Proofs.Dispatch.Passage
import MapScout.Proofs.Ordered

/-!
# What the board shows

The board is written apart from the sessions: when one is built, when it gets another proxy, when
its account is condemned, and when it is dropped.  Even so it shows the account of every session
with the proxy that it is bound to, and nothing else.
-/

namespace MapScout

open Inventory (accountLedger)

def Session.binding (s : Session) : Binding := ⟨s.username, s.proxy.id⟩

namespace Custody

/-- What is claimed of the accounts, and what is held. -/
def accounts (c : Custody) : List Account × List Account :=
  (c.inventory.accounts, c.sessions.map (·.account))

variable {c c' : Custody}

/-- What a step does to the ledger of the accounts. -/
theorem Step.accountSteps (hstep : c.Step c')
    (hnodup : (c.inventory.accounts.map (·.username)).Nodup) :
    accountLedger.Steps c.accounts c'.accounts := by
  cases hstep with
  | shuffle h => exact .single (.pass ((h.map _).map _).subperm)
  | @touch i b s s' l haccount =>
      change accountLedger.Steps (i.accounts, s.account :: _) (i.accounts, s'.account :: _)
      rw [haccount]
  | @bury i b s l =>
      change accountLedger.Steps _ (((i.saveProxy? s.proxy.die).getD i).accounts, _)
      rw [Inventory.saveProxy?, Inventory.accounts_modifyProxy?]
      exact .refl
  | learn => exact .refl
  | rebind _ hclaim =>
      change accountLedger.Steps _ (_, _)
      rw [Inventory.accounts_claimProxy? hclaim]
      exact .refl
  | condemn hname hunusable => exact Inventory.steps_condemnAccount hnodup hname hunusable
  | @evict i b s l => exact Inventory.steps_giveBack hnodup s
  | @provision i i' i'' b s l haccount hproxy =>
      have hclaim := Inventory.steps_claimAccount (l.map (·.account)) hnodup haccount
      rw [← Inventory.accounts_claimProxy? hproxy] at hclaim
      exact .single hclaim
  | noProxy haccount => exact Inventory.steps_claimAccount_releaseAccount _ hnodup haccount

end Custody

/-- The board shows each session whose account is of use, and nothing but sessions. -/
structure Board.Shows (b : Board) (sessions : List Session) : Prop where
  ascends : Ordered.Ascends Binding.account b
  shown : ∀ s ∈ sessions, s.account.isUnusable = false → s.binding ∈ b
  held : ∀ x ∈ b, ∃ s ∈ sessions, s.binding = x

namespace Board.Shows

variable {b : Board} {s s' : Session} {l l' : List Session}

theorem perm (h : b.Shows l) (hperm : l'.Perm l) : b.Shows l' where
  ascends := h.ascends
  shown s hs := h.shown s (hperm.subset hs)
  held x hx := by
    obtain ⟨s, hs, hbinding⟩ := h.held x hx
    exact ⟨s, hperm.symm.subset hs, hbinding⟩

/-- A session has changed, but is shown alike. -/
theorem replace (h : b.Shows (s :: l)) (haccount : s'.account = s.account)
    (hid : s'.proxy.id = s.proxy.id) : b.Shows (s' :: l) := by
  have hbinding : s'.binding = s.binding := by
    rw [Session.binding, Session.binding, Session.username, haccount, hid]
    rfl
  obtain ⟨hshown, hrest⟩ := List.forall_mem_cons.mp h.shown
  refine ⟨h.ascends, List.forall_mem_cons.mpr ⟨?_, hrest⟩, fun x hx => ?_⟩
  · rw [haccount, hbinding]
    exact hshown
  · obtain ⟨u, hu, rfl⟩ := h.held x hx
    rcases List.mem_cons.mp hu with rfl | hu
    · exact ⟨s', List.mem_cons_self, hbinding⟩
    · exact ⟨u, List.mem_cons_of_mem _ hu, rfl⟩

/-- Without its account the board shows a session no more. -/
theorem drop (h : b.Shows (s :: l)) (hnew : s.username ∉ l.map (·.username)) :
    (b.remove s.username).Shows l where
  ascends := ascends_remove h.ascends
  shown u hu huseful := by
    refine mem_remove.mpr ⟨h.shown u (List.mem_cons_of_mem _ hu) huseful, fun hname => hnew ?_⟩
    exact hname ▸ List.mem_map_of_mem hu
  held x hx := by
    obtain ⟨hx, hne⟩ := mem_remove.mp hx
    obtain ⟨u, hu, rfl⟩ := h.held x hx
    rcases List.mem_cons.mp hu with rfl | hu
    · exact absurd rfl hne
    · exact ⟨u, hu, rfl⟩

/-- An account that no session has is not on the board. -/
theorem remove_eq_self {u : String} (h : b.Shows l) (hnew : u ∉ l.map (·.username)) :
    b.remove u = b := by
  apply List.filter_eq_self.mpr
  intro x hx
  obtain ⟨s, hs, rfl⟩ := h.held x hx
  have hne : s.username ≠ u := fun hname => hnew (hname ▸ List.mem_map_of_mem hs)
  simpa [Session.binding] using hne

/-- The board need not show a session whose account is of no use. -/
theorem cons_unusable (h : b.Shows l) (hunusable : s.account.isUnusable = true) :
    b.Shows (s :: l) where
  ascends := h.ascends
  shown := List.forall_mem_cons.mpr
    ⟨fun huseful => absurd (hunusable.symm.trans huseful) (by simp), h.shown⟩
  held x hx := by
    obtain ⟨u, hu, hbinding⟩ := h.held x hx
    exact ⟨u, List.mem_cons_of_mem _ hu, hbinding⟩

/-- A session is put on the board in place of an older binding of its account. -/
theorem cons_set (hascends : Ordered.Ascends Binding.account b)
    (h : (b.remove s.username).Shows l) : (b.set s.username s.proxy.id).Shows (s :: l) := by
  have hmem {x : Binding} : x ∈ b.set s.username s.proxy.id ↔
      x = s.binding ∨ x ∈ b.remove s.username := mem_set_iff hascends
  refine ⟨ascends_set hascends, List.forall_mem_cons.mpr ⟨fun _ => ?_, fun u hu huseful => ?_⟩,
    fun x hx => ?_⟩
  · exact hmem.mpr (Or.inl rfl)
  · exact hmem.mpr (Or.inr (h.shown u hu huseful))
  · rcases hmem.mp hx with rfl | hx
    · exact ⟨s, List.mem_cons_self, rfl⟩
    · obtain ⟨u, hu, hbinding⟩ := h.held x hx
      exact ⟨u, List.mem_cons_of_mem _ hu, hbinding⟩

end Board.Shows

namespace Custody

variable {c c' : Custody}

/-- No account serves two sessions, and the board shows them. -/
structure Mirrored (c : Custody) : Prop where
  exclusive : accountLedger.Exclusive c.accounts.1 c.accounts.2
  shows : c.board.Shows c.sessions

namespace Mirrored

theorem usernames_nodup (h : c.Mirrored) : (c.sessions.map (·.username)).Nodup := by
  have hnodup := h.exclusive.copies_nodup
  rwa [accounts, List.map_map] at hnodup

/-- Whatever is done, the board goes with it. -/
theorem step (hstep : c.Step c') (h : c.Mirrored) : c'.Mirrored := by
  have hsteps := hstep.accountSteps h.exclusive.records_nodup
  refine ⟨h.exclusive.steps hsteps, ?_⟩
  have hnodup := h.usernames_nodup
  have hshows := h.shows
  cases hstep with
  | shuffle hperm => exact hshows.perm hperm
  | touch haccount hproxy => exact hshows.replace haccount (congrArg Proxy.id hproxy)
  | bury | learn => exact hshows.replace rfl rfl
  | @rebind i i' b s p l =>
      have hrest := hshows.drop (List.nodup_cons.mp hnodup).1
      exact Board.Shows.cons_set (s := s.bind p) hshows.ascends hrest
  | condemn _ hunusable =>
      exact (hshows.drop (List.nodup_cons.mp hnodup).1).cons_unusable hunusable
  | evict => exact hshows.drop (List.nodup_cons.mp hnodup).1
  | @provision i i' i'' b s l haccount =>
      obtain ⟨r, hr, hfree, huseful, hclaimed, -⟩ :=
        Inventory.claimAccount?_eq h.exclusive.records_nodup haccount
      have hnew : s.username ∉ l.map (·.username) := by
        have hnot := h.exclusive.not_held_of_free hr hfree huseful
        rw [accounts, List.map_map] at hnot
        rwa [Session.username, hclaimed]
      rw [← hshows.remove_eq_self hnew] at hshows
      exact .cons_set h.shows.ascends hshows
  | noProxy => exact hshows

/-- Whatever is done to the inventory, the board and the sessions, the board mirrors the sessions.
-/
theorem path (hpath : c.Path c') (h : c.Mirrored) : c'.Mirrored :=
  hpath.induction (fun _ _ => step) h

/-- If all accounts are of use, the board has one binding for each session, and no other. -/
theorem perm (h : c.Mirrored) (huseful : ∀ s ∈ c.sessions, s.account.isUnusable = false) :
    c.board.Perm (c.sessions.map Session.binding) := by
  have hboard : c.board.Nodup := h.shows.ascends.names_nodup.of_map
  have hbindings : (c.sessions.map Session.binding).Nodup := by
    have hnodup := h.usernames_nodup
    rw [show (fun s : Session => s.username) = Binding.account ∘ Session.binding from rfl,
      ← List.map_map] at hnodup
    exact hnodup.of_map
  apply (List.perm_ext_iff_of_nodup hboard hbindings).mpr
  intro x
  rw [List.mem_map]
  constructor
  · exact h.shows.held x
  · rintro ⟨s, hs, rfl⟩
    exact h.shows.shown s hs (huseful s hs)

end Mirrored

end Custody

namespace World

variable {w : World}

/-- What comes from outside leaves the accounts alone. -/
theorem accounts_impose (e : Event) (i : Inventory) : (e.impose i).accounts = i.accounts := by
  cases e with
  | loseProxy => exact Inventory.accounts_modifyProxy? ..
  | _ => rfl

/-- A dispatcher that has not begun.  Its inventory names no account twice, and its board is
empty. -/
structure Blank (w : World) : Prop extends Unbegun w where
  usernames_nodup : (w.store.inventory.accounts.map (·.username)).Nodup
  board : w.board = []

/-- The board has one binding for each session, of which some may just be on their way; but none is
on its way as long as everybody waits. -/
structure Displayed (w : World) : Prop where
  bindings : w.board.Perm ((w.inTransit ++ w.live).map Session.binding)
  bindings_waiting : w.IsWaiting → w.board.Perm (w.live.map Session.binding)

theorem Blank.mirrored (h : w.Blank) : w.custody.Mirrored := by
  have hsessions : w.custody.sessions = [] := h.sessions_eq_nil
  constructor
  · rw [Custody.accounts, hsessions]
    exact ⟨h.usernames_nodup, List.nodup_nil, fun _ _ hheld => nomatch hheld⟩
  · rw [hsessions, show w.custody.board = [] from h.board]
    exact ⟨.nil, (fun _ hs => nomatch hs), fun _ hx => nomatch hx⟩

/-- Whatever happens, the board goes with it. -/
theorem Steady.mirrored_happen (h : w.Steady) (hmirrored : w.custody.Mirrored) (e : Event) :
    (w.happen e).custody.Mirrored := by
  refine Custody.Mirrored.path (h.happen e).path ⟨?_, hmirrored.shows⟩
  change accountLedger.Exclusive (e.impose w.store.inventory).accounts _
  rw [accounts_impose]
  exact hmirrored.exclusive

theorem sessions_eq (w : World) : w.sessions = w.custody.sessions := by
  have hsession (t : Task) : t.seat?.map (·.session) = t.session? := by
    cases t with
    | scan scan =>
        obtain ⟨place, deadline, stage⟩ := scan
        cases stage <;> rfl
    | preload p =>
        obtain ⟨remaining, queued, stage⟩ := p
        cases stage <;> rfl
    | checkout => rfl
  change w.pooled ++ _ = w.pooled ++ _
  rw [seats, ownedBy, List.map_filterMap]
  simp only [hsession]

/-- The board mirrors the sessions, in whatever order scans and preloads go on, whatever their
clients answer, whichever proxies come and go, and whenever the inventory is swept. -/
theorem displayed_run (hw : w.Blank) (events : List Event) : (w.run events).Displayed := by
  have hidle : w.Idle := ⟨hw.faultless, hw.tasks, (List.append_eq_nil_iff.mp hw.sessions_eq_nil).1⟩
  have hsound := hidle.sound.run hidle.numbered events
  obtain ⟨hsteady, hmirrored⟩ : (w.run events).Steady ∧ (w.run events).custody.Mirrored :=
    run_induction (P := fun w => w.Steady ∧ w.custody.Mirrored)
      (fun _ e h => ⟨(h.1.happen e).steady, h.1.mirrored_happen h.2 e⟩)
      ⟨hw.steady, hw.mirrored⟩ events
  generalize w.run events = w at hsound hsteady hmirrored
  have hbindings : w.board.Perm ((w.inTransit ++ w.live).map Session.binding) := by
    refine (hmirrored.perm fun s hs => ?_).trans (w.perm_live.symm.map _)
    have hspent := hsound.useful s (w.sessions_eq ▸ hs)
    rw [Session.isSpent, Bool.or_eq_false_iff] at hspent
    exact hspent.1
  refine ⟨hbindings, fun hwaiting => ?_⟩
  rwa [hsteady.attentive.inTransit_eq_nil hwaiting] at hbindings

theorem blank_deadProxyAhead : deadProxyAhead.Blank where
  toUnbegun := fresh_deadProxyAhead.unbegun
  usernames_nodup := by decide
  board := rfl

/-- The board follows the session from one proxy to the other. -/
theorem displayed_run_deadProxyAhead :
    deadProxyAhead.Blank ∧ (deadProxyAhead.run turnsOfDeadProxyAhead).Displayed ∧
      (deadProxyAhead.run turnsOfDeadProxyAhead).IsWaiting ∧
      (deadProxyAhead.run turnsOfDeadProxyAhead).board = [⟨"ann", 2⟩] :=
  ⟨blank_deadProxyAhead, displayed_run blank_deadProxyAhead turnsOfDeadProxyAhead,
    by decide +kernel, by decide +kernel⟩

end World

end MapScout
