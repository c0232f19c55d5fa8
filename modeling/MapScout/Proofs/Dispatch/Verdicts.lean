import MapScout.Proofs.Dispatch.Passage
import MapScout.Proofs.Ordered
import MapScout.Proofs.Stock.Exclusive

/-!
# Verdicts about accounts

What a client answers can be a verdict about its account: it is banned, or it has a challenge to be
solved.  Such a verdict is final.  The record of the account bears a mark, the session is dropped,
and the account is never used again.  And no account bears a mark that it has not earned by an
answer of its client.
-/

namespace MapScout

open Inventory (accountLedger)

/-! ## Marks -/

def Account.bears (a : Account) : AccountHealth → Bool
  | .healthy => true
  | .banned => a.banned
  | .challengeRequired => a.flagged

namespace Account

theorem username_judged (a : Account) (e : ClientError) : (a.judged e).username = a.username := by
  rw [judged]
  cases e.accountHealth <;> rfl

/-- A verdict is only ever added: the account keeps those it bears. -/
theorem bears_judged (a : Account) (e : ClientError) (v : AccountHealth) :
    (a.judged e).bears v = (a.bears v || decide (e.accountHealth = v)) := by
  rw [judged]
  cases e.accountHealth <;> cases v <;> simp [bears]

theorem isUnusable_of_bears {a : Account} {v : AccountHealth} (hv : v ≠ .healthy)
    (h : a.bears v = true) : a.isUnusable = true := by
  cases v with
  | healthy => exact absurd rfl hv
  | banned => exact Bool.or_eq_true_iff.mpr (Or.inl h)
  | challengeRequired => exact Bool.or_eq_true_iff.mpr (Or.inr h)

/-- Of two sets of marks nothing is lost. -/
theorem bears_or (a copy : Account) (used : Bool) (v : AccountHealth) :
    bears { a with
      used, banned := a.banned || copy.banned, flagged := a.flagged || copy.flagged } v =
        (a.bears v || copy.bears v) := by
  cases v <;> rfl

end Account

namespace Inventory

variable {i i' : Inventory} {a a' : Account} {username : String} {f : Account → Account}

/-- Each record of a changed inventory is an old one, or the new version of one under that name. -/
theorem mem_modifyAccount? (h : a' ∈ ((i.modifyAccount? username f).getD i).accounts) :
    a' ∈ i.accounts ∨ ∃ a ∈ i.accounts, a.username = username ∧ a' = f a := by
  rw [modifyAccount?] at h
  cases hfind : i.account? username with
  | none =>
      rw [hfind] at h
      exact Or.inl h
  | some r =>
      rw [hfind] at h
      rcases mem_modifyFirst h with h | ⟨a, ha, hname, rfl⟩
      · exact Or.inl h
      · exact Or.inr ⟨a, ha, beq_iff_eq.mp hname, rfl⟩

/-- What is claimed was free. -/
theorem exists_of_claimAccount? (hclaim : i.claimAccount? = some (a, i')) :
    ∃ r ∈ i.accounts, r.isUnusable = false ∧ a = { r with used := true } := by
  rw [claimAccount?, Option.map_eq_some_iff] at hclaim
  obtain ⟨r, hfind, heq⟩ := hclaim
  obtain ⟨rfl, -⟩ := Prod.mk.inj heq
  have hfree : r.used = false ∧ r.isUnusable = false := by
    simpa [Account.isFree] using List.find?_some hfind
  exact ⟨r, List.mem_of_find?_eq_some hfind, hfree.2, rfl⟩

theorem mem_claimAccount? (hclaim : i.claimAccount? = some (a, i')) (h : a' ∈ i'.accounts) :
    a' ∈ i.accounts ∨ ∃ r ∈ i.accounts, a' = { r with used := true } := by
  rw [claimAccount?, Option.map_eq_some_iff] at hclaim
  obtain ⟨r, hfind, heq⟩ := hclaim
  obtain ⟨rfl, rfl⟩ := Prod.mk.inj heq
  rcases mem_modifyFirst h with h | ⟨r', hr', -, rfl⟩
  · exact Or.inl h
  · exact Or.inr ⟨r', hr', rfl⟩

/-- Accounts that are read from a file come after those there are, unless their names are taken. -/
theorem addAccounts_eq (i : Inventory) (accounts : List Account) :
    ∃ new, (i.addAccounts accounts).2 = { i with accounts := i.accounts ++ new } ∧
      (∀ a ∈ new, a ∈ accounts) ∧ ((i.accounts.map (·.username)).Nodup →
        ((i.accounts ++ new).map (·.username)).Nodup) := by
  induction accounts generalizing i with
  | nil => exact ⟨[], by simp [addAccounts], by simp, by simp⟩
  | cons a rest ih =>
      rw [addAccounts]
      split
      · obtain ⟨new, hnew, hmem, hnodup⟩ := ih i
        exact ⟨new, hnew, fun a' ha' => List.mem_cons_of_mem _ (hmem a' ha'), hnodup⟩
      · rename_i hknown
        obtain ⟨new, hnew, hmem, hnodup⟩ := ih { i with accounts := i.accounts ++ [a] }
        have happend : i.accounts ++ [a] ++ new = i.accounts ++ a :: new :=
          (List.append_cons ..).symm
        refine ⟨a :: new, ?_, ?_, fun h => ?_⟩
        · dsimp only
          rw [hnew, happend]
        · intro a' ha'
          rcases List.mem_cons.mp ha' with rfl | ha'
          · exact List.mem_cons_self
          · exact List.mem_cons_of_mem _ (hmem a' ha')
        · rw [← happend]
          apply hnodup
          rw [List.map_append]
          apply List.nodup_append.mpr ⟨h, by simp, ?_⟩
          intro name hname name' hname' heq
          obtain rfl := List.mem_singleton.mp hname'
          obtain ⟨b, hb, rfl⟩ := List.mem_map.mp hname
          exact hknown (List.any_eq_true.mpr ⟨b, hb, beq_iff_eq.mpr heq⟩)

end Inventory

namespace Books

variable {b b' : Books} {u : String} {v : AccountHealth} {n : Nat}

/-- What has become of the record `a` in a move: it keeps its marks, and gets new ones only if the
account is condemned. -/
structure Amended (b : Books) (a a' : Account) : Prop where
  username : a'.username = a.username
  kept : ∀ v, a.bears v = true → a'.bears v = true
  earned : ∀ v, a'.bears v = true → a.bears v = true ∨
    ∃ s ∈ b.hand, ∃ e ∈ b.news, s.username = a.username ∧ (s.account.judged e).bears v = true

theorem Amended.refl (a : Account) : b.Amended a a := ⟨rfl, fun _ h => h, fun _ h => Or.inl h⟩

/-- Claims are no marks. -/
theorem Amended.claim {a a' : Account} (h : b.Amended a a') (used : Bool) :
    b.Amended a { a' with used } := by
  refine ⟨h.username, fun v hv => ?_, fun v hv => h.earned v ?_⟩
  · have hkept := h.kept v hv
    cases v <;> exact hkept
  · cases v <;> exact hv

/-- Each record after a move is one from before, amended at most by what the books know. -/
theorem Move.amended (hmove : b.Move b') {a' : Account} (h : a' ∈ b'.inventory.accounts) :
    ∃ a ∈ b.inventory.accounts, b.Amended a a' := by
  have hsame {i : Inventory} (hi : i.accounts = b.inventory.accounts) (h : a' ∈ i.accounts) :
      ∃ a ∈ b.inventory.accounts, b.Amended a a' := ⟨a', hi ▸ h, .refl a'⟩
  have hreleased {i : Inventory} {username : String}
      (hi : ∀ a ∈ i.accounts, ∃ r ∈ b.inventory.accounts, b.Amended r a)
      (h : a' ∈ ((i.releaseAccount? username).getD i).accounts) :
      ∃ a ∈ b.inventory.accounts, b.Amended a a' := by
    rcases Inventory.mem_modifyAccount? h with h | ⟨a, ha, -, rfl⟩
    · exact hi a' h
    · obtain ⟨r, hr, hamended⟩ := hi a ha
      exact ⟨r, hr, hamended.claim false⟩
  have hclaimed {i : Inventory} {r : Account} (hclaim : b.inventory.claimAccount? = some (r, i)) :
      ∀ a ∈ i.accounts, ∃ r ∈ b.inventory.accounts, b.Amended r a := by
    intro a ha
    rcases Inventory.mem_claimAccount? hclaim ha with ha | ⟨r, hr, rfl⟩
    · exact ⟨a, ha, .refl a⟩
    · exact ⟨r, hr, (Amended.refl r).claim true⟩
  cases hmove with
  | bury => exact hsame (Inventory.accounts_modifyProxy? ..) h
  | rebind _ _ _ hclaim => exact hsame (Inventory.accounts_claimProxy? hclaim) h
  | @condemn s e hhand hnews =>
      rcases Inventory.mem_modifyAccount? h with h | ⟨a, ha, hname, rfl⟩
      · exact ⟨a', h, .refl a'⟩
      · refine ⟨a, ha, rfl, fun v hv => ?_, fun v hv => ?_⟩
        · rw [Account.bears_or, hv, Bool.true_or]
        · rw [Account.bears_or, Bool.or_eq_true] at hv
          have hname := hname.trans (s.account.username_judged e)
          exact hv.imp_right fun hv => ⟨s, hhand, e, hnews, hname.symm, hv⟩
  | @evict s =>
      change a' ∈ (b.inventory.giveBack s).accounts at h
      rw [Inventory.accounts_giveBack] at h
      split at h
      · exact hsame rfl h
      · exact hreleased (fun a ha => ⟨a, ha, .refl a⟩) h
  | provision _ _ haccount hproxy =>
      exact hclaimed haccount a' (Inventory.accounts_claimProxy? hproxy ▸ h)
  | noProxy _ haccount => exact hreleased (hclaimed haccount) h
  | _ => exact hsame rfl h

def accounts (b : Books) : List Account × List Account :=
  (b.inventory.accounts, b.sessions.map (·.account))

/-- What a move does to the ledger of the accounts. -/
theorem Move.accountSteps (hmove : b.Move b')
    (hnodup : (b.inventory.accounts.map (·.username)).Nodup) :
    accountLedger.Steps b.accounts b'.accounts := by
  obtain ⟨i, board, n, hand, news, others⟩ := b
  cases hmove with
  | @touch s s' hhand haccount =>
      subst hhand
      change accountLedger.Steps (i.accounts, s.account :: _) (i.accounts, s'.account :: _)
      rw [haccount]
  | show_ | shrug => exact .refl
  | @bury s hhand =>
      subst hhand
      change accountLedger.Steps _ (((i.saveProxy? s.proxy.die).getD i).accounts, _)
      rw [Inventory.saveProxy?, Inventory.accounts_modifyProxy?]
      exact .refl
  | learn hhand | put hhand =>
      subst hhand
      exact .refl
  | rebind hhand _ _ hclaim =>
      subst hhand
      have hsame := Inventory.accounts_claimProxy? hclaim
      change accountLedger.Steps _ (_, _)
      rw [hsame]
      exact .refl
  | @condemn s e hhand _ hhealth =>
      subst hhand
      have hunusable : (s.account.judged e).isUnusable = true := by
        apply Account.isUnusable_of_bears hhealth
        rw [Account.bears_judged, decide_eq_true rfl, Bool.or_true]
      exact Inventory.steps_condemnAccount hnodup (s.account.username_judged e) hunusable
  | @evict s hhand =>
      subst hhand
      exact Inventory.steps_giveBack hnodup s
  | take hhand _ hothers =>
      dsimp only at hhand hothers
      subst hhand hothers
      exact .refl
  | shift h =>
      have hsessions := (List.subperm_append_left hand.toList).mpr h
      exact .single (.pass (map_subperm _ (map_subperm _ hsessions)))
  | provision hhand _ haccount hproxy =>
      subst hhand
      have hclaim := Inventory.steps_claimAccount (others.map (·.account)) hnodup haccount
      have hsame := Inventory.accounts_claimProxy? hproxy
      rw [← hsame] at hclaim
      exact .single hclaim
  | noProxy hhand haccount =>
      subst hhand
      exact Inventory.steps_claimAccount_releaseAccount _ hnodup haccount

/-- Seen from the ledger of accounts, a path of moves consists of steps of that ledger. -/
theorem Path.accountSteps (hpath : b.Path b')
    (hexclusive : accountLedger.Exclusive b.accounts.1 b.accounts.2) :
    accountLedger.Steps b.accounts b'.accounts := by
  induction hpath with
  | refl => exact .refl
  | tail _ hlast ih =>
      exact ih.trans (hlast.accountSteps (hexclusive.steps ih).records_nodup)

/-! ## After a verdict -/

/-- The account is out of use, and its record says why. -/
structure Barred (u : String) (v : AccountHealth) (b : Books) : Prop where
  marked : ∀ a ∈ b.inventory.accounts, a.username = u → a.bears v = true
  nowhere : ∀ s ∈ b.sessions, s.username ≠ u
  off_board : ∀ x ∈ b.board, x.account ≠ u

/-- An account that is barred is void in every record, and nobody has a copy of it. -/
theorem Barred.retired (h : b.Barred u v) (hv : v ≠ .healthy) :
    accountLedger.Retired u b.accounts.1 b.accounts.2 := by
  constructor
  · exact fun a ha hu => Account.isUnusable_of_bears hv (h.marked a ha hu)
  · intro hheld
    obtain ⟨a, ha, hu⟩ := List.mem_map.mp hheld
    obtain ⟨s, hs, rfl⟩ := List.mem_map.mp ha
    exact h.nowhere s hs hu

theorem nowhere_of_retired (h : accountLedger.Retired u b.accounts.1 b.accounts.2) :
    ∀ s ∈ b.sessions, s.username ≠ u := by
  intro s hs hu
  exact h.not_held (List.mem_map.mpr ⟨s.account, List.mem_map_of_mem hs, hu⟩)

theorem mem_sessions_of_hand {s : Session} (hhand : b.hand = some s) : s ∈ b.sessions := by
  rw [sessions, hhand]
  exact List.mem_cons_self

/-- No move takes a mark off. -/
theorem Move.marked (hmove : b.Move b')
    (h : ∀ a ∈ b.inventory.accounts, a.username = u → a.bears v = true) :
    ∀ a ∈ b'.inventory.accounts, a.username = u → a.bears v = true := by
  intro a' ha' hu
  obtain ⟨a, ha, hamended⟩ := hmove.amended ha'
  exact hamended.kept v (h a ha (hamended.username ▸ hu))

/-- Nothing brings the account back. -/
theorem Barred.move (h : b.Barred u v) (hv : v ≠ .healthy)
    (hnodup : (b.inventory.accounts.map (·.username)).Nodup) (hmove : b.Move b') :
    b'.Barred u v := by
  refine ⟨hmove.marked h.marked,
    nowhere_of_retired ((h.retired hv).steps (hmove.accountSteps hnodup)), ?_⟩
  intro x hx
  cases hmove with
  | show_ hhand =>
      rcases Board.mem_set hx with hname | hx
      · rw [hname]
        exact h.nowhere _ (mem_sessions_of_hand hhand)
      · exact h.off_board x hx
  | condemn | evict => exact h.off_board x (Board.mem_remove.mp hx).1
  | _ => exact h.off_board x hx

/-- How far it has come with an account of which its client has given a verdict. -/
inductive Condemning (u : String) (v : AccountHealth) (n : Nat) (b : Books) : Prop where
  /-- The client has just said so. -/
  | found {s : Session} {e : ClientError} (hhand : b.hand = some s) (hname : s.username = u)
      (hnews : b.news = some e) (hhealth : e.accountHealth = v) (hcount : n ≤ b.evictions)
  /-- The record says so, and the session can only be dropped. -/
  | condemned {s : Session} (hhand : b.hand = some s) (hname : s.username = u)
      (hnews : b.news = none) (hunusable : s.account.isUnusable = true)
      (hmarked : ∀ a ∈ b.inventory.accounts, a.username = u → a.bears v = true)
      (hcount : n ≤ b.evictions)
  /-- The session has been dropped. -/
  | barred (h : b.Barred u v) (hcount : n < b.evictions)

/-- Saving a copy that bears a verdict puts the verdict into the record. -/
theorem bears_of_saveAccount {i : Inventory} {copy : Account}
    (hnodup : (i.accounts.map (·.username)).Nodup) (hcopy : copy.bears v = true)
    (hname : copy.username = u) :
    ∀ a ∈ ((i.saveAccount? copy).getD i).accounts, a.username = u → a.bears v = true := by
  intro a ha hu
  rw [Inventory.saveAccount?, Inventory.Balanced.modifyAccount?_eq hnodup] at ha
  rcases accountLedger.mem_modify.mp ha with ⟨-, hne⟩ | ⟨r, -, -, rfl⟩
  · exact absurd (hu.trans hname.symm) hne
  · rw [Account.bears_or, hcopy, Bool.or_true]

theorem Move.evictions_le (hmove : b.Move b') : b.evictions ≤ b'.evictions := by
  cases hmove with
  | evict => exact Nat.le_succ _
  | _ => exact Nat.le_refl _

/-- Every move brings it further. -/
theorem Condemning.move (h : b.Condemning u v n) (hv : v ≠ .healthy)
    (hexclusive : accountLedger.Exclusive b.accounts.1 b.accounts.2) (hmove : b.Move b') :
    b'.Condemning u v n := by
  have hnodup := hexclusive.records_nodup
  have hcount' := hmove.evictions_le
  cases h with
  | barred h hcount => exact .barred (h.move hv hnodup hmove) (Nat.lt_of_lt_of_le hcount hcount')
  | @found s e hhand hname hnews hhealth hcount =>
      obtain ⟨i, board, m, hand, news, others⟩ := b
      dsimp only at hhand hnews
      subst hhand hnews
      cases hmove with
      | touch hhand haccount =>
          cases hhand
          have hname' := (congrArg Account.username haccount).trans hname
          exact .found rfl hname' rfl hhealth hcount
      | show_ => exact .found rfl hname rfl hhealth hcount
      | bury _ hnews =>
          obtain rfl := hnews e rfl
          exact absurd hhealth.symm hv
      | condemn hhand hnews =>
          cases hhand
          cases hnews
          have hearned : (s.account.judged e).bears v = true := by
            rw [Account.bears_judged, decide_eq_true hhealth, Bool.or_true]
          have hname' := (s.account.username_judged e).trans hname
          exact .condemned (s := { s with account := s.account.judged e }) rfl hname' rfl
            (Account.isUnusable_of_bears hv hearned) (bears_of_saveAccount hnodup hearned hname')
            hcount
      | shrug hnews hhealthy =>
          cases hnews
          exact absurd (hhealth.symm.trans hhealthy) hv
      | shift => exact .found rfl hname rfl hhealth hcount
      | learn _ hnews | rebind _ hnews | evict _ hnews | put _ hnews => cases hnews
      | take hhand | provision hhand | noProxy hhand => cases hhand
  | @condemned s hhand hname hnews hunusable hmarked hcount =>
      have hmarked' := hmove.marked hmarked
      obtain ⟨i, board, m, hand, news, others⟩ := b
      dsimp only at hhand hnews
      subst hhand hnews
      cases hmove with
      | touch hhand haccount =>
          cases hhand
          have hname' := (congrArg Account.username haccount).trans hname
          exact .condemned rfl hname' rfl (haccount ▸ hunusable) hmarked' hcount
      | show_ => exact .condemned rfl hname rfl hunusable hmarked' hcount
      | bury hhand | learn hhand | rebind hhand =>
          cases hhand
          exact .condemned rfl hname rfl hunusable hmarked' hcount
      | evict hhand =>
          cases hhand
          refine .barred ⟨hmarked', ?_, ?_⟩ (Nat.lt_succ_of_le hcount)
          · intro s' hs' hname'
            have hcopies : (s.username :: (others.map (·.account)).map (·.username)).Nodup :=
              hexclusive.copies_nodup
            apply (List.nodup_cons.mp hcopies).1
            rw [hname, ← hname']
            exact List.mem_map_of_mem (List.mem_map_of_mem hs')
          · intro x hx
            rw [← hname]
            exact (Board.mem_remove.mp hx).2
      | put hhand _ huseful =>
          cases hhand
          simp [Session.isSpent, hunusable] at huseful
      | shift => exact .condemned rfl hname rfl hunusable hmarked' hcount
      | condemn _ hnews | shrug hnews => cases hnews
      | take hhand | provision hhand | noProxy hhand => cases hhand

/-- However far it has come with a condemned account, a path does not take it back. -/
theorem Path.condemning (hpath : b.Path b') (hv : v ≠ .healthy)
    (hexclusive : accountLedger.Exclusive b.accounts.1 b.accounts.2) (h : b.Condemning u v n) :
    b'.Condemning u v n := by
  induction hpath with
  | refl => exact h
  | tail hpath hlast ih =>
      exact ih.move hv (hexclusive.steps (Path.accountSteps hpath hexclusive)) hlast

/-- What is barred stays barred. -/
theorem Path.barred (hpath : b.Path b') (hv : v ≠ .healthy)
    (hexclusive : accountLedger.Exclusive b.accounts.1 b.accounts.2) (h : b.Barred u v) :
    b'.Barred u v := by
  induction hpath with
  | refl => exact h
  | tail hpath hlast ih =>
      exact ih.move hv (hexclusive.steps (Path.accountSteps hpath hexclusive)).records_nodup hlast

/-- In the end the session has been dropped. -/
theorem Condemning.barred_of_hand (h : b.Condemning u v n) (hhand : b.hand = none) :
    b.Barred u v ∧ n < b.evictions := by
  cases h with
  | barred h hcount => exact ⟨h, hcount⟩
  | found hhand' | condemned hhand' =>
      rw [hhand] at hhand'
      cases hhand'

/-! ## Without a verdict -/

/-- Nothing is held against the account. -/
structure Clear (u : String) (v : AccountHealth) (b : Books) : Prop where
  records : ∀ a ∈ b.inventory.accounts, a.username = u → a.bears v = false
  copies : ∀ s ∈ b.sessions, s.username = u → s.account.bears v = false
  news : ∀ s ∈ b.hand, s.username = u → ∀ e ∈ b.news, e.accountHealth ≠ v

/-- Where the copies of accounts come from. -/
theorem Move.copies (hmove : b.Move b') {s' : Session} (hs' : s' ∈ b'.sessions) :
    (∃ s ∈ b.sessions, s'.account = s.account) ∨
      (∃ s ∈ b.hand, ∃ e ∈ b.news, s'.account = s.account.judged e) ∨
        ∃ a ∈ b.inventory.accounts, s'.account = { a with used := true } := by
  obtain ⟨i, board, n, hand, news, others⟩ := b
  have hother (h : s' ∈ others) :
      ∃ s ∈ sessions ⟨i, board, n, hand, news, others⟩, s'.account = s.account :=
    ⟨s', List.mem_append_right _ h, rfl⟩
  cases hmove with
  | touch hhand haccount =>
      rcases List.mem_cons.mp hs' with rfl | hs'
      · exact Or.inl ⟨_, mem_sessions_of_hand hhand, haccount⟩
      · exact Or.inl (hother hs')
  | bury hhand | learn hhand | rebind hhand =>
      rcases List.mem_cons.mp hs' with rfl | hs'
      · exact Or.inl ⟨_, mem_sessions_of_hand hhand, rfl⟩
      · exact Or.inl (hother hs')
  | condemn hhand hnews =>
      rcases List.mem_cons.mp hs' with rfl | hs'
      · exact Or.inr (Or.inl ⟨_, hhand, _, hnews, rfl⟩)
      · exact Or.inl (hother hs')
  | evict => exact Or.inl (hother hs')
  | put hhand =>
      rcases List.mem_cons.mp hs' with rfl | hs'
      · exact Or.inl ⟨_, mem_sessions_of_hand hhand, rfl⟩
      · exact Or.inl (hother hs')
  | take _ _ hothers =>
      dsimp only at hothers
      subst hothers
      exact Or.inl (hother hs')
  | shift h =>
      rcases List.mem_append.mp hs' with hs' | hs'
      · exact Or.inl ⟨s', List.mem_append_left _ hs', rfl⟩
      · exact Or.inl (hother (h.subset hs'))
  | provision _ _ haccount =>
      rcases List.mem_cons.mp hs' with rfl | hs'
      · obtain ⟨r, hr, -, hclaimed⟩ := Inventory.exists_of_claimAccount? haccount
        exact Or.inr (Or.inr ⟨r, hr, hclaimed⟩)
      · exact Or.inl (hother hs')
  | show_ | shrug | noProxy => exact Or.inl ⟨s', hs', rfl⟩

/-- There is no other news than there was. -/
theorem Move.news (hmove : b.Move b') {s' : Session} {e : ClientError} (hs' : b'.hand = some s')
    (he : b'.news = some e) :
    b.news = some e ∧ ∃ s, b.hand = some s ∧ s'.username = s.username := by
  cases hmove with
  | touch hhand haccount =>
      cases hs'
      exact ⟨he, _, hhand, congrArg Account.username haccount⟩
  | show_ | shift => exact ⟨he, s', hs', rfl⟩
  | learn hhand hnews | rebind hhand hnews | put hhand hnews | take hhand hnews
  | provision hhand hnews | evict hhand hnews =>
      rw [hnews] at he
      cases he
  | noProxy hhand =>
      rw [hhand] at hs'
      cases hs'
  | bury | condemn | shrug => cases he

/-- A move leaves a clear account clear. -/
theorem Clear.move (h : b.Clear u v) (hmove : b.Move b') : b'.Clear u v := by
  have hjudged {s : Session} {e : ClientError} (hhand : b.hand = some s) (hnews : b.news = some e)
      (hname : s.username = u) : (s.account.judged e).bears v = false := by
    rw [Account.bears_judged, h.copies s (mem_sessions_of_hand hhand) hname,
      decide_eq_false (h.news s hhand hname e hnews), Bool.or_false]
  constructor
  · intro a' ha' hname
    obtain ⟨a, ha, hamended⟩ := hmove.amended ha'
    have hname' := hamended.username.symm.trans hname
    apply Bool.eq_false_iff.mpr
    intro hbears
    rcases hamended.earned v hbears with hbears | ⟨s, hhand, e, hnews, hs, hbears⟩
    · rw [h.records a ha hname'] at hbears
      cases hbears
    · rw [hjudged hhand hnews (hs.trans hname')] at hbears
      cases hbears
  · intro s' hs' hname
    rcases hmove.copies hs' with ⟨s, hs, heq⟩ | ⟨s, hhand, e, hnews, heq⟩ | ⟨a, ha, heq⟩
    · rw [heq]
      exact h.copies s hs ((congrArg Account.username heq).symm.trans hname)
    · rw [heq]
      apply hjudged hhand hnews
      have hsame := (congrArg Account.username heq).trans (s.account.username_judged e)
      exact hsame.symm.trans hname
    · have hclear := h.records a ha ((congrArg Account.username heq).symm.trans hname)
      rw [heq]
      cases v <;> exact hclear
  · intro s' hs' hname e he
    obtain ⟨hnews, s, hhand, hsame⟩ := hmove.news hs' he
    exact h.news s hhand (hsame.symm.trans hname) e hnews

end Books

namespace World

variable {w : World} {e : Event} {u : String} {v : AccountHealth}

/-- What happens to a dispatcher and its accounts. -/
inductive Incident where
  | event (e : Event)
  /-- Accounts are read from a file. -/
  | importAccounts (accounts : List Account)

def meet (i : Incident) (w : World) : World :=
  match i with
  | .event e => w.happen e
  | .importAccounts accounts => w.tellStore (·.addAccounts accounts)

def endure (w : World) (incidents : List Incident) : World :=
  incidents.foldl (fun w i => w.meet i) w

def heardIn (w : World) : Incident → List Entry
  | .event e => w.entriesIn e
  | .importAccounts _ => []

def heard : World → List Incident → List Entry
  | _, [] => []
  | w, i :: incidents => w.heardIn i ++ (w.meet i).heard incidents

def accounts (w : World) : List Account × List Account :=
  (w.store.inventory.accounts, w.sessions.map (·.account))

/-- No account serves two sessions, and every session's account is stored. -/
structure AccountsApart (w : World) : Prop where
  numbered : w.Numbered
  sound : w.Sound
  exclusive : accountLedger.Exclusive w.accounts.1 w.accounts.2
  within : accountLedger.Within (w.accounts.1.map (·.username)) w.accounts.1 w.accounts.2

/-- The account is out of use: its record bears the mark, no session has it, it is not on the board,
and it will not be claimed. -/
structure Bars (w : World) (u : String) (v : AccountHealth) : Prop where
  stored : ∃ a ∈ w.store.inventory.accounts, a.username = u
  marked : ∀ a ∈ w.store.inventory.accounts, a.username = u → a.bears v = true
  nowhere : ∀ s ∈ w.sessions, s.username ≠ u
  off_board : ∀ x ∈ w.board, x.account ≠ u
  not_claimed : ∀ a i, w.store.inventory.claimAccount? = some (a, i) → a.username ≠ u

/-- What a client has failed with is in the transcript. -/
theorem newsIn_eq_some {f : ClientError} (h : w.newsIn e = some f) :
    ∃ r, Entry.answered r (some f) w.now ∈ w.entriesIn e ∧
      ∀ s ∈ w.handIn e, s.username = r.account := by
  unfold newsIn at h
  split at h
  · rename_i id
    obtain ⟨σ, hseat, hnews⟩ := Option.bind_eq_some_iff.mp h
    unfold Seat.news at hnews
    split at hnews
    · rename_i a due hanswer
      split at hnews
      · rename_i hdue
        obtain ⟨r, hr, hheard⟩ := answered_mem_entriesIn hseat ⟨due, hdue, hanswer⟩
        obtain ⟨kind, -, rfl⟩ := eq_of_request? hr
        have hfailure : a.failure = some f := by
          rw [Errand.heeds] at hnews
          split at hnews
          · obtain ⟨f', hf', hunburied⟩ := Option.bind_eq_some_iff.mp hnews
            rw [ClientError.unburied] at hunburied
            split at hunburied
            · cases hunburied
            · rw [hf', hunburied]
          · exact hnews
        rw [hfailure] at hheard
        refine ⟨_, hheard, ?_⟩
        simp [handIn, hseat]
      · cases hnews
    · cases hnews
  · cases h

/-- What happens to the stock from outside leaves the accounts alone. -/
theorem accounts_happen (hsound : w.Sound) (hown : e.isOwn = false) :
    (w.happen e).store.inventory.accounts = w.store.inventory.accounts ∧
      (w.happen e).sessions = w.sessions ∧ (w.happen e).board = w.board := by
  cases e with
  | addProxy id =>
      have hadded := Store.inventory_addProxy hsound.faultless { id }
      exact ⟨(congrArg Inventory.accounts hadded).trans rfl, rfl, rfl⟩
  | loseProxy id =>
      have hsaved := Store.inventory_saveProxy hsound.faultless { id, dead := true }
      have hsame := Inventory.accounts_modifyProxy? (i := w.store.inventory) id
        fun p => { p with inUse := false, dead := p.dead || true }
      exact ⟨(congrArg Inventory.accounts hsaved).trans hsame, rfl, rfl⟩
  | sweep => exact ⟨rfl, rfl, rfl⟩
  | _ => cases hown

/-- The books when no task has its turn. -/
def snapshot (w : World) : Books := w.books none none w.sessions

theorem mem_of_perm_hand {hand : Option Session} {others : List Session} {s : Session}
    (hperm : w.sessions.Perm (hand.toList ++ others)) (news : Option ClientError)
    (hs : s ∈ (w.books hand news others).sessions) : s ∈ w.sessions :=
  hperm.symm.subset hs

namespace AccountsApart

/-- The session in hand is put first; the ledger does not mind the order of the copies. -/
theorem steps_begin {hand : Option Session} {others : List Session}
    (hperm : w.sessions.Perm (hand.toList ++ others)) (news : Option ClientError) :
    accountLedger.Steps w.accounts (w.books hand news others).accounts :=
  .single (.pass ((hperm.symm.map _).map _).subperm)

/-- What an event does to the ledger of the accounts. -/
theorem steps_happen (h : w.AccountsApart) (e : Event) :
    accountLedger.Steps w.accounts (w.happen e).accounts := by
  cases hown : e.isOwn with
  | true =>
      obtain ⟨others, hperm, hpath⟩ := h.sound.path_happen h.numbered hown
      have hbegun := steps_begin hperm (w.newsIn e)
      exact hbegun.trans (hpath.accountSteps (h.exclusive.steps hbegun))
  | false =>
      obtain ⟨haccounts, hsessions, -⟩ := accounts_happen h.sound hown
      rw [accounts, accounts, haccounts, hsessions]

theorem happen (h : w.AccountsApart) (e : Event) : (w.happen e).AccountsApart := by
  have hsteps := h.steps_happen e
  refine ⟨h.numbered.happen e, h.sound.happen h.numbered e, h.exclusive.steps hsteps, ?_⟩
  rw [show (w.happen e).accounts.1.map (·.username) = _ from hsteps.map_key]
  exact h.within.steps hsteps

/-- Accounts are imported under new names only, so nobody has a copy of one of them. -/
theorem importAccounts (h : w.AccountsApart) (accounts : List Account) :
    (w.meet (.importAccounts accounts)).AccountsApart := by
  obtain ⟨new, hnew, -, hnodup⟩ := w.store.inventory.addAccounts_eq accounts
  have hnodup := hnodup h.exclusive.records_nodup
  have haccounts : (w.meet (.importAccounts accounts)).accounts =
      (w.store.inventory.accounts ++ new, w.sessions.map (·.account)) :=
    congrArg (fun i : Inventory => (i.accounts, w.sessions.map (·.account))) hnew
  refine ⟨⟨h.numbered.tasks_nodup, h.numbered.tasks_lt⟩, ⟨h.sound.faultless, h.sound.useful⟩,
    ?_, ?_⟩
  · rw [haccounts]
    apply h.exclusive.insert hnodup
    intro a ha
    rcases List.mem_append.mp ha with ha | ha
    · exact Or.inl ha
    · refine Or.inr fun hheld => ?_
      obtain ⟨c, hc, hname⟩ := List.mem_map.mp hheld
      have hname : c.username = a.username := hname
      rw [List.map_append] at hnodup
      exact (List.nodup_append.mp hnodup).2.2 c.username (h.within.held c hc) a.username
        (List.mem_map_of_mem ha) hname
  · rw [haccounts]
    refine ⟨fun a ha => List.mem_map_of_mem ha, fun c hc => ?_⟩
    have hheld := h.within.held c hc
    rw [List.map_append]
    exact List.mem_append_left _ hheld

theorem meet (h : w.AccountsApart) (i : Incident) : (w.meet i).AccountsApart := by
  cases i with
  | event e => exact h.happen e
  | importAccounts accounts => exact h.importAccounts accounts

theorem endure (h : w.AccountsApart) (incidents : List Incident) :
    (w.endure incidents).AccountsApart := by
  induction incidents generalizing w with
  | nil => exact h
  | cons i incidents ih => exact ih (h.meet i)

/-! ### An account that is out of use -/

theorem bars (hv : v ≠ .healthy) (hstored : ∃ a ∈ w.store.inventory.accounts, a.username = u)
    (hbarred : w.snapshot.Barred u v) : w.Bars u v := by
  refine ⟨hstored, hbarred.marked, hbarred.nowhere, hbarred.off_board, ?_⟩
  intro a i hclaim hu
  obtain ⟨r, hr, huseful, rfl⟩ := Inventory.exists_of_claimAccount? hclaim
  rw [Account.isUnusable_of_bears hv (hbarred.marked r hr hu)] at huseful
  cases huseful

/-- Accounts do not get lost. -/
theorem stored_happen (h : w.AccountsApart) (e : Event)
    (hstored : ∃ a ∈ w.store.inventory.accounts, a.username = u) :
    ∃ a ∈ (w.happen e).store.inventory.accounts, a.username = u := by
  have hkeys : (w.happen e).store.inventory.accounts.map (·.username) =
      w.store.inventory.accounts.map (·.username) := (h.steps_happen e).map_key
  rw [← List.mem_map] at hstored ⊢
  rwa [hkeys]

/-- No event lifts a bar. -/
theorem bars_happen (h : w.AccountsApart) (hv : v ≠ .healthy) (hbars : w.Bars u v) (e : Event) :
    (w.happen e).Bars u v := by
  apply bars hv (h.stored_happen e hbars.stored)
  cases hown : e.isOwn with
  | true =>
      obtain ⟨others, hperm, hpath⟩ := h.sound.path_happen h.numbered hown
      apply hpath.barred hv (h.exclusive.steps (steps_begin hperm _))
      refine ⟨hbars.marked, ?_, hbars.off_board⟩
      exact fun s hs => hbars.nowhere s (mem_of_perm_hand hperm _ hs)
  | false =>
      obtain ⟨haccounts, hsessions, hboard⟩ := accounts_happen h.sound hown
      rw [snapshot, books, hsessions, hboard]
      refine ⟨?_, hbars.nowhere, hbars.off_board⟩
      rw [haccounts]
      exact hbars.marked

/-- No import lifts a bar: a record under a known name is not added. -/
theorem bars_importAccounts (h : w.AccountsApart) (hv : v ≠ .healthy) (hbars : w.Bars u v)
    (accounts : List Account) : (w.meet (.importAccounts accounts)).Bars u v := by
  obtain ⟨new, hnew, -, hnodup⟩ := w.store.inventory.addAccounts_eq accounts
  have hnodup := hnodup h.exclusive.records_nodup
  have haccounts : (w.meet (.importAccounts accounts)).store.inventory.accounts =
      w.store.inventory.accounts ++ new := congrArg Inventory.accounts hnew
  obtain ⟨r, hr, hname⟩ := hbars.stored
  apply bars hv
  · rw [haccounts]
    exact ⟨r, List.mem_append_left _ hr, hname⟩
  · refine ⟨fun a ha hu => ?_, hbars.nowhere, hbars.off_board⟩
    rw [show (w.meet (.importAccounts accounts)).snapshot.inventory.accounts = _ from haccounts]
      at ha
    rcases List.mem_append.mp ha with ha | ha
    · exact hbars.marked a ha hu
    · rw [List.map_append] at hnodup
      have hne := (List.nodup_append.mp hnodup).2.2 r.username (List.mem_map_of_mem hr) a.username
        (List.mem_map_of_mem ha)
      exact absurd (hname.trans hu.symm) hne

theorem bars_endure (h : w.AccountsApart) (hv : v ≠ .healthy) (hbars : w.Bars u v)
    (incidents : List Incident) : (w.endure incidents).Bars u v := by
  induction incidents generalizing w with
  | nil => exact hbars
  | cons i incidents ih =>
      apply ih (h.meet i)
      cases i with
      | event e => exact h.bars_happen hv hbars e
      | importAccounts accounts => exact h.bars_importAccounts hv hbars accounts

/-- A client gives a verdict about its account. -/
theorem bars_of_answered (h : w.AccountsApart) (hv : v ≠ .healthy) {r : ClientRequest}
    {f : ClientError} {at_ : Nat} (hr : .answered r (some f) at_ ∈ w.entriesIn e)
    (hf : f.accountHealth = v) :
    w.counters.evictions < (w.happen e).counters.evictions ∧ (w.happen e).Bars r.account v := by
  obtain ⟨id, σ, a, rfl, hseat, hrequest, ha, hfailure, -⟩ := seat_of_answered hr
  obtain ⟨kind, -, rfl⟩ := eq_of_request? hrequest
  obtain ⟨others, hperm, hpath⟩ := h.sound.path_happen h.numbered (e := .turn (.task id)) rfl
  have hunburied : f.unburied = some f := by
    rw [ClientError.unburied, if_neg]
    rintro rfl
    exact hv hf.symm
  have hnews : w.newsIn (.turn (.task id)) = some f := by
    simp [newsIn, hseat, Seat.news_of_isAnswered ha, hfailure, Errand.heeds, hunburied]
  have hhand : w.handIn (.turn (.task id)) = some σ.session := by simp [handIn, hseat]
  have hexclusive := h.exclusive.steps (steps_begin hperm (w.newsIn (.turn (.task id))))
  have hcondemning := hpath.condemning hv hexclusive
    (.found hhand rfl hnews hf (Nat.le_refl w.counters.evictions))
  obtain ⟨hbarred, hevicted⟩ := hcondemning.barred_of_hand rfl
  refine ⟨hevicted, bars hv (h.stored_happen _ ?_) hbarred⟩
  have hheld := h.within.held σ.session.account
    (List.mem_map_of_mem (mem_sessions.mpr ⟨_, mem_berths_of_seat? hseat, rfl⟩))
  exact List.mem_map.mp hheld

/-! ### An account that nothing is held against -/

/-- An event without such an answer leaves the account clear. -/
theorem clear_happen (h : w.AccountsApart) (hclear : w.snapshot.Clear u v)
    (hnot : ∀ r f at_, .answered r (some f) at_ ∈ w.entriesIn e → r.account = u →
      f.accountHealth ≠ v) : (w.happen e).snapshot.Clear u v := by
  cases hown : e.isOwn with
  | true =>
      obtain ⟨others, hperm, hpath⟩ := h.sound.path_happen h.numbered hown
      refine hpath.induction (P := Books.Clear u v) (fun b b' hmove h => h.move hmove) ?_
      refine ⟨hclear.records, fun s hs => hclear.copies s (mem_of_perm_hand hperm _ hs), ?_⟩
      intro s hs hu f hf
      obtain ⟨r, hr, hname⟩ := newsIn_eq_some hf
      exact hnot r f _ hr ((hname s hs).symm.trans hu)
  | false =>
      obtain ⟨haccounts, hsessions, -⟩ := accounts_happen h.sound hown
      rw [snapshot, hsessions]
      refine ⟨?_, hclear.copies, by simp [books]⟩
      change ∀ a ∈ (w.happen e).store.inventory.accounts, _
      rw [haccounts]
      exact hclear.records

/-- An import without such a mark leaves the account clear. -/
theorem clear_importAccounts (hclear : w.snapshot.Clear u v) {accounts : List Account}
    (hunmarked : ∀ a ∈ accounts, a.username = u → a.bears v = false) :
    (w.meet (.importAccounts accounts)).snapshot.Clear u v := by
  obtain ⟨new, hnew, hmem, -⟩ := w.store.inventory.addAccounts_eq accounts
  refine ⟨fun a ha hu => ?_, hclear.copies, by simp [snapshot, books]⟩
  have haccounts : (w.meet (.importAccounts accounts)).snapshot.inventory.accounts =
      w.store.inventory.accounts ++ new := congrArg Inventory.accounts hnew
  rw [haccounts] at ha
  rcases List.mem_append.mp ha with ha | ha
  · exact hclear.records a ha hu
  · exact hunmarked a (hmem a ha) hu

/-- Nothing is held against the account of a session that is of use. -/
theorem clear_snapshot (h : w.AccountsApart) (hv : v ≠ .healthy)
    (hrecords : ∀ a ∈ w.store.inventory.accounts, a.username = u → a.bears v = false) :
    w.snapshot.Clear u v := by
  refine ⟨hrecords, fun s hs _ => ?_, by simp [snapshot, books]⟩
  apply Bool.eq_false_iff.mpr
  intro hbears
  have huseful := (Bool.or_eq_false_iff.mp (h.sound.useful s hs)).1
  rw [Account.isUnusable_of_bears hv hbears] at huseful
  cases huseful

theorem clear_endure (h : w.AccountsApart) (hclear : w.snapshot.Clear u v)
    {incidents : List Incident}
    (himports : ∀ accounts, .importAccounts accounts ∈ incidents →
      ∀ a ∈ accounts, a.bears v = false)
    (hnot : ∀ r f at_, .answered r (some f) at_ ∈ w.heard incidents → r.account = u →
      f.accountHealth ≠ v) : (w.endure incidents).snapshot.Clear u v := by
  induction incidents generalizing w with
  | nil => exact hclear
  | cons i incidents ih =>
      have himport {accounts : List Account} (hi : i = .importAccounts accounts) :
          ∀ a ∈ accounts, a.bears v = false :=
        himports accounts (hi ▸ List.mem_cons_self)
      apply ih (h.meet i)
      · cases i with
        | event e =>
            apply h.clear_happen hclear
            exact fun r f at_ hr => hnot r f at_ (List.mem_append_left _ hr)
        | importAccounts accounts =>
            exact clear_importAccounts hclear fun a ha _ => himport rfl a ha
      · exact fun accounts hmem => himports accounts (List.mem_cons_of_mem _ hmem)
      · exact fun r f at_ hr => hnot r f at_ (List.mem_append_right _ hr)

end AccountsApart

/-- At the beginning no account serves anybody. -/
theorem Idle.accountsApart (h : w.Idle)
    (hnames : (w.store.inventory.accounts.map (·.username)).Nodup) : w.AccountsApart := by
  refine ⟨h.numbered, h.sound, ⟨hnames, ?_, ?_⟩, ⟨fun a ha => List.mem_map_of_mem ha, ?_⟩⟩
  all_goals simp [accounts, h.sessions_eq_nil]

/-- From the moment on at which a client has told of its account that it is banned, or that it has a
challenge to be solved, the session is gone, the record bears the mark, and the account is out of
use.  An account without a mark of which no client has told so bears none, provided that accounts
come without marks. -/
theorem verdicts_endure (hw : w.AccountsApart) (hv : v ≠ .healthy) (u : String)
    (incidents : List Incident)
    (himports : ∀ accounts, .importAccounts accounts ∈ incidents →
      ∀ a ∈ accounts, a.isUnusable = false) :
    (∀ before e after r f at_, incidents = before ++ .event e :: after →
      .answered r (some f) at_ ∈ (w.endure before).entriesIn e → r.account = u →
      f.accountHealth = v →
        (w.endure before).counters.evictions <
          (w.endure (before ++ [.event e])).counters.evictions ∧ (w.endure incidents).Bars u v) ∧
      ((∀ a ∈ w.store.inventory.accounts, a.username = u → a.bears v = false) →
        (∀ r f at_, .answered r (some f) at_ ∈ w.heard incidents → r.account = u →
          f.accountHealth ≠ v) →
        ∀ a ∈ (w.endure incidents).store.inventory.accounts, a.username = u →
          a.bears v = false) := by
  constructor
  · rintro before e after r f at_ rfl hr rfl hf
    have hbefore := hw.endure before
    obtain ⟨hevicted, hbars⟩ := hbefore.bars_of_answered hv hr hf
    have hsplit (incidents : List Incident) : w.endure (before ++ incidents) =
        (w.endure before).endure incidents := List.foldl_append ..
    rw [hsplit, hsplit]
    exact ⟨hevicted, (hbefore.happen e).bars_endure hv hbars after⟩
  · intro hrecords hnot
    have hclear := hw.clear_snapshot hv hrecords
    refine (hw.clear_endure hclear (fun accounts hmem a ha => ?_) hnot).records
    apply Bool.eq_false_iff.mpr
    intro hbears
    have huseful := himports accounts hmem a ha
    rw [Account.isUnusable_of_bears hv hbears] at huseful
    cases huseful

/-- A dispatcher with one account, which turns out to be banned at the first map call. -/
def banAhead : World where
  config := { cooldown := 0, loginInterval := 0, callInterval := 0 }
  store := { inventory := {
    accounts := [{ username := "ann", password := "pw", provider := "ptc" }]
    proxies := [{ id := 1 }] } }
  supply := .scripts [.scripted true [] [{ failure := some .accountBanned }]]

/-- A scan builds a session and makes its map call. -/
def firstCall : List Incident :=
  [.scan default 0, .turn (.task 0), .turn .pool, .turn .pool, .pass 5000, .turn (.task 0),
    .turn (.task 0), .turn (.task 0)].map .event

/-- Another account comes, and another scan is asked for. -/
def afterFirstCall : List Incident :=
  [.event .sweep, .importAccounts [{ username := "ann", password := "pw", provider := "ptc" },
    { username := "bob", password := "pw", provider := "ptc" }], .event (.scan default 5000)]

def callOfBanAhead : ClientRequest :=
  { task := 0, errand := .scan .first, account := "ann", proxy := 1, kind := .map,
    deadline := 15000 }

theorem verdicts_endure_banAhead :
    banAhead.AccountsApart ∧
      Entry.answered callOfBanAhead (some .accountBanned) 5000 ∈
        (banAhead.endure firstCall).entriesIn (.turn (.task 0)) ∧
      (banAhead.endure (firstCall ++ .event (.turn (.task 0)) :: afterFirstCall)).Bars "ann"
        .banned := by
  have hidle : banAhead.Idle := ⟨fun _ => rfl, rfl, rfl⟩
  have hapart : banAhead.AccountsApart := hidle.accountsApart (by decide)
  have hr : Entry.answered callOfBanAhead (some .accountBanned) 5000 ∈
      (banAhead.endure firstCall).entriesIn (.turn (.task 0)) := by
    decide +kernel
  have himports : ∀ accounts, .importAccounts accounts ∈
      firstCall ++ .event (.turn (.task 0)) :: afterFirstCall → ∀ a ∈ accounts,
        a.isUnusable = false := by
    simp [firstCall, afterFirstCall, Account.isUnusable]
  have hverdicts := verdicts_endure hapart AccountHealth.noConfusion "ann"
    (firstCall ++ .event (.turn (.task 0)) :: afterFirstCall) himports (v := .banned)
  exact ⟨hapart, hr, (hverdicts.1 firstCall _ afterFirstCall callOfBanAhead .accountBanned 5000 rfl
    hr rfl rfl).2⟩

end World

end MapScout
