import MapScout.Proofs.Dispatch.Returns

/-!
# The throttle of accounts

An account rests between two scans that make requests with it, since its session does: as long as
the session is somewhere no other session has the account, and an account that is out of use is
claimed by nobody.  There is one way around the rest.  A session that is dropped for its proxy gives
its account back at once, and the next session may be built with it.
-/

namespace MapScout.World

variable {w : World} {id cid due : Nat} {s : Session} {e e' : Event} {σ τ : Seat}

/-! ## One session at a time -/

/-- As long as a session rests its rest is not over. -/
theorem Abed.run {events : List Event} (h : w.Abed cid s due) (hw : w.Steady)
    (htimely : w.Timely events) : (w.run events).Abed cid s due ∨ due ≤ (w.run events).now := by
  induction events generalizing w with
  | nil => exact .inl h
  | cons e events ih =>
      rcases h.happen hw htimely.1 with hrests | ⟨o, rfl, hnow, -⟩
      · exact ih hrests (hw.happen e).steady htimely.2
      · exact .inr (hnow ▸ now_le_run w (.turn o :: events))

namespace AccountsApart

theorem run (h : w.AccountsApart) (events : List Event) : (w.run events).AccountsApart :=
  run_induction (fun _ e h => h.happen e) h events

/-- The account of a session at work is nowhere else. -/
theorem ne_of_mem_elsewhere (h : w.AccountsApart) (hseat : w.seat? id = some σ) {π : Berth}
    (hπ : π ∈ w.elsewhere id) : π.username ≠ σ.session.username := by
  have hnodup : (w.berths.map Berth.username).Nodup := by
    have hnames : w.berths.map Berth.username =
        (w.sessions.map (·.account)).map Inventory.accountLedger.key := by
      rw [← map_session_berths, List.map_map, List.map_map]
      rfl
    exact hnames ▸ h.exclusive.copies_nodup
  have hperm := (berths_perm h.numbered.tasks_nodup id).map Berth.username
  rw [hseat] at hperm
  obtain ⟨hnew, -⟩ := List.nodup_cons.mp (hperm.nodup_iff.mp hnodup)
  exact fun hname => hnew (List.mem_map.mpr ⟨π, hπ, hname⟩)

/-- Another task works with another account. -/
theorem ne_of_seat? (h : w.AccountsApart) (hσ : w.seat? id = some σ) {i : Nat}
    (hτ : w.seat? i = some τ) (hi : i ≠ id) : τ.session.username ≠ σ.session.username := by
  refine h.ne_of_mem_elsewhere (π := .seated τ) hσ (List.mem_append_right _ ?_)
  obtain ⟨t, ht, hτ⟩ := Option.bind_eq_some_iff.mp hτ
  have ht' := (Keyed.lookup_others_of_ne hi w.tasks).trans ht
  exact List.mem_map_of_mem (List.mem_filterMap.mpr ⟨(i, t), Keyed.mem_of_lookup ht', hτ⟩)

/-- The account at work is not that of a session at rest. -/
theorem ne_of_abed (h : w.AccountsApart) (hσ : w.seat? id = some σ) (habed : w.Abed cid s due) :
    s.username ≠ σ.session.username := by
  refine h.ne_of_mem_elsewhere (π := .resting s) hσ (List.mem_append_left _ ?_)
  refine List.mem_map_of_mem (List.mem_append_right _ (List.mem_append_left _ ?_))
  exact habed.mem_cooling

/-- An account that is out of use stays so. -/
theorem bars_run {u : String} {v : AccountHealth} (h : w.AccountsApart) (hv : v ≠ .healthy)
    (hbars : w.Bars u v) (events : List Event) : (w.run events).Bars u v := by
  have hboth := run_induction (P := fun w => w.AccountsApart ∧ w.Bars u v)
    (fun w e h => ⟨h.1.happen e, h.1.bars_happen hv h.2 e⟩) ⟨h, hbars⟩ events
  exact hboth.2

/-- A session that is dropped for its account is not of use to anybody any more. -/
theorem bars_of_endsWith (h : w.AccountsApart)
    (hends : w.EndsWith id s (w.happen (.turn (.task id))))
    (hunusable : (s.told (w.tidings id s)).account.isUnusable = true) :
    ∃ v, v ≠ .healthy ∧ (w.happen (.turn (.task id))).Bars s.username v := by
  have hverdict {news : Option ClientError} (huseful : s.isSpent = false)
      (hunusable : (s.told news).account.isUnusable = true) :
      ∃ f, news = some f ∧ f.accountHealth ≠ .healthy := by
    have huseful := (Bool.or_eq_false_iff.mp huseful).1
    cases news with
    | none => cases huseful.symm.trans hunusable
    | some f =>
        refine ⟨f, rfl, fun hhealth => ?_⟩
        have hsame : (s.told (some f)).account = s.account := Account.judged_of_healthy hhealth
        rw [hsame, huseful] at hunusable
        cases hunusable
  have hhand := hends.hand
  -- A session that has just been handed over comes with news of its proxy only.
  cases hseat : w.seat? id with
  | none =>
      rw [hand?_of_none hseat] at hhand
      obtain ⟨f, hf, hhealth⟩ := hverdict (h.sound.useful_of_handed hhand) hunusable
      rw [tidings, hseat] at hf
      dsimp only [foundOut] at hf
      split at hf
      · cases hf
        exact absurd rfl hhealth
      · cases hf
  | some σ =>
      obtain rfl := Option.some.inj ((hand?_of_seat? hseat).symm.trans hhand)
      have hsession := mem_sessions.mpr ⟨_, mem_berths_of_seat? hseat, rfl⟩
      obtain ⟨f, hf, hhealth⟩ := hverdict (h.sound.useful _ hsession) hunusable
      rw [tidings_of_seat? hseat] at hf
      have hnews : w.newsIn (.turn (.task id)) = some f := by
        rw [newsIn, hseat]
        exact hf
      obtain ⟨r, hr, haccount⟩ := newsIn_eq_some hnews
      have hname : σ.session.username = r.account := haccount _ (by simp [handIn, hseat])
      exact ⟨_, hhealth, hname ▸ (h.bars_of_answered hhealth hr rfl).2⟩

end AccountsApart

/-! ## The throttle -/

/-- The last look concerns the proxy alone. -/
theorem account_lastLook (w : World) (s : Session) (news : Option ClientError) :
    (w.lastLook s news).account = (s.told news).account := by
  rw [lastLook, Inventory.refresh]
  split <;> rfl

/-- The session that a scan ends with is spent, but its account is of use: it is dropped for its
proxy alone. -/
structure SpentByProxy (id : Nat) (s : Session) (w : World) : Prop where
  spent : (w.lastLook s (w.tidings id s)).isSpent = true
  useful : (w.lastLook s (w.tidings id s)).account.isUnusable = false

/-- A scan has ended, and then somebody works with the account.  The session of the scan has rested
in between, unless it has been dropped for its proxy. -/
theorem EndsWith.throttles {i : Nat} {ys : List Event} (hw : w.Steady) (hapart : w.AccountsApart)
    (hends : w.EndsWith id s (w.happen (.turn (.task id))))
    (htimely : (w.happen (.turn (.task id))).Timely ys)
    (hτ : (((w.happen (.turn (.task id))).run ys).happen (.turn (.task i))).seat? i = some τ)
    (hname : τ.session.username = s.username) :
    w.now + w.config.cooldown ≤ ((w.happen (.turn (.task id))).run ys).now ∨
      w.SpentByProxy id s := by
  have hdisposes := hends.disposes
  have hbegun : w.now ≤ ((w.happen (.turn (.task id))).run ys).now :=
    (now_turn w (.task id)).symm.trans_le (now_le_run ..)
  have hbars := hapart.bars_of_endsWith hends
  have hsteady := (hw.happen (.turn (.task id))).steady
  have hapart := hapart.happen (.turn (.task id))
  have hlast := (hapart.run ys).happen (.turn (.task i))
  rw [Disposes] at hdisposes
  split at hdisposes
  · rename_i hspent
    -- An account that is not of use to anybody any more is not in the session of another scan.
    cases hunusable : (w.lastLook s (w.tidings id s)).account.isUnusable with
    | false => exact .inr ⟨hspent, hunusable⟩
    | true =>
        rw [account_lastLook] at hunusable
        obtain ⟨v, hv, hbars⟩ := hbars hunusable
        have hbars := (hapart.run ys).bars_happen hv (hapart.bars_run hv hbars ys) (.turn (.task i))
        have hmem := mem_sessions.mpr ⟨_, mem_berths_of_seat? hτ, rfl⟩
        exact absurd hname (hbars.nowhere _ hmem)
  · left
    obtain ⟨s', haccount, -, hput⟩ := hdisposes.put
    by_cases hzero : w.config.cooldown = 0
    · rwa [hzero, Nat.add_zero]
    · -- Nobody works with an account while it rests.
      rcases (hput.abed hw hzero).run hsteady htimely with habed | hdue
      · have hrests := habed.undisturbed (hsteady.run ys) (e := .turn (.task i)) (by simp) (by simp)
        have hname' : s'.username = τ.session.username :=
          (congrArg Account.username haccount).trans hname.symm
        exact absurd hname' (hlast.ne_of_abed hτ hrests)
      · exact hdue

/-- When a request is made with an account that a scan has made one with before, then that scan has
ended.  It did so at least a cooldown ago, unless it has dropped its session for the proxy while the
account was of use; then the account was released at once. -/
theorem throttled {before mid : List Event} {r r' : ClientRequest} {scan : Scan} (hw : w.Steady)
    (hapart : w.AccountsApart) (htimely : w.Timely (before ++ e :: mid))
    (hscan : (w.run before).task? r.task = some (.scan scan))
    (hr : .sent r ∈ (w.run before).entriesIn e)
    (hr' : .sent r' ∈ (w.run (before ++ e :: mid)).entriesIn e')
    (haccount : r'.account = r.account) (htask : r'.task ≠ r.task) :
    ∃ xs ys s, before ++ e :: mid = xs ++ .turn (.task r.task) :: ys ∧ s.username = r.account ∧
      (w.run xs).EndsWith r.task s ((w.run xs).happen (.turn (.task r.task))) ∧
      ((w.run xs).now + w.config.cooldown ≤ (w.run (before ++ e :: mid)).now ∨
        (w.run xs).SpentByProxy r.task s) := by
  obtain ⟨id, σ, rfl, hσ, hrequest⟩ := seat_of_sent hr
  obtain ⟨i, τ, rfl, hτ, hrequest'⟩ := seat_of_sent hr'
  obtain ⟨kind, -, rfl⟩ := eq_of_request? hrequest
  obtain ⟨kind', -, rfl⟩ := eq_of_request? hrequest'
  dsimp only at hscan haccount htask ⊢
  have hsplit (ys : List Event) : w.run (before ++ .turn (.task id) :: ys) =
      ((w.run before).happen (.turn (.task id))).run ys := run_append ..
  obtain ⟨scan', hscan', -⟩ := happen_scan hscan (.turn (.task id))
  have hsteady := ((hw.run before).happen (.turn (.task id))).steady
  rcases seat?_or_ending hsteady hscan' hσ mid with
    ⟨σ', hσ', hname⟩ | ⟨xs, ys, s, rfl, hname, hends⟩
  · -- As long as the scan goes on nobody else has the account.
    rw [hsplit] at hτ
    have hkept : ((((w.run before).happen (.turn (.task id))).run mid).happen
        (.turn (.task i))).seat? id = some σ' := by
      obtain ⟨t, ht, -⟩ := Option.bind_eq_some_iff.mp hσ'
      have ht' := task?_happen_of_ne (e := .turn (.task i)) (by simpa using htask) ht
      exact (seat?_congr (ht'.trans ht.symm)).trans hσ'
    have hlast := (((hapart.run before).happen (.turn (.task id))).run mid).happen (.turn (.task i))
    exact absurd (haccount.trans hname.symm) (hlast.ne_of_seat? hkept hτ htask)
  · rw [← hsplit] at hends
    have hlist : before ++ .turn (.task id) :: (xs ++ .turn (.task id) :: ys) =
        (before ++ .turn (.task id) :: xs) ++ .turn (.task id) :: ys := by simp
    rw [hlist] at htimely hτ ⊢
    rw [run_append] at hτ ⊢
    refine ⟨_, ys, s, rfl, hname, hends, ?_⟩
    have hthere := hw.run (before ++ .turn (.task id) :: xs)
    have hthrottles := hends.throttles hthere (hapart.run _) (timely_append.mp htimely).2.2 hτ
      (haccount.trans hname.symm)
    rwa [config_run] at hthrottles

/-- The scan gets its answer, and another one is asked for just before the session has rested. -/
def scanAgain : List Event :=
  List.flatten [
    [.turn (.task 0), .pass 5100, .turn (.task 0), .turn (.cooling 1), .pass 30000],
    .scan default 0 :: List.replicate 2 (.turn (.task 2)), List.replicate 2 (.turn .pool),
    [.pass 30100, .turn (.cooling 1)], List.replicate 6 (.turn .pool), [.turn (.task 2)]]

/-- It makes its call when the session has rested. -/
theorem throttled_slowCall :
    slowCall.Steady ∧ slowCall.AccountsApart ∧
      slowCall.Timely (upToCall ++ .turn (.task 0) :: scanAgain) ∧
      (∃ scan, (slowCall.run upToCall).task? 0 = some (.scan scan)) ∧
      .sent (asked 0 .first .map 15000) ∈ (slowCall.run upToCall).entriesIn (.turn (.task 0)) ∧
      .sent (asked 2 .first .map 45000) ∈
        (slowCall.run (upToCall ++ .turn (.task 0) :: scanAgain)).entriesIn (.turn (.task 2)) ∧
      ∃ xs ys s, upToCall ++ .turn (.task 0) :: scanAgain = xs ++ .turn (.task 0) :: ys ∧
        s.username = "ann" ∧
        (slowCall.run xs).EndsWith 0 s ((slowCall.run xs).happen (.turn (.task 0))) ∧
        ((slowCall.run xs).now + 25000 ≤
            (slowCall.run (upToCall ++ .turn (.task 0) :: scanAgain)).now ∨
          (slowCall.run xs).SpentByProxy 0 s) := by
  have hsteady : slowCall.Steady := Unbegun.steady ⟨fun _ => rfl, rfl, rfl, rfl⟩
  have hapart : slowCall.AccountsApart := Idle.accountsApart ⟨fun _ => rfl, rfl, rfl⟩ (by decide)
  have htimely : slowCall.Timely (upToCall ++ .turn (.task 0) :: scanAgain) := by decide +kernel
  have hscan : ∃ scan, (slowCall.run upToCall).task? 0 = some (.scan scan) := ⟨_, rfl⟩
  have hr : .sent (asked 0 .first .map 15000) ∈
      (slowCall.run upToCall).entriesIn (.turn (.task 0)) := by decide +kernel
  have hr' : .sent (asked 2 .first .map 45000) ∈
      (slowCall.run (upToCall ++ .turn (.task 0) :: scanAgain)).entriesIn (.turn (.task 2)) := by
    decide +kernel
  obtain ⟨scan, hscan⟩ := hscan
  exact ⟨hsteady, hapart, htimely, ⟨scan, hscan⟩, hr, hr',
    throttled hsteady hapart htimely hscan hr hr' rfl (by decide)⟩

def spareProxy : World where
  store := { inventory := {
    accounts := [{ username := "ann", password := "pw", provider := "ptc" }]
    proxies := [{ id := 1 }, { id := 2 }] } }
  supply := .scripts [.scripted true [] [{ delay := 100 }]]

/-- The proxy of the first scan dies before the answer comes.  A second scan waits for the pool in
vain and builds a session. -/
def scanOnSpareProxy : List Event :=
  List.flatten [
    [.turn (.task 0), .loseProxy 1, .pass 5100, .turn (.task 0)],
    .scan default 0 :: List.replicate 2 (.turn (.task 1)), List.replicate 2 (.turn .pool),
    .pass 10100 :: List.replicate 2 (.turn (.task 1))]

/-- There are scans that make requests with one account without a cooldown in between. -/
theorem not_throttled_spareProxy :
    ¬ ∀ (w : World) (before mid : List Event) (e e' : Event) (r r' : ClientRequest)
        (scan scan' : Scan) (at_ : Nat), w.Fresh → w.Timely (before ++ e :: mid) →
      (w.run before).task? r.task = some (.scan scan) → .sent r ∈ (w.run before).entriesIn e →
      (w.run (before ++ e :: mid)).IsOver r.task at_ →
      (w.run (before ++ e :: mid)).task? r'.task = some (.scan scan') →
      .sent r' ∈ (w.run (before ++ e :: mid)).entriesIn e' →
      r'.account = r.account → r'.task ≠ r.task →
        at_ + w.config.cooldown ≤ (w.run (before ++ e :: mid)).now := by
  intro h
  have hfresh : spareProxy.Fresh :=
    ⟨by decide, by decide, by decide, fun _ => rfl, rfl, rfl, rfl⟩
  have hscan : ∃ scan, (spareProxy.run upToCall).task? 0 = some (.scan scan) := ⟨_, rfl⟩
  have hscan' : ∃ scan', (spareProxy.run
      (upToCall ++ .turn (.task 0) :: scanOnSpareProxy)).task? 1 = some (.scan scan') := ⟨_, rfl⟩
  have hover : (spareProxy.run (upToCall ++ .turn (.task 0) :: scanOnSpareProxy)).IsOver 0 5100 :=
    ⟨_, _, rfl, rfl⟩
  obtain ⟨scan, hscan⟩ := hscan
  obtain ⟨scan', hscan'⟩ := hscan'
  have hlate := h spareProxy upToCall scanOnSpareProxy (.turn (.task 0)) (.turn (.task 1))
    (asked 0 .first .map 15000) { asked 1 .first (.login .first) 20100 with proxy := 2 }
    scan scan' 5100 hfresh (by decide +kernel) hscan (by decide +kernel) hover hscan'
    (by decide +kernel) rfl (by decide)
  have hnow : (spareProxy.run (upToCall ++ .turn (.task 0) :: scanOnSpareProxy)).now = 10100 := by
    decide +kernel
  rw [hnow] at hlate
  exact absurd hlate (by decide)

end MapScout.World
