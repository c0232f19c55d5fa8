import MapScout.Proofs.Dispatch.Logins
import Mathlib.Data.List.Infix

/-!
# Rejected tickets

A session whose ticket has been rejected has to log in before its next map call.  The need is noted
when the rejection comes in time, and it is forgotten with the login that is meant to satisfy it,
also when that login is cut off.  The one session of an account is followed through all events:
through the pool, from scan to scan.
-/

namespace MapScout

namespace Berth

/-- The ticket will be thrown away in a login before any map call. -/
def IsShut : Berth → Prop
  | resting s => s.mustLogin = true
  | seated σ =>
    match σ.wait with
    | .login (.token _) => σ.session.mustLogin = true
    | .login (.answer ..) => True
    | _ => False

/-- A ticket has been rejected, and `π` has come of it. -/
def HeedsRefusal (x : Entry) (π : Berth) : Prop := x.isRefusal = true → π.IsShut

end Berth

namespace Course

variable {now id : Nat} {σ σ' : Seat} {π : Berth} {x : Entry} {r : ClientRequest}

/-- What has become of a login under way is heard. -/
theorem hears_login (id : Nat) {t : LoginTry} {a : Answer} {due : Nat}
    (hwait : σ.wait = .login (.answer t a due)) (h : due ≤ now ∨ σ.deadline ≤ now) :
    ∃ x ∈ σ.hears id now, x.isLoginNews = true := by
  by_cases hdue : due ≤ now
  · obtain ⟨x, hx, hanswer⟩ := hears_answer id hwait hdue
    refine ⟨x, hx, ?_⟩
    apply Bool.of_not_eq_false
    intro hno
    rw [Entry.isLoginAnswer_of_isLoginNews hno] at hanswer
    cases hanswer
  · obtain ⟨r, hr, hkind⟩ : ∃ r, σ.request? id = some r ∧ r.kind = .login t := by
      rw [Seat.request?, hwait]
      exact ⟨_, rfl, rfl⟩
    have hheard : σ.hears id now = [.cutOff r] := by
      simp [Seat.hears, hr, hwait, ScanWait.answer?, hdue, h.resolve_left hdue]
    rw [hheard]
    exact ⟨_, List.mem_cons_self, by rw [Entry.isLoginNews, hkind]; rfl⟩

/-- As long as nothing is heard of logins, a login that lies ahead still does. -/
theorem isShut (h : Course now σ π) (hquiet : ∀ x ∈ σ.hears id now, x.isLoginNews = false)
    (hshut : (Berth.seated σ).IsShut) : π.IsShut := by
  have hover {t : LoginTry} {a : Answer} {due : Nat} (hwait : σ.wait = .login (.answer t a due)) :
      ¬ (due ≤ now ∨ σ.deadline ≤ now) := by
    intro h
    obtain ⟨x, hx, hnews⟩ := hears_login id hwait h
    rw [hquiet x hx] at hnews
    cases hnews
  obtain ⟨errand, s, wait, deadline⟩ := σ
  cases wait with
  | callToken => exact hshut.elim
  | call a due => exact hshut.elim
  | login wait =>
      cases h with
      | stay => exact hshut
      | login => exact trivial
      | reject _ _ _ hdue | enter _ _ _ _ hdue => exact absurd (Or.inl hdue) (hover rfl)
      | swap ha | again ha | back ha =>
          obtain ⟨due, hdue, hanswer⟩ := ha
          cases wait with
          | token t => cases hanswer
          | answer t a' due' =>
              cases hanswer
              exact absurd (Or.inl hdue) (hover rfl)
      | quit hdeadline _ hkin =>
          cases wait with
          | token t => exact hkin.mustLogin.trans hshut
          | answer t a due => exact absurd (Or.inr hdeadline) (hover rfl)

/-- A session whose ticket was rejected throws the ticket away before its next map call. -/
theorem heedsRefusal (h : Course now σ π) (hx : x ∈ σ.hears id now) : π.HeedsRefusal x := by
  intro hrefusal
  rcases σ.mem_hears hx with ⟨r, a, hr, ⟨due, hdue, hanswer⟩, rfl⟩ | ⟨r, -, rfl⟩
  swap
  · cases hrefusal
  obtain ⟨kind, hkind, rfl⟩ := World.eq_of_request? hr
  obtain ⟨errand, s, wait, deadline⟩ := σ
  cases wait with
  | callToken => cases hanswer
  | login wait =>
      cases wait with
      | token t => cases hanswer
      | answer t a' due' =>
          cases hkind
          cases hrefusal
  | call a' due' =>
      cases hanswer
      cases hkind
      obtain ⟨hrefused, htime⟩ : a.failure = some .invalidAuthToken ∧ now < deadline := by
        simpa [Entry.isRefusal, RequestKind.isLogin] using hrefusal
      obtain ⟨s', rfl, hmust⟩ := h.resting_of_refused hdue hrefused
      exact hmust htime

/-- What a session makes of a rejection is so until something is heard of its logins. -/
theorem lesson_heedsRefusal : Berth.Lesson Entry.isLoginNews fun x π => π.HeedsRefusal x where
  sent _ := rfl
  begins hkin hwait h hrefusal := by
    have hmust := hkin.mustLogin.trans (h hrefusal)
    rw [Session.firstWait_of_mustLogin hmust] at hwait
    rw [Berth.IsShut, hwait]
    exact hmust
  quiet hcourse hquiet h hrefusal := hcourse.isShut hquiet (h hrefusal)
  learnt hcourse _ hx _ := hcourse.heedsRefusal hx

/-- What was heard last before a map call is not that its ticket is rejected. -/
theorem isRefusal_of_sent (h : Course now σ (.seated σ')) (hsent : .sent r ∈ σ.sends id σ')
    (hmap : r.kind = .map) (hheeds : (Berth.seated σ).HeedsRefusal x) : x.isRefusal = false := by
  obtain ⟨hwait, -⟩ := h.wait_of_sent hsent hmap
  apply Bool.eq_false_iff.mpr
  intro hrefusal
  have hshut := hheeds hrefusal
  rw [Berth.IsShut, hwait] at hshut
  exact hshut

end Course

/-! ## One session -/

namespace Passage

variable {now : Nat} {places places' : List Berth} {entries : List Entry} {u : String} {π : Berth}
variable {last : Option Entry} {news : Entry → Bool} {learns : Entry → Berth → Prop}

/-- Every session that fails to log in is logged out. -/
theorem honest (h : Passage now places places' entries) (hplaces : ∀ π ∈ places, π.Honest) :
    ∀ π ∈ places', π.Honest := by
  intro π hπ
  cases h with
  | drop h => exact hplaces π (h.subset hπ)
  | @begin s σ rest hold _ hwait hnew =>
      rcases List.mem_cons.mp (hnew.mem_iff.mp hπ) with rfl | hrest
      · exact Seat.honest_of_answer? (by rw [hwait, Session.answer?_firstWait])
      · exact hplaces π (hold.subset (List.mem_cons_of_mem _ hrest))
  | @fresh σ hwait hnew =>
      rcases List.mem_cons.mp (hnew.mem_iff.mp hπ) with rfl | hrest
      · exact Seat.honest_of_answer? hwait
      · exact hplaces π hrest
  | @go id σ left rest hold hcourse hnew =>
      rcases List.mem_append.mp (hnew.mem_iff.mp hπ) with hleft | hrest
      · have hσ := hplaces _ (hold.symm.subset List.mem_cons_self)
        exact (hcourse π (Option.mem_toList.mp hleft)).honest hσ
      · exact hplaces π (hold.symm.subset (List.mem_cons_of_mem _ hrest))

/-- The one session of an account goes on with what it has learnt. -/
theorem heeds (h : Passage now places places' entries) (hlesson : Berth.Lesson news learns)
    (hplaces : ∀ π ∈ places, π.Honest) (hone : places.countP (·.username == u) = 1)
    (hone' : places'.countP (·.username == u) = 1)
    (hlast : ∀ π ∈ places, π.username = u → ∀ x ∈ last, learns x π) :
    ∀ π ∈ places', π.username = u →
      ∀ x ∈ (Entry.latest news (fun r => r.account = u) entries).or last, learns x π := by
  intro π hπ hu
  cases h with
  | drop h => exact hlast π (h.subset hπ) hu
  | @begin s σ rest hold hkin hwait hnew =>
      rcases List.mem_cons.mp (hnew.mem_iff.mp hπ) with rfl | hrest
      · intro x hx
        apply hlesson.begins hkin hwait
        exact hlast _ (hold.subset List.mem_cons_self) (hkin.username.symm.trans hu) x hx
      · exact hlast π (hold.subset (List.mem_cons_of_mem _ hrest)) hu
  | @fresh σ hwait hnew =>
      rcases List.mem_cons.mp (hnew.mem_iff.mp hπ) with rfl | hrest
      · rw [hnew.countP_eq, List.countP_cons, hone, if_pos (beq_iff_eq.mpr hu)] at hone'
        cases hone'
      · exact hlast π hrest hu
  | @go id σ left rest hold hcourse hnew =>
      rw [Entry.latest_append, σ.latest_sends hlesson.sent, Option.none_or]
      have haccount (r : ClientRequest) (hr : σ.request? id = some r) :
          r.account = σ.session.username := by
        obtain ⟨kind, -, rfl⟩ := World.eq_of_request? hr
        rfl
      have hσ : Berth.seated σ ∈ places := hold.symm.subset List.mem_cons_self
      rcases List.mem_append.mp (hnew.mem_iff.mp hπ) with hleft | hrest
      · have hcourse := hcourse π (Option.mem_toList.mp hleft)
        have hname : σ.session.username = u := hcourse.username.symm.trans hu
        apply hcourse.heeds hlesson (hplaces _ hσ) _ (hlast _ hσ hname)
        exact fun r hr => decide_eq_true ((haccount r hr).trans hname)
      · have hname : σ.session.username ≠ u := by
          intro hname
          have hpos : 0 < rest.countP (·.username == u) :=
            List.countP_pos_iff.mpr ⟨π, hrest, beq_iff_eq.mpr hu⟩
          have hname : ((Berth.seated σ).username == u) = true := beq_iff_eq.mpr hname
          rw [hold.countP_eq, List.countP_cons, if_pos hname] at hone
          omega
        have hquiet : Entry.latest news (fun r => r.account = u) (σ.hears id now) = none := by
          apply Entry.latest_eq_none.mpr
          intro x hx hx'
          have hx' := of_decide_eq_true hx'
          rcases σ.mem_hears hx with ⟨r, a, hr, -, rfl⟩ | ⟨r, hr, rfl⟩
          all_goals exact absurd ((haccount r hr).symm.trans hx') hname
        rw [hquiet]
        exact hlast π (hold.symm.subset (List.mem_cons_of_mem _ hrest)) hu

end Passage

namespace World

open Entry (latest isLoginAnswer isLoginNews)

variable {w : World} {e : Event} {u : String} {news : Entry → Bool} {learns : Entry → Berth → Prop}

/-- The logins under way are those of clients that are logged out when they fail. -/
structure Candid (w : World) : Prop where
  numbered : w.Numbered
  honest : ∀ π ∈ w.berths, π.Honest

theorem candid_of_tasks (h : w.tasks = []) : w.Candid := by
  refine ⟨⟨?_, ?_⟩, ?_⟩
  · simp [h]
  · simp [h]
  · intro π hπ
    simp only [berths, h, seats, List.filterMap_nil, List.map_nil, List.append_nil] at hπ
    obtain ⟨s, -, rfl⟩ := List.mem_map.mp hπ
    exact trivial

/-- And so it stays, whatever happens. -/
theorem Candid.happen (h : w.Candid) (e : Event) : (w.happen e).Candid := by
  have houtcome := outcome_happen h.numbered e
  exact ⟨houtcome.numbered, houtcome.passage.honest h.honest⟩

/-- As long as an account has one session, the session heeds the latest news. -/
theorem Candid.heeds_run (h : w.Candid) (hlesson : Berth.Lesson news learns) {events : List Event}
    (hone : ∀ xs, xs <+: events → (w.run xs).berths.countP (·.username == u) = 1)
    (last : Option Entry) (hlast : ∀ π ∈ w.berths, π.username = u → ∀ x ∈ last, learns x π) :
    ∀ π ∈ (w.run events).berths, π.username = u →
      ∀ x ∈ (latest news (fun r => r.account = u) (w.transcript events)).or last, learns x π := by
  induction events generalizing w last with
  | nil => exact hlast
  | cons e events ih =>
      rw [transcript, Entry.latest_append, Option.or_assoc]
      apply ih (h.happen e)
      · exact fun xs hxs => hone (e :: xs) ((List.prefix_cons_inj e).mpr hxs)
      · exact (outcome_happen h.numbered e).passage.heeds hlesson h.honest (hone [] List.nil_prefix)
          (hone [e] ⟨events, rfl⟩) hlast

/-- As long as an account has one session, before a map call is made on it the latest login that has
been answered has succeeded, or has failed for an invalid platform request, and the call is the one
that is made once more for such a failure.  If a map call has been refused for its ticket since,
then it was too late, or a login has been cut off after it. -/
theorem ticket_before_call (hw : w.tasks = []) (before between : List Event)
    (hone : ∀ xs, xs <+: between →
      (w.run (before ++ xs)).sessions.countP (·.username == u) = 1)
    {r : ClientRequest} (hr : .sent r ∈ (w.run (before ++ between)).entriesIn e)
    (hmap : r.kind = .map) (haccount : r.account = u) :
    (∀ x ∈ latest isLoginAnswer (fun r => r.account = u) ((w.run before).transcript between),
      x.Admits r) ∧
    ∀ x ∈ latest isLoginNews (fun r => r.account = u) ((w.run before).transcript between),
      x.isRefusal = false := by
  have hcandid : (w.run before).Candid :=
    run_induction (fun _ e h => h.happen e) (candid_of_tasks hw) before
  have hone' (xs : List Event) (hxs : xs <+: between) :
      ((w.run before).run xs).berths.countP (·.username == u) = 1 := by
    have hcount := hone xs hxs
    rwa [run_append, ← map_session_berths, List.countP_map] at hcount
  rw [run_append] at hr
  obtain ⟨σ, σ', -, hseat, hsent, hcourse⟩ := course_of_sent hr
  have hname : (Berth.seated σ).username = u := by
    obtain ⟨r', hr', hentry⟩ := σ.mem_sends hsent
    cases hentry
    obtain ⟨kind, -, heq⟩ := eq_of_request? hr'
    have hname := congrArg ClientRequest.account heq
    exact hcourse.username.symm.trans (hname.symm.trans haccount)
  have hσ := mem_berths_of_seat? hseat
  constructor
  · intro x hx
    have hlesson : Berth.Lesson isLoginAnswer fun x π => π.HeedsFailure x :=
      Course.lesson_heedsFailure (fun _ => rfl) fun _ => id
    have hheeds := hcandid.heeds_run hlesson hone' none (by simp) _ hσ hname x
    rw [Option.or_none] at hheeds
    apply Entry.admits_of_loginFailure? (Entry.mem_of_latest hx).2
    exact hcourse.errand_of_sent hsent hmap (hheeds hx)
  · intro x hx
    have hheeds := hcandid.heeds_run Course.lesson_heedsRefusal hone' none (by simp) _ hσ hname x
    rw [Option.or_none] at hheeds
    exact hcourse.isRefusal_of_sent hsent hmap (hheeds hx)

def goOn (id span : Nat) : List Event := [.pass span, .turn (.task id)]

/-- The ticket is rejected, and the login that is to throw it away takes too long. -/
def loginCutOff : World :=
  oneSession (.scripted true [{ delay := 2000 }] [{ failure := some .invalidAuthToken }])

def refusedLate : World :=
  oneSession (.scripted true [] [{ delay := 1000, failure := some .invalidAuthToken }])

/-- A scan whose call is refused, one whose login is cut off, and the beginning of a third. -/
def threeScans : List Event := askFor 0 ++ goOn 0 0 ++ askFor 1 ++ goOn 1 1000 ++ askFor 2

theorem ticket_before_call_loginCutOff :
    loginCutOff.tasks = [] ∧
      (∀ xs, xs <+: threeScans.dropLast →
        (loginCutOff.run ([] ++ xs)).sessions.countP (·.username == "ann") = 1) ∧
      .sent (asked 2 .first .map 2000) ∈
        (loginCutOff.run ([] ++ threeScans.dropLast)).entriesIn (.turn (.task 2)) ∧
      (∀ x ∈ latest isLoginAnswer (fun r => r.account = "ann")
          ((loginCutOff.run []).transcript threeScans.dropLast),
        x.Admits (asked 2 .first .map 2000)) ∧
      ∀ x ∈ latest isLoginNews (fun r => r.account = "ann")
          ((loginCutOff.run []).transcript threeScans.dropLast), x.isRefusal = false := by
  have hone (xs : List Event) (hxs : xs <+: threeScans.dropLast) :
      (loginCutOff.run ([] ++ xs)).sessions.countP (·.username == "ann") = 1 := by
    have hprefixes : ∀ xs ∈ threeScans.dropLast.inits,
        (loginCutOff.run ([] ++ xs)).sessions.countP (·.username == "ann") = 1 := by
      decide +kernel
    exact hprefixes xs ((List.mem_inits _ _).mpr hxs)
  have hr : .sent (asked 2 .first .map 2000) ∈
      (loginCutOff.run ([] ++ threeScans.dropLast)).entriesIn (.turn (.task 2)) := by
    decide +kernel
  exact ⟨rfl, hone, hr, ticket_before_call rfl [] _ hone hr rfl rfl⟩

/-- A rejected ticket is used once more, without a login, after a login that has been cut off, and
after a rejection that has come too late. -/
theorem ticket_used_again_loginCutOff :
    loginCutOff.transcript threeScans =
        [.sent (asked 0 .first .map 1000),
          .answered (asked 0 .first .map 1000) (some .invalidAuthToken) 0,
          .sent (asked 1 .first (.login .first) 1000),
          .cutOff (asked 1 .first (.login .first) 1000),
          .sent (asked 2 .first .map 2000)] ∧
      refusedLate.transcript (askFor 0 ++ goOn 0 1000 ++ askFor 1) =
        [.sent (asked 0 .first .map 1000),
          .answered (asked 0 .first .map 1000) (some .invalidAuthToken) 1000,
          .sent (asked 1 .first .map 2000)] := by
  constructor <;> decide +kernel

end World

end MapScout
