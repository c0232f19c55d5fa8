import MapScout.Proofs.Dispatch.Disposal

/-!
# How sessions come back

A session that has been laid down to rest lies under a number of its own, which nobody else uses.
Its rest is over at one moment, and until then only its own turns have to do with it: the first sets
an alarm, and the one that comes of the alarm puts the session into the mail of the pool.  On a
timely run the clock does not pass that moment before.
-/

namespace MapScout

namespace World

variable {w w' : World} {id cid due : Nat} {s : Session} {e : Event}

/-! ## Resting sessions are left alone -/

theorem cooling_afterPreloadLogin (id : Nat) (p : Preload) (s : Session) (f : Option Failure)
    (w : World) : (w.afterPreloadLogin id p s f).cooling = w.cooling := by
  have hends (s : Session) (v : World) (h : v.cooling = w.cooling) :
      (if s.isSpent then (v.evict s).proceed id (.preload { p with stage := .next })
        else (v.sendToPool s).proceed id
          (.preload { p with queued := p.queued + 1, stage := .next })).cooling = w.cooling := by
    split
    · exact (Frame.evict s).cooling.trans h
    · exact (cooling_sendToPool s).trans h
  unfold afterPreloadLogin
  split
  rename_i s' v hjudged
  split at hjudged
  · rename_i e
    have hclassified := Frame.deals (.classify (w := w) s e)
    rw [hjudged] at hclassified
    exact hends s' v hclassified.cooling
  · obtain ⟨rfl, rfl⟩ := Prod.mk.inj hjudged
    exact hends s w rfl

/-- No preload lays a session down to rest. -/
theorem cooling_preloadTurn (id : Nat) (p : Preload) (w : World) :
    (w.preloadTurn id p).cooling = w.cooling := by
  obtain ⟨remaining, queued, stage⟩ := p
  rw [preloadTurn]
  cases stage with
  | next =>
      have hprovisioned := Frame.deals (.provision (w := w))
      dsimp only
      split
      · rfl
      · split
        · rename_i e v hprovision
          rw [hprovision] at hprovisioned
          exact hprovisioned.cooling
        · rename_i s v hprovision
          rw [hprovision] at hprovisioned
          exact hprovisioned.cooling
  | login s swapped deadline wait =>
      have hquiet := Quiet.stirs (.loginTurn (w := w) id deadline s wait)
      dsimp only
      generalize w.loginTurn id deadline s wait = turned at hquiet
      obtain ⟨step, v⟩ := turned
      cases step with
      | blocked => exact hquiet.cooling
      | moved s wait => exact hquiet.cooling
      | succeeded s => exact (cooling_afterPreloadLogin ..).trans hquiet.cooling
      | failed s f =>
          have hswapped := Frame.deals (.swapProxy (w := v) s)
          dsimp only
          split
          · generalize v.swapProxy s = swap at hswapped
            obtain ⟨found, s, u⟩ := swap
            cases found with
            | true => exact hswapped.cooling.trans hquiet.cooling
            | false =>
                exact (cooling_afterPreloadLogin ..).trans (hswapped.cooling.trans hquiet.cooling)
          · exact (cooling_afterPreloadLogin ..).trans hquiet.cooling
  | finished at_ => rfl

/-- A scan may lay a session down to rest, and wakes none. -/
theorem ScanGoes.exists_cooling (h : ScanGoes id w w') : ∃ l, w'.cooling = w.cooling ++ l := by
  cases h with
  | keeps h _ => exact ⟨[], by rw [h.cooling, List.append_nil]⟩
  | ends h =>
      have h := h.disposes
      rw [Disposes] at h
      split at h
      · exact ⟨[], by rw [h.cooling, List.append_nil]⟩
      · obtain ⟨s', -, -, -, hmailed, hlaid⟩ := h.put
        by_cases hzero : w.config.cooldown = 0
        · exact ⟨[], by rw [(hmailed hzero).2, List.append_nil]⟩
        · exact ⟨_, (hlaid hzero).2.1⟩

/-- Tasks may lay sessions down, but get none up. -/
theorem Steady.exists_cooling (h : w.Steady) (id : Nat) :
    ∃ l, (w.happen (.turn (.task id))).cooling = w.cooling ++ l := by
  have hsame : (w.beginTurn (.task id)).task? id = w.task? id := rfl
  cases ht : w.task? id with
  | none =>
      refine ⟨[], ?_⟩
      rw [happen_turn, turn, hsame, ht, List.append_nil]
      rfl
  | some t =>
      cases t with
      | scan scan => exact (scanGoes_happen h.attentive h.faultless ht).exists_cooling
      | preload p =>
          refine ⟨[], ?_⟩
          rw [happen_turn, turn, hsame, ht, List.append_nil]
          exact cooling_preloadTurn ..
      | checkout c => cases h.not_checkout id _ ht

/-- A resting session keeps its place until it has a turn of its own. -/
theorem Steady.cooling_happen_of_ne (h : w.Steady) (he : e ≠ .turn (.cooling cid)) {c : Cooling}
    (hc : w.cooling.lookup cid = some c) : (w.happen e).cooling.lookup cid = some c := by
  cases e with
  | turn o =>
      cases o with
      | task id =>
          obtain ⟨l, hcooling⟩ := h.exists_cooling id
          rw [hcooling, List.lookup_append, hc]
          rfl
      | cooling i =>
          have hne : cid ≠ i := fun hi => he (by rw [hi])
          have hrests := coolingTurn_rests (w.beginTurn (.cooling i)) i
          change Rests _ i (w.happen (.turn (.cooling i))) at hrests
          generalize w.happen (.turn (.cooling i)) = w' at hrests ⊢
          cases hrests with
          | stay => exact hc
          | @lieDown d hd huntil =>
              generalize (w.beginTurn (.cooling i)).now + d.span = due
              have hkept := Keyed.lookup_map_of_ne
                (fun d : Cooling => { d with until_ := some due }) w.cooling hne
              exact hkept.trans hc
          | getUp hc' huntil hdue =>
              rw [cooling_sendToPool]
              exact (Keyed.lookup_others_of_ne hne w.cooling).trans hc
      | pool =>
          obtain ⟨f, hturn, -⟩ := poolTurn_eq (w := w.beginTurn .pool) h.attentive.isOpen
            h.attentive.isReading
          rw [happen_turn, turn, hturn]
          exact hc
      | gate g =>
          rw [happen_turn, turn, (Still.stirs (.wakeHead g)).cooling]
          exact hc
  | pass | readWall | scan | preload | addProxy | loseProxy | sweep => exact hc

/-! ## The end of the rest -/

section Rests

variable {c : Cooling} (h : w.Rests cid w') (hc : w.cooling.lookup cid = some c)

include h hc

/-- In its first turn a session sets an alarm. -/
theorem Rests.of_lying (huntil : c.until_ = none) :
    w' = World.onTime (·.setAlarm (w.now + c.span) (.cooling cid))
      { w with cooling := w.cooling.map fun (i, d) =>
          if i = cid then (i, { d with until_ := some (w.now + c.span) }) else (i, d) } := by
  cases h with
  | stay hstay =>
      obtain ⟨due, huntil', -⟩ := hstay c hc
      cases huntil.symm.trans huntil'
  | lieDown hc' huntil' =>
      cases hc.symm.trans hc'
      rfl
  | getUp hc' huntil' =>
      cases hc.symm.trans hc'
      cases huntil.symm.trans huntil'

/-- In every other turn it gets up if its time has come, and only then. -/
theorem Rests.of_asleep (huntil : c.until_ = some due) :
    w.now < due ∧ w' = w ∨
      due ≤ w.now ∧ w' = World.sendToPool c.session { w with
        cooling := Keyed.others cid w.cooling } := by
  cases h with
  | stay hstay =>
      obtain ⟨due', huntil', hearly⟩ := hstay c hc
      cases huntil.symm.trans huntil'
      exact .inl ⟨hearly, rfl⟩
  | lieDown hc' huntil' =>
      cases hc.symm.trans hc'
      cases huntil.symm.trans huntil'
  | getUp hc' huntil' hdue =>
      cases hc.symm.trans hc'
      cases huntil.symm.trans huntil'
      exact .inr ⟨hdue, rfl⟩

end Rests

/-- A session rests until `due`. -/
inductive Abed (cid : Nat) (s : Session) (due : Nat) (w : World) : Prop where
  /-- It is about to lie down. -/
  | lying {span : Nat} (hc : w.cooling.lookup cid = some { session := s, span })
      (hready : .cooling cid ∈ w.time.ready) (hspan : 0 < span) (hdue : w.now + span = due)
  /-- An alarm will wake it. -/
  | asleep {span : Nat} (hc : w.cooling.lookup cid = some { session := s, span, until_ := due })
      (halarm : ⟨due, .cooling cid⟩ ∈ w.time.alarms) (hnow : w.now < due)
  /-- It is about to get up. -/
  | waking {span : Nat} (hc : w.cooling.lookup cid = some { session := s, span, until_ := due })
      (hready : .cooling cid ∈ w.time.ready) (hnow : w.now = due)

/-- A session is put into the mail of the pool. -/
def Mails (s : Session) (w w' : World) : Prop := w'.pool.arrivals = w.pool.arrivals ++ [s]

namespace Abed

/-- A session at rest has an entry among the resting ones. -/
theorem exists_lookup (h : w.Abed cid s due) :
    ∃ c, w.cooling.lookup cid = some c ∧ c.session = s := by
  cases h with
  | lying hc | asleep hc | waking hc => exact ⟨_, hc, rfl⟩

theorem mem_cooling (h : w.Abed cid s due) : s ∈ w.cooling.map (·.2.session) := by
  obtain ⟨c, hc, rfl⟩ := h.exists_lookup
  exact List.mem_map_of_mem (f := (·.2.session)) (Keyed.mem_of_lookup hc)

/-- It does not rest longer than it should. -/
theorem now_le (h : w.Abed cid s due) : w.now ≤ due := by
  cases h with
  | lying hc hready hspan hdue => exact hdue ▸ Nat.le_add_right ..
  | asleep hc halarm hnow => exact Nat.le_of_lt hnow
  | waking hc hready hnow => exact hnow.le

/-- Nobody rests at the end of its rest. -/
theorem now_lt (h : w.Abed cid s due) (hwaiting : w.IsWaiting) : w.now < due := by
  have hnobody {o : Owner} : o ∉ w.time.ready := by
    rw [show w.time.ready = [] from hwaiting]
    exact List.not_mem_nil
  cases h with
  | lying hc hready hspan hdue => exact absurd hready hnobody
  | asleep hc halarm hnow => exact hnow
  | waking hc hready hnow => exact absurd hready hnobody

/-- What others do does not wake it. -/
theorem undisturbed (h : w.Abed cid s due) (hw : w.Steady) (he : e ≠ .turn (.cooling cid))
    (hpass : ∀ now, e ≠ .pass now) : (w.happen e).Abed cid s due := by
  have htime : w.time.Spares (· = .cooling cid) (w.happen e).time :=
    (Undisturbed.happen (fun o he' ho => he (he'.trans (congrArg _ ho))) hpass).time
  have hnow : (w.happen e).now = w.now := htime.now
  cases h with
  | lying hc hready hspan hdue =>
      exact .lying (hw.cooling_happen_of_ne he hc) (htime.ready _ rfl hready) hspan (hnow ▸ hdue)
  | asleep hc halarm hlater =>
      exact .asleep (hw.cooling_happen_of_ne he hc) (htime.alarms _ halarm rfl) (hnow ▸ hlater)
  | waking hc hready hdue =>
      exact .waking (hw.cooling_happen_of_ne he hc) (htime.ready _ rfl hready) (hnow.trans hdue)

/-- The clock does not pass the end of the rest. -/
theorem pass {now : Nat} (h : w.Abed cid s due) (htimely : w.IsTimely (.pass now)) :
    (w.happen (.pass now)).Abed cid s due := by
  obtain ⟨hwaiting, halarms⟩ := htimely
  have hlater := h.now_lt hwaiting
  have hclock : (w.happen (.pass now)).now = max w.now now := Timeline.now_advance ..
  cases h with
  | lying hc hready hspan hdue =>
      rw [hwaiting] at hready
      cases hready
  | asleep hc halarm hnow =>
      have hle : now ≤ due := halarms _ halarm
      -- The clock stops at the alarm, so it shows `due` if it has come that far.
      by_cases hdue : due ≤ now
      · refine .waking hc (Timeline.mem_ready_advance_of_due halarm hdue) ?_
        rw [hclock]
        omega
      · refine .asleep hc (Timeline.mem_alarms_advance halarm (Nat.lt_of_not_le hdue)) ?_
        rw [hclock]
        omega
  | waking hc hready hnow => exact absurd hnow hlater.ne

/-- It lies down, sleeps on, or gets up. -/
theorem turn (h : w.Abed cid s due) (hopen : w.pool.isOpen = true) :
    (w.happen (.turn (.cooling cid))).Abed cid s due ∨
      w.now = due ∧ w.Mails s (w.happen (.turn (.cooling cid))) := by
  have hrests := coolingTurn_rests (w.beginTurn (.cooling cid)) cid
  change Rests _ cid (w.happen (.turn (.cooling cid))) at hrests
  cases h with
  | @lying span hc hready hspan hdue =>
      left
      subst hdue
      have hset := congrArg (Option.map fun d : Cooling =>
        { d with until_ := some (w.now + span) }) hc
      rw [← Keyed.lookup_map] at hset
      rw [hrests.of_lying hc rfl]
      refine .asleep hset (Timeline.mem_alarms_setAlarm.mpr (.inr rfl)) ?_
      exact (Timeline.now_setAlarm ..).trans_lt (Nat.lt_add_of_pos_right hspan)
  | asleep hc halarm hearly =>
      rcases hrests.of_asleep hc rfl with ⟨-, hstay⟩ | ⟨hover, -⟩
      · rw [hstay]
        exact .inl (.asleep hc halarm hearly)
      · exact absurd hover (Nat.not_le_of_lt hearly)
  | waking hc hready hdue =>
      rcases hrests.of_asleep hc rfl with ⟨hearly, -⟩ | ⟨-, hup⟩
      · exact absurd hdue hearly.ne
      · have hopen : (w.beginTurn (.cooling cid)).pool.isOpen = true := hopen
        rw [hup, sendToPool, if_pos hopen, Pool.send, if_pos hopen]
        exact .inr ⟨hdue, rfl⟩

/-- A session rests on, or it is put into the mail when its time has come. -/
theorem happen (h : w.Abed cid s due) (hw : w.Steady) (htimely : w.IsTimely e) :
    (w.happen e).Abed cid s due ∨
      ∃ o, e = .turn o ∧ w.now = due ∧ w.Mails s (w.happen e) := by
  by_cases he : e = .turn (.cooling cid)
  · subst he
    exact (h.turn hw.attentive.isOpen).imp_right fun hmails => ⟨_, rfl, hmails⟩
  · left
    by_cases hpass : ∃ now, e = .pass now
    · obtain ⟨now, rfl⟩ := hpass
      exact h.pass htimely
    · exact h.undisturbed hw he fun now he' => hpass ⟨now, he'⟩

end Abed

/-- A session is put into the mail of the pool in a turn that somebody has at `due`, or it still
rests: then `due` has not passed, and somebody is ready if it has come. -/
inductive ComesBack (s : Session) (due : Nat) (w : World) : List Event → Prop where
  | mailed {xs ys : List Event} {o : Owner} (hnow : (w.run xs).now = due)
      (hmails : (w.run xs).Mails s ((w.run xs).happen (.turn o))) :
      ComesBack s due w (xs ++ .turn o :: ys)
  | resting {events : List Event} (hrests : s ∈ (w.run events).cooling.map (·.2.session))
      (hnow : (w.run events).now ≤ due)
      (hready : (w.run events).IsWaiting → (w.run events).now < due) :
      ComesBack s due w events

namespace ComesBack

/-- What comes back after an event comes back in the run that begins with it. -/
theorem cons {events : List Event} (h : (w.happen e).ComesBack s due events) :
    w.ComesBack s due (e :: events) := by
  cases h with
  | @mailed xs ys o hnow hmails => exact @mailed s due w (e :: xs) ys o hnow hmails
  | resting hrests hnow hready => exact .resting hrests hnow hready

/-- A session is put into the mail right away. -/
theorem head {o : Owner} (hnow : w.now = due) (hmails : w.Mails s (w.happen (.turn o)))
    (events : List Event) : w.ComesBack s due (.turn o :: events) :=
  @mailed s due w [] events o hnow hmails

end ComesBack

/-- Whoever rests comes back. -/
theorem Abed.comesBack (h : w.Abed cid s due) (hw : w.Steady) {events : List Event}
    (htimely : w.Timely events) : w.ComesBack s due events := by
  induction events generalizing w with
  | nil => exact .resting h.mem_cooling h.now_le h.now_lt
  | cons e events ih =>
      rcases h.happen hw htimely.1 with hrests | ⟨o, rfl, hnow, hmails⟩
      · exact (ih hrests (hw.happen e).steady htimely.2).cons
      · exact .head hnow hmails events

/-- A session that has been put down rests, if there is any rest. -/
theorem PutsDown.abed {o : Owner} (h : w.PutsDown s (w.happen (.turn o))) (hw : w.Steady)
    (hpos : w.config.cooldown ≠ 0) :
    (w.happen (.turn o)).Abed w.nextId s (w.now + w.config.cooldown) := by
  obtain ⟨-, hcooling, hready⟩ := h.laid hpos
  have hfresh : w.nextId ∉ w.cooling.map (·.1) := fun hmem =>
    Nat.lt_irrefl _ (hw.attentive.cooling_lt _ hmem)
  refine .lying ?_ hready (Nat.pos_of_ne_zero hpos) (by rw [now_turn])
  rw [hcooling]
  exact Keyed.lookup_append hfresh _

/-- It comes back after its rest. -/
theorem PutsDown.comesBack {o : Owner} (h : w.PutsDown s (w.happen (.turn o))) (hw : w.Steady)
    {events : List Event} (htimely : (w.happen (.turn o)).Timely events) :
    w.ComesBack s (w.now + w.config.cooldown) (.turn o :: events) := by
  by_cases hzero : w.config.cooldown = 0
  · rw [hzero]
    exact .head rfl (h.mailed hzero).1 events
  · exact ((h.abed hw hzero).comesBack (hw.happen _).steady htimely).cons

/-! ## Whole scans -/

/-- A scan parts with the session `s` in its turn after `xs`. -/
structure PartsOnce (w : World) (id : Nat) (s : Session) (xs ys : List Event) : Prop where
  ends : (w.run xs).EndsWith id s ((w.run xs).happen (.turn (.task id)))
  /-- In no other turn of the scan a session is dropped, or put into the pool. -/
  once : ∀ zs zs' scan, xs ++ .turn (.task id) :: ys = zs ++ .turn (.task id) :: zs' →
    (w.run zs).task? id = some (.scan scan) → zs ≠ xs →
      (w.run zs).PartsWithNone ((w.run zs).happen (.turn (.task id)))
  /-- Unless it is spent the session is put into the pool when it has rested. -/
  returns : ((w.run xs).lastLook s ((w.run xs).tidings id s)).isSpent = false →
    ∃ s', s'.account = s.account ∧ s'.proxy = s.proxy ∧
      (w.run xs).ComesBack s' ((w.run xs).now + w.config.cooldown) (.turn (.task id) :: ys)

/-- A scan that ends with a session parts with it once and for all. -/
theorem EndsWith.partsOnce {xs ys : List Event} (hw : w.Steady)
    (htimely : w.Timely (xs ++ .turn (.task id) :: ys))
    (h : (w.run xs).EndsWith id s ((w.run xs).happen (.turn (.task id)))) :
    w.PartsOnce id s xs ys where
  ends := h
  once _ _ _ heq hscan hne := partsWithNone_of_ne hw h heq hne hscan
  returns hfit := by
    have hdisposes := h.disposes
    rw [Disposes, hfit, if_neg Bool.false_ne_true] at hdisposes
    obtain ⟨s', haccount, hproxy, hput⟩ := hdisposes.put
    refine ⟨s', haccount, hproxy, ?_⟩
    rw [← config_run w xs]
    exact hput.comesBack (hw.run xs) (timely_append.mp htimely).2.2

/-- A scan is over once. -/
theorem IsOver.eq {at_ at' : Nat} (h : w.IsOver id at_) (h' : w.IsOver id at') : at_ = at' := by
  obtain ⟨scan, result, hscan, hstage⟩ := h
  obtain ⟨scan', result', hscan', hstage'⟩ := h'
  cases hscan.symm.trans hscan'
  cases hstage.symm.trans hstage'
  rfl

/-- A scan that has come to a session parts with it exactly once, when it ends, whatever it has come
to and whatever others have done to the inventory meanwhile.  If its account is unusable, or its
proxy dead in it, or dead or gone in the inventory, then the session is dropped: it is counted, the
board does not show its account any more, and what is still of use has been given back.  Otherwise
it is not dropped, its proxy is alive, and it is put into the pool when the cooldown is over that
begins with the end of the scan. -/
theorem parts_once {before after : List Event} {scan : Scan} {s₀ : Session} {at_ : Nat}
    (hw : w.Steady) (htimely : w.Timely (before ++ .turn (.task id) :: after))
    (hscan : (w.run before).task? id = some (.scan scan))
    (hhand : (w.run before).hand? id = some s₀)
    (hover : (w.run (before ++ .turn (.task id) :: after)).IsOver id at_) :
    ∃ xs ys s, before ++ .turn (.task id) :: after = xs ++ .turn (.task id) :: ys ∧
      s.username = s₀.username ∧ (w.run xs).now = at_ ∧ w.PartsOnce id s xs ys := by
  rw [run_append] at hover
  obtain ⟨zs, ys, s, heq, hname, hends⟩ := exists_ending (hw.run before) hscan hhand hover
  rw [← run_append] at hends
  have hsplit : before ++ .turn (.task id) :: after = (before ++ zs) ++ .turn (.task id) :: ys := by
    rw [heq, List.append_assoc]
  rw [hsplit] at htimely
  refine ⟨before ++ zs, ys, s, hsplit, hname, ?_, hends.partsOnce hw htimely⟩
  rw [heq, run_append] at hover
  rw [run_append] at hends ⊢
  exact (hends.ended.run ys).eq hover

def slowCall : World where
  store := { inventory := {
    accounts := [{ username := "ann", password := "pw", provider := "ptc" }]
    proxies := [{ id := 1 }] } }
  supply := .scripts [.scripted true [] [{ delay := 100 }]]

/-- A scan builds a session and is about to make its call. -/
def upToCall : List Event :=
  List.flatten [
    .scan default 0 :: List.replicate 2 (.turn (.task 0)), List.replicate 2 (.turn .pool),
    .pass 5000 :: List.replicate 2 (.turn (.task 0))]

def proxyDiesMeanwhile : List Event :=
  upToCall ++ [.turn (.task 0), .turn (.task 0), .loseProxy 1, .pass 5100]

/-- The scan succeeds, and its session is dropped even so. -/
theorem parts_once_slowCall :
    slowCall.Steady ∧ slowCall.Timely (proxyDiesMeanwhile ++ [.turn (.task 0)]) ∧
      ∃ scan scan' s₀, (slowCall.run proxyDiesMeanwhile).task? 0 = some (.scan scan) ∧
        (slowCall.run proxyDiesMeanwhile).hand? 0 = some s₀ ∧
        (slowCall.run (proxyDiesMeanwhile ++ [.turn (.task 0)])).task? 0 = some (.scan scan') ∧
        scan'.stage = .finished (.ok []) 5100 ∧
        (slowCall.run (proxyDiesMeanwhile ++ [.turn (.task 0)])).counters.evictions = 1 ∧
        ∃ xs ys s, proxyDiesMeanwhile ++ [.turn (.task 0)] = xs ++ .turn (.task 0) :: ys ∧
          s.username = s₀.username ∧ (slowCall.run xs).now = 5100 ∧
          slowCall.PartsOnce 0 s xs ys := by
  have hsteady : slowCall.Steady := Unbegun.steady ⟨fun _ => rfl, rfl, rfl, rfl⟩
  have htimely : slowCall.Timely (proxyDiesMeanwhile ++ [.turn (.task 0)]) := by decide +kernel
  have hscan : ∃ scan, (slowCall.run proxyDiesMeanwhile).task? 0 = some (.scan scan) := ⟨_, rfl⟩
  have hhand : ∃ s₀, (slowCall.run proxyDiesMeanwhile).hand? 0 = some s₀ := ⟨_, rfl⟩
  have hover : ∃ scan',
      (slowCall.run (proxyDiesMeanwhile ++ [.turn (.task 0)])).task? 0 = some (.scan scan') ∧
        scan'.stage = .finished (.ok []) 5100 := ⟨_, rfl, rfl⟩
  obtain ⟨scan, hscan⟩ := hscan
  obtain ⟨s₀, hhand⟩ := hhand
  obtain ⟨scan', hscan', hstage⟩ := hover
  exact ⟨hsteady, htimely, scan, scan', s₀, hscan, hhand, hscan', hstage, by decide +kernel,
    parts_once hsteady htimely hscan hhand ⟨scan', _, hscan', hstage⟩⟩

end World

end MapScout
