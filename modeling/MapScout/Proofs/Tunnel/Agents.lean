import MapScout.Proofs.Tunnel.Admissions

/-!
# Agents in the registry and in the store

A broker over an inventory that others use, too.  While agents come and go, numbers are given out
once and never again, the registry tells who is attached, and the store tells whose proxy can be
used.
-/

namespace MapScout.Reception

variable {r : Reception} {first n : Nat} {reported : List ProxyId} {c : Nat} {id : ProxyId}

/-! ## Agents that are gone -/

theorem At.goOn_gone (hgone : r.At .gone c id) (h : r.Sound first n reported)
    (hn : first + n < UInt64.size) {e : Broker.Event} (he : e.IsOrdinary) (hattach : e ≠ .attach)
    (hheld : r.isHeld e = false) : (r.goOn e).At .gone c id := by
  obtain ⟨hstages, -⟩ | ⟨i, _, hshift, -⟩ := goOn_cases h hn he hattach hheld
  · have hstep := Broker.step_happen he hattach h.served.steady
    exact ⟨(congrFun hstep.number? c).trans hgone.number,
      (congrArg (List.lookup c) hstages).trans hgone.stage⟩
  · refine hshift.at_of_ne ?_ hgone
    rintro rfl
    cases hgone.stage.symm.trans hshift.before.stage

theorem At.step_gone (hgone : r.At .gone c id) (h : r.Numbered first n)
    (hn : first + n < UInt64.size) (i : Nat) : (r.happen (.step i)).At .gone c id := by
  cases hs : r.stage? i with
  | none =>
      rw [happen_step_none hs]
      exact hgone
  | some s =>
      by_cases hc : c = i
      · subst hc
        exact (shifts_step h hn hgone).after
      · obtain ⟨_, hid⟩ := h.exists_number hs
        exact (shifts_step h hn ⟨hid, hs⟩).at_of_ne hc hgone

/-- Nothing happens to an agent that is gone. -/
theorem At.happen_gone (hgone : r.At .gone c id) (h : r.Sound first n reported)
    (hn : first + n < UInt64.size) {e : Event} (he : e.IsOrdinary) :
    (r.happen e).At .gone c id := by
  cases e with
  | tunnel e =>
      by_cases hattach : e = .attach
      · subst hattach
        exact (at_come h.numbered (by decide)).mpr hgone
      · rw [happen_tunnel hattach]
        split
        · exact hgone
        · rename_i hheld
          exact hgone.goOn_gone h hn he hattach (by simpa using hheld)
  | step i => exact hgone.step_gone h.numbered hn i
  | store a => exact ⟨hgone.number, hgone.stage⟩

theorem At.run_gone (hgone : r.At .gone c id) (h : r.Sound first n reported) {events : List Event}
    (hordinary : ∀ e ∈ events, e.IsOrdinary) (hn : first + (n + arrivals events) < UInt64.size) :
    (r.run events).At .gone c id := by
  induction events generalizing r n reported with
  | nil => exact hgone
  | cons e events ih =>
      obtain ⟨he, hevents⟩ := List.forall_mem_cons.mp hordinary
      rw [arrivals_cons] at hn
      exact ih (hgone.happen_gone h (by omega) he) (h.happen he (by omega)) hevents (by omega)

/-! ## A broker that has just been made -/

theorem start_eq (config : BrokerConfig) {store : Store} (h : store.Faultless) :
    Broker.start config store = .ok {
      config
      store := { store with inventory := store.inventory.dropProxies }
      lastId := store.inventory.maxProxyId } := by
  rw [Broker.start, Store.maxProxyId_eq h]
  simp only [Store.dropProxies_eq h]

theorem Sound.start {config : BrokerConfig} {store : Store} (h : store.Faultless) {b : Broker}
    (hstart : Broker.start config store = .ok b) :
    Sound store.inventory.maxProxyId.toNat 0 [] { broker := b } := by
  have hproper := Broker.Proper.start hstart
  rw [start_eq config h] at hstart
  obtain rfl := Except.ok.inj hstart
  refine ⟨⟨hproper, rfl, List.Pairwise.nil, UInt64.ofNat_toNat.symm, rfl⟩,
    ⟨fun c s hs => (by cases hs), fun c => rfl⟩, fun id c => ?_,
    ⟨h, List.Pairwise.nil, ?_, ?_⟩⟩
  · refine iff_of_false (fun hfound => by cases hfound) ?_
    rintro ⟨stage, hat, -⟩
    cases hat.stage
  · intro stage c id hat
    cases hat.stage
  · intro c id hat
    cases hat.stage

/-! ## A broker by itself

When all steps for an agent are taken at once, the broker does what it does by itself. -/

/-- One agent is on the way, and takes its two steps. -/
theorem run_steps (h : r.Numbered first n) (hn : first + n < UInt64.size) {s : Stage}
    (hat : r.At s c id) (hend : s.next.next = .attached ∨ s.next.next = .gone)
    (hothers : ∀ i stage, i ≠ c → r.stage? i = some stage → stage = .attached ∨ stage = .gone) :
    (r.run [.step c, .step c]).broker = (r.broker.usher c s).usher c s.next ∧
      (r.run [.step c, .step c]).IsAtRest := by
  have hfirst := shifts_step h hn hat
  have hsecond := shifts_step (h.step hn hat) hn hfirst.after
  refine ⟨?_, fun i stage hi => ?_⟩
  · change ((r.happen (.step c)).happen (.step c)).broker = _
    rw [happen_step hfirst.stage?_self, happen_step hat.stage]
  · change ((r.happen (.step c)).happen (.step c)).stage? i = some stage at hi
    by_cases hc : i = c
    · subst hc
      obtain rfl := Option.some.inj (hsecond.stage?_self.symm.trans hi)
      exact hend
    · rw [hsecond.stage?_of_ne hc, hfirst.stage?_of_ne hc] at hi
      exact hothers i stage hc hi

theorem run_attach (h : r.Sound first n reported) (hn : first + (n + 1) < UInt64.size)
    (hrest : r.IsAtRest) :
    (r.come.run [.step r.broker.nextKey, .step r.broker.nextKey]).broker =
        r.broker.happen .attach ∧
      (r.come.run [.step r.broker.nextKey, .step r.broker.nextKey]).IsAtRest := by
  obtain ⟨hself, hothers⟩ := stage?_come h.numbered
  have hid : r.come.broker.number? r.broker.nextKey = some (r.broker.lastId + 1) := by
    rw [number?_come h.numbered, Function.update_self]
  obtain ⟨hbroker, hend⟩ := run_steps h.numbered.come hn ⟨hid, hself⟩ (Or.inl rfl)
    fun i stage hi hs => hrest i stage ((hothers i hi).symm.trans hs)
  refine ⟨hbroker.trans ?_, hend⟩
  rw [usher_eq hid, usher_eq (by exact hid)]
  rfl

theorem run_goOn (h : r.Sound first n reported) (hn : first + n < UInt64.size) (hrest : r.IsAtRest)
    {e : Broker.Event} (he : e.IsOrdinary) (hattach : e ≠ .attach)
    (hshift : r.Shifts (r.goOn e) c id .attached .leaving) :
    ((r.goOn e).run [.step c, .step c]).broker = { (r.goOn e).broker with
        registry := (r.broker.registry.deregister id).2
        store := (r.broker.store.saveProxy { id, dead := true }).2 } ∧
      ((r.goOn e).run [.step c, .step c]).IsAtRest := by
  have hnumbered := h.numbered.goOn (Broker.step_happen he hattach h.served.steady)
  obtain ⟨hbroker, hend⟩ := run_steps hnumbered hn hshift.after (Or.inr rfl)
    fun i stage hi hs => hrest i stage ((hshift.stage?_of_ne hi).symm.trans hs)
  refine ⟨hbroker.trans ?_, hend⟩
  rw [usher_eq hshift.after.number, usher_eq (by exact hshift.after.number)]
  rfl

theorem IsAtRest.isHeld (h : r.IsAtRest) (e : Broker.Event) : r.isHeld e = false := by
  have hstage (c : Nat) : (r.stage? c).any (·.isEarly) = false := by
    cases hs : r.stage? c with
    | none => rfl
    | some s => obtain rfl | rfl := h c s hs <;> rfl
  unfold Reception.isHeld
  split
  · exact hstage _
  · exact hstage _
  · rfl

/-- Whatever happens to the broker by itself can happen here, and then nobody is on the way. -/
theorem exists_steps (h : r.Sound first n reported) (hn : first + (n + 1) < UInt64.size)
    (hrest : r.IsAtRest) {e : Broker.Event} (he : e.IsOrdinary) :
    ∃ steps : List Event, (∀ e' ∈ steps, ∃ c, e' = .step c) ∧
      (r.run (.tunnel e :: steps)).broker = r.broker.happen e ∧
      (r.run (.tunnel e :: steps)).IsAtRest := by
  by_cases hattach : e = .attach
  · subst hattach
    exact ⟨[.step r.broker.nextKey, .step r.broker.nextKey], by simp, run_attach h hn hrest⟩
  · have hn : first + n < UInt64.size := by omega
    have hheld := hrest.isHeld e
    have hgo (steps : List Event) : r.run (.tunnel e :: steps) = (r.goOn e).run steps := by
      change (r.happen (.tunnel e)).run steps = _
      rw [happen_tunnel hattach, hheld]
      rfl
    simp only [hgo]
    obtain ⟨hstages, -, hbroker⟩ | ⟨c, id, hshift, -, hbroker⟩ :=
      goOn_cases h hn he hattach hheld
    · refine ⟨[], by simp, hbroker.symm, fun i stage hi => ?_⟩
      exact hrest i stage ((congrArg (List.lookup i) hstages).symm.trans hi)
    · rw [hbroker]
      exact ⟨[.step c, .step c], by simp, run_goOn h hn hrest he hattach hshift⟩

/-- The runs of the broker by itself are among these. -/
theorem exists_run (h : r.Sound first n reported) (hrest : r.IsAtRest)
    {events : List Broker.Event} (hordinary : ∀ e ∈ events, e.IsOrdinary)
    (hn : first + (n + events.length) < UInt64.size) :
    ∃ all : List Event, (∀ e ∈ all, e.IsOrdinary) ∧ arrivals all ≤ events.length ∧
      (r.run all).broker = r.broker.run events ∧ (r.run all).IsAtRest := by
  induction events generalizing r n reported with
  | nil => exact ⟨[], by simp, Nat.le_refl _, rfl, hrest⟩
  | cons e events ih =>
      obtain ⟨he, hevents⟩ := List.forall_mem_cons.mp hordinary
      rw [List.length_cons] at hn ⊢
      obtain ⟨steps, hsteps, hbroker, hrest'⟩ := exists_steps h (by omega) hrest he
      have hnone : arrivals steps = 0 := by
        rw [arrivals, List.countP_eq_zero]
        intro e' he'
        obtain ⟨c, rfl⟩ := hsteps e' he'
        exact Bool.false_ne_true
      have hone : arrivals (.tunnel e :: steps) ≤ 1 := by
        rw [arrivals_cons, hnone]
        exact List.countP_le_length
      have hall : ∀ e' ∈ Event.tunnel e :: steps, e'.IsOrdinary := by
        refine List.forall_mem_cons.mpr ⟨he, fun e' he' => ?_⟩
        obtain ⟨c, rfl⟩ := hsteps e' he'
        exact trivial
      obtain ⟨later, hlater, hcount, hrun, hend⟩ :=
        ih (h.run hall (by omega)) hrest' hevents (by omega)
      refine ⟨(.tunnel e :: steps) ++ later, List.forall_mem_append.mpr ⟨hall, hlater⟩, ?_, ?_, ?_⟩
      · rw [arrivals, List.countP_append]
        change arrivals (.tunnel e :: steps) + arrivals later ≤ _
        omega
      · rw [run_append, hrun, hbroker]
        rfl
      · rw [run_append]
        exact hend

/-! ## Numbers, registry and records -/

/-- How the agents stand after a run, where `past` is what was done to the inventory before. -/
structure Kept (past : List Inventory.Act) (start : Reception) (events : List Event) : Prop where
  /-- The numbers ascend in the order in which they were given out, one for each agent. -/
  ascending : (start.run events).numbers.Pairwise (· < ·)
  counted : (start.run events).numbers.length = arrivals events
  /-- They are above all numbers under which a proxy was ever stored. -/
  fresh : ∀ p, .addProxy p ∈ past → ∀ id ∈ (start.run events).numbers, p.id < id
  /-- Those agents are attached that the broker serves. -/
  served : (start.run events).IsAtRest → ∀ c,
    (start.run events).broker.roster.serving? c = some true ↔
      ∃ id, (start.run events).At .attached c id
  /-- The registry has the numbers of those agents, and nothing else is found. -/
  registered : (start.run events).IsAtRest → ∀ id,
    id ∈ (start.run events).broker.registry.ids ↔ ∃ c, (start.run events).At .attached c id
  found : (start.run events).IsAtRest → ∀ id c,
    (start.run events).broker.lookup id = .ok c ↔ (start.run events).At .attached c id
  /-- An agent that was gone at any moment is not found, its proxy is dead, and no session gets
  it. -/
  gone : ∀ before, before <+: events → ∀ c id, (start.run before).At .gone c id →
    (start.run events).broker.lookup id = .error (.tunnelNotFound id) ∧
      ((start.run events).broker.store.isProxyDead id).1 = .ok true ∧
      ∀ p, (start.run events).broker.store.claimProxy.1 = .ok p → p.id ≠ id
  /-- The proxy of an attached agent is stored, and alive unless it has been reported. -/
  alive : ∀ c id, (start.run events).At .attached c id → id ∉ reports events →
    ∃ p, (start.run events).broker.store.inventory.proxy? id = some p ∧ p.dead = false

theorem lookup_eq_ok {b : Broker} : b.lookup id = .ok c ↔ List.lookup id b.registry = some c := by
  rw [Broker.lookup]
  cases List.lookup id b.registry <;> simp

theorem Enrolled.found (h : r.Enrolled) (hrest : r.IsAtRest) :
    r.broker.lookup id = .ok c ↔ r.At .attached c id := by
  rw [lookup_eq_ok, h id c]
  constructor
  · rintro ⟨stage, hat, hlisted⟩
    obtain rfl | rfl := hrest c stage hat.stage
    · exact hat
    · cases hlisted
  · exact fun hat => ⟨.attached, hat, rfl⟩

theorem Served.attached_iff (h : r.Served) (hnumbered : r.Numbered first n) (hrest : r.IsAtRest) :
    r.broker.roster.serving? c = some true ↔ ∃ id, r.At .attached c id := by
  rw [h.stages]
  constructor
  · intro hserving
    obtain ⟨stage, hstage, hserved⟩ := Option.map_eq_some_iff.mp hserving
    obtain ⟨id, hid⟩ := hnumbered.exists_number hstage
    obtain rfl | rfl := hrest c stage hstage
    · exact ⟨id, hid, hstage⟩
    · cases hserved
  · rintro ⟨id, hat⟩
    rw [hat.stage]
    rfl

theorem Recorded.claimed (h : r.Recorded reported) {p : Proxy}
    (hclaim : r.broker.store.claimProxy.1 = .ok p) : r.isProxyDead p.id = false := by
  rw [Store.claimProxy, Store.claim_eq h.faultless] at hclaim
  cases hfound : r.broker.store.inventory.claimProxy? with
  | none =>
      rw [hfound] at hclaim
      cases hclaim
  | some claimed =>
      rw [hfound] at hclaim
      obtain rfl := Except.ok.inj hclaim
      exact Inventory.isProxyDead_of_claimProxy? h.ascending hfound

/-- Of an agent that is gone nothing is left to be used. -/
theorem Sound.of_gone (h : r.Sound first n reported) (hn : first + n < UInt64.size)
    (hgone : r.At .gone c id) :
    r.broker.lookup id = .error (.tunnelNotFound id) ∧
      (r.broker.store.isProxyDead id).1 = .ok true ∧
      ∀ p, r.broker.store.claimProxy.1 = .ok p → p.id ≠ id := by
  have hinj (i : Nat) (hi : r.broker.number? i = some id) : i = c :=
    h.numbered.inj hn hi hgone.number
  have hdead := h.recorded.dead c id hgone
  refine ⟨?_, ?_, ?_⟩
  · have hlookup : List.lookup id r.broker.registry = none := h.enrolled.lookup_eq hinj hgone
    rw [Broker.lookup, hlookup]
  · rw [Store.isProxyDead_eq h.recorded.faultless]
    exact congrArg Except.ok hdead
  · rintro p hclaim rfl
    rw [h.recorded.claimed hclaim] at hdead
    cases hdead

theorem Numbered.pairwise_numbers (h : r.Numbered first n) (hn : first + n < UInt64.size) :
    r.numbers.Pairwise (· < ·) := by
  rw [h.numbers_eq, List.pairwise_map]
  refine List.Pairwise.imp_of_mem (fun hk hk' hlt => ?_) List.pairwise_lt_range
  rw [UInt64.lt_iff_toNat_lt, toNat_number hn (List.mem_range.mp hk),
    toNat_number hn (List.mem_range.mp hk')]
  exact Nat.add_lt_add_left hlt _

theorem Numbered.lt_of_mem_numbers (h : r.Numbered first n) (hn : first + n < UInt64.size)
    (hid : id ∈ r.numbers) : first < id.toNat := by
  rw [h.numbers_eq, List.mem_map] at hid
  obtain ⟨k, hk, rfl⟩ := hid
  rw [toNat_number hn (List.mem_range.mp hk)]
  omega

theorem Sound.kept {start : Reception} (h : start.Sound first 0 []) {past : List Inventory.Act}
    (hpast : ∀ p, .addProxy p ∈ past → p.id.toNat ≤ first) {events : List Event}
    (hordinary : ∀ e ∈ events, e.IsOrdinary) (hn : first + arrivals events < UInt64.size) :
    Kept past start events := by
  rw [← Nat.zero_add (arrivals events)] at hn
  have hsound := h.run hordinary hn
  refine
    { ascending := hsound.numbered.pairwise_numbers hn
      counted := ?_
      fresh := fun p hp id hid => UInt64.lt_iff_toNat_lt.mpr
        (Nat.lt_of_le_of_lt (hpast p hp) (hsound.numbered.lt_of_mem_numbers hn hid))
      served := fun hrest c => hsound.served.attached_iff hsound.numbered hrest
      registered := fun hrest id => ?_
      found := fun hrest id c => hsound.enrolled.found hrest
      gone := ?_
      alive := fun c id hat hid => Inventory.isProxyDead_eq_false.mp
        (hsound.recorded.alive .attached c id hat rfl (by simpa using hid)) }
  · rw [hsound.numbered.numbers_eq, List.length_map, List.length_range, Nat.zero_add]
  · rw [Registry.mem_ids]
    exact exists_congr fun c => lookup_eq_ok.symm.trans (hsound.enrolled.found hrest)
  · rintro before ⟨after, rfl⟩ c id hgone
    obtain ⟨hbefore, hafter⟩ := List.forall_mem_append.mp hordinary
    have harrivals : arrivals (before ++ after) = arrivals before + arrivals after :=
      List.countP_append
    have hearlier := h.run hbefore (by omega)
    rw [run_append] at hsound ⊢
    exact hsound.of_gone hn (hgone.run_gone hearlier hafter (by omega))

/-- A broker can be made over any inventory that refuses nothing, and however its agents come and
go, with calls, scans and sweeps in between, their numbers, the registry and the records stay in
order. -/
theorem agents_kept (config : BrokerConfig) {store : Store} (hstore : store.Faultless)
    (past : List Inventory.Act) {events : List Event} (hordinary : ∀ e ∈ events, e.IsOrdinary)
    (hcount : arrivals events <
      UInt64.size - 1 - (store.performAll past).inventory.maxProxyId.toNat) :
    ∃ b, Broker.start config (store.performAll past) = .ok b ∧
      Kept past { broker := b } events := by
  have hfaultless := hstore.performAll past
  refine ⟨_, start_eq config hfaultless, ?_⟩
  exact (Sound.start hfaultless (start_eq config hfaultless)).kept
    (fun p hp => UInt64.le_iff_toNat_le.mp (Store.le_maxProxyId_performAll hstore hp)) hordinary
    (by omega)

/-- A second agent comes while the first one, whose proxy is claimed, is lost.  The inventory is
swept before the second agent has its proxy stored. -/
def lostAndFound : List Event :=
  [.tunnel .attach, .step 0, .step 0, .store .claimProxy, .tunnel .attach,
    .tunnel (.link 0 fun l => { l with hasAgent := false }), .tunnel (.turn (.reader 0)),
    .tunnel (.turn (.writer 0)), .step 1, .tunnel (.turn (.reader 0)), .step 0, .step 0,
    .store .sweep, .step 1]

theorem agents_kept_lostAndFound :
    ({} : Store).Faultless ∧ arrivals lostAndFound = 2 ∧
      ∃ b, Broker.start {} (({} : Store).performAll [.addProxy { id := 41 }]) = .ok b ∧
        (run { broker := b } lostAndFound).numbers = [42, 43] ∧
        (run { broker := b } lostAndFound).stages = [(0, .gone), (1, .attached)] ∧
        (run { broker := b } lostAndFound).broker.store.inventory.proxies =
          [⟨43, false, false⟩] ∧
        Kept [.addProxy { id := 41 }] { broker := b } lostAndFound := by
  have hordinary : ∀ e ∈ lostAndFound, e.IsOrdinary := by
    simp [lostAndFound, Event.IsOrdinary, Broker.Event.IsOrdinary, Inventory.Act.isDaily]
  have hfaultless : ({} : Store).Faultless := fun _ => rfl
  obtain ⟨b, hstart, hkept⟩ := agents_kept {} hfaultless [.addProxy { id := 41 }] hordinary
    (by decide +kernel)
  refine ⟨hfaultless, by decide +kernel, b, hstart, ?_, ?_, ?_, hkept⟩
  all_goals
    obtain rfl := Except.ok.inj hstart
    decide +kernel

end MapScout.Reception
