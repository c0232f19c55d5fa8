import Mathlib.Data.List.Nodup
import MapScout.Proofs.Tunnel.Effects
import MapScout.Proofs.Tunnel.Reception

/-!
# Order at the reception

Four things stay in order while agents come and go.  The numbers follow one another; the broker
serves those agents whose loops have not ended; the registry has those that have been put in and
not been struck; and the proxies that have been stored are alive until they are reported or their
agent is gone.  Every event keeps them so, and so does a run.
-/

namespace MapScout.Reception

variable {r r' : Reception} {first n : Nat} {reported : List ProxyId} {c c' : Nat} {id : ProxyId}
variable {s s' : Stage}

/-! ## Numbers -/

/-- The numbers follow one another and begin after `first`, and every agent has one. -/
structure Numbered (first n : Nat) (r : Reception) : Prop where
  proper : r.broker.Proper
  keys : r.stages.map (·.1) = r.broker.roster.keys
  ascending : r.broker.roster.keys.Pairwise (· < ·)
  lastId : r.broker.lastId = UInt64.ofNat (first + n)
  numbers : r.broker.roster.keys.map r.broker.number? =
    (List.range n).map fun k => some (UInt64.ofNat (first + 1 + k))

theorem toNat_number {k : Nat} (hn : first + n < UInt64.size) (hk : k < n) :
    (UInt64.ofNat (first + 1 + k)).toNat = first + 1 + k := by
  rw [UInt64.toNat_ofNat']
  exact Nat.mod_eq_of_lt (Nat.lt_of_le_of_lt (by omega) hn)

namespace Numbered

theorem nodup (h : r.Numbered first n) : r.broker.roster.keys.Nodup :=
  h.ascending.imp Nat.ne_of_lt

theorem mem_keys (hid : r.broker.number? c = some id) : c ∈ r.broker.roster.keys := by
  obtain ⟨conn, hconn, -⟩ := Option.map_eq_some_iff.mp hid
  exact List.mem_map_of_mem (Keyed.mem_of_lookup hconn)

/-- No number is given out twice. -/
theorem inj (h : r.Numbered first n) (hn : first + n < UInt64.size)
    (hid : r.broker.number? c = some id) (hid' : r.broker.number? c' = some id) : c = c' := by
  have hnodup : (r.broker.roster.keys.map r.broker.number?).Nodup := by
    rw [h.numbers]
    refine List.Nodup.map_on (fun k hk k' hk' heq => ?_) List.nodup_range
    have hsame := congrArg UInt64.toNat (Option.some.inj heq)
    rw [toNat_number hn (List.mem_range.mp hk), toNat_number hn (List.mem_range.mp hk')] at hsame
    omega
  exact List.inj_on_of_nodup_map hnodup (mem_keys hid) (mem_keys hid') (hid.trans hid'.symm)

/-- The numbers are those after `first`. -/
theorem numbers_eq (h : r.Numbered first n) :
    r.numbers = (List.range n).map fun k => UInt64.ofNat (first + 1 + k) := by
  have hnumbers : r.numbers.map some = r.broker.roster.keys.map r.broker.number? := by
    rw [Reception.numbers, List.map_map, Broker.roster, List.map_map]
    apply List.map_congr_left
    rintro ⟨c, conn⟩ hmem
    have hconn : r.broker.connection? c = some conn := Keyed.lookup_of_mem h.nodup hmem
    simp [Broker.number?, hconn]
  rw [h.numbers] at hnumbers
  apply List.map_injective_iff.mpr fun _ _ => Option.some.inj
  rw [hnumbers, List.map_map]
  rfl

theorem lt_nextKey (h : r.Numbered first n) (hc : c ∈ r.broker.roster.keys) :
    c < r.broker.nextKey := by
  obtain ⟨⟨_, conn⟩, hentry, rfl⟩ := List.mem_map.mp hc
  have hconn : r.broker.connection? _ = some conn := Keyed.lookup_of_mem h.nodup hentry
  exact h.proper.connections _ (by rw [hconn]; rfl)

theorem nodup_stages (h : r.Numbered first n) : (r.stages.map (·.1)).Nodup := by
  rw [h.keys]
  exact h.nodup

theorem exists_number (h : r.Numbered first n) (hs : r.stage? c = some s) :
    ∃ id, r.broker.number? c = some id := by
  have hmem : c ∈ r.broker.roster.keys := by
    rw [← h.keys]
    exact List.mem_map_of_mem (Keyed.mem_of_lookup hs)
  obtain ⟨⟨_, conn⟩, hentry, rfl⟩ := List.mem_map.mp hmem
  have hconn : r.broker.connection? _ = some conn := Keyed.lookup_of_mem h.nodup hentry
  exact ⟨conn.id, by rw [Broker.number?, hconn]; rfl⟩

theorem nextKey_fresh (h : r.Numbered first n) : r.broker.nextKey ∉ r.broker.roster.keys :=
  fun hmem => Nat.lt_irrefl _ (h.lt_nextKey hmem)

end Numbered

/-- Keys stay in their places, whatever becomes of registry and store. -/
theorem proper_with {b : Broker} (hb : b.Proper) {registry : Registry} (store : Store)
    (hregistry : ∀ e ∈ registry, (b.connection? e.2).isSome = true) :
    ({ b with registry, store } : Broker).Proper where
  calls id k hk :=
    have hplaced := hb.calls id k hk
    ⟨hplaced.known, hplaced.connected, hplaced.plain⟩
  connections := hb.connections
  registered := hregistry

theorem Numbered.shift (h : r.Numbered first n) (hshift : r.Shifts r' c id s s')
    (hproper : r'.broker.Proper) (hkeys : r'.broker.roster.keys = r.broker.roster.keys)
    (hlast : r'.broker.lastId = r.broker.lastId) : r'.Numbered first n where
  proper := hproper
  keys := by
    rw [hshift.stages, hkeys, ← h.keys]
    exact Keyed.keys_map c (fun _ => s') r.stages
  ascending := hkeys ▸ h.ascending
  lastId := hlast.trans h.lastId
  numbers := by
    rw [hkeys, hshift.number?]
    exact h.numbers

theorem roster_come (h : r.Numbered first n) :
    r.come.broker.roster =
      { lastId := r.broker.lastId + 1
        keys := r.broker.roster.keys ++ [r.broker.nextKey]
        number? := Function.update r.broker.number? r.broker.nextKey (some (r.broker.lastId + 1))
        services := r.broker.services ++
          [(r.broker.nextKey, { heard := r.broker.now, start := r.broker.now })]
        registry := r.broker.registry
        store := r.broker.store } := by
  have hroster := Broker.roster_attach h.proper.connection?_nextKey
  have hcome : r.come.broker.roster = { r.broker.attach.2.roster with
    registry := r.broker.registry, store := r.broker.store } := rfl
  rw [hcome, hroster]

theorem number?_come (h : r.Numbered first n) :
    r.come.broker.number? = Function.update r.broker.number? r.broker.nextKey
      (some (r.broker.lastId + 1)) :=
  congrArg Roster.number? (roster_come h)

theorem Numbered.come (h : r.Numbered first n) : r.come.Numbered first (n + 1) := by
  have hroster := roster_come h
  have hkeys : r.come.broker.roster.keys = r.broker.roster.keys ++ [r.broker.nextKey] := by
    rw [hroster]
  have hnumber := number?_come h
  have hlast : r.broker.lastId + 1 = UInt64.ofNat (first + 1 + n) := by
    rw [h.lastId, show first + 1 + n = first + n + 1 by omega]
    exact (UInt64.ofNat_add _ _).symm
  refine ⟨?_, ?_, ?_, ?_, ?_⟩
  · refine proper_with (h.proper.happen .attach) _ fun entry hentry => ?_
    have hconn := h.proper.registered entry hentry
    rw [← Option.isSome_map (f := (·.id))] at hconn ⊢
    change (r.come.broker.number? entry.2).isSome = true
    rw [hnumber, Function.update_apply]
    split
    · rfl
    · exact hconn
  · rw [hkeys, ← h.keys]
    exact List.map_append
  · rw [hkeys, List.pairwise_append]
    refine ⟨h.ascending, List.pairwise_singleton _ _, fun c hc key hkey => ?_⟩
    rw [List.mem_singleton.mp hkey]
    exact h.lt_nextKey hc
  · exact (congrArg Roster.lastId hroster).trans (hlast.trans (by congr 1; omega))
  · rw [hkeys, hnumber, List.map_append, List.range_succ, List.map_append, ← h.numbers]
    congr 1
    · apply List.map_congr_left
      intro c hc
      rw [Function.update_of_ne (Nat.ne_of_lt (h.lt_nextKey hc))]
    · rw [List.map_singleton, List.map_singleton, Function.update_self, hlast]

theorem stage?_come (h : r.Numbered first n) :
    r.come.stage? r.broker.nextKey = some .numbered ∧
      ∀ c, c ≠ r.broker.nextKey → r.come.stage? c = r.stage? c := by
  refine ⟨Keyed.lookup_append ?_ _, fun c hc => Keyed.lookup_append_of_ne hc _ _⟩
  rw [h.keys]
  exact h.nextKey_fresh

/-! ## The registry -/

/-- A number is found if its agent is listed, and nothing else is found. -/
def Enrolled (r : Reception) : Prop :=
  ∀ id c, List.lookup id r.broker.registry = some c ↔
    ∃ stage, r.At stage c id ∧ stage.isListed = true

namespace Enrolled

theorem congr (h : r.Enrolled)
    (hat : ∀ stage c id, stage ≠ .numbered → (r'.At stage c id ↔ r.At stage c id))
    (hregistry : r'.broker.registry = r.broker.registry) : r'.Enrolled := by
  intro id c
  rw [hregistry, h id c]
  refine exists_congr fun stage => and_congr_left fun hlisted => (hat stage c id ?_).symm
  rintro rfl
  cases hlisted

theorem lookup_eq (h : r.Enrolled) (honly : ∀ i, r.broker.number? i = some id → i = c)
    (hat : r.At s c id) :
    List.lookup id r.broker.registry = if s.isListed = true then some c else none := by
  split
  · rename_i hlisted
    exact (h id c).mpr ⟨s, hat, hlisted⟩
  · rename_i hlisted
    cases hfound : List.lookup id r.broker.registry with
    | none => rfl
    | some i =>
        obtain ⟨stage, hat', hlisted'⟩ := (h id i).mp hfound
        obtain rfl := honly i hat'.number
        obtain rfl := Option.some.inj (hat.stage.symm.trans hat'.stage)
        exact absurd hlisted' hlisted

/-- One agent comes to another stage, and whether its number is found is put right. -/
theorem shift (h : r.Enrolled) (hshift : r.Shifts r' c id s s')
    (hregistry : ∀ other, List.lookup other r'.broker.registry =
      if other = id then (if s'.isListed = true then some c else none)
      else List.lookup other r.broker.registry) : r'.Enrolled := by
  intro other i
  rw [hregistry]
  by_cases hother : other = id
  · subst hother
    rw [if_pos rfl]
    constructor
    · intro hfound
      split at hfound
      · rename_i hlisted
        obtain rfl := Option.some.inj hfound
        exact ⟨s', hshift.after, hlisted⟩
      · cases hfound
    · rintro ⟨stage, hat, hlisted⟩
      obtain ⟨rfl, rfl⟩ := hshift.eq_of_at hat
      rw [if_pos hlisted]
  · rw [if_neg hother, h other i]
    exact exists_congr fun stage => and_congr_left fun _ => (hshift.at_other hother).symm

/-- The registry need not be touched. -/
theorem keep (h : r.Enrolled) (hshift : r.Shifts r' c id s s') (hlisted : s'.isListed = s.isListed)
    (hregistry : r'.broker.registry = r.broker.registry) : r'.Enrolled := by
  refine h.shift hshift fun other => ?_
  rw [hregistry, hlisted]
  split
  · rename_i hother
    rw [hother, h.lookup_eq hshift.only hshift.before]
  · rfl

end Enrolled

/-! ## The records -/

def isProxyDead (r : Reception) (id : ProxyId) : Bool := r.broker.store.inventory.isProxyDead id

/-- The proxies of agents that are there are alive unless they are reported, and those of agents
that are gone are dead. -/
structure Recorded (reported : List ProxyId) (r : Reception) : Prop where
  faultless : r.broker.store.Faultless
  ascending : r.broker.store.inventory.proxies.Pairwise (·.id < ·.id)
  alive : ∀ stage c id, r.At stage c id → stage.isRecorded = true → id ∉ reported →
    r.isProxyDead id = false
  dead : ∀ c id, r.At .gone c id → r.isProxyDead id = true

namespace Recorded

theorem congr (h : r.Recorded reported)
    (hat : ∀ stage c id, stage ≠ .numbered → (r'.At stage c id ↔ r.At stage c id))
    (hstore : r'.broker.store = r.broker.store) : r'.Recorded reported := by
  have hdead (id : ProxyId) : r'.isProxyDead id = r.isProxyDead id :=
    congrArg (·.inventory.isProxyDead id) hstore
  refine ⟨hstore ▸ h.faultless, hstore ▸ h.ascending, ?_, ?_⟩
  · intro stage c id hstage hrecorded hid
    have hne : stage ≠ .numbered := by
      rintro rfl
      cases hrecorded
    rw [hdead]
    exact h.alive stage c id ((hat stage c id hne).mp hstage) hrecorded hid
  · intro c id hgone
    rw [hdead]
    exact h.dead c id ((hat .gone c id (by decide)).mp hgone)

/-- One agent comes to another stage, and its record is put right. -/
theorem shift (h : r.Recorded reported) (hshift : r.Shifts r' c id s s')
    (hstore : r'.broker.store = r.broker.store ∨ ∃ a, r'.broker.store = r.broker.store.perform a)
    (hothers : ∀ other, other ≠ id → r'.isProxyDead other = r.isProxyDead other)
    (halive : s'.isRecorded = true → id ∉ reported → r'.isProxyDead id = false)
    (hdead : s' = .gone → r'.isProxyDead id = true) : r'.Recorded reported where
  faultless := by
    obtain hstore | ⟨a, hstore⟩ := hstore <;> rw [hstore]
    · exact h.faultless
    · exact h.faultless.perform a
  ascending := by
    obtain hstore | ⟨a, hstore⟩ := hstore <;> rw [hstore]
    · exact h.ascending
    · rw [Store.inventory_perform h.faultless]
      exact Inventory.ascending_after h.ascending a
  alive stage i other hat hrecorded hreported := by
    by_cases hother : other = id
    · subst hother
      obtain ⟨-, rfl⟩ := hshift.eq_of_at hat
      exact halive hrecorded hreported
    · rw [hothers other hother]
      exact h.alive stage i other ((hshift.at_other hother).mp hat) hrecorded hreported
  dead i other hat := by
    by_cases hother : other = id
    · subst hother
      exact hdead (hshift.eq_of_at hat).2.symm
    · rw [hothers other hother]
      exact h.dead i other ((hshift.at_other hother).mp hat)

/-- The record need not be touched. -/
theorem keep (h : r.Recorded reported) (hshift : r.Shifts r' c id s s')
    (hrecorded : s'.isRecorded = true → s.isRecorded = true) (hgone : s' = .gone → s = .gone)
    (hstore : r'.broker.store = r.broker.store) : r'.Recorded reported := by
  have hdead (other : ProxyId) : r'.isProxyDead other = r.isProxyDead other :=
    congrArg (·.inventory.isProxyDead other) hstore
  refine h.shift hshift (Or.inl hstore) (fun other _ => hdead other) ?_ ?_
  · intro hstage hreported
    rw [hdead]
    exact h.alive s c id hshift.before (hrecorded hstage) hreported
  · intro hstage
    rw [hdead]
    exact h.dead c id (hgone hstage ▸ hshift.before)

/-- The proxy of an agent is stored. -/
theorem record (h : r.Recorded reported) (hshift : r.Shifts r' c id s .attached)
    (hstore : r'.broker.store = (r.broker.store.addProxy { id }).2) : r'.Recorded reported := by
  have hdead (other : ProxyId) :
      r'.isProxyDead other = if other = id then false else r.isProxyDead other := by
    rw [isProxyDead, hstore, Store.inventory_addProxy h.faultless, Inventory.isProxyDead_addProxy]
    rfl
  refine h.shift hshift (Or.inr ⟨.addProxy { id }, hstore⟩) ?_ ?_ ?_
  · intro other hother
    rw [hdead, if_neg hother]
  · intro _ _
    rw [hdead, if_pos rfl]
  · rintro ⟨⟩

/-- The proxy of an agent is marked dead. -/
theorem bury (h : r.Recorded reported) (hshift : r.Shifts r' c id s .gone)
    (hstore : r'.broker.store = (r.broker.store.saveProxy { id, dead := true }).2) :
    r'.Recorded reported := by
  let a : Inventory.Act := .saveProxy { id, dead := true }
  have hperform : r'.broker.store = r.broker.store.perform a := hstore
  have hdead (other : ProxyId) : r'.isProxyDead other = (r.isProxyDead other || id == other) := by
    rw [isProxyDead, hperform, Store.inventory_perform h.faultless,
      Inventory.isProxyDead_after h.ascending rfl]
    exact congrArg (_ || ·) (Bool.and_true _)
  refine h.shift hshift (Or.inr ⟨a, hperform⟩) ?_ ?_ ?_
  · intro other hother
    have hne : (id == other) = false := by simpa using Ne.symm hother
    rw [hdead, hne, Bool.or_false]
  · rintro ⟨⟩
  · intro _
    rw [hdead, beq_self_eq_true, Bool.or_true]

/-- Somebody else uses the store. -/
theorem perform (h : r.Recorded reported) {a : Inventory.Act} (ha : a.isDaily = true) :
    (r.happen (.store a)).Recorded (reported ++ (Event.store a).report?.toList) := by
  have hdead (id : ProxyId) :
      (r.happen (.store a)).isProxyDead id = (r.isProxyDead id || a.kills id) := by
    refine Eq.trans ?_ (Inventory.isProxyDead_after h.ascending ha id)
    exact congrArg (·.isProxyDead id) (Store.inventory_perform h.faultless a)
  refine ⟨h.faultless.perform a, ?_, ?_, ?_⟩
  · change (r.broker.store.perform a).inventory.proxies.Pairwise _
    rw [Store.inventory_perform h.faultless]
    exact Inventory.ascending_after h.ascending a
  · intro stage c id hat hstage hid
    have hspared : a.kills id = false := by
      cases a with
      | saveProxy p =>
          cases hp : p.dead with
          | false => simp [Inventory.Act.kills, hp]
          | true =>
              have hne : id ≠ p.id := by
                rintro rfl
                exact hid (by simp [Event.report?, hp])
              simpa [Inventory.Act.kills, hp] using hne.symm
      | _ => rfl
    rw [hdead, hspared, h.alive stage c id ⟨hat.number, hat.stage⟩ hstage
      fun hmem => hid (List.mem_append_left _ hmem)]
    rfl
  · intro c id hat
    rw [hdead, h.dead c id ⟨hat.number, hat.stage⟩, Bool.true_or]

end Recorded

/-! ## Loops -/

structure Served (r : Reception) : Prop where
  steady : r.broker.roster.Steady
  stages : ∀ c, r.broker.roster.serving? c = (r.stage? c).map (·.isServed)

theorem Served.shift (h : r.Served) (hshift : r.Shifts r' c id s s')
    (hservices : r'.broker.services = r.broker.services) (hserved : s'.isServed = s.isServed) :
    r'.Served := by
  have hserving : r'.broker.roster.serving? = r.broker.roster.serving? := by
    funext i
    exact congrArg (fun services => (List.lookup i services).map (·.link.hasBroker)) hservices
  refine ⟨?_, fun i => ?_⟩
  · intro i t ht
    rw [show r'.broker.roster.services = r.broker.services from hservices] at ht
    exact h.steady i t ht
  · rw [hserving, h.stages]
    by_cases hi : i = c
    · rw [hi, hshift.stage?_self, hshift.before.stage, Option.map_some, Option.map_some, hserved]
    · rw [hshift.stage?_of_ne hi]

/-! ## What every event preserves -/

/-- The order that is kept at a reception. -/
structure Sound (first n : Nat) (reported : List ProxyId) (r : Reception) : Prop where
  numbered : r.Numbered first n
  served : r.Served
  enrolled : r.Enrolled
  recorded : r.Recorded reported

/-! ### The steps for one agent -/

theorem shifts_step (h : r.Numbered first n) (hn : first + n < UInt64.size) (hat : r.At s c id) :
    r.Shifts (r.happen (.step c)) c id s s.next := by
  rw [happen_step hat.stage, usher_eq hat.number s]
  exact ⟨hat, fun i hi => h.inj hn hi hat.number, rfl, rfl⟩

theorem Numbered.step (h : r.Numbered first n) (hn : first + n < UInt64.size) (hat : r.At s c id) :
    (r.happen (.step c)).Numbered first n := by
  have hshift := shifts_step h hn hat
  rw [happen_step hat.stage, usher_eq hat.number s] at hshift ⊢
  refine h.shift hshift (proper_with h.proper _ fun e he => ?_) rfl rfl
  cases s with
  | numbered =>
      obtain hold | rfl := Registry.mem_register he
      · exact h.proper.registered e hold
      · obtain ⟨conn, hconn, -⟩ := Option.map_eq_some_iff.mp hat.number
        rw [hconn]
        rfl
  | leaving => exact h.proper.registered e (List.mem_filter.mp he).1
  | _ => exact h.proper.registered e he

theorem Sound.step (h : r.Sound first n reported) (hn : first + n < UInt64.size) (c : Nat) :
    (r.happen (.step c)).Sound first n reported := by
  cases hs : r.stage? c with
  | none =>
      rw [happen_step_none hs]
      exact h
  | some s =>
      obtain ⟨id, hid⟩ := h.numbered.exists_number hs
      have hshift := shifts_step h.numbered hn ⟨hid, hs⟩
      have hnumbered := h.numbered.step hn ⟨hid, hs⟩
      rw [happen_step hs, usher_eq hid s] at hshift hnumbered ⊢
      cases s with
      | numbered =>
          exact ⟨hnumbered, h.served.shift hshift rfl rfl,
            h.enrolled.shift hshift fun other =>
              Registry.lookup_register id other c r.broker.registry,
            h.recorded.keep hshift (fun h => h) (fun h => by cases h) rfl⟩
      | listed =>
          exact ⟨hnumbered, h.served.shift hshift rfl rfl, h.enrolled.keep hshift rfl rfl,
            h.recorded.record hshift rfl⟩
      | attached =>
          exact ⟨hnumbered, h.served.shift hshift rfl rfl, h.enrolled.keep hshift rfl rfl,
            h.recorded.keep hshift (fun h => h) (fun h => by cases h) rfl⟩
      | leaving =>
          exact ⟨hnumbered, h.served.shift hshift rfl rfl,
            h.enrolled.shift hshift fun other =>
              Registry.lookup_deregister id other r.broker.registry,
            h.recorded.keep hshift (fun h => h) (fun h => by cases h) rfl⟩
      | struck =>
          exact ⟨hnumbered, h.served.shift hshift rfl rfl, h.enrolled.keep hshift rfl rfl,
            h.recorded.bury hshift rfl⟩
      | gone =>
          exact ⟨hnumbered, h.served.shift hshift rfl rfl, h.enrolled.keep hshift rfl rfl,
            h.recorded.keep hshift (fun h => h) (fun h => h) rfl⟩

/-! ### Events of the broker -/

theorem Sound.serving?_of_mem (h : r.Sound first n reported) (hmem : (c, s) ∈ r.stages) :
    r.broker.roster.serving? c = some s.isServed := by
  have hs : r.stage? c = some s := Keyed.lookup_of_mem h.numbered.nodup_stages hmem
  rw [h.served.stages, hs]
  rfl

theorem stages_goOn (h : r.Sound first n reported) {e : Broker.Event}
    (hserving : (r.goOn e).broker.roster.serving? = r.broker.roster.serving?) :
    (r.goOn e).stages = r.stages := by
  refine (List.map_congr_left ?_).trans (List.map_id _)
  rintro ⟨c, s⟩ hmem
  have hsame : (r.broker.partly e).roster.serving? c = some s.isServed :=
    (congrFun hserving c).trans (h.serving?_of_mem hmem)
  dsimp only
  rw [hsame, s.under_isServed]
  rfl

theorem stages_goOn_of_ended (h : r.Sound first n reported) {e : Broker.Event}
    (hs : r.stage? c = some .attached)
    (hserving : (r.goOn e).broker.roster.serving? =
      Function.update r.broker.roster.serving? c (some false)) :
    (r.goOn e).stages = Broker.replace c .leaving r.stages := by
  apply List.map_congr_left
  rintro ⟨i, s⟩ hmem
  have hcase : (r.broker.partly e).roster.serving? i =
      Function.update r.broker.roster.serving? c (some false) i := congrFun hserving i
  dsimp only
  rw [hcase]
  by_cases hi : i = c
  · subst hi
    have hsame : s = .attached := Option.some.inj
      ((Keyed.lookup_of_mem h.numbered.nodup_stages hmem).symm.trans hs)
    rw [Function.update_self, hsame, if_pos rfl]
    rfl
  · rw [Function.update_of_ne hi, h.serving?_of_mem hmem, s.under_isServed, if_neg hi]

/-- Only the loops of an agent that is attached can be at work. -/
theorem Served.stage?_of_not_isHeld (h : r.Served)
    (hopen : r.broker.roster.serving? c = some true)
    (hheld : r.isHeld (.turn (.reader c)) = false) : r.stage? c = some .attached := by
  obtain ⟨s, hs, hserved⟩ := Option.map_eq_some_iff.mp ((h.stages c).symm.trans hopen)
  have hearly : s.isEarly = false := by simpa [isHeld, hs] using hheld
  cases s with
  | attached => exact hs
  | numbered | listed => cases hearly
  | leaving | struck | gone => cases hserved

/-- In one event the loops of no agent end, or those of one that is attached.  Only in the second
case is there something left to do. -/
theorem goOn_cases (h : r.Sound first n reported) (hn : first + n < UInt64.size) {e : Broker.Event}
    (he : e.IsOrdinary) (hattach : e ≠ .attach) (hheld : r.isHeld e = false) :
    ((r.goOn e).stages = r.stages ∧
        (r.goOn e).broker.roster.serving? = r.broker.roster.serving? ∧
        r.broker.happen e = (r.goOn e).broker) ∨
      ∃ c id, r.Shifts (r.goOn e) c id .attached .leaving ∧
        (r.goOn e).broker.roster.serving? =
          Function.update r.broker.roster.serving? c (some false) ∧
        r.broker.happen e = { (r.goOn e).broker with
          registry := (r.broker.registry.deregister id).2
          store := (r.broker.store.saveProxy { id, dead := true }).2 } := by
  have hstep := Broker.step_happen he hattach h.served.steady
  have hall : { r.broker.partly e with
      registry := (r.broker.happen e).registry
      store := (r.broker.happen e).store } = r.broker.happen e := rfl
  obtain ⟨hserving, hregistry, hstore⟩ | ⟨c, id, rfl, hopen, hid, hserving, hregistry, hstore⟩ :=
    hstep.serving?
  all_goals
    rw [show (r.broker.happen _).registry = _ from hregistry,
      show (r.broker.happen _).store = _ from hstore] at hall
  · exact Or.inl ⟨stages_goOn h hserving, hserving, hall.symm⟩
  · have hs := h.served.stage?_of_not_isHeld hopen hheld
    refine Or.inr ⟨c, id, ⟨⟨hid, hs⟩, ?_, hstep.number?, ?_⟩, hserving, hall.symm⟩
    · exact fun i hi => h.numbered.inj hn hi hid
    · exact stages_goOn_of_ended h hs hserving

theorem Numbered.goOn (h : r.Numbered first n) {e : Broker.Event}
    (hstep : r.broker.roster.Step e (r.broker.happen e).roster) : (r.goOn e).Numbered first n where
  proper := by
    refine proper_with (h.proper.happen e) _ fun entry hentry => ?_
    have hconn := h.proper.registered entry hentry
    rw [← Option.isSome_map (f := (·.id))] at hconn ⊢
    exact (congrArg Option.isSome (congrFun hstep.number? entry.2)).trans hconn
  keys := by
    rw [show (r.goOn e).broker.roster.keys = r.broker.roster.keys from hstep.keys, ← h.keys]
    exact List.map_map
  ascending := by
    rw [show (r.goOn e).broker.roster.keys = r.broker.roster.keys from hstep.keys]
    exact h.ascending
  lastId := hstep.lastId.trans h.lastId
  numbers := by
    rw [show (r.goOn e).broker.roster.keys = r.broker.roster.keys from hstep.keys,
      show (r.goOn e).broker.number? = r.broker.number? from hstep.number?]
    exact h.numbers

theorem Sound.goOn (h : r.Sound first n reported) (hn : first + n < UInt64.size)
    {e : Broker.Event} (he : e.IsOrdinary) (hattach : e ≠ .attach) (hheld : r.isHeld e = false) :
    (r.goOn e).Sound first n reported := by
  have hstep := Broker.step_happen he hattach h.served.steady
  have hnumber : (r.goOn e).broker.number? = r.broker.number? := hstep.number?
  have hsteady : (r.goOn e).broker.roster.Steady := hstep.steady h.served.steady
  obtain ⟨hstages, hserving, -⟩ | ⟨c, id, hshift, hserving, -⟩ :=
    goOn_cases h hn he hattach hheld
  · have hat (stage : Stage) (c : Nat) (id : ProxyId) (_ : stage ≠ .numbered) :
        (r.goOn e).At stage c id ↔ r.At stage c id := by
      have hstage : (r.goOn e).stage? c = r.stage? c := congrArg (List.lookup c) hstages
      constructor
      · exact fun hat => ⟨by rw [← hnumber, hat.number], by rw [← hstage, hat.stage]⟩
      · exact fun hat => ⟨by rw [hnumber, hat.number], by rw [hstage, hat.stage]⟩
    refine ⟨h.numbered.goOn hstep, ⟨hsteady, fun c => ?_⟩, h.enrolled.congr hat rfl,
      h.recorded.congr hat rfl⟩
    rw [hserving, h.served.stages, stage?, stage?, hstages]
  · refine ⟨h.numbered.goOn hstep, ⟨hsteady, fun i => ?_⟩, h.enrolled.keep hshift rfl rfl,
      h.recorded.keep hshift (fun h => h) (fun h => by cases h) rfl⟩
    rw [hserving]
    by_cases hi : i = c
    · rw [hi, Function.update_self, hshift.stage?_self]
      rfl
    · rw [Function.update_of_ne hi, hshift.stage?_of_ne hi, h.served.stages]

/-! ### Agents that come -/

/-- The agents that have been there before are where they were. -/
theorem at_come (h : r.Numbered first n) {stage : Stage} (hstage : stage ≠ .numbered) :
    r.come.At stage c id ↔ r.At stage c id := by
  obtain ⟨hself, hothers⟩ := stage?_come h
  have hsame (hc : c ≠ r.broker.nextKey) : r.come.broker.number? c = r.broker.number? c := by
    rw [number?_come h, Function.update_of_ne hc]
  constructor
  · rintro ⟨hid, hs⟩
    have hc : c ≠ r.broker.nextKey := by
      rintro rfl
      exact hstage (Option.some.inj (hs.symm.trans hself))
    exact ⟨(hsame hc).symm.trans hid, (hothers c hc).symm.trans hs⟩
  · rintro ⟨hid, hs⟩
    have hc : c ≠ r.broker.nextKey := Nat.ne_of_lt (h.lt_nextKey (Numbered.mem_keys hid))
    exact ⟨(hsame hc).trans hid, (hothers c hc).trans hs⟩

theorem Served.come (h : r.Served) (hnumbered : r.Numbered first n) : r.come.Served := by
  let key := r.broker.nextKey
  obtain ⟨hself, hothers⟩ := stage?_come hnumbered
  have hroster := roster_come hnumbered
  have hnew : r.broker.services.lookup key = none := by
    have hserving := h.stages key
    rw [stage?, Keyed.lookup_eq_none (by rw [hnumbered.keys]; exact hnumbered.nextKey_fresh),
      Option.map_none, Roster.serving?, Option.map_eq_none_iff] at hserving
    exact hserving
  have hservice : r.come.broker.roster.services.lookup key =
      some { heard := r.broker.now, start := r.broker.now } := by
    rw [hroster]
    exact Keyed.lookup_append_of_none hnew _
  have hservices {c : Nat} (hc : c ≠ key) :
      r.come.broker.roster.services.lookup c = r.broker.roster.services.lookup c := by
    rw [hroster]
    exact Keyed.lookup_append_of_ne hc _ _
  refine ⟨fun c s hs hreading => ?_, fun c => ?_⟩
  · by_cases hc : c = key
    · subst hc
      rw [hservice] at hs
      obtain rfl := Option.some.inj hs
      rfl
    · exact h.steady c s ((hservices hc).symm.trans hs) hreading
  · rw [Roster.serving?]
    by_cases hc : c = key
    · subst hc
      rw [hservice, hself]
      rfl
    · rw [hservices hc, hothers c hc]
      exact h.stages c

theorem Sound.come (h : r.Sound first n reported) : r.come.Sound first (n + 1) reported where
  numbered := h.numbered.come
  served := h.served.come h.numbered
  enrolled := h.enrolled.congr (fun _ _ _ hstage => at_come h.numbered hstage) rfl
  recorded := h.recorded.congr (fun _ _ _ hstage => at_come h.numbered hstage) rfl

/-! ### All events -/

theorem Sound.store (h : r.Sound first n reported) {a : Inventory.Act} (ha : a.isDaily = true) :
    (r.happen (.store a)).Sound first n (reported ++ (Event.store a).report?.toList) where
  numbered :=
    { proper := proper_with h.numbered.proper _ h.numbered.proper.registered
      keys := h.numbered.keys
      ascending := h.numbered.ascending
      lastId := h.numbered.lastId
      numbers := h.numbered.numbers }
  served := ⟨h.served.steady, h.served.stages⟩
  enrolled := h.enrolled.congr (fun _ _ _ _ => ⟨fun h => ⟨h.1, h.2⟩, fun h => ⟨h.1, h.2⟩⟩) rfl
  recorded := h.recorded.perform ha

theorem Sound.happen (h : r.Sound first n reported) {e : Event} (he : e.IsOrdinary)
    (hn : first + n < UInt64.size) :
    (r.happen e).Sound first (n + arrivals [e]) (reported ++ reports [e]) := by
  cases e with
  | tunnel e =>
      have hreports : reported ++ reports [.tunnel e] = reported := List.append_nil _
      rw [hreports]
      by_cases hattach : e = .attach
      · subst hattach
        exact h.come
      · have harrivals : arrivals [.tunnel e] = 0 := by
          cases e <;> first | rfl | exact absurd rfl hattach
        rw [harrivals, happen_tunnel hattach]
        split
        · exact h
        · rename_i hheld
          exact h.goOn hn he hattach (by simpa using hheld)
  | step c =>
      have hreports : reported ++ reports [.step c] = reported := List.append_nil _
      rw [hreports]
      exact h.step hn c
  | store a =>
      have hreports : reports [.store a] = (Event.store a).report?.toList := by
        rw [reports, List.filterMap_cons]
        cases (Event.store a).report? <;> rfl
      rw [hreports]
      exact h.store he

theorem Sound.run (h : r.Sound first n reported) {events : List Event}
    (hordinary : ∀ e ∈ events, e.IsOrdinary) (hn : first + (n + arrivals events) < UInt64.size) :
    (r.run events).Sound first (n + arrivals events) (reported ++ reports events) := by
  induction events generalizing r n reported with
  | nil =>
      rw [show reports [] = [] from rfl, List.append_nil]
      exact h
  | cons e events ih =>
      obtain ⟨he, hevents⟩ := List.forall_mem_cons.mp hordinary
      rw [arrivals_cons] at hn ⊢
      rw [reports_cons, ← Nat.add_assoc, ← List.append_assoc]
      exact ih (h.happen he (by omega)) hevents (by omega)

end MapScout.Reception
