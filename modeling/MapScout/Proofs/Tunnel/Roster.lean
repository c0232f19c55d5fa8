import Mathlib.Logic.Function.Basic
import MapScout.Proofs.Tunnel.CallMoves
import MapScout.Proofs.Tunnel.Run

/-!
# What a broker knows of its agents

The number that was given out last, the connections with their numbers, the loops, the registry and
the store.  Calls change nothing of this.  A loop changes its own state, until both loops of an
agent have ended and the agent is detached.
-/

namespace MapScout

namespace Registry

variable {r : Registry} {id other : ProxyId}

theorem lookup_register (id other : ProxyId) (c : Nat) (r : Registry) :
    List.lookup other (r.register id c) = if other = id then some c else List.lookup other r := by
  induction r with
  | nil =>
      by_cases h : other = id
      · simp [register, h]
      · have hne : (other == id) = false := by simpa using h
        simp [register, List.lookup_cons, hne, h]
  | cons e rest ih =>
      rw [register]
      by_cases h : other = id
      · subst h
        rw [if_pos rfl] at ih ⊢
        split
        · simp
        · split
          · simp
          · rename_i hne
            have hne' : (other == e.1) = false := by simpa using hne
            rw [List.lookup_cons, hne', ih]
      · have hne : (other == id) = false := by simpa using h
        rw [if_neg h] at ih ⊢
        split
        · simp [List.lookup_cons, hne]
        · split
          · rename_i hsame
            have hne' : (other == e.1) = false := hsame ▸ hne
            rw [List.lookup_cons, List.lookup_cons, hne, hne']
          · rw [List.lookup_cons, List.lookup_cons, ih]

theorem lookup_deregister (id other : ProxyId) (r : Registry) :
    List.lookup other (r.deregister id).2 =
      if other = id then none else List.lookup other r := by
  change List.lookup other (r.filter (·.1 != id)) = _
  induction r with
  | nil => simp
  | cons e rest ih =>
      by_cases he : e.1 = id
      · rw [List.filter_cons_of_neg (by simpa using he), ih]
        by_cases h : other = id
        · rw [if_pos h, if_pos h]
        · have hne : (other == e.1) = false := by simpa [he] using h
          rw [if_neg h, if_neg h, List.lookup_cons, hne]
      · rw [List.filter_cons_of_pos (by simpa using he), List.lookup_cons, List.lookup_cons, ih]
        by_cases h : other = id
        · have hne : (other == e.1) = false := by simpa [h] using Ne.symm he
          rw [if_pos h, if_pos h, hne]
        · rw [if_neg h, if_neg h]

theorem mem_ids : id ∈ r.ids ↔ ∃ c, List.lookup id r = some c := by
  rw [ids]
  induction r with
  | nil => simp
  | cons e rest ih =>
      rw [List.map_cons, List.mem_cons, ih, List.lookup_cons]
      by_cases h : id = e.1
      · simp [h]
      · have hne : (id == e.1) = false := by simpa using h
        simp [h, hne]

end Registry

/-- What has to do with agents. -/
structure Roster where
  lastId : ProxyId
  /-- The keys of the connections in the order in which they were made. -/
  keys : List Nat
  /-- The number of the agent at a connection. -/
  number? : Nat → Option ProxyId
  services : List (Nat × Service)
  registry : Registry
  store : Store

/-- What a loop, or the agent at its end of the link, can make of the loops that serve the agent,
unless it is the end of them all. -/
structure Service.Tends (s s' : Service) : Prop where
  link : s'.link.hasBroker = s.link.hasBroker
  reading : s'.isReading = true → s.isReading = true

namespace Roster

def serving? (r : Roster) (c : Nat) : Option Bool := (r.services.lookup c).map (·.link.hasBroker)

/-- Whoever reads, reads from a link whose end is there. -/
def Steady (r : Roster) : Prop :=
  ∀ c s, r.services.lookup c = some s → s.isReading = true → s.link.hasBroker = true

/-- What an event that is not the coming of an agent can make of a roster. -/
inductive Step (e : Broker.Event) (r : Roster) : Roster → Prop where
  | stay : Step e r r
  | tend {c : Nat} {s s' : Service} (hs : r.services.lookup c = some s) (htends : s.Tends s') :
      Step e r { r with services := Broker.replace c s' r.services }
  /-- Both loops of an agent have ended. -/
  | detach {c : Nat} {id : ProxyId} {s s' : Service} (he : e = .turn (.reader c))
      (hs : r.services.lookup c = some s) (hopen : s.link.hasBroker = true)
      (hclosed : s'.link.hasBroker = false) (hreading : s'.isReading = false)
      (hid : r.number? c = some id) :
      Step e r { r with
        services := Broker.replace c s' r.services
        registry := (r.registry.deregister id).2
        store := (r.store.saveProxy { id, dead := true }).2 }

variable {r r' : Roster} {e : Broker.Event} {c : Nat} {s s' : Service}

theorem lookup_replace (hs : r.services.lookup c = some s) :
    (Broker.replace c s' r.services).lookup c = some s' := by
  rw [Broker.replace, Keyed.lookup_map (fun _ => s'), hs]
  rfl

theorem lookup_replace_of_ne {i : Nat} (hi : i ≠ c) :
    (Broker.replace c s' r.services).lookup i = r.services.lookup i :=
  Keyed.lookup_map_of_ne (fun _ => s') r.services hi

theorem serving?_replace (hs : r.services.lookup c = some s) :
    serving? { r with services := Broker.replace c s' r.services } =
      Function.update r.serving? c (some s'.link.hasBroker) := by
  funext i
  rw [serving?]
  by_cases hi : i = c
  · subst hi
    rw [Function.update_self, lookup_replace hs]
    rfl
  · rw [Function.update_of_ne hi, lookup_replace_of_ne hi]
    rfl

namespace Step

variable (h : r.Step e r')

include h

/-- Only an agent that comes gets a number. -/
theorem lastId : r'.lastId = r.lastId := by cases h <;> rfl

theorem keys : r'.keys = r.keys := by cases h <;> rfl

theorem number? : r'.number? = r.number? := by cases h <;> rfl

/-- Agents are served as before, or one of them is detached. -/
theorem serving? :
    (r'.serving? = r.serving? ∧ r'.registry = r.registry ∧ r'.store = r.store) ∨
      ∃ c id, e = .turn (.reader c) ∧ r.serving? c = some true ∧ r.number? c = some id ∧
        r'.serving? = Function.update r.serving? c (some false) ∧
        r'.registry = (r.registry.deregister id).2 ∧
        r'.store = (r.store.saveProxy { id, dead := true }).2 := by
  cases h with
  | stay => exact Or.inl ⟨rfl, rfl, rfl⟩
  | @tend c s s' hs htends =>
      refine Or.inl ⟨?_, rfl, rfl⟩
      have hsame : r.serving? c = some s'.link.hasBroker := by
        rw [Roster.serving?, hs, htends.link]
        rfl
      rw [serving?_replace hs, ← hsame, Function.update_eq_self]
  | @detach c id s s' he hs hopen hclosed hreading hid =>
      refine Or.inr ⟨c, id, he, ?_, hid, ?_, rfl, rfl⟩
      · rw [Roster.serving?, hs, ← hopen]
        rfl
      · rw [← hclosed]
        exact serving?_replace hs

theorem steady (hr : r.Steady) : r'.Steady := by
  have hreplace {c : Nat} {s s' : Service} (hs : r.services.lookup c = some s)
      (hs' : s'.isReading = true → s'.link.hasBroker = true) :
      Steady { r with services := Broker.replace c s' r.services } := by
    intro i t ht
    by_cases hi : i = c
    · subst hi
      obtain rfl := Option.some.inj ((lookup_replace hs).symm.trans ht)
      exact hs'
    · exact hr i t ((lookup_replace_of_ne hi).symm.trans ht)
  cases h with
  | stay => exact hr
  | tend hs htends =>
      refine hreplace hs fun hreading => ?_
      rw [htends.link]
      exact hr _ _ hs (htends.reading hreading)
  | detach he hs hopen hclosed hreading hid =>
      refine hreplace hs fun hreading' => ?_
      rw [hreading] at hreading'
      cases hreading'

end Step

end Roster

namespace Broker

variable {b b' : Broker} {c id : Nat} {s s' : Service} {conn : Connection} {e : Event}

def number? (b : Broker) (c : Nat) : Option ProxyId := (b.connection? c).map (·.id)

def roster (b : Broker) : Roster where
  lastId := b.lastId
  keys := b.connections.map (·.1)
  number? := b.number?
  services := b.services
  registry := b.registry
  store := b.store

/-! ## What leaves the roster alone -/

theorem OnlyTime.roster (h : b.OnlyTime b') : b'.roster = b.roster := by
  obtain ⟨time, rfl⟩ := h
  rfl

@[simp]
theorem roster_onTime (f : Timeline BrokerOwner → Timeline BrokerOwner) (b : Broker) :
    (b.onTime f).roster = b.roster := rfl

@[simp]
theorem roster_wake (o : BrokerOwner) (b : Broker) : (b.wake o).roster = b.roster := rfl

@[simp]
theorem roster_alarm (due : Nat) (o : BrokerOwner) (b : Broker) :
    (b.alarm due o).roster = b.roster := rfl

@[simp]
theorem roster_again (o : BrokerOwner) (b : Broker) : (b.again o).roster = b.roster := rfl

@[simp]
theorem roster_beginTurn (o : BrokerOwner) (b : Broker) : (b.beginTurn o).roster = b.roster := rfl

@[simp]
theorem roster_setStage (id : Nat) (stage : CallStage) (b : Broker) :
    (b.setStage id stage).roster = b.roster := rfl

@[simp]
theorem roster_proceedCall (id : Nat) (stage : CallStage) (b : Broker) :
    (b.proceedCall id stage).roster = b.roster := rfl

@[simp]
theorem roster_wakeTurn (c : Nat) (b : Broker) : (b.wakeTurn c).roster = b.roster :=
  (OnlyTime.wakeTurn c).roster

@[simp]
theorem roster_wakeSenders (c : Nat) (b : Broker) : (b.wakeSenders c).roster = b.roster :=
  (OnlyTime.wakeSenders c).roster

@[simp]
theorem roster_wakeTaker (c : Nat) (b : Broker) : (b.wakeTaker c).roster = b.roster :=
  (OnlyTime.wakeTaker c).roster

/-- Whatever is done to a connection that has to do with frames, its number stays. -/
theorem roster_onConnection {f : Connection → Connection}
    (hf : ∀ conn, b.connection? c = some conn → (f conn).id = conn.id) :
    (b.onConnection c f).roster = b.roster := by
  have hnumber : (b.onConnection c f).number? = b.number? := by
    funext i
    rw [number?, number?]
    by_cases hi : i = c
    · subst hi
      cases hconn : b.connection? i with
      | none => simp [onConnection, hconn]
      | some conn =>
          rw [connection?_onConnection hconn, Option.map_some, Option.map_some, hf conn hconn]
    · rw [connection?_onConnection_of_ne f hi]
  have hkeys : (b.onConnection c f).connections.map (·.1) = b.connections.map (·.1) := by
    rw [onConnection]
    split
    · rfl
    · rename_i conn _
      exact Keyed.keys_map c (fun _ => f conn) b.connections
  have hrest : { (b.onConnection c f).roster with keys := b.roster.keys, number? := b.number? } =
      b.roster := by
    rw [onConnection]
    split <;> rfl
  rw [← hrest, roster, hnumber, hkeys]
  rfl

@[simp]
theorem roster_vacate (c id : Nat) (b : Broker) :
    (b.onConnection c (·.vacate id)).roster = b.roster := roster_onConnection fun _ _ => rfl

@[simp]
theorem roster_finishCall (id c : Nat) (result : Except TunnelError Bytes) (b : Broker) :
    (b.finishCall id c result).roster = b.roster := by
  rw [finishCall]
  simp only [roster_wakeSenders, roster_wakeTurn, roster_onTime, roster_setStage]
  exact roster_vacate c id b

@[simp]
theorem roster_deliver (c : Nat) (payload : Bytes) (b : Broker) :
    (b.deliver c payload).roster = b.roster := by
  have hid (conn : Connection) : (conn.deliver payload).id = conn.id := by
    rw [Connection.deliver]
    split <;> rfl
  rw [deliver]
  cases (b.connection? c).bind (·.slot) <;> exact roster_onConnection fun conn _ => hid conn

@[simp]
theorem roster_cancel (c : Nat) (b : Broker) : (b.cancel c).roster = b.roster := by
  rw [cancel]
  split <;> exact roster_onConnection fun _ _ => rfl

@[simp]
theorem roster_clear (c : Nat) (b : Broker) : (b.clear c).roster = b.roster := by
  rw [clear]
  cases (b.connection? c).bind (·.slot) <;> exact roster_onConnection fun _ _ => rfl

@[simp]
theorem roster_close (c : Nat) (b : Broker) : (b.close c).roster = b.roster := by
  rw [close, roster_clear, roster_cancel]

theorem roster_take? {frame : Bytes} (h : b.take? c = some (frame, b')) :
    b'.roster = b.roster := by
  obtain ⟨conn, hconn, htake⟩ := Option.bind_eq_some_iff.mp h
  obtain ⟨⟨frame', conn'⟩, htaken, hb'⟩ := Option.bind_eq_some_iff.mp htake
  obtain ⟨-, rfl⟩ := Prod.mk.inj (Option.some.inj hb')
  have hid : conn'.id = conn.id := by
    rw [Connection.take?] at htaken
    split at htaken
    · cases htaken
    · rw [← (Prod.mk.inj (Option.some.inj htaken)).2]
  rw [roster_wakeSenders]
  refine roster_onConnection fun old hold => ?_
  rw [hconn] at hold
  rw [← Option.some.inj hold, hid]

@[simp]
theorem roster_stopTaking (c : Nat) (b : Broker) : (b.stopTaking c).roster = b.roster := by
  rw [stopTaking, roster_wakeSenders]
  exact roster_onConnection fun _ _ => rfl

/-! ## Calls -/

theorem roster_startForward (c : Nat) (frame : Bytes) (timeout : Nat) (b : Broker) :
    (b.startForward c frame timeout).2.roster = b.roster :=
  roster_onConnection (f := (·.lineUp b.nextKey)) fun _ _ => rfl

theorem roster_startSend (c : Nat) (frame : Bytes) (b : Broker) :
    (b.startSend c frame).2.roster = b.roster := by
  rw [startSend]
  split
  · exact roster_onConnection (f := (·.queueUp b.nextKey)) fun _ _ => rfl
  · rfl

theorem roster_receive (r : Web.Request) (b : Broker) : (b.receive r).2.roster = b.roster := by
  rw [receive]
  split
  · rfl
  · change (b.forward r.method r.headers r.body).2.roster = b.roster
    rw [forward]
    split
    · rfl
    · exact roster_startForward _ _ _ b

theorem roster_forwardTurn (id : Nat) (k : Call) (conn : Connection) (deadline : Nat)
    (timeout : Span) (b : Broker) :
    (b.forwardTurn id k conn deadline timeout).roster = b.roster := by
  rw [forwardTurn]
  dsimp only
  split
  · split
    · exact roster_onConnection fun _ _ => rfl
    · split <;> simp
  · split <;> simp
  · split
    · simp
    · exact roster_onConnection fun _ _ => rfl
  · split
    · simp
    · split
      · simp only [roster_proceedCall, roster_wakeSenders, roster_wakeTaker]
        exact roster_onConnection fun _ _ => rfl
      · rfl
  · split
    · simp
    · split
      · simp
      · split <;> simp
  · rw [roster_finishCall]
    exact roster_onConnection fun _ _ => rfl
  · rfl

theorem roster_sendTurn (id : Nat) (k : Call) (conn : Connection) (b : Broker) :
    (b.sendTurn id k conn).roster = b.roster := by
  rw [sendTurn]
  split
  · split
    · simp
    · split
      · simp only [roster_finishCall, roster_wakeSenders, roster_wakeTaker]
        exact roster_onConnection fun _ _ => rfl
      · rfl
  · rfl

theorem roster_callTurn (id : Nat) (b : Broker) : (b.callTurn id).roster = b.roster := by
  rw [callTurn]
  split
  · rfl
  · split
    · rfl
    · exact roster_forwardTurn ..
    · exact roster_sendTurn ..

theorem roster_abandon (id : Nat) (b : Broker) : (b.abandon id).roster = b.roster := by
  rw [abandon]
  split
  · rfl
  · rename_i k _
    simp only [roster_wakeSenders, roster_wakeTurn]
    exact roster_vacate k.connection id b

theorem roster_echoTurn (c : Nat) (b : Broker) : (b.echoTurn c).roster = b.roster := by
  rw [echoTurn]
  split
  · rfl
  · dsimp only
    split
    · split
      · rw [roster_again, roster_deliver]
        rfl
      · rfl
    · split
      · rfl
      · rename_i frame b' htake
        rw [roster_again, ← roster_take? htake]
        rfl

/-! ## Loops -/

theorem roster_setService (c : Nat) (s : Service) (b : Broker) :
    (b.setService c s).roster = { b.roster with services := replace c s b.services } := rfl

theorem replace_replace {α : Type} (key : Nat) (x y : α) (entries : List (Nat × α)) :
    replace key x (replace key y entries) = replace key x entries := by
  rw [replace, replace, replace, List.map_map]
  apply List.map_congr_left
  rintro ⟨i, z⟩ -
  by_cases hi : i = key <;> simp [hi]

theorem roster_detach (hconn : b.connection? c = some conn) :
    (b.detach c).roster = { b.roster with
      registry := (b.registry.deregister conn.id).2
      store := (b.store.saveProxy { id := conn.id, dead := true }).2 } := by
  rw [detach, hconn]
  rfl

theorem step_setService (hs : b.services.lookup c = some s) (htends : s.Tends s') :
    b.roster.Step e (b.setService c s').roster := .tend hs htends

theorem step_endWriting (hs : b.services.lookup c = some s) :
    b.roster.Step e (b.endWriting c s).roster := by
  rw [endWriting, roster_wake, roster_onConnection (f := Connection.cancel) fun _ _ => rfl,
    roster_stopTaking]
  refine step_setService hs ⟨?_, fun h => h⟩
  split <;> rfl

theorem step_endReading (hs : b.services.lookup c = some s) (hconn : b.connection? c = some conn)
    (htends : s.Tends s') (hopen : s.link.hasBroker = true) :
    b.roster.Step (.turn (.reader c)) (b.endReading c s').roster := by
  let s₁ := { s' with isReading := false }
  have hclosed : ((b.setService c s₁).close c).roster =
      { b.roster with services := replace c s₁ b.services } := by
    rw [roster_close, roster_setService]
  rw [endReading]
  dsimp only
  split
  · rw [hclosed]
    exact .tend hs ⟨htends.link, fun h => by cases h⟩
  · let s₂ := { s₁ with link := { s₁.link with hasBroker := false } }
    let b₁ := ((b.setService c s₁).close c).setService c s₂
    have hb₁ : b₁.roster = { b.roster with services := replace c s₂ b.services } := by
      rw [roster_setService, show ((b.setService c s₁).close c).services = replace c s₁ b.services
        from congrArg Roster.services hclosed, hclosed, replace_replace]
    have hnumber : (b₁.connection? c).map (·.id) = some conn.id := by
      have hsame := congrArg (fun r => r.number? c) hb₁
      exact hsame.trans (by simp [roster, number?, hconn])
    obtain ⟨conn₁, hconn₁, hid⟩ := Option.map_eq_some_iff.mp hnumber
    have hdetach := roster_detach hconn₁
    rw [hid, hb₁, show b₁.registry = b.registry from congrArg Roster.registry hb₁,
      show b₁.store = b.store from congrArg Roster.store hb₁] at hdetach
    rw [roster_onTime, hdetach]
    exact .detach rfl hs hopen rfl rfl (by simp [roster, number?, hconn])

theorem step_readerTurn (hsteady : b.roster.Steady) :
    b.roster.Step (.turn (.reader c)) (b.readerTurn c).roster := by
  rw [readerTurn]
  split
  · rename_i s conn hs hconn
    split
    · split
      · exact .stay
      · rename_i hgo
        simp only [Bool.or_eq_true, Bool.not_eq_true', not_or, Bool.not_eq_false] at hgo
        exact step_endReading hs hconn ⟨rfl, fun h => h⟩ hgo.2
    · rename_i hreads
      have hopen : s.link.hasBroker = true := hsteady c s hs (by simpa using hreads)
      split
      · exact step_endReading hs hconn ⟨rfl, fun h => h⟩ hopen
      · split
        · have hdeliver (payload : Bytes) :
              (b.deliver c payload).services.lookup c = some s := by
            rw [show (b.deliver c payload).services = b.services from
              congrArg Roster.services (roster_deliver c payload b), hs]
          dsimp only
          split
          · rw [← roster_deliver c _ b]
            exact step_setService (hdeliver _) ⟨rfl, fun h => h⟩
          · rw [← roster_deliver c _ b]
            exact step_setService (hdeliver _) ⟨rfl, fun h => h⟩
          · exact step_setService hs ⟨rfl, fun h => h⟩
          · exact step_setService hs ⟨rfl, fun h => h⟩
          · exact step_endReading hs hconn ⟨rfl, fun h => h⟩ hopen
        · dsimp only
          split
          · exact step_endReading hs hconn ⟨rfl, fun h => h⟩ hopen
          · exact .stay
  · exact .stay

theorem step_writerTurn (c : Nat) (b : Broker) : b.roster.Step e (b.writerTurn c).roster := by
  rw [writerTurn]
  split
  · rename_i s conn hs hconn
    split
    · exact .stay
    · split
      · exact step_endWriting hs
      · split
        · rename_i frame b' htake
          have hroster := roster_take? htake
          have hs' : b'.services.lookup c = some s := by
            rw [show b'.services = b.services from congrArg Roster.services hroster, hs]
          rw [← hroster]
          split
          · exact step_setService hs' ⟨rfl, fun h => h⟩
          · exact step_endWriting hs'
        · dsimp only
          split
          · split
            · exact step_setService hs ⟨rfl, fun h => h⟩
            · exact step_endWriting hs
          · exact .stay
  · exact .stay

/-! ## Events -/

/-- An event that the broker or its agents bring about: no connection is made or registered but
those of agents that come, and an agent cannot do anything at the broker's end of its link. -/
def Event.IsOrdinary : Event → Prop
  | .connect _ | .register _ | .deregister _ => False
  | .link _ f => ∀ link, (f link).hasBroker = link.hasBroker
  | _ => True

theorem roster_attach (hfresh : b.connection? b.nextKey = none) :
    b.attach.2.roster =
      { lastId := b.lastId + 1
        keys := b.roster.keys ++ [b.nextKey]
        number? := Function.update b.number? b.nextKey (some (b.lastId + 1))
        services := b.services ++ [(b.nextKey, { heard := b.now, start := b.now })]
        registry := b.registry.register (b.lastId + 1) b.nextKey
        store := (b.store.addProxy { id := b.lastId + 1 }).2 } := by
  have hnumber : b.attach.2.number? =
      Function.update b.number? b.nextKey (some (b.lastId + 1)) := by
    funext c
    by_cases hc : c = b.nextKey
    · subst hc
      rw [Function.update_self]
      exact congrArg (Option.map (·.id)) (connection?_addConnection hfresh (b.lastId + 1))
    · rw [Function.update_of_ne hc]
      exact congrArg (Option.map (·.id)) (connection?_addConnection_of_ne (b.lastId + 1) hc)
  rw [← hnumber]
  simp [roster, attach, addConnection, register, wake, onTime, now]

theorem step_happen (he : e.IsOrdinary) (hattach : e ≠ .attach) (hsteady : b.roster.Steady) :
    b.roster.Step e (b.happen e).roster := by
  have hstay {b' : Broker} (h : b'.roster = b.roster) : b.roster.Step e b'.roster := h ▸ .stay
  cases e with
  | turn o =>
      rw [happen, ← roster_beginTurn o b]
      cases o with
      | call id => exact hstay (roster_callTurn id _)
      | reader c => exact step_readerTurn hsteady
      | writer c => exact step_writerTurn c _
      | echo c => exact hstay (roster_echoTurn c _)
  | pass now => exact .stay
  | attach => exact absurd rfl hattach
  | link c f =>
      rw [happen, onLink]
      split
      · exact .stay
      · rename_i s hs
        exact step_setService hs ⟨he s.link, fun h => h⟩
  | connect id => cases he
  | echo c suffix delay => exact .stay
  | register c => cases he
  | deregister id => cases he
  | request r => exact hstay (roster_receive r b)
  | forward c frame timeout =>
      rw [happen]
      split
      · exact hstay (roster_startForward c frame timeout b)
      · exact .stay
  | send c frame => exact hstay (roster_startSend c frame b)
  | deliver c payload => exact hstay (roster_deliver c payload b)
  | cancel c => exact hstay (roster_cancel c b)
  | clear c => exact hstay (roster_clear c b)
  | take c =>
      rw [happen]
      split
      · rename_i htake
        exact hstay (roster_take? htake)
      · exact .stay
  | stopTaking c => exact hstay (roster_stopTaking c b)
  | abandon id => exact hstay (roster_abandon id b)

end Broker

end MapScout
