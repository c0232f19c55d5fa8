import MapScout.Proofs.Stock.Remains
import MapScout.Proofs.Tunnel.Run

/-!
# Brokers that differ in dead proxies

A broker looks at its store only when an agent connects or is gone, and whatever the store says
then, it goes on in the same way.  So two brokers whose stores differ only in the dead proxies that
are still kept do the same in every event.
-/

namespace MapScout.Broker

variable {b b' : Broker} {c id : Nat}

def withStore (store : Store) (b : Broker) : Broker := { b with store }

@[simp]
theorem now_withStore (store : Store) (b : Broker) : (b.withStore store).now = b.now := rfl

@[simp]
theorem config_withStore (store : Store) (b : Broker) :
    (b.withStore store).config = b.config := rfl

@[simp]
theorem services_withStore (store : Store) (b : Broker) :
    (b.withStore store).services = b.services := rfl

@[simp]
theorem echoes_withStore (store : Store) (b : Broker) :
    (b.withStore store).echoes = b.echoes := rfl

@[simp]
theorem connection?_withStore (store : Store) (b : Broker) (c : Nat) :
    (b.withStore store).connection? c = b.connection? c := rfl

@[simp]
theorem call?_withStore (store : Store) (b : Broker) (id : Nat) :
    (b.withStore store).call? id = b.call? id := rfl

/-- Something is done to a broker without a look at its store. -/
def Blind (f : Broker → Broker) : Prop := ∀ b store, f (b.withStore store) = (f b).withStore store

/-- Two brokers whose stores differ in their dead proxies only. -/
def Matches (b b' : Broker) : Prop := ∃ store, b' = b.withStore store ∧ b.store.Matches store

namespace Blind

theorem comp {f g : Broker → Broker} (hg : Blind g) (hf : Blind f) : Blind fun b => g (f b) := by
  intro b store
  dsimp only
  rw [hf b store, hg]

theorem onTime (f : Timeline BrokerOwner → Timeline BrokerOwner) : Blind (Broker.onTime f) :=
  fun _ _ => rfl

theorem wake (o : BrokerOwner) : Blind (Broker.wake o) := fun _ _ => rfl

theorem again (o : BrokerOwner) : Blind (Broker.again o) := fun _ _ => rfl

/-! ## Connections -/

theorem onConnection (c : Nat) (f : Connection → Connection) : Blind (Broker.onConnection c f) := by
  intro b store
  rw [Broker.onConnection, Broker.onConnection, connection?_withStore]
  split <;> rfl

theorem setService (c : Nat) (s : Service) : Blind (Broker.setService c s) := fun _ _ => rfl

theorem wakeTurn (c : Nat) : Blind (Broker.wakeTurn c) := by
  intro b store
  rw [Broker.wakeTurn, Broker.wakeTurn, connection?_withStore]
  split <;> rfl

theorem wakeSenders (c : Nat) : Blind (Broker.wakeSenders c) := by
  intro b store
  rw [Broker.wakeSenders, Broker.wakeSenders, connection?_withStore]
  generalize (b.connection? c).elim [] (·.senders) = senders
  induction senders generalizing b with
  | nil => rfl
  | cons id senders ih => exact ih (b.wake (.call id))

theorem wakeTaker (c : Nat) : Blind (Broker.wakeTaker c) := by
  intro b store
  rw [Broker.wakeTaker, Broker.wakeTaker, services_withStore, echoes_withStore]
  split
  · rfl
  · split <;> rfl

theorem deliver (c : Nat) (payload : Bytes) : Blind (Broker.deliver c payload) := by
  intro b store
  rw [Broker.deliver, Broker.deliver, connection?_withStore, onConnection]
  cases (b.connection? c).bind (·.slot) <;> rfl

theorem cancel (c : Nat) : Blind (Broker.cancel c) := by
  intro b store
  rw [Broker.cancel, Broker.cancel, onConnection, services_withStore]
  split <;> rfl

theorem clear (c : Nat) : Blind (Broker.clear c) := by
  intro b store
  rw [Broker.clear, Broker.clear, connection?_withStore, onConnection]
  cases (b.connection? c).bind (·.slot) <;> rfl

theorem close (c : Nat) : Blind (Broker.close c) := (clear c).comp (cancel c)

theorem stopTaking (c : Nat) : Blind (Broker.stopTaking c) :=
  (wakeSenders c).comp (onConnection c Connection.stopTaking)

theorem take? (c : Nat) (b : Broker) (store : Store) :
    (b.withStore store).take? c = (b.take? c).map fun (frame, b) => (frame, b.withStore store) := by
  rw [Broker.take?, Broker.take?, connection?_withStore]
  cases b.connection? c with
  | none => rfl
  | some conn =>
      cases htake : conn.take? with
      | none => simp [htake]
      | some taken =>
          simp only [htake, Option.bind_eq_bind, Option.bind_some, Option.pure_def, Option.map_some]
          rw [onConnection, wakeSenders]

theorem onLink (c : Nat) (f : Link → Link) : Blind (Broker.onLink c f) := by
  intro b store
  rw [Broker.onLink, Broker.onLink, services_withStore]
  split <;> rfl

/-! ## Calls -/

theorem startForward (c : Nat) (frame : Bytes) (timeout : Nat) :
    Blind fun b => (b.startForward c frame timeout).2 := by
  intro b store
  exact (wake _).comp (onConnection c (·.lineUp b.nextKey)) (b.addCall _).2 store

theorem startSend (c : Nat) (frame : Bytes) : Blind fun b => (b.startSend c frame).2 := by
  intro b store
  dsimp only
  rw [Broker.startSend, Broker.startSend, connection?_withStore]
  split
  · exact (wake _).comp (onConnection c (·.queueUp b.nextKey)) (b.addCall _).2 store
  · rfl

theorem receive (r : Web.Request) : Blind fun b => (b.receive r).2 := by
  intro b store
  have hlookup : (b.withStore store).lookup = b.lookup := rfl
  dsimp only
  rw [Broker.receive, Broker.receive]
  split
  · rfl
  · rw [Broker.forward, Broker.forward, hlookup]
    cases (agentOf r.headers).bind b.lookup with
    | error e => rfl
    | ok c => exact startForward c _ _ b store

theorem finishCall (id c : Nat) (result : Except TunnelError Bytes) :
    Blind (Broker.finishCall id c result) := by
  intro b store
  rw [Broker.finishCall, Broker.finishCall, onConnection]
  generalize b.onConnection c _ = b
  exact (wakeSenders c).comp (wakeTurn c)
    ((b.setStage id (.finished result b.now)).onTime (·.forget (.call id))) store

theorem proceedCall (id : Nat) (stage : CallStage) : Blind (Broker.proceedCall id stage) :=
  fun _ _ => rfl

theorem forwardTurn (id : Nat) (k : Call) (conn : Connection) (deadline : Nat) (timeout : Span) :
    Blind (Broker.forwardTurn id k conn deadline timeout) := by
  intro b store
  rw [Broker.forwardTurn, Broker.forwardTurn, now_withStore]
  dsimp only
  split
  · split
    · exact (proceedCall _ _).comp (onConnection _ _) b store
    · split
      · exact finishCall _ _ _ b store
      · rfl
  · split <;> rfl
  · split
    · rfl
    · exact (proceedCall _ _).comp (onConnection _ _) b store
  · split
    · rfl
    · split
      · exact (proceedCall _ _).comp ((wakeSenders _).comp
          ((wakeTaker _).comp (onConnection _ _))) b store
      · rfl
  · split
    · exact finishCall _ _ _ b store
    · split
      · exact finishCall _ _ _ b store
      · split
        · exact (proceedCall _ _).comp (cancel _) b store
        · rfl
  · exact (finishCall _ _ _).comp (onConnection _ _) b store
  · rfl

theorem sendTurn (id : Nat) (k : Call) (conn : Connection) :
    Blind (Broker.sendTurn id k conn) := by
  intro b store
  rw [Broker.sendTurn, Broker.sendTurn]
  split
  · split
    · exact finishCall _ _ _ b store
    · split
      · exact (finishCall _ _ _).comp ((wakeSenders _).comp
          ((wakeTaker _).comp (onConnection _ _))) b store
      · rfl
  · rfl

theorem callTurn (id : Nat) : Blind (Broker.callTurn id) := by
  intro b store
  rw [Broker.callTurn, Broker.callTurn, call?_withStore]
  split
  · rfl
  · rw [connection?_withStore]
    split
    · rfl
    · exact forwardTurn _ _ _ _ _ b store
    · exact sendTurn _ _ _ b store

theorem abandon (id : Nat) : Blind (Broker.abandon id) := by
  intro b store
  rw [Broker.abandon, Broker.abandon, call?_withStore]
  split
  · rfl
  · rename_i k _
    rw [onConnection]
    generalize b.onConnection k.connection _ = b
    exact (wakeSenders k.connection).comp (wakeTurn k.connection)
      (({ b with calls := b.calls.filter (·.1 != id) } : Broker).onTime (·.forget (.call id))) store

/-! ## Loops -/

theorem endWriting (c : Nat) (s : Service) : Blind (Broker.endWriting c s) := by
  intro b store
  rw [Broker.endWriting, Broker.endWriting, config_withStore]
  exact (wake _).comp ((onConnection _ _).comp ((stopTaking c).comp (setService _ _))) b store

theorem heard (c : Nat) (s : Service) : Blind (Broker.heard c s) := fun _ _ => rfl

theorem writerTurn (c : Nat) : Blind (Broker.writerTurn c) := by
  intro b store
  rw [Broker.writerTurn, Broker.writerTurn, services_withStore, connection?_withStore]
  split
  · split
    · rfl
    · split
      · exact endWriting _ _ b store
      · rw [take?, config_withStore, now_withStore]
        cases b.take? c with
        | some taken =>
            dsimp only [Option.map_some]
            split
            · rfl
            · exact endWriting _ _ taken.2 store
        | none =>
            dsimp only [Option.map_none]
            split
            · split
              · rfl
              · exact endWriting _ _ b store
            · rfl
  · rfl

theorem echoTurn (c : Nat) : Blind (Broker.echoTurn c) := by
  intro b store
  rw [Broker.echoTurn, Broker.echoTurn, echoes_withStore]
  split
  · rfl
  · rename_i e _
    rw [now_withStore, take?]
    dsimp only
    split
    · split
      · exact (again _).comp (deliver _ _)
          { b with echoes := replace c { e with pending := none } b.echoes } store
      · rfl
    · cases b.take? c <;> rfl

end Blind

namespace Matches

variable (h : b.Matches b')

include h

theorem blind {f : Broker → Broker} (hf : Blind f) : (f b).Matches (f b') := by
  obtain ⟨store, rfl, hstore⟩ := h
  have hself : f b = (f b).withStore b.store := hf b b.store
  have hkept : (f b).store = b.store := by
    rw [hself]
    rfl
  refine ⟨store, hf b store, ?_⟩
  rw [hkept]
  exact hstore

theorem attach : b.attach.2.Matches b'.attach.2 := by
  obtain ⟨store, rfl, hstore⟩ := h
  exact ⟨_, rfl, hstore.addProxy rfl⟩

theorem detach (c : Nat) : (b.detach c).Matches (b'.detach c) := by
  obtain ⟨store, rfl, hstore⟩ := h
  rw [Broker.detach, Broker.detach, connection?_withStore]
  split
  · exact ⟨store, rfl, hstore⟩
  · exact ⟨_, rfl, hstore.saveProxy rfl⟩

theorem endReading (c : Nat) (s : Service) : (b.endReading c s).Matches (b'.endReading c s) := by
  have hclosed (s : Service) : ((b.setService c s).close c).Matches ((b'.setService c s).close c) :=
    h.blind ((Blind.close c).comp (.setService c s))
  rw [Broker.endReading, Broker.endReading]
  dsimp only
  split
  · exact hclosed _
  · exact (((hclosed _).blind (.setService _ _)).detach c).blind (.onTime _)

theorem readerTurn (c : Nat) : (b.readerTurn c).Matches (b'.readerTurn c) := by
  obtain ⟨store, rfl, hstore⟩ := h
  have hb : b.Matches (b.withStore store) := ⟨store, rfl, hstore⟩
  rw [Broker.readerTurn, Broker.readerTurn, services_withStore, connection?_withStore]
  split
  · split
    · split
      · exact hb
      · exact hb.endReading ..
    · split
      · exact hb.endReading ..
      · split
        · split
          · exact hb.blind ((Blind.heard _ _).comp (.deliver _ _))
          · exact hb.blind ((Blind.heard _ _).comp (.deliver _ _))
          · exact hb.blind (.heard _ _)
          · exact hb.blind (.heard _ _)
          · exact hb.endReading ..
        · rw [config_withStore, now_withStore]
          dsimp only
          split
          · exact hb.endReading ..
          · exact ⟨store, rfl, hstore⟩
  · exact hb

theorem turn (o : BrokerOwner) : (b.turn o).Matches (b'.turn o) := by
  cases o with
  | call id => exact h.blind (.callTurn id)
  | reader c => exact h.readerTurn c
  | writer c => exact h.blind (.writerTurn c)
  | echo c => exact h.blind (.echoTurn c)

/-- Whatever happens to both alike, they go on to differ in dead proxies only. -/
theorem happen (e : Event) : (b.happen e).Matches (b'.happen e) := by
  have hblind (hf : Blind fun b => b.happen e) : (b.happen e).Matches (b'.happen e) := h.blind hf
  cases e with
  | turn o => exact (h.blind (.onTime _)).turn o
  | attach => exact h.attach
  | pass now => exact hblind (.onTime _)
  | link c f => exact hblind (.onLink c f)
  | connect id => exact hblind fun _ _ => rfl
  | echo c suffix delay => exact hblind fun _ _ => rfl
  | register c =>
      refine hblind fun b store => ?_
      simp only [Broker.happen, connection?_withStore]
      split <;> rfl
  | deregister id => exact hblind fun _ _ => rfl
  | request r => exact hblind (.receive r)
  | forward c frame timeout =>
      refine hblind fun b store => ?_
      dsimp only [Broker.happen]
      rw [connection?_withStore]
      split
      · exact Blind.startForward c frame timeout b store
      · rfl
  | send c frame => exact hblind (.startSend c frame)
  | deliver c payload => exact hblind (.deliver c payload)
  | cancel c => exact hblind (.cancel c)
  | clear c => exact hblind (.clear c)
  | take c =>
      refine hblind fun b store => ?_
      simp only [Broker.happen, Blind.take?]
      cases b.take? c <;> rfl
  | stopTaking c => exact hblind (.stopTaking c)
  | abandon id => exact hblind (.abandon id)

end Matches

end MapScout.Broker
