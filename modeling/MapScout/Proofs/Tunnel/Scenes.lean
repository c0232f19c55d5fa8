import MapScout.Proofs.Tunnel.Dialogue
import MapScout.Proofs.Tunnel.Effects

/-!
# One connection and its calls

An effect on a broker is at most one step for a connection and the calls that go through it.  So
what each step preserves holds of every connection in every run, from the moment on when it is made.
-/

namespace MapScout

open BrokerOwner (IsCall)

/-- A call that wants an answer has taken its turn and not given it up. -/
def Call.IsServed (k : Call) : Prop := k.limit.isSome = true ∧ k.stage.isServed = true

theorem Call.isServed_of_stage {k : Call} {stage : CallStage} (hlimit : k.limit.isSome = true)
    (hstage : k.stage = stage) (hserved : stage.isServed = true) : k.IsServed :=
  ⟨hlimit, hstage ▸ hserved⟩

theorem Call.not_isServed_of_inLine {k : Call} (h : k.stage = .inLine) : ¬ k.IsServed := by
  rintro ⟨-, hserved⟩
  rw [h] at hserved
  cases hserved

/-- A connection with the calls that go through it. -/
structure Scene where
  conn : Connection
  calls : Nat → Option Call
  time : Timeline BrokerOwner
  /-- The next key to be given out. -/
  next : Nat

namespace Scene

/-- A connection that has just been made. -/
structure IsNew (x : Scene) : Prop where
  line : x.conn.line = []
  senders : x.conn.senders = []
  slot : x.conn.slot = none
  answers : x.conn.answers = []
  calls : ∀ id k, x.calls id = some k → id < x.next ∧ k.isFinished = true

/-- Nobody who uses the connection is overlooked. -/
def Keeps (x x' : Scene) : Prop :=
  x.time.Spares (IsCall fun id => (x.calls id).isSome = true) x'.time

/-- What an effect can be to a connection. -/
inductive Step (x x' : Scene) : Prop where
  | quiet (hconn : x'.conn = x.conn) (hcalls : x'.calls = x.calls) (hnext : x.next ≤ x'.next)
      (htime : x.Keeps x')
  | touch {woken : List Nat} (htouched : x.conn.Touched x'.conn woken)
      (hcalls : x'.calls = x.calls) (hnext : x'.next = x.next) (htime : x.Keeps x')
      (hwoken : ∀ id ∈ woken, .call id ∈ x'.time.ready)
  | begin {k : Call} (hnew : x.calls x.next = none)
      (hbegins : k.Begins x.next x.time.now x.conn x'.conn)
      (hcalls : x'.calls = Function.update x.calls x.next (some k)) (hnext : x.next < x'.next)
      (htime : x.Keeps x') (hready : .call x.next ∈ x'.time.ready)
  | refuse {k : Call} (hnew : x.calls x.next = none) (hfinished : k.isFinished = true)
      (hconn : x'.conn = x.conn) (hcalls : x'.calls = Function.update x.calls x.next (some k))
      (hnext : x.next < x'.next) (htime : x.Keeps x')
  | go {id : Nat} {k : Call} {stage : CallStage} (hcall : x.calls id = some k)
      (hproceeds : k.Proceeds id x.conn x'.conn stage)
      (hcalls : x'.calls = Function.update x.calls id (some { k with stage }))
      (hnext : x'.next = x.next) (htime : x.time.Spares (IsCall (· ≠ id)) x'.time)
      (hown : .call id ∈ x'.time.ready ∨ ({ k with stage } : Call).MayWait id x'.conn x'.time)
      (hothers : ∀ i, i ≠ id → .call i ∈ x'.time.ready ∨ x.conn.KeepsWaiting x'.conn i)

/-- The caller of a call has gone away. -/
structure Leaves (id : Nat) (x x' : Scene) : Prop where
  known : (x.calls id).isSome = true
  conn : x'.conn = x.conn.vacate id
  calls : x'.calls = Function.update x.calls id none
  next : x'.next = x.next
  time : x.time.Spares (IsCall (· ≠ id)) x'.time
  others : ∀ i, i ≠ id → .call i ∈ x'.time.ready ∨ x.conn.KeepsWaiting x'.conn i

def pass (now : Nat) (x : Scene) : Scene := { x with time := x.time.advance now }

/-- Holds of every connection at first, and whatever happens. -/
structure Invariant (P : Scene → Prop) : Prop where
  new : ∀ x, x.IsNew → P x
  step : ∀ x x', x.Step x' → P x → P x'
  leave : ∀ id x x', Leaves id x x' → P x → P x'
  pass : ∀ now x, P x → P (x.pass now)

end Scene

namespace Broker

variable {b b' : Broker} {c id : Nat} {conn conn' : Connection}

def scene (c : Nat) (conn : Connection) (b : Broker) : Scene where
  conn
  calls := Dialogue.callsOf c b
  time := b.time
  next := b.nextKey

/-- If there is the connection, `P` holds of it. -/
def At (c : Nat) (P : Scene → Prop) (b : Broker) : Prop :=
  ∀ conn, b.connection? c = some conn → P (b.scene c conn)

theorem callsOf_eq_some {k : Call} :
    Dialogue.callsOf c b id = some k ↔ b.call? id = some k ∧ k.connection = c := by
  rw [Dialogue.callsOf, Option.filter_eq_some_iff]
  simp

theorem callsOf_eq_none_of_call? (h : b.call? id = none) : Dialogue.callsOf c b id = none := by
  rw [Dialogue.callsOf, h, Option.filter_none]

theorem spares_calls {t t' : Timeline BrokerOwner} (h : t.Spares (IsCall fun _ => True) t')
    (P : Nat → Prop) : t.Spares (IsCall P) t' := by
  apply h.mono
  rintro (id | c | c | c) hP
  · trivial
  all_goals exact hP

/-! ## The effects one by one -/

/-- Neither the connection nor its calls have changed. -/
theorem step_quiet (hconn : b.connection? c = some conn)
    (hcalls : Dialogue.callsOf c b' = Dialogue.callsOf c b) (hnext : b.nextKey ≤ b'.nextKey)
    (htime : (b.scene c conn).Keeps (b'.scene c conn)) :
    ∃ conn', b.connection? c = some conn' ∧ (b.scene c conn').Step (b'.scene c conn) :=
  ⟨conn, hconn, .quiet rfl hcalls hnext htime⟩

/-- A call that is not one of the connection's is of no concern to it. -/
theorem keeps_of_ne (h : b.time.Spares (IsCall (· ≠ id)) b'.time)
    (hid : Dialogue.callsOf c b id = none) : (b.scene c conn).Keeps (b'.scene c conn') := by
  apply h.mono
  rintro (i | c | c | c) hi
  · rintro rfl
    change (Dialogue.callsOf _ b i).isSome = true at hi
    rw [hid] at hi
    cases hi
  all_goals exact hi

theorem Aside.step {P : Nat → Prop} (h : b.Aside P b')
    (hP : ∀ id k, b.call? id = some k → (b.connection? k.connection).isSome → P id)
    (hconn' : b'.connection? c = some conn') :
    ∃ conn, b.connection? c = some conn ∧ (b.scene c conn).Step (b'.scene c conn') := by
  rw [h.connections] at hconn'
  refine step_quiet hconn' (Dialogue.callsOf_congr h.calls) (Nat.le_of_eq h.nextKey.symm) ?_
  apply h.time.mono
  rintro (id | c | c | c) hi
  · obtain ⟨k, hk⟩ := Option.isSome_iff_exists.mp hi
    obtain ⟨hcall, hkc⟩ := callsOf_eq_some.mp hk
    exact hP id k hcall (by rw [hkc, hconn']; rfl)
  all_goals exact hi

theorem step_connect (hb : b.Proper) {proxy : ProxyId} (h : (b.addConnection proxy).2.Quiet b')
    (hconn' : b'.connection? c = some conn') :
    (b.connection? c = none ∧ (b'.scene c conn').IsNew) ∨
      ∃ conn, b.connection? c = some conn ∧ (b.scene c conn).Step (b'.scene c conn') := by
  rw [h.connections] at hconn'
  have hcalls : Dialogue.callsOf c b' = Dialogue.callsOf c b := Dialogue.callsOf_congr h.calls
  have hnext : b.nextKey ≤ b'.nextKey := by
    rw [h.nextKey]
    exact Nat.le_succ _
  by_cases hc : c = b.nextKey
  · subst hc
    rw [connection?_addConnection hb.connection?_nextKey] at hconn'
    obtain rfl := Option.some.inj hconn'
    refine Or.inl ⟨hb.connection?_nextKey, rfl, rfl, rfl, rfl, fun id k hk => ?_⟩
    change Dialogue.callsOf _ b' id = some k at hk
    rw [hcalls] at hk
    obtain ⟨hcall, hkc⟩ := callsOf_eq_some.mp hk
    refine ⟨Nat.lt_of_lt_of_le (hb.calls id k hcall).known hnext, ?_⟩
    -- no call goes through a connection that has not been made
    by_contra hunfinished
    have hsome := (hb.calls id k hcall).connected (by simpa using hunfinished)
    rw [hkc, hb.connection?_nextKey] at hsome
    cases hsome
  · rw [connection?_addConnection_of_ne proxy hc] at hconn'
    exact Or.inr (step_quiet hconn' hcalls hnext (spares_calls h.time _))

theorem step_touch {c₀ : Nat} {conn₀ conn₁ : Connection} {woken : List Nat}
    (hconn₀ : b.connection? c₀ = some conn₀) (htouched : conn₀.Touched conn₁ woken)
    (h : (b.onConnection c₀ fun _ => conn₁).Quiet b')
    (hwoken : ∀ i ∈ woken, .call i ∈ b'.time.ready) (hconn' : b'.connection? c = some conn') :
    ∃ conn, b.connection? c = some conn ∧ (b.scene c conn).Step (b'.scene c conn') := by
  rw [h.connections] at hconn'
  have hcalls : Dialogue.callsOf c b' = Dialogue.callsOf c b :=
    Dialogue.callsOf_congr (h.calls.trans (funext (call?_onConnection _)))
  have hnext : b'.nextKey = b.nextKey := h.nextKey.trans (nextKey_onConnection _)
  have htime := h.time
  rw [time_onConnection] at htime
  by_cases hc : c = c₀
  · subst hc
    rw [connection?_onConnection hconn₀] at hconn'
    obtain rfl := Option.some.inj hconn'
    exact ⟨conn₀, hconn₀, .touch htouched hcalls hnext (spares_calls htime _) hwoken⟩
  · rw [connection?_onConnection_of_ne _ hc] at hconn'
    exact step_quiet hconn' hcalls (Nat.le_of_eq hnext.symm) (spares_calls htime _)

/-- The calls of a connection after a new call. -/
theorem callsOf_addCall (hb : b.Proper) (k : Call) (c : Nat) :
    Dialogue.callsOf c (b.addCall k).2 =
      if k.connection = c then Function.update (Dialogue.callsOf c b) b.nextKey (some k)
      else Dialogue.callsOf c b := by
  have hcall := call?_addCall hb.call?_nextKey k
  have hcalls (i : Nat) (hi : i ≠ b.nextKey) := call?_addCall_of_ne k hi
  split
  · rename_i hk
    exact Dialogue.callsOf_update hcall hcalls hk
  · rename_i hk
    exact Dialogue.callsOf_eq hcall hcalls hk (callsOf_eq_none_of_call? hb.call?_nextKey)

theorem step_begin (hb : b.Proper) {k : Call} {conn₀ conn₁ : Connection}
    (hconn₀ : b.connection? k.connection = some conn₀)
    (hbegins : k.Begins b.nextKey b.now conn₀ conn₁)
    (h : ((b.addCall k).2.onConnection k.connection fun _ => conn₁).Quiet b')
    (hready : .call b.nextKey ∈ b'.time.ready) (hconn' : b'.connection? c = some conn') :
    ∃ conn, b.connection? c = some conn ∧ (b.scene c conn).Step (b'.scene c conn') := by
  rw [h.connections] at hconn'
  have hconn₀' : (b.addCall k).2.connection? k.connection = some conn₀ := hconn₀
  have hcalls := Dialogue.callsOf_congr (c := c)
    (h.calls.trans (funext (call?_onConnection (b := (b.addCall k).2) _)))
  rw [callsOf_addCall hb] at hcalls
  have hnext : b'.nextKey = b.nextKey + 1 := h.nextKey.trans (nextKey_onConnection _)
  have htime : b.time.Spares (IsCall fun _ => True) b'.time := by
    have htime := h.time
    rwa [time_onConnection] at htime
  by_cases hc : k.connection = c
  · subst hc
    rw [if_pos rfl] at hcalls
    rw [connection?_onConnection hconn₀'] at hconn'
    obtain rfl := Option.some.inj hconn'
    refine ⟨conn₀, hconn₀, .begin (callsOf_eq_none_of_call? hb.call?_nextKey) hbegins hcalls ?_
      (spares_calls htime _) hready⟩
    change b.nextKey < b'.nextKey
    rw [hnext]
    exact Nat.lt_succ_self _
  · rw [if_neg hc] at hcalls
    rw [connection?_onConnection_of_ne _ (Ne.symm hc)] at hconn'
    exact step_quiet hconn' hcalls (by rw [hnext]; exact Nat.le_succ _) (spares_calls htime _)

theorem step_refuse (hb : b.Proper) {k : Call} (hfinished : k.isFinished = true)
    (hconn : b.connection? c = some conn) :
    ∃ conn', b.connection? c = some conn' ∧
      (b.scene c conn').Step ((b.addCall k).2.scene c conn) := by
  have hcalls := callsOf_addCall hb k c
  have htime : b.time.Spares (IsCall fun _ => True) (b.addCall k).2.time := .refl _ _
  by_cases hc : k.connection = c
  · rw [if_pos hc] at hcalls
    exact ⟨conn, hconn, .refuse (callsOf_eq_none_of_call? hb.call?_nextKey) hfinished rfl hcalls
      (Nat.lt_succ_self _) (spares_calls htime _)⟩
  · rw [if_neg hc] at hcalls
    exact step_quiet hconn hcalls (Nat.le_succ _) (spares_calls htime _)

theorem step_go {k : Call} {conn₀ conn₁ : Connection} {stage : CallStage}
    (hcall : b.call? id = some k) (hconn₀ : b.connection? k.connection = some conn₀)
    (hproceeds : k.Proceeds id conn₀ conn₁ stage) (h : b.Goes b' id k conn₀ conn₁ stage)
    (hconn' : b'.connection? c = some conn') :
    ∃ conn, b.connection? c = some conn ∧ (b.scene c conn).Step (b'.scene c conn') := by
  by_cases hc : k.connection = c
  · subst hc
    obtain rfl := Option.some.inj (h.connection.symm.trans hconn')
    exact ⟨conn₀, hconn₀, .go (callsOf_eq_some.mpr ⟨hcall, rfl⟩) hproceeds
      (Dialogue.callsOf_update h.call h.calls rfl) h.nextKey h.time h.own h.others⟩
  · have hnone : Dialogue.callsOf c b id = none := by
      rw [Dialogue.callsOf, hcall]
      simp [hc]
    rw [h.connections c (Ne.symm hc)] at hconn'
    exact step_quiet hconn' (Dialogue.callsOf_eq h.call h.calls hc hnone)
      (Nat.le_of_eq h.nextKey.symm) (keeps_of_ne h.time hnone)

/-- To each connection an effect is one step, if it was there before. -/
theorem Effect.step (hb : b.Proper) (h : b.Effect b') (hconn' : b'.connection? c = some conn') :
    (b.connection? c = none ∧ (b'.scene c conn').IsNew) ∨
      ∃ conn, b.connection? c = some conn ∧ (b.scene c conn).Step (b'.scene c conn') := by
  cases h with
  | aside hP h => exact Or.inr (h.step hP hconn')
  | connect proxy h => exact step_connect hb h hconn'
  | touch hconn htouched h hwoken => exact Or.inr (step_touch hconn htouched h hwoken hconn')
  | begin hconn hbegins h hready => exact Or.inr (step_begin hb hconn hbegins h hready hconn')
  | refuse hlimit hfinished h =>
      subst h
      exact Or.inr (step_refuse hb hfinished hconn')
  | go hcall hconn hproceeds h => exact Or.inr (step_go hcall hconn hproceeds h hconn')

/-- When a caller goes away, its connection loses a call, and for the others nothing happens. -/
theorem Drops.leaves {k : Call} (hcall : b.call? id = some k) (h : b.Drops b' id k)
    (hconn' : b'.connection? c = some conn') :
    ∃ conn, b.connection? c = some conn ∧
      ((b.scene c conn).Step (b'.scene c conn') ∨
        Scene.Leaves id (b.scene c conn) (b'.scene c conn')) := by
  by_cases hc : k.connection = c
  · subst hc
    rw [h.connection] at hconn'
    obtain ⟨conn, hconn, rfl⟩ := Option.map_eq_some_iff.mp hconn'
    refine ⟨conn, hconn, Or.inr ⟨?_, rfl, ?_, h.nextKey, h.time, fun i _ => h.others conn hconn i⟩⟩
    · exact Option.isSome_iff_exists.mpr ⟨k, callsOf_eq_some.mpr ⟨hcall, rfl⟩⟩
    · funext i
      change Dialogue.callsOf k.connection b' i = Function.update (Dialogue.callsOf _ b) id none i
      by_cases hi : i = id
      · rw [hi, Function.update_self]
        exact callsOf_eq_none_of_call? h.call
      · rw [Function.update_of_ne hi, Dialogue.callsOf, h.calls i hi, Dialogue.callsOf]
  · have hnone : Dialogue.callsOf c b id = none := by
      rw [Dialogue.callsOf, hcall]
      simp [hc]
    rw [h.connections c (Ne.symm hc)] at hconn'
    have hcalls : Dialogue.callsOf c b' = Dialogue.callsOf c b := by
      funext i
      by_cases hi : i = id
      · rw [hi, hnone]
        exact callsOf_eq_none_of_call? h.call
      · rw [Dialogue.callsOf, h.calls i hi, Dialogue.callsOf]
    obtain ⟨conn, hconn, hstep⟩ := step_quiet hconn' hcalls (Nat.le_of_eq h.nextKey.symm)
      (keeps_of_ne h.time hnone)
    exact ⟨conn, hconn, Or.inl hstep⟩

/-! ## Runs -/

variable {P : Scene → Prop}

theorem At.effects (hnew : ∀ x : Scene, x.IsNew → P x)
    (hstep : ∀ x x' : Scene, x.Step x' → P x → P x') (hb : b.Proper) (hP : b.At c P)
    (h : b.Effects b') : b'.At c P := by
  induction h with
  | refl => exact hP
  | @tail b₁ b₂ heffects heffect ih =>
      intro conn' hconn'
      obtain ⟨-, hx⟩ | ⟨conn, hconn, hx⟩ := heffect.step (Effects.proper hb heffects) hconn'
      · exact hnew _ hx
      · exact hstep _ _ hx (ih conn hconn)

theorem At.happen (hinv : Scene.Invariant P) (hb : b.Proper) (hP : b.At c P) (e : Event) :
    (b.happen e).At c P := by
  obtain heffects | ⟨now, rfl⟩ | ⟨id, k, rfl, hcall, hdrops⟩ := happen_cases hb e
  · exact hP.effects hinv.new hinv.step hb heffects
  · exact fun conn hconn => hinv.pass now _ (hP conn hconn)
  · intro conn' hconn'
    obtain ⟨conn, hconn, hx | hx⟩ := hdrops.leaves hcall hconn'
    · exact hinv.step _ _ hx (hP conn hconn)
    · exact hinv.leave id _ _ hx (hP conn hconn)

theorem At.run (hinv : Scene.Invariant P) (hb : b.Proper) (hP : b.At c P) (events : List Event) :
    (b.run events).At c P := by
  have hboth := run_induction (P := fun b => b.Proper ∧ b.At c P)
    (fun b e h => ⟨h.1.happen e, h.2.happen hinv h.1 e⟩) ⟨hb, hP⟩ events
  exact hboth.2

/-- Nothing is said of a connection that is not there. -/
theorem At.of_none (hnone : b.connection? c = none) : b.At c P := by
  intro conn hconn
  rw [hnone] at hconn
  cases hconn

theorem connection?_of_start {config : BrokerConfig} {store : Store}
    (h : start config store = .ok b) (c : Nat) : b.connection? c = none := by
  obtain ⟨store', lastId, rfl⟩ := exists_of_start h
  rfl

theorem Proper.run (hb : b.Proper) (events : List Event) : (b.run events).Proper :=
  run_induction (fun _ e h => h.happen e) hb events

end Broker

end MapScout
