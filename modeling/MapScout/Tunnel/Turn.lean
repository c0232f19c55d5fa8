import MapScout.Tunnel.Broker
/-!
# Turns of the broker

How calls and loops go on.  What somebody waits for is looked at before the moment until which it is
waited for.  Room in the queue is waited for without any such moment.
-/

namespace MapScout.Broker

/-! ## Calls -/

/-- Ends a call; the next in line has its turn. -/
def finishCall (id c : Nat) (result : Except TunnelError Bytes) (b : Broker) : Broker :=
  let b := b.onConnection c fun conn => ((conn.leaveLine id).leaveQueue id).forget id
  (((b.setStage id (.finished result b.now)).onTime (·.forget (.call id))).wakeTurn c).wakeSenders c

/-- Lets a call go on in a new stage before anybody else takes a turn. -/
def proceedCall (id : Nat) (stage : CallStage) (b : Broker) : Broker :=
  (b.setStage id stage).again (.call id)

/-- A turn of a call that wants an answer within `timeout`, until `deadline`. -/
def forwardTurn (id : Nat) (k : Call) (conn : Connection) (deadline : Nat) (timeout : Span)
    (b : Broker) : Broker :=
  let c := k.connection
  let fail (e : TunnelError) : Broker := b.proceedCall id (.withdrawing e)
  match k.stage with
  | .inLine =>
    if conn.hasTurn id then (b.onConnection c (·.arm id)).proceedCall id .armed
    else if deadline ≤ b.now then b.finishCall id c (.error (.timeout conn.id timeout))
    else b.alarm deadline (.call id)
  | .armed =>
    if conn.isClosed then fail (.disconnected conn.id) else b.proceedCall id .admitted
  | .admitted =>
    if conn.isClosed then fail (.disconnected conn.id)
    else (b.onConnection c (·.queueUp id)).proceedCall id .sending
  | .sending =>
    if !conn.isTaken then fail (.disconnected conn.id)
    else if conn.canSend id then
      (((b.onConnection c (·.send id k.frame)).wakeTaker c).wakeSenders c).proceedCall id .sent
    else b
  | .sent =>
    match conn.answer? id with
    | some payload => b.finishCall id c (.ok payload)
    | none =>
      if !conn.mayAnswer id then b.finishCall id c (.error (.disconnected conn.id))
      else if deadline ≤ b.now then
        (b.cancel c).proceedCall id (.withdrawing (.timeout conn.id timeout))
      else b.alarm deadline (.call id)
  | .withdrawing e => (b.onConnection c Connection.disarm).finishCall id c (.error e)
  | .finished .. => b

/-- A turn of a call that wants no answer. -/
def sendTurn (id : Nat) (k : Call) (conn : Connection) (b : Broker) : Broker :=
  let c := k.connection
  match k.stage with
  | .sending =>
    if !conn.isTaken then b.finishCall id c (.error (.disconnected conn.id))
    else if conn.canSend id then
      (((b.onConnection c (·.send id k.frame)).wakeTaker c).wakeSenders c).finishCall id c (.ok [])
    else b
  | _ => b

def callTurn (id : Nat) (b : Broker) : Broker :=
  match b.call? id with
  | none => b
  | some k =>
    match b.connection? k.connection, k.limit with
    | none, _ => b
    | some conn, some (deadline, timeout) => b.forwardTurn id k conn deadline timeout
    | some conn, none => b.sendTurn id k conn

/-- A call vanishes where it waits.  The slot that it has filled stays as it is. -/
def abandon (id : Nat) (b : Broker) : Broker :=
  match b.call? id with
  | none => b
  | some k =>
    let b := b.onConnection k.connection fun conn =>
      ((conn.leaveLine id).leaveQueue id).forget id
    let calls := b.calls.filter (·.1 != id)
    let b := ({ b with calls } : Broker).onTime (·.forget (.call id))
    (b.wakeTurn k.connection).wakeSenders k.connection

/-! ## Loops -/

/-- The reading loop has ended: the connection is closed, and when the writing loop has ended, too,
the agent is gone. -/
def endReading (c : Nat) (s : Service) (b : Broker) : Broker :=
  let s := { s with isReading := false }
  let b := (b.setService c s).close c
  if s.isWriting then b
  else
    ((b.setService c { s with link := { s.link with hasBroker := false } }).detach c).onTime
      fun time => (time.forget (.reader c)).forget (.writer c)

/-- The writing loop has ended: nobody takes frames any more, and the agent is told.  Where no silence
at all is allowed the loop never was there to tell it. -/
def endWriting (c : Nat) (s : Service) (b : Broker) : Broker :=
  let tells := s.link.hasAgent && !s.link.agentClosed && b.config.pongWait != 0
  let link := if tells then s.link.sendToAgent .close else s.link
  let b := (b.setService c { s with isWriting := false, link }).stopTaking c
  (b.onConnection c Connection.cancel).wake (.reader c)

/-- Goes on reading after a message. -/
def heard (c : Nat) (s : Service) (b : Broker) : Broker :=
  (b.setService c { s with heard := b.now }).again (.reader c)

def readerTurn (c : Nat) (b : Broker) : Broker :=
  match b.services.lookup c, b.connection? c with
  | some s, some conn =>
    if !s.isReading then (if s.isWriting || !s.link.hasBroker then b else b.endReading c s)
    else if conn.isClosed then b.endReading c s
    else
      match s.link.toBroker with
      | m :: rest =>
        let s := { s with link := { s.link with toBroker := rest } }
        match m with
        | .text payload | .binary payload => (b.deliver c payload).heard c s
        | .ping data => b.heard c { s with link := s.link.sendToAgent (.pong data) }
        | .pong _ => b.heard c s
        | .close => b.endReading c { s with link := s.link.sendToAgent .close }
      | [] =>
        let silence := s.heard + b.config.pongWait
        if !s.link.hasAgent || silence ≤ b.now then b.endReading c s
        else (b.onTime (·.clearAlarms (.reader c))).alarm silence (.reader c)
  | _, _ => b

/-- When the next ping is due: pings come at seven tenths of the longest silence. -/
def pingDue (pongWait : Nat) (s : Service) : Nat :=
  s.start + (7 * pongWait * (s.pings + 1) + 9) / 10

def writerTurn (c : Nat) (b : Broker) : Broker :=
  match b.services.lookup c, b.connection? c with
  | some s, some conn =>
    if !s.isWriting then b
    else if conn.isClosed then b.endWriting c s
    else
      match b.take? c with
      | some (frame, b) =>
        if s.link.hasAgent then
          (b.setService c { s with link := s.link.sendToAgent (.ofFrame frame) }).again (.writer c)
        else b.endWriting c s
      | none =>
        let due := pingDue b.config.pongWait s
        if due ≤ b.now then
          if s.link.hasAgent then
            (b.setService c { s with pings := s.pings + 1,
                                     link := s.link.sendToAgent (.ping []) }).again (.writer c)
          else b.endWriting c s
        else b.alarm due (.writer c)
  | _, _ => b

def echoTurn (c : Nat) (b : Broker) : Broker :=
  match b.echoes.lookup c with
  | none => b
  | some e =>
    let set (e : Echo) (b : Broker) : Broker := { b with echoes := replace c e b.echoes }
    match e.pending with
    | some (answer, due) =>
      if due ≤ b.now then ((set { e with pending := none } b).deliver c answer).again (.echo c)
      else b.alarm due (.echo c)
    | none =>
      match b.take? c with
      | none => b
      | some (frame, b) =>
        (set { e with pending := some (frame ++ e.suffix, b.now + e.delay) } b).again (.echo c)

/-- The turn of one part of the broker. -/
def turn (o : BrokerOwner) (b : Broker) : Broker :=
  match o with
  | .call id => b.callTurn id
  | .reader c => b.readerTurn c
  | .writer c => b.writerTurn c
  | .echo c => b.echoTurn c

instance : Timed Broker BrokerOwner where
  time := Broker.time
  setTime t b := { b with time := t }
  turn := Broker.turn

end MapScout.Broker
