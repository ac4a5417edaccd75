import SkynetCpp.DatabufferFifo
import SkynetCpp.ServiceCalls

namespace SkynetCpp

/-!
# The gate's data path

`_forward` and `dispatch_message` of `service_gate.cpp`, and the events that
change what they read: a chunk for a connection, a new receiver, a connection
that comes or goes.  The table index of the connection, which `hashid_lookup`
and its siblings compute, is part of an event.
-/

/-- `struct Connection`. -/
structure Connection where
  id : Int
  agent : UInt32
  client : UInt32
  buffer : Databuffer

/-- `struct Gate`. -/
structure Gate where
  watchdog : UInt32
  broker : UInt32
  client_tag : UInt32
  header_size : Int
  conn : Nat → Connection
  mp : Messagepool

/-- The data buffers of the gate's connections. -/
def Gate.bufs
    (gate : Gate)
    (c : Nat) : Databuffer :=
  (gate.conn c).buffer

/-- Write to one connection. -/
def Gate.modify
    (gate : Gate)
    (c : Nat)
    (change : Connection → Connection) : Gate :=
  { gate with conn := Function.update gate.conn c (change (gate.conn c)) }

/-- Write a connection's data buffer and the pool. -/
def Gate.setBuffer
    (gate : Gate)
    (c : Nat)
    (db : Databuffer)
    (mp : Messagepool) : Gate :=
  { gate.modify c (fun connection => { connection with buffer := db }) with
    mp := mp }

/-- The text `"%d data "` of a connection. -/
def watchdogText (id : Int) : List UInt8 :=
  (toString id ++ " data ").toUTF8.toList

/--
`_forward`; the calls carry what the array `temp` holds at the time, though
`ServiceSend` gets its address and the array is gone when `_forward` returns.
-/
def Gate.forward
    (gate : Gate)
    (c : Nat)
    (size : Int) : Except Fault (Gate × List ServiceCall) :=
  let connection := gate.conn c
  let fd := connection.id
  if fd ≤ 0 then
    -- socket error
    .ok (gate, [])
  else if gate.broker ≠ 0 then do
    let (temp, db, mp) ← databufferRead connection.buffer gate.mp size
    .ok (gate.setBuffer c db mp,
      [.serviceSend 0 gate.broker (gate.client_tag ||| kPtypeTagDontcopy) fd
        (some temp) (UInt64.ofInt size)])
  else if connection.agent ≠ 0 then do
    let (temp, db, mp) ← databufferRead connection.buffer gate.mp size
    .ok (gate.setBuffer c db mp,
      [.serviceSend connection.client connection.agent
        (gate.client_tag ||| kPtypeTagDontcopy) fd
        (some temp) (UInt64.ofInt size)])
  else if gate.watchdog ≠ 0 then do
    let text := watchdogText connection.id
    let (temp, db, mp) ← databufferRead connection.buffer gate.mp size
    .ok (gate.setBuffer c db mp,
      [.serviceSend 0 gate.watchdog (kPtypeText ||| kPtypeTagDontcopy) fd
        (some (text ++ temp)) (UInt64.ofInt (size + text.length))])
  else
    .ok (gate, [])

/-- The loop of `dispatch_message`. -/
def Gate.dispatchMessageLoop
    (c : Nat)
    (id : Int) : Nat → Gate → Except Fault (Gate × List ServiceCall)
  | 0, _ => .error .running
  | fuel + 1, gate => do
      let (size, db, mp) ←
        databufferReadheader (gate.conn c).buffer gate.mp gate.header_size
      let gate := gate.setBuffer c db mp
      if size < 0 then
        .ok (gate, [])
      else if size > 0 then
        if size ≥ 0x1000000 then do
          let (db, mp) ← databufferClear (gate.conn c).buffer gate.mp
          .ok (gate.setBuffer c db mp,
            [.socketClose id, .skynetError "Recv socket message > 16M"])
        else do
          let (gate, calls) ← gate.forward c size
          let gate :=
            gate.setBuffer c (databufferReset (gate.conn c).buffer) gate.mp
          let (gate, more) ← Gate.dispatchMessageLoop c id fuel gate
          .ok (gate, calls ++ more)
      else
        Gate.dispatchMessageLoop c id fuel gate

/--
`dispatch_message`.  A round of the loop that does not return takes a header
from the buffer or resets the one it has.
-/
def Gate.dispatchMessage
    (gate : Gate)
    (c : Nat)
    (id : Int)
    (data : List UInt8)
    (sz : Int) : Except Fault (Gate × List ServiceCall) := do
  let (db, mp) ← databufferPush (gate.conn c).buffer gate.mp data sz
  let gate := gate.setBuffer c db mp
  Gate.dispatchMessageLoop c id (db.size.toNat + 2) gate

/-- What happens to a gate between two of its messages. -/
inductive GateEvent where
  /-- A `kSocketTypeData` message for the connection. -/
  | data (c : Nat) (buffer : List UInt8)
  /-- The command `forward`, which ends in `_forward_agent`. -/
  | forward (c : Nat) (agentaddr clientaddr : UInt32)
  /-- The command `broker`. -/
  | broker (handle : UInt32)
  /-- A `kSocketTypeAccept` message that got the connection. -/
  | accept (c : Nat) (ud : Int)
  /-- A `kSocketTypeClose` or `kSocketTypeError` message for the connection. -/
  | close (c : Nat)
  deriving Repr, DecidableEq

/-- The gate's treatment of an event. -/
def Gate.handle
    (gate : Gate) : GateEvent → Except Fault (Gate × List ServiceCall)
  | .data c buffer =>
      gate.dispatchMessage c (gate.conn c).id buffer buffer.length
  | .forward c agentaddr clientaddr =>
      .ok (gate.modify c fun connection =>
        { connection with agent := agentaddr, client := clientaddr }, [])
  | .broker handle =>
      .ok ({ gate with broker := handle }, [])
  | .accept c ud =>
      .ok (gate.modify c fun connection => { connection with id := ud }, [])
  | .close c => do
      let (_, mp) ← databufferClear (gate.conn c).buffer gate.mp
      let closed : Connection :=
        { id := -1, agent := 0, client := 0, buffer := .zero }
      .ok ({ gate.modify c (fun _ => closed) with mp := mp }, [])

/-- One event of a run: the state it met, and the calls it made. -/
structure GateEntry where
  gate : Gate
  event : GateEvent
  calls : List ServiceCall

/-- Handle a sequence of events. -/
def Gate.run : Gate → List GateEvent → Except Fault (Gate × List GateEntry)
  | gate, [] => .ok (gate, [])
  | gate, event :: events => do
      let (next, calls) ← gate.handle event
      let (final, trace) ← next.run events
      .ok (final, { gate := gate, event := event, calls := calls } :: trace)

end SkynetCpp
