import SkynetCpp.ServiceCalls

namespace SkynetCpp

/-!
# The harbor service

The connections of `service_harbor.cpp` to the other harbors: messages to
remote handles go out through a slave's socket or wait in its queue, and the
bytes from its socket are taken apart into messages again.

A `std::string` object keeps its characters and a zero byte behind them; what
lies around them in memory is not the program's to know, and comes in through
`HarborUnknown`.
-/

def kDefaultQueueSize : Nat := 1024

/-- `sizeof(struct remote_message_header)`. -/
def kHeaderCookieLength : Int := 12

/-- `kRemoteMax`. -/
def kRemoteMax : Nat := 256

/-- `kStatusWait` to `kStatusDown`. -/
inductive HarborStatus where
  | wait
  | handshake
  | header
  | content
  | down
  deriving Repr, DecidableEq

/-- `struct remote_message_header`. -/
structure RemoteMessageHeader where
  source : UInt32
  destination : UInt32
  session : UInt32
  deriving Repr, DecidableEq

/-- `struct harbor_msg`. -/
structure HarborMsg where
  header : RemoteMessageHeader
  buffer : List UInt8
  size : Nat
  deriving Repr, DecidableEq

/-- `struct harbor_msg_queue`. -/
structure HarborMsgQueue where
  size : Nat
  head : Nat
  tail : Nat
  data : List HarborMsg
  deriving Repr, DecidableEq

/-- `struct slave`. -/
structure Slave where
  fd : Int
  queue : Option HarborMsgQueue
  status : HarborStatus
  length : Int
  read : Int
  size : List UInt8
  recv_buffer : List UInt8
  deriving Repr, DecidableEq

/-- `struct harbor`. -/
structure Harbor where
  id : Int
  slave : UInt32
  s : Nat → Slave

/-- Write to one slave. -/
def Harbor.modify
    (h : Harbor)
    (id : Nat)
    (change : Slave → Slave) : Harbor :=
  { h with s := Function.update h.s id (change (h.s id)) }

/-- What the harbor does: a call of the node, or of `forward_local_messsage`. -/
inductive HarborAction where
  | call (call : ServiceCall)
  /-- `forward_local_messsage`, with the `sz` bytes that `msg` points to. -/
  | forwardLocal (msg : List UInt8)
  deriving Repr, DecidableEq

/-- What the code meets in the rounds of a loop without having put it there. -/
structure HarborUnknown where
  /-- The memory around the characters of a string, by index from the first. -/
  memory : Nat → Int → UInt8
  /-- The result of `ServiceSend`. -/
  answer : Nat → Int
  /-- The memory behind an array on the stack. -/
  stack : List UInt8

/-- The characters that `std::string(const char *)` copies. -/
def cString (bytes : List UInt8) : List UInt8 :=
  bytes.takeWhile fun byte => byte ≠ 0

/-- Reading memory at an index from the first character of a string. -/
def stringAt
    (content : List UInt8)
    (memory : Int → UInt8)
    (index : Int) : UInt8 :=
  if 0 ≤ index ∧ index < content.length then
    content.getD index.toNat 0
  else if index = content.length then
    0
  else
    memory index

/-- The bytes from an index on. -/
def stringBytes
    (content : List UInt8)
    (memory : Int → UInt8)
    (start : Int)
    (count : Nat) : List UInt8 :=
  (List.range count).map fun i : Nat => stringAt content memory (start + i)

section Queue

/-- A zero `struct harbor_msg`. -/
def HarborMsg.zero : HarborMsg where
  header := { source := 0, destination := 0, session := 0 }
  buffer := []
  size := 0

/-- The growth of a full queue in `push_queue_msg`. -/
def growQueue (queue : HarborMsgQueue) : HarborMsgQueue where
  size := queue.size * 2
  head := 0
  tail := queue.size - 1
  data :=
    (List.range (queue.size - 1)).map
        (fun i => queue.data.getD ((i + queue.head) % queue.size) .zero) ++
      List.replicate (queue.size + 1) .zero

/-- `push_queue_msg`. -/
def pushQueueMsg
    (queue : HarborMsgQueue)
    (m : HarborMsg) : HarborMsgQueue :=
  let queue :=
    if (queue.tail + 1) % queue.size = queue.head then growQueue queue else queue
  { queue with
    data := queue.data.set queue.tail m
    tail := (queue.tail + 1) % queue.size }

/-- `pop_queue`. -/
def popQueue
    (queue : HarborMsgQueue) : Option HarborMsg × HarborMsgQueue :=
  if queue.head = queue.tail then
    (none, queue)
  else
    (some (queue.data.getD queue.head .zero),
      { queue with head := (queue.head + 1) % queue.size })

/-- `new_queue`. -/
def newQueue : HarborMsgQueue where
  size := kDefaultQueueSize
  head := 0
  tail := 0
  data := List.replicate kDefaultQueueSize .zero

end Queue

/-- `close_harbor`. -/
def closeHarbor
    (h : Harbor)
    (id : Nat) : Harbor × List HarborAction :=
  let fd := (h.s id).fd
  (h.modify id fun s =>
    { s with status := .down, fd := 0, queue := none },
    if fd ≠ 0 then [.call (.socketClose fd)] else [])

/-- `to_bigendian`. -/
def toBigendian (n : UInt32) : List UInt8 :=
  [(n >>> 24).toUInt8, (n >>> 16).toUInt8, (n >>> 8).toUInt8, n.toUInt8]

/-- `header_to_message`. -/
def headerToMessage (header : RemoteMessageHeader) : List UInt8 :=
  toBigendian header.source ++ toBigendian header.destination ++
    toBigendian header.session

/-- `from_bigendian`, on the four bytes in memory. -/
def fromBigendian (bytes : List UInt8) : UInt32 :=
  let byte (i : Nat) : Nat := (bytes.getD i 0).toNat
  UInt32.ofNat
    (byte 0 <<< 24 ||| byte 1 <<< 16 ||| byte 2 <<< 8 ||| byte 3)

/-- `message_to_header`. -/
def messageToHeader (message : List UInt8) : RemoteMessageHeader where
  source := fromBigendian (message.take 4)
  destination := fromBigendian ((message.drop 4).take 4)
  session := fromBigendian ((message.drop 8).take 4)

/--
`forward_local_messsage`, on the characters that `msg` points to.  The result
of `ServiceSend` is given.
-/
def forwardLocalMessage
    (h : Harbor)
    (content : List UInt8)
    (memory : Int → UInt8)
    (answer : Int)
    (sz : Int) : List HarborAction :=
  let cookie := stringBytes content memory (sz - kHeaderCookieLength) 12
  let header := messageToHeader cookie
  let type := header.destination >>> kHandleRemoteShift
  let destination :=
    (header.destination &&& kHandleMask) |||
      (UInt32.ofInt h.id <<< kHandleRemoteShift)
  let session := toInt32 header.session.toNat
  let msg :=
    stringBytes content memory 0 (sz - kHeaderCookieLength).toNat
  let sent : HarborAction :=
    .call (.serviceSend header.source destination
      (type ||| kPtypeTagDontcopy) session (some msg)
      (UInt64.ofInt (sz - kHeaderCookieLength)))
  if answer < 0 then
    let report : List HarborAction :=
      if type ≠ kPtypeError then
        [.call (.serviceSend destination header.source kPtypeError session
          none 0)]
      else
        []
    let text : String :=
      "Unknown destination :" ++ toString destination ++ " from :" ++
        toString header.source ++ " type(" ++ toString type ++ ")"
    sent :: report ++ [.call (.skynetError text)]
  else
    [sent]

/--
`send_remote`.  The variable-length array on the stack is turned into a string
up to its first zero byte, or past its end.
-/
def sendRemote
    (fd : Int)
    (buffer : List UInt8)
    (sz : Nat)
    (cookie : RemoteMessageHeader)
    (stack : List UInt8) : List HarborAction :=
  let sz_header := sz + 12
  if sz_header > 0xffffffff then
    [.call (.skynetError
      ("remote message from :" ++ toString cookie.source ++ " to :" ++
        toString cookie.destination ++ " is too large."))]
  else
    let sendbuf :=
      toBigendian (UInt32.ofNat sz_header) ++ buffer.take sz ++
        headerToMessage cookie
    [.call (.socketSendBuffer
      { id := fd
        type := .rawPointer
        buffer := cString (sendbuf ++ stack)
        sz := UInt64.ofNat (sz_header + 4) })]

/-- The loop of `dispatch_queue`; every round leaves a shorter queue. -/
def Harbor.dispatchQueueLoop
    (fd : Int)
    (stack : List UInt8) :
    Nat → HarborMsgQueue → Except Fault (List HarborAction)
  | 0, _ => .error .running
  | fuel + 1, queue =>
      match popQueue queue with
      | (none, _) => .ok []
      | (some m, queue) => do
          let later ← Harbor.dispatchQueueLoop fd stack fuel queue
          .ok (sendRemote fd m.buffer m.size m.header stack ++ later)

/-- `dispatch_queue`. -/
def Harbor.dispatchQueue
    (h : Harbor)
    (id : Nat)
    (stack : List UInt8) : Except Fault (Harbor × List HarborAction) :=
  let s := h.s id
  if s.fd = 0 then
    .error (.assertion "fd != 0")
  else
    match s.queue with
    | none => .ok (h, [])
    | some queue => do
        let actions ← Harbor.dispatchQueueLoop s.fd stack (queue.size + 1) queue
        .ok (h.modify id fun s => { s with queue := none }, actions)

/-- Where a case of the switch in `push_socket_data` leads. -/
inductive PushFlow where
  | returned
  /-- The next round, with the rest of the data. -/
  | next (buffer : List UInt8) (size : Int)
  deriving Repr, DecidableEq

/-- The result of a case: the harbor, what it did, and where it leads. -/
abbrev PushResult := Harbor × List HarborAction × PushFlow

/-- `case kStatusContent`. -/
def contentCase
    (h : Harbor)
    (id : Nat)
    (unknown : HarborUnknown)
    (round : Nat)
    (buffer : List UInt8)
    (size : Int) : PushResult :=
  let s := h.s id
  let need := s.length - s.read
  let recv_buffer := s.recv_buffer ++ cString buffer
  if size < need then
    (h.modify id fun s =>
      { s with recv_buffer := recv_buffer, read := s.read + size },
      [], .returned)
  else
    let msg :=
      stringBytes recv_buffer (unknown.memory round) 0 s.length.toNat
    let actions :=
      .forwardLocal msg ::
        forwardLocalMessage h recv_buffer (unknown.memory round)
          (unknown.answer round) s.length
    let h := h.modify id fun s =>
      { s with length := 0, read := 0, recv_buffer := [], status := .header }
    let size := size - need
    if size = 0 then
      (h, actions, .returned)
    else
      (h, actions, .next (buffer.drop need.toNat) size)

/-- `case kStatusHeader`, which goes through to the content. -/
def headerCase
    (h : Harbor)
    (id : Nat)
    (unknown : HarborUnknown)
    (round : Nat)
    (buffer : List UInt8)
    (size : Int) : PushResult :=
  let s := h.s id
  let need := 4 - s.read
  let received (count : Int) : List UInt8 :=
    s.size.take s.read.toNat ++ buffer.take count.toNat ++
      s.size.drop (s.read + count).toNat
  if size < need then
    (h.modify id fun s =>
      { s with size := received size, read := s.read + size },
      [], .returned)
  else
    let head := received need
    let byte (i : Nat) : UInt8 := head.getD i 0
    let buffer := buffer.drop need.toNat
    let size := size - need
    let h := h.modify id fun s => { s with size := head }
    if byte 0 ≠ 0 then
      let (h, closed) := closeHarbor h id
      (h,
        .call (.skynetError
          ("Message is too long from harbor " ++ toString id)) :: closed,
        .returned)
    else
      let length : Nat :=
        (byte 1).toNat <<< 16 ||| (byte 2).toNat <<< 8 ||| (byte 3).toNat
      let h := h.modify id fun s =>
        { s with length := length, read := 0, status := .content }
      if size = 0 then
        (h, [], .returned)
      else
        contentCase h id unknown round buffer size

/-- `case kStatusHandshake`, which goes through to the header. -/
def handshakeCase
    (h : Harbor)
    (id : Nat)
    (unknown : HarborUnknown)
    (round : Nat)
    (buffer : List UInt8)
    (size : Int) : Except Fault PushResult :=
  let remote_id := buffer.headD 0
  if (remote_id.toNat : Int) ≠ id then
    let text : String :=
      "Invalid shakehand id (" ++ toString id ++ ") from fd = " ++
        toString (h.s id).fd ++ " , harbor = " ++ toString remote_id
    let (h, closed) := closeHarbor h id
    .ok (h, .call (.skynetError text) :: closed, .returned)
  else do
    let buffer := buffer.drop 1
    let size := size - 1
    let h := h.modify id fun s => { s with status := .header }
    let (h, actions) ← h.dispatchQueue id unknown.stack
    if size = 0 then
      .ok (h, actions, .next buffer size)
    else
      let (h, later, flow) := headerCase h id unknown round buffer size
      .ok (h, actions ++ later, flow)

/-- The loop of `push_socket_data`; every round but the first takes a byte. -/
def pushSocketDataLoop
    (id : Nat)
    (unknown : HarborUnknown) :
    Nat → Harbor → List UInt8 → Int → Except Fault (Harbor × List HarborAction)
  | 0, _, _, _ => .error .running
  | round + 1, h, buffer, size => do
      let (h, actions, flow) ←
        match (h.s id).status with
        | .handshake => handshakeCase h id unknown round buffer size
        | .header => .ok (headerCase h id unknown round buffer size)
        | .content => .ok (contentCase h id unknown round buffer size)
        | .wait => .ok (h, [], .returned)
        | .down => .ok (h, [], .returned)
      match flow with
      | .returned => .ok (h, actions)
      | .next buffer size => do
          let (h, later) ← pushSocketDataLoop id unknown round h buffer size
          .ok (h, actions ++ later)

/-- The first slave with a descriptor. -/
def findSlave
    (h : Harbor)
    (fd : Int) : Option Nat :=
  (List.range kRemoteMax).find? fun i => i ≠ 0 ∧ (h.s i).fd = fd

/-- `push_socket_data`, for a `kSocketTypeData` message. -/
def pushSocketData
    (h : Harbor)
    (message : SkynetSocketMessage)
    (unknown : HarborUnknown) : Except Fault (Harbor × List HarborAction) :=
  if message.type ≠ 1 then
    .error (.assertion "message->type == kSocketTypeData")
  else
    match findSlave h message.id with
    | none =>
        .ok (h,
          [.call (.skynetError
            ("Invalid socket fd (" ++ toString message.id ++ ") data"))])
    | some id =>
        pushSocketDataLoop id unknown
          (max message.buffer.length message.ud.toNat + 2) h
          message.buffer message.ud

/-- `remote_send_handle`; the result tells whether the message is kept. -/
def remoteSendHandle
    (h : Harbor)
    (source destination : UInt32)
    (type : UInt32)
    (session : Int)
    (msg : List UInt8)
    (sz : Nat)
    (stack : List UInt8) : Bool × Harbor × List HarborAction :=
  let harbor_id := (destination >>> kHandleRemoteShift).toNat
  if (harbor_id : Int) = h.id then
    (true, h,
      [.call (.serviceSend source destination (type ||| kPtypeTagDontcopy)
        session (some (msg.take sz)) (UInt64.ofNat sz))])
  else
    let s := h.s harbor_id
    let header : RemoteMessageHeader :=
      { source := source
        destination :=
          (destination &&& kHandleMask) ||| (type <<< kHandleRemoteShift)
        session := UInt32.ofInt session }
    if s.fd = 0 ∨ s.status = .handshake then
      if s.status = .down then
        (false, h,
          [.call (.serviceSend destination source kPtypeError session none 0)])
      else
        let queue := s.queue.getD newQueue
        let pushed :=
          pushQueueMsg queue { header := header, buffer := msg, size := sz }
        (true, h.modify harbor_id fun s => { s with queue := some pushed }, [])
    else
      (false, h, sendRemote s.fd msg sz header stack)

end SkynetCpp
