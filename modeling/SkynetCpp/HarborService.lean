import SkynetCpp.HarborQueue
import SkynetCpp.Foundation.Buckets

namespace SkynetCpp

/-!
# The harbor service as a whole

The global names, the commands and the `mainloop` of `service_harbor.cpp`.  A
call of `send_remote` is kept as one call here, with the message it is given
and the slave it is made for; written out, the calls are the actions of the
functions on a slave's connection.
-/

/-- `kHashSize`. -/
def kHashSize : Nat := 4098

/-- `kGlobalNameLength`. -/
def kGlobalNameLength : Nat := 16

/-- `struct keyvalue`; `next` is the rest of the chain. -/
structure KeyValue where
  key : List UInt8
  hash : UInt32
  value : UInt32
  queue : Option HarborMsgQueue
  deriving Repr, DecidableEq

/-- `struct hashmap`. -/
structure Hashmap where
  node : Nat → List KeyValue

/-- `struct harbor` with its global names. -/
structure HarborService extends Harbor where
  map : Hashmap

/-- A call of `send_remote`, and the slave whose descriptor it uses. -/
structure RemoteSend where
  slave : Nat
  status : HarborStatus
  fd : Int
  message : HarborMsg
  deriving Repr, DecidableEq

/-- What the service does. -/
inductive HarborCall where
  | sendRemote (send : RemoteSend)
  | socketStart (fd : Int)
  | action (action : HarborAction)
  deriving Repr, DecidableEq

/-- The actions of a call on the node. -/
def HarborCall.actions
    (stack : List UInt8) : HarborCall → List HarborAction
  | .sendRemote send =>
      SkynetCpp.sendRemote send.fd send.message.buffer send.message.size
        send.message.header stack
  | .socketStart _ => []
  | .action made => [made]

section Hash

/-- One of the four words of a name. -/
def nameWord
    (name : List UInt8)
    (index : Nat) : UInt32 :=
  let byte (i : Nat) : UInt32 := (name.getD (4 * index + i) 0).toUInt32
  byte 0 ||| byte 1 <<< 8 ||| byte 2 <<< 16 ||| byte 3 <<< 24

/-- `ptr[0] ^ ptr[1] ^ ptr[2] ^ ptr[3]`. -/
def nameHash (name : List UInt8) : UInt32 :=
  nameWord name 0 ^^^ nameWord name 1 ^^^ nameWord name 2 ^^^ nameWord name 3

/-- What `strncmp` with `kGlobalNameLength` compares of a name. -/
def nameText (name : List UInt8) : List UInt8 :=
  cString (name.take kGlobalNameLength)

/-- `hash_search`. -/
def hashSearch
    (hash : Hashmap)
    (name : List UInt8) : Option KeyValue :=
  let h := nameHash name
  (hash.node (h.toNat % kHashSize)).find? fun node =>
    node.hash = h ∧ nameText node.key = nameText name

/-- `hash_insert`, with the new node. -/
def hashInsert
    (hash : Hashmap)
    (name : List UInt8) : KeyValue × Hashmap :=
  let h := nameHash name
  let node : KeyValue :=
    { key := name.take kGlobalNameLength, hash := h, value := 0, queue := none }
  (node,
    { node :=
        Function.update hash.node (h.toNat % kHashSize)
          (node :: hash.node (h.toNat % kHashSize)) })

/-- The node of a name, inserted when there is none. -/
def findOrInsert
    (hash : Hashmap)
    (name : List UInt8) : KeyValue × Hashmap :=
  match hashSearch hash name with
  | some node => (node, hash)
  | none => hashInsert hash name

/-- A write to the node that `hash_search` finds. -/
def Hashmap.modify
    (hash : Hashmap)
    (name : List UInt8)
    (change : KeyValue → KeyValue) : Hashmap where
  node :=
    Foundation.Buckets.modify
      (fun node : KeyValue => (node.hash, nameText node.key))
      (fun key => key.1.toNat % kHashSize)
      hash.node (nameHash name, nameText name) change

end Hash

namespace HarborService

/-- Write to one slave. -/
def modify
    (h : HarborService)
    (id : Nat)
    (change : Slave → Slave) : HarborService :=
  { h with toHarbor := h.toHarbor.modify id change }

/-- What a function on the slaves does to the service. -/
def lift
    (h : HarborService)
    (result : Harbor × List HarborAction) : HarborService × List HarborCall :=
  ({ h with toHarbor := result.1 }, result.2.map .action)

/-- `close_all_remotes`. -/
def closeAllRemotes (h : HarborService) : HarborService :=
  (List.range kRemoteMax).foldl
    (fun h id => if id = 0 then h else (h.lift (closeHarbor h.toHarbor id)).1) h

/-- `report_harbor_down`. -/
def reportHarborDown
    (h : HarborService)
    (id : Nat) : List HarborCall :=
  let down := ("D " ++ toString id).toUTF8.toList
  [.action (.call (.serviceSend 0 h.slave kPtypeText 0 (some down)
    (UInt64.ofNat down.length)))]

/-- The message with the low bits of its destination filled in. -/
def addressed
    (handle : UInt32)
    (m : HarborMsg) : HarborMsg :=
  { m with
    header :=
      { m.header with
        destination := m.header.destination ||| (handle &&& kHandleMask) } }

/-- `ServiceSend` of a queued message to a local handle. -/
def deliver
    (handle : UInt32)
    (m : HarborMsg) : HarborCall :=
  let type := m.header.destination >>> kHandleRemoteShift
  .action (.call (.serviceSend m.header.source handle
    (type ||| kPtypeTagDontcopy) (toInt32 m.header.session.toNat)
    (some (m.buffer.take m.size)) (UInt64.ofNat m.size)))

/-- The queue of a slave after a name's queue was moved or popped to it. -/
def joinQueue
    (waiting : Option HarborMsgQueue)
    (queue : HarborMsgQueue) : Except Fault HarborMsgQueue :=
  match waiting with
  | none => .ok queue
  | some waiting => do
      let (pushed, _) ← popLoop pushQueueMsg (queue.size + 1) queue waiting
      .ok pushed

/-- `dispatch_name_queue`, for a node with a queue. -/
def dispatchNameQueue
    (h : HarborService)
    (node : KeyValue)
    (queue : HarborMsgQueue) : Except Fault (HarborService × List HarborCall) :=
  let handle := node.value
  let harbor_id := (handle >>> kHandleRemoteShift).toNat
  let s := h.s harbor_id
  if s.fd = 0 then
    if s.status = .down then
      let text :=
        String.ofList ((nameText node.key).map fun byte => Char.ofNat byte.toNat)
      .ok (h, [.action (.call (.skynetError
        ("Drop message to " ++ text ++ " (in harbor " ++ toString harbor_id ++
          ")")))])
    else do
      let merged ← joinQueue s.queue queue
      if harbor_id = (h.slave >>> kHandleRemoteShift).toNat then
        let (calls, _) ←
          popLoop (fun calls m => calls ++ [deliver handle m])
            (merged.size + 1) merged []
        .ok (h.modify harbor_id fun s => { s with queue := none }, calls)
      else
        .ok (h.modify harbor_id fun s => { s with queue := some merged }, [])
  else do
    let send (m : HarborMsg) : HarborCall :=
      .sendRemote
        { slave := harbor_id
          status := s.status
          fd := s.fd
          message := addressed handle m }
    let (calls, _) ←
      popLoop (fun calls m => calls ++ [send m]) (queue.size + 1) queue []
    .ok (h, calls)

/-- `dispatch_queue`. -/
def dispatchQueue
    (h : HarborService)
    (id : Nat) : Except Fault (HarborService × List HarborCall) :=
  let s := h.s id
  if s.fd = 0 then
    .error (.assertion "fd != 0")
  else
    match s.queue with
    | none => .ok (h, [])
    | some queue => do
        let send (m : HarborMsg) : HarborCall :=
          .sendRemote
            { slave := id, status := s.status, fd := s.fd, message := m }
        let (calls, _) ←
          popLoop (fun calls m => calls ++ [send m]) (queue.size + 1) queue []
        .ok (h.modify id fun s => { s with queue := none }, calls)

/-- `case kStatusHandshake` of `push_socket_data`. -/
def handshakeCase
    (h : HarborService)
    (id : Nat)
    (unknown : HarborUnknown)
    (round : Nat)
    (buffer : List UInt8)
    (size : Int) :
    Except Fault (HarborService × List HarborCall × PushFlow) :=
  let remote_id := buffer.headD 0
  if (remote_id.toNat : Int) ≠ id then
    let text : String :=
      "Invalid shakehand id (" ++ toString id ++ ") from fd = " ++
        toString (h.s id).fd ++ " , harbor = " ++ toString remote_id
    let (h, closed) := h.lift (closeHarbor h.toHarbor id)
    .ok (h, .action (.call (.skynetError text)) :: closed, .returned)
  else do
    let buffer := buffer.drop 1
    let size := size - 1
    let h := h.modify id fun s => { s with status := .header }
    let (h, calls) ← h.dispatchQueue id
    if size = 0 then
      .ok (h, calls, .next buffer size)
    else
      let (slaves, later, flow) :=
        headerCase h.toHarbor id unknown round buffer size
      .ok ({ h with toHarbor := slaves }, calls ++ later.map .action, flow)

/-- The loop of `push_socket_data`. -/
def pushSocketDataLoop
    (id : Nat)
    (unknown : HarborUnknown) :
    Nat → HarborService → List UInt8 → Int →
      Except Fault (HarborService × List HarborCall)
  | 0, _, _, _ => .error .running
  | round + 1, h, buffer, size => do
      let onSlaves (result : PushResult) :
          HarborService × List HarborCall × PushFlow :=
        ({ h with toHarbor := result.1 }, result.2.1.map .action, result.2.2)
      let (h, calls, flow) ←
        match (h.s id).status with
        | .handshake => handshakeCase h id unknown round buffer size
        | .header =>
            .ok (onSlaves (headerCase h.toHarbor id unknown round buffer size))
        | .content =>
            .ok (onSlaves (contentCase h.toHarbor id unknown round buffer size))
        | .wait => .ok (h, [], .returned)
        | .down => .ok (h, [], .returned)
      match flow with
      | .returned => .ok (h, calls)
      | .next buffer size => do
          let (h, later) ← pushSocketDataLoop id unknown round h buffer size
          .ok (h, calls ++ later)

/-- `push_socket_data`. -/
def pushSocketData
    (h : HarborService)
    (message : SkynetSocketMessage)
    (unknown : HarborUnknown) : Except Fault (HarborService × List HarborCall) :=
  if message.type ≠ 1 then
    .error (.assertion "message->type == kSocketTypeData")
  else
    match findSlave h.toHarbor message.id with
    | none =>
        .ok (h,
          [.action (.call (.skynetError
            ("Invalid socket fd (" ++ toString message.id ++ ") data")))])
    | some id =>
        pushSocketDataLoop id unknown
          (max message.buffer.length message.ud.toNat + 2) h
          message.buffer message.ud

/-- `update_name`. -/
def updateName
    (h : HarborService)
    (name : List UInt8)
    (handle : UInt32) : Except Fault (HarborService × List HarborCall) :=
  let (node, map) := findOrInsert h.map name
  let node := { node with value := handle }
  let h := { h with map := map.modify name fun node => { node with value := handle } }
  match node.queue with
  | none => .ok (h, [])
  | some queue => do
      let (h, calls) ← h.dispatchNameQueue node queue
      .ok
        ({ h with map := h.map.modify name fun node => { node with queue := none } },
          calls)

/-- The header that a message by handle gets. -/
def handleHeader
    (source destination type : UInt32)
    (session : Int) : RemoteMessageHeader where
  source := source
  destination := (destination &&& kHandleMask) ||| (type <<< kHandleRemoteShift)
  session := UInt32.ofInt session

/-- `remote_send_handle`; the result tells whether the message is kept. -/
def remoteSendHandle
    (h : HarborService)
    (source destination type : UInt32)
    (session : Int)
    (msg : List UInt8)
    (sz : Nat) : Bool × HarborService × List HarborCall :=
  let harbor_id := (destination >>> kHandleRemoteShift).toNat
  if (harbor_id : Int) = h.id then
    (true, h,
      [.action (.call (.serviceSend source destination
        (type ||| kPtypeTagDontcopy) session (some (msg.take sz))
        (UInt64.ofNat sz)))])
  else
    let s := h.s harbor_id
    let m : HarborMsg :=
      { header := handleHeader source destination type session
        buffer := msg
        size := sz }
    if s.fd = 0 ∨ s.status = .handshake then
      if s.status = .down then
        (false, h,
          [.action (.call (.serviceSend destination source kPtypeError session
            none 0))])
      else
        let pushed := pushQueueMsg (s.queue.getD newQueue) m
        (true, h.modify harbor_id fun s => { s with queue := some pushed }, [])
    else
      (false, h,
        [.sendRemote
          { slave := harbor_id, status := s.status, fd := s.fd, message := m }])

/-- The message that waits for a name, its destination still without a handle. -/
def unaddressed
    (source type : UInt32)
    (session : Int)
    (msg : List UInt8)
    (sz : Nat) : HarborMsg where
  header :=
    { source := source
      destination := type <<< kHandleRemoteShift
      session := UInt32.ofInt session }
  buffer := msg
  size := sz

/-- `remote_send_name`; the result tells whether the message is kept. -/
def remoteSendName
    (h : HarborService)
    (source : UInt32)
    (name : List UInt8)
    (type : UInt32)
    (session : Int)
    (msg : List UInt8)
    (sz : Nat) : Bool × HarborService × List HarborCall :=
  let (node, map) := findOrInsert h.map name
  let h := { h with map := map }
  if node.value = 0 then
    let pushed :=
      pushQueueMsg (node.queue.getD newQueue)
        (unaddressed source type session msg sz)
    let query := "Q ".toUTF8.toList ++ nameText name
    (true,
      { h with map := h.map.modify name fun node => { node with queue := some pushed } },
      [.action (.call (.serviceSend 0 h.slave kPtypeText 0 (some query)
        (UInt64.ofNat query.length)))])
  else
    h.remoteSendHandle source node.value type session msg sz

/-- `handshake`; the byte on the stack is turned into a string. -/
def handshake
    (h : HarborService)
    (id : Nat)
    (stack : List UInt8) : List HarborCall :=
  [.action (.call (.socketSendBuffer
    { id := (h.s id).fd
      type := .rawPointer
      buffer := cString (UInt8.ofInt h.id :: stack)
      sz := 1 }))]

end HarborService

section Scan

/-- `isspace`. -/
def isSpace (byte : UInt8) : Bool :=
  byte = 32 ∨ 9 ≤ byte ∧ byte ≤ 13

/-- The decimal digits in front of a text, and the rest. -/
def scanDigits : List UInt8 → Nat → Nat × List UInt8
  | [], value => (value, [])
  | byte :: rest, value =>
      if 48 ≤ byte ∧ byte ≤ 57 then
        scanDigits rest (value * 10 + (byte.toNat - 48))
      else
        (value, byte :: rest)

/-- Whether a text starts with a digit. -/
def startsWithDigit : List UInt8 → Bool
  | [] => false
  | byte :: _ => 48 ≤ byte ∧ byte ≤ 57

/-- What a decimal conversion of `sscanf` reads: a sign, a number and the rest. -/
def scanNumber (text : List UInt8) : Option (Bool × Nat × List UInt8) :=
  let text := text.dropWhile isSpace
  let negative := text.head? = some 45
  let digits := if negative ∨ text.head? = some 43 then text.drop 1 else text
  if startsWithDigit digits then
    some (negative, scanDigits digits 0)
  else
    none

/-- The value that `%d` stores. -/
def scannedInt
    (negative : Bool)
    (value : Nat) : Int :=
  if negative then
    toInt32 (-(min value (2 ^ 63) : Nat))
  else
    toInt32 (min value (2 ^ 63 - 1) : Nat)

/-- `sscanf(text, "%d %d", &first, &second)`, both zero before. -/
def scanInts (text : List UInt8) : Int × Int :=
  match scanNumber text with
  | none => (0, 0)
  | some (negative, first, rest) =>
      match scanNumber rest with
      | none => (scannedInt negative first, 0)
      | some (negative', second, _) =>
          (scannedInt negative first, scannedInt negative' second)

end Scan

namespace HarborService

/-- `case 'S'` and `case 'A'` of `harbor_command`. -/
def connectCommand
    (h : HarborService)
    (accepted : Bool)
    (name : List UInt8)
    (stack : List UInt8) : Except Fault (HarborService × List HarborCall) :=
  let (fd, id) := scanInts (cString name)
  if fd = 0 ∨ id ≤ 0 ∨ (kRemoteMax : Int) ≤ id then
    .ok (h, [])
  else
    let id := id.toNat
    if (h.s id).fd ≠ 0 then
      .ok (h, [])
    else
      let h := h.modify id fun s => { s with fd := fd }
      let calls := .socketStart fd :: h.handshake id stack
      if accepted then do
        let h := h.modify id fun s => { s with status := .header }
        let (h, later) ← h.dispatchQueue id
        .ok (h, calls ++ later)
      else
        .ok (h.modify id fun s => { s with status := .handshake }, calls)

/--
`harbor_command`.  For a command of one byte, `S` and `A` copy `(size_t)-1`
bytes.
-/
def harborCommand
    (h : HarborService)
    (msg : List UInt8)
    (source : UInt32)
    (stack : List UInt8) : Except Fault (HarborService × List HarborCall) :=
  let name := msg.drop 2
  let s : Int := msg.length - 2
  match msg.headD 0 with
  | 78 =>
      if s ≤ 0 ∨ (kGlobalNameLength : Int) ≤ s then
        .ok (h, [])
      else
        h.updateName
          (name ++ List.replicate (kGlobalNameLength - name.length) 0) source
  | 83 =>
      if s < 0 then .error .nullPointer else h.connectCommand false name stack
  | 65 =>
      if s < 0 then .error .nullPointer else h.connectCommand true name stack
  | _ => .ok (h, [])

end HarborService

/-- A message that the harbor's `mainloop` gets, by its type. -/
inductive HarborMessage where
  /-- `kPtypeSocket`. -/
  | socket (message : SkynetSocketMessage)
  /-- `kPtypeHarbor`. -/
  | harbor (msg : List UInt8)
  /-- `kPtypeSystem`. -/
  | system (rmsg : RemoteMessage)
  | other (type : UInt32)
  deriving Repr, DecidableEq

namespace HarborService

/-- `mainloop`, which always returns 0. -/
def mainloop
    (h : HarborService)
    (msg : HarborMessage)
    (session : Int)
    (source : UInt32)
    (unknown : HarborUnknown) : Except Fault (HarborService × List HarborCall) :=
  match msg with
  | .socket message =>
      -- kSocketTypeData, kSocketTypeClose and kSocketTypeError
      if message.type = 1 then
        h.pushSocketData message unknown
      else if message.type = 3 ∨ message.type = 5 then
        match findSlave h.toHarbor message.id with
        | some id => .ok (h, h.reportHarborDown id)
        | none =>
            .ok (h,
              [.action (.call (.skynetError
                ("Unkown fd (" ++ toString message.id ++ ") closed")))])
      else
        .ok (h, [])
  | .harbor msg => h.harborCommand msg source unknown.stack
  | .system rmsg =>
      let type := UInt32.ofInt rmsg.type
      let message := rmsg.message.getD []
      if rmsg.destination.handle = 0 then
        .ok (h.remoteSendName source rmsg.destination.name type session message
          rmsg.sz.toNat).2
      else
        .ok (h.remoteSendHandle source rmsg.destination.handle type session
          message rmsg.sz.toNat).2
  | .other type =>
      if session ≠ 0 ∧ type ≠ kPtypeError then
        .ok (h,
          [.action (.call (.serviceSend 0 source kPtypeError session none 0))])
      else
        .ok (h, [])

/-- A slave after `memset`. -/
def noSlave : Slave where
  fd := 0
  queue := none
  status := .wait
  length := 0
  read := 0
  size := [0, 0, 0, 0]
  recv_buffer := []

/-- `harbor_create` and `harbor_init`, with the two numbers of its arguments. -/
def harborInit
    (harbor_id : Int)
    (slave : UInt32) : Option HarborService :=
  if slave = 0 then
    none
  else
    let h : HarborService :=
      { id := harbor_id
        slave := slave
        s := fun _ => noSlave
        map := { node := fun _ => [] } }
    some (if harbor_id = 0 then h.closeAllRemotes else h)

end HarborService

end SkynetCpp
