import SkynetCpp.Message
import SkynetCpp.SocketOutcome
import SkynetCpp.SocketRuns

namespace SkynetCpp

open Foundation

/-!
# The addresses of datagrams

`GenUDPAddress` writes a sender's address, `UDPSocketAddress` reads it again and
`UDPSend` knows how long it is.  `UdpAddress`, which should take it out of a
message, returns nothing.
-/

variable {Worker : Type}

section Layout

/--
`union kSockaddrAll`.  Both addresses have their family and their port in front,
and the rest of `sockaddr_in` lies over that of `sockaddr_in6`.
-/
structure KSockaddrAll where
  sa_family : UInt16
  port : Vector UInt8 2
  rest : Vector UInt8 24
  deriving Repr, DecidableEq

/-- `AF_INET`. -/
def AF_INET : UInt16 := 2

/-- `AF_INET6`. -/
def AF_INET6 : UInt16 := 10

/-- `v4.sin_addr`. -/
def KSockaddrAll.sin_addr (sa : KSockaddrAll) : Vector UInt8 4 :=
  Vector.ofFn fun i => sa.rest[i.val]

/-- `v6.sin6_addr`, behind `sin6_flowinfo`. -/
def KSockaddrAll.sin6_addr (sa : KSockaddrAll) : Vector UInt8 16 :=
  Vector.ofFn fun i => sa.rest[4 + i.val]

/-- The size of the address that the union holds. -/
def KSockaddrAll.size (sa : KSockaddrAll) : Nat :=
  if sa.sa_family = AF_INET then 16 else 28

/-- The number of a protocol in its `enum class`. -/
def Protocol.toByte : Protocol → UInt8
  | .TCP => 0
  | .UDP => 1
  | .UDPv6 => 2
  | .UNKNOWN => 3

/-- `GenUDPAddress`: the bytes that it writes. -/
def genUDPAddress
    (protocol : Protocol)
    (sa : KSockaddrAll) : List UInt8 :=
  if protocol = .UDP then
    protocol.toByte :: (sa.port.toList ++ sa.sin_addr.toList)
  else
    protocol.toByte :: (sa.port.toList ++ sa.sin6_addr.toList)

/-- The bytes behind the type and the port of an address. -/
def addressByte
    (udp_address : List UInt8)
    (i : Nat) : UInt8 :=
  udp_address.getD (1 + 2 + i) 0

/-- `UDPSocketAddress`: the address that it fills in, if it does. -/
def udpSockaddr
    (protocol : Protocol)
    (udp_address : List UInt8) : Option KSockaddrAll :=
  let port : Vector UInt8 2 :=
    Vector.ofFn fun i => udp_address.getD (1 + i.val) 0
  if udp_address.getD 0 0 ≠ protocol.toByte then
    none
  else
    match protocol with
    | .UDP =>
        some
          { sa_family := AF_INET
            port := port
            rest := Vector.ofFn fun i =>
              if i.val < 4 then addressByte udp_address i.val else 0 }
    | .UDPv6 =>
        some
          { sa_family := AF_INET6
            port := port
            rest := Vector.ofFn fun i =>
              if 4 ≤ i.val ∧ i.val < 20 then
                addressByte udp_address (i.val - 4)
              else 0 }
    | _ => none

/-- The size that `UDPSocketAddress` returns is that of what it fills in. -/
theorem udpSocketAddress_eq
    (protocol : Protocol)
    (udp_address : List UInt8) :
    udpSocketAddress protocol udp_address =
      ((udpSockaddr protocol udp_address).map KSockaddrAll.size).getD 0 := by
  unfold udpSocketAddress udpSockaddr
  generalize udp_address.getD 0 0 = type
  cases protocol with
  | TCP | UNKNOWN =>
      simp
  | UDP =>
      by_cases isOne : type = 1
      · rw [isOne]
        rfl
      · simp [isOne, Protocol.toByte]
  | UDPv6 =>
      by_cases isTwo : type = 2
      · rw [isTwo]
        rfl
      · simp [isTwo, Protocol.toByte]

/-- Who sent a datagram. -/
inductive Endpoint where
  | v4 (port : Vector UInt8 2) (address : Vector UInt8 4)
  | v6 (port : Vector UInt8 2) (address : Vector UInt8 16)
  deriving Repr, DecidableEq

/-- The endpoint that an address is about. -/
def KSockaddrAll.endpoint (sa : KSockaddrAll) : Option Endpoint :=
  if sa.sa_family = AF_INET then
    some (.v4 sa.port sa.sin_addr)
  else if sa.sa_family = AF_INET6 then
    some (.v6 sa.port sa.sin6_addr)
  else
    none

/-- The protocol of the sockets that datagrams come to from an endpoint. -/
def Endpoint.protocol : Endpoint → Protocol
  | .v4 .. => .UDP
  | .v6 .. => .UDPv6

/-- The endpoint that `UDPSocketAddress` reads from an address. -/
def destination
    (protocol : Protocol)
    (udp_address : List UInt8) : Option Endpoint :=
  (udpSockaddr protocol udp_address).bind KSockaddrAll.endpoint

end Layout

section RoundTrip

/-- What all that is known of the layout agrees on for an address. -/
structure Agree
    (sa : KSockaddrAll)
    (sender : Endpoint) : Prop where
  length :
    (genUDPAddress sender.protocol sa).length =
      if sender.protocol = .UDP then 7 else 19
  fits : (genUDPAddress sender.protocol sa).length ≤ kUdpAddressSize
  same :
    destination sender.protocol (genUDPAddress sender.protocol sa) =
      some sender
  other :
    ∀ protocol, protocol ≠ sender.protocol →
      udpSocketAddress protocol (genUDPAddress sender.protocol sa) = 0
  table :
    udpAddressSize ((genUDPAddress sender.protocol sa).getD 0 0) =
      (genUDPAddress sender.protocol sa).length

variable
    {sa : KSockaddrAll}
    {sender : Endpoint}

theorem genUDPAddress_length
    (protocol : Protocol)
    (sa : KSockaddrAll) :
    (genUDPAddress protocol sa).length =
      if protocol = .UDP then 7 else 19 := by
  rw [genUDPAddress]
  split <;> simp

/-- The type of an address is the protocol. -/
theorem genUDPAddress_type
    (protocol : Protocol)
    (sa : KSockaddrAll) :
    (genUDPAddress protocol sa).getD 0 0 = protocol.toByte := by
  rw [genUDPAddress]
  split <;> rfl

theorem Protocol.toByte_inj
    {first second : Protocol}
    (same : first.toByte = second.toByte) :
    first = second := by
  cases first <;> cases second <;> first | rfl | cases same

/-- A socket of another protocol takes no address. -/
theorem udpSockaddr_other
    {protocol other : Protocol}
    (isOther : other ≠ protocol) :
    udpSockaddr other (genUDPAddress protocol sa) = none := by
  unfold udpSockaddr
  rw [genUDPAddress_type]
  exact if_pos fun same => isOther (Protocol.toByte_inj same.symm)

/-- A byte of the port. -/
theorem genUDPAddress_port
    (protocol : Protocol)
    (sa : KSockaddrAll)
    (i : Fin 2) :
    (genUDPAddress protocol sa).getD (1 + i.val) 0 = sa.port[i] := by
  have inPort : i.val < sa.port.toList.length := by
    rw [Vector.length_toList]
    exact i.isLt
  have isByte : sa.port.toList.getD i.val 0 = sa.port[i] := by
    rw [List.getD_eq_getElem _ _ inPort, Vector.getElem_toList]
    rfl
  rw [genUDPAddress, Nat.add_comm]
  split <;>
    rw [List.getD_cons_succ, List.getD_append _ _ _ _ inPort, isByte]

/-- A byte of an IPv4 address. -/
theorem genUDPAddress_v4
    (sa : KSockaddrAll)
    (i : Fin 4) :
    addressByte (genUDPAddress .UDP sa) i.val = sa.sin_addr[i] := by
  have isPlace : 1 + 2 + i.val = 2 + i.val + 1 := by omega
  rw [addressByte, genUDPAddress, if_pos rfl, isPlace, List.getD_cons_succ,
    List.getD_append_right _ _ _ _ (by simp)]
  simp [List.getD_eq_getElem?_getD]

/-- A byte of an IPv6 address. -/
theorem genUDPAddress_v6
    (sa : KSockaddrAll)
    (i : Fin 16) :
    addressByte (genUDPAddress .UDPv6 sa) i.val = sa.sin6_addr[i] := by
  have isPlace : 1 + 2 + i.val = 2 + i.val + 1 := by omega
  rw [addressByte, genUDPAddress, if_neg (by decide), isPlace,
    List.getD_cons_succ, List.getD_append_right _ _ _ _ (by simp)]
  simp [List.getD_eq_getElem?_getD]

/-- What is written for an endpoint is read as that endpoint. -/
theorem destination_genUDPAddress
    (isSender : sa.endpoint = some sender) :
    destination sender.protocol (genUDPAddress sender.protocol sa) =
      some sender := by
  rw [KSockaddrAll.endpoint] at isSender
  split at isSender
  · cases isSender
    unfold Endpoint.protocol destination udpSockaddr
    simp only [genUDPAddress_type, genUDPAddress_port, ne_eq,
      not_true_eq_false, ↓reduceIte, Option.bind_some, KSockaddrAll.endpoint,
      KSockaddrAll.sin_addr, Option.some.injEq, Endpoint.v4.injEq]
    constructor
    · ext i inPort
      simp
    · ext i inAddress
      have byte := genUDPAddress_v4 sa ⟨i, inAddress⟩
      simp only [KSockaddrAll.sin_addr, Fin.getElem_fin,
        Vector.getElem_ofFn] at byte
      simp [byte]
  · split at isSender
    · cases isSender
      unfold Endpoint.protocol destination udpSockaddr
      have isSix : AF_INET6 ≠ AF_INET := by decide
      simp only [genUDPAddress_type, genUDPAddress_port, ne_eq,
        not_true_eq_false, ↓reduceIte, Option.bind_some, isSix,
        KSockaddrAll.endpoint, KSockaddrAll.sin6_addr, Option.some.injEq,
        Endpoint.v6.injEq]
      constructor
      · ext i inPort
        simp
      · ext i inAddress
        have byte := genUDPAddress_v6 sa ⟨i, inAddress⟩
        simp only [KSockaddrAll.sin6_addr, Fin.getElem_fin,
          Vector.getElem_ofFn] at byte
        have inRest : 4 + i < 20 := by omega
        simp [byte, inRest]
    · cases isSender

/-- The encoder, the decoder and the length table agree on the layout. -/
theorem agree_of_endpoint
    (isSender : sa.endpoint = some sender) :
    Agree sa sender := by
  have length := genUDPAddress_length sender.protocol sa
  refine ⟨length, ?_, destination_genUDPAddress isSender, ?_, ?_⟩
  · rw [length, kUdpAddressSize]
    split <;> decide
  · intro protocol isOther
    rw [udpSocketAddress_eq, udpSockaddr_other isOther]
    rfl
  · rw [length, genUDPAddress_type]
    cases sender <;> rfl

end RoundTrip

section Replies

/-- `kSocketTypeUdp`. -/
def kSocketTypeUdp : Int := 6

/-- `SocketServer::UdpAddress`; what it did is commented out. -/
def udpAddress (_ : SocketMessage) : List Int32 :=
  []

/-- `SocketUdpAddress`. -/
def socketUdpAddress (msg : SkynetSocketMessage) : List Int32 :=
  if msg.type ≠ kSocketTypeUdp then
    []
  else
    udpAddress
      { id := Int32.ofInt msg.id
        opaqueValue := 0
        ud := Int32.ofInt msg.ud
        data := .bytes msg.buffer
        about := (0, 0) }

/-- The string that a service makes of an address for `UDPSend`. -/
def addressString (address : List Int32) : List UInt8 :=
  address.map fun byte => byte.toUInt32.toUInt8

/-- `UDPSend` can return 0, with an address that is read as the endpoint. -/
def GoesTo
    (caller : Caller Worker)
    (addr : List UInt8)
    (buffer : SocketSendbuffer)
    (s : SocketServer Worker)
    (sender : Endpoint) : Prop :=
  (∃ s', (UDPSend caller addr buffer).Yields s 0 s') ∧
    destination (s.slot (hashId buffer.id)).protocol addr = some sender

variable
    {s s' : SocketServer Worker}
    {caller : Caller Worker}
    {buffer : SocketSendbuffer}
    {sa : KSockaddrAll}
    {sender : Endpoint}
    {addr : List UInt8}

/-- With an address of its protocol a socket is written to, or it is not. -/
theorem udpSendDirectly_yields
    {k : Nat}
    (id : Int32)
    (hasAddress : udpSocketAddress (s.slot k).protocol addr ≠ 0) :
    ∃ result,
      (atSlot k (udpSendDirectly addr id)).Yields s result s ∧
        (result = some 0 ∨ result = none) := by
  obtain ⟨can, reads⟩ := canDirectWrite_yields k id s
  unfold udpSendDirectly
  rw [atSlot_bind]
  cases can with
  | false =>
      exact ⟨none, Program.yields_bind.mpr ⟨false, s, reads, .done⟩, Or.inr rfl⟩
  | true =>
      refine ⟨some 0, Program.yields_bind.mpr ⟨true, s, reads, ?_⟩, Or.inl rfl⟩
      rw [if_pos rfl, atSlot_bind]
      refine Program.yields_bind.mpr ⟨_, s, yields_load.mpr ⟨rfl, rfl⟩, ?_⟩
      rw [if_neg hasAddress, atSlot_bind]
      exact Program.yields_bind.mpr
        ⟨0, s, yields_answer.mpr ⟨⟨default, rfl⟩, rfl⟩, .done⟩

variable (caller) in
/-- The same with the lock, where the caller gets it. -/
theorem udpSendDirect_yields
    {k : Nat}
    (id : Int32)
    (hasAddress : udpSocketAddress (s.slot k).protocol addr ≠ 0) :
    ∃ result s',
      (atSlot k (udpSendDirect caller addr id)).Yields s result s' ∧
        (result = some 0 ∨ result = none) := by
  obtain ⟨can, reads⟩ := canDirectWrite_yields k id s
  unfold udpSendDirect
  rw [andM, atSlot_bind, atSlot_bind]
  cases can with
  | false =>
      exact ⟨none, s,
        Program.yields_bind.mpr
          ⟨false, s, Program.yields_bind.mpr ⟨false, s, reads, .done⟩, .done⟩,
        Or.inr rfl⟩
  | true =>
      have trylock :
          (atSlot k (socketTrylock caller)).Yields s (s.slot k).dw_lock.isNone
            (if (s.slot k).dw_lock.isNone then s.lockedBy k caller else s) :=
        yields_socketTrylock.mpr ⟨rfl, rfl⟩
      by_cases isFree : (s.slot k).dw_lock.isNone = true
      · rw [if_pos isFree, isFree] at trylock
        have isHeld :
            udpSocketAddress ((s.lockedBy k caller).slot k).protocol addr ≠
              0 := by
          rw [SocketServer.lockedBy, SocketServer.withSlot_slot]
          exact hasAddress
        obtain ⟨result, directly, isResult⟩ :=
          udpSendDirectly_yields id isHeld
        obtain ⟨freed, unlock⟩ :
            ∃ freed,
              (atSlot k (socketUnlock 1)).Yields (s.lockedBy k caller) ()
                freed :=
          ⟨_, yields_socketUnlock.mpr rfl⟩
        refine ⟨result, freed, Program.yields_bind.mpr
          ⟨true, _, Program.yields_bind.mpr ⟨true, s, reads, trylock⟩, ?_⟩,
          isResult⟩
        rw [if_pos rfl, atSlot_bind]
        refine Program.yields_bind.mpr ⟨result, _, directly, ?_⟩
        rw [atSlot_bind]
        exact Program.yields_bind.mpr ⟨(), freed, unlock, .done⟩
      · rw [if_neg isFree, Bool.eq_false_iff.mpr isFree] at trylock
        exact ⟨none, s, Program.yields_bind.mpr
          ⟨false, s, Program.yields_bind.mpr ⟨true, s, reads, trylock⟩, .done⟩,
          Or.inr rfl⟩

/-- With the address that `GenUDPAddress` wrote a reply goes to its sender. -/
theorem goesTo_genUDPAddress
    (isSender : sa.endpoint = some sender)
    (isId : (s.slot (hashId buffer.id)).id = buffer.id)
    (isOpen : (s.slot (hashId buffer.id)).type ≠ .kSocketTypeInvalid)
    (isProtocol : (s.slot (hashId buffer.id)).protocol = sender.protocol) :
    GoesTo caller (genUDPAddress sender.protocol sa) buffer s sender := by
  have isRead := destination_genUDPAddress isSender
  rw [GoesTo, isProtocol]
  refine ⟨?_, isRead⟩
  have hasAddress :
      udpSocketAddress (s.slot (hashId buffer.id)).protocol
        (genUDPAddress sender.protocol sa) ≠ 0 := by
    unfold udpSocketAddress
    rw [isProtocol, genUDPAddress_type]
    cases sender <;> exact Nat.succ_ne_zero _
  have isType :
      ¬ ((genUDPAddress sender.protocol sa).getD 0 0 ≠ 1 ∧
        (genUDPAddress sender.protocol sa).getD 0 0 ≠ 2) := by
    rw [genUDPAddress_type]
    cases sender <;> simp [Endpoint.protocol, Protocol.toByte]
  obtain ⟨result, s', directly, isResult⟩ :=
    udpSendDirect_yields caller buffer.id hasAddress
  rcases isResult with rfl | rfl
  · refine ⟨s', Program.yields_bind.mpr
      ⟨false, s, socketInvalid_yields isId isOpen, ?_⟩⟩
    rw [if_neg (by decide), if_neg isType]
    exact Program.yields_bind.mpr ⟨some 0, s', directly, .done⟩
  · obtain ⟨requested, requests⟩ :
        ∃ requested,
          (SendRequest caller
            (.sendUdp (requestSend buffer)
              ((genUDPAddress sender.protocol sa).take
                (udpAddressSize
                  ((genUDPAddress sender.protocol sa).getD 0 0))))).Yields
            s' () requested :=
      ⟨_, yields_SendRequest.mpr ⟨[], rfl⟩⟩
    refine ⟨requested, Program.yields_bind.mpr
      ⟨false, s, socketInvalid_yields isId isOpen, ?_⟩⟩
    rw [if_neg (by decide), if_neg isType]
    refine Program.yields_bind.mpr ⟨none, s', directly, ?_⟩
    exact Program.yields_bind.mpr ⟨(), requested, requests, .done⟩

/-- Without an address `UDPSend` refuses. -/
theorem udpSend_nil
    {result : Int32}
    (yields : (UDPSend caller [] buffer).Yields s result s') :
    result = -1 := by
  rw [UDPSend, Program.yields_bind] at yields
  obtain ⟨refused, middle, _, later⟩ := yields
  split at later
  · cases later
    rfl
  · rw [if_pos (by decide)] at later
    cases later
    rfl

/-- Nothing comes out of any message. -/
theorem addressString_socketUdpAddress
    (message : SkynetSocketMessage) :
    addressString (socketUdpAddress message) = [] := by
  unfold socketUdpAddress
  split <;> rfl

/--
For every sender the encoder, the decoder and the length table agree on the
address, and with what `SocketUdpAddress` takes out of a message, whichever it
is, no reply goes to the sender.
-/
theorem udpAddress_not_goesTo
    (isSender : sa.endpoint = some sender)
    (message : SkynetSocketMessage)
    (caller : Caller Worker)
    (buffer : SocketSendbuffer)
    (s : SocketServer Worker) :
    Agree sa sender ∧
      ¬ GoesTo caller (addressString (socketUdpAddress message)) buffer s
        sender := by
  refine ⟨agree_of_endpoint isSender, ?_⟩
  rintro ⟨⟨s', yields⟩, _⟩
  rw [addressString_socketUdpAddress] at yields
  exact absurd (udpSend_nil yields) (by decide)

/-- Port 53 of 127.0.0.1, as `recvfrom` stores it. -/
def localSockaddr : KSockaddrAll where
  sa_family := AF_INET
  port := #v[0, 53]
  rest := #v[127, 0, 0, 1, 0, 0, 0, 0, 0, 0, 0, 0, 0, 0, 0, 0, 0, 0, 0, 0, 0, 0,
    0, 0]

/-- Port 53 of 127.0.0.1. -/
def localEndpoint : Endpoint :=
  .v4 #v[0, 53] #v[127, 0, 0, 1]

/-- A server whose slot 1 has a socket for datagrams. -/
def datagramServer : SocketServer Unit :=
  { blankServer with
    slot := fun _ =>
      { blankSocket with
        id := 1, type := .kSocketTypeConnected, protocol := .UDP } }

/-- A datagram of two bytes from `localEndpoint`, with the address behind it. -/
def localDatagram : SkynetSocketMessage where
  type := kSocketTypeUdp
  id := 1
  ud := 2
  buffer := [104, 105, 1, 0, 53, 127, 0, 0, 1]

/-- A reply of two bytes. -/
def localReply : SocketSendbuffer where
  id := 1
  type := .memory
  buffer := some 0
  sz := 2

/-- A reply to the datagram does not go anywhere. -/
theorem localDatagram_not_goesTo :
    ¬ GoesTo .socketThread (addressString (socketUdpAddress localDatagram))
      localReply datagramServer localEndpoint := by
  rintro ⟨⟨s', yields⟩, _⟩
  rw [addressString_socketUdpAddress] at yields
  exact absurd (udpSend_nil yields) (by decide)

/-- The address itself is right, and would be behind the datagram. -/
theorem localDatagram_agrees :
    Agree localSockaddr localEndpoint ∧
      ¬ GoesTo .socketThread (addressString (socketUdpAddress localDatagram))
        localReply datagramServer localEndpoint := by
  have isSender : localSockaddr.endpoint = some localEndpoint := by decide +kernel
  exact udpAddress_not_goesTo isSender localDatagram .socketThread localReply
    datagramServer

example :
    localDatagram.buffer.drop 2 = genUDPAddress .UDP localSockaddr := by
  decide +kernel

end Replies

end SkynetCpp
