import SkynetCpp.SocketLock
import SkynetCpp.SocketReserve

namespace SkynetCpp

open Foundation
open Foundation.Routine (perform Meets Mirrors)

/-!
# What opening a socket takes

The calls of the API that make descriptors or look addresses up, and
`CreateSocketServer`, with what they hold of the operating system.  Whatever
else they do is the code of the API that is given the descriptor.
-/

variable {Worker State α β : Type}

/--
What a call got and did not give back.  The last fields count what it gave back
without having it, and record what it asked of the socket thread.
-/
structure Holdings where
  descriptors : List Int32
  lists : Nat
  strays : Nat
  requests : List (SocketRequest Buffer)
  deriving Repr, DecidableEq

/-- Code that gets descriptors and lists of addresses. -/
abbrev Opening (State α : Type) :=
  Routine SocketStop Holdings State OsAnswer α

namespace Holdings

/-- Nothing. -/
def none : Holdings where
  descriptors := []
  lists := 0
  strays := 0
  requests := []

/-- A descriptor was made. -/
def made
    (fd : Int32)
    (own : Holdings) : Holdings :=
  { own with descriptors := fd :: own.descriptors }

/-- A descriptor was closed. -/
def closed
    (fd : Int32)
    (own : Holdings) : Holdings :=
  if fd ∈ own.descriptors then
    { own with descriptors := own.descriptors.erase fd }
  else
    { own with strays := own.strays + 1 }

/-- `getaddrinfo` gave a list. -/
def listed (own : Holdings) : Holdings :=
  { own with lists := own.lists + 1 }

/-- `freeaddrinfo` took one. -/
def freed (own : Holdings) : Holdings :=
  if 0 < own.lists then
    { own with lists := own.lists - 1 }
  else
    { own with strays := own.strays + 1 }

/-- A request was written. -/
def requested
    (request : SocketRequest Buffer)
    (own : Holdings) : Holdings :=
  { own with requests := request :: own.requests }

variable
    (own : Holdings)
    (fd : Int32)

@[simp] theorem closed_made : (own.made fd).closed fd = own := by
  simp [made, closed]

@[simp] theorem freed_listed : own.listed.freed = own := by
  simp [listed, freed]

/-- A list is freed while a descriptor is held. -/
@[simp] theorem freed_made_listed :
    (own.listed.made fd).freed = own.made fd := by
  simp [listed, made, freed]

end Holdings

namespace SocketOpening

/-- `IPPROTO_TCP`. -/
def IPPROTO_TCP : Int32 := 6

/-- `IPPROTO_UDP`. -/
def IPPROTO_UDP : Int32 := 17

/-- `FD_SETSIZE`. -/
def FD_SETSIZE : Int32 := 1024

section Calls

/-- A call that makes a descriptor, or returns -1. -/
def makeDescriptor : Opening State Int32 := do
  let fd ← perform (answer (·.number))
  if 0 ≤ fd then
    modify (Holdings.made fd)
    return fd
  else
    return -1

/-- `close`. -/
def osClose (fd : Int32) : Opening State Unit :=
  modify (Holdings.closed fd)

/-- `freeaddrinfo`. -/
def freeaddrinfo : Opening State Unit :=
  modify Holdings.freed

/-- `SendRequest`. -/
def sendRequest
    (caller : Caller Worker)
    (request : SocketRequest Buffer) :
    Opening (SocketServer Worker) Unit := do
  modify (Holdings.requested request)
  perform (SendRequest caller request)

/--
`DoBind`; host and port go to `getaddrinfo`.  The second result is what it
stores through `family`, if it does.
-/
def doBind (protocol : Int32) : Opening State (Int32 × Int32) := do
  if protocol ≠ IPPROTO_TCP ∧ protocol ≠ IPPROTO_UDP then throw .aborted
  let (status, family) ←
    perform (answer fun input => (input.result, input.number))
  if status ≠ 0 then return (-1, 0)
  modify Holdings.listed
  let fd ← makeDescriptor
  if fd < 0 then
    freeaddrinfo
    return (-1, family)
  -- `setsockopt`
  if (← perform (answer (·.result))) = -1 then
    osClose fd
    freeaddrinfo
    return (-1, family)
  -- `bind`
  if (← perform (answer (·.result))) ≠ 0 then
    osClose fd
    freeaddrinfo
    return (-1, family)
  freeaddrinfo
  return (fd, family)

/-- `DoListen`. -/
def doListen : Opening State Int32 := do
  let (listen_fd, _) ← doBind IPPROTO_TCP
  if listen_fd < 0 then return -1
  -- `listen`
  if (← perform (answer (·.result))) = -1 then
    osClose listen_fd
    return -1
  return listen_fd

/-- What `Listen` and `UDP` do with a descriptor. -/
def handOver
    (caller : Caller Worker)
    (fd : Int32)
    (request : Int32 → SocketRequest Buffer) :
    Opening (SocketServer Worker) Int32 := do
  if fd < 0 then return -1
  match ← perform reserveId with
  | none => do
      osClose fd
      return -1
  | some id => do
      sendRequest caller (request id)
      return id

/-- `SocketServer::Listen`. -/
def Listen
    (caller : Caller Worker)
    (opaqueValue : UInt64) : Opening (SocketServer Worker) Int32 := do
  let fd ← doListen
  handOver caller fd fun id => .listen id fd opaqueValue

/-- The descriptor that `UDP` gets, with its family. -/
def udpDescriptor
    (addr : Option (List UInt8))
    (port : Int32) : Opening State (Int32 × Int32) := do
  if port ≠ 0 ∨ addr.isSome then
    doBind IPPROTO_UDP
  else
    -- `AF_INET` is 2
    return (← makeDescriptor, 2)

/-- `SocketServer::UDP`. -/
def UDP
    (caller : Caller Worker)
    (opaqueValue : UInt64)
    (addr : Option (List UInt8))
    (port : Int32) : Opening (SocketServer Worker) Int32 := do
  let (fd, family) ← udpDescriptor addr port
  handOver caller fd fun id => .udp id fd family opaqueValue

/--
`SocketServer::UDPConnect`; `getaddrinfo` gives the address as `GenUDPAddress`
writes it.
-/
def UDPConnect
    (caller : Caller Worker)
    (id : Int32) : Opening (SocketServer Worker) Int32 := do
  if ← perform (atSlot (hashId id) (countConnect caller id)) then
    let (status, address) ←
      perform (answer fun input => (input.result, input.bytes))
    if status ≠ 0 then return -1
    modify Holdings.listed
    if address.getD 0 0 ≠ 1 ∧ address.getD 0 0 ≠ 2 then
      freeaddrinfo
      return -1
    freeaddrinfo
    sendRequest caller (.setUdp id address)
    return 0
  else
    return -1

/-- The descriptors of a new server. -/
structure ServerDescriptors where
  event_fd : Int32
  recvctrl_fd : Int32
  sendctrl_fd : Int32
  reserve_fd : Int32
  deriving Repr, DecidableEq

/-- `pipe`: the two descriptors, if it made them. -/
def pipe : Opening State (Option (Int32 × Int32)) := do
  let (status, recvctrl_fd, sendctrl_fd) ←
    perform
      (answer fun input =>
        (input.result, input.number, Int32.ofInt input.error))
  if status ≠ 0 then return none
  modify (Holdings.made sendctrl_fd)
  modify (Holdings.made recvctrl_fd)
  return some (recvctrl_fd, sendctrl_fd)

/-- The constructor of `SocketServer`, as far as it is about descriptors. -/
def socketServer
    (event_fd recvctrl_fd sendctrl_fd : Int32) :
    Opening State ServerDescriptors := do
  let reserve_fd ← makeDescriptor
  if FD_SETSIZE ≤ recvctrl_fd then throw .aborted
  return { event_fd, recvctrl_fd, sendctrl_fd, reserve_fd }

/-- `CreateSocketServer`. -/
def createSocketServer : Opening State (Option ServerDescriptors) := do
  let efd ← makeDescriptor
  if efd = -1 then return none
  match ← pipe with
  | none => do
      osClose efd
      return none
  | some (recvctrl_fd, sendctrl_fd) => do
      -- `EpollAdd`
      if (← perform (answer (·.result))) ≠ 0 then
        osClose recvctrl_fd
        osClose sendctrl_fd
        osClose efd
        return none
      return some (← socketServer efd recvctrl_fd sendctrl_fd)

end Calls

section Rules

variable
    {own : Holdings}
    {post : Except SocketStop α → Holdings → Prop}
    {descriptor : β → Int32}

/-- A result with a descriptor that the call holds from then on, or without one. -/
def Gives
    (descriptor : β → Int32)
    (own : Holdings)
    (ending : Except SocketStop β)
    (own' : Holdings) : Prop :=
  ∃ result, ending = .ok result ∧
    (descriptor result = -1 ∧ own' = own ∨
      0 ≤ descriptor result ∧ own' = own.made (descriptor result))

theorem gives_none
    {result : β}
    (isNone : descriptor result = -1) :
    Gives descriptor own (.ok result) own :=
  ⟨result, rfl, Or.inl ⟨isNone, rfl⟩⟩

/-- Code behind the one that gives a descriptor. -/
theorem gives_bind
    {routine : Opening State β}
    {after : β → Opening State α}
    (gives : Meets routine own (Gives descriptor own))
    (refused :
      ∀ result, descriptor result = -1 → Meets (after result) own post)
    (goesOn :
      ∀ result, 0 ≤ descriptor result →
        Meets (after result) (own.made (descriptor result)) post) :
    Meets (routine >>= after) own post := by
  refine gives.bind ?_ ?_
  · rintro result own' ⟨_, isResult, ⟨isNone, rfl⟩ | ⟨nonneg, rfl⟩⟩
    · cases isResult
      exact refused result isNone
    · cases isResult
      exact goesOn result nonneg
  · rintro stop own' ⟨_, isResult, -⟩
    cases isResult

/-- Code behind the one whose result is a descriptor, or -1. -/
theorem made_bind
    {routine : Opening State Int32}
    {after : Int32 → Opening State α}
    (gives : Meets routine own (Gives id own))
    (refused : Meets (after (-1)) own post)
    (goesOn : ∀ fd, 0 ≤ fd → Meets (after fd) (own.made fd) post) :
    Meets (routine >>= after) own post := by
  refine gives_bind gives (fun fd isNone => ?_) goesOn
  have isNone : fd = -1 := isNone
  rw [isNone]
  exact refused

theorem makeDescriptor_gives :
    Meets (makeDescriptor : Opening State Int32) own (Gives id own) := by
  refine .perform_bind fun fd => .ite (fun nonneg => ?_) fun _ => ?_
  · exact .modify_bind ⟨fd, rfl, Or.inr ⟨nonneg, rfl⟩⟩
  · exact gives_none rfl

theorem doBind_gives
    {protocol : Int32}
    (isKnown : protocol = IPPROTO_TCP ∨ protocol = IPPROTO_UDP) :
    Meets (doBind protocol : Opening State (Int32 × Int32)) own
      (Gives Prod.fst own) := by
  have notRefused : ¬ (protocol ≠ IPPROTO_TCP ∧ protocol ≠ IPPROTO_UDP) := by
    tauto
  unfold doBind
  rw [if_neg notRefused]
  refine .perform_bind fun ⟨status, family⟩ => ?_
  refine .ite (fun _ => gives_none rfl) fun _ => .modify_bind ?_
  refine made_bind makeDescriptor_gives ?_ fun fd nonneg => ?_
  · refine .modify_bind ?_
    rw [Holdings.freed_listed]
    exact gives_none rfl
  · rw [if_neg (Int32.not_lt.mpr nonneg)]
    have closes :
        (((own.listed.made fd).closed fd).freed : Holdings) = own := by simp
    refine .perform_bind fun _ => .ite (fun _ => ?_) fun _ => ?_
    · refine .modify_bind (.modify_bind ?_)
      rw [closes]
      exact gives_none rfl
    · refine .perform_bind fun _ => .ite (fun _ => ?_) fun _ => ?_
      · refine .modify_bind (.modify_bind ?_)
        rw [closes]
        exact gives_none rfl
      · refine .modify_bind ?_
        rw [Holdings.freed_made_listed]
        exact ⟨(fd, family), rfl, Or.inr ⟨nonneg, rfl⟩⟩

theorem doListen_gives :
    Meets (doListen : Opening State Int32) own (Gives id own) := by
  refine gives_bind (doBind_gives (Or.inl rfl)) ?_ ?_
  · rintro ⟨fd, family⟩ isNone
    cases isNone
    exact gives_none rfl
  · rintro ⟨fd, family⟩ nonneg
    dsimp only at nonneg ⊢
    rw [if_neg (Int32.not_lt.mpr nonneg)]
    refine .perform_bind fun _ => .ite (fun _ => .modify_bind ?_) fun _ => ?_
    · rw [Holdings.closed_made]
      exact gives_none rfl
    · exact ⟨fd, rfl, Or.inr ⟨nonneg, rfl⟩⟩

theorem udpDescriptor_gives
    (addr : Option (List UInt8))
    (port : Int32) :
    Meets (udpDescriptor addr port : Opening State (Int32 × Int32)) own
      (Gives Prod.fst own) := by
  refine .ite (fun _ => doBind_gives (Or.inr rfl)) fun _ => ?_
  refine made_bind makeDescriptor_gives ?_ fun fd nonneg => ?_
  · exact gives_none rfl
  · exact ⟨(fd, 2), rfl, Or.inr ⟨nonneg, rfl⟩⟩

end Rules

/-- A call that opens something. -/
inductive OpeningCall where
  | CreateSocketServer
  | Listen (opaqueValue : UInt64)
  | UDP (opaqueValue : UInt64) (addr : Option (List UInt8)) (port : Int32)
  | UDPConnect (id : Int32)
  deriving Repr, DecidableEq

/-- What a call gives its caller. -/
inductive Opened where
  | result (result : Int32)
  /-- A new server with its descriptors, or `nullptr`. -/
  | server (server : Option ServerDescriptors)
  deriving Repr, DecidableEq

/-- What a thread runs for a call. -/
def OpeningCall.run
    (caller : Caller Worker) :
    OpeningCall → Opening (SocketServer Worker) Opened
  | .CreateSocketServer => do
      return .server (← createSocketServer)
  | .Listen opaqueValue => do
      return .result (← SocketOpening.Listen caller opaqueValue)
  | .UDP opaqueValue addr port => do
      return .result (← SocketOpening.UDP caller opaqueValue addr port)
  | .UDPConnect id => do
      return .result (← SocketOpening.UDPConnect caller id)

/-- The descriptors that a request hands to the socket thread. -/
def handedOver : SocketRequest Buffer → List Int32
  | .listen _ fd _ => [fd]
  | .udp _ fd _ _ => [fd]
  | _ => []

/--
The descriptors of a new server: those of its control pipe and of epoll, and the
spare one if there is one.
-/
def ServerDescriptors.own
    (server : ServerDescriptors)
    (fd : Int32) : Nat :=
  [server.sendctrl_fd, server.recvctrl_fd, server.event_fd].count fd +
    if 0 ≤ server.reserve_fd ∧ server.reserve_fd = fd then 1 else 0

/--
What a call may keep: nothing when it fails, the descriptor that it hands to the
socket thread in its one request, or those of the new server.
-/
inductive Keeps (own : Holdings) : Opened → Prop where
  | failed
      (descriptors : own.descriptors = [])
      (requests : own.requests = []) :
      Keeps own (.result (-1))
  | asked
      {result : Int32}
      {request : SocketRequest Buffer}
      (nonneg : 0 ≤ result)
      (requests : own.requests = [request])
      (descriptors : own.descriptors = handedOver request) :
      Keeps own (.result result)
  | noServer
      (descriptors : own.descriptors = [])
      (requests : own.requests = []) :
      Keeps own (.server none)
  | newServer
      {server : ServerDescriptors}
      (requests : own.requests = [])
      (descriptors : ∀ fd, own.descriptors.count fd = server.own fd) :
      Keeps own (.server (some server))

/-- A call gave back what it does not keep, and nothing else. -/
structure Settled
    (own : Holdings)
    (opened : Opened) : Prop where
  noStrays : own.strays = 0
  noLists : own.lists = 0
  keeps : Keeps own opened

section Calls

variable
    {own : Holdings}
    {caller : Caller Worker}

/-- A call that failed. -/
theorem settled_failed :
    Settled .none (.result (-1)) where
  noStrays := rfl
  noLists := rfl
  keeps := .failed rfl rfl

theorem allocateId_nonneg :
    (allocateId : ServerAction Worker Int32).Within (fun _ _ => True)
      fun id => 0 ≤ id := by
  refine .bind (.any _) fun id _ => .ite ?_ ?_
  · refine fun _ => .act fun _ s => ⟨trivial, ?_⟩
    rw [← SocketReserve.idOf_numberOf]
    exact SocketReserve.idOf_nonneg _
  · exact fun nonneg => Int32.not_lt.mp nonneg

theorem reserveId_nonneg :
    (reserveId : ServerAction Worker (Option Int32)).Within (fun _ _ => True)
      fun reserved => ∀ id ∈ reserved, 0 ≤ id := by
  have loop :
      ∀ rounds i,
        (reserveIdLoop rounds i : ServerAction Worker (Option Int32)).Within
          (fun _ _ => True) fun reserved => ∀ id ∈ reserved, 0 ≤ id := by
    intro rounds
    induction rounds with
    | zero =>
        exact fun _ => .bind (.any _) fun _ _ => .pure (by simp)
    | succ rounds inductionHypothesis =>
        refine fun i => .ite (fun _ => .pure (by simp)) fun _ => ?_
        refine .bind allocateId_nonneg fun id nonneg => ?_
        refine .bind (.any _) fun type _ => .ite (fun _ => ?_) fun _ => ?_
        · refine .bind (.any _) fun reserved _ => .ite (fun _ => ?_) fun _ => ?_
          · refine .bind (.any _) fun _ _ => .pure ?_
            intro other isId
            cases isId
            exact nonneg
          · exact inductionHypothesis i
        · exact inductionHypothesis (i + 1)
  exact .bind (.any _) fun rounds _ => loop rounds 0

theorem sendRequest_bind
    {request : SocketRequest Buffer}
    {after : Unit → Opening (SocketServer Worker) α}
    {post : Except SocketStop α → Holdings → Prop}
    (goesOn : Meets (after ()) (own.requested request) post) :
    Meets (sendRequest caller request >>= after) own post :=
  .returned_bind (.modify_bind (.perform fun _ => ⟨rfl, rfl⟩)) goesOn

/-- A descriptor that is handed over, or closed again. -/
theorem handOver_settled
    {fd : Int32}
    {request : Int32 → SocketRequest Buffer}
    (nonneg : 0 ≤ fd)
    (hands : ∀ id, handedOver (request id) = [fd]) :
    Meets (handOver caller fd request) (Holdings.none.made fd)
      fun ending own' =>
        ∃ result, ending = .ok result ∧ Settled own' (.result result) := by
  unfold handOver
  rw [if_neg (Int32.not_lt.mpr nonneg)]
  refine .ends_bind reserveId_nonneg fun reserved isId => ?_
  cases reserved with
  | none =>
      refine .modify_bind ?_
      rw [Holdings.closed_made]
      exact ⟨-1, rfl, settled_failed⟩
  | some id =>
      refine sendRequest_bind ?_
      exact ⟨id, rfl, rfl, rfl, .asked (isId id rfl) rfl (hands id).symm⟩

theorem Listen_settled
    (opaqueValue : UInt64) :
    Meets (SocketOpening.Listen caller opaqueValue) .none
      fun ending own' =>
        ∃ result, ending = .ok result ∧ Settled own' (.result result) := by
  refine made_bind doListen_gives ?_ fun fd nonneg => ?_
  · exact ⟨-1, rfl, settled_failed⟩
  · exact handOver_settled nonneg fun _ => rfl

theorem UDP_settled
    (opaqueValue : UInt64)
    (addr : Option (List UInt8))
    (port : Int32) :
    Meets (SocketOpening.UDP caller opaqueValue addr port) .none
      fun ending own' =>
        ∃ result, ending = .ok result ∧ Settled own' (.result result) := by
  refine gives_bind (udpDescriptor_gives addr port) ?_ ?_
  · rintro ⟨fd, family⟩ isNone
    cases isNone
    exact ⟨-1, rfl, settled_failed⟩
  · rintro ⟨fd, family⟩ nonneg
    exact handOver_settled nonneg fun _ => rfl

theorem UDPConnect_settled
    (id : Int32) :
    Meets (SocketOpening.UDPConnect caller id) .none
      fun ending own' =>
        ∃ result, ending = .ok result ∧ Settled own' (.result result) := by
  refine .perform_bind fun found => .ite (fun _ => ?_) fun _ => ?_
  · refine .perform_bind fun ⟨status, address⟩ => ?_
    refine .ite (fun _ => ⟨-1, rfl, settled_failed⟩) fun _ => .modify_bind ?_
    refine .ite (fun _ => .modify_bind ?_) fun _ => .modify_bind ?_
    · rw [Holdings.freed_listed]
      exact ⟨-1, rfl, settled_failed⟩
    · rw [Holdings.freed_listed]
      refine sendRequest_bind ?_
      exact ⟨0, rfl, rfl, rfl, .asked (by decide) rfl rfl⟩
  · exact ⟨-1, rfl, settled_failed⟩

theorem pipe_bind
    {after : Option (Int32 × Int32) → Opening State α}
    {post : Except SocketStop α → Holdings → Prop}
    (refused : Meets (after none) own post)
    (goesOn :
      ∀ recvctrl_fd sendctrl_fd,
        Meets (after (some (recvctrl_fd, sendctrl_fd)))
          ((own.made sendctrl_fd).made recvctrl_fd) post) :
    Meets (pipe >>= after) own post := by
  have made :
      Meets (pipe : Opening State (Option (Int32 × Int32))) own
        fun ending own' =>
          ending = .ok none ∧ own' = own ∨
            ∃ recvctrl_fd sendctrl_fd,
              ending = .ok (some (recvctrl_fd, sendctrl_fd)) ∧
                own' = (own.made sendctrl_fd).made recvctrl_fd := by
    refine .perform_bind fun ⟨status, recvctrl_fd, sendctrl_fd⟩ => ?_
    refine .ite (fun _ => Or.inl ⟨rfl, rfl⟩) fun _ => ?_
    exact .modify_bind (.modify_bind (Or.inr ⟨_, _, rfl, rfl⟩))
  refine made.bind ?_ ?_
  · rintro result own' (⟨isNone, rfl⟩ | ⟨_, _, isSome, rfl⟩)
    · cases isNone
      exact refused
    · cases isSome
      exact goesOn _ _
  · rintro stop own' (⟨isNone, -⟩ | ⟨_, _, isSome, -⟩)
    · cases isNone
    · cases isSome

/-- The constructor adds the spare descriptor, if there is one, or ends the process. -/
theorem socketServer_settled
    (event_fd recvctrl_fd sendctrl_fd : Int32) :
    Meets
      (socketServer event_fd recvctrl_fd sendctrl_fd :
        Opening State ServerDescriptors)
      (((Holdings.none.made event_fd).made sendctrl_fd).made recvctrl_fd)
      fun ending own' =>
        match ending with
        | .ok server => Settled own' (.server (some server))
        | .error stop => stop = .aborted := by
  have isNone : ¬ (0 : Int32) ≤ -1 := by decide
  refine made_bind makeDescriptor_gives ?_ fun reserve_fd nonneg => ?_
  · refine .ite (fun _ => rfl) fun _ => ⟨rfl, rfl, .newServer rfl fun fd => ?_⟩
    simp [Holdings.made, Holdings.none, ServerDescriptors.own,
      List.count_cons, isNone]
    omega
  · refine .ite (fun _ => rfl) fun _ => ⟨rfl, rfl, .newServer rfl fun fd => ?_⟩
    simp [Holdings.made, Holdings.none, ServerDescriptors.own,
      List.count_cons, nonneg]
    omega

theorem createSocketServer_settled :
    Meets (createSocketServer : Opening State (Option ServerDescriptors)) .none
      fun ending own' =>
        match ending with
        | .ok server => Settled own' (.server server)
        | .error stop => stop = .aborted := by
  have noServer : Settled .none (.server none) := ⟨rfl, rfl, .noServer rfl rfl⟩
  refine made_bind makeDescriptor_gives ?_ fun efd nonneg => ?_
  · exact noServer
  · have isOpen : efd ≠ -1 := by
      rintro rfl
      exact absurd nonneg (by decide)
    rw [if_neg isOpen]
    refine pipe_bind ?_ fun recvctrl_fd sendctrl_fd => ?_
    · refine .modify_bind ?_
      rw [Holdings.closed_made]
      exact noServer
    · refine .perform_bind fun _ => .ite (fun _ => ?_) fun _ => ?_
      · refine .modify_bind (.modify_bind (.modify_bind ?_))
        simp only [Holdings.closed_made]
        exact noServer
      · refine (socketServer_settled efd recvctrl_fd sendctrl_fd).bind ?_ ?_
        · exact fun server own' settled => settled
        · exact fun stop own' aborts => aborts

end Calls

/--
Whatever other threads do in between and however the calls of the operating
system end, a call that opens something frees every list of addresses that it
got, and closes once every descriptor that it made and does not keep.
-/
theorem opening_settled
    (caller : Caller Worker)
    (call : OpeningCall) :
    Meets (call.run caller) .none fun ending own =>
      match ending with
      | .ok opened => Settled own opened
      | .error stop => stop = .aborted ∧ call = .CreateSocketServer := by
  have returns
      {routine : Opening (SocketServer Worker) Int32}
      (settled :
        Meets routine .none fun ending own' =>
          ∃ result, ending = .ok result ∧ Settled own' (.result result)) :
      Meets (do return Opened.result (← routine)) .none fun ending own =>
        match ending with
        | .ok opened => Settled own opened
        | .error stop => stop = .aborted ∧ call = .CreateSocketServer := by
    refine settled.bind ?_ ?_
    · rintro result own' ⟨_, isResult, isSettled⟩
      cases isResult
      exact isSettled
    · rintro stop own' ⟨_, isResult, -⟩
      cases isResult
  cases call with
  | CreateSocketServer =>
      refine createSocketServer_settled.bind ?_ ?_
      · exact fun server own' settled => settled
      · exact fun stop own' aborts => ⟨aborts, rfl⟩
  | Listen opaqueValue =>
      exact returns (Listen_settled opaqueValue)
  | UDP opaqueValue addr port =>
      exact returns (UDP_settled opaqueValue addr port)
  | UDPConnect id =>
      exact returns (UDPConnect_settled id)

section Mirrors

variable
    {own : Holdings}
    {caller : Caller Worker}

theorem sendRequest_mirrors
    {request : SocketRequest Buffer}
    {result : Int32} :
    Mirrors (fun result _ other => result = other)
      (do
        sendRequest caller request
        return result)
      own (do
        SendRequest caller request
        return result) :=
  .bind (.modify_bind (.perform _)) fun _ _ _ _ => .pure rfl

/-- A descriptor that was got is handed over as `Listen` and `UDP` do it. -/
theorem handOver_mirrors
    (fd : Int32)
    (request : Int32 → SocketRequest Buffer) :
    Mirrors (fun result _ other => result = other)
      (handOver caller fd request) own (do
        if fd < 0 then return -1
        match ← reserveId with
        | none => return -1
        | some id =>
            SendRequest caller (request id)
            return id) := by
  refine .ite Iff.rfl (fun _ => .pure rfl) fun _ => ?_
  refine .perform_bind fun reserved => ?_
  cases reserved with
  | none =>
      exact .modify_bind (.pure rfl)
  | some id =>
      exact sendRequest_mirrors

/-- Behind `DoListen`, the call does what it does when it is given the descriptor. -/
theorem Listen_mirrors
    (opaqueValue : UInt64) :
    ∃ rest : Int32 → ServerAction Worker Int32,
      SkynetCpp.Listen caller opaqueValue = (answer (·.number) >>= rest) ∧
        ∀ fd own,
          Mirrors (fun result _ other => result = other)
            (handOver caller fd fun id => .listen id fd opaqueValue) own
            (rest fd) :=
  ⟨_, rfl, fun fd _ => handOver_mirrors fd _⟩

/-- Behind `DoBind` or `socket`, the call does what it does when it is given both. -/
theorem UDP_mirrors
    (opaqueValue : UInt64) :
    ∃ rest : Int32 × Int32 → ServerAction Worker Int32,
      SkynetCpp.UDP caller opaqueValue =
          (answer
            (fun input => (input.number, if input.flag then 10 else 2)) >>=
              rest) ∧
        ∀ fd family own,
          Mirrors (fun result _ other => result = other)
            (handOver caller fd fun id => .udp id fd family opaqueValue) own
            (rest (fd, family)) :=
  ⟨_, rfl, fun fd _ _ => handOver_mirrors fd _⟩

theorem UDPConnect_mirrors
    (id : Int32) :
    Mirrors (fun result _ other => result = other)
      (SocketOpening.UDPConnect caller id) own
      (SkynetCpp.UDPConnect caller id) := by
  refine .perform_bind fun found => .ite Iff.rfl (fun _ => ?_) fun _ => .pure rfl
  refine .perform_bind fun ⟨status, address⟩ => ?_
  refine .ite Iff.rfl (fun _ => .pure rfl) fun _ => .modify_bind ?_
  refine .ite Iff.rfl (fun _ => .modify_bind (.pure rfl)) fun _ => ?_
  exact .modify_bind sendRequest_mirrors

end Mirrors

end SocketOpening

end SkynetCpp
