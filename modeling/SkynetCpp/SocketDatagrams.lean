import SkynetCpp.Foundation.Run
import SkynetCpp.SocketUdpAddress
import SkynetCpp.SocketWarnings

namespace SkynetCpp

open Foundation

/-!
# Datagrams that wait

`SendSocket` queues a datagram with `AppendSendbufferUdp`.  The node is written
through a pointer that is never set; where that does not end the process, the
node of the list is copied into a new `WriteBufferUDP`, and the address is
written there.  `SendListUDP` reads the address behind the node in the list, which is no
`WriteBufferUDP`: it sends a datagram to the address that the memory there has,
or drops it when the memory has none.
-/

variable {Worker α β : Type}

section Rounds

/-- A datagram that `SendSocket` queued, and where it is to go. -/
structure Datagram where
  node : WriteBuffer
  address : List UInt8
  deriving Repr, DecidableEq

/-- A round of `SendListUDP`: the head, what is behind it, and `sendto`. -/
structure DatagramRound where
  node : WriteBuffer
  behind : List UInt8
  result : Int
  errno : Errno
  deriving Repr, DecidableEq

/-- What a call of `sendto` came to. -/
inductive SendtoResult where
  | sent
  | failed
  /-- `EINTR` or `EAGAIN`. -/
  | later
  deriving Repr, DecidableEq

/-- A call of `sendto`. -/
structure Sendto where
  ptr : Address
  sz : Nat
  sa : KSockaddrAll
  result : SendtoResult
  deriving Repr, DecidableEq

/-- The result that `sendto` has in a round. -/
def DatagramRound.sendtoResult (round : DatagramRound) : SendtoResult :=
  if 0 ≤ round.result then
    .sent
  else if round.errno = .EINTR ∨ round.errno = .AGAIN_WOULDBLOCK then
    .later
  else
    .failed

/-- The call of `sendto` in a round, if there is one. -/
def DatagramRound.sendto?
    (protocol : Protocol)
    (round : DatagramRound) : Option Sendto :=
  (udpSockaddr protocol round.behind).map fun sa =>
    { ptr := round.node.ptr
      sz := round.node.sz
      sa := sa
      result := round.sendtoResult }

/-- The head leaves the list in a round. -/
def DatagramRound.leaves
    (protocol : Protocol)
    (round : DatagramRound) : Prop :=
  udpSockaddr protocol round.behind = none ∨ round.sendtoResult ≠ .later

instance
    (protocol : Protocol)
    (round : DatagramRound) :
    Decidable (round.leaves protocol) :=
  inferInstanceAs (Decidable (_ ∨ _))

/-- The datagrams that are left of a queue, if the rounds were on its heads. -/
def followRounds
    (protocol : Protocol) :
    List Datagram → List DatagramRound → Option (List Datagram)
  | queue, [] => some queue
  | [], _ :: _ => none
  | datagram :: queue, round :: rounds =>
      if round.node = datagram.node then
        followRounds protocol
          (if round.leaves protocol then queue else datagram :: queue) rounds
      else none

/-- In every round the memory behind the node had the address of the datagram. -/
def Finds
    (protocol : Protocol) : List Datagram → List DatagramRound → Prop
  | _, [] => True
  | [], _ :: _ => True
  | datagram :: queue, round :: rounds =>
      udpSockaddr protocol round.behind =
          udpSockaddr protocol datagram.address ∧
        Finds protocol
          (if round.leaves protocol then queue else datagram :: queue) rounds

/-- A call of `sendto` with a whole datagram and its address. -/
structure Datagram.Sends
    (datagram : Datagram)
    (protocol : Protocol)
    (call : Sendto) : Prop where
  ptr : call.ptr = datagram.node.ptr
  sz : call.sz = datagram.node.sz
  sa : udpSockaddr protocol datagram.address = some call.sa

/--
The calls of `sendto` take the datagrams of a queue in order.  A datagram is
tried until it is sent or there is another error than `EINTR` or `EAGAIN`, and
then it leaves the queue.
-/
inductive Settles
    (protocol : Protocol) :
    List Datagram → List Sendto → List Datagram → Prop where
  | nil
      {queue : List Datagram} :
      Settles protocol queue [] queue
  | later
      {datagram : Datagram}
      {queue rest : List Datagram}
      {call : Sendto}
      {calls : List Sendto}
      (sends : datagram.Sends protocol call)
      (isLater : call.result = .later)
      (settles : Settles protocol (datagram :: queue) calls rest) :
      Settles protocol (datagram :: queue) (call :: calls) rest
  | settled
      {datagram : Datagram}
      {queue rest : List Datagram}
      {call : Sendto}
      {calls : List Sendto}
      (sends : datagram.Sends protocol call)
      (isSettled : call.result ≠ .later)
      (settles : Settles protocol queue calls rest) :
      Settles protocol (datagram :: queue) (call :: calls) rest

/-- How many calls settle a datagram. -/
def settledCount (calls : List Sendto) : Nat :=
  calls.countP fun call => call.result ≠ .later

variable
    {protocol : Protocol}
    {queue rest : List Datagram}
    {round : DatagramRound}
    {rounds more : List DatagramRound}
    {calls : List Sendto}

/-- Every datagram that leaves a queue was settled by a call. -/
theorem Settles.length
    (settles : Settles protocol queue calls rest) :
    rest.length + settledCount calls = queue.length := by
  induction settles with
  | nil =>
      rfl
  | later sends isLater settles inductionHypothesis =>
      rw [← inductionHypothesis, settledCount, settledCount, List.countP_cons_of_neg]
      simp [isLater]
  | settled sends isSettled settles inductionHypothesis =>
      rw [List.length_cons, ← inductionHypothesis, settledCount, settledCount,
        List.countP_cons_of_pos (by simp [isSettled]), Nat.add_assoc]

/-- What is left of a longer queue. -/
theorem followRounds_append_queue
    (followed : followRounds protocol queue rounds = some rest)
    (new : List Datagram) :
    followRounds protocol (queue ++ new) rounds = some (rest ++ new) := by
  induction rounds generalizing queue with
  | nil =>
      cases followed
      rfl
  | cons round rounds inductionHypothesis =>
      cases queue with
      | nil =>
          cases followed
      | cons datagram queue =>
          rw [followRounds] at followed
          rw [List.cons_append, followRounds]
          split at followed
          · next isHead =>
              rw [if_pos isHead, ← inductionHypothesis followed]
              split <;> rfl
          · cases followed

/-- More rounds go on with what is left. -/
theorem followRounds_append_rounds
    (followed : followRounds protocol queue rounds = some rest) :
    followRounds protocol queue (rounds ++ more) = followRounds protocol rest more := by
  induction rounds generalizing queue with
  | nil =>
      cases followed
      rfl
  | cons round rounds inductionHypothesis =>
      cases queue with
      | nil =>
          cases followed
      | cons datagram queue =>
          rw [followRounds] at followed
          rw [List.cons_append, followRounds]
          split at followed
          · next isHead =>
              rw [if_pos isHead]
              exact inductionHypothesis followed
          · cases followed

/-- The calls of `sendto` in some rounds. -/
def sendtoCalls
    (protocol : Protocol)
    (rounds : List DatagramRound) : List Sendto :=
  rounds.filterMap fun round => round.sendto? protocol

/-- A datagram without an address is dropped without a call. -/
theorem DatagramRound.leaves_of_none
    (noAddress : udpSockaddr protocol round.behind = none) :
    round.leaves protocol :=
  Or.inl noAddress

theorem DatagramRound.leaves_of_settled
    (isSettled : round.sendtoResult ≠ .later) :
    round.leaves protocol :=
  Or.inr isSettled

theorem DatagramRound.not_leaves
    {sa : KSockaddrAll}
    (isFound : udpSockaddr protocol round.behind = some sa)
    (isLater : round.sendtoResult = .later) :
    ¬ round.leaves protocol := by
  rintro (noAddress | isSettled)
  · rw [isFound] at noAddress
    cases noAddress
  · exact isSettled isLater

theorem sendtoCalls_of_none
    (noAddress : udpSockaddr protocol round.behind = none) :
    sendtoCalls protocol (round :: rounds) = sendtoCalls protocol rounds := by
  have noCall : round.sendto? protocol = none := by
    rw [DatagramRound.sendto?, noAddress]
    rfl
  exact List.filterMap_cons_none noCall

theorem sendtoCalls_of_some
    {sa : KSockaddrAll}
    (isFound : udpSockaddr protocol round.behind = some sa) :
    sendtoCalls protocol (round :: rounds) =
      ⟨round.node.ptr, round.node.sz, sa, round.sendtoResult⟩ ::
        sendtoCalls protocol rounds := by
  have isCall :
      round.sendto? protocol =
        some ⟨round.node.ptr, round.node.sz, sa, round.sendtoResult⟩ := by
    rw [DatagramRound.sendto?, isFound]
    rfl
  exact List.filterMap_cons_some isCall

/-- No more calls settle a datagram than datagrams leave. -/
theorem settledCount_le
    (followed : followRounds protocol queue rounds = some rest) :
    rest.length + settledCount (sendtoCalls protocol rounds) ≤
      queue.length := by
  induction rounds generalizing queue with
  | nil =>
      cases followed
      exact Nat.le_refl _
  | cons round rounds inductionHypothesis =>
      cases queue with
      | nil =>
          cases followed
      | cons datagram queue =>
          rw [followRounds] at followed
          split at followed
          · have shorter := inductionHypothesis followed
            cases isFound : udpSockaddr protocol round.behind with
            | none =>
                rw [if_pos (DatagramRound.leaves_of_none isFound)] at shorter
                rw [sendtoCalls_of_none isFound, List.length_cons]
                exact Nat.le_succ_of_le shorter
            | some sa =>
                rw [sendtoCalls_of_some isFound, settledCount]
                by_cases isLater : round.sendtoResult = .later
                · rw [if_neg (DatagramRound.not_leaves isFound isLater)]
                    at shorter
                  rw [List.countP_cons_of_neg (by simp [isLater])]
                  exact shorter
                · rw [if_pos (DatagramRound.leaves_of_settled isLater)]
                    at shorter
                  rw [List.countP_cons_of_pos (by simp [isLater]),
                    List.length_cons, ← Nat.add_assoc]
                  exact Nat.succ_le_succ shorter
          · cases followed

/-- With the right address in every round the calls deliver the datagrams. -/
theorem Finds.settles
    (fits :
      ∀ datagram ∈ queue, (udpSockaddr protocol datagram.address).isSome)
    (followed : followRounds protocol queue rounds = some rest)
    (finds : Finds protocol queue rounds) :
    Settles protocol queue (sendtoCalls protocol rounds) rest := by
  induction rounds generalizing queue with
  | nil =>
      cases followed
      exact .nil
  | cons round rounds inductionHypothesis =>
      cases queue with
      | nil =>
          cases followed
      | cons datagram queue =>
          rw [followRounds] at followed
          rw [Finds] at finds
          obtain ⟨sa, isSa⟩ :=
            Option.isSome_iff_exists.mp (fits datagram List.mem_cons_self)
          have isFound := finds.1.trans isSa
          split at followed
          · next isHead =>
              have sends :
                  datagram.Sends protocol
                    ⟨round.node.ptr, round.node.sz, sa,
                      round.sendtoResult⟩ :=
                ⟨congrArg WriteBuffer.ptr isHead,
                  congrArg WriteBuffer.sz isHead, isSa⟩
              rw [sendtoCalls_of_some isFound]
              by_cases isLater : round.sendtoResult = .later
              · have stays := DatagramRound.not_leaves isFound isLater
                rw [if_neg stays] at followed finds
                exact .later sends isLater
                  (inductionHypothesis fits followed finds.2)
              · have leaves : round.leaves protocol :=
                  DatagramRound.leaves_of_settled isLater
                rw [if_pos leaves] at followed finds
                refine .settled sends isLater
                  (inductionHypothesis (fun other member => ?_) followed
                    finds.2)
                exact fits other (List.mem_cons_of_mem _ member)
          · cases followed

/-- Calls that deliver the datagrams come from rounds with the right address. -/
theorem Settles.finds
    {left : List Datagram}
    (followed : followRounds protocol queue rounds = some rest)
    (settles : Settles protocol queue (sendtoCalls protocol rounds) left)
    (isLeft : left.length = rest.length) :
    Finds protocol queue rounds := by
  induction rounds generalizing queue with
  | nil =>
      trivial
  | cons round rounds inductionHypothesis =>
      cases queue with
      | nil =>
          cases followed
      | cons datagram queue =>
          rw [followRounds] at followed
          rw [Finds]
          split at followed
          · cases isFound : udpSockaddr protocol round.behind with
            | none =>
                -- the datagram left, and no call was made for it
                rw [if_pos (DatagramRound.leaves_of_none isFound)] at followed
                rw [sendtoCalls_of_none isFound] at settles
                have tooFew := settledCount_le followed
                have enough := settles.length
                rw [isLeft, List.length_cons] at enough
                omega
            | some sa =>
                rw [sendtoCalls_of_some isFound] at settles
                cases settles with
                | later sends isLater settles =>
                    rw [if_neg (DatagramRound.not_leaves isFound isLater)]
                      at followed ⊢
                    exact ⟨sends.sa.symm,
                      inductionHypothesis followed settles⟩
                | settled sends isSettled settles =>
                    rw [if_pos (DatagramRound.leaves_of_settled isSettled)]
                      at followed ⊢
                    exact ⟨sends.sa.symm,
                      inductionHypothesis followed settles⟩
          · cases followed

end Rounds

section Traced

/-- The round that one round of the loop of `SendListUDP` is. -/
def roundOf
    (priority : Priority)
    (input : OsAnswer)
    (v : SocketView Worker) : List DatagramRound :=
  match v.sock.list priority with
  | [] => []
  | node :: _ =>
      [{ node := node
         behind := input.bytes
         result := input.result
         errno := input.errno }]

/-- Code on a socket that records the rounds of `SendListUDP`. -/
abbrev TracedAction (Worker α : Type) :=
  Program (SocketView Worker × List DatagramRound) OsAnswer α

/-- The loop of `SendListUDP`, with its rounds. -/
def tracedListUDPLoop
    (priority : Priority) : Nat → TracedAction Worker Outcome
  | 0 => return none
  | nodes + 1 => do
      match ← (sendHeadUDP priority).traced (roundOf priority) with
      | .all => tracedListUDPLoop priority nodes
      | _ => return none

/-- `SendListUDP`, with its rounds. -/
def tracedListUDP (priority : Priority) : TracedAction Worker Outcome := do
  let nodes ←
    (load fun sock => (sock.list priority).length).traced fun _ _ => []
  tracedListUDPLoop priority nodes

variable
    {v v' : SocketView Worker}
    {priority : Priority}
    {rounds rounds' : List DatagramRound}
    {outcome : Outcome}

theorem yields_of_tracedListUDPLoop
    {nodes : Nat}
    (yields :
      (tracedListUDPLoop priority nodes).Yields (v, rounds) outcome
        (v', rounds')) :
    (sendListUDPLoop priority nodes).Yields v outcome v' := by
  induction nodes generalizing v rounds with
  | zero =>
      cases yields
      exact .done
  | succ nodes inductionHypothesis =>
      obtain ⟨written, ⟨middle, between⟩, head, later⟩ :=
        Program.yields_bind.mp yields
      refine Program.yields_bind.mpr
        ⟨written, middle, Program.yields_of_traced head, ?_⟩
      cases written with
      | all =>
          exact inductionHypothesis later
      | empty | part | failed =>
          cases later
          exact .done

/-- Without the rounds it is `SendListUDP`. -/
theorem yields_of_tracedListUDP
    (yields :
      (tracedListUDP priority).Yields (v, rounds) outcome (v', rounds')) :
    (sendListUDP priority).Yields v outcome v' := by
  obtain ⟨nodes, ⟨middle, between⟩, loads, later⟩ :=
    Program.yields_bind.mp yields
  exact Program.yields_bind.mpr
    ⟨nodes, middle, Program.yields_of_traced loads,
      yields_of_tracedListUDPLoop later⟩

theorem exists_tracedListUDPLoop
    {nodes : Nat}
    (yields : (sendListUDPLoop priority nodes).Yields v outcome v')
    (rounds : List DatagramRound) :
    ∃ rounds',
      (tracedListUDPLoop priority nodes).Yields (v, rounds) outcome
        (v', rounds') := by
  induction nodes generalizing v rounds with
  | zero =>
      cases yields
      exact ⟨rounds, .done⟩
  | succ nodes inductionHypothesis =>
      obtain ⟨written, middle, head, later⟩ := Program.yields_bind.mp yields
      obtain ⟨between, traced⟩ :=
        Program.exists_traced (roundOf priority) head rounds
      cases written with
      | all =>
          obtain ⟨rounds', rest⟩ := inductionHypothesis later between
          exact ⟨rounds', Program.yields_bind.mpr
            ⟨.all, (middle, between), traced, rest⟩⟩
      | empty =>
          cases later
          exact ⟨between, Program.yields_bind.mpr
            ⟨.empty, (v', between), traced, .done⟩⟩
      | part =>
          cases later
          exact ⟨between, Program.yields_bind.mpr
            ⟨.part, (v', between), traced, .done⟩⟩
      | failed =>
          cases later
          exact ⟨between, Program.yields_bind.mpr
            ⟨.failed, (v', between), traced, .done⟩⟩

/-- Every run of `SendListUDP` has its rounds. -/
theorem exists_tracedListUDP
    (yields : (sendListUDP priority).Yields v outcome v')
    (rounds : List DatagramRound) :
    ∃ rounds',
      (tracedListUDP priority).Yields (v, rounds) outcome (v', rounds') := by
  obtain ⟨nodes, middle, loads, later⟩ := Program.yields_bind.mp yields
  obtain ⟨between, traced⟩ :=
    Program.exists_traced (fun _ _ => ([] : List DatagramRound)) loads rounds
  obtain ⟨rounds', rest⟩ := exists_tracedListUDPLoop later between
  exact ⟨rounds', Program.yields_bind.mpr
    ⟨nodes, (middle, between), traced, rest⟩⟩

end Traced

section Queue

variable
    {v v' : SocketView Worker}
    {priority : Priority}
    {queue : List Datagram}
    {rounds rounds' : List DatagramRound}
    {outcome : Outcome}

/-- The rounds so far leave the datagrams whose nodes are in a list. -/
def Holds
    (protocol : Protocol)
    (queue : List Datagram)
    (rounds : List DatagramRound)
    (list : List WriteBuffer) : Prop :=
  ∃ rest,
    followRounds protocol queue rounds = some rest ∧ rest.map (·.node) = list

/-- More datagrams in the queue are more nodes in the list. -/
theorem Holds.append
    {protocol : Protocol}
    {list : List WriteBuffer}
    (isHeld : Holds protocol queue rounds list)
    (new : List Datagram) :
    Holds protocol (queue ++ new) rounds (list ++ new.map (·.node)) := by
  obtain ⟨rest, followed, rfl⟩ := isHeld
  exact ⟨rest ++ new, followRounds_append_queue followed new, List.map_append⟩

/-- A round takes the head off the list when it leaves. -/
theorem Holds.round
    {protocol : Protocol}
    {node : WriteBuffer}
    {list : List WriteBuffer}
    (isHeld : Holds protocol queue rounds (node :: list))
    {round : DatagramRound}
    (isHead : round.node = node) :
    Holds protocol queue (rounds ++ [round])
      (if round.leaves protocol then list else node :: list) := by
  obtain ⟨rest, followed, isList⟩ := isHeld
  cases rest with
  | nil =>
      cases isList
  | cons datagram rest =>
      rw [List.map_cons, List.cons.injEq] at isList
      refine ⟨if round.leaves protocol then rest else datagram :: rest, ?_, ?_⟩
      · rw [followRounds_append_rounds followed, followRounds,
          if_pos (isHead.trans isList.1.symm), followRounds]
      · split
        · exact isList.2
        · rw [List.map_cons, isList.1, isList.2]

/-- The decoder gives no address where `UDPSocketAddress` returns 0. -/
theorem udpSocketAddress_eq_zero_iff
    {protocol : Protocol}
    {udp_address : List UInt8} :
    udpSocketAddress protocol udp_address = 0 ↔
      udpSockaddr protocol udp_address = none := by
  rw [udpSocketAddress_eq]
  cases udpSockaddr protocol udp_address with
  | none =>
      exact iff_of_true rfl rfl
  | some sa =>
      refine iff_of_false ?_ (Option.some_ne_none sa)
      rw [Option.map_some, Option.getD_some, KSockaddrAll.size]
      split <;> decide

/-- What a round does to a socket that a queue belongs to. -/
structure KeepsQueue
    (priority : Priority)
    (v v' : SocketView Worker) : Prop where
  protocol : v'.sock.protocol = v.sock.protocol
  other : ∀ q, q ≠ priority → v'.sock.list q = v.sock.list q

/-- The head stays only where `sendto` is to be tried again. -/
theorem not_leaves_iff
    {protocol : Protocol}
    {node : WriteBuffer}
    {input : OsAnswer} :
    udpSocketAddress protocol input.bytes ≠ 0 ∧
        input.result < 0 ∧
        (input.errno = .EINTR ∨ input.errno = .AGAIN_WOULDBLOCK) ↔
      ¬ DatagramRound.leaves protocol
        ⟨node, input.bytes, input.result, input.errno⟩ := by
  rw [DatagramRound.leaves, not_or, not_not, ne_eq,
    udpSocketAddress_eq_zero_iff, DatagramRound.sendtoResult]
  refine and_congr_right fun _ => ?_
  by_cases isSent : 0 ≤ input.result
  · simp [isSent, not_lt.mpr isSent]
  · simp [isSent, not_le.mp isSent, or_iff_not_imp_left]

/-- A round keeps the queue that its list is of. -/
theorem sendHeadUDP_holds
    {written : HeadWritten}
    (isHeld : Holds v.sock.protocol queue rounds (v.sock.list priority))
    (yields :
      ((sendHeadUDP priority).traced (roundOf priority)).Yields (v, rounds)
        written (v', rounds')) :
    KeepsQueue priority v v' ∧
      Holds v.sock.protocol queue rounds' (v'.sock.list priority) := by
  obtain ⟨input, ⟨middle, between⟩, taken, later⟩ := Program.yields_step.mp yields
  cases later
  cases taken
  cases isList : v.sock.list priority with
  | nil =>
      simp only [roundOf, isList, List.append_nil]
      rw [isList] at isHeld
      exact ⟨⟨rfl, fun _ _ => rfl⟩, isHeld⟩
  | cons node list =>
      rw [isList] at isHeld
      let round : DatagramRound :=
        ⟨node, input.bytes, input.result, input.errno⟩
      have isRound := isHeld.round (rfl : round.node = node)
      simp only [roundOf, isList]
      by_cases isKept :
          udpSocketAddress v.sock.protocol input.bytes ≠ 0 ∧
            input.result < 0 ∧
            (input.errno = .EINTR ∨ input.errno = .AGAIN_WOULDBLOCK)
      · rw [if_neg (not_leaves_iff.mp isKept)] at isRound
        rw [if_pos isKept, isList]
        exact ⟨⟨rfl, fun _ _ => rfl⟩, isRound⟩
      · rw [if_pos (not_not.mp (isKept ∘ not_leaves_iff.mpr))] at isRound
        rw [if_neg isKept]
        constructor
        · constructor
          · cases priority <;> rfl
          · intro other isOther
            cases priority <;> cases other <;>
              first | rfl | exact absurd rfl isOther
        · have isRest :
              ({ v.sock.setList priority list with
                  wb_size := v.sock.wb_size - sizeOfBytes node.sz } :
                Socket Worker).list priority = list := by
            cases priority <;> rfl
          rw [isRest]
          exact isRound

theorem tracedListUDPLoop_holds
    {nodes : Nat}
    (isHeld : Holds v.sock.protocol queue rounds (v.sock.list priority))
    (yields :
      (tracedListUDPLoop priority nodes).Yields (v, rounds) outcome
        (v', rounds')) :
    KeepsQueue priority v v' ∧
      Holds v.sock.protocol queue rounds' (v'.sock.list priority) := by
  induction nodes generalizing v rounds with
  | zero =>
      cases yields
      exact ⟨⟨rfl, fun _ _ => rfl⟩, isHeld⟩
  | succ nodes inductionHypothesis =>
      obtain ⟨written, ⟨middle, between⟩, head, later⟩ :=
        Program.yields_bind.mp yields
      obtain ⟨kept, isMiddle⟩ := sendHeadUDP_holds isHeld head
      cases written with
      | all =>
          rw [← kept.protocol] at isMiddle
          obtain ⟨keptLater, isEnd⟩ := inductionHypothesis isMiddle later
          rw [kept.protocol] at isEnd
          refine ⟨⟨keptLater.protocol.trans kept.protocol, ?_⟩, isEnd⟩
          intro other isOther
          exact (keptLater.other other isOther).trans (kept.other other isOther)
      | empty | part | failed =>
          cases later
          exact ⟨kept, isMiddle⟩

/-- `SendListUDP` keeps the queue that its list is of. -/
theorem tracedListUDP_holds
    (isHeld : Holds v.sock.protocol queue rounds (v.sock.list priority))
    (yields :
      (tracedListUDP priority).Yields (v, rounds) outcome (v', rounds')) :
    KeepsQueue priority v v' ∧
      Holds v.sock.protocol queue rounds' (v'.sock.list priority) := by
  obtain ⟨nodes, ⟨middle, between⟩, loads, later⟩ :=
    Program.yields_bind.mp yields
  obtain ⟨input, ⟨loaded, recorded⟩, taken, isEnd⟩ :=
    Program.yields_step.mp loads
  cases isEnd
  simp only [Option.map_some, List.append_nil, Option.some.injEq,
    Prod.mk.injEq] at taken
  obtain ⟨rfl, rfl⟩ := taken
  exact tracedListUDPLoop_holds isHeld later

end Queue

section Appended

variable {request : RequestSend Buffer}

/-- Nodes of a request are added to the lists of a socket, and nothing else. -/
structure Extends
    (request : RequestSend Buffer)
    (v v' : SocketView Worker) : Prop where
  protocol : v'.sock.protocol = v.sock.protocol
  lists :
    ∀ q, ∃ n,
      v'.sock.list q = v.sock.list q ++ List.replicate n (appendNode request)

/-- Where the lists and the protocol are the same, no nodes are added. -/
theorem Extends.of_eq
    {v v' : SocketView Worker}
    (protocol : v'.sock.protocol = v.sock.protocol)
    (lists : ∀ q, v'.sock.list q = v.sock.list q) :
    Extends request v v' :=
  ⟨protocol, fun q => ⟨0, (lists q).trans (List.append_nil _).symm⟩⟩

instance : Std.Refl (Extends request : SocketView Worker → _ → Prop) where
  refl _ := .of_eq rfl fun _ => rfl

theorem Extends.trans
    {first second third : SocketView Worker}
    (isSecond : Extends request first second)
    (isThird : Extends request second third) :
    Extends request first third := by
  refine ⟨isThird.protocol.trans isSecond.protocol, fun q => ?_⟩
  obtain ⟨n, added⟩ := isSecond.lists q
  obtain ⟨more, addedMore⟩ := isThird.lists q
  refine ⟨n + more, ?_⟩
  rw [addedMore, added, List.append_assoc, List.replicate_append_replicate]

/-- `SendSocket` adds nodes of its request. -/
theorem extends_of_sendSocket
    {v v' : SocketView Worker}
    {priority : Priority}
    {udp_address : Option (List UInt8)}
    {outcome : Outcome}
    (yields : (sendSocket request priority udp_address).Yields v outcome v') :
    Extends request v v' := by
  have follows :
      (sendSocket request priority udp_address :
        SocketAction Worker Outcome).Follows (Extends request) := by
    refine sendSocket_follows priority udp_address ?_ ?_ ?_
    · intro priority v
      refine ⟨by cases priority <;> rfl, fun q => ?_⟩
      by_cases isList : q = priority
      · refine ⟨1, ?_⟩
        rw [isList]
        cases priority <;> rfl
      · refine ⟨0, ?_⟩
        rw [List.replicate_zero, List.append_nil]
        cases q <;> cases priority <;> first | rfl | exact absurd rfl isList
    · exact fun v => .of_eq rfl fun q => by cases q <;> rfl
    · exact fun size v => .of_eq rfl fun q => by cases q <;> rfl
  exact (Program.Within.of_yields follows (fun _ => Std.Refl.refl _)
    (fun _ _ _ => Extends.trans) yields).1

/-- Code that changes nothing ends where it began. -/
theorem unchanged_of_yields
    {action : SocketAction Worker α}
    {v v' : SocketView Worker}
    {result : α}
    (follows : action.Follows Eq)
    (yields : action.Yields v result v') :
    v = v' :=
  (Program.Within.of_yields follows (fun _ => rfl) (fun _ _ _ => Eq.trans)
    yields).1

/-- A pointer that was never set happens to point to memory for a node. -/
def Pointing (input : OsAnswer) : Prop :=
  input.flag = true

/-- Where a datagram is to go: to its address, or to the connected one. -/
def Socket.destination
    (sock : Socket Worker)
    (udp_address : Option (List UInt8)) : Option (List UInt8) :=
  match udp_address, sock.p with
  | some address, _ => some address
  | none, .udpAddress address => some address
  | none, .size _ => none

/-- With memory for the node, a request is queued without a crash. -/
theorem appended_crashes
    {v : SocketView Worker}
    {priority : Priority}
    {after : SocketAction Worker Outcome}
    (crashes :
      (do appendSendbuffer priority request; after).Crashes Pointing v) :
    after.Crashes Pointing
      { v with sock := v.sock.append priority request } := by
  simp only [appendSendbuffer, useUnset, answer, Program.bind_assoc] at crashes
  obtain ⟨input, isPointing, crashes⟩ := crashes.of_ask
  have isSet : input.flag = true := isPointing
  rw [if_pos isSet] at crashes
  obtain ⟨_, -, crashes⟩ := crashes.of_act
  exact crashes

/-- `SendSocket` of a request that is queued crashes only at a warning. -/
theorem warned_crashes
    {v : SocketView Worker}
    {priority queued : Priority}
    (crashes :
      (do appendSendbuffer queued request; warnSocket).Crashes Pointing v) :
    (v.sock.append priority request).Exceeds := by
  have exceeds := warnSocket_crashes (appended_crashes crashes)
  cases priority <;> cases queued <;> exact exceeds

/-- So it does where writing is enabled in between. -/
theorem enabled_crashes
    {v : SocketView Worker}
    {priority queued : Priority}
    (crashes :
      (do
        appendSendbuffer queued request
        if ← enableWrite true then
          return ← reportError "enable write failed"
        warnSocket).Crashes Pointing v) :
    (v.sock.append priority request).Exceeds := by
  obtain ⟨_, -, crashes⟩ := (appended_crashes crashes).of_act
  dsimp only at crashes
  split at crashes
  · obtain ⟨_, -, crashes⟩ := crashes.of_ask
    exact (Program.not_crashes_pure _ crashes).elim
  · have exceeds := warnSocket_crashes crashes
    cases priority <;> cases queued <;> exact exceeds

theorem getUdpAddress_crashes
    {v : SocketView Worker} :
    ¬ getUdpAddress.Crashes Pointing v := by
  intro crashes
  obtain ⟨_, -, crashes⟩ := crashes.of_ask
  split at crashes
  · exact Program.not_crashes_pure _ crashes
  · rcases crashes with _ | ⟨_, _, _, crashes⟩
    exact Program.not_crashes_pure _ crashes

/-- The address of a datagram is found without a crash. -/
theorem sendSocketUDP_crashes
    (udp_address : Option (List UInt8))
    {v : SocketView Worker} :
    ¬ (sendSocketUDP request udp_address).Crashes Pointing v := by
  have judged
      {middle : SocketView Worker}
      (address : List UInt8) :
      ¬ (do
          if udpSocketAddress (← load (·.protocol)) address = 0 then
            return false
          return UInt64.ofInt (← answer (·.result)) ≠ request.sz :
            SocketAction Worker Bool).Crashes Pointing middle := by
    intro crashes
    obtain ⟨_, -, crashes⟩ := crashes.of_ask
    dsimp only at crashes
    split at crashes
    · exact Program.not_crashes_pure _ crashes
    · obtain ⟨_, -, crashes⟩ := crashes.of_ask
      exact Program.not_crashes_pure _ crashes
  intro crashes
  cases udp_address with
  | some address =>
      exact judged address crashes
  | none =>
      rcases crashes.of_bind with crashes | ⟨address, _, _, crashes⟩
      · exact getUdpAddress_crashes crashes
      · exact judged address crashes

/-- With memory for its node, `SendSocket` crashes only at a warning. -/
theorem sendSocket_crashes
    {v : SocketView Worker}
    {priority : Priority}
    {udp_address : Option (List UInt8)}
    (crashes :
      (sendSocket request priority udp_address).Crashes Pointing v) :
    (v.sock.append priority request).Exceeds := by
  have guarded
      {condition : Prop}
      [Decidable condition]
      {rest : SocketAction Worker Outcome}
      (crashes :
        (if condition then return none else rest).Crashes Pointing v) :
      rest.Crashes Pointing v := by
    split at crashes
    · exact (Program.not_crashes_pure _ crashes).elim
    · exact crashes
  obtain ⟨_, -, crashes⟩ := crashes.of_ask
  obtain ⟨_, -, crashes⟩ := (guarded crashes).of_ask
  obtain ⟨_, -, crashes⟩ := (guarded (guarded (guarded crashes))).of_ask
  have crashes := guarded (guarded crashes)
  have looks :
      (sendBufferEmpty : SocketAction Worker Bool).Follows Eq :=
    .andM (.ask _) (.ask _)
  rcases crashes.of_bind with crashes | ⟨isEmpty, middle, yields, crashes⟩
  · exact (Program.not_crashes_andM (fun _ => Program.not_crashes_ask _)
      (fun _ => Program.not_crashes_ask _) crashes).elim
  obtain rfl := unchanged_of_yields looks yields
  split at crashes
  · obtain ⟨_, -, crashes⟩ := crashes.of_ask
    dsimp only at crashes
    split at crashes
    · exact enabled_crashes crashes
    · rcases crashes.of_bind with crashes | ⟨isLeft, middle, yields, crashes⟩
      · exact (sendSocketUDP_crashes _ crashes).elim
      obtain rfl := unchanged_of_yields (sendSocketUDP_follows _) yields
      split at crashes
      · exact enabled_crashes crashes
      · exact (Program.not_crashes_pure _ crashes).elim
  · obtain ⟨_, -, crashes⟩ := crashes.of_ask
    dsimp only at crashes
    split at crashes
    · rcases crashes.of_bind with crashes | ⟨_, middle, yields, crashes⟩
      · exact (getUdpAddress_crashes crashes).elim
      obtain rfl := unchanged_of_yields getUdpAddress_follows yields
      exact warned_crashes crashes
    · exact warned_crashes crashes

/-- Neither the lists of a socket nor its protocol are changed. -/
structure KeepsLists (v v' : SocketView Worker) : Prop where
  protocol : v'.sock.protocol = v.sock.protocol
  lists : ∀ q, v'.sock.list q = v.sock.list q

instance : Std.Refl (KeepsLists : SocketView Worker → _ → Prop) where
  refl _ := ⟨rfl, fun _ => rfl⟩

/-- `SetUDPAddress` does nothing to the lists. -/
theorem keepsLists_of_setUDPAddress
    {v v' : SocketView Worker}
    {id : Int32}
    {address : List UInt8}
    {outcome : Outcome}
    (yields : (setUDPAddress id address).Yields v outcome v') :
    KeepsLists v v' := by
  have stored
      (change : Socket Worker → Socket Worker)
      (keeps :
        ∀ v : SocketView Worker,
          KeepsLists v { v with sock := change v.sock }) :
      (store change : SocketAction Worker Unit).Follows KeepsLists :=
    .act fun _ => keeps
  have follows :
      (setUDPAddress id address : SocketAction Worker Outcome).Follows
        KeepsLists := by
    refine .bind (.bind (.ask _) fun _ => .ite (.pure _)
      (.bind (.ask _) fun _ => .pure _)) fun _ => .ite (.pure _) ?_
    refine .bind (.ask _) fun _ =>
      .ite (.bind (.ask _) fun _ => .pure _) ?_
    refine .bind getUdpAddress_follows fun _ =>
      .bind (stored _ ?_) fun _ => .bind (stored _ ?_) fun _ => .pure _
    · exact fun v => ⟨rfl, fun q => by cases q <;> rfl⟩
    · exact fun v => ⟨rfl, fun q => by cases q <;> rfl⟩
  refine (Program.Within.of_yields follows (fun _ => Std.Refl.refl _) ?_
    yields).1
  intro first second third isSecond isThird
  exact ⟨isThird.protocol.trans isSecond.protocol, fun q =>
    (isThird.lists q).trans (isSecond.lists q)⟩

end Appended

section Runs

/--
A socket, the datagrams that were queued on it, the rounds so far, and whether
the process ended with a datagram to queue.
-/
structure DatagramState (Worker : Type) where
  view : SocketView Worker
  queued : Priority → List Datagram
  rounds : Priority → List DatagramRound
  ended : Bool

/-- What the socket thread is asked to do with a socket for datagrams. -/
inductive DatagramMove where
  /-- `SendSocket`; `buf` happens to point to memory for a node, or not. -/
  | send
      (request : RequestSend Buffer)
      (priority : Priority)
      (udp_address : Option (List UInt8))
      (buf : Bool)
  | connect (id : Int32) (address : List UInt8)
  | flush (priority : Priority)

/-- The datagrams that are queued when their nodes were added to a list. -/
def addedDatagrams
    (v v' : SocketView Worker)
    (datagram : Datagram)
    (q : Priority) : List Datagram :=
  List.replicate
    ((v'.sock.list q).length - (v.sock.list q).length) datagram

/-- `SendSocket`, `SetUDPAddress` or `SendListUDP` runs on the socket. -/
inductive DatagramStep :
    DatagramState Worker → DatagramMove → DatagramState Worker → Prop where
  | send
      {s : DatagramState Worker}
      {v' : SocketView Worker}
      {request : RequestSend Buffer}
      {priority : Priority}
      {udp_address : Option (List UInt8)}
      {buf : Bool}
      {outcome : Outcome}
      (address : List UInt8)
      (isRunning : s.ended = false)
      (isAddress : s.view.sock.destination udp_address = some address)
      (fits : (udpSockaddr s.view.sock.protocol address).isSome)
      (yields :
        (sendSocket request priority udp_address).Yields s.view outcome v') :
      DatagramStep s (.send request priority udp_address buf)
        { s with
          view := v'
          queued := fun q =>
            s.queued q ++
              addedDatagrams s.view v' ⟨appendNode request, address⟩ q }
  | ends
      {s : DatagramState Worker}
      {request : RequestSend Buffer}
      {priority : Priority}
      {udp_address : Option (List UInt8)}
      {buf : Bool}
      (isRunning : s.ended = false)
      (crashes :
        (sendSocket request priority udp_address).Crashes (·.flag = buf)
          s.view) :
      DatagramStep s (.send request priority udp_address buf)
        { s with ended := true }
  | connect
      {s : DatagramState Worker}
      {v' : SocketView Worker}
      {id : Int32}
      {address : List UInt8}
      {outcome : Outcome}
      (isRunning : s.ended = false)
      (yields : (setUDPAddress id address).Yields s.view outcome v') :
      DatagramStep s (.connect id address) { s with view := v' }
  | flush
      {s : DatagramState Worker}
      {v' : SocketView Worker}
      {priority : Priority}
      {rounds' : List DatagramRound}
      {outcome : Outcome}
      (isRunning : s.ended = false)
      (yields :
        (tracedListUDP priority).Yields (s.view, s.rounds priority) outcome
          (v', rounds')) :
      DatagramStep s (.flush priority)
        { s with
          view := v'
          rounds := Function.update s.rounds priority rounds' }

/-- No datagram was queued. -/
structure DatagramState.Fresh (s : DatagramState Worker) : Prop where
  lists : ∀ q, s.view.sock.list q = []
  queued : ∀ q, s.queued q = []
  rounds : ∀ q, s.rounds q = []
  running : s.ended = false

/-- What was to be queued was, and `sendto` delivered what left the lists. -/
def DatagramState.Delivered (s : DatagramState Worker) : Prop :=
  s.ended = false ∧
  ∀ q, ∃ remaining,
    Settles s.view.sock.protocol (s.queued q)
        (sendtoCalls s.view.sock.protocol (s.rounds q)) remaining ∧
      remaining.map (·.node) = s.view.sock.list q

/-- The rounds found the addresses of the datagrams behind the nodes. -/
def DatagramState.Found (s : DatagramState Worker) : Prop :=
  ∀ q, Finds s.view.sock.protocol (s.queued q) (s.rounds q)

/--
The pointer that `AppendSendbuffer_` never sets points to memory for a node, and
the bytes with those of the datagram are not to be warned of.
-/
def Lands
    (s : DatagramState Worker)
    (move : DatagramMove) : Prop :=
  ∀ request priority udp_address buf,
    move = .send request priority udp_address buf →
      buf = true ∧ ¬ (s.view.sock.append priority request).Exceeds

/-- What holds of a socket for datagrams in every run. -/
structure Waits (s : DatagramState Worker) : Prop where
  fits :
    ∀ q, ∀ datagram ∈ s.queued q,
      (udpSockaddr s.view.sock.protocol datagram.address).isSome
  holds :
    ∀ q,
      Holds s.view.sock.protocol (s.queued q) (s.rounds q)
        (s.view.sock.list q)

variable
    {s next initial final : DatagramState Worker}
    {move : DatagramMove}
    {past : List (DatagramState Worker × DatagramMove)}

theorem DatagramState.Fresh.waits
    (fresh : s.Fresh) :
    Waits s := by
  constructor
  · intro q datagram member
    rw [fresh.queued] at member
    cases member
  · intro q
    rw [fresh.queued, fresh.rounds, fresh.lists]
    exact ⟨[], rfl, rfl⟩

/-- The invariant is kept by every step. -/
theorem DatagramStep.waits
    (step : DatagramStep s move next)
    (waits : Waits s) :
    Waits next := by
  cases step with
  | ends =>
      exact ⟨waits.fits, waits.holds⟩
  | @send v' request _ _ _ _ address isRunning isAddress fits yields =>
      obtain ⟨protocol, lists⟩ := extends_of_sendSocket yields
      constructor
      · intro q datagram member
        change (udpSockaddr v'.sock.protocol _).isSome
        rw [protocol]
        rcases List.mem_append.mp member with isOld | isNew
        · exact waits.fits q datagram isOld
        · rw [List.eq_of_mem_replicate isNew]
          exact fits
      · intro q
        obtain ⟨n, added⟩ := lists q
        change Holds v'.sock.protocol
          (s.queued q ++
            addedDatagrams s.view v' ⟨appendNode request, address⟩ q)
          (s.rounds q) (v'.sock.list q)
        have isMore :=
          (waits.holds q).append
            (List.replicate n ⟨appendNode request, address⟩)
        rw [protocol, added, addedDatagrams, added, List.length_append,
          List.length_replicate, Nat.add_sub_cancel_left]
        rw [List.map_replicate] at isMore
        exact isMore
  | @connect v' _ _ _ isRunning yields =>
      obtain ⟨protocol, lists⟩ := keepsLists_of_setUDPAddress yields
      constructor
      · intro q datagram member
        change (udpSockaddr v'.sock.protocol _).isSome
        rw [protocol]
        exact waits.fits q datagram member
      · intro q
        change Holds v'.sock.protocol (s.queued q) (s.rounds q)
          (v'.sock.list q)
        rw [protocol, lists]
        exact waits.holds q
  | @flush v' priority rounds' _ isRunning yields =>
      obtain ⟨kept, isHeld⟩ :=
        tracedListUDP_holds (waits.holds priority) yields
      constructor
      · intro q datagram member
        change (udpSockaddr v'.sock.protocol _).isSome
        rw [kept.protocol]
        exact waits.fits q datagram member
      · intro q
        change Holds v'.sock.protocol (s.queued q)
          (Function.update s.rounds priority rounds' q) (v'.sock.list q)
        rw [kept.protocol]
        by_cases isList : q = priority
        · rw [isList, Function.update_self]
          exact isHeld
        · rw [Function.update_of_ne isList, kept.other q isList]
          exact waits.holds q

/-- With memory for the nodes and few bytes the process does not end. -/
theorem DatagramStep.running
    (step : DatagramStep s move next)
    (lands : Lands s move) :
    next.ended = false := by
  cases step with
  | send _ isRunning | connect isRunning | flush isRunning =>
      exact isRunning
  | ends isRunning crashes =>
      obtain ⟨rfl, few⟩ := lands _ _ _ _ rfl
      exact absurd (sendSocket_crashes crashes) few

/--
In every run in which the nodes get memory and the bytes stay few, the datagrams
are queued, and the calls of `sendto` deliver them exactly when the memory
behind the nodes has their addresses.
-/
theorem delivered_iff_found
    (fresh : initial.Fresh)
    (run : Run DatagramStep initial past final)
    (lands : ∀ state move, (state, move) ∈ past → Lands state move) :
    final.Delivered ↔ final.Found := by
  have waits : Waits final :=
    run.invariant_of_step fresh.waits (fun waits step => step.waits waits)
      final List.mem_cons_self
  have running : final.ended = false :=
    run.invariant_visited fresh.running
      (fun _ lands step => step.running lands) (fun member => lands _ _ member)
      final List.mem_cons_self
  constructor
  · intro delivered q
    obtain ⟨rest, followed, isList⟩ := waits.holds q
    obtain ⟨remaining, settles, isRemaining⟩ := delivered.2 q
    refine settles.finds followed ?_
    have sameLength :=
      congrArg List.length (isRemaining.trans isList.symm)
    rwa [List.length_map, List.length_map] at sameLength
  · refine fun found => ⟨running, fun q => ?_⟩
    obtain ⟨rest, followed, isList⟩ := waits.holds q
    exact ⟨rest, (found q).settles (waits.fits q) followed, isList⟩

/-- `127.0.0.1:80`, and a datagram that goes there. -/
def queuedDatagram : Datagram where
  node := appendNode ⟨1, 3, some 0⟩
  address := [1, 0, 80, 127, 0, 0, 1]

/-- A connected UDP socket without datagrams. -/
def idleDatagrams : DatagramState Worker where
  view :=
    { index := 1
      sock :=
        { blankSocket with
          id := 1, type := .kSocketTypeConnected, protocol := .UDP }
      c_str := fun object => ⟨some object, 16⟩
      notes := [] }
  queued := fun _ => []
  rounds := fun _ => []
  ended := false

theorem idleDatagrams_fresh :
    (idleDatagrams : DatagramState Worker).Fresh :=
  ⟨fun q => by cases q <;> rfl, fun _ => rfl, fun _ => rfl, rfl⟩

variable (Worker) in
/-- The datagram is queued there when `sendto` fails. -/
theorem idleDatagrams_queues :
    ∃ s : DatagramState Worker,
      DatagramStep idleDatagrams
          (.send ⟨1, 3, some 0⟩ .high (some queuedDatagram.address) true) s ∧
        s.ended = false ∧
        s.view.sock.protocol = .UDP ∧
        s.view.sock.list .high = [queuedDatagram.node] ∧
        s.queued .high = [queuedDatagram] ∧
        s.queued .low = [] ∧
        s.rounds = fun _ => [] := by
  let input : OsAnswer :=
    { (default : OsAnswer) with result := -1, flag := true }
  have isRun :
      (Program.replay (List.replicate 16 input)
          (sendSocket ⟨1, 3, some 0⟩ .high (some queuedDatagram.address))
          (idleDatagrams : DatagramState Worker).view).map
        (fun ended =>
          (ended.2.sock.protocol, ended.2.sock.high, ended.2.sock.low)) =
      some (.UDP, [queuedDatagram.node], []) := by
    with_unfolding_all rfl
  obtain ⟨⟨outcome, v'⟩, replayed, isEnd⟩ := Option.map_eq_some_iff.mp isRun
  obtain ⟨isProtocol, isLists⟩ := Prod.mk.inj isEnd
  obtain ⟨isHigh, isLow⟩ := Prod.mk.inj isLists
  refine ⟨_, .send queuedDatagram.address rfl rfl rfl
    (Program.yields_of_replay replayed), rfl, isProtocol, isHigh, ?_, ?_, rfl⟩
  · change [] ++ List.replicate (v'.sock.high.length - 0) _ = _
    rw [isHigh]
    rfl
  · change [] ++ List.replicate (v'.sock.low.length - 0) _ = _
    rw [isLow]
    rfl

/-- `SendListUDP` of one datagram is one round, whatever is behind its node. -/
theorem tracedListUDP_single
    {v : SocketView Worker}
    {priority : Priority}
    {node : WriteBuffer}
    (isList : v.sock.list priority = [node])
    (rounds : List DatagramRound)
    (input : OsAnswer) :
    ∃ v',
      (tracedListUDP priority).Yields (v, rounds) none
        (v', rounds ++
          [⟨node, input.bytes, input.result, input.errno⟩]) := by
  obtain ⟨written, v', head, isRound⟩ :
      ∃ written v',
        ((sendHeadUDP priority).traced (roundOf priority)).Yields (v, rounds)
          written (v', rounds ++ roundOf priority input v) ∧
        roundOf priority input v =
          [⟨node, input.bytes, input.result, input.errno⟩] := by
    refine ⟨_, _, .step input rfl .done, ?_⟩
    rw [roundOf, isList]
  rw [isRound] at head
  have loads :
      ((load fun sock => (sock.list priority).length).traced
          fun _ _ => ([] : List DatagramRound)).Yields (v, rounds)
        (v.sock.list priority).length (v, rounds) := by
    refine Program.yields_step.mpr ⟨input, (v, rounds), ?_, .done⟩
    exact congrArg (fun entries => some (v, entries)) (List.append_nil _)
  refine ⟨v', Program.yields_bind.mpr ⟨_, _, loads, ?_⟩⟩
  rw [isList]
  refine Program.yields_bind.mpr ⟨written, _, head, ?_⟩
  cases written with
  | all | empty | part | failed =>
      exact .done

variable (Worker) in
/-- Then the list is sent, with these bytes behind the node. -/
theorem idleDatagrams_flushes
    (behind : List UInt8) :
    ∃ (past : _) (s : DatagramState Worker),
      Run DatagramStep idleDatagrams past s ∧
        (∀ state move, (state, move) ∈ past → Lands state move) ∧
        s.view.sock.protocol = .UDP ∧
        s.queued .high = [queuedDatagram] ∧
        s.queued .low = [] ∧
        s.rounds .high = [⟨queuedDatagram.node, behind, 3, .other⟩] ∧
        s.rounds .low = [] := by
  obtain ⟨s, queues, isRunning, isProtocol, isList, isHigh, isLow, isRounds⟩ :=
    idleDatagrams_queues Worker
  let input : OsAnswer :=
    { (default : OsAnswer) with result := 3, bytes := behind }
  let round : DatagramRound := ⟨queuedDatagram.node, behind, 3, .other⟩
  obtain ⟨v', yields⟩ :=
    tracedListUDP_single isList (s.rounds .high) input
  have isHeld :
      Holds s.view.sock.protocol [queuedDatagram] (s.rounds .high)
        (s.view.sock.list .high) := by
    rw [isRounds, isList]
    exact ⟨[queuedDatagram], rfl, rfl⟩
  have keepsProtocol : v'.sock.protocol = .UDP :=
    (tracedListUDP_holds isHeld yields).1.protocol.trans isProtocol
  have highRounds :
      Function.update s.rounds .high (s.rounds .high ++ [round]) .high =
        [round] := by
    rw [Function.update_self, isRounds, List.nil_append]
  have lowRounds :
      Function.update s.rounds .high (s.rounds .high ++ [round]) .low =
        [] := by
    rw [Function.update_of_ne (by decide), isRounds]
  refine ⟨_, _, (Run.nil.snoc queues).snoc (.flush isRunning yields), ?_,
    keepsProtocol, isHigh, isLow, highRounds, lowRounds⟩
  intro state move member
  rcases List.mem_cons.mp member with isLast | isFirst
  · cases isLast
    exact nofun
  · cases List.mem_singleton.mp isFirst
    rintro _ _ _ _ ⟨⟩
    have few : ¬ WARNING_SIZE ≤ (0 : Int64) + sizeOfBytes 3 := by decide
    exact ⟨rfl, fun exceeds => few exceeds.1⟩

/-- With its address behind the node the datagram is delivered. -/
theorem idleDatagrams_delivered :
    ∃ (past : _) (s : DatagramState Unit),
      Run DatagramStep idleDatagrams past s ∧
        sendtoCalls s.view.sock.protocol (s.rounds .high) ≠ [] ∧
        s.Delivered := by
  obtain ⟨past, s, run, lands, isProtocol, isHigh, isLow, highRounds,
    lowRounds⟩ := idleDatagrams_flushes Unit queuedDatagram.address
  refine ⟨past, s, run, ?_,
    (delivered_iff_found idleDatagrams_fresh run lands).mpr fun q => ?_⟩
  · rw [isProtocol, highRounds]
    decide
  · rw [isProtocol]
    cases q with
    | high =>
        rw [isHigh, highRounds]
        exact ⟨rfl, trivial⟩
    | low =>
        rw [isLow, lowRounds]
        trivial

/--
The process ends where there is no memory for the node.  With memory, and zeros
behind the node, the datagram is dropped, and `sendto` is not called.
-/
theorem idleDatagrams_not_delivered :
    (∃ (past : _) (s : DatagramState Unit),
      Run DatagramStep idleDatagrams past s ∧ s.ended = true ∧
        ¬ s.Delivered) ∧
    ∃ (past : _) (s : DatagramState Unit),
      Run DatagramStep idleDatagrams past s ∧
        s.queued .high = [queuedDatagram] ∧
        sendtoCalls s.view.sock.protocol (s.rounds .high) = [] ∧
        s.view.sock.list .high = [] ∧
        ¬ s.Delivered := by
  constructor
  · have ends :
        DatagramStep (idleDatagrams : DatagramState Unit)
          (.send ⟨1, 3, some 0⟩ .high (some queuedDatagram.address) false)
          { idleDatagrams with ended := true } :=
      .ends rfl
        (Program.crashes_of_crashesOn
          (fun _ member => congrArg OsAnswer.flag (List.eq_of_mem_replicate member))
          (show Program.crashesOn
              (List.replicate 16 { (default : OsAnswer) with result := -1 }) _ _ =
            true by rfl))
    exact ⟨_, _, Run.nil.snoc ends, rfl, fun delivered => nomatch delivered.1⟩
  obtain ⟨past, s, run, lands, isProtocol, isHigh, isLow, highRounds,
    lowRounds⟩ := idleDatagrams_flushes Unit (List.replicate 20 0)
  have noCalls :
      sendtoCalls s.view.sock.protocol (s.rounds .high) = [] := by
    rw [isProtocol, highRounds]
    decide
  have isEmpty : s.view.sock.list .high = [] := by
    have waits : Waits s :=
      run.invariant_of_step idleDatagrams_fresh.waits
        (fun waits step => step.waits waits) s List.mem_cons_self
    obtain ⟨rest, followed, isList⟩ := waits.holds .high
    rw [isProtocol, isHigh, highRounds] at followed
    have isRest : rest = [] :=
      (Option.some.inj followed).symm
    rw [← isList, isRest, List.map_nil]
  refine ⟨past, s, run, isHigh, noCalls, isEmpty, fun delivered => ?_⟩
  obtain ⟨remaining, settles, isRemaining⟩ := delivered.2 .high
  rw [isHigh, noCalls] at settles
  rw [isEmpty] at isRemaining
  cases settles
  cases isRemaining

end Runs

end SkynetCpp
