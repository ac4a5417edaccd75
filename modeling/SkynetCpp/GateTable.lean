import SkynetCpp.Foundation.Run
import SkynetCpp.Gate

namespace SkynetCpp

open Foundation

/-!
# The gate's table of connections

`hashid.h` and the treatment of socket messages in `service_gate.cpp`.  The
hash maps a socket id to an index of `gate->conn`; a message records which
indices it used, so that an index outside the array stays visible.
-/

def kPtypeClient : UInt32 := 3

/-- `struct hashid_node`; a pointer to a node is its position in `id`. -/
structure HashidNode where
  id : Int
  next : Option Nat
  deriving Repr, DecidableEq

/-- `struct hashid`. -/
structure Hashid where
  hashmod : Int
  cap : Int
  count : Int
  id : List HashidNode
  hash : List (Option Nat)
  deriving Repr, DecidableEq

namespace Hashid

/-- The loop of `hashid_init` that doubles the size of the hash. -/
def hashcapLoop (max : Int) : Nat → Int → Int
  | 0, hashcap => hashcap
  | turns + 1, hashcap =>
      if hashcap < max then hashcapLoop max turns (hashcap * 2) else hashcap

/-- `hashid_init`; 27 doublings of 16 exceed every `int`. -/
def init (max : Int) : Hashid :=
  let hashcap := hashcapLoop max 27 16
  { hashmod := hashcap - 1
    cap := max
    count := 0
    id := List.replicate max.toNat { id := -1, next := none }
    hash := List.replicate hashcap.toNat none }

/-- `id & hi->hashmod`. -/
def slot
    (hi : Hashid)
    (id : Int) : Nat :=
  (UInt32.ofInt id &&& UInt32.ofInt hi.hashmod).toNat

/-- `hi->hash[h]`. -/
def bucket
    (hi : Hashid)
    (h : Nat) : Option Nat :=
  (hi.hash[h]?).join

/-- The loop of `hashid_lookup`, whose comparison is commented out. -/
def lookupLoop (hi : Hashid) : Nat → Option Nat → Except Fault Int
  | _, none => .ok (-1)
  | 0, some _ => .error .running
  | turns + 1, some c =>
      match hi.id[c]? with
      | some node => lookupLoop hi turns node.next
      | none => .error .nullPointer

/-- `hashid_lookup`; a chain has no more nodes than `id`. -/
def lookup
    (hi : Hashid)
    (id : Int) : Except Fault Int :=
  lookupLoop hi hi.id.length (hi.bucket (hi.slot id))

/-- The label `_clear` of `hashid_remove`. -/
def clearNode
    (hi : Hashid)
    (c : Nat) : Hashid :=
  { hi with
    id := hi.id.set c { id := -1, next := none }
    count := hi.count - 1 }

/-- The loop of `hashid_remove` behind the first node of a chain. -/
def removeLoop
    (hi : Hashid)
    (id : Int) : Nat → Nat → Except Fault (Int × Hashid)
  | 0, _ => .error .running
  | turns + 1, c =>
      match hi.id[c]? with
      | none => .error .nullPointer
      | some node =>
          match node.next with
          | none => .ok (-1, hi)
          | some temp =>
              match hi.id[temp]? with
              | none => .error .nullPointer
              | some other =>
                  if other.id = id then
                    .ok (-1,
                      { hi with
                        id := hi.id.set c { node with next := other.next }
                      }.clearNode temp)
                  else
                    removeLoop hi id turns temp

/-- `hashid_remove`; also the removal of a node returns -1. -/
def remove
    (hi : Hashid)
    (id : Int) : Except Fault (Int × Hashid) :=
  let h := hi.slot id
  match hi.bucket h with
  | none => .ok (-1, hi)
  | some c =>
      match hi.id[c]? with
      | none => .error .nullPointer
      | some node =>
          if node.id = id then
            .ok (-1, { hi with hash := hi.hash.set h node.next }.clearNode c)
          else
            removeLoop hi id hi.id.length c

/-- The ids of all nodes, -1 for a free one. -/
def keys (hi : Hashid) : List Int :=
  hi.id.map HashidNode.id

/-- One turn of the search: its counter, the `int` for `i + id`, and the index. -/
structure Probe where
  i : Int
  sum : Int
  index : Int
  deriving Repr, DecidableEq

/-- `hi->id[index].id`; memory before the array is not part of the state. -/
def keyAt
    (hi : Hashid)
    (index : Int) : Option Int :=
  if 0 ≤ index then hi.keys[index.toNat]? else none

/-- The turn of the search with a counter. -/
def probe
    (hi : Hashid)
    (id i : Int) : Probe :=
  let sum := toInt32 (i + id)
  { i := i, sum := sum, index := sum.tmod hi.cap }

@[simp] theorem probe_i
    (hi : Hashid)
    (id i : Int) :
    (hi.probe id i).i = i :=
  rfl

theorem probe_sum
    (hi : Hashid)
    (id i : Int) :
    (hi.probe id i).sum = toInt32 (i + id) :=
  rfl

theorem probe_index
    (hi : Hashid)
    (id i : Int) :
    (hi.probe id i).index = (hi.probe id i).sum.tmod hi.cap :=
  rfl

/-- The loop of `hashid_insert` that looks for a free node. -/
def freeNode
    (hi : Hashid)
    (id : Int) : Nat → Int → Option Nat
  | 0, _ => none
  | turns + 1, i =>
      let index := (hi.probe id i).index
      if hi.keyAt index = some (-1) then
        some index.toNat
      else
        freeNode hi id turns (i + 1)

/-- `hashid_insert`; it returns -1. -/
def insert
    (hi : Hashid)
    (id : Int) : Except Fault (Int × Hashid) :=
  match freeNode hi id hi.cap.toNat 0 with
  | none => .error (.assertion "c")
  | some c =>
      if (hi.id[c]?).bind HashidNode.next = none then
        let h := hi.slot id
        .ok (-1,
          { hi with
            count := hi.count + 1
            id := hi.id.set c { id := id, next := hi.bucket h }
            hash := hi.hash.set h (some c) })
      else
        .error (.assertion "c->next == NULL")

/-- `hashid_full`. -/
def full (hi : Hashid) : Bool :=
  hi.count = hi.cap

end Hashid

/-- The socket messages of a gate. -/
inductive GateMessage where
  | data (id : Int) (buffer : List UInt8)
  | connect (id : Int)
  | close (id : Int)
  | error (id : Int)
  /-- `remote` is what follows the message, the address of the peer. -/
  | accept (id ud : Int) (remote : List UInt8)
  | warning (id ud : Int)
  deriving Repr, DecidableEq

/-- `struct Gate` with its table. -/
structure GateTable where
  gate : Gate
  listen_id : Int
  max_connection : Int
  /-- How many entries were allocated for `gate->conn`. -/
  allocated : Int
  hash : Hashid

/-- What the treatment of a message did, with the indices of `gate->conn` it used. -/
structure GateOutcome where
  table : GateTable
  calls : List ServiceCall
  accesses : List Int
  /-- The entries whose buffer was pushed to. -/
  pushed : List (Int × List UInt8)
  cleared : List Int

namespace GateTable

/-- A treatment that uses no connection. -/
def unused
    (table : GateTable)
    (calls : List ServiceCall) : GateOutcome where
  table := table
  calls := calls
  accesses := []
  pushed := []
  cleared := []

/-- `_report`. -/
def report
    (table : GateTable)
    (text : List UInt8) : List ServiceCall :=
  if table.gate.watchdog = 0 then
    []
  else
    [.serviceSend 0 table.gate.watchdog kPtypeText 0 (some text)
      (UInt64.ofNat text.length)]

/-- The text `"%d open %d %s:0"`. -/
def openText
    (id : Int)
    (remote_name : List UInt8) : List UInt8 :=
  (toString id ++ " open " ++ toString id ++ " ").toUTF8.toList ++
    remote_name.takeWhile (· ≠ 0) ++ ":0".toUTF8.toList

/-- Write to an entry of `gate->conn`; other memory is not part of the state. -/
def modifyConn
    (table : GateTable)
    (index : Int)
    (change : Connection → Connection) : GateTable :=
  if 0 ≤ index then
    { table with gate := table.gate.modify index.toNat change }
  else
    table

/-- `dispatch_socket_message` for `kSocketTypeData`. -/
def dispatchData
    (table : GateTable)
    (socket : Int)
    (buffer : List UInt8) : Except Fault GateOutcome := do
  let id ← table.hash.lookup socket
  if id ≥ 0 then
    let (gate, calls) ←
      table.gate.dispatchMessage id.toNat socket buffer buffer.length
    .ok
      { table := { table with gate := gate }
        calls := calls
        accesses := [id]
        pushed := [(id, buffer)]
        cleared := [] }
  else
    .ok (table.unused
      [.skynetError
          ("Drop unknown Connection " ++ toString socket ++ "message"),
        .socketClose socket])

/-- `dispatch_socket_message` for `kSocketTypeConnect`. -/
def dispatchConnect
    (table : GateTable)
    (socket : Int) : Except Fault GateOutcome :=
  if socket = table.listen_id then
    -- start listening
    .ok (table.unused [])
  else do
    let id ← table.hash.lookup socket
    if id < 0 then
      .ok (table.unused
        [.skynetError ("Close unknown Connection " ++ toString socket),
          .socketClose socket])
    else
      .ok (table.unused [])

/-- `dispatch_socket_message` for `kSocketTypeClose` and `kSocketTypeError`. -/
def dispatchClose
    (table : GateTable)
    (socket : Int) : Except Fault GateOutcome := do
  let (id, hash) ← table.hash.remove socket
  let table := { table with hash := hash }
  if id ≥ 0 then
    let (_, mp) ← databufferClear (table.gate.conn id.toNat).buffer table.gate.mp
    let closed : Connection :=
      { id := -1, agent := 0, client := 0, buffer := .zero }
    let table :=
      { table with
        gate := { table.gate.modify id.toNat (fun _ => closed) with mp := mp } }
    .ok
      { table := table
        calls := table.report (toString socket ++ " close").toUTF8.toList
        accesses := [id]
        pushed := []
        cleared := [id] }
  else
    .ok (table.unused [])

/-- `dispatch_socket_message` for `kSocketTypeAccept`. -/
def dispatchAccept
    (table : GateTable)
    (socket ud : Int)
    (remote : List UInt8) : Except Fault GateOutcome :=
  if table.listen_id = socket then
    if table.hash.full then
      .ok (table.unused [.socketClose ud])
    else do
      let (index, hash) ← table.hash.insert ud
      let table :=
        { table with hash := hash }.modifyConn index
          fun connection => { connection with id := ud }
      -- `remote_name` has room for 31 bytes and a zero.
      .ok
        { table := table
          calls :=
            table.report (openText ud (remote.take 31)) ++
              [.skynetError ("socket open: " ++ toString ud)]
          accesses := [index]
          pushed := []
          cleared := [] }
  else
    .error (.assertion "gate->listen_id == message->id")

/-- `dispatch_socket_message`. -/
def dispatchSocketMessage
    (table : GateTable) : GateMessage → Except Fault GateOutcome
  | .data id buffer => table.dispatchData id buffer
  | .connect id => table.dispatchConnect id
  | .close id => table.dispatchClose id
  | .error id => table.dispatchClose id
  | .accept id ud remote => table.dispatchAccept id ud remote
  | .warning id ud =>
      .ok (table.unused
        [.skynetError
          ("fd " ++ toString id ++ "send buffer " ++ toString ud ++ "K")])

/--
`gate_init` from the parsed parameters on, with what `SocketListen` returns, and
the indices of `gate->conn` that its loop writes; `new Connection()` made one
entry, and `gate_create` set the rest to zero.
-/
def init
    (watchdog client_tag : UInt32)
    (header : Char)
    (max listen_id : Int) : Option (GateTable × List Int) :=
  if max ≤ 0 then
    none
  else if header ≠ 'S' ∧ header ≠ 'L' then
    none
  else if listen_id < 0 then
    none
  else
    some
      ({ gate :=
          { watchdog := watchdog
            broker := 0
            client_tag := if client_tag = 0 then kPtypeClient else client_tag
            header_size := if header = 'S' then 2 else 4
            conn := fun _ => { id := -1, agent := 0, client := 0, buffer := .zero }
            mp := .zero }
         listen_id := listen_id
         max_connection := max
         allocated := 1
         hash := .init max },
        (List.range max.toNat).map Int.ofNat)

end GateTable

/-- An index of an entry that the gate has. -/
def GateTable.InTable
    (table : GateTable)
    (index : Int) : Prop :=
  0 ≤ index ∧ index < table.max_connection ∧ index < table.allocated

/-- An entry of the table that carries a socket id. -/
def GateTable.Owns
    (table : GateTable)
    (index socket : Int) : Prop :=
  table.InTable index ∧ (table.gate.conn index.toNat).id = socket

/-- A message that was treated, with the table and the open sockets before. -/
structure GateStep where
  before : GateTable
  /-- The sockets accepted while the table was not full, and not closed yet. -/
  accepted : List Int
  message : GateMessage
  outcome : GateOutcome

/-- What the treatment of a message promises. -/
structure GateStep.Meets (step : GateStep) : Prop where
  inRange :
    ∀ index ∈ step.outcome.accesses, step.before.InTable index
  pushed :
    ∀ index bytes, (index, bytes) ∈ step.outcome.pushed →
      ∃ socket ∈ step.accepted,
        step.message = .data socket bytes ∧ step.before.Owns index socket
  data :
    ∀ socket ∈ step.accepted, ∀ bytes,
      step.message = .data socket bytes →
        ∃ index,
          step.before.Owns index socket ∧
            step.outcome.pushed = [(index, bytes)]
  close :
    ∀ socket ∈ step.accepted,
      step.message = .close socket ∨ step.message = .error socket →
        ∃ index,
          step.before.Owns index socket ∧ step.outcome.cleared = [index] ∧
            (step.outcome.table.gate.conn index.toNat).id = -1 ∧
            step.outcome.table.hash.count + 1 = step.before.hash.count
  full :
    ∀ id ud remote,
      step.message = .accept id ud remote → step.before.hash.full = true →
        step.outcome.table.gate.conn = step.before.gate.conn ∧
          step.outcome.calls = [.socketClose ud]

/--
A gate with the indices that `gate_init` wrote, and the messages treated so far,
latest first.
-/
structure GateTableRun where
  table : GateTable
  initialised : List Int
  accepted : List Int
  steps : List GateStep

namespace GateTableRun

/-- The sockets that are open and had a free entry after a message. -/
def acceptedAfter
    (t : GateTableRun) : GateMessage → List Int
  | .accept _ ud _ =>
      if t.table.hash.full then t.accepted else ud :: t.accepted
  | .close id => t.accepted.filter (· ≠ id)
  | .error id => t.accepted.filter (· ≠ id)
  | _ => t.accepted

/-- An accepted socket has an id that is not negative and not in use. -/
def Deliverable
    (t : GateTableRun) : GateMessage → Prop
  | .accept _ ud _ => 0 ≤ ud ∧ ud ∉ t.accepted
  | _ => True

/-- Treat one message. -/
inductive Step : GateTableRun → GateMessage → GateTableRun → Prop where
  | dispatch
      {t : GateTableRun}
      {message : GateMessage}
      {outcome : GateOutcome}
      (deliverable : t.Deliverable message)
      (returned : t.table.dispatchSocketMessage message = .ok outcome) :
      Step t message
        { table := outcome.table
          initialised := t.initialised
          accepted := t.acceptedAfter message
          steps :=
            { before := t.table
              accepted := t.accepted
              message := message
              outcome := outcome } :: t.steps }

/--
`gate_init` wrote entries of the table only, every message was treated as
promised, and every open socket has its entry.
-/
structure Meets (t : GateTableRun) : Prop where
  initialised : ∀ index ∈ t.initialised, t.table.InTable index
  steps : ∀ step ∈ t.steps, step.Meets
  owned :
    ∀ socket ∈ t.accepted, ∃ index,
      t.table.Owns index socket ∧
        ∀ other, t.table.Owns other socket → other = index

/-- A gate after `gate_init`. -/
def start
    (table : GateTable)
    (initialised : List Int) : GateTableRun where
  table := table
  initialised := initialised
  accepted := []
  steps := []

/-- The message is no `kSocketTypeAccept`. -/
def NoAccept : GateMessage → Prop
  | .accept .. => False
  | _ => True

/-- Nothing was accepted: the table is empty, and every message kept it so. -/
structure Unused (t : GateTableRun) : Prop where
  initialised : ∀ index ∈ t.initialised, t.table.InTable index
  accepted : t.accepted = []
  buckets : ∀ h, t.table.hash.bucket h = none
  notFull : t.table.hash.full = false
  steps : ∀ step ∈ t.steps, step.Meets

variable
    {t next : GateTableRun}
    {message : GateMessage}

/-- What `gate_init` sets, apart from the gate's own fields. -/
theorem init_eq_some
    {watchdog client_tag : UInt32}
    {header : Char}
    {max listen_id : Int}
    {table : GateTable}
    {written : List Int}
    (initialised :
      GateTable.init watchdog client_tag header max listen_id =
        some (table, written)) :
    0 < max ∧ table.hash = .init max ∧ table.max_connection = max ∧
      table.allocated = 1 ∧ written = (List.range max.toNat).map Int.ofNat := by
  unfold GateTable.init at initialised
  split at initialised
  · cases initialised
  · split at initialised
    · cases initialised
    · split at initialised
      · cases initialised
      · cases initialised
        exact ⟨by omega, rfl, rfl, rfl, rfl⟩

/-- `gate_init` writes no entry beyond its table exactly when it is for one. -/
theorem initialised_inTable_iff
    {watchdog client_tag : UInt32}
    {header : Char}
    {max listen_id : Int}
    {table : GateTable}
    {written : List Int}
    (initialised :
      GateTable.init watchdog client_tag header max listen_id =
        some (table, written)) :
    (∀ index ∈ written, table.InTable index) ↔ max = 1 := by
  obtain ⟨positive, _, isMax, isOne, isWritten⟩ := init_eq_some initialised
  subst isWritten
  simp only [GateTable.InTable, isMax, isOne, List.forall_mem_map,
    List.mem_range, Int.ofNat_eq_natCast]
  constructor
  · intro inTable
    have last := inTable (max.toNat - 1) (by omega)
    omega
  · intro single index below
    omega

/-- A gate after `gate_init` for one connection is unused. -/
theorem unused_start
    {watchdog client_tag : UInt32}
    {header : Char}
    {listen_id : Int}
    {table : GateTable}
    {written : List Int}
    (initialised :
      GateTable.init watchdog client_tag header 1 listen_id =
        some (table, written)) :
    (start table written).Unused := by
  obtain ⟨_, isHash, _⟩ := init_eq_some initialised
  constructor
  · exact (initialised_inTable_iff initialised).mpr rfl
  · rfl
  · intro h
    show table.hash.bucket h = none
    rw [isHash]
    simp only [Hashid.bucket, Hashid.init, List.getElem?_replicate]
    split
    · rfl
    · rfl
  · show table.hash.full = false
    rw [isHash]
    rfl
  · intro step member
    cases member

/-- With every bucket empty, a lookup finds nothing. -/
theorem lookup_of_buckets
    {hi : Hashid}
    (buckets : ∀ h, hi.bucket h = none)
    (id : Int) :
    hi.lookup id = .ok (-1) := by
  unfold Hashid.lookup
  rw [buckets]
  cases hi.id.length <;> rfl

/-- With every bucket empty, a removal removes nothing. -/
theorem remove_of_buckets
    {hi : Hashid}
    (buckets : ∀ h, hi.bucket h = none)
    (id : Int) :
    hi.remove id = .ok (-1, hi) := by
  unfold Hashid.remove
  simp only [buckets]

/-- An unused gate treats any other message without a connection. -/
theorem Unused.dispatch
    (unused : t.Unused)
    (noAccept : NoAccept message) :
    ∃ calls, t.table.dispatchSocketMessage message = .ok (t.table.unused calls) := by
  have lookup := lookup_of_buckets unused.buckets
  have remove := remove_of_buckets unused.buckets
  cases message with
  | data id buffer =>
      refine ⟨[.skynetError ("Drop unknown Connection " ++ toString id ++ "message"),
        .socketClose id], ?_⟩
      simp only [GateTable.dispatchSocketMessage, GateTable.dispatchData, lookup]
      rfl
  | connect id =>
      simp only [GateTable.dispatchSocketMessage, GateTable.dispatchConnect,
        lookup]
      split
      · exact ⟨_, rfl⟩
      · exact ⟨_, rfl⟩
  | close id =>
      refine ⟨[], ?_⟩
      simp only [GateTable.dispatchSocketMessage, GateTable.dispatchClose, remove]
      rfl
  | error id =>
      refine ⟨[], ?_⟩
      simp only [GateTable.dispatchSocketMessage, GateTable.dispatchClose, remove]
      rfl
  | accept id ud remote =>
      cases noAccept
  | warning id ud =>
      exact ⟨_, rfl⟩

/-- An unused gate stays unused by any message but an accept. -/
theorem Unused.step
    (unused : t.Unused)
    (noAccept : NoAccept message)
    (taken : Step t message next) :
    next.Unused := by
  obtain ⟨deliverable, returned⟩ := taken
  obtain ⟨calls, isUnused⟩ := unused.dispatch noAccept
  rw [isUnused] at returned
  cases returned
  have stillNone : t.acceptedAfter message = [] := by
    cases message with
    | accept id ud remote =>
        cases noAccept
    | data | connect | warning =>
        exact unused.accepted
    | close | error =>
        simp [acceptedAfter, unused.accepted]
  refine
    ⟨unused.initialised, stillNone, unused.buckets, unused.notFull, ?_⟩
  intro step member
  rcases List.mem_cons.mp member with isNew | old
  · subst isNew
    constructor
    · intro index inAccesses
      cases inAccesses
    · intro index bytes inPushed
      cases inPushed
    · intro socket inAccepted
      rw [unused.accepted] at inAccepted
      cases inAccepted
    · intro socket inAccepted
      rw [unused.accepted] at inAccepted
      cases inAccepted
    · intro id ud remote isAccept isFull
      rw [unused.notFull] at isFull
      cases isFull
  · exact unused.steps step old

theorem Unused.meets
    (unused : t.Unused) :
    t.Meets where
  initialised := unused.initialised
  steps := unused.steps
  owned := by
    intro socket inAccepted
    rw [unused.accepted] at inAccepted
    cases inAccepted

/-- `hashid_insert` returns -1. -/
theorem insert_eq
    {hi inserted : Hashid}
    {id index : Int}
    (returned : hi.insert id = .ok (index, inserted)) :
    index = -1 := by
  unfold Hashid.insert at returned
  split at returned
  · cases returned
  · split at returned
    · cases returned
      rfl
    · cases returned

/-- An accept of an unused gate writes in front of the array. -/
theorem Unused.not_meets
    (unused : t.Unused)
    (taken : Step t message next)
    (meets : next.Meets) :
    NoAccept message := by
  obtain ⟨deliverable, returned⟩ := taken
  cases message with
  | data | connect | close | error | warning =>
      trivial
  | accept id ud remote =>
      have inRange := (meets.steps _ (List.mem_cons_self ..)).inRange
      simp only [GateTable.dispatchSocketMessage, GateTable.dispatchAccept,
        unused.notFull] at returned
      split at returned
      · simp only [Bool.false_eq_true, ↓reduceIte, bind_eq_ok_iff] at returned
        obtain ⟨⟨index, hash⟩, inserted, isOutcome⟩ := returned
        cases isOutcome
        have bounds := inRange index (List.mem_singleton.mpr rfl)
        rw [insert_eq inserted] at bounds
        exact absurd bounds.1 (by decide)
      · cases returned

variable
    {watchdog client_tag : UInt32}
    {header : Char}
    {max listen_id : Int}
    {table : GateTable}
    {written : List Int}
    {final : GateTableRun}
    {past : List (GateTableRun × GateMessage)}

/--
A gate keeps its connections as promised in every state of a run exactly when
it has one entry and no socket is accepted in the run.
-/
theorem gateTable_meets_iff
    (initialised :
      GateTable.init watchdog client_tag header max listen_id =
        some (table, written))
    (run : Run Step (start table written) past final) :
    (∀ t ∈ Run.visited past final, t.Meets) ↔
      max = 1 ∧ ∀ t message, (t, message) ∈ past → NoAccept message := by
  by_cases single : max = 1
  · subst single
    rw [Run.property_visited_iff run (unused_start initialised)
      (fun unused noAccept taken => Unused.step unused noAccept taken)
      Unused.meets
      (fun unused taken meets => unused.not_meets taken meets)]
    exact (and_iff_right rfl).symm
  · refine ⟨fun meets => absurd ?_ single, fun both => absurd both.1 single⟩
    have atStart := meets (start table written) run.initial_mem_visited
    exact (initialised_inTable_iff initialised).mp atStart.initialised

/-- A gate for one connection, listening on socket 1. -/
def single : GateTable where
  gate :=
    { watchdog := 0
      broker := 0
      client_tag := kPtypeClient
      header_size := 2
      conn := fun _ => { id := -1, agent := 0, client := 0, buffer := .zero }
      mp := .zero }
  listen_id := 1
  max_connection := 1
  allocated := 1
  hash := .init 1

theorem single_initialised :
    GateTable.init 0 0 'S' 1 1 = some (single, [0]) :=
  rfl

/-- Data and the close of an unknown socket are dropped. -/
theorem single_meets :
    ∃ past final,
      Run Step (start single [0]) past final ∧
        past.map Prod.snd = [.close 7, .data 7 [1]] ∧
        ∀ t ∈ Run.visited past final, t.Meets := by
  obtain ⟨middle, pushes⟩ :
      ∃ middle, Step (start single [0]) (.data 7 [1]) middle :=
    ⟨_, .dispatch trivial rfl⟩
  have unused : middle.Unused := by
    refine Unused.step (unused_start single_initialised) ?_ pushes
    trivial
  obtain ⟨final, closes⟩ : ∃ final, Step middle (.close 7) final := by
    obtain ⟨calls, returned⟩ :
        ∃ calls,
          middle.table.dispatchSocketMessage (.close 7) =
            .ok (middle.table.unused calls) :=
      unused.dispatch trivial
    exact ⟨_, .dispatch trivial returned⟩
  have run := (Run.nil.snoc pushes).snoc closes
  refine
    ⟨_, _, run, rfl, (gateTable_meets_iff single_initialised run).mpr
      ⟨rfl, ?_⟩⟩
  intro t message member
  simp only [List.mem_cons, Prod.mk.injEq, List.not_mem_nil, or_false] at member
  rcases member with ⟨_, rfl⟩ | ⟨_, rfl⟩ <;> trivial

/-- The first accepted socket is written in front of the array. -/
theorem single_not_meets :
    ∃ final,
      Run Step (start single [0]) [(start single [0], .accept 1 7 [])] final ∧
        ¬ ∀ t ∈ Run.visited [(start single [0], GateMessage.accept 1 7 [])]
            final,
          t.Meets := by
  obtain ⟨final, taken⟩ :
      ∃ final, Step (start single [0]) (.accept 1 7 []) final :=
    ⟨_, .dispatch ⟨by decide, List.not_mem_nil⟩ rfl⟩
  refine ⟨final, Run.nil.snoc taken, fun meets => ?_⟩
  exact (unused_start single_initialised).not_meets taken
    (meets final (List.mem_cons_self ..))

end GateTableRun

end SkynetCpp
