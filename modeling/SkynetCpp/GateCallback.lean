import SkynetCpp.GateControl

namespace SkynetCpp

/-!
# The gate's callback

`gate_cb`.  The case of client messages does not end with a `break`, so that a
client message of more than four bytes is treated as a socket message, with its
bytes for the `SkynetSocketMessage`.
-/

/-- What a message to the gate did. -/
structure CallbackOutcome where
  table : GateTable
  calls : List GateCall
  /-- Whether the bytes were taken for a `SkynetSocketMessage`. -/
  interpreted : Bool

namespace GateTable

variable
    (queryname : List UInt8 → Except Fault UInt32)
    (behind : GateCommand → Nat → UInt8)
    (read : List UInt8 → Option GateMessage)

/-- The case `kPtypeSocket`; `read` gives no message for a type without a case. -/
def socketCase
    (table : GateTable)
    (msg : List UInt8) : Except Fault CallbackOutcome :=
  match read msg with
  | none => .ok { table := table, calls := [], interpreted := true }
  | some message => do
      let outcome ← table.dispatchSocketMessage message
      .ok
        { table := outcome.table
          calls := outcome.calls.map .service
          interpreted := true }

/--
`gate_cb`; `read` is what the memory at a message holds as a
`SkynetSocketMessage`.
-/
def gateCb
    (table : GateTable)
    (type source : UInt32)
    (msg : List UInt8) : Except Fault CallbackOutcome :=
  let clientCase : Except Fault CallbackOutcome :=
    if msg.length ≤ 4 then
      .ok
        { table := table
          calls :=
            [.service (.skynetError
              ("Invalid client message from " ++ toString source.toNat))]
          interpreted := false }
    else
      -- There is no `break`.
      table.socketCase read msg
  if type = kPtypeText then do
    let outcome ← table.ctrl queryname behind msg
    .ok
      { table := outcome.table
        calls := outcome.calls
        interpreted := false }
  else if type = kPtypeClient then
    clientCase
  else if type = kPtypeSocket then
    table.socketCase read msg
  else
    .ok { table := table, calls := [], interpreted := false }

variable
    {queryname : List UInt8 → Except Fault UInt32}
    {behind : GateCommand → Nat → UInt8}
    {read : List UInt8 → Option GateMessage}
    {table : GateTable}
    {msg : List UInt8}
    {outcome : CallbackOutcome}

/-- A message that reaches the case `kPtypeSocket` is taken for a socket message. -/
theorem socketCase_interpreted
    (returned : table.socketCase read msg = .ok outcome) :
    outcome.interpreted = true := by
  unfold socketCase at returned
  split at returned
  · cases returned
    rfl
  · obtain ⟨treated, _, isOutcome⟩ := bind_eq_ok_iff.mp returned
    cases isOutcome
    rfl

/-- The case `kPtypeClient`. -/
theorem gateCb_client
    (queryname : List UInt8 → Except Fault UInt32)
    (behind : GateCommand → Nat → UInt8)
    (read : List UInt8 → Option GateMessage)
    (table : GateTable)
    (source : UInt32)
    (msg : List UInt8) :
    table.gateCb queryname behind read kPtypeClient source msg =
      if msg.length ≤ 4 then
        .ok
          { table := table
            calls :=
              [.service (.skynetError
                ("Invalid client message from " ++ toString source.toNat))]
            interpreted := false }
      else
        table.socketCase read msg := by
  rfl

end GateTable

/--
A client message leaves the gate as it is, and its bytes are not taken for a
socket message.
-/
def ClientMeets
    (queryname : List UInt8 → Except Fault UInt32)
    (behind : GateCommand → Nat → UInt8)
    (read : List UInt8 → Option GateMessage)
    (table : GateTable)
    (source : UInt32)
    (msg : List UInt8) : Prop :=
  ∃ outcome,
    table.gateCb queryname behind read kPtypeClient source msg = .ok outcome ∧
      outcome.table = table ∧ outcome.interpreted = false

/-- Client messages are kept from the connections exactly up to four bytes. -/
theorem client_meets_iff
    (queryname : List UInt8 → Except Fault UInt32)
    (behind : GateCommand → Nat → UInt8)
    (read : List UInt8 → Option GateMessage)
    (table : GateTable)
    (source : UInt32)
    (msg : List UInt8) :
    ClientMeets queryname behind read table source msg ↔ msg.length ≤ 4 := by
  unfold ClientMeets
  rw [GateTable.gateCb_client]
  constructor
  · rintro ⟨outcome, returned, _, notInterpreted⟩
    by_contra long
    rw [if_neg long] at returned
    rw [GateTable.socketCase_interpreted returned] at notInterpreted
    cases notInterpreted
  · intro short
    rw [if_pos short]
    exact ⟨_, rfl, rfl, rfl⟩

section Forged

/-- A little-endian `int` at a place of the memory. -/
def intAt
    (mem : List UInt8)
    (place : Nat) : Int :=
  let byte (i : Nat) : Nat := (mem.getD (place + i) 0).toNat
  toInt32 (byte 0 ||| byte 1 <<< 8 ||| byte 2 <<< 16 ||| byte 3 <<< 24 : Nat)

/--
The layout of a `SkynetSocketMessage` of 48 bytes, read where the string is not
needed.
-/
def readMessage (mem : List UInt8) : Option GateMessage :=
  let id := intAt mem 4
  let ud := intAt mem 8
  if intAt mem 0 = 2 then some (.connect id)
  else if intAt mem 0 = 3 then some (.close id)
  else if intAt mem 0 = 4 then some (.accept id ud (mem.drop 48))
  else if intAt mem 0 = 5 then some (.error id)
  else if intAt mem 0 = 7 then some (.warning id ud)
  else none

/-- The bytes of an accept of socket 99 by the listening socket 1. -/
def forgedAccept : List UInt8 :=
  [4, 0, 0, 0, 1, 0, 0, 0, 99, 0, 0, 0] ++ List.replicate 36 0

/-- A client message enters a socket into the table. -/
theorem forgedAccept_not_meets :
    ¬ ClientMeets (fun _ => .ok 0) (fun _ _ => 0) readMessage
        GateTableRun.single 9 forgedAccept ∧
      ∃ outcome,
        GateTableRun.single.gateCb (fun _ => .ok 0) (fun _ _ => 0) readMessage
            kPtypeClient 9 forgedAccept = .ok outcome ∧
          outcome.interpreted = true ∧
            outcome.table.hash.count = GateTableRun.single.hash.count + 1 := by
  have isRead : readMessage forgedAccept = some (.accept 1 99 []) := by
    decide
  obtain ⟨outcome, returned, isInterpreted, counted⟩ :
      ∃ outcome,
        GateTableRun.single.gateCb (fun _ => .ok 0) (fun _ _ => 0) readMessage
            kPtypeClient 9 forgedAccept = .ok outcome ∧
          outcome.interpreted = true ∧
            outcome.table.hash.count = GateTableRun.single.hash.count + 1 := by
    rw [GateTable.gateCb_client, if_neg (by decide), GateTable.socketCase,
      isRead]
    exact ⟨_, rfl, rfl, rfl⟩
  refine ⟨?_, outcome, returned, isInterpreted, counted⟩
  rintro ⟨other, isOther, _, notInterpreted⟩
  cases returned.symm.trans isOther
  rw [isInterpreted] at notInterpreted
  cases notInterpreted

end Forged

end SkynetCpp
