import Mathlib.Data.Nat.Basic
import SkynetCpp.Foundation.Chains
import SkynetCpp.Message

namespace SkynetCpp

/-!
# Data buffers over a message pool

`databuffer.h`.  Every connection of a gate keeps the chunks it received in a
linked list of nodes, and all connections take their nodes from one pool.  A
node is known by its address: the `i`-th node of the `k`-th block is
`k * MESSAGEPOOL + i`.  What a node's `buffer` points to is kept as bytes.
-/

def MESSAGEPOOL : Nat := 1023

/-- `struct message`. -/
structure PoolMessage where
  buffer : Option (List UInt8)
  size : Int
  next : Option Nat

/-- `struct databuffer`. -/
structure Databuffer where
  header : Int
  offset : Int
  size : Int
  head : Option Nat
  tail : Option Nat
  deriving DecidableEq

/-- A `struct databuffer` set to zero. -/
def Databuffer.zero : Databuffer where
  header := 0
  offset := 0
  size := 0
  head := none
  tail := none

/-- `struct messagepool`; `pool` counts the blocks of the list. -/
structure Messagepool where
  pool : Nat
  freelist : Option Nat
  node : Nat → PoolMessage

/-- A `struct messagepool` set to zero. -/
def Messagepool.zero : Messagepool where
  pool := 0
  freelist := none
  node := fun _ => { buffer := none, size := 0, next := none }

/-- Write to one node. -/
def Messagepool.modify
    (mp : Messagepool)
    (m : Nat)
    (change : PoolMessage → PoolMessage) : Messagepool :=
  { mp with node := Function.update mp.node m (change (mp.node m)) }

/-- The `next` pointers of a pool. -/
def Messagepool.next
    (mp : Messagepool)
    (m : Nat) : Option Nat :=
  (mp.node m).next

/-- `_return_message`. -/
def returnMessage
    (db : Databuffer)
    (mp : Messagepool) : Except Fault (Databuffer × Messagepool) :=
  match db.head with
  | none => .error .nullPointer
  | some m => do
      let db ←
        if mp.next m = none then
          if db.tail = some m then
            .ok { db with head := none, tail := none }
          else
            .error (.assertion "db->tail == m")
        else
          .ok { db with head := mp.next m }
      let returned : PoolMessage :=
        { buffer := none, size := 0, next := mp.freelist }
      .ok (db, { mp.modify m (fun _ => returned) with freelist := some m })

/-- The bytes that a `memcpy` from a node's chunk reads. -/
def chunkBytes
    (message : PoolMessage)
    (offset count : Int) : List UInt8 :=
  ((message.buffer.getD []).drop offset.toNat).take count.toNat

/-- The loop of `databuffer_read`, with the bytes that each `memcpy` writes. -/
def databufferReadLoop :
    Nat → Databuffer → Messagepool → Int →
      Except Fault (List (List UInt8) × Databuffer × Messagepool)
  | 0, _, _, _ => .error .running
  | fuel + 1, db, mp, sz =>
      match db.head with
      | none => .error .nullPointer
      | some current =>
          let bsz := (mp.node current).size - db.offset
          if sz < bsz then
            .ok ([chunkBytes (mp.node current) db.offset sz],
              { db with offset := db.offset + sz }, mp)
          else if bsz = sz then do
            let bytes := chunkBytes (mp.node current) db.offset sz
            let (db, mp) ← returnMessage { db with offset := 0 } mp
            .ok ([bytes], db, mp)
          else do
            let bytes := chunkBytes (mp.node current) db.offset bsz
            let (db, mp) ← returnMessage db mp
            let (rest, db, mp) ←
              databufferReadLoop fuel { db with offset := 0 } mp (sz - bsz)
            .ok (bytes :: rest, db, mp)

/--
`databuffer_read`, with the bytes that it writes; the loop takes every node of
the pool at most once.
-/
def databufferRead
    (db : Databuffer)
    (mp : Messagepool)
    (sz : Int) : Except Fault (List UInt8 × Databuffer × Messagepool) :=
  if db.size ≥ sz then do
    let (pieces, db, mp) ←
      databufferReadLoop (mp.pool * MESSAGEPOOL + 1)
        { db with size := db.size - sz } mp sz
    .ok (pieces.flatten, db, mp)
  else
    .error (.assertion "db->size >= sz")

/-- The nodes of a new block, linked in order from the second one on. -/
def blockMessage
    (first m : Nat) : PoolMessage where
  buffer := none
  size := 0
  next :=
    if m = first ∨ m = first + (MESSAGEPOOL - 1) then none else some (m + 1)

/-- A new block whose nodes but the first one are free. -/
def allocateBlock (mp : Messagepool) : Messagepool :=
  let first := mp.pool * MESSAGEPOOL
  { pool := mp.pool + 1
    freelist := some (first + 1)
    node := fun m =>
      if first ≤ m ∧ m < first + MESSAGEPOOL then
        blockMessage first m
      else
        mp.node m }

/-- The node that `databuffer_push` takes, and the pool without it. -/
def takeMessage (mp : Messagepool) : Nat × Messagepool :=
  match mp.freelist with
  | some m => (m, { mp with freelist := mp.next m })
  | none => (mp.pool * MESSAGEPOOL, allocateBlock mp)

/--
`databuffer_push`.  The size is an `int`; that the sum may not fit one is left
to what stores it.
-/
def databufferPush
    (db : Databuffer)
    (mp : Messagepool)
    (data : List UInt8)
    (sz : Int) : Except Fault (Databuffer × Messagepool) :=
  let (m, mp) := takeMessage mp
  let pushed : PoolMessage := { buffer := some data, size := sz, next := none }
  let mp := mp.modify m fun _ => pushed
  let db := { db with size := db.size + sz }
  match db.head, db.tail with
  | none, none => .ok ({ db with head := some m, tail := some m }, mp)
  | none, some _ => .error (.assertion "db->tail == NULL")
  | some _, some tail =>
      .ok ({ db with tail := some m },
        mp.modify tail fun last => { last with next := some m })
  | some _, none => .error .nullPointer

/-- The big-endian length in the bytes of a header. -/
def headerLength
    (headerSize : Int)
    (plen : List UInt8) : Int :=
  let byte (i : Nat) : Nat := (plen.getD i 0).toNat
  if headerSize = 2 then
    byte 0 <<< 8 ||| byte 1
  else
    toInt32 (byte 0 <<< 24 ||| byte 1 <<< 16 ||| byte 2 <<< 8 ||| byte 3 : Nat)

/-- `databuffer_readheader`. -/
def databufferReadheader
    (db : Databuffer)
    (mp : Messagepool)
    (headerSize : Int) : Except Fault (Int × Databuffer × Messagepool) :=
  let answer (db : Databuffer) (mp : Messagepool) :
      Int × Databuffer × Messagepool :=
    if db.size < db.header then (-1, db, mp) else (db.header, db, mp)
  if db.header = 0 then
    if db.size < headerSize then
      .ok (-1, db, mp)
    else do
      let (plen, db, mp) ← databufferRead db mp headerSize
      .ok (answer { db with header := headerLength headerSize plen } mp)
  else
    .ok (answer db mp)

/-- `databuffer_reset`. -/
def databufferReset (db : Databuffer) : Databuffer :=
  { db with header := 0 }

/-- The loop of `databuffer_clear`. -/
def databufferClearLoop :
    Nat → Databuffer → Messagepool → Except Fault (Databuffer × Messagepool)
  | 0, _, _ => .error .running
  | fuel + 1, db, mp =>
      match db.head with
      | none => .ok (db, mp)
      | some _ => do
          let (db, mp) ← returnMessage db mp
          databufferClearLoop fuel db mp

/-- `databuffer_clear`. -/
def databufferClear
    (db : Databuffer)
    (mp : Messagepool) : Except Fault (Databuffer × Messagepool) := do
  let (_, mp) ← databufferClearLoop (mp.pool * MESSAGEPOOL + 1) db mp
  .ok (.zero, mp)

end SkynetCpp
