import SkynetCpp.DatabufferFifo
import SkynetCpp.Foundation.Run

namespace SkynetCpp

open Foundation

/-!
# Runs of data buffers

Any number of data buffers take turns on one pool.  Beside them runs the queue
of the bytes that each was pushed and has not read.  The size of a data buffer
is an `int`, so that it is that of its queue as long as the queue has less than
`2 ^ 31` bytes.
-/

/-- A call on one of the data buffers. -/
inductive BufferCall where
  | push (k : Nat) (data : List UInt8)
  | read (k sz : Nat)
  | clear (k : Nat)
  deriving DecidableEq

/-- The pool, the data buffers, and what each was pushed and has not read. -/
structure BufferRun where
  mp : Messagepool
  bufs : Nat → Databuffer
  queue : Nat → List UInt8

/-- Everything set to zero. -/
def BufferRun.zero : BufferRun where
  mp := .zero
  bufs := fun _ => .zero
  queue := fun _ => []

/-- The `int` in which `databuffer_push` stores the size. -/
def stored (db : Databuffer) : Databuffer :=
  { db with size := toInt32 db.size }

/--
A call that returns.  The size of a chunk is a number that an `int` holds, and
a read asks for some bytes, but not for more than the size of its buffer.
-/
inductive BufferRun.Step : BufferRun → BufferCall → BufferRun → Prop where
  | push
      {t : BufferRun}
      {k : Nat}
      {data : List UInt8}
      {db : Databuffer}
      {mp : Messagepool}
      (isInt : data.length < 2 ^ 31)
      (returned :
        databufferPush (t.bufs k) t.mp data data.length = .ok (db, mp)) :
      Step t (.push k data)
        { mp := mp
          bufs := Function.update t.bufs k (stored db)
          queue := Function.update t.queue k (t.queue k ++ data) }
  | read
      {t : BufferRun}
      {k sz : Nat}
      {bytes : List UInt8}
      {db : Databuffer}
      {mp : Messagepool}
      (positive : 0 < sz)
      (enough : sz ≤ (t.bufs k).size)
      (returned : databufferRead (t.bufs k) t.mp sz = .ok (bytes, db, mp)) :
      Step t (.read k sz)
        { mp := mp
          bufs := Function.update t.bufs k db
          queue := Function.update t.queue k ((t.queue k).drop sz) }
  | clear
      {t : BufferRun}
      {k : Nat}
      {db : Databuffer}
      {mp : Messagepool}
      (returned : databufferClear (t.bufs k) t.mp = .ok (db, mp)) :
      Step t (.clear k)
        { mp := mp
          bufs := Function.update t.bufs k db
          queue := Function.update t.queue k [] }

/-- Every node of the pool is in one of the linked lists, and in no other. -/
def NodesPlaced
    (mp : Messagepool)
    (bufs : Nat → Databuffer) : Prop :=
  ∃ lists : Option Nat → List Nat,
    (∀ owner,
      Chain mp.next (heads mp bufs owner) (lists owner) ∧
        (lists owner).Nodup) ∧
      ∀ m, m < mp.pool * MESSAGEPOOL → ∃! owner, m ∈ lists owner

/--
Each data buffer is the queue of its bytes: its size is right, every call on it
returns, and a read writes the first bytes.
-/
structure BufferRun.Promise (t : BufferRun) : Prop where
  size : ∀ k, (t.bufs k).size = (t.queue k).length
  push :
    ∀ k data,
      ∃ pushed, databufferPush (t.bufs k) t.mp data data.length = .ok pushed
  read :
    ∀ k sz : Nat,
      0 < sz →
        sz ≤ (t.bufs k).size →
          ∃ db mp,
            databufferRead (t.bufs k) t.mp sz =
              .ok ((t.queue k).take sz, db, mp)
  clear : ∀ k, ∃ mp, databufferClear (t.bufs k) t.mp = .ok (.zero, mp)
  placed : NodesPlaced t.mp t.bufs

/-- A push leaves less than `2 ^ 31` unread bytes in its data buffer. -/
def BufferRun.Fits (t : BufferRun) : BufferCall → Prop
  | .push k data => (t.queue k).length + data.length < 2 ^ 31
  | _ => True

instance (t : BufferRun) (call : BufferCall) : Decidable (t.Fits call) :=
  match call with
  | .push k data =>
      inferInstanceAs (Decidable ((t.queue k).length + data.length < 2 ^ 31))
  | .read _ _ => inferInstanceAs (Decidable True)
  | .clear _ => inferInstanceAs (Decidable True)

section Nodes

variable
    {mp : Messagepool}
    {bufs : Nat → Databuffer}
    {contents : Nat → List UInt8}

theorem MessagesLinked.placed
    {lists : Option Nat → List Nat}
    (linked : MessagesLinked mp bufs lists) :
    NodesPlaced mp bufs := by
  refine
    ⟨lists, fun owner =>
      ⟨linked.chains.chain owner, linked.chains.noDuplicates owner⟩, ?_⟩
  intro m inPool
  obtain ⟨owner, member⟩ := (linked.owned m).mp inPool
  exact ⟨owner, member, fun other isOther => linked.chains.apart isOther member⟩

/-- The size after a push is that of the queue, until it is stored. -/
theorem exists_databufferPush
    (buffers : Buffers mp bufs contents)
    (k : Nat)
    (data : List UInt8) :
    ∃ db mp',
      databufferPush (bufs k) mp data data.length = .ok (db, mp') ∧
        Buffers mp' (Function.update bufs k db)
          (Function.update contents k (contents k ++ data)) ∧
        db.size = (contents k).length + data.length := by
  obtain ⟨db, mp', pushed, buffers', _⟩ := databufferPush_spec buffers k data
  have sized := buffers'.size k
  rw [Function.update_self, Function.update_self, List.length_append] at sized
  exact ⟨db, mp', pushed, buffers', by exact_mod_cast sized⟩

end Nodes

namespace BufferRun

/-- Data buffers that are the queues of their bytes. -/
def Refines (t : BufferRun) : Prop :=
  Buffers t.mp t.bufs t.queue

theorem Refines.promise
    {t : BufferRun}
    (refines : t.Refines) :
    t.Promise where
  size := refines.size
  push := by
    intro k data
    obtain ⟨db, mp, pushed, _⟩ := exists_databufferPush refines k data
    exact ⟨_, pushed⟩
  read := by
    intro k sz positive enough
    rw [refines.size k] at enough
    obtain ⟨db, mp, isRead, _⟩ :=
      databufferRead_spec refines positive (by exact_mod_cast enough)
    exact ⟨db, mp, isRead⟩
  clear := by
    intro k
    obtain ⟨mp, cleared, _⟩ := databufferClear_spec refines k
    exact ⟨mp, cleared⟩
  placed := by
    obtain ⟨lists, linked, _⟩ := refines.exists_lists
    exact linked.placed

/-- A call that fits keeps the data buffers and their queues together. -/
theorem Refines.step
    {t t' : BufferRun}
    {call : BufferCall}
    (refines : t.Refines)
    (fits : t.Fits call)
    (taken : Step t call t') :
    t'.Refines := by
  cases taken with
  | @push k data db mp isInt returned =>
      obtain ⟨pushed, mp', isPushed, buffers, isSize⟩ :=
        exists_databufferPush refines k data
      cases isPushed.symm.trans returned
      have small : (t.queue k).length + data.length < 2 ^ 31 := fits
      have same : stored db = db := by
        have sameSize : toInt32 db.size = db.size :=
          toInt32_of_bounds (by omega) (by omega)
        rw [stored, sameSize]
      rw [same]
      exact buffers
  | @read k sz bytes db mp positive enough returned =>
      rw [refines.size k] at enough
      obtain ⟨db', mp', isRead, buffers, _⟩ :=
        databufferRead_spec refines positive (by exact_mod_cast enough)
      cases isRead.symm.trans returned
      exact buffers
  | @clear k db mp returned =>
      obtain ⟨mp', isCleared, buffers⟩ := databufferClear_spec refines k
      cases isCleared.symm.trans returned
      exact buffers

/-- After a push that does not fit, the size is not that of the queue. -/
theorem Refines.fits_of_promise
    {t t' : BufferRun}
    {call : BufferCall}
    (refines : t.Refines)
    (taken : Step t call t')
    (promise : t'.Promise) :
    t.Fits call := by
  cases taken with
  | @push k data db mp isInt returned =>
      obtain ⟨pushed, mp', isPushed, _, isSum⟩ :=
        exists_databufferPush refines k data
      cases isPushed.symm.trans returned
      have isSize := promise.size k
      simp only [Function.update_self, List.length_append, stored, isSum]
        at isSize
      have below := toInt32_lt ((t.queue k).length + data.length)
      change (t.queue k).length + data.length < 2 ^ 31
      omega
  | read =>
      trivial
  | clear =>
      trivial

variable
    {final : BufferRun}
    {past : List (BufferRun × BufferCall)}

/--
All data buffers are the queues of their bytes in every state of a run exactly
as long as no push brings the unread bytes of one to `2 ^ 31`.
-/
theorem promise_visited_iff
    (run : Run Step .zero past final) :
    (∀ t ∈ Run.visited past final, t.Promise) ↔
      ∀ t call, (t, call) ∈ past → t.Fits call :=
  Run.property_visited_iff run Buffers.zero
    (fun refines fits taken => refines.step fits taken)
    Refines.promise
    (fun refines taken promise => refines.fits_of_promise taken promise)

set_option maxRecDepth 4000 in
/-- Two buffers take turns, and a read ends inside a chunk. -/
theorem twoBuffers_promise :
    ∃ past final,
      Run Step .zero past final ∧
        past.map Prod.snd =
          [.read 0 2, .push 0 [], .push 1 [4], .push 0 [1, 2, 3]] ∧
        final.queue 0 = [3] ∧
        ∀ t ∈ Run.visited past final, t.Promise := by
  obtain ⟨past, final, run, calls, isQueue, fits⟩ :
      ∃ past final,
        Run Step .zero past final ∧
          past.map Prod.snd =
            [.read 0 2, .push 0 [], .push 1 [4], .push 0 [1, 2, 3]] ∧
          final.queue 0 = [3] ∧
          ∀ taken ∈ past, taken.1.Fits taken.2 := by
    refine
      ⟨_, _,
        (((Run.nil.snoc (.push (by decide) rfl)).snoc
          (.push (by decide) rfl)).snoc (.push (by decide) rfl)).snoc
          (.read (by decide) (by decide) rfl),
        rfl, rfl, ?_⟩
    simp only [List.forall_mem_cons, List.not_mem_nil, false_implies,
      implies_true, and_true]
    exact ⟨trivial, by decide, by decide, by decide⟩
  exact
    ⟨past, final, run, calls, isQueue,
      (promise_visited_iff run).mpr fun t call member =>
        fits (t, call) member⟩

/-- With `2 ^ 31` unread bytes the size of a data buffer is negative. -/
theorem fullBuffer_not_promise :
    ∃ past final data,
      Run Step .zero past final ∧
        past.map Prod.snd = [.push 0 data, .push 0 data] ∧
        data.length = 2 ^ 30 ∧
        (final.queue 0).length = 2 ^ 31 ∧
        (final.bufs 0).size = -2 ^ 31 ∧
        ¬ final.Promise := by
  obtain ⟨data, isLong⟩ : ∃ data : List UInt8, data.length = 2 ^ 30 :=
    ⟨List.replicate (2 ^ 30) 0, List.length_replicate⟩
  have isInt : data.length < 2 ^ 31 := by
    rw [isLong]
    decide
  have first : BufferRun.zero.Refines := Buffers.zero
  obtain ⟨db, mp, pushed, _⟩ := exists_databufferPush first 0 data
  have taken := Step.push isInt pushed
  have small : BufferRun.zero.Fits (.push 0 data) := by
    change ([] : List UInt8).length + data.length < 2 ^ 31
    rwa [List.length_nil, Nat.zero_add]
  have second := first.step small taken
  obtain ⟨db', mp', pushed', _, isSum⟩ := exists_databufferPush second 0 data
  have run := (Run.nil.snoc taken).snoc (Step.push isInt pushed')
  have isSize : (stored db').size = -2 ^ 31 := by
    simp only [Function.update_self, BufferRun.zero, List.nil_append, isLong]
      at isSum
    show toInt32 db'.size = -2 ^ 31
    rw [isSum]
    decide
  refine ⟨_, _, data, run, rfl, isLong, ?_, ?_, ?_⟩
  · simp only [Function.update_self, List.length_append, isLong,
      BufferRun.zero, List.length_nil]
    decide
  · simp only [Function.update_self]
    exact isSize
  · intro promise
    have sized := promise.size 0
    simp only [Function.update_self] at sized
    have negative := isSize.symm.trans sized
    omega

end BufferRun

end SkynetCpp
