import Mathlib.Data.Nat.Digits.Defs
import SkynetCpp.Foundation.Block
import SkynetCpp.Foundation.Utf8
import SkynetCpp.GateFrames

namespace SkynetCpp

open Foundation

/-!
# The text for the watchdog

Without a broker and an agent `_forward` sends a frame to the watchdog as a
text that it builds in a temporary buffer: the id in front, and behind it the
frame, node by node of the connection's data buffer.  The buffer is a block of
memory here, so that the writes behind its end stay visible.
-/

/-- `databuffer_read` into a block of memory, from a place of it on. -/
def databufferReadInto
    (db : Databuffer)
    (mp : Messagepool)
    (temp : Block UInt8)
    (place : Nat)
    (sz : Int) : Except Fault (Block UInt8 × Databuffer × Messagepool) :=
  if db.size ≥ sz then do
    let (pieces, db, mp) ←
      databufferReadLoop (mp.pool * MESSAGEPOOL + 1)
        { db with size := db.size - sz } mp sz
    .ok (temp.writeAll place pieces, db, mp)
  else
    .error (.assertion "db->size >= sz")

/-- What `snprintf(temp, 32, "%d data ", id)` writes, with the zero behind it. -/
def snprintfData (id : Int) : List UInt8 :=
  (watchdogText id).take 31 ++ [0]

/-- What `_forward` built for the watchdog, and the size it passes. -/
structure WatchdogSend where
  temp : Block UInt8
  sz : Int

/-- The part of `_forward` for a gate with a watchdog only. -/
def Gate.forwardWatchdog
    (gate : Gate)
    (c : Nat)
    (size : Int) : Except Fault (Gate × WatchdogSend) := do
  let connection := gate.conn c
  let temp := (Block.allocate size.toNat).write 0 (snprintfData connection.id)
  let n := (watchdogText connection.id).length
  let (temp, db, mp) ←
    databufferReadInto connection.buffer gate.mp temp n size
  .ok (gate.setBuffer c db mp, { temp := temp, sz := size + n })

/--
The watchdog gets the id and the frame as a text, every byte of it was written
inside the temporary buffer, and the size is the number of these bytes.
-/
structure WatchdogSend.Meets
    (sent : WatchdogSend)
    (id : Int)
    (frame : List UInt8) : Prop where
  text : sent.temp.Holds (watchdogText id ++ frame)
  inside : sent.temp.Inside
  sz : sent.sz = (watchdogText id ++ frame).length

section Pieces

variable
    {db db' : Databuffer}
    {mp mp' : Messagepool}
    {temp : Block UInt8}
    {items bytes : List UInt8}
    {place : Nat}
    {sz : Int}

/-- What is read is written behind what the block holds. -/
theorem databufferReadInto_spec
    (isRead : databufferRead db mp sz = .ok (bytes, db', mp'))
    (holds : temp.Holds items)
    (starts : place ≤ items.length)
    (reaches : items.length ≤ place + bytes.length) :
    ∃ written,
      databufferReadInto db mp temp place sz = .ok (written, db', mp') ∧
        written.size = temp.size ∧
        written.Holds (items.take place ++ bytes) := by
  unfold databufferRead at isRead
  unfold databufferReadInto
  split at isRead
  · next enough =>
      cases pieced :
          databufferReadLoop (mp.pool * MESSAGEPOOL + 1)
            { db with size := db.size - sz } mp sz with
      | error fault =>
          rw [pieced] at isRead
          cases isRead
      | ok result =>
          obtain ⟨pieces, last, mpLast⟩ := result
          rw [pieced] at isRead
          cases isRead
          exact
            ⟨temp.writeAll place pieces,
              by rw [if_pos enough]; rfl,
              Block.writeAll_size temp place pieces,
              holds.writeAll starts reaches⟩
  · cases isRead

end Pieces

section Text

/-- The characters of a decimal number take one byte each. -/
theorem utf8_length_repr
    (n : Nat) :
    n.repr.toUTF8.toList.length = (Nat.toDigits 10 n).length := by
  rw [utf8_length_of_ascii, Nat.toList_repr]
  intro c member
  rw [Nat.toList_repr] at member
  have isDigit : c.isDigit :=
    Nat.isDigit_of_mem_toDigits (by decide) (by decide) member
  simp only [Char.isDigit, Bool.and_eq_true, decide_eq_true_eq] at isDigit
  exact UInt32.le_trans isDigit.2 (by decide)

/-- The text of a positive `int` fits the 32 bytes that `snprintf` may write. -/
theorem watchdogText_length
    {id : Int}
    (positive : 0 < id)
    (isInt : id < 2 ^ 31) :
    6 ≤ (watchdogText id).length ∧ (watchdogText id).length ≤ 16 := by
  obtain ⟨n, isNat⟩ := Int.eq_ofNat_of_zero_le positive.le
  subst isNat
  have few : (Nat.toDigits 10 n).length ≤ 10 :=
    Nat.toDigits_length 10 n 10 (by decide) (by omega)
  have isRepr : toString (n : Int) = n.repr := rfl
  have isData : " data ".toUTF8.toList.length = 6 :=
    utf8_length_of_ascii (by simp)
  rw [watchdogText, isRepr, utf8_append, List.length_append, utf8_length_repr,
    isData]
  omega

end Text

section Forward

variable
    {gate : Gate}
    {contents : Nat → List UInt8}
    {c size : Nat}

/-- `_forward` sends what the text buffer holds. -/
theorem Gate.forward_eq_forwardWatchdog
    (buffers : Buffers gate.mp gate.bufs contents)
    (isOpen : 0 < (gate.conn c).id)
    (isInt : (gate.conn c).id < 2 ^ 31)
    (noReceiver : ¬ gate.HasReceiver c)
    (hasWatchdog : gate.watchdog ≠ 0)
    (positive : 0 < size)
    (enough : size ≤ (contents c).length) :
    ∃ next sent,
      gate.forwardWatchdog c size = .ok (next, sent) ∧
        sent.temp.Holds
          (watchdogText (gate.conn c).id ++ (contents c).take size) ∧
        sent.temp.size = size ∧
        sent.sz =
          (watchdogText (gate.conn c).id ++ (contents c).take size).length ∧
        gate.forward c size =
          .ok (next,
            [.serviceSend 0 gate.watchdog (kPtypeText ||| kPtypeTagDontcopy)
              (gate.conn c).id (some (sent.temp.read sent.sz.toNat))
              (UInt64.ofInt sent.sz)]) := by
  simp only [Gate.HasReceiver, not_or] at noReceiver
  obtain ⟨noBroker, noAgent⟩ := noReceiver
  obtain ⟨db, mp, isRead, _, _⟩ :=
    databufferRead_spec buffers positive enough
  have isBuffer : (gate.conn c).buffer = gate.bufs c := rfl
  obtain ⟨atLeast, atMost⟩ := watchdogText_length isOpen isInt
  have taken : ((contents c).take size).length = size :=
    List.length_take_of_le enough
  -- `snprintf` writes the text and a zero, which the frame then covers.
  have isPrinted :
      snprintfData (gate.conn c).id = watchdogText (gate.conn c).id ++ [0] := by
    rw [snprintfData, List.take_of_length_le (by omega)]
  have printed :
      ((Block.allocate ((size : Int).toNat)).write 0
        (snprintfData (gate.conn c).id)).Holds
        (watchdogText (gate.conn c).id ++ [0]) := by
    have holds :=
      (Block.allocate_holds (size : Int).toNat).write (le_refl 0)
        (Nat.zero_le (0 + (snprintfData (gate.conn c).id).length))
    rw [isPrinted] at holds ⊢
    exact holds
  have starts :
      (watchdogText (gate.conn c).id).length ≤
        (watchdogText (gate.conn c).id ++ [0]).length := by
    rw [List.length_append]
    omega
  have reaches :
      (watchdogText (gate.conn c).id ++ [0]).length ≤
        (watchdogText (gate.conn c).id).length +
          ((contents c).take size).length := by
    rw [List.length_append, List.length_singleton, taken]
    omega
  obtain ⟨temp, isWritten, sameSize, holds⟩ :=
    databufferReadInto_spec isRead printed starts reaches
  rw [List.take_left] at holds
  have isSz :
      ((size : Int) + (watchdogText (gate.conn c).id).length) =
        (watchdogText (gate.conn c).id ++ (contents c).take size).length := by
    rw [List.length_append, taken]
    omega
  refine
    ⟨gate.setBuffer c db mp,
      { temp := temp, sz := size + (watchdogText (gate.conn c).id).length },
      ?_, holds, ?_, isSz, ?_⟩
  · rw [Gate.forwardWatchdog, isBuffer, isWritten]
    rfl
  · rw [sameSize, Block.write_size]
    rfl
  · simp only [isSz, Int.toNat_natCast, holds.read]
    rw [← isSz]
    simp only [Gate.forward, if_neg (not_le.mpr isOpen), if_neg noBroker,
      if_neg noAgent, if_pos hasWatchdog, isBuffer, isRead]
    rfl

/--
The watchdog is sent the right text with the right size, but the text never
fits the temporary buffer.
-/
theorem forwardWatchdog_overruns
    (buffers : Buffers gate.mp gate.bufs contents)
    (isOpen : 0 < (gate.conn c).id)
    (isInt : (gate.conn c).id < 2 ^ 31)
    (noReceiver : ¬ gate.HasReceiver c)
    (hasWatchdog : gate.watchdog ≠ 0)
    (positive : 0 < size)
    (enough : size ≤ (contents c).length) :
    ∃ next sent,
      gate.forwardWatchdog c size = .ok (next, sent) ∧
        sent.temp.Holds
          (watchdogText (gate.conn c).id ++ (contents c).take size) ∧
        sent.sz =
          (watchdogText (gate.conn c).id ++ (contents c).take size).length ∧
        gate.forward c size =
          .ok (next,
            [.serviceSend 0 gate.watchdog (kPtypeText ||| kPtypeTagDontcopy)
              (gate.conn c).id (some (sent.temp.read sent.sz.toNat))
              (UInt64.ofInt sent.sz)]) ∧
        ¬ sent.Meets (gate.conn c).id ((contents c).take size) := by
  obtain ⟨next, sent, isSent, holds, sameSize, isSz, isForwarded⟩ :=
    Gate.forward_eq_forwardWatchdog buffers isOpen isInt noReceiver hasWatchdog
      positive enough
  refine ⟨next, sent, isSent, holds, isSz, isForwarded, ?_⟩
  intro meets
  have fits := holds.inside_iff.mp meets.inside
  have atLeast := (watchdogText_length isOpen isInt).1
  rw [sameSize, List.length_append, List.length_take_of_le enough] at fits
  omega

end Forward

section OneByte

/-- The pool and the data buffer after one byte was pushed to it. -/
def oneBytePushed : Databuffer × Messagepool :=
  ({ header := 0, offset := 0, size := 1, head := some 0, tail := some 0 },
    (allocateBlock .zero).modify 0 fun _ =>
      { buffer := some [65], size := 1, next := none })

theorem oneBytePushed_eq :
    databufferPush .zero .zero [65] 1 = .ok oneBytePushed :=
  rfl

/-- A gate with a watchdog and one byte for the connection of socket 7. -/
def watchedGate : Gate where
  watchdog := 5
  broker := 0
  client_tag := 3
  header_size := 2
  conn := fun c =>
    if c = 0 then
      { id := 7, agent := 0, client := 0, buffer := oneBytePushed.1 }
    else
      { id := -1, agent := 0, client := 0, buffer := .zero }
  mp := oneBytePushed.2

theorem watchedGate_buffers :
    Buffers watchedGate.mp watchedGate.bufs
      (Function.update (fun _ => []) 0 [65]) := by
  obtain ⟨db, mp, pushed, buffers, _⟩ :=
    databufferPush_spec Buffers.zero 0 [65]
  have same : oneBytePushed = (db, mp) :=
    Except.ok.inj (oneBytePushed_eq.symm.trans pushed)
  have isBufs :
      watchedGate.bufs = Function.update (fun _ => Databuffer.zero) 0 db := by
    funext c
    by_cases isFirst : c = 0
    · subst isFirst
      rw [Function.update_self]
      exact congrArg Prod.fst same
    · simp [Gate.bufs, watchedGate, isFirst]
  have isPool : watchedGate.mp = mp := congrArg Prod.snd same
  rw [isBufs, isPool]
  exact buffers

theorem watchedGate_noReceiver : ¬ watchedGate.HasReceiver 0 := by
  simp [Gate.HasReceiver, watchedGate]

/-- The text for a frame of one byte runs over its buffer. -/
theorem watchedGate_overruns :
    ∃ next sent,
      watchedGate.forwardWatchdog 0 1 = .ok (next, sent) ∧
        sent.temp.Holds (watchdogText 7 ++ [65]) ∧
        sent.sz = (watchdogText 7 ++ [65]).length ∧
        watchedGate.forward 0 1 =
          .ok (next,
            [.serviceSend 0 5 (kPtypeText ||| kPtypeTagDontcopy) 7
              (some (sent.temp.read sent.sz.toNat)) (UInt64.ofInt sent.sz)]) ∧
        ¬ sent.Meets 7 [65] := by
  have enough : 1 ≤ (Function.update (fun _ => []) 0 [(65 : UInt8)] 0).length := by
    decide
  exact
    forwardWatchdog_overruns watchedGate_buffers (by decide) (by decide)
      watchedGate_noReceiver (by decide) Nat.one_pos enough

/-- The second byte of the text is written behind the one byte of the buffer. -/
theorem watchedGate_not_inside :
    ∃ next sent,
      watchedGate.forwardWatchdog 0 1 = .ok (next, sent) ∧
        sent.temp.size = 1 ∧ sent.temp.cell 1 ≠ none ∧
        ¬ sent.Meets 7 [65] := by
  have enough : 1 ≤ (Function.update (fun _ => []) 0 [(65 : UInt8)] 0).length := by
    decide
  obtain ⟨next, sent, isSent, holds, sameSize, _, _⟩ :=
    Gate.forward_eq_forwardWatchdog watchedGate_buffers (by decide) (by decide)
      watchedGate_noReceiver (by decide) Nat.one_pos enough
  have isId : (watchedGate.conn 0).id = 7 := rfl
  have positive : (0 : Int) < 7 := by decide
  have atLeast := (watchdogText_length positive (by decide)).1
  have written : sent.temp.cell 1 ≠ none := by
    rw [holds 1, isId, List.getElem?_append_left (by omega),
      List.getElem?_eq_getElem (by omega)]
    exact Option.some_ne_none _
  refine ⟨next, sent, isSent, sameSize, written, fun meets => ?_⟩
  have inside := meets.inside 1 written
  rw [sameSize] at inside
  exact Nat.lt_irrefl 1 inside

end OneByte

end SkynetCpp
