import Mathlib.Data.List.TakeWhile
import SkynetCpp.Command
import SkynetCpp.Delivery
import SkynetCpp.Foundation.Bits
import SkynetCpp.HarborService

namespace SkynetCpp

/-!
# Remote messages on their way to the harbor

`ServiceSend` and `ServiceSendname` split the size word of a message into the
fields of a `RemoteMessage`, `HarborSend` passes the object on by its address,
and `mainloop` reads it.  With an object behind the address every field
survives.  Neither sender has one: the address is null in the first and was
never set in the second.
-/

def kPtypeHarbor : UInt32 := 5

/-- `sizeof(struct RemoteMessage)`. -/
def sizeofRemoteMessage : UInt64 := 48

/-- The message in which the harbor service gets a remote message. -/
def carrier
    (source : UInt32)
    (session : Int)
    (rmsg : RemoteMessage) : Message where
  source := source
  session := session
  data := some (.remote rmsg)
  sz := encodeSz sizeofRemoteMessage kPtypeSystem

/-- `HarborSend`, with the context in `kRemote`. -/
def harborSend
    (s : System)
    (kRemote : Option ContextId)
    (rmsg : RemoteMessage)
    (source : UInt32)
    (session : Int) : Except Fault System :=
  if rmsg.type ≠ kPtypeSystem.toNat ∧ rmsg.type ≠ kPtypeHarbor.toNat ∧
      s.harbor ≠ 0 then
    match kRemote with
    | some remote => do
        let queues ←
          messageQueuePush s.queues (s.contexts remote).queue
            (carrier source session rmsg)
        .ok { s with queues := queues }
    | none => .error .nullPointer
  else
    .error (.assertion
      "remoet_message->type != kPtypeSystem && remoet_message->type != kPtypeHarbor && kHarbor")

/-- `_CopyName`. -/
def copyName (addr : List UInt8) : List UInt8 :=
  let name := (addr.take kGlobalNameLength).takeWhile (· ≠ 0)
  name ++ List.replicate (kGlobalNameLength - name.length) 0

/-- A call that sends a message to another harbor. -/
inductive RemoteCall where
  | serviceSend (ctx : Option ContextId) (destination : UInt32)
  | serviceSendname (ctx : ContextId) (addr : String)

namespace RemoteCall

/-- The handle is that of another harbor, the name a global one. -/
def IsRemote (s : System) : RemoteCall → Prop
  | .serviceSend _ destination => harborMessageIsRemote s destination = .ok true
  | .serviceSendname _ addr =>
      sendnameDestination s addr = .remote ∧
        addr.toUTF8.toList.length ≤ kGlobalNameLength

/-- The call on the whole state. -/
def run
    (s : System)
    (source type : UInt32)
    (session : Int)
    (data : Option Payload)
    (sz : UInt64) : RemoteCall → Except Fault (Int × System)
  | .serviceSend ctx destination =>
      SkynetCpp.serviceSend s ctx source destination type session data sz
  | .serviceSendname ctx addr =>
      SkynetCpp.serviceSendname s ctx source addr type session data sz

/-- The sending context. -/
def sender : RemoteCall → Option ContextId
  | .serviceSend ctx _ => ctx
  | .serviceSendname ctx _ => some ctx

/-- What the harbor is to do with the message. -/
def asked
    (h : HarborService)
    (source type : UInt32)
    (session : Int)
    (msg : List UInt8)
    (sz : Nat) : RemoteCall → Bool × HarborService × List HarborCall
  | .serviceSend _ destination =>
      h.remoteSendHandle source destination type session msg sz
  | .serviceSendname _ addr =>
      h.remoteSendName source
        (addr.toUTF8.toList ++
          List.replicate (kGlobalNameLength - addr.toUTF8.toList.length) 0)
        type session msg sz

/--
The fields that the call assigns, in an object whose name was `unset`; the
size word holds the type.
-/
def assigned
    (unset : List UInt8)
    (content : Option (List UInt8))
    (sz : UInt64) (call : RemoteCall) : RemoteMessage where
  destination :=
    match call with
    | .serviceSend _ destination => { name := unset, handle := destination }
    | .serviceSendname _ addr =>
        { name := copyName addr.toUTF8.toList, handle := 0 }
  message := content
  sz := sz &&& kMessageTypeMask
  type := (sz >>> kMessageTypeShift).toNat

end RemoteCall

/-- `mainloop` turns the remote message into the one call that was asked for. -/
def Unpacks
    (rmsg : RemoteMessage)
    (call : RemoteCall)
    (type : UInt32)
    (content : Option (List UInt8))
    (sz : UInt64) : Prop :=
  ∃ msg : List UInt8,
    msg.take sz.toNat = (content.getD []).take sz.toNat ∧
      ∀ (h : HarborService) (session : Int) (source : UInt32)
        (unknown : HarborUnknown),
        h.mainloop (.system rmsg) session source unknown =
          .ok (call.asked h source type session msg sz.toNat).2

/--
The call returns, the harbor service got exactly one message, and `mainloop`
does with it what the call asked for.
-/
def RemoteCall.Kept
    (call : RemoteCall)
    (s : System)
    (remote : ContextId)
    (source type : UInt32)
    (session : Int)
    (content : Option (List UInt8))
    (sz : UInt64) : Prop :=
  let sent :=
    sentMessage s call.sender source type session (content.map .bytes) sz
  ∃ result after rmsg,
    call.run s source type session (content.map .bytes) sz =
        .ok (result, after) ∧
      (∀ queue,
        (after.queues.mq queue).messageQueue =
          if queue = (s.contexts remote).queue then
            (s.queues.mq queue).messageQueue ++
              [carrier sent.source sent.session rmsg]
          else
            (s.queues.mq queue).messageQueue) ∧
      Unpacks rmsg call type content sz

/-- No harbor counts the handle 0 as its own or as another's. -/
theorem nonzero_of_remote
    {s : System}
    {destination : UInt32}
    (isRemote : harborMessageIsRemote s destination = .ok true) :
    destination ≠ 0 := by
  rintro rfl
  unfold harborMessageIsRemote at isRemote
  split at isRemote
  · cases isRemote
  · simp at isRemote

/-- A size word with its type is their sum. -/
theorem encodeSz_toNat
    {sz : UInt64}
    {type : UInt32}
    (fits : FitsMask sz)
    (oneByte : type.toNat < 256) :
    (encodeSz sz type).toNat = type.toNat * 2 ^ 56 + sz.toNat := by
  have small : sz.toNat < 2 ^ 56 := by
    have masked : (sz &&& kMessageTypeMask).toNat = sz.toNat :=
      congrArg UInt64.toNat fits
    rw [UInt64.toNat_and, show kMessageTypeMask.toNat = 2 ^ 56 - 1 from rfl,
      Nat.and_two_pow_sub_one_eq_mod] at masked
    omega
  have shifted :
      (type.toUInt64 <<< kMessageTypeShift).toNat = type.toNat <<< 56 := by
    rw [UInt64.toNat_shiftLeft, UInt32.toNat_toUInt64,
      show kMessageTypeShift.toNat % 64 = 56 from rfl, Nat.shiftLeft_eq]
    omega
  rw [encodeSz, UInt64.toNat_or, shifted, Nat.or_comm,
    ← Nat.shiftLeft_add_eq_or_of_lt small, Nat.shiftLeft_eq]

/-- The low part of a size word is the size. -/
theorem encodeSz_and_mask
    {sz : UInt64}
    {type : UInt32}
    (fits : FitsMask sz)
    (oneByte : type.toNat < 256) :
    encodeSz sz type &&& kMessageTypeMask = sz := by
  have whole := encodeSz_toNat fits oneByte
  have masked : (sz &&& kMessageTypeMask).toNat = sz.toNat :=
    congrArg UInt64.toNat fits
  rw [← UInt64.toNat_inj]
  rw [UInt64.toNat_and, show kMessageTypeMask.toNat = 2 ^ 56 - 1 from rfl,
    Nat.and_two_pow_sub_one_eq_mod] at masked ⊢
  omega

/-- The high part of a size word is the type. -/
theorem encodeSz_shiftRight
    {sz : UInt64}
    {type : UInt32}
    (fits : FitsMask sz)
    (oneByte : type.toNat < 256) :
    (encodeSz sz type >>> kMessageTypeShift).toNat = type.toNat := by
  have whole := encodeSz_toNat fits oneByte
  have masked : (sz &&& kMessageTypeMask).toNat = sz.toNat :=
    congrArg UInt64.toNat fits
  rw [UInt64.toNat_and, show kMessageTypeMask.toNat = 2 ^ 56 - 1 from rfl,
    Nat.and_two_pow_sub_one_eq_mod] at masked
  rw [UInt64.toNat_shiftRight, show kMessageTypeShift.toNat % 64 = 56 from rfl,
    Nat.shiftRight_eq_div_pow]
  omega

/-- `_CopyName` pads a name that fits with zeros. -/
theorem copyName_of_fits
    {addr : List UInt8}
    (noZero : 0 ∉ addr)
    (fits : addr.length ≤ kGlobalNameLength) :
    copyName addr =
      addr ++ List.replicate (kGlobalNameLength - addr.length) 0 := by
  have whole : (addr.take kGlobalNameLength).takeWhile (· ≠ 0) = addr := by
    rw [List.take_of_length_le fits, List.takeWhile_eq_self_iff]
    intro byte member
    have nonzero : byte ≠ 0 := by
      rintro rfl
      exact noZero member
    simpa using nonzero
  simp only [copyName, whole]

/--
Behind a valid address the fields that either call assigns are all that
`mainloop` needs.
-/
theorem unpacks_assigned
    {call : RemoteCall}
    {s : System}
    {type : UInt32}
    {sz : UInt64}
    (isRemote : call.IsRemote s)
    (noZero : ∀ ctx addr, call = .serviceSendname ctx addr →
      0 ∉ addr.toUTF8.toList)
    (fits : FitsMask sz)
    (oneByte : type.toNat < 256)
    (unset : List UInt8)
    (content : Option (List UInt8)) :
    Unpacks (call.assigned unset content (encodeSz sz type)) call type content
      sz := by
  refine ⟨content.getD [], rfl, ?_⟩
  intro h session source unknown
  have sameType :
      UInt32.ofInt ((encodeSz sz type >>> kMessageTypeShift).toNat : Int) =
        type := by
    rw [encodeSz_shiftRight fits oneByte, Foundation.UInt32.ofInt_natCast,
      UInt32.ofNat_toNat]
  cases call with
  | serviceSend ctx destination =>
      have nonzero := nonzero_of_remote isRemote
      simp only [HarborService.mainloop, RemoteCall.assigned, nonzero,
        ↓reduceIte, sameType, encodeSz_and_mask fits oneByte, RemoteCall.asked]
  | serviceSendname ctx addr =>
      have padded := copyName_of_fits (noZero ctx addr rfl) isRemote.2
      simp only [HarborService.mainloop, RemoteCall.assigned, ↓reduceIte,
        sameType, encodeSz_and_mask fits oneByte, RemoteCall.asked, padded]

/-- `HarborSend` puts one carrier into the queue of the harbor service. -/
theorem harborSend_messages
    {s after : System}
    {remote : ContextId}
    {rmsg : RemoteMessage}
    {source : UInt32}
    {session : Int}
    (sent : harborSend s (some remote) rmsg source session = .ok after)
    (queue : QueueId) :
    (after.queues.mq queue).messageQueue =
      if queue = (s.contexts remote).queue then
        (s.queues.mq queue).messageQueue ++ [carrier source session rmsg]
      else
        (s.queues.mq queue).messageQueue := by
  unfold harborSend at sent
  split at sent
  · simp only [bind_eq_ok_iff, Except.ok.injEq] at sent
    obtain ⟨queues, pushed, isAfter⟩ := sent
    subst isAfter
    exact messageQueuePush_messages pushed queue
  · cases sent

/-- A remote call whose message fits never returns. -/
theorem run_of_remote
    {s : System}
    {call : RemoteCall}
    {sz : UInt64}
    (isRemote : call.IsRemote s)
    (fits : FitsMask sz)
    (source type : UInt32)
    (session : Int)
    (data : Option Payload)
    (returned : Int × System) :
    call.run s source type session data sz ≠ .ok returned := by
  intro done
  unfold FitsMask at fits
  cases call with
  | serviceSend ctx destination =>
      change harborMessageIsRemote s destination = .ok true at isRemote
      have nonzero := nonzero_of_remote isRemote
      simp only [RemoteCall.run, serviceSend, fits, ne_eq, not_true_eq_false,
        ↓reduceIte, bind_eq_ok_iff, nonzero] at done
      obtain ⟨⟨args, s'⟩, filtered, sender, _, decided, judged, done⟩ := done
      have same := (filterArgs_eq source filtered).1
      have stillRemote : harborMessageIsRemote s' destination = .ok true := by
        rw [← isRemote, harborMessageIsRemote, harborMessageIsRemote,
          same.harbor]
      rw [stillRemote] at judged
      injection judged with isTrue
      subst isTrue
      cases done
  | serviceSendname ctx addr =>
      simp only [RemoteCall.run, serviceSendname, isRemote.1, fits, ne_eq,
        not_true_eq_false, ↓reduceIte, bind_eq_ok_iff] at done
      obtain ⟨_, _, done⟩ := done
      cases done

/-- No message to another harbor gets as far as the harbor service. -/
theorem remoteCall_not_kept
    {s : System}
    {call : RemoteCall}
    {sz : UInt64}
    (isRemote : call.IsRemote s)
    (fits : FitsMask sz)
    (remote : ContextId)
    (source type : UInt32)
    (session : Int)
    (content : Option (List UInt8)) :
    ¬ call.Kept s remote source type session content sz := by
  rintro ⟨result, after, rmsg, done, _⟩
  exact
    run_of_remote isRemote fits source type session (content.map .bytes)
      (result, after) done

/-- The node with one service, as harbor 1. -/
def harborSystem : System :=
  { soloSystem with harbor := 0x1000000 }

/-- Neither a handle of harbor 2 nor a global name. -/
theorem handle_and_name_not_kept :
    ¬ RemoteCall.Kept (.serviceSend none 0x2000001) harborSystem 0 1 0 7
        (some [104, 105]) 2 ∧
      ¬ RemoteCall.Kept (.serviceSendname 0 "global") harborSystem 0 1 0 7
        (some [104, 105]) 2 := by
  have isRemote :
      RemoteCall.IsRemote harborSystem (.serviceSend none 0x2000001) := rfl
  have isGlobal :
      RemoteCall.IsRemote harborSystem (.serviceSendname 0 "global") :=
    ⟨rfl, by decide +kernel⟩
  exact
    ⟨remoteCall_not_kept isRemote (by decide) 0 1 0 7 (some [104, 105]),
      remoteCall_not_kept isGlobal (by decide) 0 1 0 7 (some [104, 105])⟩

/-- Two bytes to a service of harbor 2 are written through a null pointer. -/
theorem remoteSend_through_null :
    (serviceSend harborSystem none 1 0x2000001 0 7 (some (.bytes [104, 105])) 2).map
        Prod.fst = .error .nullPointer ∧
      ¬ ∀ (s : System) (call : RemoteCall) (remote : ContextId)
          (source type : UInt32) (session : Int)
          (content : Option (List UInt8)) (sz : UInt64),
        call.IsRemote s →
          type.toNat < 256 → type ≠ kPtypeSystem → type ≠ kPtypeHarbor →
            FitsMask sz →
              call.Kept s remote source type session content sz := by
  refine ⟨rfl, ?_⟩
  intro holds
  have isRemote :
      RemoteCall.IsRemote harborSystem (.serviceSend none 0x2000001) := rfl
  obtain ⟨result, after, rmsg, done, _⟩ :=
    holds harborSystem (.serviceSend none 0x2000001) 0 1 0 7 (some [104, 105]) 2
      isRemote (by decide) (by decide) (by decide) (by decide)
  cases done

end SkynetCpp
