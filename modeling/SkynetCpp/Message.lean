import Mathlib.Algebra.Group.Int.Defs
import Mathlib.Algebra.Group.Nat.Defs

namespace SkynetCpp

/-!
# Messages, addresses and faults

Objects of the program live at addresses that are plain numbers.  A message
carries a pointer to its payload; the null pointer is `none`, and what a
non-null pointer points to is kept as data, by the three kinds of objects
that the program sends.
-/

/-- Address of a `MessageQueue`. -/
abbrev QueueId := Nat

/-- Address of a `Context`. -/
abbrev ContextId := Nat

/-- The ways in which a call does not return normally. -/
inductive Fault where
  /-- A failed `assert`, with its expression. -/
  | assertion (expression : String)
  /-- A null pointer was dereferenced. -/
  | nullPointer
  /-- A thrown `std::runtime_error`, with its text. -/
  | exception (what : String)
  /-- A loop was still running when its fuel was spent. -/
  | running
  deriving Repr, DecidableEq

/-- A pair that is returned fixes both of its parts. -/
theorem ok_pair_inj
    {ε α β : Type}
    {first first' : α}
    {second second' : β} :
    (.ok (first, second) : Except ε (α × β)) = .ok (first', second') ↔
      first = first' ∧ second = second' := by
  rw [Except.ok.injEq, Prod.mk.injEq]

/-- Sequencing succeeds exactly when both parts do. -/
theorem bind_eq_ok_iff
    {ε α β : Type}
    {first : Except ε α}
    {second : α → Except ε β}
    {result : β} :
    (first >>= second) = .ok result ↔
      ∃ value, first = .ok value ∧ second value = .ok result := by
  cases first with
  | error fault =>
      constructor
      · intro impossible
        cases impossible
      · rintro ⟨value, impossible, _⟩
        cases impossible
  | ok value =>
      constructor
      · intro succeeded
        exact ⟨value, rfl, succeeded⟩
      · rintro ⟨other, same, succeeded⟩
        injection same with same
        subst same
        exact succeeded

/-- The destination of a remote message: a global name or a handle. -/
structure RemoteName where
  name : List UInt8
  handle : UInt32
  deriving Repr, DecidableEq

/-- A message on its way to another harbor. -/
structure RemoteMessage where
  destination : RemoteName
  message : Option (List UInt8)
  sz : UInt64
  type : Int
  deriving Repr, DecidableEq

/-- A socket event as it is sent to the service that owns the socket. -/
structure SkynetSocketMessage where
  type : Int
  id : Int
  ud : Int
  buffer : List UInt8
  deriving Repr, DecidableEq

/-- What the `void *data` of a message points to. -/
inductive Payload where
  | bytes (content : List UInt8)
  | remote (message : RemoteMessage)
  | socket (message : SkynetSocketMessage)
  deriving Repr, DecidableEq

/-- A message; the type is encoded in the high eight bits of `sz`. -/
structure Message where
  source : UInt32
  session : Int
  data : Option Payload
  sz : UInt64
  deriving Repr, DecidableEq

/-- `SIZE_MAX >> 8`. -/
def kMessageTypeMask : UInt64 := 0xffffffffffffff

/-- `(sizeof(size_t) - 1) * 8`. -/
def kMessageTypeShift : UInt64 := 56

def kPtypeText : UInt32 := 0
def kPtypeResponse : UInt32 := 1
def kPtypeSystem : UInt32 := 4
def kPtypeSocket : UInt32 := 6
def kPtypeError : UInt32 := 7

/-- Tag bits that a caller of `ServiceSend` sets in the message type. -/
def kPtypeTagDontcopy : UInt32 := 0x10000
def kPtypeTagAllocsession : UInt32 := 0x20000

/-- `sz | (size_t)type << kMessageTypeShift` for a type of eight bits. -/
def encodeSz
    (sz : UInt64)
    (type : UInt32) : UInt64 :=
  sz ||| (type.toUInt64 <<< kMessageTypeShift)

/-- Two's-complement value of an integer stored into an `int`. -/
def toInt32 (value : Int) : Int :=
  Int.bmod value (2 ^ 32)

/-- A value that fits an `int` is stored unchanged. -/
theorem toInt32_of_bounds
    {value : Int}
    (lower : -2 ^ 31 ≤ value)
    (upper : value < 2 ^ 31) :
    toInt32 value = value :=
  Int.bmod_eq_of_le (by omega) (by omega)

/-- A stored `int` is below `2 ^ 31`. -/
theorem toInt32_lt
    (value : Int) :
    toInt32 value < 2 ^ 31 := by
  have bound := Int.bmod_lt (x := value) (m := 2 ^ 32) (by decide)
  simpa [toInt32] using bound

end SkynetCpp
