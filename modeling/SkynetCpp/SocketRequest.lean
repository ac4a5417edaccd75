import SkynetCpp.Foundation.BigEndian
import SkynetCpp.Message

namespace SkynetCpp

open Foundation

/-!
# Requests to the socket thread

The structures of `socket_protocol.h` as `SendRequest` puts them into the
control pipe and `CtrlCmd` reads them back.  Of every structure there are the
fields that the handler of its command reads.  Numbers are little-endian, as on
the hosts that the server is built for.
-/

/-- `kUdpAddressSize`. -/
def kUdpAddressSize : Nat := 19

/-- The size of `CtrlCmd`'s array, and of `RequestPackage::u`. -/
def kRequestBufferSize : Nat := 256

/-- `sizeof(struct RequestPackage)`. -/
def kRequestPackageSize : Nat := 520

/-- `struct RequestSend`; `Pointer` says how a `std::string *` is given. -/
structure RequestSend (Pointer : Type) where
  id : Int32
  sz : UInt64
  buffer : Pointer
  deriving Repr, DecidableEq

/-- A command of the control pipe with what its handler reads. -/
inductive SocketRequest (Pointer : Type) where
  /-- `'R'`, to `ResumeSocket`. -/
  | resume (id : Int32) (opaqueValue : UInt64)
  /-- `'S'`, to `PauseSocket`. -/
  | pause (id : Int32)
  /-- `'B'`, to `BindSocket`. -/
  | bind (id fd : Int32) (opaqueValue : UInt64)
  /-- `'L'`, to `ListenSocket`. -/
  | listen (id fd : Int32) (opaqueValue : UInt64)
  /-- `'K'`, to `CloseSocket`. -/
  | close (id shutdown : Int32)
  /-- `'O'`, to `OpenSocket`. -/
  | connect (id port : Int32) (opaqueValue : UInt64) (host : List UInt8)
  /-- `'X'`. -/
  | exit
  /-- `'W'`, to `TriggerWrite`. -/
  | triggerWrite (id : Int32)
  /-- `'D'`, to `SendSocket` with `PRIORITY_HIGH`. -/
  | send (request : RequestSend Pointer)
  /-- `'P'`, to `SendSocket` with `PRIORITY_LOW`. -/
  | sendLow (request : RequestSend Pointer)
  /-- `'A'`, to `SendSocket` with an address. -/
  | sendUdp (request : RequestSend Pointer) (address : List UInt8)
  /-- `'C'`, to `SetUDPAddress`. -/
  | setUdp (id : Int32) (address : List UInt8)
  /-- `'T'`, to `SetOptSocket`. -/
  | setOpt (id what value : Int32)
  /-- `'U'`, to `AddUDPSocket`. -/
  | udp (id fd family : Int32) (opaqueValue : UInt64)
  /-- Any other letter. -/
  | unknown (type : UInt8)
  deriving Repr, DecidableEq

/-- The bytes of an address that its first byte announces. -/
def udpAddressSize (type : UInt8) : Nat :=
  if type = 1 then 1 + 2 + 4
  else if type = 2 then 1 + 2 + 16
  else 1

namespace SocketRequest

section Layout

/-- A member of a structure: its offset and its bytes. -/
structure Field where
  offset : Nat
  bytes : List UInt8
  deriving Repr, DecidableEq

/-- An `int` in memory. -/
def intBytes (value : Int32) : List UInt8 :=
  (toBytes 4 value.toUInt32.toNat).reverse

/-- A `size_t`, `uintptr_t` or pointer in memory. -/
def wordBytes (value : UInt64) : List UInt8 :=
  (toBytes 8 value.toNat).reverse

/-- The members of `struct RequestSend`. -/
def sendFields (request : RequestSend UInt64) : List Field :=
  [⟨0, intBytes request.id⟩, ⟨8, wordBytes request.sz⟩,
    ⟨16, wordBytes request.buffer⟩]

/-- Where the values of a request stand in `RequestPackage::u`. -/
def fields : SocketRequest UInt64 → List Field
  | .resume id opaqueValue => [⟨0, intBytes id⟩, ⟨8, wordBytes opaqueValue⟩]
  | .pause id => [⟨0, intBytes id⟩]
  | .bind id fd opaqueValue =>
      [⟨0, intBytes id⟩, ⟨4, intBytes fd⟩, ⟨8, wordBytes opaqueValue⟩]
  | .listen id fd opaqueValue =>
      [⟨0, intBytes id⟩, ⟨4, intBytes fd⟩, ⟨8, wordBytes opaqueValue⟩]
  | .close id shutdown => [⟨0, intBytes id⟩, ⟨4, intBytes shutdown⟩]
  | .connect id port opaqueValue host =>
      [⟨0, intBytes id⟩, ⟨4, intBytes port⟩, ⟨8, wordBytes opaqueValue⟩,
        ⟨16, host ++ [0]⟩]
  | .exit => []
  | .triggerWrite id => [⟨0, intBytes id⟩]
  | .send request => sendFields request
  | .sendLow request => sendFields request
  | .sendUdp request address => sendFields request ++ [⟨24, address⟩]
  | .setUdp id address => [⟨0, intBytes id⟩, ⟨4, address⟩]
  | .setOpt id what value =>
      [⟨0, intBytes id⟩, ⟨4, intBytes what⟩, ⟨8, intBytes value⟩]
  | .udp id fd family opaqueValue =>
      [⟨0, intBytes id⟩, ⟨4, intBytes fd⟩, ⟨8, intBytes family⟩,
        ⟨16, wordBytes opaqueValue⟩]
  | .unknown _ => []

variable {Pointer : Type}

/-- The letter of a command. -/
def type : SocketRequest Pointer → UInt8
  | .resume .. => 82
  | .pause .. => 83
  | .bind .. => 66
  | .listen .. => 76
  | .close .. => 75
  | .connect .. => 79
  | .exit => 88
  | .triggerWrite .. => 87
  | .send .. => 68
  | .sendLow .. => 80
  | .sendUdp .. => 65
  | .setUdp .. => 67
  | .setOpt .. => 84
  | .udp .. => 85
  | .unknown type => type

/-- The `len` that the function of the API gives to `SendRequest`. -/
def len : SocketRequest Pointer → Nat
  | .resume .. => 16
  | .pause .. => 16
  | .bind .. => 16
  | .listen .. => 24
  | .close .. => 16
  | .connect _ _ _ host => 24 + host.length
  | .exit => 0
  | .triggerWrite .. => 24
  | .send .. => 24
  | .sendLow .. => 24
  | .sendUdp _ address => 24 + address.length
  | .setUdp _ address => 24 - kUdpAddressSize + address.length
  | .setOpt .. => 12
  | .udp .. => 24
  | .unknown _ => 0

/--
What the functions of the API build: `OpenRequest` accepts a host that leaves
the length below 256, and the addresses are those of the two UDP protocols.
-/
def Built : SocketRequest Pointer → Prop
  | .connect _ _ _ host => 0 ∉ host ∧ host.length + 24 < 256
  | .sendUdp _ address =>
      (address.getD 0 0 = 1 ∨ address.getD 0 0 = 2) ∧
        address.length = udpAddressSize (address.getD 0 0)
  | .setUdp _ address =>
      (address.getD 0 0 = 1 ∨ address.getD 0 0 = 2) ∧
        address.length = udpAddressSize (address.getD 0 0)
  | .unknown _ => False
  | _ => True

end Layout

section Reading

/-- The bytes of a member. -/
def fieldAt
    (offset count : Nat)
    (buffer : List UInt8) : List UInt8 :=
  (buffer.drop offset).take count

/-- Read an `int`. -/
def intAt
    (offset : Nat)
    (buffer : List UInt8) : Int32 :=
  (UInt32.ofNat (ofBytes (fieldAt offset 4 buffer).reverse)).toInt32

/-- Read a `size_t`, `uintptr_t` or pointer. -/
def wordAt
    (offset : Nat)
    (buffer : List UInt8) : UInt64 :=
  UInt64.ofNat (ofBytes (fieldAt offset 8 buffer).reverse)

/-- Read a `struct RequestSend`. -/
def sendAt (buffer : List UInt8) : RequestSend UInt64 where
  id := intAt 0 buffer
  sz := wordAt 8 buffer
  buffer := wordAt 16 buffer

/-- Read an address, as far as its first byte announces it. -/
def addressAt
    (offset : Nat)
    (buffer : List UInt8) : List UInt8 :=
  fieldAt offset (udpAddressSize (buffer.getD offset 0)) buffer

/-- Read a C string. -/
def stringAt
    (offset : Nat)
    (buffer : List UInt8) : List UInt8 :=
  (buffer.drop offset).takeWhile fun byte => byte ≠ 0

/-- The cast of `CtrlCmd`'s array for a letter, with what the handler reads. -/
def ofBuffer
    (type : UInt8)
    (buffer : List UInt8) : SocketRequest UInt64 :=
  if type = 82 then .resume (intAt 0 buffer) (wordAt 8 buffer)
  else if type = 83 then .pause (intAt 0 buffer)
  else if type = 66 then
    .bind (intAt 0 buffer) (intAt 4 buffer) (wordAt 8 buffer)
  else if type = 76 then
    .listen (intAt 0 buffer) (intAt 4 buffer) (wordAt 8 buffer)
  else if type = 75 then .close (intAt 0 buffer) (intAt 4 buffer)
  else if type = 79 then
    .connect (intAt 0 buffer) (intAt 4 buffer) (wordAt 8 buffer)
      (stringAt 16 buffer)
  else if type = 88 then .exit
  else if type = 87 then .triggerWrite (intAt 0 buffer)
  else if type = 68 then .send (sendAt buffer)
  else if type = 80 then .sendLow (sendAt buffer)
  else if type = 65 then .sendUdp (sendAt buffer) (addressAt 24 buffer)
  else if type = 67 then .setUdp (intAt 0 buffer) (addressAt 4 buffer)
  else if type = 84 then
    .setOpt (intAt 0 buffer) (intAt 4 buffer) (intAt 8 buffer)
  else if type = 85 then
    .udp (intAt 0 buffer) (intAt 4 buffer) (intAt 8 buffer) (wordAt 16 buffer)
  else .unknown type

end Reading

end SocketRequest

end SkynetCpp
