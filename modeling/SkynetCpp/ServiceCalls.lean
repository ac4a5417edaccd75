import SkynetCpp.System

namespace SkynetCpp

/-!
# What a service module asks of the node

A service module acts on the node through a few functions only.  A module is
modelled by its own state and by the calls it makes, in order.
-/

/-- `SOCKET_BUFFER_MEMORY`, `SOCKET_BUFFER_OBJECT`, `SOCKET_BUFFER_RAWPOINTER`. -/
inductive SendbufferType where
  | memory
  | object
  | rawPointer
  deriving Repr, DecidableEq

/-- `struct Sendbuffer`, with the content of the string it points to. -/
structure Sendbuffer where
  id : Int
  type : SendbufferType
  buffer : List UInt8
  sz : UInt64
  deriving Repr, DecidableEq

/-- A call of a node function by a service module. -/
inductive ServiceCall where
  | serviceSend
      (source destination type : UInt32)
      (session : Int)
      (data : Option (List UInt8))
      (sz : UInt64)
  | socketSendBuffer (buffer : Sendbuffer)
  | socketClose (id : Int)
  | skynetError (msg : String)
  deriving Repr, DecidableEq

end SkynetCpp
