import Pairing.Bytes

/-!
# What a handshake is bound to

Two parties agree only if they bind the handshake to the same context: raw bytes, or the names of both
parties with associated data, each field behind its length.
-/

namespace Pairing

structure Context where
  bytes : Bytes
  deriving DecidableEq

namespace Context

def empty : Context := ⟨[]⟩

def isEmpty (c : Context) : Bool := c.bytes.isEmpty

def forParties (initiator responder : String) (associatedData : Bytes) : Context :=
  ⟨Bytes.lengthPrefixed 4 (Bytes.ofText initiator) ++
    Bytes.lengthPrefixed 4 (Bytes.ofText responder) ++
    Bytes.lengthPrefixed 4 associatedData⟩

end Context

end Pairing
