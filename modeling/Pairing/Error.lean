import Pairing.Bytes

/-!
# What can go wrong between two parties

Every failure of the handshake and of the channel is an `Error`; callers sort failures by `ErrorKind`.
The named failures below are all that the library itself raises.
-/

namespace Pairing

/-- How far a handshake session has come. All states but `started` are terminal. -/
inductive Status
  | started
  | exchanged
  | finished
  | failed
  deriving DecidableEq

namespace Status

def isTerminal (s : Status) : Bool := s != started

def name : Status → String
  | started => "Started"
  | exchanged => "Exchanged"
  | finished => "Finished"
  | failed => "Failed"

def all : List Status := [started, exchanged, finished, failed]

end Status

inductive ErrorKind
  | encoding
  | invalidMessage
  | invalidState
  | authentication
  | internal
  deriving DecidableEq

inductive Error
  | encoding (reason : String)
  | invalidMessage (reason : String)
  | invalidState (operation : String) (status : Status)
  | authentication
  | internal (cause : String)
  deriving DecidableEq

namespace Error

def kind : Error → ErrorKind
  | encoding _ => .encoding
  | invalidMessage _ => .invalidMessage
  | invalidState _ _ => .invalidState
  | authentication => .authentication
  | internal _ => .internal

def message : Error → String
  | encoding reason => "encoding error: " ++ reason
  | invalidMessage reason => "invalid handshake message: " ++ reason
  | invalidState operation status =>
    "invalid session state: cannot " ++ operation ++ " from " ++ status.name
  | authentication => "authentication failed"
  | internal cause => "internal error: " ++ cause

def elementLength : Error := encoding "group element has wrong length"

def elementEncoding : Error := invalidMessage "not a canonical ristretto255 encoding"

def elementIdentity : Error := invalidMessage "identity element"

def messageShort : Error := encoding "message shorter than a group element"

def sharedIdentity : Error := invalidMessage "shared point is the identity"

def keyLength : Error := encoding "key must be exactly 32 bytes"

def sealedShort : Error := encoding "sealed message shorter than its nonce"

def transportText : Error := encoding "invalid url-safe base64"

def plaintextText : Error := encoding "plaintext is not valid UTF-8"

def finishFrom (status : Status) : Error := invalidState "finish" status

def randomness (cause : String) : Error := internal ("randomness source unavailable: " ++ cause)

end Error

end Pairing
