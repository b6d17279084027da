import Pairing.Error
import Pairing.Registry.Handle

/-!
# What a pairing service can answer instead

The failures of the handshake and the channel, and those of the registry, of handles and of barcodes.
-/

namespace Pairing.Service

inductive Error
  | pairing (cause : Pairing.Error)
  | unknownSession (handle : Handle)
  | sessionExpired (handle : Handle)
  | malformedHandle
  | registryFull (limit : Nat)
  | barcode (cause : String)
  | render (cause : String)
  deriving DecidableEq

namespace Error

def kind : Error → ErrorKind
  | pairing cause => cause.kind
  | unknownSession _ => .invalidState
  | sessionExpired _ => .invalidState
  | malformedHandle => .encoding
  | registryFull _ => .internal
  | barcode _ => .encoding
  | render _ => .internal

def message : Error → String
  | pairing cause => cause.message
  | unknownSession handle => "unknown session: " ++ handle.toText
  | sessionExpired handle => "session expired: " ++ handle.toText
  | malformedHandle => "malformed session handle"
  | registryFull limit => "session registry full (" ++ toString limit ++ " sessions)"
  | barcode cause => "barcode encoding failed: " ++ cause
  | render cause => "barcode rendering failed: " ++ cause

end Error

end Pairing.Service
