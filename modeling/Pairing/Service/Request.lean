import Pairing.Key
import Pairing.Registry.Handle

/-!
# What a service is asked and what it answers

Messages cross as text, passwords and plaintexts as text, contexts and keys as bytes. A request without a
context asks for the empty one.
-/

namespace Pairing.Service

structure StartRequest where
  password : String
  context : Option Bytes := none

structure StartResponse where
  messageA : String
  session : Handle
  deriving DecidableEq

structure ExchangeRequest where
  password : String
  context : Option Bytes := none
  messageA : String

structure ExchangeResponse where
  messageB : String
  key : Key
  deriving DecidableEq

structure FinishRequest where
  session : Handle
  messageB : String

structure FinishResponse where
  key : Key
  deriving DecidableEq

structure SealRequest where
  key : Bytes
  plaintext : String

structure SealResponse where
  sealedText : String
  deriving DecidableEq

structure OpenRequest where
  key : Bytes
  sealedText : String

structure OpenResponse where
  plaintext : String
  deriving DecidableEq

structure BarcodeRequest where
  text : String

structure BarcodeResponse where
  png : Bytes
  deriving DecidableEq

end Pairing.Service
