import Pairing.Service.Basic
import Pairing.Text.Quoted
import Pairing.Text.Span

/-!
# Descriptions of values

What a log may show of requests, answers, sessions and registries. Passwords, keys and secrets are never
part of it, and of plaintexts only the length is.
-/

namespace Pairing.Service.Description

/-- A name with its fields; an open record has fields that are not shown. -/
def record (name : String) (fields : List (String × String)) (isOpen : Bool := false) : String :=
  let shown := fields.map (fun f => f.1 ++ ": " ++ f.2) ++ (if isOpen then [".."] else [])
  name ++ " \x7b " ++ ", ".intercalate shown ++ " \x7d"

def wrapped (name content : String) : String := name ++ "(" ++ content ++ ")"

def hidden : String := "[REDACTED]"

def bytes (b : Bytes) : String := "[" ++ ", ".intercalate (b.map fun x => toString x.toNat) ++ "]"

def context (c : Option Bytes) : String :=
  match c with
  | none => "None"
  | some b => wrapped "Some" (bytes b)

def handle (h : Handle) : String := wrapped "SessionHandle" (toString h.value)

def length (t : String) : String := toString (Bytes.ofText t).length

def key (_ : Key) : String := wrapped "DerivedKey" hidden

def secret (_ : Secret) : String := wrapped "SharedSecret" hidden

def startRequest (q : StartRequest) : String :=
  record "StartRequest" [("password", Text.quoted hidden), ("context", context q.context)]

def startResponse (a : StartResponse) : String :=
  record "StartResponse" [("message_a", Text.quoted a.messageA), ("session", handle a.session)]

def exchangeRequest (q : ExchangeRequest) : String :=
  record "ExchangeRequest" [("password", Text.quoted hidden), ("context", context q.context),
    ("message_a", Text.quoted q.messageA)]

def exchangeResponse (a : ExchangeResponse) : String :=
  record "ExchangeResponse" [("message_b", Text.quoted a.messageB), ("key", key a.key)]

def finishRequest (q : FinishRequest) : String :=
  record "FinishRequest" [("session", handle q.session), ("message_b", Text.quoted q.messageB)]

def finishResponse (a : FinishResponse) : String := record "FinishResponse" [("key", key a.key)]

def sealRequest (q : SealRequest) : String :=
  record "SealRequest" [("key", Text.quoted hidden), ("plaintext_len", length q.plaintext)]

def sealResponse (a : SealResponse) : String :=
  record "SealResponse" [("sealed", Text.quoted a.sealedText)]

def openRequest (q : OpenRequest) : String :=
  record "OpenRequest" [("key", Text.quoted hidden), ("sealed", Text.quoted q.sealedText)]

def openResponse (a : OpenResponse) : String :=
  record "OpenResponse" [("plaintext_len", length a.plaintext)]

def barcodeRequest (q : BarcodeRequest) : String :=
  record "BarcodeRequest" [("text", Text.quoted q.text)]

def barcodeResponse (a : BarcodeResponse) : String :=
  record "BarcodeResponse" [("png", bytes a.png)]

def session {E : Type} [ExchangeGroup E] (s : Session E) : String :=
  record "Session" [("group", Text.quoted (ExchangeGroup.name E)), ("role", s.role.name),
    ("status", s.status.name), ("context_len", toString s.context.bytes.length)] true

def limits (l : Registry.Limits) : String :=
  record "RegistryConfig" [("session_ttl", Text.span l.timeToLive),
    ("max_sessions", toString l.maxSessions)]

def registry {S : Type} (r : Registry S) : String :=
  record "SessionRegistry" [("config", limits r.limits), ("sessions", toString r.size)] true

end Pairing.Service.Description
