import Pairing.Barcode.Png
import Pairing.SealedMessage
import Pairing.Handshake.Session
import Pairing.Registry.Basic
import Pairing.Service.Request
import Pairing.Transport

/-!
# The pairing service

Six operations on a registry, a source of randomness and a clock. Each checks what it is given before it
does anything: an answer that fails leaves all as it was, but for what it had to draw or take first.
-/

namespace Pairing

structure Service (E : Type) [ExchangeGroup E] where
  registry : Registry (Session E)
  barcode : Barcode.Options
  entropy : Entropy
  now : Time

namespace Service

variable {E : Type} [ExchangeGroup E]

structure Config where
  limits : Registry.Limits := {}
  barcode : Barcode.Options := {}

variable (E) in
def new (config : Config) (e : Entropy) : Service E where
  registry := .new (Session E) config.limits
  barcode := config.barcode
  entropy := e
  now := 0

/-- The handle that a text spells. -/
def handleOf (text : String) : Except Error Handle :=
  match Handle.parse? text with
  | some h => .ok h
  | none => .error .malformedHandle

def contextOf (context : Option Bytes) : Context :=
  match context with
  | some b => ⟨b⟩
  | none => .empty

/-- Registers a session at the present time. -/
def register (s : Service E) (session : Session E) : Except Error Handle × Service E :=
  match s.registry.insert session s.now s.entropy with
  | (h, registry, entropy) => (h, { s with registry, entropy })

def take (s : Service E) (h : Handle) : Except Error (Session E) × Service E :=
  match s.registry.take h s.now with
  | (session, registry) => (session, { s with registry })

def purge (s : Service E) : Nat × Service E :=
  match s.registry.purge s.now with
  | (count, registry) => (count, { s with registry })

def advance (s : Service E) (elapsed : Time) : Service E := { s with now := s.now + elapsed }

/-- A number of 128 bits from the service's source. -/
def drawNumber (s : Service E) : Except Error Nat × Service E :=
  match s.entropy.read 16 with
  | (.ok b, entropy) => (.ok (Bytes.ofBigEndian b.1), { s with entropy })
  | (.error err, entropy) => (.error (.pairing err), { s with entropy })

def start (s : Service E) (q : StartRequest) : Except Error StartResponse × Service E :=
  match Session.start (Bytes.ofText q.password) (contextOf q.context) s.entropy with
  | (.error err, entropy) => (.error (.pairing err), { s with entropy })
  | (.ok (message, session), entropy) =>
    match register { s with entropy } session with
    | (.error err, s) => (.error err, s)
    | (.ok h, s) => (.ok ⟨Transport.encode message, h⟩, s)

def exchange (s : Service E) (q : ExchangeRequest) : Except Error ExchangeResponse × Service E :=
  match Transport.decode q.messageA with
  | .error err => (.error (.pairing err), s)
  | .ok message =>
    match Session.exchange E (Bytes.ofText q.password) (contextOf q.context) message s.entropy with
    | (.error err, entropy) => (.error (.pairing err), { s with entropy })
    | (.ok (reply, secret), entropy) =>
      (.ok ⟨Transport.encode reply, secret.deriveKey⟩, { s with entropy })

/-- What a session makes of the text of its peer's message. -/
def finishSession (session : Session E) (text : String) : Except Error FinishResponse :=
  match Transport.decode text with
  | .error err => .error (.pairing err)
  | .ok message =>
    match (session.finish message).1 with
    | .error err => .error (.pairing err)
    | .ok secret => .ok ⟨secret.deriveKey⟩

/-- The session leaves the registry whatever its peer's message is. -/
def finish (s : Service E) (q : FinishRequest) : Except Error FinishResponse × Service E :=
  match s.take q.session with
  | (.error err, s) => (.error err, s)
  | (.ok session, s) => (finishSession session q.messageB, s)

def sealText (s : Service E) (q : SealRequest) : Except Error SealResponse × Service E :=
  match Key.ofBytes q.key with
  | .error err => (.error (.pairing err), s)
  | .ok key =>
    match key.sealBytes (Bytes.ofText q.plaintext) s.entropy with
    | (.error err, entropy) => (.error (.pairing err), { s with entropy })
    | (.ok m, entropy) => (.ok ⟨Transport.encode m.toBytes⟩, { s with entropy })

def openText (q : OpenRequest) : Except Error OpenResponse :=
  match Key.ofBytes q.key with
  | .error err => .error (.pairing err)
  | .ok key =>
    match Transport.decode q.sealedText with
    | .error err => .error (.pairing err)
    | .ok b =>
      match SealedMessage.ofBytes b with
      | .error err => .error (.pairing err)
      | .ok m =>
        match key.openBytes m with
        | .error err => .error (.pairing err)
        | .ok p =>
          match Bytes.toText? p with
          | none => .error (.pairing .plaintextText)
          | some t => .ok ⟨t⟩

/-- The barcode of a text as a file. -/
def drawBarcode (text : String) (options : Barcode.Options) : Except Error BarcodeResponse :=
  match Barcode.Picture.ofText? text options with
  | some p => .ok ⟨Barcode.Png.write p⟩
  | none =>
    .error (.barcode (toString (Bytes.ofText text).length ++ " bytes do not fit in a QR code"))

def barcodeOf (s : Service E) (q : BarcodeRequest) : Except Error BarcodeResponse :=
  drawBarcode q.text s.barcode

end Service

end Pairing
