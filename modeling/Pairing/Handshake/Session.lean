import Pairing.ExchangeGroup.Basic
import Pairing.Handshake.Context
import Pairing.Handshake.Transcript

/-!
# Handshake sessions

An initiator starts with a message and finishes on the reply; a responder answers in one step. Each side
multiplies the generator of its password and context by a random scalar, and the other's element by the
same scalar. A session answers at most once: whatever comes of the first peer message, its scalar and
generator are gone afterwards.
-/

namespace Pairing

open ExchangeGroup

inductive Role
  | initiator
  | responder
  deriving DecidableEq

def Role.name : Role → String
  | .initiator => "Initiator"
  | .responder => "Responder"

/-- The status in which a successful session of this role ends. -/
def Role.done : Role → Status
  | .initiator => .finished
  | .responder => .exchanged

structure Session (E : Type) [ExchangeGroup E] where
  role : Role
  status : Status
  context : Context
  scalar : Scalar E
  generator : E
  ownMessage : Bytes

variable {E : Type} [ExchangeGroup E]

/-- The element at the front of a message. What follows it is the sender's context, which is not read. -/
def peerElement (message : Bytes) : Except Error E :=
  if message.length < elementLength E then .error .messageShort
  else decode (message.take (elementLength E))

namespace Session

/-- A session whose own message carries the multiple of its generator, then its context. -/
def opened (role : Role) (password : Bytes) (context : Context) (x : Scalar E) : Session E :=
  let g := ExchangeGroup.generator password context.bytes
  { role, status := .started, context, scalar := x, generator := g,
    ownMessage := encode (smul x g) ++ context.bytes }

def begin (role : Role) (password : Bytes) (context : Context) (e : Entropy) :
    Except Error (Session E) × Entropy :=
  match sampleScalar e with
  | (.ok x, e) => (.ok (opened role password context x), e)
  | (.error err, e) => (.error err, e)

/-- The first message as this side knows it: sent by an initiator, received by a responder. -/
def messageA (s : Session E) (peer : Bytes) : Bytes :=
  match s.role with
  | .initiator => s.ownMessage
  | .responder => peer

def messageB (s : Session E) (peer : Bytes) : Bytes :=
  match s.role with
  | .initiator => peer
  | .responder => s.ownMessage

def sharedPoint (s : Session E) (peer : Bytes) : Except Error E :=
  match peerElement peer with
  | .error err => .error err
  | .ok y =>
    let z := smul s.scalar y
    if isIdentity z then .error .sharedIdentity else .ok z

def transcript (s : Session E) (peer : Bytes) : Except Error Transcript :=
  match s.sharedPoint peer with
  | .error err => .error err
  | .ok z => .ok {
      generator := encode s.generator
      messageA := s.messageA peer
      responderElement := (s.messageB peer).take (elementLength E)
      sharedPoint := encode z }

/-- The session in a terminal status, without its secrets. -/
def closed (s : Session E) (status : Status) : Session E :=
  { s with status, scalar := zero, generator := identity }

/-- Completes a handshake with the peer's message. Only a session that was just started can finish. -/
def finish (s : Session E) (peer : Bytes) : Except Error Secret × Session E :=
  if s.status = .started then
    match s.transcript peer with
    | .ok t => (.ok t.secret, s.closed s.role.done)
    | .error err => (.error err, s.closed .failed)
  else (.error (.finishFrom s.status), s)

/-- The first message of a handshake, with the session that waits for the reply. -/
def start (password : Bytes) (context : Context) (e : Entropy) :
    Except Error (Bytes × Session E) × Entropy :=
  match begin .initiator password context e with
  | (.ok s, e) => (.ok (s.ownMessage, s), e)
  | (.error err, e) => (.error err, e)

variable (E) in
/-- The reply to a first message, with the responder's secret. Nothing random is drawn for a message
whose element is not valid. -/
def exchange (password : Bytes) (context : Context) (message : Bytes) (e : Entropy) :
    Except Error (Bytes × Secret) × Entropy :=
  match (peerElement message : Except Error E) with
  | .error err => (.error err, e)
  | .ok _ =>
    match (begin .responder password context e : Except Error (Session E) × Entropy) with
    | (.error err, e) => (.error err, e)
    | (.ok s, e) =>
      match (s.finish message).1 with
      | .ok secret => (.ok (s.ownMessage, secret), e)
      | .error err => (.error err, e)

end Session

end Pairing
