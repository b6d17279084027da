import Pairing.Service.Basic
import Pairing.Terminal.Arguments
import Pairing.Terminal.Console
import Pairing.Text.Blank

/-!
# The terminal client

A command writes some lines at once and may go on with the lines that it reads: first the reply to an
initiator's message, then a chat. In a chat a line is sealed, unless it starts with `<` and is opened. What
cannot be written ends the client.
-/

namespace Pairing.Terminal

variable {E : Type} [ExchangeGroup E]

inductive Failure
  | service (cause : Service.Error)
  | noReply
  | unreadable
  | unwritable (cause : String)
  deriving DecidableEq

def Failure.message : Failure → String
  | .service cause => cause.message
  | .noReply => "stdin closed before MessageB arrived"
  | .unreadable => "stream did not contain valid UTF-8"
  | .unwritable cause => cause

/-- Where a client stands between two lines of input. -/
inductive Client (E : Type) [ExchangeGroup E]
  | awaiting (session : Handle) (service : Service E)
  | chatting (key : Key) (service : Service E)
  | ended (failure : Option Failure)

/-- What a command does before it reads anything. The file comes first: if it cannot be written, nothing
else is. -/
structure Launch (E : Type) [ExchangeGroup E] where
  file : Option (String × Bytes) := none
  output : List String := []
  client : Client E

/-- What a line of a chat gives; a line that cannot be opened gives nothing. -/
def chatLine (key : Key) (line : String) (s : Service E) :
    Except Service.Error (Option String) × Service E :=
  match line.toList with
  | '<' :: rest =>
    match Service.openText ⟨key.bytes.1, String.ofList (Text.trim rest)⟩ with
    | .ok opened => (.ok (some opened.plaintext), s)
    | .error _ => (.ok none, s)
  | _ =>
    match s.sealText ⟨key.bytes.1, line⟩ with
    | (.ok answer, s) => (.ok (some answer.sealedText), s)
    | (.error err, s) => (.error err, s)

namespace Client

/-- A client that goes on if its output was taken. -/
def ifTaken (c : Client E) : Except String Unit → Client E
  | .ok () => c
  | .error cause => .ended (some (.unwritable cause))

section Reading

variable {m : Type → Type} [Monad m] (console : Console m)

/-- One line of input, or none if the input was not text. -/
def read (c : Client E) (line : Option String) : m (Client E) :=
  match c, line with
  | .ended failure, _ => pure (.ended failure)
  | _, none => pure (.ended (some .unreadable))
  | .awaiting session s, some line =>
    match s.finish ⟨session, Text.trimText line⟩ with
    | (.ok answer, s) => pure (.chatting answer.key s)
    | (.error err, _) => pure (.ended (some (.service err)))
  | .chatting key s, some line =>
    match chatLine key line s with
    | (.ok output, s) => do
      return (Client.chatting key s).ifTaken (← (console.deliver output).run)
    | (.error err, _) => pure (.ended (some (.service err)))

/-- All lines of an input, one after another. -/
def follow (c : Client E) : List (Option String) → m (Client E)
  | [] => pure c
  | line :: rest => do
    let c ← c.read console line
    c.follow rest

end Reading

/-- What a client writes if all of it is taken, and where it stands then. -/
def readAll (c : Client E) (lines : List (Option String)) : List String × Client E :=
  match (c.follow .recorder lines).run [] with
  | (c, output) => (output, c)

/-- How a client ends when there is no more input. -/
def outcome (c : Client E) : Option Failure :=
  match c with
  | .awaiting _ _ => some .noReply
  | .chatting _ _ => none
  | .ended failure => failure

end Client

/-- Writes what is due at once. A client that goes on flushes that before it reads. -/
def Launch.announce {m : Type → Type} [Monad m] (console : Console m) (l : Launch E) :
    m (Client E) := do
  let written := l.output.forM console.write
  match l.client with
  | .ended failure => return (Client.ended failure).ifTaken (← written.run)
  | client => return client.ifTaken (← (do written; console.flush).run)

/-- A launch that ends with the answer of a service. -/
def failed (cause : Service.Error) (output : List String) : Launch E :=
  { output, client := .ended (some (.service cause)) }

def initiate (s : Service E) (password : String) (context : Option Bytes) (picture : Option String) :
    Launch E :=
  match s.start ⟨password, context⟩ with
  | (.error err, _) => failed err []
  | (.ok started, s) =>
    let output := [started.messageA]
    let client := Client.awaiting started.session s
    match picture with
    | none => { output, client }
    | some path =>
      match s.barcodeOf ⟨started.messageA⟩ with
      | .error err => failed err []
      | .ok drawn => { file := some (path, drawn.png), output, client }

def respond (s : Service E) (password : String) (context : Option Bytes) (messageA : String) :
    Launch E :=
  match s.exchange ⟨password, context, messageA⟩ with
  | (.error err, _) => failed err []
  | (.ok exchanged, s) => { output := [exchanged.messageB], client := .chatting exchanged.key s }

def barcode (s : Service E) (text path : String) : Launch E :=
  match s.barcodeOf ⟨text⟩ with
  | .error err => failed err []
  | .ok drawn => { file := some (path, drawn.png), client := .ended none }

/-- Both parties of a pairing side by side, up to the first step that fails. They draw from one source in
turn. -/
def demo (alice bob : Service E) (password : String) (context : Option Bytes) (message : String) :
    Launch E :=
  match alice.start ⟨password, context⟩ with
  | (.error err, _) => failed err []
  | (.ok started, alice) =>
    let output := ["alice -> bob   message_a: " ++ started.messageA]
    let bob : Service E := { bob with entropy := alice.entropy }
    match bob.exchange ⟨password, context, started.messageA⟩ with
    | (.error err, _) => failed err output
    | (.ok exchanged, bob) =>
      let output := output ++ ["bob   -> alice message_b: " ++ exchanged.messageB]
      match alice.finish ⟨started.session, exchanged.messageB⟩ with
      | (.error err, _) => failed err output
      | (.ok finished, alice) =>
        let alice : Service E := { alice with entropy := bob.entropy }
        match alice.sealText ⟨finished.key.bytes.1, message⟩ with
        | (.error err, _) => failed err output
        | (.ok answer, _) =>
          let output := output ++ ["alice -> bob   sealed:    " ++ answer.sealedText]
          match Service.openText ⟨exchanged.key.bytes.1, answer.sealedText⟩ with
          | .error err => failed err output
          | .ok opened =>
            { output := output ++ ["bob   opened:             " ++ opened.plaintext],
              client := .ended none }

variable (E) in
def launch (settings : Settings) (command : Command) (e : Entropy) : Launch E :=
  let limits : Registry.Limits := { timeToLive := .ofSeconds settings.timeToLive }
  let service := Service.new E { limits } e
  match command with
  | .initiate password picture => initiate service password settings.binding picture
  | .respond password messageA => respond service password settings.binding messageA
  | .barcode text output => barcode service text output
  | .demo password message => demo service service password settings.binding message

def versionLine : String := "pairlock 0.1.0"

end Pairing.Terminal
