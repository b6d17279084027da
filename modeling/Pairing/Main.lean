import Pairing.Curve.Ristretto
import Pairing.Terminal.Client
import Pairing.Text.Lines

/-!
# The program

Reads the command line and standard input, writes standard output and files, and keeps time. What it does
is decided by `Terminal.parse`, `Terminal.launch` and `Client.read`.
-/

namespace Pairing.Terminal

abbrev Party := Client Ristretto.Element

def usageLine : String :=
  "usage: pairlock [--context C] [--initiator-id A --responder-id B] [--session-ttl-secs N] " ++
    "[--log-level L] (initiate -p P [--qr FILE] | respond -p P --message-a M | qr TEXT [-o FILE] | " ++
    "demo [-p P] [-m M])"

/-- Fresh randomness, more than one step can use up. -/
def freshEntropy : IO Entropy := do
  let random ← IO.getRandomBytes 4096
  return .ofBytes random.data.toList

/-- A client at the present time and with a fresh source. -/
def Client.renewed (c : Party) (now : Time) (e : Entropy) : Party :=
  match c with
  | .awaiting session s => .awaiting session { s with now, entropy := e }
  | .chatting key s => .chatting key { s with now, entropy := e }
  | .ended failure => .ended failure

/-- One line of input with its line feed; nothing at the end of the input. -/
partial def readLine (input : IO.FS.Stream) (held : Bytes) : IO Bytes := do
  let read ← input.read 1
  match read.data.toList with
  | [] => return held.reverse
  | b :: _ => if b = Text.lineFeed then return (b :: held).reverse else readLine input (b :: held)

/-- An action that can fail, with what it comes to as a value. -/
def attempt (action : IO Unit) : ExceptT String IO Unit := ExceptT.mk do
  try
    action
    return .ok ()
  catch err => return .error (toString err)

/-- Standard output; what comes to nothing is noted on standard error. -/
def standardConsole (settings : Settings) : Console IO where
  write line := attempt do (← IO.getStdout).putStr (line ++ "\n")
  flush := attempt do (← IO.getStdout).flush
  note := do
    if settings.logLevel != "off" then
      (← IO.getStderr).putStrLn "could not open message"

def fail (text : String) : IO UInt32 := do
  (← IO.getStderr).putStrLn ("error: " ++ text)
  return 1

partial def converse (settings : Settings) (start : Nat) (client : Party) : IO UInt32 := do
  match client with
  | .ended none => return 0
  | .ended (some failure) => fail failure.message
  | _ =>
    match Text.lines (← readLine (← IO.getStdin) []) with
    | [] =>
      match client.outcome with
      | none => return 0
      | some failure => fail failure.message
    | line :: _ =>
      let text := Bytes.toText? line
      let now := (← IO.monoNanosNow) - start
      let next ← (client.renewed now (← freshEntropy)).read (standardConsole settings) text
      converse settings start next

def runCommand (settings : Settings) (command : Command) : IO UInt32 := do
  let start ← IO.monoNanosNow
  let first := launch Ristretto.Element settings command (← freshEntropy)
  let written ← match first.file with
    | none => pure true
    | some (path, content) =>
      try
        IO.FS.writeBinFile path ⟨content.toArray⟩
        pure true
      catch _ => pure false
  if written then
    converse settings start (← first.announce (standardConsole settings))
  else fail "the picture could not be written"

end Pairing.Terminal

def main (args : List String) : IO UInt32 := do
  match Pairing.Terminal.parse args with
  | .ok (settings, command) => Pairing.Terminal.runCommand settings command
  | .error .version =>
    IO.println Pairing.Terminal.versionLine
    return 0
  | .error .help =>
    IO.println Pairing.Terminal.usageLine
    return 0
  | .error .usage =>
    (← IO.getStderr).putStrLn Pairing.Terminal.usageLine
    return 2
