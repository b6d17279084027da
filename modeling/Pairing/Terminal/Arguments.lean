import Pairing.Handshake.Context

/-!
# The command line

A command line is a list of options, a command, and that command's own options and words. Five options may
stand on either side of the command; where both sides give one, the command's side counts.
-/

namespace Pairing.Terminal

/-- Why a command line runs no command. -/
inductive Stop
  | usage
  | version
  | help
  deriving DecidableEq

/-- An option with a value. -/
structure Opt where
  long : String
  short : Option Char := none
  accepts : String → Bool := fun _ => true

/-- What one side of the command may hold. -/
structure Grammar where
  options : List Opt
  commands : List String := []
  words : Nat := 0

/-- What one side of the command does hold. -/
structure Given where
  values : List (String × String) := []
  words : List String := []

namespace Given

def value? (g : Given) (option : String) : Option String := g.values.lookup option

/-- An option stands once and has a value that it accepts. -/
def add? (g : Given) (o : Opt) (value : String) : Option Given :=
  if (g.value? o.long).isNone && o.accepts value then
    some { g with values := g.values ++ [(o.long, value)] }
  else none

end Given

inductive Piece
  | option (o : Opt) (value : Option String)
  | stop (s : Stop)
  | word

namespace Grammar

/-- The version is asked for on the side that names the command. -/
def hasVersion (g : Grammar) : Bool := !g.commands.isEmpty

def longPiece (g : Grammar) (text : List Char) : Piece :=
  let name := String.ofList (text.takeWhile (· != '='))
  let value := match text.dropWhile (· != '=') with
    | [] => none
    | _ :: r => some (String.ofList r)
  match g.options.find? fun o => o.long == name with
  | some o => .option o value
  | none =>
    if value.isSome then .stop .usage
    else if name = "help" then .stop .help
    else if name = "version" && g.hasVersion then .stop .version
    else .stop .usage

def shortPiece (g : Grammar) (c : Char) (rest : List Char) : Piece :=
  match g.options.find? fun o => o.short == some c with
  | some o =>
    .option o (match rest with
      | [] => none
      | '=' :: r => some (String.ofList r)
      | r => some (String.ofList r))
  | none =>
    if c = 'h' then .stop .help
    else if c = 'V' && g.hasVersion then .stop .version
    else .stop .usage

def piece (g : Grammar) (a : String) : Piece :=
  match a.toList with
  | '-' :: '-' :: text => g.longPiece text
  | '-' :: c :: rest => g.shortPiece c rest
  | _ => .word

/-- Help on all commands, on one of them or on the help itself. Behind a command's name there is nothing
more to ask about. -/
def helpOn (g : Grammar) (topics : List String) : Stop :=
  match topics with
  | [] => .help
  | [topic] => if topic ∈ "help" :: g.commands then .help else .usage
  | _ => .usage

/-- A lone dash is a word. -/
def isDashed (a : String) : Bool :=
  match a.toList with
  | '-' :: _ :: _ => true
  | _ => false

/-- Reads one side up to the command's name, behind which the other side stands. After two dashes there
are only words. -/
def read (g : Grammar) (l : Given) : List String → Except Stop (Given × Option (String × List String))
  | [] => .ok (l, none)
  | a :: r =>
    if a = "--" then
      if l.words.length + r.length ≤ g.words then .ok ({ l with words := l.words ++ r }, none)
      else .error .usage
    else
      match g.piece a with
      | .stop s => .error s
      | .word =>
        if g.commands.contains a then .ok (l, some (a, r))
        else if a = "help" ∧ ¬ g.commands.isEmpty then .error (g.helpOn r)
        else if l.words.length < g.words then read g { l with words := l.words ++ [a] } r
        else .error .usage
      | .option o (some v) =>
        match l.add? o v with
        | some l => read g l r
        | none => .error .usage
      | .option o none =>
        match r with
        | [] => .error .usage
        | v :: r =>
          if isDashed v then .error .usage
          else
            match l.add? o v with
            | some l => read g l r
            | none => .error .usage

end Grammar

/-- A whole number of seconds below `2 ^ 64`, with or without a plus sign. -/
def seconds? (t : String) : Option Nat :=
  let digits := match t.toList with
    | '+' :: r => r
    | l => l
  if digits.isEmpty || !digits.all Char.isDigit then none
  else
    let n := digits.foldl (fun n c => 10 * n + (c.toNat - '0'.toNat)) 0
    if n < Nat.pow 2 64 then some n else none

def sharedOptions : List Opt := [
  { long := "context" }, { long := "initiator-id" }, { long := "responder-id" },
  { long := "session-ttl-secs", accepts := fun t => (seconds? t).isSome },
  { long := "log-level" }]

def passwordOption : Opt := { long := "password", short := some 'p' }

def isPath (t : String) : Bool := !t.isEmpty

/-- The side before the command. -/
def outerGrammar : Grammar where
  options := sharedOptions
  commands := ["initiate", "respond", "qr", "demo"]

/-- The side behind a command. -/
def innerGrammar (command : String) : Grammar :=
  match command with
  | "initiate" => { options := sharedOptions ++ [passwordOption, { long := "qr", accepts := isPath }] }
  | "respond" => { options := sharedOptions ++ [passwordOption, { long := "message-a" }] }
  | "qr" =>
    { options := sharedOptions ++ [{ long := "output", short := some 'o', accepts := isPath }],
      words := 1 }
  | _ => { options := sharedOptions ++ [passwordOption, { long := "message", short := some 'm' }] }

/-- What holds for all commands. -/
structure Settings where
  context : Option String := none
  initiator : Option String := none
  responder : Option String := none
  timeToLive : Nat := 300
  logLevel : String := "info"
  deriving DecidableEq

/-- The context to which a handshake is bound: both names with the context behind them, or the context. -/
def Settings.binding (s : Settings) : Option Bytes :=
  match s.initiator, s.responder with
  | some i, some r => some (Context.forParties i r (Bytes.ofText (s.context.getD ""))).bytes
  | _, _ => s.context.map Bytes.ofText

inductive Command
  | initiate (password : String) (picture : Option String)
  | respond (password messageA : String)
  | barcode (text output : String)
  | demo (password message : String)
  deriving DecidableEq

/-- Either party's name asks for the other's on the same side of the command. -/
def Given.namesBothParties (g : Given) : Bool :=
  (g.value? "initiator-id").isSome == (g.value? "responder-id").isSome

def Settings.ofGiven (outer inner : Given) : Settings :=
  let value? (option : String) := inner.value? option <|> outer.value? option
  { context := value? "context"
    initiator := value? "initiator-id"
    responder := value? "responder-id"
    timeToLive := ((value? "session-ttl-secs").bind seconds?).getD 300
    logLevel := (value? "log-level").getD "info" }

def Command.ofGiven? (command : String) (g : Given) : Option Command :=
  match command with
  | "initiate" => (g.value? "password").map fun p => .initiate p (g.value? "qr")
  | "respond" =>
    match g.value? "password", g.value? "message-a" with
    | some p, some m => some (.respond p m)
    | _, _ => none
  | "qr" => g.words.head?.map fun t => .barcode t ((g.value? "output").getD "pairlock.png")
  | _ =>
    some (.demo ((g.value? "password").getD "correct horse") ((g.value? "message").getD "hello"))

def parse (args : List String) : Except Stop (Settings × Command) :=
  match outerGrammar.read {} args with
  | .error s => .error s
  | .ok (_, none) => .error .usage
  | .ok (outer, some (command, rest)) =>
    match (innerGrammar command).read {} rest with
    | .error s => .error s
    | .ok (inner, _) =>
      if outer.namesBothParties && inner.namesBothParties then
        match Command.ofGiven? command inner with
        | some c => .ok (.ofGiven outer inner, c)
        | none => .error .usage
      else .error .usage

end Pairing.Terminal
