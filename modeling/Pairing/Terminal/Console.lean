/-!
# Where a client writes

A client writes lines and flushes them, and notes lines that come to nothing. Writing and flushing can fail,
with a text that says why; noting cannot.
-/

namespace Pairing.Terminal

structure Console (m : Type → Type) where
  write : String → ExceptT String m Unit
  flush : ExceptT String m Unit
  note : m Unit

namespace Console

variable {m : Type → Type} [Monad m]

/-- A line is written, or its absence noted, and then all is flushed. -/
def deliver (console : Console m) : Option String → ExceptT String m Unit
  | some line => do
    console.write line
    console.flush
  | none => do
    console.note
    console.flush

/-- Takes every line and keeps it. -/
def recorder : Console (StateM (List String)) where
  write line := fun lines => (.ok (), lines ++ [line])
  flush := pure ()
  note := pure ()

end Console

end Pairing.Terminal
