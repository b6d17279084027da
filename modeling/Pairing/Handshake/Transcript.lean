import Pairing.Key

/-!
# Transcripts

Both parties write down the same four things about a run. Their common secret is the hash of that
transcript.
-/

namespace Pairing

/-- What a run leaves behind. All fields but the message have a length that the group fixes. -/
structure Transcript where
  generator : Bytes
  messageA : Bytes
  responderElement : Bytes
  sharedPoint : Bytes
  deriving DecidableEq

namespace Transcript

def label : Bytes := Bytes.ofText "pairlock-transcript-v1"

def toBytes (t : Transcript) : Bytes :=
  label ++ t.generator ++ Bytes.lengthPrefixed 8 t.messageA ++ t.responderElement ++ t.sharedPoint

def secret (t : Transcript) : Secret := ⟨sha256 t.toBytes⟩

end Transcript

end Pairing
