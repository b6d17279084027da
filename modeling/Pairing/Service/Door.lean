import Pairing.Service.Basic

/-!
# The door to the outside

The same operations for callers who must learn nothing from a failure: they get an answer or none.
-/

namespace Pairing.Service

/-- A service behind its door. -/
structure Door (E : Type) [ExchangeGroup E] where
  service : Service E

namespace Door

variable {E : Type} [ExchangeGroup E]

/-- An operation's answer with its failure forgotten, and what it left of the service. -/
def answer {α : Type} : Except Error α × Service E → Option α × Door E
  | (.ok a, s) => (some a, ⟨s⟩)
  | (.error _, s) => (none, ⟨s⟩)

def start (d : Door E) (q : StartRequest) : Option StartResponse × Door E :=
  answer (d.service.start q)

def exchange (d : Door E) (q : ExchangeRequest) : Option ExchangeResponse × Door E :=
  answer (d.service.exchange q)

def finish (d : Door E) (q : FinishRequest) : Option FinishResponse × Door E :=
  answer (d.service.finish q)

def sealText (d : Door E) (q : SealRequest) : Option SealResponse × Door E :=
  answer (d.service.sealText q)

def openText (d : Door E) (q : OpenRequest) : Option OpenResponse × Door E :=
  answer (Service.openText q, d.service)

def barcodeOf (d : Door E) (q : BarcodeRequest) : Option BarcodeResponse × Door E :=
  answer (d.service.barcodeOf q, d.service)

end Door

end Pairing.Service
