import Pairing.ExchangeGroup.Lawful
import Pairing.Main
import Pairing.Proofs.Barcode.Grid
import Pairing.Proofs.Barcode.Matrix
import Pairing.Proofs.Barcode.Picture
import Pairing.Proofs.Barcode.Png
import Pairing.Proofs.Channel
import Pairing.Proofs.Handshake.Agreement
import Pairing.Proofs.Handshake.Context
import Pairing.Proofs.Handshake.Lifecycle
import Pairing.Proofs.Handshake.Matching
import Pairing.Proofs.Handshake.Mismatch
import Pairing.Proofs.Registry.Candidates
import Pairing.Proofs.Registry.Expiry
import Pairing.Proofs.Registry.Handle
import Pairing.Proofs.Registry.Insertion
import Pairing.Proofs.Registry.Lookup
import Pairing.Proofs.Service.Drawing
import Pairing.Proofs.Service.Exchange
import Pairing.Proofs.Service.Interleaving
import Pairing.Proofs.Service.Invariant
import Pairing.Proofs.Service.Lifetime
import Pairing.Proofs.Service.Opening
import Pairing.Proofs.Service.Randomness
import Pairing.Proofs.Service.Run
import Pairing.Proofs.Terminal.Binding
import Pairing.Proofs.Terminal.Chat
import Pairing.Service.Description
import Pairing.Service.Door
