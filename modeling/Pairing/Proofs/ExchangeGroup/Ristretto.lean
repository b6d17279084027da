import Pairing.Curve.Ristretto
import Pairing.ExchangeGroup.Lawful
import Pairing.Proofs.Bytes

/-!
# Encodings of ristretto255

An element is kept with its encoding, so encodings have 32 bytes (`FixedLengthGroup Element`) and are decoded
to the element that they came from (`decode_encoding`); that of the identity is refused (`decode_of_identity`).
The bytes from which a generator is made tell its password and its context apart (`generatorInput_inj`).
-/

namespace Pairing.Ristretto

instance : FixedLengthGroup Element where
  length_encode p := p.encoding.2

theorem decode?_encoding (p : Element) : Element.decode? p.encoding = some p := by
  unfold Element.decode?
  split
  · exact congrArg some (Element.ext_encoding rfl)
  · rename_i h
    cases h.symm.trans p.decompress_encoding

theorem encoding_of_decode? {b : Block 32} {p : Element} (h : Element.decode? b = some p) :
    p.encoding = b := by
  unfold Element.decode? at h
  split at h
  · cases h
    rfl
  · cases h

theorem decode_encoding {p : Element} (h : p ≠ Element.identity) : decode p.encoding.1 = .ok p := by
  have hlength : p.encoding.1.length = elementLength := p.encoding.2
  have hdecode : Element.decode? ⟨p.encoding.1, hlength⟩ = some p := decode?_encoding p
  simp only [decode, dif_pos hlength, hdecode, if_neg h]

theorem decode_of_identity {p : Element} (h : p = Element.identity) :
    decode p.encoding.1 = .error .elementIdentity := by
  have hlength : p.encoding.1.length = elementLength := p.encoding.2
  have hdecode : Element.decode? ⟨p.encoding.1, hlength⟩ = some p := decode?_encoding p
  simp only [decode, dif_pos hlength, hdecode, if_pos h]

theorem decode_of_forall_ne {b : Bytes} (hlength : b.length = elementLength)
    (h : ∀ p : Element, b ≠ p.encoding.1) : decode b = .error .elementEncoding := by
  cases hp : Element.decode? ⟨b, hlength⟩ with
  | none => simp only [decode, dif_pos hlength, hp]
  | some p => exact absurd (congrArg Subtype.val (encoding_of_decode? hp)).symm (h p)

/-- What has the right length is refused for what it encodes. -/
theorem kind_of_decode_error {b : Bytes} {err : Error} (hlength : b.length = elementLength)
    (h : decode b = .error err) : err.kind = .invalidMessage := by
  rw [decode, dif_pos hlength] at h
  cases hp : Element.decode? ⟨b, hlength⟩ with
  | none =>
    rw [hp] at h
    cases h
    rfl
  | some p =>
    rw [hp] at h
    by_cases hidentity : p = Element.identity
    · simp only [if_pos hidentity] at h
      cases h
      rfl
    · simp only [if_neg hidentity] at h
      cases h

theorem encoding_eq_of_encode {p q : Element}
    (h : (ExchangeGroup.encode p : Bytes) = ExchangeGroup.encode q) : p.encoding = q.encoding :=
  Subtype.ext h

/-- The scalar that stands at a position of a source: 64 bytes, lowest first, modulo the order. -/
def scalarAt (e : Entropy) (p : Nat) : Scalar where
  value := Bytes.ofLittleEndian ((List.range 64).map fun i => e.byteAt (p + i)) % order
  value_lt := (Scalar.ofUniform (e.slice p 64)).value_lt

theorem sampleScalar_of_supply {e : Entropy} (h : e.used + 64 ≤ e.supply) :
    ExchangeGroup.sampleScalar (E := Element) e =
      (.ok (scalarAt e e.used), { e with used := e.used + 64 }) := by
  show Scalar.sample e = _
  rw [Scalar.sample, Entropy.read_ok h]
  rfl

theorem sampleScalar_of_short {e : Entropy} (h : ¬ e.used + 64 ≤ e.supply) :
    ExchangeGroup.sampleScalar (E := Element) e =
      (.error (.randomness "entropy exhausted"), e) := by
  show Scalar.sample e = _
  rw [Scalar.sample, Entropy.read_error h]

theorem generator_eq (password context : Bytes) :
    (ExchangeGroup.generator password context : Element) =
      Element.ofUniform (sha512 (generatorInput password context)) := by
  show generator password context = _
  rw [generator]

/-- **The input of a generator has one password and one context**, if both passwords have lengths that eight
bytes can hold. -/
theorem generatorInput_inj {p q c d : Bytes} (hp : p.length < Nat.pow 256 8)
    (hq : q.length < Nat.pow 256 8) (h : generatorInput p c = generatorInput q d) :
    p = q ∧ c = d := by
  rw [generatorInput, generatorInput, List.append_assoc, List.append_assoc] at h
  obtain ⟨hpq, h⟩ := Bytes.lengthPrefixed_append_inj hp hq (List.append_cancel_left h)
  exact ⟨hpq, Bytes.lengthPrefixed_inj h⟩

end Pairing.Ristretto
