import Pairing.ExchangeGroup.Lawful

/-!
# Residues as a group

The additive group of residues modulo 251, each written as one byte.  It keeps no secret, but it has all the
laws of a group for the handshake (`LawfulExchangeGroup Residue`), 251 is prime (`PrimeOrderGroup Residue`),
and its handshakes can be computed.
-/

namespace Pairing

structure Residue where
  value : Fin 251
  deriving DecidableEq

namespace Residue

def encode (p : Residue) : Bytes := [UInt8.ofNat p.value.1]

/-- Accepts one byte that is neither zero nor beyond the residues. -/
def decode (b : Bytes) : Except Error Residue :=
  match b with
  | [x] =>
    if x = 0 then .error .elementIdentity
    else if h : x.toNat < 251 then .ok ⟨⟨x.toNat, h⟩⟩ else .error .elementEncoding
  | _ => .error .elementLength

/-- A residue other than zero for each password and context. -/
def generator (password context : Bytes) : Residue :=
  ⟨1 + Bytes.ofBigEndian (password ++ context) % 250, by omega⟩

def sampleScalar (e : Entropy) : Except Error (Fin 251) × Entropy :=
  match e.read 1 with
  | (.ok b, e) => (.ok (Fin.ofNat 251 (Bytes.ofBigEndian b.1)), e)
  | (.error err, e) => (.error err, e)

def smul (a : Fin 251) (p : Residue) : Residue := ⟨a * p.value⟩

theorem decode_encode {p : Residue} (h : p ≠ ⟨0⟩) : decode p.encode = .ok p := by
  obtain ⟨⟨n, hn⟩⟩ := p
  have hvalue : (UInt8.ofNat n).toNat = n := by
    rw [UInt8.toNat_ofNat']
    omega
  have hne : UInt8.ofNat n ≠ 0 := by
    intro h0
    apply h
    have hz : n = 0 := by rw [← hvalue, h0]; rfl
    subst hz
    rfl
  simp only [encode, decode, if_neg hne, hvalue, dif_pos hn]

theorem decode_encode_zero (p : Residue) : decode (encode ⟨0⟩) ≠ .ok p := by
  intro h
  cases h

theorem smul_comm (a b : Fin 251) (p : Residue) : smul a (smul b p) = smul b (smul a p) := by
  rw [smul, smul, smul, smul, ← Fin.mul_assoc, Fin.mul_comm a b, Fin.mul_assoc]

theorem smul_zero (a : Fin 251) : smul a ⟨0⟩ = ⟨0⟩ := by rw [smul, Fin.mul_zero]

theorem coprime_of_ne_zero : ∀ a : Fin 251, a ≠ 0 → Nat.Coprime 251 a := by decide +kernel

theorem eq_zero_of_smul {a : Fin 251} {p : Residue} (h : smul a p = ⟨0⟩) : a = 0 ∨ p = ⟨0⟩ := by
  by_cases ha : a = 0
  · exact Or.inl ha
  · have hvalue : a.1 * p.value.1 % 251 = 0 := congrArg (fun q : Residue => q.value.1) h
    have hdvd : 251 ∣ p.value.1 :=
      (coprime_of_ne_zero a ha).dvd_of_dvd_mul_left (Nat.dvd_of_mod_eq_zero hvalue)
    have hzero : p.value.1 = 0 := Nat.eq_zero_of_dvd_of_lt hdvd p.value.2
    exact Or.inr (congrArg Residue.mk (Fin.ext hzero))

instance : ExchangeGroup Residue where
  Scalar := Fin 251
  name := "residues modulo 251"
  elementLength := 1
  identity := ⟨0⟩
  zero := 0
  generator := generator
  sampleScalar := sampleScalar
  smul := smul
  encode := encode
  decode := decode
  isIdentity p := p == ⟨0⟩

instance : LawfulExchangeGroup Residue where
  length_encode _ := rfl
  isIdentity_iff _ := beq_iff_eq
  decode_encode _ h := Residue.decode_encode h
  decode_encode_identity := decode_encode_zero
  smul_comm := Residue.smul_comm
  smul_identity := smul_zero

instance : PrimeOrderGroup Residue where
  eq_of_smul_eq _ _ := eq_zero_of_smul

end Residue

end Pairing
