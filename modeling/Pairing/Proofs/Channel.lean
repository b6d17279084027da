import Pairing.Proofs.Bytes
import Pairing.Proofs.Transport
import Pairing.Service.Basic

/-!
# Opening what was sealed

The key stream is as long as the message it covers (`length_keyStream`), so deciphering undoes enciphering
(`cipher_cipher`).  The tag stands in the last 16 bytes, where opening looks for it
(`decrypt?_encrypt`).  With the framing of nonce and ciphertext and the text of both,
`openText_sealedWith`: the text of a sealed text opens to that text.

Of a ciphertext that has its tag (`Tagged`), every body is that of some plaintext (`encrypt_cipher`), and all
others are not decrypted (`decrypt?_eq_none_iff`).
-/

namespace Pairing

namespace ChaCha20

@[simp] theorem length_keyStream (key : Block 32) (nonce : Block 12) (counter n : Nat) :
    (keyStream key nonce counter n).length = n := by
  have h : ∀ l : List Nat,
      (l.flatMap fun i => (block key nonce (counter + i)).1).length = 64 * l.length := by
    intro l
    induction l with
    | nil => rfl
    | cons i l ih =>
      rw [List.flatMap_cons, List.length_append, ih, (block key nonce (counter + i)).2,
        List.length_cons]
      omega
  rw [keyStream, List.length_take, h, List.length_range]
  omega

@[simp] theorem length_cipher (key : Block 32) (nonce : Block 12) (counter : Nat) (m : Bytes) :
    (cipher key nonce counter m).length = m.length := by
  rw [cipher, Bytes.length_xor, length_keyStream, Nat.min_self]

theorem cipher_cipher (key : Block 32) (nonce : Block 12) (counter : Nat) (m : Bytes) :
    cipher key nonce counter (cipher key nonce counter m) = m := by
  rw [cipher, length_cipher, cipher]
  exact Bytes.xor_xor_cancel (Nat.le_of_eq (length_keyStream key nonce counter m.length).symm)

end ChaCha20

namespace XChaCha20Poly1305

theorem cipher_cipher (key : Block 32) (nonce : Block 24) (m : Bytes) :
    cipher key nonce (cipher key nonce m) = m :=
  ChaCha20.cipher_cipher _ _ 1 m

/-- The ciphertext ends in the tag of what stands before it. -/
def Tagged (key : Block 32) (nonce : Block 24) (sealed : Bytes) : Prop :=
  ∃ body, sealed = body ++ (tag key nonce body).1

theorem decrypt?_append_tag (key : Block 32) (nonce : Block 24) (body : Bytes) :
    decrypt? key nonce (body ++ (tag key nonce body).1) = some (cipher key nonce body) := by
  have hlength : (body ++ (tag key nonce body).1).length = body.length + tagLength := by
    rw [List.length_append, (tag key nonce body).2]
    rfl
  simp only [decrypt?]
  rw [hlength, Nat.add_sub_cancel, List.take_left, List.drop_left,
    if_pos ⟨Nat.le_add_left _ _, rfl⟩]

/-- **What was encrypted is decrypted to the plaintext.** -/
theorem decrypt?_encrypt (key : Block 32) (nonce : Block 24) (p : Bytes) :
    decrypt? key nonce (encrypt key nonce p) = some p := by
  rw [encrypt, decrypt?_append_tag, cipher_cipher]

theorem encrypt_cipher (key : Block 32) (nonce : Block 24) (body : Bytes) :
    encrypt key nonce (cipher key nonce body) = body ++ (tag key nonce body).1 := by
  rw [encrypt, cipher_cipher]

section Decrypting

variable {key : Block 32} {nonce : Block 24} {sealed : Bytes}

theorem decrypt?_eq_none_iff : decrypt? key nonce sealed = none ↔ ¬ Tagged key nonce sealed := by
  constructor
  · rintro h ⟨body, rfl⟩
    rw [decrypt?_append_tag] at h
    cases h
  · intro h
    simp only [decrypt?]
    rw [if_neg]
    rintro ⟨-, hdrop⟩
    apply h
    refine ⟨sealed.take (sealed.length - tagLength), ?_⟩
    rw [← hdrop, List.take_append_drop]

theorem tagLength_le_of_tagged (h : Tagged key nonce sealed) : tagLength ≤ sealed.length := by
  obtain ⟨body, rfl⟩ := h
  rw [List.length_append, (tag key nonce body).2]
  exact Nat.le_add_left _ _

/-- Behind one body stands one tag. -/
theorem tagged_append_iff {body : Bytes} {t : Block 16} :
    Tagged key nonce (body ++ t.1) ↔ t = tag key nonce body := by
  constructor
  · rintro ⟨body', h⟩
    obtain ⟨rfl, ht⟩ := List.append_inj' h (by rw [t.2, (tag key nonce body').2])
    exact Subtype.ext ht
  · rintro rfl
    exact ⟨body, rfl⟩

end Decrypting

end XChaCha20Poly1305

theorem SealedMessage.ofBytes_toBytes (m : SealedMessage) : ofBytes m.toBytes = .ok m := by
  have hnonce := m.nonce.2
  have hlength : 24 ≤ m.toBytes.length := by
    rw [toBytes, List.length_append, hnonce]
    omega
  rw [ofBytes, dif_pos hlength]
  have htake : m.toBytes.take 24 = m.nonce.1 := by rw [toBytes, List.take_left' hnonce]
  have hdrop : m.toBytes.drop 24 = m.ciphertext := by rw [toBytes, List.drop_left' hnonce]
  simp only [htake, hdrop]

/-- From 24 bytes on, every byte string is a sealed message. -/
theorem SealedMessage.exists_toBytes {b : Bytes} (h : 24 ≤ b.length) :
    ∃ m : SealedMessage, b = m.toBytes :=
  ⟨⟨⟨b.take 24, List.length_take_of_le h⟩, b.drop 24⟩, (List.take_append_drop 24 b).symm⟩

theorem SealedMessage.ofBytes_of_short {b : Bytes} (h : b.length < 24) :
    ofBytes b = .error .sealedShort := by
  rw [ofBytes, dif_neg (Nat.not_le.mpr h)]

/-- The nonce that stands at a position of a source. -/
def Entropy.nonceAt (e : Entropy) (p : Nat) : Block 24 :=
  ⟨(List.range 24).map fun i => e.byteAt (p + i), by simp⟩

namespace Key

@[simp] theorem ofBytes_bytes (k : Key) : ofBytes k.bytes.1 = .ok k := dif_pos k.bytes.2

theorem ofBytes_of_length_ne {b : Bytes} (h : b.length ≠ Key.length) :
    ofBytes b = .error .keyLength := dif_neg h

theorem toBytes_sealUnder (k : Key) (nonce : Block 24) (p : Bytes) :
    (k.sealUnder nonce p).toBytes = nonce.1 ++ XChaCha20Poly1305.encrypt k.bytes nonce p := rfl

theorem openBytes_sealUnder (k : Key) (nonce : Block 24) (p : Bytes) :
    k.openBytes (k.sealUnder nonce p) = .ok p := by
  have h := XChaCha20Poly1305.decrypt?_encrypt k.bytes nonce p
  simp only [openBytes, sealUnder, h]

theorem openBytes_of_not_tagged {k : Key} {m : SealedMessage}
    (h : ¬ XChaCha20Poly1305.Tagged k.bytes m.nonce m.ciphertext) :
    k.openBytes m = .error .authentication := by
  rw [openBytes, XChaCha20Poly1305.decrypt?_eq_none_iff.mpr h]

theorem sealBytes_of_supply (k : Key) (p : Bytes) {e : Entropy} (h : e.used + 24 ≤ e.supply) :
    k.sealBytes p e = (.ok (k.sealUnder (e.nonceAt e.used) p), { e with used := e.used + 24 }) := by
  rw [sealBytes, Entropy.read_ok h]
  rfl

theorem sealBytes_of_short (k : Key) (p : Bytes) {e : Entropy} (h : ¬ e.used + 24 ≤ e.supply) :
    k.sealBytes p e = (.error (.randomness "entropy exhausted"), e) := by
  rw [sealBytes, Entropy.read_error h]

end Key

namespace Service

/-- What a text is sealed to under a key and a nonce: the nonce, then the ciphertext under it. -/
def sealedWith (k : Key) (nonce : Block 24) (t : String) : SealResponse :=
  ⟨Transport.encode (nonce.1 ++ XChaCha20Poly1305.encrypt k.bytes nonce (Bytes.ofText t))⟩

/-- **A sealed text opens under its key to exactly that text.** -/
theorem openText_sealedWith (k : Key) (nonce : Block 24) (t : String) :
    openText ⟨k.bytes.1, (sealedWith k nonce t).sealedText⟩ = .ok ⟨t⟩ := by
  have hparse := SealedMessage.ofBytes_toBytes (k.sealUnder nonce (Bytes.ofText t))
  rw [Key.toBytes_sealUnder] at hparse
  simp only [openText, sealedWith, Key.ofBytes_bytes, Transport.decode_encode, hparse,
    Key.openBytes_sealUnder, Bytes.toText?_ofText]

variable {E : Type} [ExchangeGroup E] (s : Service E) (k : Key) (t : String)

theorem sealText_eq_of_supply (h : s.entropy.used + 24 ≤ s.entropy.supply) :
    s.sealText ⟨k.bytes.1, t⟩ = (.ok (sealedWith k (s.entropy.nonceAt s.entropy.used) t),
      { s with entropy := { s.entropy with used := s.entropy.used + 24 } }) := by
  simp only [sealText, Key.ofBytes_bytes, Key.sealBytes_of_supply k _ h, Key.toBytes_sealUnder,
    sealedWith]

theorem sealText_eq_of_short (h : ¬ s.entropy.used + 24 ≤ s.entropy.supply) :
    s.sealText ⟨k.bytes.1, t⟩ = (.error (.pairing (.randomness "entropy exhausted")), s) := by
  simp only [sealText, Key.ofBytes_bytes, Key.sealBytes_of_short k _ h]

theorem sealText_of_supply (h : s.entropy.used + 24 ≤ s.entropy.supply) :
    (s.sealText ⟨k.bytes.1, t⟩).1 = .ok (sealedWith k (s.entropy.nonceAt s.entropy.used) t) :=
  congrArg Prod.fst (s.sealText_eq_of_supply k t h)

end Service

end Pairing
