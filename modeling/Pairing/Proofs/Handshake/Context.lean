import Pairing.Handshake.Context
import Pairing.Proofs.Bytes

/-!
# Contexts that name both parties

Each field of such a context stands behind its length, which takes four bytes.  As long as the lengths of the
names fit in there, the context gives its fields back (`forParties_inj`); the associated data may be of any
length, as nothing stands behind it.  The length of a short name starts with a zero byte, so the context is no
text without null characters (`forParties_ne_of_zero_not_mem`).

The bound on the names is sharp.  Of a longer name only the remainder of its length modulo `2 ^ 32` is written
down, so a name of `2 ^ 32` null characters stands behind four zero bytes, like the empty name, and nothing in
the context says where it starts (`forParties_nulls`).
-/

namespace Pairing.Context

/-- The length of the name fits in the four bytes in front of it. -/
def FitsPrefix (name : String) : Prop := (Bytes.ofText name).length < Nat.pow 2 32

instance (name : String) : Decidable (FitsPrefix name) :=
  inferInstanceAs (Decidable ((Bytes.ofText name).length < Nat.pow 2 32))

/-! ### Names that fit -/

theorem forParties_inj {i r i' r' : String} {a a' : Bytes} (hi : FitsPrefix i) (hr : FitsPrefix r)
    (hi' : FitsPrefix i') (hr' : FitsPrefix r') (h : forParties i r a = forParties i' r' a') :
    i = i' ∧ r = r' ∧ a = a' := by
  have hwidth : Nat.pow 2 32 = Nat.pow 256 4 := by decide
  rw [FitsPrefix, hwidth] at hi hr hi' hr'
  have hbytes := congrArg bytes h
  rw [forParties, forParties, List.append_assoc, List.append_assoc] at hbytes
  obtain ⟨hinitiator, hrest⟩ := Bytes.lengthPrefixed_append_inj hi hi' hbytes
  obtain ⟨hresponder, hdata⟩ := Bytes.lengthPrefixed_append_inj hr hr' hrest
  exact ⟨Bytes.ofText_inj hinitiator, Bytes.ofText_inj hresponder, Bytes.lengthPrefixed_inj hdata⟩

/-- **A context names one pair of parties.**  If the lengths of the names fit, two triples have the same
context exactly if they are the same, and parties that change places change the context. -/
theorem forParties_is_unambiguous {i r i' r' : String} {a a' : Bytes} (hi : FitsPrefix i)
    (hr : FitsPrefix r) (hi' : FitsPrefix i') (hr' : FitsPrefix r') :
    (forParties i r a = forParties i' r' a' ↔ i = i' ∧ r = r' ∧ a = a') ∧
      (i ≠ r → forParties i r a ≠ forParties r i a') := by
  constructor
  · constructor
    · exact forParties_inj hi hr hi' hr'
    · rintro ⟨rfl, rfl, rfl⟩
      rfl
  · intro hne h
    exact hne (forParties_inj hi hr hr hi h).1

theorem alice_and_bob_are_unambiguous :
    (FitsPrefix "alice" ∧ FitsPrefix "bob" ∧ "alice" ≠ "bob") ∧
      forParties "alice" "bob" [] ≠ forParties "bob" "alice" [1] := by
  have halice : FitsPrefix "alice" := by decide
  have hbob : FitsPrefix "bob" := by decide
  have hne : "alice" ≠ "bob" := by decide
  exact ⟨⟨halice, hbob, hne⟩, (forParties_is_unambiguous (a := []) halice hbob halice hbob).2 hne⟩

/-- A short name has a zero byte in front of it. -/
theorem forParties_ne_of_zero_not_mem {i r : String} {a b : Bytes}
    (hi : (Bytes.ofText i).length < Nat.pow 2 24) (hb : 0 ∉ b) : forParties i r a ≠ ⟨b⟩ := by
  have hwidth : Nat.pow 2 24 = Nat.pow 256 3 := by decide
  rw [hwidth] at hi
  intro h
  have hbytes : b = (forParties i r a).bytes := congrArg bytes h.symm
  apply hb
  rw [hbytes, forParties, Bytes.lengthPrefixed, List.append_assoc, List.append_assoc]
  exact List.mem_append_left _ (Bytes.zero_mem_bigEndian hi)

/-! ### Names that do not fit -/

def nulls (n : Nat) : String := String.ofList (List.replicate n '\x00')

theorem ofText_nulls (n : Nat) : Bytes.ofText (nulls n) = List.replicate n 0 := by
  rw [nulls, Bytes.ofText_ofList, List.flatMap_replicate]
  exact List.flatten_replicate_singleton

theorem nulls_inj {m n : Nat} (h : nulls m = nulls n) : m = n := by
  have hbytes := congrArg Bytes.ofText h
  rw [ofText_nulls, ofText_nulls] at hbytes
  exact (List.replicate_inj.mp hbytes).1

/-- Where the length reads as zero, name and length are zero bytes throughout. -/
theorem lengthPrefixed_nulls {n : Nat} (h : Bytes.bigEndian 4 n = List.replicate 4 0) :
    Bytes.lengthPrefixed 4 (Bytes.ofText (nulls n)) = List.replicate (4 + n) 0 := by
  rw [ofText_nulls, Bytes.lengthPrefixed, List.length_replicate, h, List.replicate_append_replicate]

theorem forParties_nulls {m n : Nat} (hm : Bytes.bigEndian 4 m = List.replicate 4 0)
    (hn : Bytes.bigEndian 4 n = List.replicate 4 0) :
    forParties (nulls m) (nulls n) [] = forParties (nulls n) (nulls m) [] := by
  rw [forParties, forParties, lengthPrefixed_nulls hm, lengthPrefixed_nulls hn,
    List.replicate_append_replicate, List.replicate_append_replicate, Nat.add_comm]

/-- Without the bound two triples share a context: a name of `2 ^ 32` null characters and the empty name may
change places. -/
theorem forParties_is_ambiguous_past_prefix :
    nulls (Nat.pow 2 32) ≠ "" ∧
      forParties (nulls (Nat.pow 2 32)) "" [] = forParties "" (nulls (Nat.pow 2 32)) [] := by
  have hempty : nulls 0 = "" := by decide
  rw [← hempty]
  constructor
  · intro h
    exact absurd (nulls_inj h) (by decide)
  · exact forParties_nulls (by decide) (by decide)

end Pairing.Context
