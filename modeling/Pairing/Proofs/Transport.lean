import Mathlib.Algebra.Group.Nat.Defs
import Pairing.Transport

/-!
# Reading transport text

`decode_encode`: the text of a byte string reads back as that byte string, whatever its length.  The proof
goes by the groups of three bytes in which the digits are made; each of the four digits of a group is
below 64 (`lt_of_mem_encodeDigits`), and the alphabet has one place for each digit
(`digitValue?_digit`).

The other way round, digits that are read are those of what was read (`encodeDigits_of_decodeDigits?`), so
that a byte string has one text (`decode_eq_ok_iff`).  Digits are refused only if they do not come out
even (`decodeDigits?_eq_none_iff`), which with characters that are no digits is all that can be wrong with
a text (`decode_eq_error_iff`).
-/

namespace Pairing.Transport

/-! ### Digits -/

theorem digitValue?_digit {n : Nat} (h : n < 64) : digitValue? (digit n) = some n := by
  have hall : ∀ n ∈ List.range 64, digitValue? (digit n) = some n := by decide +kernel
  exact hall n (List.mem_range.mpr h)

theorem lt_of_mem_encodeDigits (b : Bytes) : ∀ d ∈ encodeDigits b, d < 64 := by
  fun_induction encodeDigits b with
  | case1 a b c r ih =>
    intro d hd
    have ha := a.toNat_lt
    have hb := b.toNat_lt
    have hc := c.toNat_lt
    simp only [List.mem_cons] at hd
    rcases hd with rfl | rfl | rfl | rfl | hd
    · omega
    · omega
    · omega
    · omega
    · exact ih d hd
  | case2 a b =>
    intro d hd
    have ha := a.toNat_lt
    have hb := b.toNat_lt
    simp only [List.mem_cons, List.not_mem_nil, or_false] at hd
    rcases hd with rfl | rfl | rfl <;> omega
  | case3 a =>
    intro d hd
    have ha := a.toNat_lt
    simp only [List.mem_cons, List.not_mem_nil, or_false] at hd
    rcases hd with rfl | rfl <;> omega
  | case4 => intro d hd; simp at hd

theorem mapM_digitValue? {ds : List Nat} (h : ∀ d ∈ ds, d < 64) :
    (ds.map digit).mapM digitValue? = some ds := by
  induction ds with
  | nil => rfl
  | cons d ds ih =>
    rw [List.map_cons, List.mapM_cons, digitValue?_digit (h d List.mem_cons_self),
      ih fun x hx => h x (List.mem_cons_of_mem d hx)]
    rfl

/-! ### Groups of bytes -/

theorem ofNat_eq_of_eq_toNat {n : Nat} {a : UInt8} (h : n = a.toNat) : UInt8.ofNat n = a := by
  rw [h, UInt8.ofNat_toNat]

/-- Six bits of the first digit and two of the second, whatever else the second carries. -/
theorem ofNat_first (a : UInt8) {n : Nat} (hn : n < 16) :
    UInt8.ofNat (a.toNat / 4 * 4 + (a.toNat % 4 * 16 + n) / 16) = a :=
  ofNat_eq_of_eq_toNat (by omega)

theorem ofNat_second (a b : UInt8) {n : Nat} (hn : n < 4) :
    UInt8.ofNat ((a.toNat % 4 * 16 + b.toNat / 16) % 16 * 16 + (b.toNat % 16 * 4 + n) / 4) = b := by
  have hb := b.toNat_lt
  exact ofNat_eq_of_eq_toNat (by omega)

theorem ofNat_third (b c : UInt8) :
    UInt8.ofNat ((b.toNat % 16 * 4 + c.toNat / 64) % 4 * 64 + c.toNat % 64) = c := by
  have hc := c.toNat_lt
  exact ofNat_eq_of_eq_toNat (by omega)

theorem decodeDigits?_encodeDigits (b : Bytes) : decodeDigits? (encodeDigits b) = some b := by
  fun_induction encodeDigits b with
  | case1 a b c r ih =>
    have hb := b.toNat_lt
    have hc := c.toNat_lt
    rw [decodeDigits?, ih, ofNat_first a (by omega), ofNat_second a b (by omega), ofNat_third b c]
    rfl
  | case2 a b =>
    have hb := b.toNat_lt
    rw [decodeDigits?, if_pos (by omega), ofNat_first a (by omega)]
    exact congrArg (fun x => some [a, x]) (ofNat_second a b (n := 0) (by omega))
  | case3 a =>
    rw [decodeDigits?, if_pos (by omega)]
    exact congrArg (fun x => some [x]) (ofNat_first a (n := 0) (by omega))
  | case4 => rfl

/-- **A byte string reads back from its text.** -/
@[simp] theorem decode_encode (b : Bytes) : decode (encode b) = .ok b := by
  have h : ((encode b).toList.mapM digitValue? >>= decodeDigits?) = some b := by
    rw [encode, String.toList_ofList, mapM_digitValue? (lt_of_mem_encodeDigits b)]
    exact decodeDigits?_encodeDigits b
  rw [decode, h]

/-! ### Places in the alphabet -/

theorem length_alphabet : alphabet.length = 64 := by decide +kernel

theorem lt_of_place {c : Char} {n : Nat} (h : alphabet[n]? = some c) : n < 64 := by
  rw [← length_alphabet]
  exact (List.getElem?_eq_some_iff.mp h).1

theorem digit_of_place {c : Char} {n : Nat} (h : alphabet[n]? = some c) : digit n = c := by
  rw [digit, List.getD_eq_getElem?_getD, h]
  rfl

/-- A character's value is its place in the alphabet. -/
theorem digitValue?_eq_some_iff {c : Char} {n : Nat} :
    digitValue? c = some n ↔ alphabet[n]? = some c := by
  constructor
  · intro h
    rw [digitValue?, List.idxOf?_eq_some_iff] at h
    obtain ⟨hn, hc, -⟩ := h
    rw [List.getElem?_eq_getElem hn, hc]
  · intro h
    rw [← digit_of_place h, digitValue?_digit (lt_of_place h)]

theorem digitValue?_eq_none_iff {c : Char} : digitValue? c = none ↔ c ∉ alphabet := by
  rw [digitValue?, List.idxOf?_eq_none_iff]

/-- A text has values exactly if it is written in digits. -/
theorem mapM_digitValue?_eq_some_iff {cs : List Char} {ds : List Nat} :
    cs.mapM digitValue? = some ds ↔ cs = ds.map digit ∧ ∀ d ∈ ds, d < 64 := by
  constructor
  · intro h
    induction cs generalizing ds with
    | nil =>
      cases h
      exact ⟨rfl, List.forall_mem_nil _⟩
    | cons c cs ih =>
      rw [List.mapM_cons] at h
      obtain ⟨d, hd, h⟩ := Option.bind_eq_some_iff.mp h
      obtain ⟨ds', hds, h⟩ := Option.bind_eq_some_iff.mp h
      cases h
      obtain ⟨hcs, hlt⟩ := ih hds
      have hplace := digitValue?_eq_some_iff.mp hd
      rw [List.map_cons, digit_of_place hplace, ← hcs]
      exact ⟨rfl, List.forall_mem_cons.mpr ⟨lt_of_place hplace, hlt⟩⟩
  · rintro ⟨rfl, hlt⟩
    exact mapM_digitValue? hlt

theorem mapM_digitValue?_eq_none_iff {cs : List Char} :
    cs.mapM digitValue? = none ↔ ∃ c ∈ cs, c ∉ alphabet := by
  induction cs with
  | nil => simp
  | cons c cs ih =>
    simp only [List.mem_cons, exists_eq_or_imp]
    rw [List.mapM_cons, ← ih, ← digitValue?_eq_none_iff]
    cases hc : digitValue? c with
    | none => simp
    | some d =>
      cases hcs : cs.mapM digitValue? with
      | none => simp
      | some ds => simp

/-! ### Groups of digits -/

theorem encodeDigits_of_decodeDigits? {ds : List Nat} {b : Bytes} (hds : ∀ d ∈ ds, d < 64)
    (h : decodeDigits? ds = some b) : encodeDigits b = ds := by
  fun_induction decodeDigits? ds generalizing b with
  | case1 w x y z r ih =>
    simp only [List.forall_mem_cons] at hds
    obtain ⟨hw, hx, hy, hz, hr⟩ := hds
    obtain ⟨rest, hrest, h⟩ := Option.bind_eq_some_iff.mp h
    cases h
    simp only [encodeDigits, UInt8.toNat_ofNat', ih hr hrest, List.cons.injEq, and_true]
    omega
  | case2 w x y hspare =>
    simp only [List.forall_mem_cons] at hds
    obtain ⟨hw, hx, hy, -⟩ := hds
    cases h
    simp only [encodeDigits, UInt8.toNat_ofNat', List.cons.injEq, and_true]
    omega
  | case3 => cases h
  | case4 w x hspare =>
    simp only [List.forall_mem_cons] at hds
    obtain ⟨hw, hx, -⟩ := hds
    cases h
    simp only [encodeDigits, UInt8.toNat_ofNat', List.cons.injEq, and_true]
    omega
  | case5 => cases h
  | case6 => cases h
  | case7 =>
    cases h
    rfl

theorem decode_eq_ok_iff {t : String} {b : Bytes} : decode t = .ok b ↔ t = encode b := by
  constructor
  · intro h
    rw [decode] at h
    split at h
    · rename_i b' hb
      cases h
      obtain ⟨ds, hds, hb⟩ := Option.bind_eq_some_iff.mp hb
      obtain ⟨ht, hlt⟩ := mapM_digitValue?_eq_some_iff.mp hds
      rw [encode, encodeDigits_of_decodeDigits? hlt hb, ← ht, String.ofList_toList]
    · cases h
  · rintro rfl
    exact decode_encode b

theorem encode_inj {a b : Bytes} (h : encode a = encode b) : a = b := by
  have hread : decode (encode a) = .ok b := decode_eq_ok_iff.mpr h
  rw [decode_encode] at hread
  exact Except.ok.inj hread

theorem decode_of_forall_ne {t : String} (h : ∀ b, t ≠ encode b) :
    decode t = .error .transportText := by
  rw [decode]
  split
  · rename_i b hb
    have hread : decode t = .ok b := by rw [decode, hb]
    exact absurd (decode_eq_ok_iff.mp hread) (h b)
  · rfl

/-! ### Texts that are not read -/

/-- The digits do not come out even: one of them stands alone behind the last whole group, or the last one
has a bit set that belongs to no byte. -/
def Uneven (ds : List Nat) : Prop :=
  ds.length % 4 = 1 ∨ ∃ d, ds.getLast? = some d ∧ d % 2 ^ (6 * ds.length % 8) ≠ 0

/-- A whole group has no bits to spare. -/
theorem uneven_group_iff {w x y z : Nat} {r : List Nat} :
    Uneven (w :: x :: y :: z :: r) ↔ Uneven r := by
  cases r with
  | nil => simp [Uneven, Nat.mod_one]
  | cons d r =>
    have hlength : (d :: r).length + 4 = (w :: x :: y :: z :: d :: r).length := rfl
    have hspare : 6 * ((d :: r).length + 4) % 8 = 6 * (d :: r).length % 8 := by omega
    rw [Uneven, Uneven, ← hlength, hspare, Nat.add_mod_right]
    simp only [List.getLast?_cons_cons]

theorem decodeDigits?_eq_none_iff {ds : List Nat} : decodeDigits? ds = none ↔ Uneven ds := by
  fun_induction decodeDigits? ds with
  | case1 w x y z r ih =>
    rw [uneven_group_iff, ← ih]
    cases decodeDigits? r with
    | none => exact ⟨fun _ => rfl, fun _ => rfl⟩
    | some b => exact ⟨nofun, nofun⟩
  | case2 w x y hspare => simp [Uneven, hspare]
  | case3 w x y hspare => simp [Uneven, hspare]
  | case4 w x hspare => simp [Uneven, hspare]
  | case5 w x hspare => simp [Uneven, hspare]
  | case6 w => simp [Uneven]
  | case7 => simp [Uneven]

/-- What can be wrong with a text: a character that is no digit, one that stands alone behind the last
whole group, or a last one with a bit set that belongs to no byte. -/
inductive Malformed (t : String) : Prop
  | foreign (c : Char) (mem : c ∈ t.toList) (not_mem : c ∉ alphabet)
  | alone (length : t.length % 4 = 1)
  | spare (c : Char) (n : Nat) (last : t.toList.getLast? = some c) (place : alphabet[n]? = some c)
      (bits : n % 2 ^ (6 * t.length % 8) ≠ 0)

theorem malformed_iff_of_digits {t : String} {ds : List Nat}
    (h : t.toList.mapM digitValue? = some ds) : Malformed t ↔ Uneven ds := by
  obtain ⟨ht, hlt⟩ := mapM_digitValue?_eq_some_iff.mp h
  have hlength : t.length = ds.length := by rw [← String.length_toList, ht, List.length_map]
  constructor
  · rintro (⟨c, hc, hforeign⟩ | halone | ⟨c, n, hlast, hplace, hbits⟩)
    · have hnone := mapM_digitValue?_eq_none_iff.mpr ⟨c, hc, hforeign⟩
      cases hnone.symm.trans h
    · exact Or.inl (hlength ▸ halone)
    · rw [ht, List.getLast?_map, Option.map_eq_some_iff] at hlast
      obtain ⟨d, hd, rfl⟩ := hlast
      have hvalue := digitValue?_digit (hlt d (List.mem_of_getLast? hd))
      cases hvalue.symm.trans (digitValue?_eq_some_iff.mpr hplace)
      exact Or.inr ⟨n, hd, hlength ▸ hbits⟩
  · rintro (halone | ⟨d, hlast, hbits⟩)
    · exact .alone (hlength ▸ halone)
    · have hplace := digitValue?_eq_some_iff.mp (digitValue?_digit (hlt d (List.mem_of_getLast? hlast)))
      refine .spare (digit d) d ?_ hplace (hlength ▸ hbits)
      rw [ht, List.getLast?_map, hlast]
      rfl

/-- **Only malformed texts are refused**, all with one error. -/
theorem decode_eq_error_iff {t : String} {err : Error} :
    decode t = .error err ↔ err = .transportText ∧ Malformed t := by
  rw [decode]
  cases hds : t.toList.mapM digitValue? with
  | none =>
    obtain ⟨c, hc, hforeign⟩ := mapM_digitValue?_eq_none_iff.mp hds
    constructor
    · intro h
      cases h
      exact ⟨rfl, .foreign c hc hforeign⟩
    · rintro ⟨rfl, -⟩
      rfl
  | some ds =>
    rw [malformed_iff_of_digits hds, ← decodeDigits?_eq_none_iff, Option.bind_eq_bind,
      Option.bind_some]
    cases decodeDigits? ds with
    | none => exact ⟨fun h => ⟨(Except.error.inj h).symm, rfl⟩, fun h => congrArg _ h.1.symm⟩
    | some b => exact ⟨nofun, nofun⟩

/-- **Transport texts and byte strings are one to one.**  The texts that are read are those that are
written, each as what it was written from; all others, and so all that are malformed, are refused. -/
theorem decode_inverts_encode :
    (∀ (b : Bytes) (t : String), decode t = .ok b ↔ t = encode b) ∧
    (∀ (t : String) (err : Error), decode t = .error err ↔ err = .transportText ∧ Malformed t) ∧
    Error.transportText.kind = .encoding ∧ '=' ∉ alphabet :=
  ⟨fun _ _ => decode_eq_ok_iff, fun _ _ => decode_eq_error_iff, rfl, by decide +kernel⟩

end Pairing.Transport
