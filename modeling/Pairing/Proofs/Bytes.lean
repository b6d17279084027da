import Pairing.Bytes

/-!
# Taking byte strings apart

A numeral of fixed width gives back its number (`ofBigEndian_bigEndian`), so a field behind its length
can be told from what follows it (`lengthPrefixed_append_inj`).  Adding the same bytes twice gives back
what was there (`xor_xor_cancel`).  A text is known by its UTF-8 form (`ofText_inj`), in which a zero
byte stands only for the null character (`zero_not_mem_ofText`); the byte strings that are no UTF-8
form of a text read as no text (`toText?_eq_none_iff`).

Lists of one length, put one after the other, are told apart again by cutting the whole into stretches of that
length (`chunks_flatten`).
-/

namespace Pairing

/-! ### Stretches -/

section Chunks

variable {α : Type} {n : Nat}

theorem chunks_nil (hn : 0 < n) : chunks n ([] : List α) = [] := by
  have hcount : (([] : List α).length + n - 1) / n = 0 := Nat.div_eq_of_lt (by rw [List.length_nil]; omega)
  rw [chunks, hcount, split]

theorem chunks_of_ne_nil (hn : 0 < n) {l : List α} (h : l ≠ []) :
    chunks n l = l.take n :: chunks n (l.drop n) := by
  have hpos := List.length_pos_iff.mpr h
  have hcount : (l.length + n - 1) / n = ((l.drop n).length + n - 1) / n + 1 := by
    have hlast : l.length + n - 1 = (l.length - 1) + n := by omega
    rw [hlast, Nat.add_div_right _ hn, List.length_drop]
    by_cases hle : n ≤ l.length
    · have hrest : l.length - n + n - 1 = l.length - 1 := by omega
      rw [hrest]
    · rw [Nat.div_eq_of_lt (by omega), Nat.div_eq_of_lt (by omega)]
  rw [chunks, chunks, hcount, split]

theorem chunks_append (hn : 0 < n) {a : List α} (ha : a.length = n) (l : List α) :
    chunks n (a ++ l) = a :: chunks n l := by
  have hne : a ++ l ≠ [] := by
    intro hnil
    rw [(List.append_eq_nil_iff.mp hnil).1] at ha
    exact absurd hn (by rw [← ha]; exact Nat.lt_irrefl 0)
  rw [chunks_of_ne_nil hn hne, List.take_left' ha, List.drop_left' ha]

theorem chunks_flatten (hn : 0 < n) {ls : List (List α)} (h : ∀ a ∈ ls, a.length = n) :
    chunks n ls.flatten = ls := by
  induction ls with
  | nil => exact chunks_nil hn
  | cons a ls ih =>
    rw [List.flatten_cons, chunks_append hn (h a List.mem_cons_self),
      ih fun b hb => h b (List.mem_cons_of_mem _ hb)]

end Chunks

end Pairing

namespace Pairing.Bytes

/-! ### Numerals and fields -/

theorem ofBigEndian_bigEndian {k n : Nat} (h : n < Nat.pow 256 k) :
    ofBigEndian (bigEndian k n) = n := by
  rw [ofBigEndian, bigEndian, List.reverse_reverse, ofLittleEndian_littleEndian h]

theorem bigEndian_inj {k m n : Nat} (hm : m < Nat.pow 256 k) (hn : n < Nat.pow 256 k)
    (h : bigEndian k m = bigEndian k n) : m = n := by
  rw [← ofBigEndian_bigEndian hm, h, ofBigEndian_bigEndian hn]

/-- A number that does not fill its numeral starts with a zero byte. -/
theorem zero_mem_bigEndian {k n : Nat} (h : n < Nat.pow 256 k) : 0 ∈ bigEndian (k + 1) n := by
  rw [bigEndian, List.mem_reverse]
  induction k generalizing n with
  | zero =>
    have hn : n = 0 := Nat.lt_one_iff.mp h
    rw [hn]
    exact List.mem_singleton.mpr rfl
  | succ k ih =>
    have hn : n < Nat.pow 256 k * 256 := h
    exact List.mem_cons_of_mem _ (ih (by omega))

/-- **A field behind its length ends where the length says.**  Whatever follows, two such fields at the
front of one byte string are the same field. -/
theorem lengthPrefixed_append_inj {k : Nat} {a b x y : Bytes} (ha : a.length < Nat.pow 256 k)
    (hb : b.length < Nat.pow 256 k) (h : lengthPrefixed k a ++ x = lengthPrefixed k b ++ y) :
    a = b ∧ x = y := by
  rw [lengthPrefixed, lengthPrefixed, List.append_assoc, List.append_assoc] at h
  obtain ⟨hn, h⟩ := List.append_inj h (by rw [length_bigEndian, length_bigEndian])
  exact List.append_inj h (bigEndian_inj ha hb hn)

theorem lengthPrefixed_inj {k : Nat} {a b : Bytes} (h : lengthPrefixed k a = lengthPrefixed k b) :
    a = b :=
  (List.append_inj h (by rw [length_bigEndian, length_bigEndian])).2

/-- The last `n` bytes, and what stands before them. -/
theorem exists_append_block {n : Nat} {b : Bytes} (h : n ≤ b.length) :
    ∃ (front : Bytes) (back : Block n), b = front ++ back.1 := by
  have hback : (b.drop (b.length - n)).length = n := by
    rw [List.length_drop]
    omega
  exact ⟨b.take (b.length - n), ⟨_, hback⟩, (List.take_append_drop _ _).symm⟩

/-! ### The UTF-8 form of a text -/

theorem ofText_ofList (cs : List Char) :
    ofText (String.ofList cs) = cs.flatMap String.utf8EncodeChar := by
  rw [ofText, String.toByteArray_ofList, List.utf8Encode, List.toList_data_toByteArray]

theorem ofText_inj {s t : String} (h : ofText s = ofText t) : s = t := by
  have hread := congrArg toText? h
  rw [toText?_ofText, toText?_ofText] at hread
  exact Option.some.inj hread

theorem zero_ne_ofNat {n : Nat} (h : 0 < n) (hn : n < 256) : (0 : UInt8) ≠ UInt8.ofNat n := by
  intro h0
  have hvalue := congrArg UInt8.toNat h0
  rw [UInt8.toNat_ofNat', UInt8.toNat_zero] at hvalue
  omega

/-- Only the null character has a zero byte: the bytes of a character that takes more than one are all
from 128 on. -/
theorem eq_of_zero_mem_utf8EncodeChar {c : Char} (h : 0 ∈ String.utf8EncodeChar c) :
    c = '\x00' := by
  simp only [String.utf8EncodeChar] at h
  split at h
  · rcases Nat.eq_zero_or_pos c.val.toNat with hvalue | hpos
    · exact Char.ext (UInt32.toNat_inj.mp hvalue)
    · exact absurd (List.mem_singleton.mp h) (zero_ne_ofNat hpos (by omega))
  · exfalso
    split at h
    · simp only [List.mem_cons, List.not_mem_nil, or_false] at h
      rcases h with h | h <;> exact zero_ne_ofNat (by omega) (by omega) h
    · split at h
      · simp only [List.mem_cons, List.not_mem_nil, or_false] at h
        rcases h with h | h | h <;> exact zero_ne_ofNat (by omega) (by omega) h
      · simp only [List.mem_cons, List.not_mem_nil, or_false] at h
        rcases h with h | h | h | h <;> exact zero_ne_ofNat (by omega) (by omega) h

theorem zero_not_mem_ofText {t : String} (h : '\x00' ∉ t.toList) : 0 ∉ ofText t := by
  rw [← String.ofList_toList (s := t), ofText_ofList, List.mem_flatMap]
  rintro ⟨c, hc, h0⟩
  rw [eq_of_zero_mem_utf8EncodeChar h0] at hc
  exact h hc

theorem toText?_eq_none_iff {b : Bytes} : toText? b = none ↔ ∀ t, b ≠ ofText t := by
  constructor
  · rintro h t rfl
    rw [toText?_ofText] at h
    cases h
  · intro h
    cases ht : toText? b with
    | none => rfl
    | some t => exact absurd (eq_ofText_of_toText? ht) (h t)

/-! ### Exclusive or -/

@[simp] theorem length_xor (a b : Bytes) : (xor a b).length = min a.length b.length := by
  rw [xor, List.length_zipWith]

theorem xor_xor_cancel {m k : Bytes} (h : m.length ≤ k.length) : xor (xor m k) k = m := by
  induction m generalizing k with
  | nil => rfl
  | cons a m ih =>
    cases k with
    | nil => simp at h
    | cons b k =>
      have hab : a ^^^ b ^^^ b = a := by rw [UInt8.xor_assoc, UInt8.xor_self, UInt8.xor_zero]
      have hk : m.length ≤ k.length := by simpa using h
      show (a ^^^ b ^^^ b) :: xor (xor m k) k = a :: m
      rw [hab, ih hk]

end Pairing.Bytes
