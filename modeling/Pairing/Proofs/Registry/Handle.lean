import Mathlib.Data.Set.List
import Pairing.Proofs.Bytes
import Pairing.Service.Basic

/-!
# Reading the text of a handle

`parse?_eq_some_iff`: a text is read as a handle exactly if it is that handle's text.  So a handle has one
text only, which is its hexadecimal numeral filled up with zeros (`toText_eq_leftpad`), and every text that is
not of the form `Spelled` is refused.

The numeral by itself could be read from other texts too, or not at all: it may be signed or in upper case, and
its number may be too large.  None of that is left after the form has been checked (`ofNumeral_of_spelled`).
The proof goes by the digits, lowest first: a numeral is read up to its last digit before that digit is added
(`readDigits_append`), so all that is read on the way is below what comes out.
-/

namespace Pairing.Handle

/-! ### Digits and numbers -/

/-- The number that hexadecimal digits denote, lowest digit first. -/
def ofDigits : List (Fin 16) → Nat
  | [] => 0
  | d :: r => d.1 + 16 * ofDigits r

theorem ofDigits_lt (ds : List (Fin 16)) : ofDigits ds < Nat.pow 16 ds.length := by
  induction ds with
  | nil => simp [ofDigits]
  | cons d r ih =>
    have hd := d.2
    show d.1 + 16 * ofDigits r < Nat.pow 16 r.length * 16
    omega

@[simp] theorem length_toDigits (k n : Nat) : (toDigits k n).length = k := by
  induction k generalizing n with
  | zero => rfl
  | succ k ih => simp [toDigits, ih]

theorem ofDigits_toDigits {k n : Nat} (h : n < Nat.pow 16 k) : ofDigits (toDigits k n) = n := by
  induction k generalizing n with
  | zero =>
    have hn : n = 0 := Nat.lt_one_iff.mp h
    rw [hn]
    rfl
  | succ k ih =>
    have hk : n < Nat.pow 16 k * 16 := h
    have hd : n / 16 < Nat.pow 16 k := by omega
    simp only [toDigits, ofDigits, ih hd]
    omega

theorem toDigits_ofDigits (ds : List (Fin 16)) : toDigits ds.length (ofDigits ds) = ds := by
  induction ds with
  | nil => rfl
  | cons d r ih =>
    have hd := d.2
    have hlow : (d.1 + 16 * ofDigits r) % 16 = d.1 := by omega
    have hrest : (d.1 + 16 * ofDigits r) / 16 = ofDigits r := by omega
    simp only [List.length_cons, toDigits, ofDigits, hlow, hrest, ih]

/-- 32 digits are 128 bits. -/
theorem ofDigits_lt_of_length {ds : List (Fin 16)} (h : ds.length = 32) :
    ofDigits ds < Nat.pow 2 128 := by
  have hlt := ofDigits_lt ds
  rw [h] at hlt
  exact hlt

/-! ### Digits as characters and as bytes -/

def digitByte (d : Fin 16) : UInt8 := UInt8.ofNat (digit d).toNat

theorem utf8EncodeChar_digit (d : Fin 16) : String.utf8EncodeChar (digit d) = [digitByte d] := by
  revert d
  decide +kernel

theorem digitValue?_digitByte (d : Fin 16) :
    digitValue? (Char.ofNat (digitByte d).toNat).toLower = some d := by
  revert d
  decide +kernel

theorem digitByte_ne_plusSign (d : Fin 16) : digitByte d ≠ plusSign := by
  revert d
  decide +kernel

theorem isDigitByte_iff {b : UInt8} : isDigitByte b = true ↔ ∃ d, digitByte d = b := by
  have hall : ∀ n ∈ List.range 256,
      isDigitByte (UInt8.ofNat n) = true ↔ ∃ d, digitByte d = UInt8.ofNat n := by decide +kernel
  have hb := hall b.toNat (List.mem_range.mpr b.toNat_lt)
  rwa [UInt8.ofNat_toNat] at hb

theorem mem_digits_iff {c : Char} : c ∈ digits ↔ ∃ d, digit d = c := by
  have hdigits : digits = (List.finRange 16).map digit := by decide +kernel
  simp [hdigits]

theorem ofText_ofList_digits (ds : List (Fin 16)) :
    Bytes.ofText (String.ofList (ds.map digit)) = ds.map digitByte := by
  rw [Bytes.ofText_ofList]
  induction ds with
  | nil => rfl
  | cons d r ih =>
    rw [List.map_cons, List.flatMap_cons, utf8EncodeChar_digit, ih]
    rfl

/-- A list of what digits are written as is written in digits. -/
theorem exists_map_eq {β : Type} {f : Fin 16 → β} {l : List β} (h : ∀ b ∈ l, ∃ d, f d = b) :
    ∃ ds : List (Fin 16), ds.map f = l := by
  have hrange : l ∈ Set.range (List.map f) := by
    rw [Set.range_list_map]
    exact h
  exact hrange

/-! ### The form of a handle's text -/

/-- 32 characters, each a lower-case hexadecimal digit. -/
def Spelled (t : String) : Prop := t.length = 32 ∧ ∀ c ∈ t.toList, c ∈ digits

theorem spelled_iff {t : String} :
    Spelled t ↔ ∃ ds : List (Fin 16), ds.length = 32 ∧ String.ofList (ds.map digit) = t := by
  constructor
  · rintro ⟨hlength, hdigits⟩
    obtain ⟨ds, hds⟩ := exists_map_eq fun c hc => mem_digits_iff.mp (hdigits c hc)
    refine ⟨ds, ?_, by rw [hds, String.ofList_toList]⟩
    rw [← hlength, ← String.length_toList, ← hds, List.length_map]
  · rintro ⟨ds, hlength, rfl⟩
    constructor
    · rw [String.length_ofList, List.length_map, hlength]
    · rw [String.toList_ofList, List.forall_mem_map]
      intro d _
      exact mem_digits_iff.mpr ⟨d, rfl⟩

theorem isCanonical_iff {t : String} : isCanonical t = true ↔ Spelled t := by
  rw [spelled_iff, isCanonical, Bool.and_eq_true, beq_iff_eq, List.all_eq_true]
  constructor
  · rintro ⟨hlength, hdigits⟩
    obtain ⟨ds, hds⟩ := exists_map_eq fun b hb => isDigitByte_iff.mp (hdigits b hb)
    refine ⟨ds, by rw [← hlength, ← hds, List.length_map], ?_⟩
    apply Bytes.ofText_inj
    rw [ofText_ofList_digits, hds]
  · rintro ⟨ds, hlength, rfl⟩
    rw [ofText_ofList_digits, List.length_map, List.forall_mem_map]
    exact ⟨hlength, fun d _ => isDigitByte_iff.mpr ⟨d, rfl⟩⟩

/-! ### Reading digits -/

theorem readDigits_append (h : Handle) (a b : Bytes) :
    readDigits h (a ++ b) = (readDigits h a).bind fun h => readDigits h b := by
  induction a generalizing h with
  | nil => rfl
  | cons x a ih =>
    rw [List.cons_append, readDigits, readDigits]
    cases digitValue? (Char.ofNat x.toNat).toLower with
    | none => rfl
    | some d =>
      dsimp only
      split
      · exact ih _
      · rfl

/-- Digits are read as the number that they denote, if it has 128 bits. -/
theorem readDigits_digits {ds : List (Fin 16)} (h : ofDigits ds < Nat.pow 2 128) :
    readDigits zero (ds.reverse.map digitByte) = .ok ⟨ofDigits ds, h⟩ := by
  induction ds with
  | nil => rfl
  | cons d r ih =>
    have hr : ofDigits r < Nat.pow 2 128 := by
      have hcons : d.1 + 16 * ofDigits r < Nat.pow 2 128 := h
      omega
    have hvalue : ofDigits r * 16 + d.1 = ofDigits (d :: r) := by
      rw [ofDigits]
      omega
    rw [List.reverse_cons, List.map_append, readDigits_append, ih hr, Except.bind, List.map_cons,
      List.map_nil, readDigits, digitValue?_digitByte]
    dsimp only
    rw [dif_pos (by rw [hvalue]; exact h), readDigits]
    simp only [hvalue]

theorem ofNumeral_digits {ds : List (Fin 16)} (hne : ds ≠ []) (h : ofDigits ds < Nat.pow 2 128) :
    ofNumeral (ds.reverse.map digitByte) = .ok ⟨ofDigits ds, h⟩ := by
  have hplus : plusSign ∉ ds.reverse.map digitByte := by
    intro hmem
    obtain ⟨d, -, hd⟩ := List.mem_map.mp hmem
    exact digitByte_ne_plusSign d hd
  have hempty : ds.reverse.map digitByte ≠ [] := by simpa using hne
  have hlone : ds.reverse.map digitByte ≠ [plusSign] := by
    intro hsign
    exact hplus (hsign ▸ List.mem_singleton.mpr rfl)
  have hhead : (ds.reverse.map digitByte).head? ≠ some plusSign :=
    fun hsign => hplus (List.mem_of_head? hsign)
  rw [ofNumeral, if_neg hempty, if_neg hlone, if_neg hhead, readDigits_digits h]

/-- **After the form has been checked the numeral is read**, whatever its digits are, and its number is not
too large. -/
theorem ofNumeral_of_spelled {t : String} (ht : Spelled t) :
    ∃ h : Handle, ofNumeral (Bytes.ofText t) = .ok h ∧ h.toText = t := by
  obtain ⟨ds, hlength, rfl⟩ := spelled_iff.mp ht
  have hreverse : ds.reverse.length = 32 := by rw [List.length_reverse, hlength]
  have hne : ds.reverse ≠ [] := by
    intro hnil
    rw [hnil] at hreverse
    cases hreverse
  have hread := ofNumeral_digits hne (ofDigits_lt_of_length hreverse)
  rw [List.reverse_reverse] at hread
  refine ⟨_, by rw [ofText_ofList_digits]; exact hread, ?_⟩
  have hdigits := toDigits_ofDigits ds.reverse
  rw [hreverse] at hdigits
  rw [toText, hdigits, List.reverse_reverse]

/-- By itself a numeral may be signed and in upper case, -/
example : ofNumeral (Bytes.ofText "+FF") = .ok ⟨255, by decide⟩ := by decide +kernel

/-- and of 33 digits its number may be too large. -/
example : ofNumeral (Bytes.ofText "100000000000000000000000000000000") = .error .overflow := by
  decide +kernel

/-! ### Texts and handles -/

theorem spelled_toText (h : Handle) : Spelled h.toText := by
  refine spelled_iff.mpr ⟨(toDigits 32 h.value).reverse, ?_, rfl⟩
  rw [List.length_reverse, length_toDigits]

theorem digitByte_inj {d e : Fin 16} (h : digitByte d = digitByte e) : d = e := by
  have hvalue := digitValue?_digitByte d
  rw [h, digitValue?_digitByte] at hvalue
  exact (Option.some.inj hvalue).symm

theorem toText_inj {h k : Handle} (heq : h.toText = k.toText) : h = k := by
  have hbytes := congrArg Bytes.ofText heq
  rw [toText, toText, ofText_ofList_digits, ofText_ofList_digits,
    List.map_inj_right fun _ _ => digitByte_inj, List.reverse_inj] at hbytes
  have hvalue := congrArg ofDigits hbytes
  rw [ofDigits_toDigits (k := 32) h.value_lt, ofDigits_toDigits (k := 32) k.value_lt] at hvalue
  cases h
  cases k
  cases hvalue
  rfl

/-- **A text is read as the handle whose text it is.** -/
theorem parse?_eq_some_iff {t : String} {h : Handle} : parse? t = some h ↔ t = h.toText := by
  constructor
  · intro hread
    rw [parse?] at hread
    split at hread
    · rename_i hcanonical
      obtain ⟨k, hk, hkt⟩ := ofNumeral_of_spelled (isCanonical_iff.mp hcanonical)
      rw [hk] at hread
      cases hread
      exact hkt.symm
    · cases hread
  · rintro rfl
    obtain ⟨k, hk, hkt⟩ := ofNumeral_of_spelled (spelled_toText h)
    rw [parse?, if_pos (isCanonical_iff.mpr (spelled_toText h)), hk, toText_inj hkt]
    rfl

theorem parse?_eq_none_iff {t : String} : parse? t = none ↔ ¬ Spelled t := by
  constructor
  · intro hnone hspelled
    obtain ⟨h, -, ht⟩ := ofNumeral_of_spelled hspelled
    rw [parse?_eq_some_iff.mpr ht.symm] at hnone
    cases hnone
  · intro hspelled
    rw [parse?, if_neg (fun hcanonical => hspelled (isCanonical_iff.mp hcanonical))]

/-! ### Leading zeros -/

theorem digit_zero : digit 0 = '0' := by decide +kernel

theorem digit_eq_digitChar {n : Nat} (h : n < 16) : digit ⟨n, h⟩ = Nat.digitChar n := by
  have hall : ∀ d : Fin 16, digit d = Nat.digitChar d.1 := by decide +kernel
  exact hall ⟨n, h⟩

theorem toDigits_zero (k : Nat) : toDigits k 0 = List.replicate k 0 := by
  induction k with
  | zero => rfl
  | succ k ih =>
    rw [toDigits, Nat.zero_div, ih]
    rfl

theorem leftpad_concat {α : Type} (k : Nat) (a c : α) (l : List α) :
    (l ++ [c]).leftpad (k + 1) a = l.leftpad k a ++ [c] := by
  have hlength : k + 1 - (l ++ [c]).length = k - l.length := by
    rw [List.length_append, List.length_singleton, Nat.add_sub_add_right]
  rw [List.leftpad, List.leftpad, hlength, List.append_assoc]

/-- As many digits as asked for are the shortest numeral behind zeros. -/
theorem toDigits_eq_leftpad {k n : Nat} (hk : 0 < k) (h : n < Nat.pow 16 k) :
    (toDigits k n).reverse.map digit = (Nat.toDigits 16 n).leftpad k '0' := by
  induction k generalizing n with
  | zero => cases hk
  | succ k ih =>
    have hpow : n < Nat.pow 16 k * 16 := h
    rw [toDigits, List.reverse_cons, List.map_append, List.map_cons, List.map_nil,
      digit_eq_digitChar]
    -- The shortest numeral ends with its highest digit; from there on all digits are zeros.
    by_cases hn : n < 16
    · have hzero : n / 16 = 0 := by omega
      have hone : [Nat.digitChar n] = [] ++ [Nat.digitChar n] := rfl
      rw [Nat.toDigits_of_lt_base hn, Nat.mod_eq_of_lt hn, hzero, toDigits_zero, List.reverse_replicate,
        List.map_replicate, hone, leftpad_concat]
      simp [digit_zero]
    · have hrest : n / 16 < Nat.pow 16 k := by omega
      have hpos : 0 < k := by
        cases k with
        | zero =>
          have hsmall : n < 1 * 16 := hpow
          omega
        | succ k => exact Nat.succ_pos k
      rw [Nat.toDigits_of_base_le (by decide) (by omega), ih hpos hrest, leftpad_concat]

/-- A handle's text is its hexadecimal numeral, filled up with zeros. -/
theorem toText_eq_leftpad (h : Handle) :
    h.toText = String.ofList ((Nat.toDigits 16 h.value).leftpad 32 '0') := by
  rw [toText, toDigits_eq_leftpad (by decide) h.value_lt]

/-! ### Canonical texts -/

theorem handleOf_eq_ok_iff {t : String} {h : Handle} :
    Service.handleOf t = .ok h ↔ t = h.toText := by
  rw [← parse?_eq_some_iff, Service.handleOf]
  cases parse? t with
  | none => exact ⟨nofun, nofun⟩
  | some k => exact ⟨fun hk => congrArg some (Except.ok.inj hk), fun hk => congrArg _ (Option.some.inj hk)⟩

theorem handleOf_eq_error_iff {t : String} {err : Service.Error} :
    Service.handleOf t = .error err ↔ err = .malformedHandle ∧ ¬ Spelled t := by
  rw [← parse?_eq_none_iff, Service.handleOf]
  cases parse? t with
  | none => exact ⟨fun herr => ⟨(Except.error.inj herr).symm, rfl⟩, fun herr => congrArg _ herr.1.symm⟩
  | some k => exact ⟨nofun, nofun⟩

/-- **A handle has one text, and every other text is malformed.**  The text has 32 lower-case digits, zeros in
front included.  Once a text is found to have this form, nothing can go wrong in reading its number. -/
theorem text_is_canonical :
    (∀ (t : String) (h : Handle), Service.handleOf t = .ok h ↔ t = h.toText) ∧
    (∀ (t : String) (err : Service.Error),
      Service.handleOf t = .error err ↔ err = .malformedHandle ∧ ¬ Spelled t) ∧
    (∀ h : Handle, Spelled h.toText ∧
      h.toText = String.ofList ((Nat.toDigits 16 h.value).leftpad 32 '0')) ∧
    ∀ t : String, isCanonical t = true → ∃ h, ofNumeral (Bytes.ofText t) = .ok h ∧ h.toText = t := by
  refine ⟨fun _ _ => handleOf_eq_ok_iff, fun _ _ => handleOf_eq_error_iff, ?_, ?_⟩
  · intro h
    exact ⟨spelled_toText h, toText_eq_leftpad h⟩
  · intro t hcanonical
    exact ofNumeral_of_spelled (isCanonical_iff.mp hcanonical)

end Pairing.Handle
