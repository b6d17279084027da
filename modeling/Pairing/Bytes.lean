/-!
# Byte strings

Numerals of fixed width in both byte orders, fields behind their length, and the UTF-8 form of text.
A numeral of `k` bytes has exactly `k` bytes (`length_littleEndian`), a byte string of length `k`
denotes a number below the `k`-th power of 256 (`ofLittleEndian_lt`), and reading undoes writing.
-/

namespace Pairing

abbrev Bytes := List UInt8

/-- Byte strings of exactly `n` bytes. -/
abbrev Block (n : Nat) := {b : Bytes // b.length = n}

/-- `k` consecutive stretches of `n` entries each, as far as the list lasts. -/
def split {α : Type} (n : Nat) : Nat → List α → List (List α)
  | 0, _ => []
  | k + 1, l => l.take n :: split n k (l.drop n)

/-- Consecutive stretches of `n` entries, of which only the last may be shorter. -/
def chunks {α : Type} (n : Nat) (l : List α) : List (List α) := split n ((l.length + n - 1) / n) l

namespace Bytes

/-- The `k` lowest base-256 digits of a number, lowest first. -/
def littleEndian : Nat → Nat → Bytes
  | 0, _ => []
  | k + 1, n => UInt8.ofNat n :: littleEndian k (n / 256)

/-- The `k` lowest base-256 digits of a number, highest first. -/
def bigEndian (k n : Nat) : Bytes := (littleEndian k n).reverse

def ofLittleEndian : Bytes → Nat
  | [] => 0
  | b :: r => b.toNat + 256 * ofLittleEndian r

def ofBigEndian (b : Bytes) : Nat := ofLittleEndian b.reverse

/-- A field behind the `k`-byte big-endian numeral of its length. -/
def lengthPrefixed (k : Nat) (b : Bytes) : Bytes := bigEndian k b.length ++ b

def xor (a b : Bytes) : Bytes := List.zipWith (· ^^^ ·) a b

/-- The UTF-8 form of a text. -/
def ofText (t : String) : Bytes := t.toByteArray.data.toList

/-- The text whose UTF-8 form this is. -/
def toText? (b : Bytes) : Option String := String.fromUTF8? ⟨b.toArray⟩

@[simp] theorem length_littleEndian (k n : Nat) : (littleEndian k n).length = k := by
  induction k generalizing n with
  | zero => rfl
  | succ k ih => simp [littleEndian, ih]

@[simp] theorem length_bigEndian (k n : Nat) : (bigEndian k n).length = k := by
  simp [bigEndian]

@[simp] theorem length_lengthPrefixed (k : Nat) (b : Bytes) :
    (lengthPrefixed k b).length = k + b.length := by
  simp [lengthPrefixed]

theorem ofLittleEndian_lt (b : Bytes) : ofLittleEndian b < Nat.pow 256 b.length := by
  induction b with
  | nil => simp [ofLittleEndian]
  | cons a r ih =>
    have ha : a.toNat < 256 := a.toNat_lt
    show a.toNat + 256 * ofLittleEndian r < Nat.pow 256 r.length * 256
    omega

theorem ofBigEndian_lt (b : Bytes) : ofBigEndian b < Nat.pow 256 b.length := by
  simpa [ofBigEndian] using ofLittleEndian_lt b.reverse

theorem ofLittleEndian_littleEndian {k n : Nat} (h : n < Nat.pow 256 k) :
    ofLittleEndian (littleEndian k n) = n := by
  induction k generalizing n with
  | zero =>
    have hn : n = 0 := by simpa using h
    rw [hn]
    rfl
  | succ k ih =>
    have hk : n < Nat.pow 256 k * 256 := h
    have hd : n / 256 < Nat.pow 256 k := by omega
    simp only [littleEndian, ofLittleEndian, ih hd, UInt8.toNat_ofNat']
    omega

@[simp] theorem toText?_ofText (t : String) : toText? (ofText t) = some t := by
  have h : String.fromUTF8? t.toByteArray = some t := by
    unfold String.fromUTF8?
    split
    · simp [String.fromUTF8]
    · exact absurd t.isValidUTF8 (by simp_all)
  simpa [toText?, ofText] using h

theorem eq_ofText_of_toText? {b : Bytes} {t : String} (h : toText? b = some t) : b = ofText t := by
  unfold toText? String.fromUTF8? at h
  split at h
  · cases h
    simp [ofText, String.fromUTF8]
  · cases h

end Bytes

end Pairing
