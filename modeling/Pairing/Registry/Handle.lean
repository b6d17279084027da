import Pairing.Bytes

/-!
# Session handles

A handle is a number of 128 bits. Its text is exactly 32 lower-case hexadecimal digits.
-/

namespace Pairing

structure Handle where
  value : Nat
  value_lt : value < Nat.pow 2 128
  deriving DecidableEq

namespace Handle

/-- The handle that 16 bytes denote, highest byte first. -/
def ofBlock (b : Block 16) : Handle where
  value := Bytes.ofBigEndian b.1
  value_lt := by
    have h := Bytes.ofBigEndian_lt b.1
    rw [b.2] at h
    exact h

def digits : List Char := "0123456789abcdef".toList

def digit (d : Fin 16) : Char := digits.getD d.1 '0'

def digitValue? (c : Char) : Option (Fin 16) := (List.finRange 16).find? fun d => digit d == c

/-- The `k` lowest hexadecimal digits of a number, lowest first. -/
def toDigits : Nat → Nat → List (Fin 16)
  | 0, _ => []
  | k + 1, n => ⟨n % 16, Nat.mod_lt _ (by decide)⟩ :: toDigits k (n / 16)

def toText (h : Handle) : String := String.ofList ((toDigits 32 h.value).reverse.map digit)

/-! ### Reading -/

/-- What can be wrong with a numeral. -/
inductive NumeralError
  | empty
  | invalidDigit
  | overflow
  deriving DecidableEq

def zero : Handle := ⟨0, by decide⟩

/-- Reads digits, in upper or lower case, behind those that `h` stands for. -/
def readDigits (h : Handle) : Bytes → Except NumeralError Handle
  | [] => .ok h
  | b :: r =>
    match digitValue? (Char.ofNat b.toNat).toLower with
    | none => .error .invalidDigit
    | some d =>
      if hlt : h.value * 16 + d.1 < Nat.pow 2 128 then readDigits ⟨h.value * 16 + d.1, hlt⟩ r
      else .error .overflow

def plusSign : UInt8 := 0x2b

/-- The handle that a hexadecimal numeral denotes. A plus sign may stand in front of the digits. -/
def ofNumeral (b : Bytes) : Except NumeralError Handle :=
  if b = [] then .error .empty
  else if b = [plusSign] then .error .invalidDigit
  else readDigits zero (if b.head? = some plusSign then b.tail else b)

def isDigitByte (b : UInt8) : Bool := (0x30 ≤ b && b ≤ 0x39) || (0x61 ≤ b && b ≤ 0x66)

/-- Whether a text has the form of a handle's: 32 bytes that are lower-case digits. -/
def isCanonical (t : String) : Bool :=
  (Bytes.ofText t).length == 32 && (Bytes.ofText t).all isDigitByte

/-- The form is checked first: the numeral alone could be of another length, in upper case, or signed. -/
def parse? (t : String) : Option Handle :=
  if isCanonical t then (ofNumeral (Bytes.ofText t)).toOption else none

end Handle

end Pairing
