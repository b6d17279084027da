import Pairing.Error

/-!
# Messages as text

Byte strings travel as text of the URL-safe alphabet, six bits a character. There is no padding, and the
bits that the last character has to spare are zero, so that each byte string has exactly one text.
-/

namespace Pairing.Transport

def alphabet : List Char :=
  "ABCDEFGHIJKLMNOPQRSTUVWXYZabcdefghijklmnopqrstuvwxyz0123456789-_".toList

def digit (n : Nat) : Char := alphabet.getD n 'A'

def digitValue? (c : Char) : Option Nat := alphabet.idxOf? c

def encodeDigits : Bytes → List Nat
  | a :: b :: c :: r =>
    a.toNat / 4 :: (a.toNat % 4 * 16 + b.toNat / 16) :: (b.toNat % 16 * 4 + c.toNat / 64) ::
      c.toNat % 64 :: encodeDigits r
  | [a, b] => [a.toNat / 4, a.toNat % 4 * 16 + b.toNat / 16, b.toNat % 16 * 4]
  | [a] => [a.toNat / 4, a.toNat % 4 * 16]
  | [] => []

def decodeDigits? : List Nat → Option Bytes
  | w :: x :: y :: z :: r => do
    let rest ← decodeDigits? r
    pure (UInt8.ofNat (w * 4 + x / 16) :: UInt8.ofNat (x % 16 * 16 + y / 4) ::
      UInt8.ofNat (y % 4 * 64 + z) :: rest)
  | [w, x, y] =>
    if y % 4 = 0 then some [UInt8.ofNat (w * 4 + x / 16), UInt8.ofNat (x % 16 * 16 + y / 4)]
    else none
  | [w, x] => if x % 16 = 0 then some [UInt8.ofNat (w * 4 + x / 16)] else none
  | [_] => none
  | [] => some []

def encode (b : Bytes) : String := String.ofList ((encodeDigits b).map digit)

def decode (t : String) : Except Error Bytes :=
  match t.toList.mapM digitValue? >>= decodeDigits? with
  | some b => .ok b
  | none => .error .transportText

end Pairing.Transport
