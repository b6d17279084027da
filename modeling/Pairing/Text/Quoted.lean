import Pairing.Text.Hidden

/-!
# Quoted text

A text between double quotes on one line: quotes, backslashes and line breaks are written with a
backslash, and characters that would not be seen are written as their number.
-/

namespace Pairing.Text

def isShown (c : Char) : Bool :=
  if c.toNat < 128 then 32 ≤ c.toNat ∧ c.toNat < 127 else !isHidden c

def quotedChar (c : Char) : List Char :=
  if c = '\x00' then ['\\', '0']
  else if c = '\t' then ['\\', 't']
  else if c = '\r' then ['\\', 'r']
  else if c = '\n' then ['\\', 'n']
  else if c = '\\' ∨ c = '"' then ['\\', c]
  else if isShown c then [c]
  else ['\\', 'u', '\x7b'] ++ Nat.toDigits 16 c.toNat ++ ['\x7d']

def quoted (t : String) : String :=
  String.ofList ('"' :: t.toList.flatMap quotedChar ++ ['"'])

end Pairing.Text
