/-!
Hexadecimal digits of either case.
-/
namespace TagListing.Text

def hexValue? (c : Char) : Option Nat :=
  if c.isDigit then some (c.toNat - '0'.toNat)
  else if 'a' ≤ c ∧ c ≤ 'f' then some (c.toNat - 'a'.toNat + 10)
  else if 'A' ≤ c ∧ c ≤ 'F' then some (c.toNat - 'A'.toNat + 10)
  else none

def hexDigit (n : Nat) : Char := Nat.digitChar (n % 16)

def hexDigits (n : Nat) : List Char := Nat.toDigits 16 n

end TagListing.Text
