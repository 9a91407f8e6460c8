import TagListing.Numeric.Decimal
/-!
JSON values as data exchange sees them. Whole numbers keep their sign and their 64 bits; every
other number is a double. Members of an object stay in the order of the text, repeated names too.
-/
namespace TagListing.Json
open TagListing.Numeric (Binary64)

inductive Number where
  /- Below `2 ^ 64`. -/
  | natural (n : Nat)
  /- The number `-n`, with `1 ≤ n ≤ 2 ^ 63`. -/
  | negative (n : Nat)
  | real (x : Binary64)
  deriving DecidableEq, Repr

inductive Value where
  | null
  | bool (b : Bool)
  | number (n : Number)
  | text (s : String)
  | list (items : List Value)
  | object (members : List (String × Value))
  deriving Repr

inductive Fault where
  | truncated
  | malformed
  | mismatch
  deriving DecidableEq, Repr

end TagListing.Json
