/-!
Powers of two and of ten, the scales of doubles and of decimals.
-/
namespace TagListing.Numeric

def twoTo (n : Nat) : Nat := Nat.pow 2 n

def tenTo (n : Nat) : Nat := Nat.pow 10 n

end TagListing.Numeric
