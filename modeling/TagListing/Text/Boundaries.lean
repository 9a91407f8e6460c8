/-!
Sets of characters as ascending boundaries: the code points at which membership changes, the first
one being the smallest member. Tables of character properties are written this way.
-/
namespace TagListing.Text

/- A code point belongs to the set iff the number of boundaries up to it is odd. -/
def within (boundaries : List Nat) (c : Char) : Bool :=
  go false boundaries
where
  go (inside : Bool) : List Nat → Bool
    | [] => inside
    | b :: rest => if c.toNat < b then inside else go (!inside) rest

end TagListing.Text
