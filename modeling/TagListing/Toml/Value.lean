import TagListing.Numeric.Decimal
/-!
TOML values. A date or a time is kept as its normal text. A table is open while dotted keys may
still add to it; once it is written as a whole it is closed.
-/
namespace TagListing.Toml
open TagListing.Numeric (Binary64)

inductive Value where
  | text (s : String)
  | int (i : Int)
  | float (x : Binary64)
  | bool (b : Bool)
  | moment (s : String)
  | list (items : List Value)
  | table (isOpen : Bool) (entries : List (String × Value))
  deriving Repr

abbrev Entries := List (String × Value)

def hasEntry (key : String) (es : Entries) : Bool := es.any (·.1 == key)

/- Adds an entry under a dotted key. Tables on the way must be open; of entries with one name the
first is the one that a longer key goes through. -/
def addEntry : List String → Value → Entries → Option Entries
  | [], _, _ => none
  | [key], v, es => some (es ++ [(key, v)])
  | key :: rest, v, es => descend key (addEntry rest v) es
where
  descend (key : String) (change : Entries → Option Entries) : Entries → Option Entries
    | [] => (change []).map fun inner => [(key, .table true inner)]
    | (other, v) :: more =>
      if other = key then
        match v with
        | .table true inner => (change inner).map fun inner => (other, .table true inner) :: more
        | _ => none
      else (descend key change more).map ((other, v) :: ·)

end TagListing.Toml
