import TagListing.Toml.Value
import TagListing.Text.Hex
/-!
Numbers of TOML. A run of digits may have single underscores between its digits and no superfluous
zero in front. Whole numbers fit 64 bits; a fraction is finite.
-/
namespace TagListing.Toml
open TagListing.Numeric
open TagListing.Text (hexValue?)

def isRadixDigit (radix : Nat) (c : Char) : Bool :=
  (hexValue? c).any (· < radix)

structure RunState where
  first : Bool
  zeroFirst : Bool
  underscore : Bool

def digitRun (radix : Nat) (leadingZeros : Bool) (st : RunState) :
    List Char → Option (List Char × List Char)
  | [] => if st.first || st.underscore then none else some ([], [])
  | c :: rest =>
    if c = '0' && st.first then
      more c rest (digitRun radix leadingZeros { st with first := false, zeroFirst := true } rest)
    else if isRadixDigit radix c then
      if !st.first && st.zeroFirst && !leadingZeros then none
      else
        more c rest
          (digitRun radix leadingZeros { st with first := false, underscore := false } rest)
    else if c = '_' && st.first then none
    else if c = '_' && !st.underscore then
      more c rest (digitRun radix leadingZeros { st with underscore := true } rest)
    else if st.first || st.underscore then none
    else some ([], c :: rest)
where
  more (c : Char) (_ : List Char) (r : Option (List Char × List Char)) :
      Option (List Char × List Char) :=
    r.map fun p => (c :: p.1, p.2)

def integerRun (radix : Nat) (sign leadingZeros : Bool) (s : List Char) :
    Option (Bool × List Char × List Char) :=
  let (negative, body) := match s with
    | '-' :: r => if sign then (true, r) else (false, s)
    | '+' :: r => if sign then (false, r) else (false, s)
    | _ => (false, s)
  (digitRun radix leadingZeros ⟨true, false, false⟩ body).map fun p =>
    (negative, p.1.filter (· ≠ '_'), p.2)

def readInteger (radix : Nat) (s : List Char) : Option Value := do
  let (negative, digits, rest) ← integerRun radix (radix == 10) (radix != 10) s
  let n : Int := digits.foldl (fun n c => radix * n + (hexValue? c).getD 0) 0
  let i := if negative then -n else n
  if rest = [] ∧ fitsInt64 i then some (.int i) else none

def finiteFloat (negative : Bool) (whole places : List Char) (power : Int) : Option Value :=
  let d : Decimal := ⟨negative, readDigits 0 (whole ++ places), power - places.length⟩
  if d.toBinary64.isFinite then some (.float d.toBinary64) else none

def readPower (sign : Bool) (s : List Char) : Option Int := do
  let (negative, digits, rest) ← integerRun 10 sign true s
  let n : Int := readDigits 0 digits
  if rest = [] then some (if negative then -n else n) else none

end TagListing.Toml
